import ForeignLayer.Number.Reading
import ForeignLayer.Number.Text

/-!
# Times of day

A time of day is a second of the day and nanoseconds. A leap second is written as the sixtieth
second of a minute and held as more than a second of nanoseconds on the one before it.
-/

namespace ForeignLayer.Calendar

open Number

/-- Nanoseconds in a second. -/
def nanosPerSecond : Nat := 1000000000

/-- Seconds in a day. -/
def secondsPerDay : Nat := 86400

/-- A time of day. -/
structure Clock where
  /-- The second of the day. -/
  second : Nat
  /-- Nanoseconds beyond it, up to two seconds of them. -/
  nano : Nat
deriving DecidableEq, Repr

namespace Clock

/-- The time of day with the given parts, if there is one. The sixtieth second of a minute is a
leap second. -/
def of? (hour minute second nano : Nat) : Option Clock :=
  if hour < 24 ∧ minute < 60 ∧ second < 60 then some ⟨hour * 3600 + minute * 60 + second, nano⟩
  else if hour < 24 ∧ minute < 60 ∧ second = 60 then
    some ⟨hour * 3600 + minute * 60 + 59, nano + nanosPerSecond⟩
  else none

/-- Nanoseconds since midnight. -/
def toNanos (c : Clock) : Nat := c.second * nanosPerSecond + c.nano

/-- A fraction of a second in three, six or nine digits, as many as it needs. -/
def fractionText (nano : Nat) : String :=
  if nano = 0 then ""
  else if nano % 1000000 = 0 then "." ++ paddedText 3 (nano / 1000000)
  else if nano % 1000 = 0 then "." ++ paddedText 6 (nano / 1000)
  else "." ++ paddedText 9 nano

/-- The text of a time of day. -/
def text (c : Clock) : String :=
  let leap := c.nano / nanosPerSecond
  let s := c.second % 60 + leap
  paddedText 2 (c.second / 3600) ++ ":" ++ paddedText 2 (c.second / 60 % 60) ++ ":" ++
    paddedText 2 s ++ fractionText (c.nano % nanosPerSecond)

/-! ## Reading -/

/-- The nanoseconds of a fraction of a second; digits after the ninth are dropped. -/
def fractionNanos (ds : List Char) : Nat :=
  digitsValue ((ds ++ List.replicate 9 '0').take 9)

/-- Splits a mark for the half of the day off the end of a time. -/
def splitHalf (text : List Char) : Option Bool × List Char :=
  let (body, mark) := (text.take (text.length - 3), text.drop (text.length - 3))
  let folded := mark.map Char.toLower
  if folded = [' ', 'a', 'm'] then (some true, body)
  else if folded = [' ', 'p', 'm'] then (some false, body)
  else (none, text)

/-- The hour of the day of an hour in a half of the day; twelve is the first hour of a half. -/
def hourOfHalf? (half : Option Bool) (hour : Nat) : Option Nat :=
  match half with
  | none => some hour
  | some morning =>
    if 1 ≤ hour ∧ hour ≤ 12 then some (hour % 12 + (if morning then 0 else 12)) else none

/-- The seconds and nanoseconds that follow the minutes of a time. -/
def readSeconds? : List Char → Option (Nat × Nat)
  | [] => some (0, 0)
  | ':' :: a :: b :: rest => do
    let second := (← digitValue? a) * 10 + (← digitValue? b)
    match rest with
    | [] => some (second, 0)
    | '.' :: ds =>
      if ds.isEmpty || !ds.all Char.isDigit then none else some (second, fractionNanos ds)
    | _ => none
  | _ => none

/-- Reads a time of day: hours in one digit or two, minutes, and seconds with an optional fraction
if they are given, with or without a mark for the half of the day. -/
def read? (text : List Char) : Option Clock := do
  if text.length < 4 then none
  let (half, body) := splitHalf text
  if body.length < 4 then none
  let (hour, rest) ← match body with
    | a :: ':' :: rest => do pure (← digitValue? a, rest)
    | a :: b :: ':' :: rest => do pure ((← digitValue? a) * 10 + (← digitValue? b), rest)
    | _ => none
  match rest with
  | a :: b :: rest =>
    let minute := (← digitValue? a) * 10 + (← digitValue? b)
    let (second, nano) ← readSeconds? rest
    of? (← hourOfHalf? half hour) minute second nano
  | _ => none

end Clock

end ForeignLayer.Calendar
