import ForeignLayer.Calendar.Clock
import ForeignLayer.Calendar.Zone
import ForeignLayer.Text.Blank

/-!
# Instants

Points in time as seconds and nanoseconds since the first of January 1970, and what people write
for them: a date, a time of day and, optionally, a time zone. A date and a time that the clocks of a
zone skip, or show twice, are no instant there.
-/

namespace ForeignLayer.Calendar

open Number

/-- The text of an offset, to the nearest minute; universal time has a letter. -/
def offsetText (offset : Int) : String :=
  if offset = 0 then "Z"
  else
    let minutes := (offset.natAbs + 30) / 60
    (if offset < 0 then "-" else "+") ++ paddedText 2 (minutes / 60) ++ ":" ++
      paddedText 2 (minutes % 60)

/-! ## Dates with times -/

/-- A date with a time of day. -/
structure DateTime where
  date : Date
  clock : Clock
deriving DecidableEq, Repr

namespace DateTime

/-- Seconds since the first of January 1970. -/
def seconds (d : DateTime) : Int := d.date.toDays * secondsPerDay + d.clock.second

/-- The date and time at a number of seconds and nanoseconds, in any year. -/
def ofSeconds (seconds : Int) (nano : Nat) : DateTime :=
  ⟨Date.ofDays (seconds.fdiv secondsPerDay), ⟨(seconds.fmod secondsPerDay).toNat, nano⟩⟩

/-- Whether the year of a date is in range. -/
def isInRange (d : DateTime) : Bool := minYear ≤ d.date.year && d.date.year ≤ maxYear

/-- A date and time whose year is in range. -/
def checked? (d : DateTime) : Option DateTime := if d.isInRange then some d else none

/-- The date and time at a number of seconds and nanoseconds, if its year is in range. -/
def ofSeconds? (seconds : Int) (nano : Nat) : Option DateTime := (ofSeconds seconds nano).checked?

/-- The text of a date with a time. -/
def text (d : DateTime) : String := d.date.text ++ "T" ++ d.clock.text

/-- The same date and time, moved by a number of seconds. -/
def shift (d : DateTime) (seconds : Int) : DateTime := ofSeconds (d.seconds + seconds) d.clock.nano

end DateTime

namespace Zone

/-- What the clocks of a zone show at a date and time in universal time. -/
def shown (zone : Zone) (d : DateTime) : DateTime := d.shift (zone.offsetAt d.seconds)

/-- The text of a universal date and time: what the clocks of a zone show, and the offset. -/
def text (zone : Zone) (d : DateTime) : String :=
  (zone.shown d).text ++ offsetText (zone.offsetAt d.seconds)

/-- The date and time in universal time at which the clocks of a zone show another one. -/
def instantOf? (zone : Zone) (local_ : DateTime) : Option DateTime := do
  (local_.shift (-(← zone.offsetShowing? local_.seconds))).checked?

end Zone

/-! ## Reading -/

/-- The value of digits, if there are no other characters. -/
def allDigits? (cs : List Char) : Option Nat :=
  if cs.all Char.isDigit then some (digitsValue cs) else none

/-- Reads a date of ten characters, with hyphens between four digits, two and two. -/
def readFullDate? (text : List Char) : Option Date :=
  match text with
  | [y1, y2, y3, y4, '-', m1, m2, '-', d1, d2] => do
    Date.of? (← allDigits? [y1, y2, y3, y4]) (← allDigits? [m1, m2]) (← allDigits? [d1, d2])
  | _ => none

/-- Reads the time of an instant, and what follows it: with colons and an optional fraction, or six
digits that no further digits follow. -/
def readInstantTime? (text : List Char) : Option (Clock × List Char) :=
  match text with
  | h1 :: h2 :: ':' :: m1 :: m2 :: ':' :: s1 :: s2 :: rest => do
    let hour ← allDigits? [h1, h2]
    let minute ← allDigits? [m1, m2]
    let second ← allDigits? [s1, s2]
    match rest with
    | '.' :: rest =>
      let (ds, rest) := spanDigits rest
      if ds.isEmpty then none
      return (← Clock.of? hour minute second (Clock.fractionNanos ds), rest)
    | _ => return (← Clock.of? hour minute second 0, rest)
  | h1 :: h2 :: m1 :: m2 :: s1 :: s2 :: rest => do
    let hour ← allDigits? [h1, h2]
    let minute ← allDigits? [m1, m2]
    let second ← allDigits? [s1, s2]
    if (rest.take 2).any Char.isDigit then none
    return (← Clock.of? hour minute second 0, rest)
  | _ => none

/-- Whether a character may stand between a date and a time. -/
def isInstantSeparator (c : Char) : Bool := c == 'T' || c == 't' || c == ' '

/-- Reads an instant as a date and time in universal time. A text without a zone is what the clocks
of a given one show. -/
def readInstant? (zone : Zone) (text : List Char) : Option DateTime := do
  let date ← readFullDate? (text.take 10)
  match text.drop 10 with
  | [] => zone.instantOf? ⟨date, ⟨0, 0⟩⟩
  | separator :: rest =>
    if !isInstantSeparator separator then none
    let (clock, rest) ← readInstantTime? rest
    match rest with
    | [] => zone.instantOf? ⟨date, clock⟩
    | ['z'] | ['Z'] => some ⟨date, clock⟩
    | rest => (← Zone.read? (Text.trimStart rest)).instantOf? ⟨date, clock⟩

/-- Reads a date with a signed year of four digits or more. -/
def readSignedDate? (text : List Char) : Option Date :=
  match text with
  | sign :: rest => do
    let year := rest.takeWhile (· ≠ '-')
    match rest.dropWhile (· ≠ '-') with
    | '-' :: rest =>
      if year.length < 4 then none
      let year ← (readInt32 (sign :: year)).toOption
      let month := rest.takeWhile (· ≠ '-')
      match rest.dropWhile (· ≠ '-') with
      | '-' :: day =>
        let month ← (readInteger 0 4294967295 month).toOption
        let day ← (readInteger 0 4294967295 day).toOption
        Date.of? year month.toNat day.toNat
      | _ => none
    | _ => none
  | [] => none

/-- Reads a date of at most ten characters. Month and day may have one digit; after a day of one
digit, a last character that is no digit is not looked at. -/
def readShortDate? (text : List Char) : Option Date :=
  match text with
  | [y1, y2, y3, y4, m1, m2, d1, d2] =>
    if m1 = '-' then short [y1, y2, y3, y4] [m2, d1, d2]
    else do Date.of? (← allDigits? [y1, y2, y3, y4]) (← allDigits? [m1, m2]) (← allDigits? [d1, d2])
  | y1 :: y2 :: y3 :: y4 :: '-' :: rest => short [y1, y2, y3, y4] rest
  | _ => none
where
  /-- The month and the day after a year and its hyphen. -/
  short (year rest : List Char) : Option Date := do
    let year ← allDigits? year
    let (month, rest) ← match rest with
      | a :: '-' :: rest => do pure (← allDigits? [a], rest)
      | a :: b :: '-' :: rest => do pure (← allDigits? [a, b], rest)
      | _ => none
    let ds := rest.takeWhile Char.isDigit
    if ds.isEmpty || 2 < ds.length || (rest.drop (ds.length + 1)).any Char.isDigit then none
    Date.of? year month (digitsValue ds)

/-- The number of bytes of a text. -/
def byteLength (text : List Char) : Nat := text.foldl (fun n c ↦ n + c.utf8Size) 0

/-- Reads a date in any of its forms; a text of more than ten bytes is read as an instant. -/
def readDate? (text : List Char) : Option Date :=
  if text.head? = some '+' ∨ text.head? = some '-' then readSignedDate? text
  else if 10 < byteLength text then (readInstant? .universal text).map DateTime.date
  else readShortDate? text

end ForeignLayer.Calendar
