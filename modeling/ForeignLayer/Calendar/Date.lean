import ForeignLayer.Number.Text

/-!
# Dates

Days of the proleptic Gregorian calendar, counted from the first of January 1970. Years are
grouped into eras of 400, after which the calendar repeats, and start in March, so that the leap
day is the last day of a year and the lengths of the months follow one linear rule.
-/

namespace ForeignLayer.Calendar

open Number

/-- A date of the calendar. -/
structure Date where
  year : Int
  month : Nat
  day : Nat
deriving DecidableEq, Repr

/-- Whether a year has a leap day. -/
def isLeapYear (year : Int) : Bool := year % 4 == 0 && (year % 100 != 0 || year % 400 == 0)

/-- The number of days of a month. -/
def daysInMonth (year : Int) (month : Nat) : Nat :=
  match month with
  | 2 => if isLeapYear year then 29 else 28
  | 4 | 6 | 9 | 11 => 30
  | _ => 31

/-- The first year that dates can have. -/
def minYear : Int := -262143

/-- The last year that dates can have. -/
def maxYear : Int := 262142

namespace Date

/-- The date with the given parts, if there is one. -/
def of? (year : Int) (month day : Nat) : Option Date :=
  if minYear ≤ year ∧ year ≤ maxYear ∧ 1 ≤ month ∧ month ≤ 12 ∧ 1 ≤ day ∧
      day ≤ daysInMonth year month then
    some ⟨year, month, day⟩
  else none

/-- The number of a date, counted from the first of January 1970. -/
def toDays (d : Date) : Int :=
  let y := if d.month ≤ 2 then d.year - 1 else d.year
  let era := y.fdiv 400
  let yearOfEra := y - era * 400
  let monthFromMarch : Nat := (d.month + 9) % 12
  let dayOfYear : Int := ((153 * monthFromMarch + 2) / 5 + d.day - 1 : Nat)
  let dayOfEra := yearOfEra * 365 + yearOfEra / 4 - yearOfEra / 100 + dayOfYear
  era * 146097 + dayOfEra - 719468

/-- The date with a number, in any year. -/
def ofDays (n : Int) : Date :=
  let z := n + 719468
  let era := z.fdiv 146097
  let dayOfEra := z - era * 146097
  let yearOfEra :=
    (dayOfEra - dayOfEra / 1460 + dayOfEra / 36524 - dayOfEra / 146096) / 365
  let dayOfYear := dayOfEra - (365 * yearOfEra + yearOfEra / 4 - yearOfEra / 100)
  let monthFromMarch := (5 * dayOfYear + 2) / 153
  let day := dayOfYear - (153 * monthFromMarch + 2) / 5 + 1
  let month := if monthFromMarch < 10 then monthFromMarch + 3 else monthFromMarch - 9
  let year := yearOfEra + era * 400 + (if month ≤ 2 then 1 else 0)
  ⟨year, month.toNat, day.toNat⟩

/-- The date with a number, if its year is in range. -/
def ofDays? (n : Int) : Option Date :=
  let d := ofDays n
  if minYear ≤ d.year ∧ d.year ≤ maxYear then some d else none

/-- A year in four digits, with a sign before and after the years of four digits. -/
def yearText (year : Int) : String :=
  if 0 ≤ year ∧ year ≤ 9999 then paddedText 4 year.toNat
  else (if year < 0 then "-" else "+") ++ paddedText 4 year.natAbs

/-- The text of a date: year, month and day with hyphens between them. -/
def text (d : Date) : String :=
  yearText d.year ++ "-" ++ paddedText 2 d.month ++ "-" ++ paddedText 2 d.day

end Date

end ForeignLayer.Calendar
