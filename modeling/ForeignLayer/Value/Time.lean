import ForeignLayer.Calendar.Instant
import ForeignLayer.Value.Number

/-!
# Conversions of dates and times

Dates are days, or milliseconds in the older type; times of day and timestamps are counts of their
unit. Bringing a count to a coarser unit drops what is left over toward zero. A timestamp without a
zone that is given one is taken as local time there, so that its date and time stay the same; a time
that the clocks there skip or show twice is refused.
-/

namespace ForeignLayer.Convert

open Number Calendar

/-- Milliseconds in a day. -/
def millisPerDay : Int := 86400000

/-- The word of 64 bits of an integer that fits. -/
def toInt64 (n : Int) : Result (BitVec 64) := toWord true .w64 n

/-- A count brought from one unit to another, without regard to its range. -/
def rescaleTime (source target : TimeUnit) (n : Int) : Int :=
  if source.perSecond ≤ target.perSecond then n * (target.perSecond / source.perSecond : Nat)
  else n.tdiv (source.perSecond / target.perSecond : Nat)

/-- A count brought from one unit to another, which has to fit 64 bits. -/
def rescaleStamp (source target : TimeUnit) (n : Int) : Result (BitVec 64) :=
  toInt64 (rescaleTime source target n)

/-- The seconds and nanoseconds of a count. -/
def splitUnit (unit : TimeUnit) (n : Int) : Int × Nat :=
  (n.fdiv unit.perSecond,
    (n.fmod unit.perSecond).toNat * (nanosPerSecond / unit.perSecond))

/-- The date and time of a timestamp in universal time. -/
def stampDateTime? (unit : TimeUnit) (n : Int) : Option DateTime :=
  let (seconds, nano) := splitUnit unit n
  DateTime.ofSeconds? seconds nano

/-- The timestamp of a date and time in universal time. Its seconds have to fit before a fraction is
added. Whole seconds do not count a leap second. -/
def stampOf (unit : TimeUnit) (d : DateTime) : Result (BitVec 64) := do
  let whole ← toInt64 (d.seconds * unit.perSecond)
  if unit = .second then return whole
  toInt64 (whole.toInt + d.clock.nano / (nanosPerSecond / unit.perSecond))

/-- The time of day of a count of a unit. Seconds are taken in 32 bits. -/
def clockOf? (unit : TimeUnit) (n : Int) : Option Clock :=
  let second := (n.tdiv unit.perSecond % 4294967296).toNat
  let part := n.tmod unit.perSecond
  if 0 ≤ part ∧ second < secondsPerDay then
    some ⟨second, part.toNat * (nanosPerSecond / unit.perSecond)⟩
  else none

/-- What the clocks of an optional zone show; universal time without one. -/
def shownIn (zone : Option Zone) (d : DateTime) : DateTime :=
  match zone with
  | none => d
  | some z => z.shown d

/-- The date that the clocks of an optional zone show. -/
def dateIn (zone : Option Zone) (d : DateTime) : Result Date :=
  match (shownIn zone d).checked? with
  | some d => .ok d.date
  | none => .error .broken

/-- The timestamp at which the clocks of a zone show what a timestamp without a zone says. -/
def intoZone (unit : TimeUnit) (zone : Zone) (n : Int) : Result (BitVec 64) := do
  let d ← inRange (stampDateTime? unit n)
  let offset ← inRange (zone.offsetShowing? d.seconds)
  match (d.shift (-offset)).checked? with
  | some d => stampOf unit d
  | none => .error .broken

/-- The optional zone of a type, unless it has a name that no zone has. -/
def zone? : Option String → Option (Option Zone)
  | none => some none
  | some name => (Zone.read? name.toList).map some

/-! ## Reading -/

/-- Reads a date as its day. -/
def readDate32 (text : List Char) : Result (BitVec 32) := do
  return BitVec.ofInt 32 (← readable (readDate? text)).toDays

/-- Reads a date as milliseconds; a longer text may have a time of day. -/
def readDate64 (text : List Char) : Result (BitVec 64) :=
  if byteLength text ≤ 10 then do
    return BitVec.ofInt 64 ((← readable (readDate? text)).toDays * millisPerDay)
  else do stampOf .millisecond (← readable (readInstant? .universal text))

/-- Reads a time of day as a count of a unit, or else the count itself. -/
def readTime (unit : TimeUnit) (width : Width) (text : List Char) : Result (BitVec width.bits) :=
  match Clock.read? text with
  | some c => .ok (BitVec.ofNat _ (c.toNanos / (nanosPerSecond / unit.perSecond)))
  | none =>
    match readInteger (minOf true width) (maxOf true width) text with
    | .ok n => .ok (BitVec.ofInt _ n)
    | .error _ => .error .unreadable

/-- Reads a timestamp; a text without a zone is local time in the zone of the type. -/
def readStamp (unit : TimeUnit) (zone : Option Zone) (text : List Char) : Result (BitVec 64) := do
  stampOf unit (← readable (readInstant? (zone.getD .universal) text))

end ForeignLayer.Convert
