import ForeignLayer.Calendar.Zone.Africa
import ForeignLayer.Calendar.Zone.Asia
import ForeignLayer.Calendar.Zone.Europe
import ForeignLayer.Calendar.Zone.Names
import ForeignLayer.Calendar.Zone.NorthAmerica
import ForeignLayer.Calendar.Zone.Pacific
import ForeignLayer.Calendar.Zone.SouthAmerica
import ForeignLayer.Number.Reading

/-!
# Time zones

A zone is a fixed offset from universal time or the clocks of a place. Offsets are written as signed
hours and minutes; places have names, in the exact letter case.
-/

namespace ForeignLayer.Calendar

open Number

/-- A time zone. -/
inductive Zone where
  /-- A number of seconds ahead of universal time. -/
  | fixed (offset : Int)
  /-- The clocks of a place. -/
  | place (history : History)
deriving DecidableEq, Repr

namespace Zone

/-- Universal time. -/
def universal : Zone := fixed 0

/-! ## Names -/

/-- The seconds of a sign, two digits of hours and two digits of minutes. They stay below a day; the
minutes may be more than an hour. -/
def offsetOf? (sign a b c d : Char) : Option Int := do
  let hours := (← digitValue? a) * 10 + (← digitValue? b)
  let minutes := (← digitValue? c) * 10 + (← digitValue? d)
  let seconds := hours * 3600 + minutes * 60
  if 86400 ≤ seconds then none
  if sign = '+' then some (seconds : Int)
  else if sign = '-' then some (-(seconds : Int))
  else none

/-- The offset that is written as hours, or as hours and minutes with or without a colon. -/
def readOffset? : List Char → Option Int
  | [s, a, b, ':', c, d] => offsetOf? s a b c d
  | [s, a, b, c, d] => offsetOf? s a b c d
  | [s, a, b] => offsetOf? s a b '0' '0'
  | _ => none

/-- The names and the histories of all places. -/
def places : List (String × History) :=
  Zones.africa ++ Zones.asia ++ Zones.europe ++ Zones.northAmerica ++ Zones.pacific ++
    Zones.southAmerica

/-- The zone with a name. -/
def named? (name : String) : Option Zone :=
  let name := (Zones.nameOfAlternative? name).getD name
  (Zones.fixed.lookup name).map fixed <|> (places.lookup name).map place

/-- The zone that is written as an offset or as a name. -/
def read? (text : List Char) : Option Zone :=
  (readOffset? text).map fixed <|> named? (String.ofList text)

/-! ## Offsets -/

/-- The offset at a second of universal time. -/
def offsetAt (time : Int) : Zone → Int
  | fixed offset => offset
  | place h => h.timeline.offsetAt time

/-- The offset under which clocks show a time, given in seconds as if it were universal time. There
is none for a time that the clocks skip or show twice. -/
def offsetShowing? (shown : Int) : Zone → Option Int
  | fixed offset => some offset
  | place h =>
    match h.timeline.offsetsShowing shown with
    | [offset] => some offset
    | _ => none

end Zone

end ForeignLayer.Calendar
