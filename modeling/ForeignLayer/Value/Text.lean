import ForeignLayer.Bytes.Hex
import ForeignLayer.Value.Time

/-!
# Texts of values

What a value looks like as text, alone or as an element of a list. Writing goes from left to right
and stops at a value that has no text, such as a date beyond the calendar; the refusal then keeps
what was written before it, because descriptions of values show that too.

Whether a type has texts at all does not depend on its values: only a timestamp in an unknown zone
has none.
-/

namespace ForeignLayer

open Number Calendar

/-- A value that has no text. -/
structure Unwritable where
  /-- What was written before it. -/
  before : String
  /-- Why there is no text. -/
  reason : String
deriving DecidableEq, Repr

/-- A text, or as much of it as could be written. -/
abbrev Written := Except Unwritable String

namespace Written

/-- The text behind another one. -/
def after (before : String) : Written → Written
  | .ok text => .ok (before ++ text)
  | .error u => .error { u with before := before ++ u.before }

/-- The text that shows what could be written, and why nothing follows. -/
def shown : Written → String
  | .ok text => text
  | .error u => u.before ++ "ERROR: " ++ u.reason

end Written

namespace Convert

/-! ## Spans of time -/

/-- The ways of writing spans of time. -/
inductive SpanStyle where
  /-- In words, from days to seconds. -/
  | words
  /-- In seconds, between the letters of the calendar standard. -/
  | letters
deriving DecidableEq, Repr

/-- Whether a span of time can be counted in milliseconds. -/
def isCountable (unit : TimeUnit) (n : Int) : Bool :=
  match unit with
  | .second => decide (n.natAbs ≤ 9223372036854775)
  | .millisecond => decide (n.natAbs ≤ 9223372036854775807)
  | _ => true

/-- A span of time in days, hours, minutes and seconds, each with its sign. -/
def spanInWords (unit : TimeUnit) (n : Int) : String :=
  let total := n.tdiv unit.perSecond
  let part := n.tmod unit.perSecond
  let second := total.tmod 60
  let places := (decimalDigits unit.perSecond).length - 1
  let seconds :=
    if places = 0 then integerText second
    else (if part < 0 then "-" ++ integerText second.natAbs else integerText second) ++ "." ++
      paddedText places part.natAbs
  integerText (total.tdiv 86400) ++ " days " ++ integerText ((total.tdiv 3600).tmod 24) ++
    " hours " ++ integerText ((total.tdiv 60).tmod 60) ++ " mins " ++ seconds ++ " secs"

/-- A span of time in seconds, with as many places as it needs. -/
def spanInLetters (unit : TimeUnit) (n : Int) : String :=
  if n = 0 then "P0D"
  else
    let places := (decimalDigits unit.perSecond).length - 1
    let value : Decimal := Decimal.trim ⟨n.natAbs, -(places : Int)⟩
    (if n < 0 then "-" else "") ++ "PT" ++ String.ofList value.positional ++ "S"

/-- The text of a span of time. -/
def spanText (style : SpanStyle) (unit : TimeUnit) (n : Int) : String :=
  if !isCountable unit n then "<invalid>"
  else match style with
    | .words => spanInWords unit n
    | .letters => spanInLetters unit n

/-! ## Dates and times -/

/-- The text of a count of a type, which has to be a point in time of a kind. -/
def pointText (type : DataType) (kind : String) (n : Int) (text : Option String) : Written :=
  match text with
  | some text => .ok text
  | none => .error ⟨"", "Cast error: Failed to convert " ++ integerText n ++ " to " ++ kind ++
      " for " ++ type.name⟩

/-- The text of a date or of a time of day. -/
def temporalText (type : DataType) (n : Int) (text : Option String) : Written :=
  pointText type "temporal" n text

/-- The text of a timestamp, in its zone and with its offset if it has one. -/
def stampText (unit : TimeUnit) (zone : Option Zone) (n : Int) : Option String :=
  (stampDateTime? unit n).map fun d ↦ match zone with
    | none => d.text
    | some z => z.text d

/-! ## Lists -/

/-- The text of a value, nothing for a null. -/
def writeOptional {α : Type} (write : α → Written) : Option α → Written
  | none => .ok ""
  | some v => write v

/-- The texts of the values behind the first one, up to the end of a list. -/
def writeOthers {α : Type} (write : α → Written) : List (Option α) → Written
  | [] => .ok "]"
  | v :: vs =>
    match writeOptional write v with
    | .ok text => (writeOthers write vs).after (", " ++ text)
    | refused => refused.after ", "

/-- The text of a list of values. -/
def writeList {α : Type} (write : α → Written) : List (Option α) → Written
  | [] => .ok "[]"
  | v :: vs =>
    match writeOptional write v with
    | .ok text => (writeOthers write vs).after ("[" ++ text)
    | refused => refused.after "["

/-! ## All types -/

/-- The texts of the values of a type. Bytes are in hexadecimal digits. -/
def write? (style : SpanStyle) : (t : DataType) → Option (t.Carrier → Written)
  | .null => some fun v ↦ nomatch v
  | .boolean => some fun v ↦ .ok (if v then "true" else "false")
  | .integer signed _ => some fun v ↦ .ok (integerText (Width.toInt signed v))
  | .float32 => some fun v ↦ .ok v.markedText
  | .float64 => some fun v ↦ .ok v.markedText
  | .decimal precision scale => some fun v ↦ .ok (decimalText precision scale v.toInt)
  | .text _ => some .ok
  | .binary _ => some fun v ↦ .ok (String.ofList (Bytes.hexText v))
  | .fixedSizeBinary _ => some fun v ↦ .ok (String.ofList (Bytes.hexText v))
  | .date32 => some fun v ↦
    temporalText .date32 v.toInt ((Date.ofDays? v.toInt).map Date.text)
  | .date64 => some fun v ↦
    temporalText .date64 v.toInt ((stampDateTime? .millisecond v.toInt).map DateTime.text)
  | .time32 unit => some fun v ↦
    temporalText (.time32 unit) v.toInt ((clockOf? unit v.toInt).map Clock.text)
  | .time64 unit => some fun v ↦
    temporalText (.time64 unit) v.toInt ((clockOf? unit v.toInt).map Clock.text)
  | .duration unit => some fun v ↦ .ok (spanText style unit v.toInt)
  | .timestamp unit name => (zone? name).map fun zone v ↦
    pointText (.timestamp unit name) "datetime" v.toInt (stampText unit zone v.toInt)
  | .list _ element _ => (write? style element).map writeList

end Convert

end ForeignLayer
