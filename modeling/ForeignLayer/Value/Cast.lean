import ForeignLayer.Bytes.Order
import ForeignLayer.Bytes.Utf8
import ForeignLayer.Value.Text

/-!
# Conversions between column types

Which types convert into which, and how. A conversion that does not exist is told apart from one
that refuses a value, and a null converts wherever the types do. Nothing converts to a type that
cannot store any value, or to a timestamp of a zone that does not exist. A value that is converted
to a list type becomes the one element of a list, and a list of fixed length one converts to
whatever its element does.

Between timestamps, a count that outgrows its word is refused. Times of day that are brought to a
finer unit, and dates that become timestamps, are promised to fit.

The conversions are given by the pair of types and work on carriers, so that laws about them, such
as keeping the order of values, are laws about functions.
-/

namespace ForeignLayer.Convert

open Number Calendar

-- Powers are the core library's, whichever other instances are in scope.
attribute [local instance (high)] instPowNat

/-- A conversion of the values of one type to another. -/
abbrev Conversion (a b : DataType) := a.Carrier → Result b.Carrier

/-- A conversion of the values and nulls of one type to another. -/
abbrev NullableConversion (a b : DataType) := Option a.Carrier → Result (Option b.Carrier)

/-! ## Texts -/

/-- A text, if all of it could be written. -/
def wholeText : Written → Result String
  | .ok text => .ok text
  | .error _ => .error .outOfRange

/-- The conversion of a type that is not a list to text. Bytes are read as text. -/
def toText? : (a : DataType) → Option (a.Carrier → Result String)
  | .binary _ => some fun v ↦ (Bytes.decodeUtf8 v).mapError fun _ ↦ .unreadable
  | .null | .fixedSizeBinary _ | .list .. => none
  | a => (write? .words a).map fun f v ↦ wholeText (f v)

/-- The conversion of text to a type. -/
def ofText? : (b : DataType) → Option (String → Result b.Carrier)
  | .boolean => some fun s ↦ readBool s.toList
  | .integer signed width => some fun s ↦ readWord signed width s.toList
  | .float32 => some fun s ↦ readable (readFloating? .single s.toList)
  | .float64 => some fun s ↦ readable (readFloating? .double s.toList)
  | .decimal precision scale =>
    if scale < 0 then none else some fun s ↦ readDecimal precision scale s.toList
  | .text _ => some .ok
  | .binary _ => some fun s ↦ .ok (Bytes.encodeUtf8 s)
  | .date32 => some fun s ↦ readDate32 s.toList
  | .date64 => some fun s ↦ readDate64 s.toList
  | .time32 .second => some fun s ↦ readTime .second .w32 s.toList
  | .time32 .millisecond => some fun s ↦ readTime .millisecond .w32 s.toList
  | .time64 .microsecond => some fun s ↦ readTime .microsecond .w64 s.toList
  | .time64 .nanosecond => some fun s ↦ readTime .nanosecond .w64 s.toList
  | .timestamp unit name => (zone? name).map fun zone s ↦ readStamp unit zone s.toList
  | _ => none

/-! ## Numbers -/

/-- The conversion of a numeric type to integers. -/
def toInteger? : (a : DataType) → Option (a.Carrier → Result Int)
  | .integer signed _ => some fun v ↦ .ok (Width.toInt signed v)
  | .float32 => some fun v ↦ inRange v.truncate?
  | .float64 => some fun v ↦ inRange v.truncate?
  | .decimal _ scale => (decimalToInt? scale).map fun f v ↦ .ok (f v.toInt)
  | _ => none

/-- The conversion of an integer to a numeric type. -/
def ofInteger? : (b : DataType) → Option (Int → Result b.Carrier)
  | .integer signed width => some fun n ↦ toWord signed width n
  | .float32 => some fun n ↦ .ok (.ofInt n)
  | .float64 => some fun n ↦ .ok (.ofInt n)
  | .decimal precision scale => (intToDecimal? scale).map fun f n ↦ toDecimal precision (f n)
  | _ => none

/-- The conversion between numeric types. -/
def number? : (a b : DataType) → Option (Conversion a b)
  | .float32, .float32 => some .ok
  | .float32, .float64 => some fun v ↦ .ok v.convert
  | .float64, .float32 => some fun v ↦ .ok v.convert
  | .float64, .float64 => some .ok
  | .float32, .decimal precision scale => some fun v ↦ doubleToDecimal precision scale v.convert
  | .float64, .decimal precision scale => some fun v ↦ doubleToDecimal precision scale v
  | .decimal _ scale, .float32 => some fun v ↦ .ok (decimalToDouble scale v.toInt).convert
  | .decimal _ scale, .float64 => some fun v ↦ .ok (decimalToDouble scale v.toInt)
  | .decimal p s, .decimal q t => (rescale? p s q t).map fun f v ↦ f v.toInt
  | a, b => do
    let f ← toInteger? a
    let g ← ofInteger? b
    return fun v ↦ f v >>= g

/-- The conversion of a type to truth values: zero is false. -/
def toBool? : (a : DataType) → Option (a.Carrier → Result Bool)
  | .integer .. => some fun v ↦ .ok (v != 0)
  | .float32 => some fun v ↦ .ok (v.isNaN || v.magnitude != 0)
  | .float64 => some fun v ↦ .ok (v.isNaN || v.magnitude != 0)
  | _ => none

/-- The conversion of truth values to a type: false is zero and true is one. -/
def ofBool? : (b : DataType) → Option (Bool → Result b.Carrier)
  | .decimal .. => none
  | b => (ofInteger? b).map fun f v ↦ f v.toNat

/-! ## Bytes -/

/-- The conversion of a type to bytes, into one of the layouts. -/
def toBytes? (storage : Storage) : (a : DataType) → Option (a.Carrier → Result (List UInt8))
  | .binary _ => some .ok
  | .fixedSizeBinary _ => some .ok
  | .integer _ width =>
    if storage = .view then none
    else some fun v ↦ .ok (Bytes.littleBytes (width.bits / 8) v.toNat)
  | _ => none

/-! ## Dates and times -/

/-- Whether times of a unit are stored in 32 bits. -/
def isShortUnit : TimeUnit → Bool
  | .second | .millisecond => true
  | _ => false

/-- The count and the unit of a time of day, if the type stores its unit. -/
def timeOfDay? : (a : DataType) → Option (TimeUnit × (a.Carrier → Int))
  | .time32 unit => if isShortUnit unit then some (unit, fun v ↦ v.toInt) else none
  | .time64 unit => if isShortUnit unit then none else some (unit, fun v ↦ v.toInt)
  | _ => none

/-- A time of day in another unit. Milliseconds have no nanoseconds: they all become zero. -/
def rescaleOfDay (source target : TimeUnit) (n : Int) : Int :=
  if source = .millisecond ∧ target = .nanosecond then 0 else rescaleTime source target n

/-- The word of a time of day in another unit. A count of a finer unit has to fit, and one of a
coarser unit wraps. -/
def wordOfDay {bits : Nat} (source target : TimeUnit) (n : Int) : Result (BitVec bits) :=
  let count := rescaleOfDay source target n
  if source.perSecond ≤ target.perSecond then promised count else .ok (BitVec.ofInt bits count)

/-- How the count of a unit is stored as a time of day, if the type stores its unit. -/
def toTimeOfDay? : (b : DataType) → Option (TimeUnit → Int → Result b.Carrier)
  | .time32 target => if isShortUnit target then some (wordOfDay · target) else none
  | .time64 target => if isShortUnit target then none else some (wordOfDay · target)
  | _ => none

/-- Integers of a width that dates and times are stored in, to such a type. -/
def integerToTime? (width : Width) : (b : DataType) → Option (Int → Result b.Carrier)
  | .date32 =>
    if width = .w32 ∨ width = .w64 then some fun n ↦ toWord true .w32 n else none
  | .date64 =>
    if width = .w32 then some fun n ↦ .ok (BitVec.ofInt 64 (n * millisPerDay))
    else if width = .w64 then some fun n ↦ .ok (BitVec.ofInt 64 n)
    else none
  | .time32 unit =>
    if isShortUnit unit ∧ width = .w32 then some fun n ↦ .ok (BitVec.ofInt 32 n) else none
  | .time64 unit =>
    if !isShortUnit unit ∧ width = .w64 then some fun n ↦ .ok (BitVec.ofInt 64 n) else none
  | _ => none

/-- Dates and times to integers of a width that they are stored in. -/
def timeToInteger? (width : Width) : (a : DataType) →
    Option (a.Carrier → Result (BitVec width.bits))
  | .date32 =>
    if width = .w32 ∨ width = .w64 then some fun v ↦ toWord true width v.toInt else none
  | .date64 =>
    if width = .w32 ∨ width = .w64 then some fun v ↦ toWord true width v.toInt else none
  | .time32 unit =>
    if isShortUnit unit ∧ width = .w32 then some fun v ↦ toWord true width v.toInt else none
  | .time64 unit =>
    if !isShortUnit unit ∧ width = .w64 then some fun v ↦ toWord true width v.toInt else none
  | _ => none

/-- The conversion of numbers to counts of 64 bits, whatever their unit. -/
def toCount? (a : DataType) : Option (a.Carrier → Result (BitVec 64)) :=
  (toInteger? a).map fun f v ↦ f v >>= toInt64

/-- The conversion of counts to numbers. -/
def ofCount? (b : DataType) : Option (BitVec 64 → Result b.Carrier) :=
  (ofInteger? b).map fun f v ↦ f v.toInt

/-- The conversion between numbers, dates and times. -/
def time? : (a b : DataType) → Option (Conversion a b)
  | a, .timestamp .. => toCount? a
  | a, .duration _ => toCount? a
  | .timestamp .., b => ofCount? b
  | .duration _, b => ofCount? b
  | .integer true width, b => (integerToTime? width b).map fun f v ↦ f (Width.toInt true v)
  | a, .integer true width => timeToInteger? width a
  | _, _ => none

/-- A timestamp without a zone as one of an optional zone. -/
def ofPlainStamp (unit : TimeUnit) : Option Zone → BitVec 64 → Result (BitVec 64)
  | none, w => .ok w
  | some zone, w => intoZone unit zone w.toInt

/-- The conversion among dates, times of day and timestamps. -/
def calendar? : (a b : DataType) → Option (Conversion a b)
  | .date32, .date64 => some fun v ↦ .ok (BitVec.ofInt 64 (v.toInt * millisPerDay))
  | .date64, .date32 => some fun v ↦ .ok (BitVec.ofInt 32 (v.toInt.tdiv millisPerDay))
  | .timestamp source none, .timestamp target name => (zone? name).map fun zone v ↦ do
    ofPlainStamp target zone (← rescaleStamp source target v.toInt)
  | .timestamp source (some _), .timestamp target _ =>
    some fun v ↦ rescaleStamp source target v.toInt
  | .duration source, .duration target => some fun v ↦ rescaleStamp source target v.toInt
  | .timestamp unit name, .date32 => (zone? name).map fun zone v ↦ do
    let d ← inRange (stampDateTime? unit v.toInt)
    return BitVec.ofInt 32 (← dateIn zone d).toDays
  | .timestamp unit _, .date64 => some fun v ↦ rescaleStamp unit .millisecond v.toInt
  | .date32, .timestamp unit name => (zone? name).map fun zone v ↦ do
    ofPlainStamp unit zone (← promised (v.toInt * secondsPerDay * unit.perSecond))
  | .date64, .timestamp unit name => (zone? name).map fun zone v ↦ do
    ofPlainStamp unit zone (← promised (rescaleTime .millisecond unit v.toInt))
  | .timestamp unit name, b => do
    let zone ← zone? name
    let g ← toTimeOfDay? b
    return fun v ↦ do
      let d ← inRange (stampDateTime? unit v.toInt)
      g .nanosecond (shownIn zone d).clock.toNanos
  | a, b => do
    let (source, f) ← timeOfDay? a
    let g ← toTimeOfDay? b
    return fun v ↦ g source (f v)

/-! ## All types -/

/-- The conversion of a type that is not a list to another one. -/
def plain? : (a b : DataType) → Option (Conversion a b)
  | .text _, b => ofText? b
  | a, .text _ => toText? a
  | .boolean, b => ofBool? b
  | a, .boolean => toBool? a
  | a, .binary storage => toBytes? storage a
  | .binary .view, .fixedSizeBinary _ => none
  | .binary _, .fixedSizeBinary length => some fun v ↦
    if (v.length : Int) = length then .ok v else .error .outOfRange
  | a, b => number? a b <|> calendar? a b <|> time? a b

/-- Whether values of a type can be stored: a decimal has one digit up to 38 of them, and no more
places than digits. -/
def isStorable : DataType → Bool
  | .decimal precision scale => decide (1 ≤ precision ∧ precision ≤ 38 ∧ scale ≤ precision)
  | _ => true

/-- Whether a type has a null: times of day have one only in the units that they are stored in. -/
def hasNull : DataType → Bool
  | .time32 unit => isShortUnit unit
  | .time64 unit => !isShortUnit unit
  | _ => true

/-- A conversion that keeps nulls. -/
def keepNull {a b : DataType} (f : Conversion a b) : NullableConversion a b
  | none => .ok none
  | some v => some <$> f v

/-! ## Lists -/

/-- The conversion of lists to text, which has two layouts. -/
def listToText? (element : DataType) :
    ListStorage → Storage → Option (List (Option element.Carrier) → Result String)
  | .fixedSize _, _ | _, .view => none
  | _, _ => (write? .words element).map fun f vs ↦ wholeText (writeList f vs)

/-- The conversion of a type to one that is not a list. -/
def toPlain? (b : DataType) : (a : DataType) → Option (NullableConversion a b)
  | .null => if hasNull b then some fun _ ↦ .ok none else none
  | .list storage element _ =>
    if storage = .fixedSize 1 then
      (toPlain? b element).map fun f v ↦ f (v.bind fun vs ↦ vs.head?.join)
    else match b with
      | .text layout => (listToText? element storage layout).map fun f v ↦ v.mapM f
      | _ => none
  | a =>
    if h : a = b then some (h ▸ Except.ok)
    else match a, b with
      | .decimal .., .null => some fun _ ↦ .ok none
      | a, b => if isStorable b then (plain? a b).map keepNull else none

/-- Whether lists of one layout can be brought into another one: fixed lengths have to agree. -/
def fitsLayout : ListStorage → ListStorage → Bool
  | .fixedSize m, .fixedSize n => m == n
  | _, _ => true

/-- A list in a layout. There is no list of the fixed length zero but the null. -/
def ofLayout {α : Type} (storage : ListStorage) (vs : List α) : Result (Option (List α)) :=
  match storage with
  | .fixedSize n =>
    if (vs.length : Int) ≠ n then .error .outOfRange
    else if n = 0 then .ok none
    else .ok (some vs)
  | _ => .ok (some vs)

/-- The conversion of the values and nulls of a type `a` to a type `b`. The elements of a list are
converted one by one, and a value that is no list becomes the one element of a list. -/
def nullable? (b a : DataType) : Option (NullableConversion a b) :=
  if h : a = b then some (h ▸ Except.ok)
  else match b, a with
    | b, .null => toPlain? b .null
    | .list storage element _, .list source inner _ =>
      if fitsLayout source storage then
        (nullable? element inner).map fun f vs ↦
          match vs with
          | none => .ok none
          | some vs => vs.mapM f >>= ofLayout storage
      else none
    | .list storage element _, a =>
      if fitsLayout (.fixedSize 1) storage then
        (nullable? element a).map fun f v ↦ do return some [← f v]
      else none
    | b, a => toPlain? b a

end Convert

/-- The scalar as a value of another type. -/
def Scalar.cast (s : Scalar) (t : DataType) : Except CastFault Scalar :=
  if !Convert.isStorable s.type then .error .unsupported
  else match Convert.nullable? t s.type with
    | none => .error .unsupported
    | some f => do return ⟨t, ← f s.value⟩

end ForeignLayer
