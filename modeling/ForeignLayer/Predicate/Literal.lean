import ForeignLayer.Catalog.Table
import ForeignLayer.Filter.Clause

/-!
# Literals of constants

A constant that a column is compared with becomes a literal of the filter language only if the
layer, which compares values of the field, comes to the same result. So the column has to show the
values of the field without merging or reordering any, the constant has to be of the same family as
the column, and it has to survive the way to the type of the column, to the type of the field, and
through the text of the column, each time unchanged on the way back.
-/

namespace ForeignLayer.Predicate

/-- Whether a column of a type shows the values of a field one for one and in their order. -/
def readsLosslessly : FieldType → DataType → Bool
  | .integer, .integer true .w32 | .integer, .integer true .w64 => true
  | .integer64, .integer true .w64 => true
  | .real, .float64 => true
  | .string, .text _ | .wideString, .text _ => true
  | .date, .date32 => true
  | .time, .time64 .microsecond | .time, .time64 .nanosecond => true
  | .dateTime, .timestamp .microsecond none | .dateTime, .timestamp .nanosecond none => true
  | _, _ => false

/-- The families of types within which comparing makes sense. -/
inductive Family where
  | numeric
  | boolean
  | text
  | date
  | time
  | timestamp
  | other
deriving DecidableEq, Repr

/-- The family of a type. -/
def Family.of : DataType → Family
  | .boolean => boolean
  | .text _ => text
  | .date32 | .date64 => date
  | .time32 _ | .time64 _ => time
  | .timestamp .. => timestamp
  | t => if t.isNumeric then numeric else other

/-- Whether casting a column to a type keeps its values distinct and in their order. -/
def isPreservingCast (source target : DataType) : Bool :=
  if source = target then true
  else match source, target with
    | .integer true a, .integer true b => decide (a.bits < b.bits)
    | .integer false a, .integer false b => decide (a.bits < b.bits)
    | .integer false a, .integer true b => decide (a.bits < b.bits)
    | .float32, .float64 => true
    | .text _, .text _ => true
    | _, _ => false

/-! ## Texts of literals -/

/-- Whether a text is a decimal number without exponent: an optional minus sign, then digits with at
most one point. -/
def isNumericText (text : List Char) : Bool :=
  let digits := match text with
    | '-' :: digits => digits
    | digits => digits
  digits.all (fun c ↦ c.isDigit || c == '.') && digits.any Char.isDigit &&
    decide (digits.count '.' ≤ 1)

/-- A date of four, two and two digits, with slashes for hyphens. -/
def slashedDate? : List Char → Option (List Char)
  | [a, b, c, d, '-', e, f, '-', g, h] =>
    if [a, b, c, d, e, f, g, h].all Char.isDigit then
      some [a, b, c, d, '/', e, f, '/', g, h]
    else none
  | _ => none

/-- A time of day of three times two digits and an optional fraction, as it is. -/
def plainTime? : List Char → Option (List Char)
  | a :: b :: ':' :: c :: d :: ':' :: e :: f :: rest =>
    let time := a :: b :: ':' :: c :: d :: ':' :: e :: f :: rest
    if [a, b, c, d, e, f].all Char.isDigit then
      match rest with
      | [] => some time
      | '.' :: fraction =>
        if !fraction.isEmpty && fraction.all Char.isDigit then some time else none
      | _ => none
    else none
  | _ => none

/-- A date and a time of day with a letter or a blank between them, as a date with slashes, a blank
and the time. -/
def plainStamp? (text : List Char) : Option (List Char) := do
  let (date, rest) := text.span fun c ↦ c != 'T' && c != ' '
  match rest with
  | [] => none
  | _ :: time => return (← slashedDate? date) ++ ' ' :: (← plainTime? time)

/-- The literal that a text becomes for a field of a type. -/
def literalOfText? (type : FieldType) (text : String) : Option Filter.Literal :=
  match type with
  | .integer | .integer64 | .real =>
    if isNumericText text.toList then some (.number text) else none
  | .string | .wideString => some (.text text)
  | .date => (slashedDate? text.toList).map fun cs ↦ .text (String.ofList cs)
  | .time => (plainTime? text.toList).map fun cs ↦ .text (String.ofList cs)
  | .dateTime => (plainStamp? text.toList).map fun cs ↦ .text (String.ofList cs)
  | _ => none

/-- Whether a source can take a literal. -/
def isWritable (encoding : Encoding) : Filter.Literal → Bool
  | .number _ => true
  | .text text => Filter.isExpressible encoding text

/-! ## Constants -/

/-- The value in another type, if it is not null there and the same again on the way back. -/
def roundTrip? (value : Scalar) (type : DataType) : Option Scalar := do
  let there ← (value.cast type).toOption
  if there.isNull then none
  let back ← (there.cast value.type).toOption
  if back = value then some there else none

/-- The text of a value that reads back as the value. -/
def stableText? (conversion : Conversion) (value : Scalar) : Option String := do
  let text ← (conversion.write value).toOption
  let back ← (conversion.read text conversion.type.storage).toOption
  if back = value then some text else none

/-- The literal of a constant that a column of a field is compared with. -/
def literal? (encoding : Encoding) (column : Catalog.Column) (field : Layer.Field)
    (constant : Scalar) : Option Filter.Literal := do
  let conversion ← column.conversion
  let type := column.type.storage
  if constant.isNull || !readsLosslessly field.type type ||
      Family.of constant.type != Family.of type then none
  let value ← roundTrip? constant type
  let _ ← roundTrip? value field.type.native
  let literal ← literalOfText? field.type (← stableText? conversion value)
  if isWritable encoding literal then some literal else none

end ForeignLayer.Predicate
