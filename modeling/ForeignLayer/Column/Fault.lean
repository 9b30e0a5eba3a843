import ForeignLayer.Bytes.Utf8
import ForeignLayer.Geometry.Fault
import ForeignLayer.Value.Describe

/-!
# Faults of conversions

Why a column type has no conversions, and why a value, a text or bytes do not convert.
-/

namespace ForeignLayer.Column

/-- Why something does not convert. -/
inductive Fault where
  /-- Geometries are stored in something else than bytes. -/
  | geometryStorage (t : DataType)
  /-- A type has no conversions. -/
  | unsupported (t : DataType)
  /-- A null has no text. -/
  | nullText
  /-- A text of bytes has half a byte or characters beyond ASCII. -/
  | hexText (text : String)
  /-- A text of bytes has something else than digits. -/
  | hexDigit
  /-- A scalar has no binary form. -/
  | unsendable (s : Scalar)
  /-- The binary form of a type has another length. -/
  | wrongLength (expected actual : Nat)
  /-- The binary form of a text is no text. -/
  | invalidText (reason : Bytes.Utf8Fault)
  /-- A type has no binary form. -/
  | unreceivable (t : DataType)
  /-- Bytes are asked for in a type that does not hold bytes. -/
  | notBinary (t : DataType)
  /-- The scalar to send is no geometry. -/
  | unsendableGeometry (s : Scalar)
  /-- The scalar to write is no geometry. -/
  | unwritableGeometry (s : Scalar)
  /-- The geometry to write has an empty member that texts cannot show. -/
  | emptyMember
  /-- The scalar to tag is no geometry. -/
  | untaggable (s : Scalar)
  /-- A type does not hold geometries. -/
  | noGeometry (t : DataType)
  /-- A value does not convert to another type. -/
  | cast (reason : CastFault)
  /-- Bytes or a text are no valid geometry. -/
  | geometry (reason : Geometry.Fault)

/-- The wording of a fault. -/
def Fault.message : Fault → String
  | geometryStorage t =>
    "Geometry columns must be stored as Binary, LargeBinary or BinaryView but got " ++ t.name
  | unsupported t => "No OGR conversion available for column type " ++ t.name
  | nullText => "Can't render NULL as text"
  | hexText text => "Invalid hex encoded binary: '" ++ text ++ "'"
  | hexDigit => "Invalid hex encoded binary: " ++ Number.IntegerFault.message .invalidDigit
  | unsendable s => "Can't send value " ++ s.describe
  | wrongLength expected actual =>
    "Expected " ++ toString expected ++ " bytes but got " ++ toString actual
  | invalidText reason => "Invalid UTF-8 in received text: " ++ reason.message
  | unreceivable t => "Can't receive value of type " ++ t.name
  | notBinary t => "Expected binary storage type but got " ++ t.name
  | unsendableGeometry s => "Can't send non-geometry value " ++ s.describe
  | unwritableGeometry s => "Can't render non-geometry value " ++ s.describe
  | emptyMember => "Can't render a geometry with an empty member"
  | untaggable s => "Can't set SRID on non-geometry value " ++ s.describe
  | noGeometry t => "Invalid geometry value: expected a binary value but got " ++ t.name
  | cast _ => "The value cannot be converted"
  | geometry reason => "Failed to parse geometry: " ++ reason.message

end ForeignLayer.Column
