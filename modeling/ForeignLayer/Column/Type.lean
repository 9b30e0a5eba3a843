import ForeignLayer.Schema.Field

/-!
# Column types

What matters of a type for conversions: geometries are stored as bytes but convert as geometries,
every other value converts as its type says.
-/

namespace ForeignLayer

/-- The type of a column as far as conversions are concerned. -/
structure ColumnType where
  /-- Whether values are geometries. -/
  isGeometry : Bool
  /-- The type that values are stored in. -/
  storage : DataType
deriving DecidableEq, Repr

namespace ColumnType

/-- A type whose values are taken as they are. -/
def plain (t : DataType) : ColumnType := ⟨false, t⟩

/-- Geometries in a storage. -/
def geometry (storage : DataType) : ColumnType := ⟨true, storage⟩

/-- The column type of a field. -/
def ofField (f : Schema.Field) : ColumnType := ⟨f.isGeometry, f.type⟩

/-- The type of the elements of a list. -/
def element? (c : ColumnType) : Option ColumnType :=
  match c with
  | ⟨false, .list _ element metadata⟩ => some (ofField ⟨"item", element, metadata⟩)
  | _ => none

/-- The plain types that have conversions. -/
def isConvertible : DataType → Bool
  | .boolean | .integer .. | .float32 | .float64 | .decimal .. | .text _ | .binary _ | .date32
  | .date64 | .time64 _ | .timestamp _ none => true
  | _ => false

/-- Whether a column type has conversions. -/
def isSupported (c : ColumnType) : Bool :=
  if c.isGeometry then c.storage.isBinary else isConvertible c.storage

/-- Whether the values of a column type vary in size. -/
def isVariable (c : ColumnType) : Bool :=
  c.isGeometry || c.storage.isText || c.storage.isBinary

end ColumnType

end ForeignLayer
