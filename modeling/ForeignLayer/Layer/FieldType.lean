import ForeignLayer.Text.Letter
import ForeignLayer.Value.DataType

/-!
# Field types

The types of the fields of a layer. Every field type has one native type, the column type that its
values have in a feature; some are lists of another one.
-/

namespace ForeignLayer

/-- The types of layer fields. -/
inductive FieldType where
  | integer
  | integerList
  | real
  | realList
  | string
  | stringList
  | wideString
  | wideStringList
  | binary
  | date
  | time
  | dateTime
  | integer64
  | integer64List
deriving DecidableEq, Repr

namespace FieldType

/-- Every field type. -/
def all : List FieldType :=
  [integer, integerList, real, realList, string, stringList, wideString, wideStringList, binary,
    date, time, dateTime, integer64, integer64List]

/-- The name of a field type. -/
def name : FieldType → String
  | integer => "Integer"
  | integerList => "IntegerList"
  | real => "Real"
  | realList => "RealList"
  | string => "String"
  | stringList => "StringList"
  | wideString => "WideString"
  | wideStringList => "WideStringList"
  | binary => "Binary"
  | date => "Date"
  | time => "Time"
  | dateTime => "DateTime"
  | integer64 => "Integer64"
  | integer64List => "Integer64List"

/-- The field type with a name in any letter case. -/
def ofName? (text : String) : Option FieldType :=
  all.find? fun t ↦ Text.lower text == Text.lower t.name

/-- The wording of a fault: no field type has the name. -/
def unknownMessage (name : String) : String := "Unknown OGR field type: '" ++ name ++ "'"

/-- The type of the elements of a list, itself for any other type. -/
def element : FieldType → FieldType
  | integerList => integer
  | realList => real
  | stringList => string
  | wideStringList => wideString
  | integer64List => integer64
  | t => t

/-- Whether values are lists. -/
def isList (t : FieldType) : Bool := t.element != t

/-- The type of the values of a field in features. -/
def native : FieldType → DataType
  | integer => .int32
  | integer64 => .int64
  | real => .float64
  | string | wideString => .utf8
  | binary => .bytes
  | date => .date32
  | time => .time64 .microsecond
  | dateTime => .timestamp .microsecond none
  | integerList => .list .regular .int32 []
  | integer64List => .list .regular .int64 []
  | realList => .list .regular .float64 []
  | stringList | wideStringList => .list .regular .utf8 []

end FieldType

end ForeignLayer
