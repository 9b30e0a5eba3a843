import ForeignLayer.Number.Text
import ForeignLayer.Text.Quote

/-!
# Column types

The types that values of relational columns can have. Texts, bytes and lists come in several
storage layouts that hold the same values, integers in four widths with and without a sign, times
in four units.
-/

namespace ForeignLayer

/-- The units of times. -/
inductive TimeUnit where
  | second
  | millisecond
  | microsecond
  | nanosecond
deriving DecidableEq, Repr

namespace TimeUnit

/-- How many of a unit make a second. -/
def perSecond : TimeUnit → Nat
  | second => 1
  | millisecond => 1000
  | microsecond => 1000000
  | nanosecond => 1000000000

/-- The name of a unit. -/
def name : TimeUnit → String
  | second => "Second"
  | millisecond => "Millisecond"
  | microsecond => "Microsecond"
  | nanosecond => "Nanosecond"

end TimeUnit

/-- The widths of integers. -/
inductive Width where
  | w8
  | w16
  | w32
  | w64
deriving DecidableEq, Repr

/-- The number of bits of a width. -/
abbrev Width.bits : Width → Nat
  | w8 => 8
  | w16 => 16
  | w32 => 32
  | w64 => 64

/-- The storage layouts of texts and of bytes. -/
inductive Storage where
  | regular
  | large
  | view
deriving DecidableEq, Repr

/-- The storage layouts of lists. -/
inductive ListStorage where
  | regular
  | large
  | fixedSize (length : Int)
deriving DecidableEq, Repr

/-- The types of column values. -/
inductive DataType where
  | null
  | boolean
  | integer (signed : Bool) (width : Width)
  | float32
  | float64
  | decimal (precision : Nat) (scale : Int)
  | text (storage : Storage)
  | binary (storage : Storage)
  | fixedSizeBinary (length : Int)
  | date32
  | date64
  | time32 (unit : TimeUnit)
  | time64 (unit : TimeUnit)
  | duration (unit : TimeUnit)
  | timestamp (unit : TimeUnit) (zone : Option String)
  /-- A list, with the metadata of the field that describes its elements. -/
  | list (storage : ListStorage) (element : DataType) (metadata : List (String × String))
deriving DecidableEq, Repr

namespace DataType

/-- Signed integers of 32 bits. -/
abbrev int32 : DataType := .integer true .w32

/-- Signed integers of 64 bits. -/
abbrev int64 : DataType := .integer true .w64

/-- Texts in the regular layout. -/
abbrev utf8 : DataType := .text .regular

/-- Bytes in the regular layout. -/
abbrev bytes : DataType := .binary .regular

/-- Whether values are integers. -/
def isInteger : DataType → Bool
  | integer .. => true
  | _ => false

/-- Whether values are numbers. -/
def isNumeric : DataType → Bool
  | integer .. | float32 | float64 | decimal .. => true
  | _ => false

/-- Whether values are texts. -/
def isText : DataType → Bool
  | text .. => true
  | _ => false

/-- Whether values are bytes of any number. -/
def isBinary : DataType → Bool
  | binary .. => true
  | _ => false

/-- The name of a layout in front of the name of what it stores. -/
def storageName (base : String) : Storage → String
  | .regular => base
  | .large => "Large" ++ base
  | .view => base ++ "View"

/-- The metadata of a field, as types show it. -/
def metadataText (metadata : List (String × String)) : String :=
  "\x7b" ++ String.intercalate ", "
    (metadata.map fun m ↦ Text.quote m.1 ++ ": " ++ Text.quote m.2) ++ "\x7d"

/-- The name of a type. -/
def name : DataType → String
  | null => "Null"
  | boolean => "Boolean"
  | integer signed width => (if signed then "Int" else "UInt") ++ toString width.bits
  | float32 => "Float32"
  | float64 => "Float64"
  | decimal precision scale =>
    "Decimal128(" ++ toString precision ++ ", " ++ Number.integerText scale ++ ")"
  | text storage => storageName "Utf8" storage
  | binary storage => storageName "Binary" storage
  | fixedSizeBinary length => "FixedSizeBinary(" ++ Number.integerText length ++ ")"
  | date32 => "Date32"
  | date64 => "Date64"
  | time32 unit => "Time32(" ++ unit.name ++ ")"
  | time64 unit => "Time64(" ++ unit.name ++ ")"
  | duration unit => "Duration(" ++ unit.name ++ ")"
  | timestamp unit zone => "Timestamp(" ++ unit.name ++ ", " ++ Text.quoteOption zone ++ ")"
  | list storage element metadata =>
    let field := "Field \x7b name: \"item\", data_type: " ++ element.name ++
      ", nullable: true, dict_id: 0, dict_is_ordered: false, metadata: " ++
      metadataText metadata ++ " \x7d"
    match storage with
    | .regular => "List(" ++ field ++ ")"
    | .large => "LargeList(" ++ field ++ ")"
    | .fixedSize length => "FixedSizeList(" ++ field ++ ", " ++ Number.integerText length ++ ")"

end DataType

end ForeignLayer
