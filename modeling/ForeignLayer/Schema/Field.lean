import ForeignLayer.Geometry.Srid
import ForeignLayer.Json.Value
import ForeignLayer.Number.Reading
import ForeignLayer.Text.Blank
import ForeignLayer.Text.Letter
import ForeignLayer.Value.DataType

/-!
# Fields of a relational schema

A field names the type of a column and carries metadata, texts under keys. Two of the keys make a
field an extension of its type; geometries are such an extension, stored as bytes, and the extension
metadata of a geometry, a JSON text, may name its reference system.
-/

namespace ForeignLayer

/-- Texts under keys. -/
abbrev Metadata := List (String × String)

/-- The text under a key. -/
def Metadata.get? (m : Metadata) (key : String) : Option String := m.lookup key

/-- Whether two metadata have the same entries, in any order. -/
def Metadata.same (m other : Metadata) : Bool := m.all other.contains && other.all m.contains

namespace Schema

/-- A field of a schema; every field may be null. -/
structure Field where
  name : String
  type : DataType
  metadata : Metadata := []
deriving DecidableEq, Repr

/-- The key of the name of an extension. -/
def extensionNameKey : String := "ARROW:extension:name"

/-- The key of the metadata of an extension. -/
def extensionMetadataKey : String := "ARROW:extension:metadata"

/-- The name of the extension for geometries. -/
def geometryExtension : String := "geoarrow.wkb"

/-- What the metadata of a field say about its type. -/
structure Extension where
  name : String
  /-- The type that values are stored in. -/
  storage : DataType
  metadata : Option String
deriving DecidableEq, Repr

/-- The field of an extension. -/
def Extension.toField (e : Extension) (name : String) : Field where
  name := name
  type := e.storage
  metadata := (extensionNameKey, e.name) ::
    (e.metadata.map fun m ↦ (extensionMetadataKey, m)).toList

namespace Field

/-- The extension that a field declares. -/
def extension? (f : Field) : Option Extension :=
  (f.metadata.get? extensionNameKey).map fun name ↦
    ⟨name, f.type, f.metadata.get? extensionMetadataKey⟩

/-- Whether two fields are the same, whatever the order of their metadata. -/
def same (f other : Field) : Bool :=
  f.name == other.name && f.type == other.type && f.metadata.same other.metadata

/-- A geometry field with the identifier of its reference system. -/
def ofGeometry (name : String) (storage : DataType) (srid : Option Int) : Field :=
  Extension.toField ⟨geometryExtension, storage,
    srid.map fun n ↦ "\x7b\"crs\":\"EPSG:" ++ Number.integerText n ++ "\"\x7d"⟩ name

/-- Whether a field declares geometries. -/
def isGeometry (f : Field) : Bool :=
  match f.extension? with
  | some e => e.name == geometryExtension
  | none => false

end Field

/-! ## Reference systems -/

/-- The identifier of an integer that fits 32 bits. -/
def identifierOf? (n : Json.Amount) : Option Int :=
  match n with
  | .integer n => if -2147483648 ≤ n ∧ n ≤ 2147483647 then some n else none
  | .real _ => none

/-- The identifier that a text spells. -/
def readIdentifier? (text : List Char) : Option Int := (Number.readInt32 text).toOption

/-- The identifier of a reference system given as an authority and a code. -/
def codeIdentifier? (text : String) : Option Int :=
  let (authority, rest) := text.toList.span (· ≠ ':')
  match rest with
  | [] => none
  | _ :: code =>
    match Text.upper (String.ofList authority) with
    | "EPSG" => readIdentifier? code
    | "OGC" => if Text.sameFolded (String.ofList code) "CRS84" then some 4326 else none
    | _ => none

/-- The identifier of a reference system: a text, a number, or an object that has an identifier of
the one authority whose codes are numbers. -/
def systemIdentifier? : Json.Value → Option Int
  | .string text => codeIdentifier? text
  | .number n => identifierOf? n
  | .object members => do
    let id ← (Json.Value.object members).get? "id"
    let .string authority ← id.get? "authority" | none
    if !Text.sameFolded authority "EPSG" then none
    match ← id.get? "code" with
    | .number n => identifierOf? n
    | .string text => readIdentifier? text.toList
    | _ => none
  | _ => none

/-- The metadata of an extension are no JSON text. -/
structure MetadataFault where

/-- The identifier of the reference system that a field declares, zero included. -/
def Field.systemCode (f : Field) : Except MetadataFault (Option Int) :=
  match f.extension?.bind Extension.metadata with
  | none => .ok none
  | some text =>
    if (Text.trim text.toList).isEmpty then .ok none
    else match Json.Value.read? text with
      | none => .error ⟨⟩
      | some value => .ok ((value.get? "crs").bind systemIdentifier?)

/-- The tag of the reference system that a field declares. -/
def Field.srid (f : Field) : Except MetadataFault (Option Geometry.Srid) := do
  return (← f.systemCode).bind fun n ↦ Geometry.Srid.ofCode? (BitVec.ofInt 32 n)

end Schema

/-- The fields of the columns of a table. -/
abbrev Schema := List Schema.Field

end ForeignLayer
