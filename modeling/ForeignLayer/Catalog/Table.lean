import ForeignLayer.Catalog.Fault
import ForeignLayer.Column.Conversion
import ForeignLayer.Layer.Definition
import ForeignLayer.Settings

/-!
# Tables bound to layers

A table binds every column of a relational schema to what it stands for in a layer: the feature id,
the geometry, a field, or nothing. The binding is made once, from the schema, the settings and the
definition of the layer, and everything later looks only at the table.

The feature id is settled first, then the geometry; the other columns find their field by name. A
dropped column keeps its place but is bound to nothing, and so is a geometry column beside the
one that is bound, since a layer hands out one geometry.
-/

namespace ForeignLayer.Catalog

open Schema

/-! ## Columns -/

/-- What a column stands for in a layer. -/
inductive Binding where
  /-- Nothing; the column is null in every row. -/
  | unmatched
  /-- The feature id. -/
  | fid
  /-- A geometry field. -/
  | geometry (index : Nat) (kind : Geometry.Kind)
  /-- A field. -/
  | field (index : Nat) (field : Layer.Field)
deriving DecidableEq, Repr

/-- A column of a table. -/
structure Column where
  /-- The place of the column in the schema. -/
  ordinal : Nat
  name : String
  dropped : Bool
  type : ColumnType
  /-- Packs the tag of a geometry column; minus one for every other column. -/
  typeModifier : BitVec 32
  binding : Binding
  /-- The conversions of the column, or of its elements if it is a list; none if it is bound to
  nothing. -/
  conversion : Option Conversion
deriving DecidableEq

namespace Column

/-- The type of the elements of a list column. -/
def element? (c : Column) : Option ColumnType := c.type.element?

/-- Whether the column holds lists. -/
def isArray (c : Column) : Bool := c.element?.isSome

/-- Whether the column is bound to nothing. -/
def isUnmatched (c : Column) : Bool := c.binding == .unmatched

/-- Whether the column is bound to a geometry field. -/
def isGeometry (c : Column) : Bool :=
  match c.binding with
  | .geometry .. => true
  | _ => false

/-- Whether the column is the feature id. -/
def isFid (c : Column) : Bool := c.binding == .fid

/-- The index of the field or geometry field that the column is bound to. -/
def fieldIndex? (c : Column) : Option Nat :=
  match c.binding with
  | .geometry index _ => some index
  | .field index _ => some index
  | _ => none

/-- The field that the column is bound to. -/
def field? (c : Column) : Option Layer.Field :=
  match c.binding with
  | .field _ field => some field
  | _ => none

end Column

/-! ## Schemas -/

/-- The key that marks a dropped column. -/
def droppedKey : String := "sedona_ogr:dropped"

/-- Whether a field is marked as dropped. -/
def isDropped (f : Schema.Field) : Bool :=
  match f.metadata.get? droppedKey with
  | some text => Text.sameFolded text "true"
  | none => false

/-- The place of the first field with a name but for the case of its letters, dropped ones aside. -/
def position? (schema : Schema) (name : String) : Option Nat :=
  schema.findIdx? fun f ↦ !isDropped f && Text.sameFolded f.name name

/-- The field at a place, if it holds integers. -/
def holdsIntegers (schema : Schema) (i : Nat) : Bool :=
  (schema[i]?.map fun f ↦ f.type.isInteger).getD false

/-- The column that is meant for feature ids: the one that is set, else the one that has the name
that the layer gives them. -/
def designatedFid (schema : Schema) (layer : Layer.Definition) (settings : Settings.Table) :
    Except Fault (Option Nat) :=
  match settings.fidColumn with
  | some name =>
    match position? schema name with
    | some i => .ok (some i)
    | none => .error (.noFidColumn name)
  | none => .ok (layer.fidColumn.bind (position? schema))

/-- The column of feature ids. One that is meant for them has to hold integers; without one, a
column of integers with the usual name is taken. -/
def findFid (schema : Schema) (layer : Layer.Definition) (settings : Settings.Table) :
    Except Fault (Option Nat) := do
  match ← designatedFid schema layer settings with
  | none => return (position? schema "fid").filter (holdsIntegers schema)
  | some i =>
    match schema[i]? with
    | some f => if f.type.isInteger then return some i else throw (.fidType f.name f.type)
    | none => return none

/-- The column of geometries: the one that is set, else the first one, if the layer has any. -/
def findGeometry (schema : Schema) (layer : Layer.Definition) (settings : Settings.Table) :
    Except Fault (Option Nat) :=
  match settings.geometryColumn with
  | some name =>
    match (position? schema name).bind fun i ↦ (schema[i]?).map fun f ↦ (i, f) with
    | none => .error (.noGeometryColumn name)
    | some (i, f) =>
      if !f.isGeometry then .error (.notGeometry name f.type)
      else if layer.geometryFields.isEmpty then .error (.noGeometryField name layer.name)
      else .ok (some i)
  | none =>
    if layer.geometryFields.isEmpty then .ok none
    else .ok (schema.findIdx? fun f ↦ !isDropped f && f.isGeometry)

/-! ## Fields -/

/-- Options under the names of columns. -/
abbrev ColumnOptions := List (String × Metadata)

/-- The option that names the field of a column. -/
def fieldNameOption : String := "column_name"

/-- The name of a field with the characters that names of columns may have: lower case letters and
digits, everything else an underscore. -/
def launder (name : String) : String :=
  String.ofList (name.toList.map fun c ↦ if c.isAlphanum then c.toLower else '_')

/-- The index of the field that a column stands for: the one that its options name, else the one
with the name of the column, if need be after laundering. -/
def matchIndex? (options : ColumnOptions) (layer : Layer.Definition) (column : String) :
    Option Nat :=
  match (options.lookup column).bind (Metadata.get? · fieldNameOption) with
  | some name => layer.fieldIndex? name <|> layer.foldedIndex? name
  | none =>
    layer.foldedIndex? column <|>
      layer.fields.findIdx? fun f ↦ launder f.name == Text.lower column

/-- The binding of a column by name. -/
def matchField (options : ColumnOptions) (layer : Layer.Definition) (column : String) : Binding :=
  match matchIndex? options layer column with
  | none => .unmatched
  | some i =>
    match layer.fields[i]? with
    | some field => .field i field
    | none => .unmatched

/-! ## Tables -/

/-- A table bound to a layer. -/
structure Table where
  name : String
  layerName : String
  columns : List Column
deriving DecidableEq

/-- What the binding of a column depends on beside the column. -/
structure Context where
  options : ColumnOptions
  layer : Layer.Definition
  /-- The place of the column of feature ids. -/
  fid : Option Nat
  /-- The place of the column of geometries. -/
  geometry : Option Nat

/-- What a column stands for. -/
def Context.binding (ctx : Context) (ordinal : Nat) (f : Schema.Field) : Binding :=
  if isDropped f then .unmatched
  else if ctx.fid = some ordinal then .fid
  else if ctx.geometry = some ordinal then
    match ctx.layer.geometryFields with
    | field :: _ => .geometry 0 field.kind
    | [] => .unmatched
  else if f.isGeometry then .unmatched
  else matchField ctx.options ctx.layer f.name

/-- The type modifier of a column. -/
def typeModifier (f : Schema.Field) : Except Fault (BitVec 32) :=
  if f.isGeometry then
    match f.srid with
    | .ok srid => .ok (Geometry.Srid.typeModifier srid)
    | .error _ => .error .metadata
  else .ok (-1)

/-- Binds one column. -/
def Context.bindColumn (ctx : Context) (ordinal : Nat) (f : Schema.Field) :
    Except Fault Column := do
  let type := ColumnType.ofField f
  let modifier ← typeModifier f
  let binding := ctx.binding ordinal f
  let conversion ←
    if binding = .unmatched then pure none
    else some <$> (Conversion.resolve (type.element?.getD type)).mapError .column
  return ⟨ordinal, f.name, isDropped f, type, modifier, binding, conversion⟩

/-- Binds the columns from a place on. -/
def Context.bindColumns (ctx : Context) : (ordinal : Nat) → Schema → Except Fault (List Column)
  | _, [] => .ok []
  | ordinal, f :: rest => do
    let first ← ctx.bindColumn ordinal f
    let others ← ctx.bindColumns (ordinal + 1) rest
    return first :: others

namespace Table

/-- Binds a table to a layer. -/
def bind (name : String) (schema : Schema) (options : ColumnOptions) (layer : Layer.Definition)
    (settings : Settings.Table) : Except Fault Table := do
  let fid ← findFid schema layer settings
  let geometry ← findGeometry schema layer settings
  let columns ← Context.bindColumns ⟨options, layer, fid, geometry⟩ 0 schema
  return ⟨name, layer.name, columns⟩

/-- The column with a name, dropped ones aside. -/
def column? (t : Table) (name : String) : Option Column :=
  t.columns.find? fun c ↦ !c.dropped && c.name == name

/-- The column of geometries. -/
def geometry? (t : Table) : Option Column := t.columns.find? Column.isGeometry

/-- The column of feature ids. -/
def fid? (t : Table) : Option Column := t.columns.find? Column.isFid

end Table

end ForeignLayer.Catalog
