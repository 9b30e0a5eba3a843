import ForeignLayer.Catalog.Table
import ForeignLayer.Column.Geometry
import ForeignLayer.Layer.Feature
import ForeignLayer.Operation.Fault

/-!
# Rows

A row has a value for every column of a table. A row is read off a feature column by column, and
a feature is built from a row by giving every field null and then following the columns in order, so
that of two columns of one field the later one counts.

Geometry columns carry a tag of their own: what is read gets the tag of the column, and what is
written without a tag gets it too.
-/

namespace ForeignLayer.Operation

open Catalog

/-- The values of the columns of a table. -/
abbrev Row := List Scalar

/-- A step that only may fail. -/
abbrev Result := Except Fault

/-- The tag of a geometry column. -/
def columnSrid (c : Catalog.Column) : Option Geometry.Srid :=
  Geometry.Srid.ofTypeModifier? c.typeModifier

/-- The conversions of a geometry column. -/
def conversionOf (c : Catalog.Column) : Result Conversion :=
  match c.conversion with
  | some conversion => .ok conversion
  | none => .error (.misuse (.noConversions c.name))

/-! ## Reading -/

/-- The null of a type. -/
def nullOf (t : DataType) : Result Scalar :=
  if Convert.hasNull t then .ok (Scalar.nullOf t) else .error (.noNull t)

/-- A value in another type. -/
def castTo (s : Scalar) (t : DataType) : Result Scalar := (s.castTo t).mapError .column

/-- The scalar of an id. -/
def fidScalar (fid : Option Int) : Scalar := ⟨.int64, fid.map (BitVec.ofInt 64)⟩

/-- The value of a geometry column, with the tag of the column if it has one. -/
def geometryValue (c : Catalog.Column) (g : Geometry) : Result Scalar := do
  let conversion ← conversionOf c
  let value ← (g.toScalar conversion none).mapError .column
  match columnSrid c with
  | some srid => (value.withSrid (some srid)).mapError .column
  | none => return value

/-- The value of a column whose field has a type in the schema. -/
def columnValue (c : Catalog.Column) (t : DataType) (f : Feature) : Result Scalar :=
  match c.binding with
  | .unmatched => nullOf t
  | .fid => castTo (fidScalar f.fid) t
  | .geometry .. =>
    match f.geometry with
    | some g => geometryValue c g
    | none => nullOf t
  | .field index _ =>
    match f.fields[index]? with
    | some value => castTo value t
    | none => nullOf t

/-- The row of a feature. -/
def rowOf (table : Table) (f : Feature) : Result Row :=
  table.columns.mapM fun c ↦ columnValue c c.type.storage f

/-! ## Writing -/

/-- The feature whose fields are all null. -/
def blank (layer : Layer.Definition) : Feature :=
  ⟨none, layer.fields.map fun field ↦ Scalar.nullOf field.type.native, none⟩

/-- The id that a value stands for. -/
def fidOf (value : Scalar) : Result (Option Int) := do
  return (← castTo value .int64).integer?

/-- The geometry that the value of a column stands for, with the tag of the column if it has none
of its own. -/
def geometryOf (c : Catalog.Column) (value : Scalar) : Result (Option Geometry) := do
  let conversion ← conversionOf c
  let found ← (Geometry.ofScalar? conversion value).mapError .column
  return found.map fun g ↦ if g.srid.isSome then g else g.withSrid (columnSrid c)

/-- A feature with the value of one more column. -/
def setColumn (c : Catalog.Column) (value : Scalar) (f : Feature) : Result Feature := do
  match c.binding with
  | .unmatched => return f
  | .fid => return { f with fid := ← fidOf value }
  | .geometry .. => return { f with geometry := ← geometryOf c value }
  | .field index field =>
    if index < f.fields.length then
      return { f with fields := f.fields.set index (← castTo value field.type.native) }
    else throw (.misuse (.missingField c.name index))

/-- The feature of a row. -/
def featureOf (table : Table) (layer : Layer.Definition) (row : Row) : Result Feature :=
  (table.columns.zip row).foldlM (fun f (c, value) ↦ setColumn c value f) (blank layer)

end ForeignLayer.Operation
