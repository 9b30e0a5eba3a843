import ForeignLayer.Column.Fault

/-!
# Faults of binding a table

Why a table cannot be bound to a layer. All of them are mistakes of the schema or of the settings,
found before anything is read.
-/

namespace ForeignLayer.Catalog

/-- Why a table cannot be bound to a layer. -/
inductive Fault where
  /-- The column that is set for feature ids does not exist. -/
  | noFidColumn (name : String)
  /-- The column of feature ids does not hold integers. -/
  | fidType (name : String) (t : DataType)
  /-- The column that is set for geometries does not exist. -/
  | noGeometryColumn (name : String)
  /-- The column that is set for geometries does not hold geometries. -/
  | notGeometry (name : String) (t : DataType)
  /-- A column is set for geometries, but the layer has none. -/
  | noGeometryField (name layer : String)
  /-- The metadata of a geometry column cannot be read. -/
  | metadata
  /-- A bound column has no conversions. -/
  | column (reason : Column.Fault)

/-- The wording of a fault. -/
def Fault.message : Fault → String
  | noFidColumn name => "fid_column '" ++ name ++ "' is not a column of the table"
  | fidType name t =>
    "Feature id column '" ++ name ++ "' must be an integer type but is " ++ t.name
  | noGeometryColumn name => "geometry_column '" ++ name ++ "' is not a column of the table"
  | notGeometry name t => "geometry_column '" ++ name ++ "' must be a geometry but is " ++ t.name
  | noGeometryField name layer =>
    "geometry_column '" ++ name ++ "' was given but layer '" ++ layer ++ "' has no geometry field"
  | metadata => "The metadata of a geometry column cannot be read"
  | column reason => reason.message

end ForeignLayer.Catalog
