import ForeignLayer.Geometry.Kind
import ForeignLayer.Layer.FieldType

/-!
# Layer definitions

The schema of a layer: its fields in order, its geometry fields, and the name of the feature id if
it has one. Names of fields may repeat; a look-up gives the first field that fits.
-/

namespace ForeignLayer.Layer

/-- A field of a layer. -/
structure Field where
  name : String
  type : FieldType
deriving DecidableEq, Repr

/-- A geometry field of a layer. -/
structure GeometryField where
  name : String
  kind : Geometry.Kind
deriving DecidableEq, Repr

/-- The schema of a layer. -/
structure Definition where
  name : String
  fields : List Field
  geometryFields : List GeometryField
  /-- The name of the feature id. -/
  fidColumn : Option String
deriving DecidableEq, Repr

namespace Definition

/-- The index of the field with a name. -/
def fieldIndex? (d : Definition) (name : String) : Option Nat :=
  d.fields.findIdx? fun f ↦ f.name == name

/-- The index of the first field with a name but for the case of its letters. -/
def foldedIndex? (d : Definition) (name : String) : Option Nat :=
  d.fields.findIdx? fun f ↦ Text.sameFolded f.name name

end Definition

end ForeignLayer.Layer
