import ForeignLayer.Filter.Condition
import ForeignLayer.Geometry.Value

/-!
# Features

What a layer holds: values for its fields in the order of the definition, at most one geometry, and
an id. Ids are signed numbers of 64 bits.
-/

namespace ForeignLayer

/-- A feature of a layer. -/
structure Feature where
  fid : Option Int
  /-- The values of the fields, in the native types of the fields. -/
  fields : List Scalar
  geometry : Option Geometry

namespace Feature

/-- The greatest id. -/
def maxFid : Int := 9223372036854775807

/-- Whether the geometry of a feature shares a point with a box, going by its own bounds; a feature
without geometry, or with an empty one, never does. -/
def overlaps (f : Feature) (box : Box) : Bool :=
  match f.geometry with
  | some g => !g.bounds.isEmpty && g.bounds.intersects box
  | none => false

end Feature

end ForeignLayer
