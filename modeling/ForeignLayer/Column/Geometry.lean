import ForeignLayer.Column.Conversion

/-!
# Geometries of columns

The way of a geometry from the scalar of a column to a layer and back. It always crosses in binary
form, through the conversions of its column, and what is no valid geometry is refused on the way in.
-/

namespace ForeignLayer

open Column

namespace Geometry

/-- The geometry of a scalar, none for a null. -/
def ofScalar? (c : Conversion) (s : Scalar) : Except Column.Fault (Option Geometry) := do
  if s.isNull then return none
  if s.bytes?.isNone then throw (.noGeometry s.type)
  let bs ← c.send s
  return some (← (ofBytes bs).mapError .geometry)

/-- The scalar of a geometry. A tag that is given, even "no tag", wins over the geometry's own. -/
def toScalar (g : Geometry) (c : Conversion) (srid : Option (Option Srid)) :
    Except Column.Fault Scalar :=
  c.receive (g.withSrid (srid.getD g.srid)).extended c.type.storage

end Geometry

/-- The scalar of a geometry under another tag. -/
def Scalar.withSrid (s : Scalar) (srid : Option Geometry.Srid) : Except Column.Fault Scalar :=
  if s.isNull then .ok s
  else match s.bytes? with
    | none => .error (.untaggable s)
    | some bs => do
      Scalar.ofBytes (← (Geometry.Wkb.toExtended bs srid).mapError .geometry) s.type

end ForeignLayer
