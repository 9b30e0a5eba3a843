import ForeignLayer.Number.Floating

/-!
# Boxes

Rectangles with sides along the axes, the unit of spatial search. The empty box is inverted: its
lower bounds are positive infinity and its upper bounds negative infinity, so that extending it by
a coordinate needs no special case. Only the order of numbers is used, never arithmetic, and a
coordinate with a NaN never counts: that is how an empty point is written.
-/

namespace ForeignLayer

open Number

/-- A rectangle with sides along the axes. -/
structure Box where
  minX : Double
  minY : Double
  maxX : Double
  maxY : Double
deriving DecidableEq, Repr

namespace Box

/-- The box that holds nothing. -/
def empty : Box := ⟨.infinity false, .infinity false, .infinity true, .infinity true⟩

/-- The box of two ranges of integers. -/
def ofRanges (x y : Int × Int) : Box := ⟨.ofInt x.1, .ofInt y.1, .ofInt x.2, .ofInt y.2⟩

/-- Whether a box holds nothing: one of its ranges is inverted. -/
def isEmpty (b : Box) : Bool := b.maxX.lt b.minX || b.maxY.lt b.minY

/-- The least box that also holds a coordinate, unless an ordinate is NaN. -/
def extend (b : Box) (x y : Double) : Box :=
  if x.isNaN || y.isNaN then b
  else ⟨b.minX.min x, b.minY.min y, b.maxX.max x, b.maxY.max y⟩

/-- The least box that also holds another one. -/
def merge (b other : Box) : Box :=
  if other.isEmpty then b
  else (b.extend other.minX other.minY).extend other.maxX other.maxY

/-- Whether two boxes share a point; an empty box shares none. -/
def intersects (b other : Box) : Bool :=
  !b.isEmpty && !other.isEmpty && b.minX.le other.maxX && other.minX.le b.maxX &&
    b.minY.le other.maxY && other.minY.le b.maxY

/-- Whether another box lies within a box; an empty one lies nowhere. -/
def contains (b other : Box) : Bool :=
  !b.isEmpty && !other.isEmpty && b.minX.le other.minX && other.maxX.le b.maxX &&
    b.minY.le other.minY && other.maxY.le b.maxY

/-- Whether two boxes have numerically equal bounds. -/
def equal (b other : Box) : Bool :=
  b.minX.equal other.minX && b.minY.equal other.minY && b.maxX.equal other.maxX &&
    b.maxY.equal other.maxY

end Box

end ForeignLayer
