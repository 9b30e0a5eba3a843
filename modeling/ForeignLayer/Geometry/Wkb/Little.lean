import ForeignLayer.Geometry.Shape
import ForeignLayer.Geometry.Wkb.Tree

/-!
# Binary geometries made here

Geometries that the library makes itself are plain and have their least significant bytes first:
shapes that were read from text, points, rectangles. An empty point is written with NaN ordinates.
-/

namespace ForeignLayer.Geometry.Wkb

open Bytes Number

/-- The bytes of a number. -/
def doubleBytes (x : Double) : List UInt8 := littleBytes 8 x.bits.toNat

/-- The bytes of a coordinate. -/
def coordBytes (c : Coord) : List UInt8 := (c.x :: c.y :: c.more).flatMap doubleBytes

/-- The run of some coordinates. -/
def Run.ofCoords (cs : List Coord) : Run := ⟨cs.length, cs.flatMap coordBytes⟩

namespace Node

/-- The point with or without a coordinate. -/
def ofPoint (dims : Dimensions) (c : Option Coord) : Node :=
  .point .little dims <| match c with
    | some c => coordBytes c
    | none => (List.replicate dims.ordinates Floating.nan).flatMap doubleBytes

/-- The polygon of some rings. -/
def ofRings (dims : Dimensions) (rings : List (List Coord)) : Node :=
  .polygon .little dims (rings.map Run.ofCoords)

/-- The tree that writes a shape. -/
def ofShape : Shape → Node
  | .point d c => ofPoint d c
  | .lineString d cs => .lineString .little d (.ofCoords cs)
  | .polygon d rs => ofRings d rs
  | .multiPoint d ps => .collection .little d .multiPoint (ps.map (ofPoint d))
  | .multiLineString d ls =>
    .collection .little d .multiLineString (ls.map fun cs ↦ .lineString .little d (.ofCoords cs))
  | .multiPolygon d ps => .collection .little d .multiPolygon (ps.map (ofRings d))
  | .collection d ms => .collection .little d .geometryCollection (ofShapes ms)
where
  /-- The trees that write some shapes. -/
  ofShapes : List Shape → List Node
    | [] => []
    | member :: others => ofShape member :: ofShapes others

/-- The point at a coordinate in the plane. -/
def planePoint (x y : Double) : Node := ofPoint .xy (some ⟨x, y, []⟩)

/-- The polygon with one ring of coordinates in the plane, taken as given; without coordinates it
is empty. -/
def planePolygon (cs : List (Double × Double)) : Node :=
  ofRings .xy (if cs.isEmpty then [] else [cs.map fun c ↦ ⟨c.1, c.2, []⟩])

/-- The rectangle of a box. A box that is a single point is a point, an empty box an empty
polygon. -/
def ofBox (b : Box) : Node :=
  if b.isEmpty then planePolygon []
  else if b.minX.equal b.maxX && b.minY.equal b.maxY then planePoint b.minX b.minY
  else planePolygon
    [(b.minX, b.minY), (b.maxX, b.minY), (b.maxX, b.maxY), (b.minX, b.maxY), (b.minX, b.minY)]

/-- The plain bytes of a tree. -/
def bytes (node : Node) : List UInt8 := node.encode .iso none

end Node

end ForeignLayer.Geometry.Wkb
