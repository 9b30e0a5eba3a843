import ForeignLayer.Box
import ForeignLayer.Geometry.Fault

/-!
# Shapes

Geometries as coordinates: what a geometry covers, whatever way it was written. An empty point has
no coordinate. The parts of a multi shape share its dimensions, only the members of a collection
have their own.

Two readings of a shape live here: its bounds, the least box around its coordinates, and its
validity, which asks line strings for at least two coordinates and rings for four and an end that
meets the start.
-/

namespace ForeignLayer.Geometry

open Number

/-- A coordinate. -/
structure Coord where
  x : Double
  y : Double
  /-- The ordinates beyond X and Y, in the order of writing. -/
  more : List Double
deriving DecidableEq, Repr

/-- A geometry as coordinates. -/
inductive Shape where
  | point (dims : Dimensions) (coord : Option Coord)
  | lineString (dims : Dimensions) (coords : List Coord)
  | polygon (dims : Dimensions) (rings : List (List Coord))
  | multiPoint (dims : Dimensions) (points : List (Option Coord))
  | multiLineString (dims : Dimensions) (lines : List (List Coord))
  | multiPolygon (dims : Dimensions) (polygons : List (List (List Coord)))
  | collection (dims : Dimensions) (members : List Shape)

namespace Shape

/-- The dimensions of the outermost shape. -/
def dims : Shape → Dimensions
  | point d _ | lineString d _ | polygon d _ | multiPoint d _ | multiLineString d _
  | multiPolygon d _ | collection d _ => d

/-! ## Bounds -/

/-- Every coordinate of a shape, in the order of writing. -/
def coords : Shape → List Coord
  | point _ coord => coord.toList
  | lineString _ coords => coords
  | polygon _ rings => rings.flatten
  | multiPoint _ points => points.flatMap Option.toList
  | multiLineString _ lines => lines.flatten
  | multiPolygon _ polygons => polygons.flatten.flatten
  | collection _ members => coordsOfAll members
where
  /-- Every coordinate of some shapes. -/
  coordsOfAll : List Shape → List Coord
    | [] => []
    | member :: others => member.coords ++ coordsOfAll others

/-- The least box around the coordinates of a shape. -/
def bounds (s : Shape) : Box := s.coords.foldl (fun b c ↦ b.extend c.x c.y) .empty

/-! ## Validity -/

/-- Checks that a line string does not consist of a single coordinate. -/
def checkLine (coords : List Coord) : Except Fault Unit :=
  if coords.length = 1 then throw .shortLineString else return ()

/-- Checks that a ring has four coordinates and ends where it starts. -/
def checkRing (coords : List Coord) : Except Fault Unit :=
  if coords.length < 4 then throw (.shortRing coords.length)
  else match coords.head?, coords.getLast? with
    | some first, some last =>
      if first.x.equal last.x && first.y.equal last.y then return () else throw .openRing
    | _, _ => throw .openRing

/-- Checks every line string and every ring of a shape, the first fault winning. -/
def check : Shape → Except Fault Unit
  | point .. | multiPoint .. => return ()
  | lineString _ coords => checkLine coords
  | polygon _ rings => rings.forM checkRing
  | multiLineString _ lines => lines.forM checkLine
  | multiPolygon _ polygons => polygons.forM fun rings ↦ rings.forM checkRing
  | collection _ members => checkAll members
where
  /-- Checks some shapes. -/
  checkAll : List Shape → Except Fault Unit
    | [] => return ()
    | member :: others => do
      member.check
      checkAll others

end Shape

end ForeignLayer.Geometry
