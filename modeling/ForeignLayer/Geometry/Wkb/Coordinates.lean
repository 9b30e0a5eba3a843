import ForeignLayer.Geometry.Shape
import ForeignLayer.Geometry.Wkb.Header

/-!
# Coordinates of binary geometries

The reading of bytes as a shape, for those who want coordinates rather than structure. It is
lenient where strictness is not its job: bytes after the geometry are not looked at, tags are
skipped, and codes that no writer produces are taken by their lowest bits.

The members of a multi geometry are laid out by the outer header alone. Their own headers are
stepped over, and the only thing taken from one is whether a tag lies between it and what follows,
read in the byte order of the outer geometry. The points of a multi point are found by position,
each a fixed stride after the one before it. The members of a collection have headers of their own.
-/

namespace ForeignLayer.Geometry.Wkb

open Bytes Number

/-- Collections may be nested this many levels deep. -/
def maxCollections : Nat := 128

/-- A header as the reading of coordinates takes it. -/
structure Layout where
  order : Order
  /-- The number of the kind, from the lowest bits of the code. -/
  kind : Nat
  dims : Dimensions

namespace Layout

/-- The dimensions that a code names: its high bits if one is set, else its thousands. -/
def dimsOfCode (code : Nat) : Dimensions :=
  let flagZ := code / TypeCode.zFlag % 2 == 1
  let flagM := code / TypeCode.mFlag % 2 == 1
  if flagZ || flagM then .of flagZ flagM
  else match code / 1000 with
    | 1 => .xyz
    | 2 => .xym
    | 3 => .xyzm
    | _ => .xy

/-- Whether a code announces a tag. -/
def hasTag (code : Nat) : Bool := code / TypeCode.tagFlag % 2 == 1

/-- Reads a header and steps over its tag. -/
def read : Reader Layout := do
  let order ← takeOrder
  let code ← takeWord order 4
  if hasTag code then discard <| take 4
  return ⟨order, code % 8, dimsOfCode code⟩

end Layout

/-! ## Parts without a header -/

/-- Reads one coordinate. -/
def readCoord (order : Order) (dims : Dimensions) : Reader Coord := do
  let word : Reader Double := (fun n ↦ ⟨BitVec.ofNat 64 n⟩) <$> takeWord order 8
  let x ← word
  let y ← word
  let more ← takeMany word (dims.ordinates - 2)
  return ⟨x, y, more⟩

/-- The coordinate of a point, none if every ordinate is NaN. -/
def pointOf (c : Coord) : Option Coord :=
  if c.x.isNaN && c.y.isNaN && c.more.all Floating.isNaN then none else some c

/-- Reads a counted list of parts. -/
def readCounted {α : Type} (order : Order) (part : Reader α) : Reader (List α) := do
  let count ← takeWord order 4
  takeMany part count

/-- Reads the coordinates of a line string or a ring. -/
def readCoords (order : Order) (dims : Dimensions) : Reader (List Coord) :=
  readCounted order (readCoord order dims)

/-- Reads the rings of a polygon. -/
def readRings (order : Order) (dims : Dimensions) : Reader (List (List Coord)) :=
  readCounted order (readCoords order dims)

/-! ## Members of multi geometries -/

/-- Steps over the header of a member, read in the byte order of the outer geometry. -/
def skipMemberHeader (order : Order) : Reader Unit := do
  discard <| takeByte
  let code ← takeWord order 4
  if Layout.hasTag code then discard <| take 4

/-- Reads the point of a multi point that starts here, and moves on by the stride of points. -/
def readMemberPoint (order : Order) (dims : Dimensions) : Reader (Option Coord) := fun c ↦ do
  let (coord, _) ← (skipMemberHeader order *> readCoord order dims).run c
  let (_, next) ← (take (5 + 8 * dims.ordinates)).run c
  return (pointOf coord, next)

/-! ## Shapes -/

/-- Reads a shape; `collection` reads what follows the header of a collection. -/
def readShape (collection : Layout → Reader Shape) : Reader Shape := do
  let h ← Layout.read
  match h.kind with
  | 1 => (.point h.dims ∘ pointOf) <$> readCoord h.order h.dims
  | 2 => .lineString h.dims <$> readCoords h.order h.dims
  | 3 => .polygon h.dims <$> readRings h.order h.dims
  | 4 => .multiPoint h.dims <$> readCounted h.order (readMemberPoint h.order h.dims)
  | 5 => .multiLineString h.dims <$>
      readCounted h.order (skipMemberHeader h.order *> readCoords h.order h.dims)
  | 6 => .multiPolygon h.dims <$>
      readCounted h.order (skipMemberHeader h.order *> readRings h.order h.dims)
  | 7 => collection h
  | _ => throw .unreadable

/-- Reads a shape, with collections on as many levels as are given. -/
def readShapeLevels : Nat → Reader Shape
  | 0 => readShape fun _ ↦ throw .unreadable
  | levels + 1 => readShape fun h ↦
    .collection h.dims <$> readCounted h.order (readShapeLevels levels)

/-- Reads the shape at the start of bytes; every fault is one and the same. -/
def shapeOfBytes (bytes : List UInt8) : Except Fault Shape :=
  match (readShapeLevels maxCollections).run ⟨0, bytes⟩ with
  | .ok (shape, _) => .ok shape
  | .error _ => .error .unreadable

end ForeignLayer.Geometry.Wkb
