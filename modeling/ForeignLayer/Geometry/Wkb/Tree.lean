import ForeignLayer.Geometry.Wkb.Header

/-!
# Binary geometries as trees

`Node` is a binary geometry taken apart: byte orders, kinds, dimensions and counts are read, the
ordinates stay as they are written. Since a tree knows everything about its bytes except the
spelling of the headers and the tags, the plain and the extended form of a geometry are two
encodings of one tree, and bringing one form into the other is reading followed by encoding.

Reading is strict: the bytes hold one geometry and nothing else, and every fault is reported with
its place.
-/

namespace ForeignLayer.Geometry.Wkb

open Bytes

/-- A counted run of coordinates, as written. -/
structure Run where
  /-- The number of coordinates. -/
  count : Nat
  /-- The bytes of their ordinates. -/
  ordinates : List UInt8
deriving DecidableEq, Repr

/-- The kinds whose parts are geometries with headers of their own. -/
inductive CollectionKind where
  | multiPoint
  | multiLineString
  | multiPolygon
  | geometryCollection
deriving DecidableEq, Repr

/-- A collection kind among all kinds. -/
def CollectionKind.kind : CollectionKind → Kind
  | multiPoint => .multiPoint
  | multiLineString => .multiLineString
  | multiPolygon => .multiPolygon
  | geometryCollection => .geometryCollection

theorem CollectionKind.kind_injective {k k' : CollectionKind} (h : k.kind = k'.kind) : k = k' := by
  cases k <;> cases k' <;> first | rfl | cases h

/-- A binary geometry taken apart, without its tag. -/
inductive Node where
  | point (order : Order) (dims : Dimensions) (ordinates : List UInt8)
  | lineString (order : Order) (dims : Dimensions) (run : Run)
  | polygon (order : Order) (dims : Dimensions) (rings : List Run)
  | collection (order : Order) (dims : Dimensions) (kind : CollectionKind) (members : List Node)

namespace Node

/-- The byte order of the outermost geometry. -/
def order : Node → Order
  | point order .. | lineString order .. | polygon order .. | collection order .. => order

/-- The dimensions of the outermost geometry. -/
def dims : Node → Dimensions
  | point _ dims _ | lineString _ dims _ | polygon _ dims _ | collection _ dims _ _ => dims

/-- The kind of the outermost geometry. -/
def kind : Node → Kind
  | point .. => .point
  | lineString .. => .lineString
  | polygon .. => .polygon
  | collection _ _ kind _ => kind.kind

end Node

/-! ## Encoding -/

/-- The bytes of a run. -/
def Run.encode (order : Order) (r : Run) : List UInt8 := order.encode 4 r.count ++ r.ordinates

/-- The bytes of a tree in one flavor; the tag goes to the outermost geometry. -/
def Node.encode (flavor : Flavor) (tag : Option Srid) : Node → List UInt8
  | .point order dims ordinates => Header.encode flavor ⟨order, .point, dims, tag⟩ ++ ordinates
  | .lineString order dims run =>
    Header.encode flavor ⟨order, .lineString, dims, tag⟩ ++ run.encode order
  | .polygon order dims rings =>
    Header.encode flavor ⟨order, .polygon, dims, tag⟩ ++ order.encode 4 rings.length ++
      rings.flatMap (Run.encode order)
  | .collection order dims kind members =>
    Header.encode flavor ⟨order, kind.kind, dims, tag⟩ ++ order.encode 4 members.length ++
      encodeMembers flavor members
where
  /-- The bytes of members, which carry no tags. -/
  encodeMembers (flavor : Flavor) : List Node → List UInt8
    | [] => []
    | member :: others => member.encode flavor none ++ encodeMembers flavor others

/-! ## Reading -/

/-- Reads a counted run of coordinates. -/
def Run.read (order : Order) (dims : Dimensions) : Reader Run := do
  let count ← takeWord order 4
  let ordinates ← take (count * (8 * dims.ordinates))
  return ⟨count, ordinates⟩

/-- Reads what follows a header. `member` reads a geometry one level below. -/
def Node.readBody (member : Reader (Node × Option Srid)) (h : Header) : Reader Node :=
  match h.kind with
  | .geometry => throw .genericBody
  | .point => .point h.order h.dims <$> take (8 * h.dims.ordinates)
  | .lineString => .lineString h.order h.dims <$> Run.read h.order h.dims
  | .polygon => do
    let count ← takeWord h.order 4
    .polygon h.order h.dims <$> takeMany (Run.read h.order h.dims) count
  | .multiPoint => collection .multiPoint
  | .multiLineString => collection .multiLineString
  | .multiPolygon => collection .multiPolygon
  | .geometryCollection => collection .geometryCollection
where
  /-- Reads the members of a collection. -/
  collection (kind : CollectionKind) : Reader Node := do
    let count ← takeWord h.order 4
    .collection h.order h.dims kind <$> takeMany (Prod.fst <$> member) count

/-- Reads a geometry and its tag, with members on as many levels below it as are given. -/
def Node.readLevels : Nat → Reader (Node × Option Srid)
  | 0 => throw .tooDeep
  | levels + 1 => do
    let h ← Header.read
    let node ← Node.readBody (readLevels levels) h
    return (node, h.srid)

/-- Reads bytes as exactly one geometry of either flavor, with the tag of the outermost one. -/
def Node.ofBytes (bytes : List UInt8) : Except Fault (Node × Option Srid) := do
  let (result, c) ← (Node.readLevels (maxDepth + 1)).run ⟨0, bytes⟩
  if c.rest.isEmpty then return result
  else throw (.trailing c.rest.length)

/-- Brings either flavor into the plain one, with the tag that is lost by it. -/
def toIso (bytes : List UInt8) : Except Fault (List UInt8 × Option Srid) := do
  let (node, tag) ← Node.ofBytes bytes
  return (node.encode .iso none, tag)

/-- Brings either flavor into the extended one under a tag. -/
def toExtended (bytes : List UInt8) (tag : Option Srid) : Except Fault (List UInt8) := do
  let (node, _) ← Node.ofBytes bytes
  return node.encode .extended tag

end ForeignLayer.Geometry.Wkb
