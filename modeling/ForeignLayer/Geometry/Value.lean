import ForeignLayer.Geometry.Wkb.Coordinates
import ForeignLayer.Geometry.Wkb.Flavors
import ForeignLayer.Geometry.Wkb.Little
import ForeignLayer.Geometry.Wkt.Reader
import ForeignLayer.Geometry.Wkt.Writer
import ForeignLayer.Text.Blank

/-!
# Geometry values

A geometry as it is handed to a layer: its tree, the shape that its plain bytes hold, and the tag of
its reference system. A value is only made from bytes or text that are valid, and the proofs of it
travel with the value: its plain bytes are read as its tree, they hold its shape, and the shape
passes the checks. So asking a value for its bounds cannot fail, and neither can reading it again.
-/

namespace ForeignLayer

open ForeignLayer.Geometry

/-- A valid geometry with the tag of its reference system. -/
structure Geometry where
  /-- The geometry as it is written. -/
  node : Wkb.Node
  /-- The coordinates of its plain bytes. -/
  shape : Shape
  /-- The tag of the reference system. -/
  srid : Option Srid
  node_eq : Wkb.Node.ofBytes node.bytes = .ok (node, none)
  shape_eq : Wkb.shapeOfBytes node.bytes = .ok shape
  valid : shape.check = .ok ()

namespace Geometry

/-- Reads either flavor of binary geometry and checks its shape. -/
def ofBytes (bytes : List UInt8) : Except Fault Geometry :=
  match hnode : Wkb.Node.ofBytes bytes with
  | .error fault => .error fault
  | .ok (node, srid) =>
    match hshape : Wkb.shapeOfBytes node.bytes with
    | .error fault => .error fault
    | .ok shape =>
      match hvalid : shape.check with
      | .error fault => .error fault
      | .ok () =>
        .ok ⟨node, shape, srid, Wkb.Node.ofBytes_encode hnode .iso none, hshape, hvalid⟩

/-- The geometry under another tag. -/
def withSrid (g : Geometry) (srid : Option Srid) : Geometry := { g with srid }

/-- The plain bytes, without the tag. -/
def iso (g : Geometry) : List UInt8 := g.node.bytes

/-- The extended bytes, with the tag. -/
def extended (g : Geometry) : List UInt8 := g.node.encode .extended g.srid

/-- The kind of a geometry. -/
def kind (g : Geometry) : Kind := g.node.kind

/-- The least box around a geometry. -/
def bounds (g : Geometry) : Box := g.shape.bounds

/-! ## Values by their trees -/

theorem ext_node {g g' : Geometry} (hnode : g.node = g'.node) (hsrid : g.srid = g'.srid) :
    g = g' := by
  obtain ⟨node, shape, srid, hread, hshape, hvalid⟩ := g
  obtain ⟨node', shape', srid', hread', hshape', hvalid'⟩ := g'
  cases hnode
  cases hsrid
  cases hshape.symm.trans hshape'
  rfl

theorem ofBytes_of_node (g : Geometry) {bytes : List UInt8} {tag : Option Srid}
    (h : Wkb.Node.ofBytes bytes = .ok (g.node, tag)) : ofBytes bytes = .ok (g.withSrid tag) := by
  unfold ofBytes
  split
  · next hnode => rw [h] at hnode; cases hnode
  · next node srid hnode =>
    rw [h] at hnode
    cases hnode
    split
    · next hshape => rw [g.shape_eq] at hshape; cases hshape
    · next shape hshape =>
      have hg : shape = g.shape := by
        rw [g.shape_eq] at hshape
        cases hshape
        rfl
      split
      · next hvalid => rw [hg, g.valid] at hvalid; cases hvalid
      · exact congrArg Except.ok (ext_node rfl rfl)

theorem node_of_ofBytes {bytes : List UInt8} {g : Geometry} (h : ofBytes bytes = .ok g) :
    Wkb.Node.ofBytes bytes = .ok (g.node, g.srid) := by
  unfold ofBytes at h
  split at h
  · cases h
  · next node srid hnode =>
    split at h
    · cases h
    · split at h
      · cases h
      · cases h
        exact hnode

/-- Reading the plain or the extended form of a value gives the value back, with the tag that the
form keeps. -/
theorem ofBytes_encode (g : Geometry) (flavor : Wkb.Flavor) (tag : Option Srid) :
    ofBytes (g.node.encode flavor tag) = .ok (g.withSrid (flavor.keep tag)) :=
  g.ofBytes_of_node (Wkb.Node.ofBytes_encode g.node_eq flavor tag)

/-! ## Texts -/

/-- The text of a geometry, without its tag. -/
def text? (g : Geometry) : Option String := Wkt.write? g.shape

/-- The text of a geometry with its tag in front. -/
def taggedText? (g : Geometry) : Option String :=
  g.text?.map fun text ↦ match g.srid with
    | some s => "SRID=" ++ Number.integerText s.toInt ++ ";" ++ text
    | none => text

/-- Splits a tag in front of a text off. -/
def splitTag (text : List Char) : Except Fault (Option Srid × List Char) := do
  let text := Text.trim text
  if Text.sameFolded (String.ofList (text.take 5)) "SRID=" then
    let tag := (text.drop 5).takeWhile (· ≠ ';')
    match (text.drop 5).dropWhile (· ≠ ';') with
    | [] => throw (.unterminatedTag (String.ofList text))
    | _ :: rest =>
      match Number.readInt32 (Text.trim tag) with
      | .ok n => return (Srid.ofCode? (BitVec.ofInt 32 n), Text.trim rest)
      | .error reason => throw (.invalidTag (String.ofList tag) reason)
  else return (none, text)

/-- Reads a geometry text, with or without a tag in front. -/
def ofText (text : String) : Except Fault Geometry := do
  let (srid, body) ← splitTag text.toList
  match Wkt.read? body with
  | none => throw .malformedText
  | some shape =>
    let g ← ofBytes (Wkb.Node.ofShape shape).bytes
    return g.withSrid srid

end Geometry

end ForeignLayer
