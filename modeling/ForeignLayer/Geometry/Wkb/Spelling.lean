import ForeignLayer.Geometry.Wkb.Tree

/-!
# Spellings of binary geometries

A tree forgets how its headers were spelled: which ordinates the code announced by thousands and
which by high bits, and whether a tag followed. Here is the grammar that keeps it. A `Heading` is a
header with its spelling, and `Node.Spelled` relates a tree and the tag of its outermost geometry to
the bytes that spell them.

The grammar takes a predicate on headings for the outermost geometry and another one for all those
inside. Without any restriction it is what reading accepts; the flavors and the normal form are
restrictions of it.
-/

namespace ForeignLayer.Geometry.Wkb

open Bytes

/-! ## Headings -/

/-- A header as it is spelled. The two ways to announce ordinates may be mixed. -/
structure Heading where
  order : Order
  kind : Kind
  /-- The ordinates that thousands announce. -/
  thousands : Dimensions
  /-- The ordinates that high bits announce. -/
  flags : Dimensions
  /-- The word behind the code, if a high bit announces one. -/
  tag : Option (BitVec 32)

namespace Heading

/-- The number of thousands that announce dimensions. -/
def thousandsOf : Dimensions → Nat
  | .xy => 0
  | .xyz => 1
  | .xym => 2
  | .xyzm => 3

/-- The type code of a heading. -/
def code (h : Heading) : Nat :=
  h.kind.code + 1000 * thousandsOf h.thousands + TypeCode.zFlag * h.flags.hasZ.toNat +
    TypeCode.mFlag * h.flags.hasM.toNat + TypeCode.tagFlag * h.tag.isSome.toNat

/-- The bytes of the word behind a code. -/
def tagBytes (order : Order) : Option (BitVec 32) → List UInt8
  | some word => order.encode 4 word.toNat
  | none => []

/-- The bytes of a heading. -/
def bytes (h : Heading) : List UInt8 :=
  h.order.mark :: (h.order.encode 4 h.code ++ tagBytes h.order h.tag)

/-- The ordinates that a heading announces either way. -/
def dims (h : Heading) : Dimensions :=
  .of (h.flags.hasZ || h.thousands.hasZ) (h.flags.hasM || h.thousands.hasM)

/-- The header that a heading spells; a tag of zero is none. -/
def header (h : Heading) : Header := ⟨h.order, h.kind, h.dims, h.tag.bind Srid.ofCode?⟩

/-- A restriction of headings. -/
abbrev Style := Heading → Prop

/-- No restriction. -/
def Free : Style := fun _ ↦ True

/-- Ordinates by thousands and no tag. -/
def Plain : Style := fun h ↦ h.flags = .xy ∧ h.tag = none

/-- Ordinates by high bits, and a tag, if there is one, that is not zero. -/
def Tagged : Style := fun h ↦ h.thousands = .xy ∧ h.tag ≠ some 0#32

/-- Ordinates by high bits and no tag. -/
def Untagged : Style := fun h ↦ h.thousands = .xy ∧ h.tag = none

end Heading

/-! ## Trees -/

/-- Bytes that spell a list of things one after the other. -/
def Sequence {α : Type} (part : α → List UInt8 → Prop) : List α → List UInt8 → Prop
  | [], bs => bs = []
  | a :: others, bs => ∃ first rest, part a first ∧ Sequence part others rest ∧ bs = first ++ rest

/-- Bytes that spell a number of parts and then the parts. -/
def Counted {α : Type} (order : Order) (part : α → List UInt8 → Prop) (parts : List α)
    (bs : List UInt8) : Prop :=
  parts.length < 4294967296 ∧ ∃ rest, Sequence part parts rest ∧
    bs = order.encode 4 parts.length ++ rest

/-- Bytes that spell a run of coordinates. -/
def Run.Spelled (order : Order) (dims : Dimensions) (r : Run) (bs : List UInt8) : Prop :=
  r.count < 4294967296 ∧ r.ordinates.length = r.count * (8 * dims.ordinates) ∧ bs = r.encode order

namespace Node

/-- The header of a tree under a tag. -/
def header (node : Node) (tag : Option Srid) : Header := ⟨node.order, node.kind, node.dims, tag⟩

theorem kind_ne_geometry (node : Node) : node.kind ≠ .geometry := by
  cases node with
  | collection _ _ k _ => cases k <;> exact Kind.noConfusion
  | _ => exact Kind.noConfusion

theorem eq_point {node : Node} {tag srid : Option Srid} {order : Order} {dims : Dimensions}
    (h : node.header tag = ⟨order, .point, dims, srid⟩) :
    ∃ ordinates, node = .point order dims ordinates := by
  cases node with
  | point order' dims' ordinates =>
    cases h
    exact ⟨ordinates, rfl⟩
  | collection _ _ k _ => cases k <;> cases h
  | _ => cases h

theorem eq_lineString {node : Node} {tag srid : Option Srid} {order : Order} {dims : Dimensions}
    (h : node.header tag = ⟨order, .lineString, dims, srid⟩) :
    ∃ run, node = .lineString order dims run := by
  cases node with
  | lineString order' dims' run =>
    cases h
    exact ⟨run, rfl⟩
  | collection _ _ k _ => cases k <;> cases h
  | _ => cases h

theorem eq_polygon {node : Node} {tag srid : Option Srid} {order : Order} {dims : Dimensions}
    (h : node.header tag = ⟨order, .polygon, dims, srid⟩) :
    ∃ rings, node = .polygon order dims rings := by
  cases node with
  | polygon order' dims' rings =>
    cases h
    exact ⟨rings, rfl⟩
  | collection _ _ k _ => cases k <;> cases h
  | _ => cases h

/-- Bytes that spell what follows the header of a tree. -/
def BodySpelled (member : Node → List UInt8 → Prop) : Node → List UInt8 → Prop
  | .point _ dims ordinates, bs => ordinates.length = 8 * dims.ordinates ∧ bs = ordinates
  | .lineString order dims run, bs => run.Spelled order dims bs
  | .polygon order dims rings, bs => Counted order (Run.Spelled order dims) rings bs
  | .collection order _ _ members, bs => Counted order member members bs

/-- Bytes that spell a tree and its tag, with members on as many levels as are given. The outermost
heading has one style, every other one another. -/
def Spelled (inner : Heading.Style) :
    (levels : Nat) → (outer : Heading.Style) → Node → Option Srid → List UInt8 → Prop
  | 0, _, _, _, _ => False
  | levels + 1, outer, node, tag, bs =>
    ∃ (h : Heading) (body : List UInt8), outer h ∧ h.header = node.header tag ∧
      node.BodySpelled (fun m part ↦ ∃ t, Spelled inner levels inner m t part) body ∧
      bs = h.bytes ++ body

end Node

/-- Bytes in normal form: ordinates by high bits everywhere, and a tag on nothing but the outermost
geometry, where it is not zero. -/
def IsNormal (bs : List UInt8) : Prop :=
  ∃ node tag, Node.Spelled Heading.Untagged (maxDepth + 1) Heading.Tagged node tag bs

end ForeignLayer.Geometry.Wkb
