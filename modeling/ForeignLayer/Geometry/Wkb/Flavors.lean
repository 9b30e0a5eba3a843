import ForeignLayer.Geometry.Wkb.Recognition

/-!
# The two flavors of a tree

What a tree encodes to in a flavor is one of its spellings, the one whose headings are all in that
flavor. Since reading takes every spelling of a tree, it takes both flavors back to the tree they
came from: the plain flavor loses the tag, and nothing else is lost.
-/

namespace ForeignLayer.Geometry.Wkb

open Bytes

/-! ## Headings in a flavor -/

namespace Flavor

/-- The tag that a flavor keeps. -/
def keep : Flavor → Option Srid → Option Srid
  | iso, _ => none
  | extended, tag => tag

/-- How a flavor writes the heading of the outermost geometry. -/
def outer : Flavor → Heading.Style
  | iso => Heading.Plain
  | extended => Heading.Tagged

/-- How a flavor writes the headings of all other geometries. -/
def inner : Flavor → Heading.Style
  | iso => Heading.Plain
  | extended => Heading.Untagged

/-- The heading of a header in a flavor. -/
def heading (flavor : Flavor) (h : Header) : Heading :=
  match flavor with
  | iso => ⟨h.order, h.kind, h.dims, .xy, none⟩
  | extended => ⟨h.order, h.kind, .xy, h.dims, h.srid.map Srid.code⟩

theorem header_heading (flavor : Flavor) (h : Header) :
    (flavor.heading h).header = { h with srid := flavor.keep h.srid } := by
  obtain ⟨order, kind, dims, srid⟩ := h
  cases flavor with
  | iso => cases dims <;> rfl
  | extended =>
    have hdims : (extended.heading ⟨order, kind, dims, srid⟩).dims = dims := by cases dims <;> rfl
    rw [Heading.header, hdims]
    cases srid with
    | none => rfl
    | some s =>
      show (⟨order, kind, dims, Srid.ofCode? s.code⟩ : Header) = _
      rw [Srid.ofCode?_code]
      rfl

theorem bytes_heading (flavor : Flavor) (h : Header) :
    (flavor.heading h).bytes = Header.encode flavor h := by
  obtain ⟨order, kind, dims, srid⟩ := h
  cases flavor with
  | iso =>
    have hcode : (iso.heading ⟨order, kind, dims, srid⟩).code =
        TypeCode.encode .iso ⟨kind, dims, false⟩ := by
      cases dims <;> rfl
    rw [Heading.bytes, hcode]
    rfl
  | extended =>
    have hcode : (extended.heading ⟨order, kind, dims, srid⟩).code =
        TypeCode.encode .extended ⟨kind, dims, srid.isSome⟩ := by
      cases dims <;> cases srid <;> rfl
    rw [Heading.bytes, hcode]
    cases srid <;> rfl

theorem outer_heading (flavor : Flavor) (h : Header) : flavor.outer (flavor.heading h) := by
  obtain ⟨order, kind, dims, srid⟩ := h
  cases flavor with
  | iso => exact ⟨rfl, rfl⟩
  | extended =>
    refine ⟨rfl, fun hzero ↦ ?_⟩
    obtain ⟨s, -, hs⟩ := Option.map_eq_some_iff.mp hzero
    exact s.nonzero hs

theorem inner_heading (flavor : Flavor) (h : Header) (hsrid : h.srid = none) :
    flavor.inner (flavor.heading h) := by
  cases flavor with
  | iso => exact ⟨rfl, rfl⟩
  | extended => exact ⟨rfl, congrArg (Option.map Srid.code) hsrid⟩

end Flavor

/-- A heading of the normal form is the one that the extended flavor writes for its header. -/
theorem Heading.Tagged.bytes_eq {h : Heading} (htagged : Heading.Tagged h) :
    h.bytes = Header.encode .extended h.header := by
  obtain ⟨order, kind, thousands, flags, tag⟩ := h
  obtain ⟨rfl, hzero⟩ : thousands = .xy ∧ tag ≠ some 0#32 := htagged
  have htag : (tag.bind Srid.ofCode?).map Srid.code = tag := by
    cases tag with
    | none => rfl
    | some word =>
      have hword : word ≠ 0#32 := fun h ↦ hzero (congrArg some h)
      rw [Option.bind_some, Srid.ofCode?, dif_neg hword, Option.map_some]
  have hheading : Flavor.extended.heading (Heading.header ⟨order, kind, .xy, flags, tag⟩) =
      ⟨order, kind, .xy, flags, tag⟩ := by
    rw [Heading.header, Flavor.heading, htag]
    cases flags <;> rfl
  rw [← Flavor.bytes_heading, hheading]

theorem Heading.Untagged.tagged {h : Heading} (huntagged : Heading.Untagged h) :
    Heading.Tagged h := by
  refine ⟨huntagged.1, ?_⟩
  rw [huntagged.2]
  exact fun hnone ↦ nomatch hnone

theorem Heading.Untagged.srid_eq {h : Heading} (huntagged : Heading.Untagged h) :
    h.header.srid = none := by
  rw [Heading.header, huntagged.2, Option.bind_none]

/-! ## Parts of a body -/

section Sequence

variable {α : Type} {P Q : α → List UInt8 → Prop} {parts : List α} {bs : List UInt8}

theorem Sequence.mono (h : Sequence P parts bs) (hPQ : ∀ a part, P a part → Q a part) :
    Sequence Q parts bs := by
  induction parts generalizing bs with
  | nil => exact h
  | cons a others ih =>
    obtain ⟨first, rest, hfirst, hrest, rfl⟩ := h
    exact ⟨first, rest, hPQ a first hfirst, ih hrest, rfl⟩

theorem Sequence.flatMap (h : Sequence P parts bs) (f : α → List UInt8)
    (hf : ∀ a part, P a part → Q a (f a)) : Sequence Q parts (parts.flatMap f) := by
  induction parts generalizing bs with
  | nil => rfl
  | cons a others ih =>
    obtain ⟨first, rest, hfirst, hrest, -⟩ := h
    exact ⟨f a, others.flatMap f, hf a first hfirst, ih hrest, List.flatMap_cons⟩

theorem Sequence.eq_flatMap (h : Sequence P parts bs) {f : α → List UInt8}
    (hf : ∀ a part, P a part → part = f a) : bs = parts.flatMap f := by
  induction parts generalizing bs with
  | nil => exact h
  | cons a others ih =>
    obtain ⟨first, rest, hfirst, hrest, rfl⟩ := h
    rw [List.flatMap_cons, ← hf a first hfirst, ← ih hrest]

end Sequence

namespace Node

/-- The bytes behind the header of a tree. -/
def encodeBody (flavor : Flavor) : Node → List UInt8
  | point _ _ ordinates => ordinates
  | lineString order _ run => run.encode order
  | polygon order _ rings => order.encode 4 rings.length ++ rings.flatMap (Run.encode order)
  | collection order _ _ members =>
    order.encode 4 members.length ++ members.flatMap (encode flavor none)

private theorem encodeMembers_eq (flavor : Flavor) (members : List Node) :
    encode.encodeMembers flavor members = members.flatMap (encode flavor none) := by
  induction members with
  | nil => rw [encode.encodeMembers, List.flatMap_nil]
  | cons member others ih => rw [encode.encodeMembers, ih, List.flatMap_cons]

theorem encode_eq (flavor : Flavor) (tag : Option Srid) (node : Node) :
    node.encode flavor tag = Header.encode flavor (node.header tag) ++ node.encodeBody flavor := by
  cases node with
  | point => rw [encode]; rfl
  | lineString => rw [encode]; rfl
  | polygon => rw [encode, List.append_assoc]; rfl
  | collection => rw [encode, encodeMembers_eq, List.append_assoc]; rfl

variable {P Q : Node → List UInt8 → Prop} {node : Node} {tag : Option Srid} {bs : List UInt8}

theorem BodySpelled.mono (h : node.BodySpelled P bs) (hPQ : ∀ m part, P m part → Q m part) :
    node.BodySpelled Q bs := by
  cases node with
  | collection =>
    obtain ⟨hlt, rest, hrest, rfl⟩ := h
    exact ⟨hlt, rest, hrest.mono hPQ, rfl⟩
  | _ => exact h

theorem BodySpelled.encodeBody (h : node.BodySpelled P bs) (flavor : Flavor)
    (hPQ : ∀ m part, P m part → Q m (m.encode flavor none)) :
    node.BodySpelled Q (node.encodeBody flavor) := by
  cases node with
  | point => exact ⟨h.1, rfl⟩
  | lineString => exact ⟨h.1, h.2.1, rfl⟩
  | polygon order dims rings =>
    obtain ⟨hlt, rest, hrest, rfl⟩ := h
    exact ⟨hlt, _, hrest.flatMap _ fun r part hr ↦ ⟨hr.1, hr.2.1, rfl⟩, rfl⟩
  | collection =>
    obtain ⟨hlt, rest, hrest, rfl⟩ := h
    exact ⟨hlt, _, hrest.flatMap _ hPQ, rfl⟩

theorem BodySpelled.eq_encodeBody (h : node.BodySpelled P bs) {flavor : Flavor}
    (hP : ∀ m part, P m part → part = m.encode flavor none) : bs = node.encodeBody flavor := by
  cases node with
  | point => exact h.2
  | lineString => exact h.2.2
  | polygon order dims rings =>
    obtain ⟨hlt, rest, hrest, rfl⟩ := h
    rw [hrest.eq_flatMap fun r part hr ↦ hr.2.2]
    rfl
  | collection =>
    obtain ⟨hlt, rest, hrest, rfl⟩ := h
    rw [hrest.eq_flatMap hP]
    rfl

/-! ## Whole trees -/

variable {inner outer : Heading.Style} {levels : Nat}

theorem Spelled.free (h : Spelled inner levels outer node tag bs) :
    Spelled Heading.Free levels Heading.Free node tag bs := by
  induction levels generalizing outer node tag bs with
  | zero => exact h
  | succ levels ih =>
    obtain ⟨heading, body, -, hheader, hbody, rfl⟩ := h
    exact ⟨heading, body, trivial, hheader, hbody.mono fun m part ⟨t, ht⟩ ↦ ⟨t, ih ht⟩, rfl⟩

/-- A tree that can be spelled is spelled by its encoding, in the headings of the flavor. -/
theorem Spelled.encode (h : Spelled inner levels outer node tag bs) (flavor : Flavor)
    {outer' : Heading.Style} (t : Option Srid)
    (houter : outer' (flavor.heading (node.header t))) :
    Spelled flavor.inner levels outer' node (flavor.keep t) (node.encode flavor t) := by
  induction levels generalizing outer outer' node tag bs t with
  | zero => exact h
  | succ levels ih =>
    obtain ⟨-, body, -, -, hbody, rfl⟩ := h
    refine ⟨flavor.heading (node.header t), node.encodeBody flavor, houter,
      flavor.header_heading _, hbody.encodeBody flavor fun m part ⟨t', hm⟩ ↦ ⟨_, ih hm none ?_⟩, ?_⟩
    · exact flavor.inner_heading _ rfl
    · rw [flavor.bytes_heading, encode_eq]

/-- Bytes in normal form are what the extended flavor writes. -/
theorem Spelled.eq_encode (h : Spelled Heading.Untagged levels outer node tag bs)
    (houter : ∀ heading, outer heading → Heading.Tagged heading) :
    bs = node.encode .extended tag := by
  induction levels generalizing outer node tag bs with
  | zero => exact h.elim
  | succ levels ih =>
    obtain ⟨heading, body, hheading, hheader, hbody, rfl⟩ := h
    rw [(houter heading hheading).bytes_eq, hheader, encode_eq]
    refine congrArg _ (hbody.eq_encodeBody fun m part ⟨t, hm⟩ ↦ ?_)
    have htag : t = none := by
      cases levels with
      | zero => exact hm.elim
      | succ levels =>
        obtain ⟨heading', -, hheading', hheader', -⟩ := hm
        rw [← hheading'.srid_eq, hheader']
        rfl
    rw [ih hm fun _ ↦ Heading.Untagged.tagged, htag]

/-- **Encoding a tree that was read and reading it again gives the tree**, with the tag that the
flavor keeps. -/
theorem ofBytes_encode (h : Node.ofBytes bs = .ok (node, tag)) (flavor : Flavor)
    (t : Option Srid) : Node.ofBytes (node.encode flavor t) = .ok (node, flavor.keep t) := by
  have hspelled := (Node.ofBytes_eq_ok.mp h).encode flavor t (flavor.outer_heading _)
  exact Node.ofBytes_eq_ok.mpr hspelled.free

end Node

/-- **Bytes in normal form are reproduced** by reading them and encoding what was read. -/
theorem IsNormal.encode_eq {bs : List UInt8} (h : IsNormal bs) {node : Node} {tag : Option Srid}
    (hread : Node.ofBytes bs = .ok (node, tag)) : node.encode .extended tag = bs := by
  obtain ⟨node', tag', hspelled⟩ := h
  have hread' := Node.ofBytes_eq_ok.mpr hspelled.free
  rw [hread, Except.ok.injEq, Prod.mk.injEq] at hread'
  obtain ⟨rfl, rfl⟩ := hread'
  exact (hspelled.eq_encode fun _ ↦ id).symm

theorem Node.isNormal_encode {bs : List UInt8} {node : Node} {tag : Option Srid}
    (h : Node.ofBytes bs = .ok (node, tag)) (t : Option Srid) :
    IsNormal (node.encode .extended t) :=
  ⟨node, t, (Node.ofBytes_eq_ok.mp h).encode .extended t (Flavor.outer_heading .extended _)⟩

end ForeignLayer.Geometry.Wkb
