import ForeignLayer.Proofs.Rewriting

/-!
# The grammar of binary geometries

The grammar that reading follows counts levels: it knows how many more there may be below every
geometry. Here is the grammar as a format has it, with one rule for every kind of geometry and no
limit, and the limit as what it is, a bound on how deep a tree is nested. The two agree level by
level.

The plain rewrite then takes exactly the bytes of this grammar whose tree is within the bound, and
what it gives back is the same tree in the same grammar, with headings that have neither high bits
nor tags. A tree holds the byte order, the kind, the dimensions, the counts and the ordinates of
every geometry in it, so none of these is changed by the rewrite.
-/

namespace ForeignLayer.Geometry.Wkb

open Bytes

/-! ## Trees and their depth -/

/-- How many levels of members there are below the outermost geometry. -/
def Node.depth : Node → Nat
  | .collection _ _ _ members => depthOfMembers members
  | _ => 0
where
  /-- How many levels there are from some members on. -/
  depthOfMembers : List Node → Nat
    | [] => 0
    | member :: others => max (member.depth + 1) (depthOfMembers others)

theorem Node.depthOfMembers_le {members : List Node} {levels : Nat} :
    Node.depth.depthOfMembers members ≤ levels ↔ ∀ m ∈ members, m.depth < levels := by
  induction members with
  | nil =>
    rw [depth.depthOfMembers]
    exact iff_of_true (Nat.zero_le levels) fun m hm ↦ absurd hm List.not_mem_nil
  | cons member others ih =>
    rw [depth.depthOfMembers, Nat.max_le, ih, List.forall_mem_cons, Nat.succ_le_iff]

/-- Whether a run has as many ordinates as it counts. -/
structure Run.Fits (dims : Dimensions) (r : Run) : Prop where
  count : r.count < 4294967296
  ordinates : r.ordinates.length = r.count * (8 * dims.ordinates)

/-! ## The grammar -/

/-- Bytes that spell a tree and the tag of its outermost geometry, with headings of one style. -/
inductive Written (style : Heading.Style) : Node → Option Srid → List UInt8 → Prop
  | point (h : Heading) (ordinates : List UInt8) (hstyle : style h) (hkind : h.kind = .point)
    (hordinates : ordinates.length = 8 * h.dims.ordinates) :
    Written style (.point h.order h.dims ordinates) (h.tag.bind Srid.ofCode?) (h.bytes ++ ordinates)
  | lineString (h : Heading) (run : Run) (hstyle : style h) (hkind : h.kind = .lineString)
    (hrun : run.Fits h.dims) :
    Written style (.lineString h.order h.dims run) (h.tag.bind Srid.ofCode?)
      (h.bytes ++ run.encode h.order)
  | polygon (h : Heading) (rings : List Run) (hstyle : style h) (hkind : h.kind = .polygon)
    (hcount : rings.length < 4294967296) (hrings : ∀ r ∈ rings, r.Fits h.dims) :
    Written style (.polygon h.order h.dims rings) (h.tag.bind Srid.ofCode?)
      (h.bytes ++ (h.order.encode 4 rings.length ++ rings.flatMap (Run.encode h.order)))
  /-- Members are geometries of the same grammar, each with a heading and a tag of its own. -/
  | collection (h : Heading) (kind : CollectionKind)
    (members : List (Node × Option Srid × List UInt8)) (hstyle : style h)
    (hkind : h.kind = kind.kind) (hcount : members.length < 4294967296)
    (hmembers : ∀ m ∈ members, Written style m.1 m.2.1 m.2.2) :
    Written style (.collection h.order h.dims kind (members.map fun m ↦ m.1))
      (h.tag.bind Srid.ofCode?)
      (h.bytes ++ (h.order.encode 4 members.length ++ members.flatMap fun m ↦ m.2.2))

/-! ## Level by level -/

theorem sequence_iff {α β : Type} {P : α → β → List UInt8 → Prop} {parts : List α}
    {bs : List UInt8} : Sequence (fun a part ↦ ∃ b, P a b part) parts bs ↔
      ∃ pieces : List (α × β × List UInt8), pieces.map (fun p ↦ p.1) = parts ∧
        (∀ p ∈ pieces, P p.1 p.2.1 p.2.2) ∧ bs = pieces.flatMap fun p ↦ p.2.2 := by
  induction parts generalizing bs with
  | nil =>
    constructor
    · intro h
      exact ⟨[], rfl, fun p hp ↦ absurd hp List.not_mem_nil, h⟩
    · rintro ⟨pieces, hparts, -, rfl⟩
      rw [List.map_eq_nil_iff.mp hparts]
      rfl
  | cons a others ih =>
    constructor
    · rintro ⟨first, rest, ⟨b, hfirst⟩, hrest, rfl⟩
      obtain ⟨pieces, rfl, hpieces, rfl⟩ := ih.mp hrest
      exact ⟨(a, b, first) :: pieces, rfl, List.forall_mem_cons.mpr ⟨hfirst, hpieces⟩, rfl⟩
    · rintro ⟨pieces, hparts, hpieces, rfl⟩
      cases pieces with
      | nil => cases hparts
      | cons piece pieces =>
        obtain ⟨rfl, rfl⟩ := List.cons.inj hparts
        obtain ⟨hfirst, hrest⟩ := List.forall_mem_cons.mp hpieces
        exact ⟨piece.2.2, _, ⟨piece.2.1, hfirst⟩, ih.mpr ⟨pieces, rfl, hrest, rfl⟩, rfl⟩

theorem sequence_run_iff {order : Order} {dims : Dimensions} {rings : List Run} {bs : List UInt8} :
    Sequence (Run.Spelled order dims) rings bs ↔
      (∀ r ∈ rings, r.Fits dims) ∧ bs = rings.flatMap (Run.encode order) := by
  induction rings generalizing bs with
  | nil => exact ⟨fun h ↦ ⟨fun r hr ↦ absurd hr List.not_mem_nil, h⟩, fun h ↦ h.2⟩
  | cons ring rings ih =>
    rw [List.forall_mem_cons, List.flatMap_cons]
    constructor
    · rintro ⟨first, rest, ⟨hcount, hordinates, rfl⟩, hrest, rfl⟩
      obtain ⟨hfits, rfl⟩ := ih.mp hrest
      exact ⟨⟨⟨hcount, hordinates⟩, hfits⟩, rfl⟩
    · rintro ⟨⟨hfirst, hfits⟩, rfl⟩
      exact ⟨_, _, ⟨hfirst.count, hfirst.ordinates, rfl⟩, ih.mpr ⟨hfits, rfl⟩, rfl⟩

variable {style : Heading.Style} {node : Node} {tag : Option Srid} {bs : List UInt8}

/-- What is spelled on some levels is written, and no deeper than they go. -/
theorem Node.Spelled.written {levels : Nat} (h : Node.Spelled style levels style node tag bs) :
    Written style node tag bs ∧ node.depth < levels := by
  induction levels generalizing node tag bs with
  | zero => exact h.elim
  | succ levels ih =>
    obtain ⟨heading, body, hstyle, hheader, hbody, rfl⟩ := h
    cases node with
    | point order dims ordinates =>
      obtain ⟨rfl, hkind, rfl, rfl⟩ := Header.mk.inj hheader
      obtain ⟨hordinates, rfl⟩ := hbody
      exact ⟨.point heading body hstyle hkind hordinates, Nat.succ_pos levels⟩
    | lineString order dims run =>
      obtain ⟨rfl, hkind, rfl, rfl⟩ := Header.mk.inj hheader
      obtain ⟨hcount, hordinates, rfl⟩ := hbody
      exact ⟨.lineString heading run hstyle hkind ⟨hcount, hordinates⟩, Nat.succ_pos levels⟩
    | polygon order dims rings =>
      obtain ⟨rfl, hkind, rfl, rfl⟩ := Header.mk.inj hheader
      obtain ⟨hcount, rest, hrest, rfl⟩ := hbody
      obtain ⟨hrings, rfl⟩ := sequence_run_iff.mp hrest
      exact ⟨.polygon heading rings hstyle hkind hcount hrings, Nat.succ_pos levels⟩
    | collection order dims kind members =>
      obtain ⟨rfl, hkind, rfl, rfl⟩ := Header.mk.inj hheader
      obtain ⟨hcount, rest, hrest, rfl⟩ := hbody
      obtain ⟨pieces, rfl, hpieces, rfl⟩ := sequence_iff.mp hrest
      rw [List.length_map] at hcount ⊢
      have hwritten := fun m hm ↦ ih (hpieces m hm)
      refine ⟨.collection heading kind pieces hstyle hkind hcount fun m hm ↦ (hwritten m hm).1,
        Nat.lt_succ_of_le (Node.depthOfMembers_le.mpr ?_)⟩
      intro m hm
      obtain ⟨piece, hpiece, rfl⟩ := List.mem_map.mp hm
      exact (hwritten piece hpiece).2

/-- What is written is spelled on one level more than it is deep. -/
theorem Written.spelled (h : Written style node tag bs) {levels : Nat}
    (hdepth : node.depth ≤ levels) : Node.Spelled style (levels + 1) style node tag bs := by
  induction h generalizing levels with
  | point h ordinates hstyle hkind hordinates =>
    refine ⟨h, ordinates, hstyle, ?_, ⟨hordinates, rfl⟩, rfl⟩
    rw [Heading.header, hkind]
    rfl
  | lineString h run hstyle hkind hrun =>
    refine ⟨h, run.encode h.order, hstyle, ?_, ⟨hrun.count, hrun.ordinates, rfl⟩, rfl⟩
    rw [Heading.header, hkind]
    rfl
  | polygon h rings hstyle hkind hcount hrings =>
    refine ⟨h, _, hstyle, ?_, ⟨hcount, _, sequence_run_iff.mpr ⟨hrings, rfl⟩, rfl⟩, rfl⟩
    rw [Heading.header, hkind]
    rfl
  | collection h kind members hstyle hkind hcount hmembers ih =>
    have hshallow := Node.depthOfMembers_le.mp hdepth
    have hspelled : ∀ m ∈ members, Node.Spelled style levels style m.1 m.2.1 m.2.2 := by
      intro m hm
      have hlt := hshallow m.1 (List.mem_map_of_mem hm)
      cases levels with
      | zero => exact absurd hlt (Nat.not_lt_zero _)
      | succ levels => exact ih m hm (Nat.le_of_lt_succ hlt)
    refine ⟨h, _, hstyle, ?_, ⟨?_, _, sequence_iff.mpr ⟨members, rfl, hspelled, rfl⟩, rfl⟩, ?_⟩
    · rw [Heading.header, hkind]
      rfl
    · rwa [List.length_map]
    · rw [List.length_map]

/-- **Levels bound the depth, and nothing else.** -/
theorem Node.spelled_iff {levels : Nat} : Node.Spelled style (levels + 1) style node tag bs ↔
    Written style node tag bs ∧ node.depth ≤ levels := by
  constructor
  · intro h
    exact ⟨h.written.1, Nat.le_of_lt_succ h.written.2⟩
  · rintro ⟨h, hdepth⟩
    exact h.spelled hdepth

/-- **No bytes spell two trees.** -/
theorem Written.unique {node' : Node} {tag' : Option Srid}
    (h : Written Heading.Free node tag bs) (h' : Written Heading.Free node' tag' bs) :
    node = node' ∧ tag = tag' := by
  -- both trees are read on as many levels as the deeper one needs
  have hspelled := h.spelled (Nat.le_max_left node.depth node'.depth)
  have hspelled' := h'.spelled (Nat.le_max_right node.depth node'.depth)
  have hsame : (node, tag) = (node', tag') := (recognizes_levels _).unique hspelled hspelled'
  exact Prod.mk.inj hsame

/-! ## The plain form -/

theorem Heading.Plain.bytes_eq {h : Heading} (hplain : Heading.Plain h) :
    h.bytes = Header.encode .iso ⟨h.order, h.kind, h.dims, none⟩ := by
  obtain ⟨order, kind, thousands, flags, tag⟩ := h
  obtain ⟨rfl, rfl⟩ : flags = .xy ∧ tag = none := hplain
  have hdims : Heading.dims ⟨order, kind, thousands, .xy, none⟩ = thousands := by
    cases thousands <;> rfl
  rw [hdims, ← Flavor.bytes_heading]
  rfl

/-- A tree is written in one way only with headings that have no high bits. -/
theorem Written.eq_encode (h : Written Heading.Plain node tag bs) : bs = node.encode .iso none := by
  induction h with
  | point h ordinates hplain hkind _ =>
    rw [Node.encode_eq, Heading.Plain.bytes_eq hplain, hkind]
    rfl
  | lineString h run hplain hkind _ =>
    rw [Node.encode_eq, Heading.Plain.bytes_eq hplain, hkind]
    rfl
  | polygon h rings hplain hkind _ _ =>
    rw [Node.encode_eq, Heading.Plain.bytes_eq hplain, hkind]
    rfl
  | collection h kind members hplain hkind _ _ ih =>
    have hmembers : (members.flatMap fun m ↦ m.2.2) =
        (members.map fun m ↦ m.1).flatMap (Node.encode .iso none) := by
      rw [List.flatMap_map]
      exact List.flatMap_congr ih
    rw [Node.encode_eq, Heading.Plain.bytes_eq hplain, hkind, hmembers, Node.encodeBody,
      List.length_map]
    rfl

/-- A tree that is written at all is written without high bits and tags. -/
theorem Written.encode_iso (h : Written Heading.Free node tag bs) :
    Written Heading.Plain node none (node.encode .iso none) := by
  have hspelled := (h.spelled (Nat.le_refl node.depth)).encode .iso none
    (Flavor.outer_heading .iso _)
  exact (Node.Spelled.written hspelled).1

/-! ## The plain rewrite -/

/-- What bringing bytes into the plain flavor comes to. -/
structure RewritesToIso (b : List UInt8) : Prop where
  /-- Accepted are the bytes of one tree that is not nested too deep. -/
  accepted_iff : (∃ iso tag, toIso b = .ok (iso, tag)) ↔
    ∃ node tag, Written Heading.Free node tag b ∧ node.depth ≤ 64
  /-- There is only one such tree. -/
  unique : ∀ node tag node' tag', Written Heading.Free node tag b →
    Written Heading.Free node' tag' b → node = node' ∧ tag = tag'
  /-- The result is the same tree without high bits and tags, and the tag of the outermost
  geometry. -/
  rewritten_iff : ∀ iso tag, toIso b = .ok (iso, tag) ↔ ∃ node,
    Written Heading.Free node tag b ∧ node.depth ≤ 64 ∧ Written Heading.Plain node none iso

theorem ofBytes_eq_ok_iff_written : Node.ofBytes bs = .ok (node, tag) ↔
    Written Heading.Free node tag bs ∧ node.depth ≤ 64 :=
  Node.ofBytes_eq_ok.trans Node.spelled_iff

theorem toIso_eq_ok_iff {b iso : List UInt8} : toIso b = .ok (iso, tag) ↔ ∃ node,
    Written Heading.Free node tag b ∧ node.depth ≤ 64 ∧ Written Heading.Plain node none iso := by
  constructor
  · intro h
    obtain ⟨node, hread, rfl⟩ := exists_of_toIso h
    obtain ⟨hwritten, hdepth⟩ := ofBytes_eq_ok_iff_written.mp hread
    exact ⟨node, hwritten, hdepth, hwritten.encode_iso⟩
  · rintro ⟨node, hwritten, hdepth, hiso⟩
    have hread := ofBytes_eq_ok_iff_written.mpr ⟨hwritten, hdepth⟩
    rw [toIso_eq, hread, hiso.eq_encode]
    rfl

/-- **The plain rewrite accepts the grammar and keeps the content.** -/
theorem rewritesToIso (b : List UInt8) : RewritesToIso b where
  accepted_iff := by
    constructor
    · rintro ⟨iso, tag, h⟩
      obtain ⟨node, hwritten, hdepth, -⟩ := toIso_eq_ok_iff.mp h
      exact ⟨node, tag, hwritten, hdepth⟩
    · rintro ⟨node, tag, hwritten, hdepth⟩
      exact ⟨_, tag, toIso_eq_ok_iff.mpr ⟨node, hwritten, hdepth, hwritten.encode_iso⟩⟩
  unique _ _ _ _ h h' := h.unique h'
  rewritten_iff _ _ := toIso_eq_ok_iff

end ForeignLayer.Geometry.Wkb
