import ForeignLayer.Proofs.WkbGrammar

/-!
# The framing of binary geometries

The bytes of a geometry say themselves where they end: what is read off them depends on nothing
behind them, and bytes that end earlier are told apart from bytes that are wrong. So accepted bytes
are prefix-free, and each of the two ways to get the length wrong has its own fault.

## What carries it

A reader is *incremental* if more bytes behind the cursor change neither what it reads nor any of
its faults, except the one for bytes that end too early, and if that fault names a place in the
buffer from which fewer bytes are left than it asks for. The two readers that touch bytes are
incremental, and whatever is composed of incremental readers is, so that the whole tree is read
incrementally. An accepted run is then cut short by every proper prefix: a run that ended otherwise
would end in the same way on the whole buffer.

## Counts from outside

Counts are read from the bytes and may be up to `2 ^ 32 - 1`. None of them is trusted: every part
that a count announces takes bytes of its own, so that a count that is greater than the number of
bytes that are left does not make reading go on for longer than one that is greater by one.
-/

namespace ForeignLayer.Geometry

/-- Whether a fault says that bytes end too early. -/
def Fault.IsTruncated (fault : Fault) : Prop := ∃ offset needed, fault = .truncated offset needed

namespace Wkb

open Bytes

-- Powers are the core library's, whichever other instances are in scope.
attribute [local instance (high)] instPowNat

variable {α β : Type}

/-! ## Cursors in a buffer -/

namespace Cursor

/-- Whether a cursor stands in a buffer: not behind its end, in front of the bytes that are left. -/
structure LiesIn (c : Cursor) (buffer : List UInt8) : Prop where
  offset_le : c.offset ≤ buffer.length
  rest_eq : c.rest = buffer.drop c.offset

/-- The place where the bytes end. -/
def stop (c : Cursor) : Nat := c.offset + c.rest.length

/-- The cursor with more bytes behind. -/
def extend (c : Cursor) (more : List UInt8) : Cursor := ⟨c.offset, c.rest ++ more⟩

/-- Whether a cursor is the other one moved on over bytes. -/
def Passes (c c' : Cursor) : Prop :=
  ∃ bs, c.rest = bs ++ c'.rest ∧ c'.offset = c.offset + bs.length

theorem Passes.refl (c : Cursor) : c.Passes c := ⟨[], rfl, rfl⟩

theorem Passes.trans {c c' c'' : Cursor} (h : c.Passes c') (h' : c'.Passes c'') :
    c.Passes c'' := by
  obtain ⟨bs, hrest, hoffset⟩ := h
  obtain ⟨bs', hrest', hoffset'⟩ := h'
  refine ⟨bs ++ bs', ?_, ?_⟩
  · rw [hrest, hrest', List.append_assoc]
  · rw [hoffset', hoffset, List.length_append, Nat.add_assoc]

theorem Passes.stop_eq {c c' : Cursor} (h : c.Passes c') : c'.stop = c.stop := by
  obtain ⟨bs, hrest, hoffset⟩ := h
  simp only [stop, hrest, hoffset, List.length_append]
  omega

theorem Passes.offset_le {c c' : Cursor} (h : c.Passes c') : c.offset ≤ c'.offset := by
  obtain ⟨bs, -, hoffset⟩ := h
  omega

theorem Passes.liesIn {c c' : Cursor} {buffer : List UInt8} (h : c.Passes c')
    (hc : c.LiesIn buffer) : c'.LiesIn buffer := by
  obtain ⟨bs, hrest, hoffset⟩ := h
  have hdrop := hc.rest_eq
  rw [hrest] at hdrop
  have hlength := congrArg List.length hdrop
  rw [List.length_append, List.length_drop] at hlength
  refine ⟨?_, ?_⟩
  · have := hc.offset_le
    omega
  · rw [hoffset, ← List.drop_drop, ← hdrop, List.drop_left]

end Cursor

/-! ## Reading one after the other -/

section Bind

variable {r : Reader α} {f : α → Reader β} {c : Cursor}

private theorem bind_eq (r : Reader α) (f : α → Reader β) (c : Cursor) :
    (r >>= f) c = (r c).bind fun p ↦ f p.1 p.2 := rfl

theorem bind_eq_ok {b : β} {c'' : Cursor} :
    (r >>= f) c = .ok (b, c'') ↔ ∃ a c', r c = .ok (a, c') ∧ f a c' = .ok (b, c'') := by
  rw [bind_eq]
  rcases r c with fault | ⟨a, c'⟩ <;> simp [Except.bind]

theorem bind_eq_error {fault : Fault} :
    (r >>= f) c = .error fault ↔
      r c = .error fault ∨ ∃ a c', r c = .ok (a, c') ∧ f a c' = .error fault := by
  rw [bind_eq]
  rcases r c with fault' | ⟨a, c'⟩ <;> simp [Except.bind]

end Bind

/-! ## Incremental readers -/

/-- Whether a reader goes through the bytes from front to back, and its outcome depends on the bytes
behind only if there are too few. -/
structure IsIncremental (r : Reader α) : Prop where
  passes : ∀ {c a c'}, r c = .ok (a, c') → c.Passes c'
  ok_extend : ∀ {c a c'}, r c = .ok (a, c') → ∀ more, r (c.extend more) = .ok (a, c'.extend more)
  error_extend : ∀ {c fault}, r c = .error fault → ¬fault.IsTruncated →
    ∀ more, r (c.extend more) = .error fault
  truncated : ∀ {c offset needed}, r c = .error (.truncated offset needed) →
    c.offset ≤ offset ∧ offset ≤ c.stop ∧ c.stop < offset + needed

namespace IsIncremental

variable {r : Reader α}

theorem pure (a : α) : IsIncremental (Pure.pure a : Reader α) where
  passes h := by
    cases h
    exact .refl _
  ok_extend h more := by
    cases h
    rfl
  error_extend h := by cases h
  truncated h := by cases h

theorem throw {fault : Fault} (hfault : ¬fault.IsTruncated) :
    IsIncremental (MonadExcept.throw fault : Reader α) where
  passes h := by cases h
  ok_extend h := by cases h
  error_extend h _ _ := by
    cases h
    rfl
  truncated h := by
    cases h
    exact absurd ⟨_, _, rfl⟩ hfault

theorem lift {e : Except Fault α} (he : ∀ fault, e = .error fault → ¬fault.IsTruncated) :
    IsIncremental (liftM e : Reader α) := by
  cases e with
  | error fault => exact throw (he fault rfl)
  | ok a => exact pure a

theorem bind {f : α → Reader β} (hr : IsIncremental r) (hf : ∀ a, IsIncremental (f a)) :
    IsIncremental (r >>= f) where
  passes h := by
    obtain ⟨a, c', hfirst, hsecond⟩ := bind_eq_ok.mp h
    exact (hr.passes hfirst).trans ((hf a).passes hsecond)
  ok_extend h more := by
    obtain ⟨a, c', hfirst, hsecond⟩ := bind_eq_ok.mp h
    exact bind_eq_ok.mpr ⟨a, _, hr.ok_extend hfirst more, (hf a).ok_extend hsecond more⟩
  error_extend h hfault more := by
    rcases bind_eq_error.mp h with hfirst | ⟨a, c', hfirst, hsecond⟩
    · exact bind_eq_error.mpr (.inl (hr.error_extend hfirst hfault more))
    · exact bind_eq_error.mpr (.inr ⟨a, _, hr.ok_extend hfirst more,
        (hf a).error_extend hsecond hfault more⟩)
  truncated h := by
    rcases bind_eq_error.mp h with hfirst | ⟨a, c', hfirst, hsecond⟩
    · exact hr.truncated hfirst
    · -- the second reader stands further on, and its bytes end where they ended before
      have hpasses := hr.passes hfirst
      have hinside := (hf a).truncated hsecond
      rw [hpasses.stop_eq] at hinside
      exact ⟨hpasses.offset_le.trans hinside.1, hinside.2⟩

theorem map {f : α → β} (hr : IsIncremental r) : IsIncremental (f <$> r) :=
  hr.bind fun a ↦ pure (f a)

theorem takeMany (hr : IsIncremental r) (count : Nat) : IsIncremental (takeMany r count) := by
  induction count with
  | zero => exact pure []
  | succ count ih => exact hr.bind fun first ↦ ih.bind fun others ↦ pure (first :: others)

/-- **A run that takes all bytes is cut short by every proper prefix of them.** -/
theorem exists_truncated (hr : IsIncremental r) {start : Nat} {p q : List UInt8} {a : α}
    {stop : Nat} (h : r ⟨start, p ++ q⟩ = .ok (a, ⟨stop, []⟩)) (hq : q ≠ []) :
    ∃ offset needed, r ⟨start, p⟩ = .error (.truncated offset needed) := by
  cases hp : r ⟨start, p⟩ with
  | ok result =>
    -- the same would be read off the whole, and bytes would be left
    have hwhole := hr.ok_extend hp q
    have hsame := hwhole.symm.trans h
    rw [Except.ok.injEq, Prod.mk.injEq, Cursor.extend, Cursor.mk.injEq] at hsame
    exact absurd (List.append_eq_nil_iff.mp hsame.2.2).2 hq
  | error fault =>
    by_cases hfault : fault.IsTruncated
    · obtain ⟨offset, needed, rfl⟩ := hfault
      exact ⟨offset, needed, rfl⟩
    · have hwhole := hr.error_extend hp hfault q
      cases hwhole.symm.trans h

end IsIncremental

/-! ## Bytes and words -/

theorem isIncremental_take (n : Nat) : IsIncremental (take n) where
  passes h := by
    obtain ⟨bs, -, hrest, hoffset⟩ := (recognizes_take n _ _ _).mp h
    exact ⟨bs, hrest, hoffset⟩
  ok_extend {c a c'} h more := by
    obtain ⟨bs, htaken, hrest, hoffset⟩ := (recognizes_take n _ _ _).mp h
    refine (recognizes_take n _ _ _).mpr ⟨bs, htaken, ?_, hoffset⟩
    simp only [Cursor.extend, hrest, List.append_assoc]
  error_extend {c fault} h hfault := by
    unfold take at h
    split at h
    · cases h
      exact absurd ⟨_, _, rfl⟩ hfault
    · cases h
  truncated {c offset needed} h := by
    unfold take at h
    split at h
    · next hlt =>
      cases h
      simp only [Cursor.stop]
      omega
    · cases h

theorem isIncremental_takeByte : IsIncremental takeByte where
  passes h := by
    obtain ⟨bs, -, hrest, hoffset⟩ := (recognizes_takeByte _ _ _).mp h
    exact ⟨bs, hrest, hoffset⟩
  ok_extend {c a c'} h more := by
    obtain ⟨bs, htaken, hrest, hoffset⟩ := (recognizes_takeByte _ _ _).mp h
    refine (recognizes_takeByte _ _ _).mpr ⟨bs, htaken, ?_, hoffset⟩
    simp only [Cursor.extend, hrest, List.append_assoc]
  error_extend {c fault} h hfault := by
    unfold takeByte at h
    split at h
    · cases h
      exact absurd ⟨_, _, rfl⟩ hfault
    · cases h
  truncated {c offset needed} h := by
    unfold takeByte at h
    split at h
    · next hnil =>
      cases h
      simp [Cursor.stop, hnil]
    · cases h

theorem isIncremental_takeWord (order : Order) (w : Nat) : IsIncremental (takeWord order w) :=
  (isIncremental_take w).map

theorem isIncremental_takeOrder : IsIncremental takeOrder := by
  refine isIncremental_takeByte.bind fun mark ↦ ?_
  cases Order.ofMark? mark with
  | some order => exact .pure order
  | none => exact .throw (by rintro ⟨_, _, ⟨⟩⟩)

/-! ## Trees -/

theorem not_isTruncated_of_decode {code : Nat} {fault : Fault}
    (h : TypeCode.decode code = .error fault) : ¬fault.IsTruncated := by
  rintro ⟨offset, needed, rfl⟩
  simp only [TypeCode.decode] at h
  split at h <;> cases hkind : Kind.ofCode? (code % TypeCode.tagFlag % 1000) <;>
    simp [hkind, Bind.bind, Except.bind, Pure.pure, Except.pure, throw, throwThe,
      MonadExceptOf.throw] at h

theorem isIncremental_header : IsIncremental Header.read := by
  refine isIncremental_takeOrder.bind fun order ↦ (isIncremental_takeWord order 4).bind fun code ↦
    (IsIncremental.lift fun _ ↦ not_isTruncated_of_decode).bind fun t ↦ ?_
  split
  · exact (isIncremental_takeWord order 4).bind fun tag ↦ .pure _
  · exact .pure _

theorem isIncremental_run (order : Order) (dims : Dimensions) :
    IsIncremental (Run.read order dims) :=
  (isIncremental_takeWord order 4).bind fun _ ↦ (isIncremental_take _).bind fun _ ↦ .pure _

theorem isIncremental_body {member : Reader (Node × Option Srid)} (hmember : IsIncremental member)
    (h : Header) : IsIncremental (Node.readBody member h) := by
  have hcollection (kind : CollectionKind) :
      IsIncremental (Node.readBody.collection member h kind) :=
    (isIncremental_takeWord h.order 4).bind fun count ↦ (hmember.map.takeMany count).map
  unfold Node.readBody
  split
  · exact .throw (by rintro ⟨_, _, ⟨⟩⟩)
  · exact (isIncremental_take _).map
  · exact (isIncremental_run _ _).map
  · exact (isIncremental_takeWord _ 4).bind fun count ↦ ((isIncremental_run _ _).takeMany count).map
  all_goals exact hcollection _

/-- **Trees are read incrementally.** -/
theorem isIncremental_levels (levels : Nat) : IsIncremental (Node.readLevels levels) := by
  induction levels with
  | zero => exact .throw (by rintro ⟨_, _, ⟨⟩⟩)
  | succ levels ih =>
    exact isIncremental_header.bind fun h ↦ (isIncremental_body ih h).bind fun node ↦ .pure _

/-! ## Rounds -/

/-- Whether a reader takes bytes whenever it reads something. -/
def MovesOn (r : Reader α) : Prop :=
  ∀ c a c', r c = .ok (a, c') → c'.rest.length < c.rest.length

theorem Recognizes.movesOn {r : Reader α} {P : α → List UInt8 → Prop} (hr : Recognizes r P)
    (hP : ∀ a bs, P a bs → bs ≠ []) : MovesOn r := by
  intro c a c' h
  obtain ⟨bs, hbs, hrest, -⟩ := (hr c a c').mp h
  have hpos := List.length_pos_of_ne_nil (hP a bs hbs)
  rw [hrest, List.length_append]
  omega

theorem movesOn_run (order : Order) (dims : Dimensions) : MovesOn (Run.read order dims) := by
  apply (recognizes_run order dims).movesOn
  rintro r bs ⟨-, -, rfl⟩ hnil
  have hlength := congrArg List.length hnil
  simp [Run.encode] at hlength

theorem movesOn_member (levels : Nat) : MovesOn (Prod.fst <$> Node.readLevels levels) := by
  apply (recognizes_untagged (recognizes_levels levels)).movesOn
  rintro m bs ⟨t, hspelled⟩ hnil
  cases levels with
  | zero => exact hspelled
  | succ levels =>
    obtain ⟨h, body, -, -, -, hbytes⟩ := hspelled
    cases hbytes.symm.trans hnil

section Rounds

variable {part : Reader α}

theorem MovesOn.count_le (hpart : MovesOn part) {count : Nat} {c c' : Cursor} {parts : List α}
    (h : takeMany part count c = .ok (parts, c')) : count + c'.rest.length ≤ c.rest.length := by
  induction count generalizing c parts with
  | zero =>
    cases h
    exact (Nat.zero_add _).le
  | succ count ih =>
    obtain ⟨first, c₁, hfirst, h⟩ := bind_eq_ok.mp h
    obtain ⟨others, c₂, hothers, h⟩ := bind_eq_ok.mp h
    cases h
    have hfewer := hpart _ _ _ hfirst
    have hle := ih hothers
    omega

/-- What could not be read for a count cannot be read for a greater one. -/
theorem takeMany_error_of_le {count count' : Nat} {c : Cursor} {fault : Fault}
    (h : takeMany part count c = .error fault) (hle : count ≤ count') :
    takeMany part count' c = .error fault := by
  induction count generalizing c count' with
  | zero => cases h
  | succ count ih =>
    obtain ⟨more, rfl⟩ := Nat.exists_eq_add_of_le hle
    rw [Nat.add_right_comm]
    rcases bind_eq_error.mp h with hfirst | ⟨first, c₁, hfirst, h⟩
    · exact bind_eq_error.mpr (.inl hfirst)
    · rcases bind_eq_error.mp h with hothers | ⟨others, c₂, -, h⟩
      · exact bind_eq_error.mpr (.inr ⟨first, c₁, hfirst,
          bind_eq_error.mpr (.inl (ih hothers (Nat.le_add_right count more)))⟩)
      · cases h

/-- **A count that cannot be right does not prolong reading.** -/
theorem MovesOn.takeMany_eq_of_lt (hpart : MovesOn part) {count : Nat} {c : Cursor}
    (h : c.rest.length < count) : takeMany part count c = takeMany part (c.rest.length + 1) c := by
  cases hread : takeMany part (c.rest.length + 1) c with
  | ok p =>
    have hle := hpart.count_le hread
    omega
  | error fault => exact takeMany_error_of_le hread h

end Rounds

/-! ## Lengths -/

theorem Heading.le_length_bytes (h : Heading) : 5 ≤ h.bytes.length := by
  simp only [Heading.bytes, List.length_cons, List.length_append, Order.length_encode]
  omega

theorem Header.length_encode (flavor : Flavor) (h : Header) :
    (Header.encode flavor h).length = if (flavor.keep h.srid).isSome then 9 else 5 := by
  obtain ⟨order, kind, dims, srid⟩ := h
  rcases flavor with _ | _ <;> rcases srid with _ | s <;> simp [Header.encode, Flavor.keep]

theorem length_flatMap_le {f g : α → List β} {xs : List α}
    (h : ∀ x ∈ xs, (f x).length ≤ (g x).length) :
    (xs.flatMap f).length ≤ (xs.flatMap g).length := by
  induction xs with
  | nil => rfl
  | cons x xs ih =>
    rw [List.forall_mem_cons] at h
    simp only [List.flatMap_cons, List.length_append]
    exact Nat.add_le_add h.1 (ih h.2)

/-- What is written is no shorter than a heading without a tag and the body of its tree. -/
theorem Written.length_encodeBody_le {style : Heading.Style} {node : Node} {tag : Option Srid}
    {bs : List UInt8} (h : Written style node tag bs) (flavor : Flavor) :
    5 + (node.encodeBody flavor).length ≤ bs.length := by
  induction h with
  | point h ordinates =>
    have hheading := h.le_length_bytes
    simp only [Node.encodeBody, List.length_append]
    omega
  | lineString h run =>
    have hheading := h.le_length_bytes
    simp only [Node.encodeBody, List.length_append]
    omega
  | polygon h rings =>
    have hheading := h.le_length_bytes
    simp only [Node.encodeBody, List.length_append]
    omega
  | collection h kind members _ _ _ _ ih =>
    have hheading := h.le_length_bytes
    -- members lose their tags, and nothing else changes in length
    have hmembers : ((members.map fun m ↦ m.1).flatMap (Node.encode flavor none)).length ≤
        (members.flatMap fun m ↦ m.2.2).length := by
      rw [List.flatMap_map]
      apply length_flatMap_le
      intro m hm
      have hkeep : flavor.keep none = none := by cases flavor <;> rfl
      rw [Node.encode_eq, List.length_append, Header.length_encode, Node.header, hkeep]
      exact ih m hm
    simp only [Node.encodeBody, List.length_append, Order.length_encode, List.length_map]
    omega

/-- The encoding of a tree is as long as its bytes were at most, but for a tag. -/
theorem Written.length_encode_le {style : Heading.Style} {node : Node} {tag : Option Srid}
    {bs : List UInt8} (h : Written style node tag bs) (flavor : Flavor) (s : Option Srid) :
    (node.encode flavor s).length ≤ bs.length + if (flavor.keep s).isSome then 4 else 0 := by
  have hbody := h.length_encodeBody_le flavor
  rw [Node.encode_eq, List.length_append, Header.length_encode, Node.header]
  split <;> omega

/-! ## Framing -/

variable {b : List UInt8}

theorem toIso_eq_error {fault : Fault} :
    toIso b = .error fault ↔ Node.ofBytes b = .error fault := by
  rw [toIso_eq]
  cases Node.ofBytes b <;> simp [Except.map]

theorem toExtended_eq_error {s : Option Srid} {fault : Fault} :
    toExtended b s = .error fault ↔ Node.ofBytes b = .error fault := by
  rw [toExtended_eq]
  cases Node.ofBytes b <;> simp [Except.map]

private theorem ofBytes_eq (b : List UInt8) :
    Node.ofBytes b = (Node.readLevels (maxDepth + 1) ⟨0, b⟩).bind fun p ↦
      if p.2.rest.isEmpty then .ok p.1 else .error (.trailing p.2.rest.length) := rfl

/-- What is accepted is a tree that takes the whole buffer. -/
theorem levels_of_ofBytes {result : Node × Option Srid} (h : Node.ofBytes b = .ok result) :
    ∃ stop, Node.readLevels (maxDepth + 1) ⟨0, b⟩ = .ok (result, ⟨stop, []⟩) := by
  rw [ofBytes_eq] at h
  rcases hlevels : Node.readLevels (maxDepth + 1) ⟨0, b⟩ with fault | ⟨result', stop, rest⟩
  · simp [hlevels, Except.bind] at h
  · by_cases hrest : rest = []
    · simp only [hlevels, Except.bind, hrest, List.isEmpty_nil, if_true, Except.ok.injEq] at h
      exact ⟨stop, by rw [h, hrest]⟩
    · simp [hlevels, Except.bind, hrest] at h

/-- A buffer ends too early if the reading of its tree meets the end. -/
theorem ofBytes_eq_truncated {offset needed : Nat} :
    Node.ofBytes b = .error (.truncated offset needed) ↔
      Node.readLevels (maxDepth + 1) ⟨0, b⟩ = .error (.truncated offset needed) := by
  rw [ofBytes_eq]
  rcases Node.readLevels (maxDepth + 1) ⟨0, b⟩ with fault | ⟨result, c⟩
  · simp [Except.bind]
  · by_cases hrest : c.rest = [] <;> simp [Except.bind, hrest]

theorem ofBytes_append {result : Node × Option Srid} (h : Node.ofBytes b = .ok result)
    {more : List UInt8} (hmore : more ≠ []) :
    Node.ofBytes (b ++ more) = .error (.trailing more.length) := by
  obtain ⟨stop, hread⟩ := levels_of_ofBytes h
  have hlonger : Node.readLevels (maxDepth + 1) ⟨0, b ++ more⟩ = .ok (result, ⟨stop, more⟩) :=
    (isIncremental_levels _).ok_extend hread more
  simp [ofBytes_eq, hlonger, Except.bind, hmore]

/-- What it means that binary geometries say themselves where they end. -/
structure IsFramed (b : List UInt8) : Prop where
  /-- Every proper prefix of accepted bytes ends too early. -/
  truncated_of_prefix : ∀ iso tag, toIso b = .ok (iso, tag) → ∀ p q, b = p ++ q → q ≠ [] →
    ∃ offset needed, toIso p = .error (.truncated offset needed) ∧
      ∀ s, toExtended p s = .error (.truncated offset needed)
  /-- All bytes behind accepted ones are trailing. -/
  trailing_of_extension : ∀ iso tag, toIso b = .ok (iso, tag) → ∀ more, more ≠ [] →
    toIso (b ++ more) = .error (.trailing more.length) ∧
      ∀ s, toExtended (b ++ more) s = .error (.trailing more.length)
  /-- Bytes that end too early do so within what is asked for, from a place in the buffer. -/
  truncated_inside : ∀ offset needed, (toIso b = .error (.truncated offset needed) ∨
    ∃ s, toExtended b s = .error (.truncated offset needed)) →
      offset ≤ b.length ∧ b.length < offset + needed
  /-- Bytes are taken from the buffer only. -/
  taken_inside : ∀ n c taken c', c.LiesIn b → take n c = .ok (taken, c') →
    c.offset + n ≤ b.length ∧ taken = (b.drop c.offset).take n ∧ c'.offset = c.offset + n
  /-- Wherever reading stands, at any level, it stands in the buffer. -/
  stays_inside : ∀ levels c result c', c.LiesIn b → Node.readLevels levels c = .ok (result, c') →
    c.offset ≤ c'.offset ∧ c'.LiesIn b
  /-- No count of rings or members makes reading go on for more rounds than there are bytes, and
  one. -/
  rounds_le : ∀ c, c.LiesIn b → ∀ count, b.length - c.offset < count →
    (∀ order dims, takeMany (Run.read order dims) count c =
      takeMany (Run.read order dims) (b.length - c.offset + 1) c) ∧
    ∀ levels, takeMany (Prod.fst <$> Node.readLevels levels) count c =
      takeMany (Prod.fst <$> Node.readLevels levels) (b.length - c.offset + 1) c
  /-- The plain form is no longer than what it was read from. -/
  length_iso_le : ∀ iso tag, toIso b = .ok (iso, tag) → iso.length ≤ b.length
  /-- The extended form is longer by a tag at most. -/
  length_extended_le : ∀ s extended, toExtended b s = .ok extended →
    extended.length ≤ b.length + 4

/-- **Binary geometries say themselves where they end.** -/
theorem isFramed (b : List UInt8) : IsFramed b where
  truncated_of_prefix iso tag h p q hsplit hq := by
    obtain ⟨node, hread, -⟩ := exists_of_toIso h
    obtain ⟨stop, hlevels⟩ := levels_of_ofBytes hread
    rw [hsplit] at hlevels
    obtain ⟨offset, needed, hcut⟩ := (isIncremental_levels _).exists_truncated hlevels hq
    have hfault := ofBytes_eq_truncated.mpr hcut
    exact ⟨offset, needed, toIso_eq_error.mpr hfault, fun s ↦ toExtended_eq_error.mpr hfault⟩
  trailing_of_extension iso tag h more hmore := by
    obtain ⟨node, hread, -⟩ := exists_of_toIso h
    have hfault := ofBytes_append hread hmore
    exact ⟨toIso_eq_error.mpr hfault, fun s ↦ toExtended_eq_error.mpr hfault⟩
  truncated_inside offset needed h := by
    have hfault : Node.ofBytes b = .error (.truncated offset needed) := by
      rcases h with hiso | ⟨s, hextended⟩
      · exact toIso_eq_error.mp hiso
      · exact toExtended_eq_error.mp hextended
    have hinside := (isIncremental_levels _).truncated (ofBytes_eq_truncated.mp hfault)
    rw [Cursor.stop, Nat.zero_add] at hinside
    exact hinside.2
  taken_inside n c taken c' hc h := by
    obtain ⟨bs, ⟨rfl, rfl⟩, hrest, hoffset⟩ := (recognizes_take n c taken c').mp h
    have hin := ((isIncremental_take _).passes h).liesIn hc
    refine ⟨?_, ?_, hoffset⟩
    · rw [← hoffset]
      exact hin.offset_le
    · rw [← hc.rest_eq, hrest, List.take_left]
  stays_inside levels c result c' hc h :=
    have hpasses := (isIncremental_levels levels).passes h
    ⟨hpasses.offset_le, hpasses.liesIn hc⟩
  rounds_le c hc count hlt := by
    have hleft : c.rest.length = b.length - c.offset := by rw [hc.rest_eq, List.length_drop]
    rw [← hleft] at hlt ⊢
    exact ⟨fun order dims ↦ (movesOn_run order dims).takeMany_eq_of_lt hlt,
      fun levels ↦ (movesOn_member levels).takeMany_eq_of_lt hlt⟩
  length_iso_le iso tag h := by
    obtain ⟨node, hread, rfl⟩ := exists_of_toIso h
    exact (ofBytes_eq_ok_iff_written.mp hread).1.length_encode_le .iso none
  length_extended_le s extended h := by
    rw [toExtended_eq] at h
    rcases hread : Node.ofBytes b with fault | ⟨node, tag⟩
    · rw [hread] at h
      cases h
    · rw [hread] at h
      obtain rfl : node.encode .extended s = extended := Except.ok.inj h
      have hle := (ofBytes_eq_ok_iff_written.mp hread).1.length_encode_le .extended s
      split at hle <;> omega

end Wkb

end ForeignLayer.Geometry
