import ForeignLayer.Layer.Store
import Mathlib

/-!
# Steps of layers

A layer is read feature by feature, and it can be written to in between. What matters for reading is
the list of the features behind the place of reading. A step of reading takes off what does not
match, and the first feature that does.

A write that succeeds changes the features at one place: a feature is appended, or the first one
with an id is replaced or taken out. A write that fails changes nothing.
-/

namespace ForeignLayer.Layer

variable {l l' : Layer} {f : Feature}

/-! ## Reading -/

/-- The features behind the place of reading. -/
def unread (l : Layer) : List Feature := l.features.drop l.cursor

/-- The features that are still to be read. -/
def remaining (l : Layer) : List Feature := (l.features.drop l.cursor).filter l.isMatch

theorem remaining_eq (l : Layer) : l.remaining = l.unread.filter l.isMatch := rfl

theorem seek_of_forall {test : Feature → Bool} {fs : List Feature}
    (h : ∀ g ∈ fs, test g = false) (place : Nat) :
    seek test place fs = (none, place + fs.length) := by
  induction fs generalizing place with
  | nil => rfl
  | cons g fs ih =>
    obtain ⟨hg, hfs⟩ := List.forall_mem_cons.mp h
    rw [seek, if_neg (Bool.eq_false_iff.mp hg), ih hfs, List.length_cons, Nat.add_right_comm,
      Nat.add_assoc]

/-- Seeking stops right behind the first feature that passes. -/
theorem seek_append {test : Feature → Bool} {skipped : List Feature}
    (hskipped : ∀ g ∈ skipped, test g = false) (hf : test f = true) (rest : List Feature)
    (place : Nat) :
    seek test place (skipped ++ f :: rest) = (some f, place + (skipped.length + 1)) := by
  induction skipped generalizing place with
  | nil => rw [List.nil_append, seek, if_pos hf, List.length_nil, Nat.zero_add]
  | cons g skipped ih =>
    obtain ⟨hg, hothers⟩ := List.forall_mem_cons.mp hskipped
    rw [List.cons_append, seek, if_neg (Bool.eq_false_iff.mp hg), ih hothers, List.length_cons,
      Nat.add_right_comm, Nat.add_assoc]

/-- A layer that is read on from another place. -/
def moveTo (l : Layer) (place : Nat) : Layer := { l with cursor := place }

/-- Everything that a step of reading can come to. -/
inductive Reads (l : Layer) : Option Feature × Layer → Prop
  /-- It hands out the first feature that matches, and all before it do not. -/
  | found {skipped : List Feature} {f : Feature} {place : Nat}
      (hunread : l.unread = skipped ++ f :: (l.moveTo place).unread)
      (hskipped : ∀ g ∈ skipped, l.isMatch g = false) (hf : l.isMatch f = true) :
      Reads l (some f, l.moveTo place)
  /-- There is none that matches, and reading has come to its end. -/
  | finished {place : Nat} (hunread : ∀ g ∈ l.unread, l.isMatch g = false)
      (hend : (l.moveTo place).unread = []) : Reads l (none, l.moveTo place)

theorem reads_next (l : Layer) : Reads l l.next := by
  rw [next]
  cases hfind : l.unread.find? l.isMatch with
  | none =>
    have hnone : ∀ g ∈ l.unread, l.isMatch g = false := by
      intro g hg
      exact Bool.eq_false_iff.mpr (List.find?_eq_none.mp hfind g hg)
    rw [← unread, seek_of_forall hnone]
    refine .finished hnone (List.drop_eq_nil_of_le ?_)
    rw [unread, List.length_drop]
    exact le_add_tsub
  | some f =>
    obtain ⟨hf, skipped, rest, hunread, hskipped⟩ := List.find?_eq_some_iff_append.mp hfind
    have hnone : ∀ g ∈ skipped, l.isMatch g = false := by
      intro g hg
      rw [← Bool.not_eq_true']
      exact hskipped g hg
    have hrest : l.features.drop (l.cursor + (skipped.length + 1)) = rest := by
      rw [← List.drop_drop, ← unread, hunread, List.append_cons]
      exact List.drop_left' List.length_append
    rw [← unread, hunread, seek_append hnone hf]
    refine .found ?_ hnone hf
    rw [hunread]
    exact congrArg (skipped ++ f :: ·) hrest.symm

theorem filter_eq_nil_of_forall {test : Feature → Bool} {fs : List Feature}
    (h : ∀ g ∈ fs, test g = false) : fs.filter test = [] :=
  List.filter_eq_nil_iff.mpr fun g hg ↦ Bool.eq_false_iff.mp (h g hg)

/-- A step of reading takes the first of the features that are still to be read, if there is one,
and leaves the others. -/
theorem Reads.remaining {r : Option Feature × Layer} (h : Reads l r) :
    r.1 = l.remaining.head? ∧ r.2.remaining = l.remaining.tail := by
  rw [remaining_eq l]
  cases h with
  | found hunread hskipped hf =>
    rw [hunread, List.filter_append, filter_eq_nil_of_forall hskipped, List.nil_append,
      List.filter_cons_of_pos hf]
    exact ⟨rfl, rfl⟩
  | finished hunread hend =>
    rw [filter_eq_nil_of_forall hunread, remaining_eq, hend]
    exact ⟨rfl, rfl⟩

theorem next_of_remaining_eq_nil (h : l.remaining = []) : l.next.1 = none := by
  obtain ⟨hfound, -⟩ := (reads_next l).remaining
  rw [h] at hfound
  exact hfound

theorem next_of_remaining_eq_cons {rest : List Feature} (h : l.remaining = f :: rest) :
    l.next.1 = some f ∧ l.next.2.remaining = rest := by
  obtain ⟨hfound, hrest⟩ := (reads_next l).remaining
  rw [h] at hfound hrest
  exact ⟨hfound, hrest⟩

/-! ## Writing -/

theorem getElem?_of_place? {id : Int} {i : Nat} (h : l.place? id = some i) :
    ∃ f, l.features[i]? = some f ∧ f.fid = some id := by
  obtain ⟨hlt, hfound, -⟩ := List.findIdx?_eq_some_iff_getElem.mp h
  exact ⟨_, List.getElem?_eq_getElem hlt, beq_iff_eq.mp hfound⟩

theorem place?_eq_some_iff {id : Int} {i : Nat} : l.place? id = some i ↔
    ∃ before old after, l.features = before ++ old :: after ∧ before.length = i ∧
      old.fid = some id ∧ ∀ g ∈ before, g.fid ≠ some id := by
  constructor
  · intro hplace
    obtain ⟨hlt, hfound, hbefore⟩ := List.findIdx?_eq_some_iff_getElem.mp hplace
    refine ⟨l.features.take i, l.features[i], l.features.drop (i + 1), ?_,
      List.length_take_of_le hlt.le, beq_iff_eq.mp hfound, ?_⟩
    · rw [← List.drop_eq_getElem_cons hlt, List.take_append_drop]
    · intro g hg hid
      obtain ⟨j, hj, rfl⟩ := List.mem_take_iff_getElem.mp hg
      exact hbefore j (hj.trans_le (min_le_left _ _)) (beq_iff_eq.mpr hid)
  · rintro ⟨before, old, after, hfeatures, rfl, hold, hbefore⟩
    have hnone : before.findIdx? (·.fid == some id) = none :=
      List.findIdx?_eq_none_iff.mpr fun g hg ↦ beq_eq_false_iff_ne.mpr (hbefore g hg)
    rw [place?, hfeatures, List.findIdx?_append, hnone, Option.none_or, List.findIdx?_cons,
      if_pos (beq_iff_eq.mpr hold), Option.map_some, Nat.zero_add]

theorem isSome_place? {id : Int} :
    (l.place? id).isSome = true ↔ ∃ g ∈ l.features, g.fid = some id := by
  simp [place?, List.findIdx?_isSome]

section Writable

variable (hwritable : l.failsWrites = false)

include hwritable

theorem checkWritable_of_not_failsWrites : l.checkWritable = .ok () := by
  rw [checkWritable, hwritable]
  rfl

theorem create_of_fid_eq_none (hfid : f.fid = none) :
    l.create f = .ok (l.nextFid, l.append f l.nextFid) := by
  rw [create, checkWritable_of_not_failsWrites hwritable, hfid]
  rfl

theorem create_of_fid_eq_some {id : Int} (hfid : f.fid = some id) : l.create f =
    if (l.place? id).isSome then .error (.taken id) else .ok (id, l.append f id) := by
  rw [create, checkWritable_of_not_failsWrites hwritable, hfid]
  show (if (l.place? id).isSome = true then _ else _) = _
  split_ifs <;> rfl

theorem set_of_place? {id : Int} {i : Nat} (hfid : f.fid = some id)
    (hplace : l.place? id = some i) :
    l.set f = .ok { l with features := l.features.set i f } := by
  simp only [Layer.set, checkWritable_of_not_failsWrites hwritable, hfid, hplace]
  rfl

theorem delete_of_place? {id : Int} {i : Nat} (hplace : l.place? id = some i) :
    l.delete id = .ok { l with features := l.features.eraseIdx i } := by
  rw [delete, checkWritable_of_not_failsWrites hwritable, hplace]
  rfl

end Writable

theorem set_append_cons (before : List Feature) (old : Feature) (after : List Feature)
    (f : Feature) : (before ++ old :: after).set before.length f = before ++ f :: after := by
  rw [List.set_append_right _ _ le_rfl, Nat.sub_self, List.set_cons_zero]

theorem eraseIdx_append_cons (before : List Feature) (old : Feature) (after : List Feature) :
    (before ++ old :: after).eraseIdx before.length = before ++ after := by
  rw [List.eraseIdx_append_of_length_le le_rfl, Nat.sub_self, List.eraseIdx_cons_zero]

theorem not_failsWrites_of_bind {α : Type} {x : Except Fault α} {a : α}
    (h : (do l.checkWritable; x) = .ok a) : l.failsWrites = false ∧ x = .ok a := by
  cases hfails : l.failsWrites with
  | false =>
    rw [checkWritable_of_not_failsWrites hfails] at h
    exact ⟨rfl, h⟩
  | true =>
    rw [checkWritable, hfails] at h
    cases h

/-- A feature is created behind all others, under its own id if no feature has it, or else under the
next one. -/
theorem create_eq_ok {id : Int} (h : l.create f = .ok (id, l')) :
    l' = l.append f id ∧
      (f.fid = some id ∧ l.place? id = none ∨ f.fid = none ∧ id = l.nextFid) := by
  obtain ⟨hwritable, -⟩ := not_failsWrites_of_bind h
  cases hfid : f.fid with
  | none =>
    rw [create_of_fid_eq_none hwritable hfid] at h
    cases h
    exact ⟨rfl, .inr ⟨rfl, rfl⟩⟩
  | some own =>
    rw [create_of_fid_eq_some hwritable hfid] at h
    split_ifs at h with htaken
    cases h
    exact ⟨rfl, .inl ⟨rfl, Option.not_isSome_iff_eq_none.mp htaken⟩⟩

/-- The feature with the same id is replaced at its place. -/
theorem set_eq_ok (h : l.set f = .ok l') :
    ∃ id i, f.fid = some id ∧ l.place? id = some i ∧
      l' = { l with features := l.features.set i f } := by
  obtain ⟨hwritable, hrest⟩ := not_failsWrites_of_bind h
  cases hfid : f.fid with
  | none =>
    rw [hfid] at hrest
    cases hrest
  | some id =>
    cases hplace : l.place? id with
    | none =>
      simp only [hfid, hplace] at hrest
      cases hrest
    | some i =>
      rw [set_of_place? hwritable hfid hplace] at h
      cases h
      exact ⟨id, i, rfl, hplace, rfl⟩

theorem delete_eq_ok {id : Int} (h : l.delete id = .ok l') :
    ∃ i, l.place? id = some i ∧ l' = { l with features := l.features.eraseIdx i } := by
  obtain ⟨hwritable, hrest⟩ := not_failsWrites_of_bind h
  cases hplace : l.place? id with
  | none =>
    simp only [hplace] at hrest
    cases hrest
  | some i =>
    rw [delete_of_place? hwritable hplace] at h
    cases h
    exact ⟨i, rfl, rfl⟩

/-! ## Calls -/

/-- What can be asked of a layer that is read and written to. -/
inductive Call where
  | next
  | create (f : Feature)
  | set (f : Feature)
  | delete (id : Int)

/-- The layer after a call. A call that fails leaves it as it is. -/
def after (l : Layer) : Call → Layer
  | .next => l.next.2
  | .create f => match l.create f with
    | .ok (_, l') => l'
    | .error _ => l
  | .set f => match l.set f with
    | .ok l' => l'
    | .error _ => l
  | .delete id => match l.delete id with
    | .ok l' => l'
    | .error _ => l

/-- The layer after some calls. -/
def run (l : Layer) (calls : List Call) : Layer := calls.foldl after l

theorem run_cons (l : Layer) (c : Call) (calls : List Call) :
    l.run (c :: calls) = (l.after c).run calls := rfl

theorem run_append (l : Layer) (calls others : List Call) :
    l.run (calls ++ others) = (l.run calls).run others := List.foldl_append

/-- Everything that a call can leave behind. -/
inductive Steps (l : Layer) : Call → Layer → Prop
  | read (place : Nat) : Steps l .next (l.moveTo place)
  /-- A write fails; a deletion only if there are no writes or no such feature. -/
  | refused {c : Call} (hwrite : c ≠ .next)
      (hdelete : ∀ id, c = .delete id → l.failsWrites = true ∨ l.place? id = none) : Steps l c l
  | created {f : Feature} {id : Int}
      (hid : f.fid = some id ∧ l.place? id = none ∨ f.fid = none ∧ id = l.nextFid) :
      Steps l (.create f) (l.append f id)
  | replaced {f old : Feature} {before after : List Feature} (hfid : old.fid = f.fid)
      (hfeatures : l.features = before ++ old :: after) :
      Steps l (.set f) { l with features := before ++ f :: after }
  | deleted {id : Int} {old : Feature} {before after : List Feature}
      (hwritable : l.failsWrites = false) (hplace : l.place? id = some before.length)
      (hold : old.fid = some id) (hfeatures : l.features = before ++ old :: after) :
      Steps l (.delete id) { l with features := before ++ after }

/-- **What a call leaves behind.** -/
theorem steps_after (l : Layer) (c : Call) : Steps l c (l.after c) := by
  cases c with
  | next =>
    have hreads := reads_next l
    rw [after]
    generalize l.next = r at hreads ⊢
    rcases hreads with ⟨-, -, -⟩ | ⟨-, -⟩ <;> exact .read _
  | create f =>
    rw [after]
    split
    · next id l' hcreate =>
      obtain ⟨rfl, hid⟩ := create_eq_ok hcreate
      exact .created hid
    · exact .refused Call.noConfusion nofun
  | set f =>
    rw [after]
    split
    · next l' hset =>
      obtain ⟨id, i, hfid, hplace, rfl⟩ := set_eq_ok hset
      obtain ⟨before, old, after, hfeatures, rfl, hold, -⟩ := place?_eq_some_iff.mp hplace
      rw [hfeatures, set_append_cons]
      exact .replaced (hold.trans hfid.symm) hfeatures
    · exact .refused Call.noConfusion nofun
  | delete id =>
    rw [after]
    split
    · next l' hdelete =>
      obtain ⟨i, hplace, rfl⟩ := delete_eq_ok hdelete
      obtain ⟨before, old, after, hfeatures, rfl, hold, -⟩ := place?_eq_some_iff.mp hplace
      rw [hfeatures, eraseIdx_append_cons]
      exact .deleted (not_failsWrites_of_bind hdelete).1 hplace hold hfeatures
    · next fault hdelete =>
      refine .refused Call.noConfusion ?_
      rintro _ ⟨⟩
      by_contra hnot
      obtain ⟨hwritable, hplace⟩ := not_or.mp hnot
      obtain ⟨i, hi⟩ := Option.ne_none_iff_exists'.mp hplace
      rw [delete_of_place? (Bool.eq_false_iff.mpr hwritable) hi] at hdelete
      cases hdelete

end ForeignLayer.Layer
