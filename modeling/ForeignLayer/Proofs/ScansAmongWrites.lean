import ForeignLayer.Proofs.FeatureIds

/-!
# Scans among writes

A layer may be written to between two steps of reading. What is created comes behind all other
features and what is replaced stays in its place, so neither gets in the way of reading. A deletion
in front of the place moves all features behind it up, while the place stays where it is: the one
that was to be read next is passed over.

A feature that stays in the layer, matches the filters and has its id for itself is either unread or
was handed out, and never both. A step keeps it so, unless it strands the feature; from then on it
is neither, since nothing puts a feature back behind the place. So exactly the stranded features are
missing in the end, and none is handed out twice.

A loop that deletes what it reads always deletes right in front of the place. It passes over the
feature behind each one that it reads.
-/

namespace ForeignLayer.Layer

variable {l l' : Layer} {f g : Feature} {id : Int} {c : Call} {calls : List Call}

/-! ## Namesakes -/

/-- The features of a list that have the id of a feature. -/
def namesakes (f : Feature) (fs : List Feature) : List Feature := fs.filter fun g ↦ g.fid == f.fid

theorem namesakes_append (f : Feature) (fs gs : List Feature) :
    namesakes f (fs ++ gs) = namesakes f fs ++ namesakes f gs := List.filter_append ..

theorem namesakes_cons_self (f : Feature) (fs : List Feature) :
    namesakes f (f :: fs) = f :: namesakes f fs :=
  List.filter_cons_of_pos (beq_self_eq_true f.fid)

theorem namesakes_cons_of_ne (h : g.fid ≠ f.fid) (fs : List Feature) :
    namesakes f (g :: fs) = namesakes f fs :=
  List.filter_cons_of_neg fun heq ↦ h (beq_iff_eq.mp heq)

theorem namesakes_sublist (f : Feature) {fs gs : List Feature} (h : fs.Sublist gs) :
    (namesakes f fs).Sublist (namesakes f gs) := h.filter _

theorem mem_namesakes {fs : List Feature} : g ∈ namesakes f fs ↔ g ∈ fs ∧ g.fid = f.fid := by
  rw [namesakes, List.mem_filter, beq_iff_eq]

theorem namesakes_eq_nil {fs : List Feature} (h : ∀ g ∈ fs, g.fid ≠ f.fid) :
    namesakes f fs = [] :=
  List.filter_eq_nil_iff.mpr fun g hg heq ↦ h g hg (beq_iff_eq.mp heq)

theorem eq_of_namesakes {fs : List Feature} (h : namesakes f fs = [f]) (hg : g ∈ fs)
    (hfid : g.fid = f.fid) : g = f :=
  List.mem_singleton.mp (h ▸ mem_namesakes.mpr ⟨hg, hfid⟩)

/-! ## What is handed out -/

/-- What a call hands out. -/
def handedOut (l : Layer) : Call → List Feature
  | .next => l.next.1.toList
  | _ => []

/-- What some calls hand out, one after the other. -/
def reads (l : Layer) : List Call → List Feature
  | [] => []
  | c :: calls => l.handedOut c ++ (l.after c).reads calls

theorem isMatch_after (l : Layer) (c : Call) : (l.after c).isMatch = l.isMatch := by
  have hstep := steps_after l c
  generalize l.after c = l' at hstep ⊢
  cases hstep <;> rfl

theorem isMatch_run (l : Layer) (calls : List Call) : (l.run calls).isMatch = l.isMatch := by
  induction calls generalizing l with
  | nil => rfl
  | cons c calls ih => rw [run_cons, ih, isMatch_after]

theorem isMatch_of_next_eq_none (h : l.next.1 = none) (hg : g ∈ l.unread) :
    l.isMatch g = false := by
  have hreads := reads_next l
  generalize l.next = r at hreads h
  cases hreads with
  | found => cases h
  | finished hunread => exact hunread g hg

/-! ## Deletions -/

section Deletions

variable {before after : List Feature} (hfeatures : l.features = before ++ g :: after)

include hfeatures

/-- A deletion in front of the place of reading takes away what would be read next. -/
theorem unread_of_deleted_before (hlt : before.length < l.cursor) :
    unread { l with features := before ++ after } = l.unread.tail := by
  obtain ⟨k, hcursor⟩ := Nat.exists_eq_add_of_lt hlt
  show (before ++ after).drop l.cursor = (l.features.drop l.cursor).tail
  rw [List.tail_drop, hfeatures, hcursor, Nat.add_assoc, Nat.add_assoc, List.drop_length_add_append,
    List.drop_length_add_append, List.drop_succ_cons]

/-- A deletion behind the place of reading takes away what is deleted. -/
theorem unread_of_deleted_behind (hle : l.cursor ≤ before.length) :
    l.unread = before.drop l.cursor ++ g :: after ∧
      unread { l with features := before ++ after } = before.drop l.cursor ++ after := by
  rw [unread, hfeatures]
  exact ⟨List.drop_append_of_le_length hle, List.drop_append_of_le_length hle⟩

end Deletions

/-- Whether a call takes out a feature in front of the place of reading, while another one is at the
place. -/
def Strands (l : Layer) (f : Feature) (c : Call) : Prop :=
  l.failsWrites = false ∧ ∃ id i, c = .delete id ∧ l.place? id = some i ∧ i < l.cursor ∧
    l.features[l.cursor]? = some f

/-! ## One step -/

section Step

variable (honly : namesakes f l.features = [f]) (hmatch : l.isMatch f = true)

include honly

theorem eq_of_mem_unread (hg : g ∈ l.unread) (hfid : g.fid = f.fid) : g = f :=
  eq_of_namesakes honly (List.mem_of_mem_drop hg) hfid

/-- Without its first element, what is unread lacks a namesake only if it was first. -/
theorem namesakes_tail_unread (hhead : l.features[l.cursor]? ≠ some f) :
    namesakes f l.unread.tail = namesakes f l.unread := by
  rw [← List.head?_drop, ← unread] at hhead
  cases hunread : l.unread with
  | nil => rfl
  | cons g rest =>
    rw [hunread] at hhead
    have hne : g.fid ≠ f.fid := by
      intro hfid
      refine hhead (congrArg some (eq_of_mem_unread honly ?_ hfid))
      rw [hunread]
      exact List.mem_cons_self
    rw [List.tail_cons, namesakes_cons_of_ne hne]

include hmatch in
/-- A step of reading takes a feature that matches only to hand it out. -/
theorem namesakes_next :
    namesakes f (l.next.1.toList ++ l.next.2.unread) = namesakes f l.unread := by
  have hother : ∀ g ∈ l.unread, l.isMatch g = false → g.fid ≠ f.fid := by
    intro g hg hnot hfid
    rw [eq_of_mem_unread honly hg hfid, hmatch] at hnot
    cases hnot
  have hreads := reads_next l
  generalize l.next = r at hreads ⊢
  cases hreads with
  | @found skipped _ _ hunread hskipped _ =>
    have hnone : namesakes f skipped = [] := namesakes_eq_nil fun g hg ↦
      hother g (hunread ▸ List.mem_append_left _ hg) (hskipped g hg)
    rw [hunread, namesakes_append f skipped, hnone, List.nil_append]
    rfl
  | finished hunread hend =>
    rw [hend, namesakes_eq_nil fun g hg ↦ hother g hg (hunread g hg)]
    rfl

theorem namesakes_unread_append {new : Feature}
    (hstays : namesakes f (l.append new id).features = [f]) :
    namesakes f (l.append new id).unread = namesakes f l.unread := by
  rw [append, namesakes_append, honly] at hstays
  have hnew := List.append_right_eq_self.mp hstays
  have hbehind := namesakes_sublist f
    (List.drop_sublist (l.cursor - l.features.length) [{ new with fid := some id }])
  rw [hnew, List.sublist_nil] at hbehind
  show namesakes f ((l.features ++ [{ new with fid := some id }]).drop l.cursor) = _
  rw [List.drop_append, namesakes_append, hbehind, List.append_nil, unread]

section Writes

variable {old new : Feature} {before after : List Feature}
  (hfeatures : l.features = before ++ old :: after)

include hfeatures

/-- A feature that is replaced is another one, or it takes its own place. -/
theorem namesakes_unread_replaced (hfid : old.fid = new.fid)
    (hstays : namesakes f (before ++ new :: after) = [f]) :
    namesakes f (unread { l with features := before ++ new :: after }) = namesakes f l.unread := by
  by_cases hsame : old.fid = f.fid
  · have hold : old = f := eq_of_namesakes honly
      (hfeatures ▸ List.mem_append_right _ List.mem_cons_self) hsame
    have hnew : new = f := eq_of_namesakes hstays
      (List.mem_append_right _ List.mem_cons_self) (hfid.symm.trans hsame)
    rw [hnew, ← hold, ← hfeatures]
  · have hother : new.fid ≠ f.fid := fun heq ↦ hsame (hfid.trans heq)
    show namesakes f ((before ++ new :: after).drop l.cursor) = _
    rw [unread, hfeatures, List.drop_append, List.drop_append, namesakes_append, namesakes_append]
    -- the place is in front of the feature or behind it
    cases l.cursor - before.length with
    | zero =>
      rw [List.drop_zero, List.drop_zero, namesakes_cons_of_ne hother, namesakes_cons_of_ne hsame]
    | succ k => rfl

theorem ne_of_deleted (hstays : namesakes f (before ++ after) = [f]) : old.fid ≠ f.fid := by
  intro hsame
  have hold : old = f := eq_of_namesakes honly
    (hfeatures ▸ List.mem_append_right _ List.mem_cons_self) hsame
  rw [hfeatures, hold, namesakes_append, namesakes_cons_self] at honly
  rw [namesakes_append] at hstays
  have hlength := congrArg List.length (honly.trans hstays.symm)
  rw [List.length_append, List.length_append, List.length_cons] at hlength
  omega

theorem namesakes_unread_deleted (hstays : namesakes f (before ++ after) = [f])
    (hkeeps : before.length < l.cursor → l.features[l.cursor]? ≠ some f) :
    namesakes f (unread { l with features := before ++ after }) = namesakes f l.unread := by
  rcases Nat.lt_or_ge before.length l.cursor with hlt | hle
  · rw [unread_of_deleted_before hfeatures hlt]
    exact namesakes_tail_unread honly (hkeeps hlt)
  · obtain ⟨hunread, hunread'⟩ := unread_of_deleted_behind hfeatures hle
    have hother := ne_of_deleted honly hfeatures hstays
    rw [hunread, hunread', namesakes_append, namesakes_append, namesakes_cons_of_ne hother]

end Writes

/-- A write that does not strand a feature leaves it as unread as it was. -/
theorem namesakes_unread_after (hwrite : c ≠ .next)
    (hstays : namesakes f (l.after c).features = [f]) (hkeeps : ¬ Strands l f c) :
    namesakes f (l.after c).unread = namesakes f l.unread := by
  have hstep := steps_after l c
  generalize l.after c = l' at hstep hstays ⊢
  cases hstep with
  | read => exact absurd rfl hwrite
  | refused => rfl
  | created => exact namesakes_unread_append honly hstays
  | replaced hfid hfeatures => exact namesakes_unread_replaced honly hfeatures hfid hstays
  | deleted hwritable hplace _ hfeatures =>
    refine namesakes_unread_deleted honly hfeatures hstays fun hlt hhead ↦ hkeeps ?_
    exact ⟨hwritable, _, _, rfl, hplace, hlt, hhead⟩

theorem namesakes_unread_of_strands (hstrands : Strands l f c) :
    namesakes f l.unread = [f] ∧ l.handedOut c = [] ∧ namesakes f (l.after c).unread = [] := by
  obtain ⟨hwritable, id, i, rfl, hplace, hlt, hhead⟩ := hstrands
  obtain ⟨before, old, after, hfeatures, rfl, -⟩ := place?_eq_some_iff.mp hplace
  rw [← List.head?_drop, ← unread] at hhead
  obtain ⟨rest, hunread⟩ := List.head?_eq_some_iff.mp hhead
  have hsub : (namesakes f l.unread).Sublist [f] :=
    honly ▸ namesakes_sublist f (List.drop_sublist l.cursor l.features)
  rw [hunread, namesakes_cons_self, List.cons_sublist_cons, List.sublist_nil] at hsub
  refine ⟨?_, rfl, ?_⟩
  · rw [hunread, namesakes_cons_self, hsub]
  · rw [Layer.after, delete_of_place? hwritable hplace, hfeatures, eraseIdx_append_cons,
      unread_of_deleted_before hfeatures hlt, hunread, List.tail_cons, hsub]

end Step

/-! ## Whole scans -/

/-- Whether a feature stays in a layer through some calls, with its id for itself. -/
def Stays (l : Layer) (calls : List Call) (f : Feature) : Prop :=
  ∀ earlier, earlier <+: calls → namesakes f (l.run earlier).features = [f]

/-- Whether one of some calls strands a feature. -/
def Stranded (l : Layer) (calls : List Call) (f : Feature) : Prop :=
  ∃ before c after, calls = before ++ c :: after ∧ Strands (l.run before) f c

theorem stays_cons : Stays l (c :: calls) f ↔
    namesakes f l.features = [f] ∧ Stays (l.after c) calls f := by
  constructor
  · intro hstays
    refine ⟨hstays [] List.nil_prefix, fun earlier hearlier ↦ ?_⟩
    exact hstays (c :: earlier) (List.cons_prefix_cons.mpr ⟨rfl, hearlier⟩)
  · rintro ⟨honly, hstays⟩ earlier hearlier
    rcases List.prefix_cons_iff.mp hearlier with rfl | ⟨rest, rfl, hrest⟩
    · exact honly
    · exact hstays rest hrest

theorem Stays.first (h : Stays l calls f) : namesakes f l.features = [f] :=
  h [] List.nil_prefix

theorem stranded_cons : Stranded l (c :: calls) f ↔
    Strands l f c ∨ Stranded (l.after c) calls f := by
  constructor
  · rintro ⟨before, c', after, hcalls, hstrands⟩
    cases before with
    | nil =>
      cases hcalls
      exact .inl hstrands
    | cons _ before =>
      cases hcalls
      exact .inr ⟨before, c', after, rfl, hstrands⟩
  · rintro (hstrands | ⟨before, c', after, rfl, hstrands⟩)
    · exact ⟨[], c, calls, rfl, hstrands⟩
    · exact ⟨c :: before, c', after, rfl, hstrands⟩

theorem namesakes_step (honly : namesakes f l.features = [f]) (hmatch : l.isMatch f = true)
    (hstays : namesakes f (l.after c).features = [f]) (hkeeps : ¬ Strands l f c) :
    namesakes f (l.handedOut c) ++ namesakes f (l.after c).unread = namesakes f l.unread := by
  by_cases hwrite : c = .next
  · rw [hwrite, ← namesakes_append]
    exact namesakes_next honly hmatch
  · have hnone : l.handedOut c = [] := by
      cases c with
      | next => exact absurd rfl hwrite
      | create | set | delete => rfl
    rw [hnone]
    exact namesakes_unread_after honly hwrite hstays hkeeps

/-- **A feature that stays is handed out or unread, until it is stranded.** -/
theorem namesakes_reads (hstays : Stays l calls f) (hmatch : l.isMatch f = true)
    (hkeeps : ¬ Stranded l calls f) :
    namesakes f (l.reads calls) ++ namesakes f (l.run calls).unread = namesakes f l.unread := by
  induction calls generalizing l with
  | nil => rfl
  | cons c calls ih =>
    obtain ⟨honly, hrest⟩ := stays_cons.mp hstays
    obtain ⟨hstep, hothers⟩ := not_or.mp fun h ↦ hkeeps (stranded_cons.mpr h)
    rw [reads, run_cons, namesakes_append, List.append_assoc,
      ih hrest (isMatch_after l c ▸ hmatch) hothers]
    exact namesakes_step honly hmatch hrest.first hstep

theorem namesakes_reads_of_read (hstays : Stays l calls f) (hmatch : l.isMatch f = true)
    (hread : namesakes f l.unread = []) :
    namesakes f (l.reads calls) = [] ∧ ¬ Stranded l calls f := by
  induction calls generalizing l with
  | nil =>
    refine ⟨rfl, ?_⟩
    rintro ⟨before, c, after, hcalls, -⟩
    exact List.append_ne_nil_of_right_ne_nil before (List.cons_ne_nil c after) hcalls.symm
  | cons c calls ih =>
    obtain ⟨honly, hrest⟩ := stays_cons.mp hstays
    have hkeeps : ¬ Strands l f c := by
      intro hstrands
      obtain ⟨hunread, -⟩ := namesakes_unread_of_strands honly hstrands
      cases hunread.symm.trans hread
    have hstep := namesakes_step honly hmatch hrest.first hkeeps
    rw [hread, List.append_eq_nil_iff] at hstep
    obtain ⟨hreads, hothers⟩ := ih hrest (isMatch_after l c ▸ hmatch) hstep.2
    rw [reads, namesakes_append, hstep.1, hreads, stranded_cons]
    exact ⟨rfl, not_or.mpr ⟨hkeeps, hothers⟩⟩

/-- What is stranded is never handed out. -/
theorem namesakes_reads_of_stranded (hstays : Stays l calls f) (hmatch : l.isMatch f = true)
    (hstranded : Stranded l calls f) : namesakes f (l.reads calls) = [] := by
  induction calls generalizing l with
  | nil => rfl
  | cons c calls ih =>
    obtain ⟨honly, hrest⟩ := stays_cons.mp hstays
    have hmatch' : (l.after c).isMatch f = true := isMatch_after l c ▸ hmatch
    rw [reads, namesakes_append, List.append_eq_nil_iff]
    by_cases hstrands : Strands l f c
    · obtain ⟨-, hnone, hread⟩ := namesakes_unread_of_strands honly hstrands
      rw [hnone]
      exact ⟨rfl, (namesakes_reads_of_read hrest hmatch' hread).1⟩
    · have hlater := (stranded_cons.mp hstranded).resolve_left hstrands
      refine ⟨?_, ih hrest hmatch' hlater⟩
      -- the feature has to be unread to be stranded later, and there is only one
      have hunread : namesakes f (l.after c).unread ≠ [] := fun hread ↦
        (namesakes_reads_of_read hrest hmatch' hread).2 hlater
      have hlength := (namesakes_sublist f (List.drop_sublist l.cursor l.features)).length_le
      rw [← unread, ← namesakes_step honly hmatch hrest.first hstrands, honly, List.length_append,
        List.length_singleton] at hlength
      have hpos := List.length_pos_iff.mpr hunread
      exact List.eq_nil_of_length_eq_zero (by omega)

/-- **A feature that stays and matches is handed out once, or not at all if it was stranded.** -/
theorem namesakes_reads_reset (hend : ((l.reset.run calls).next).1 = none)
    (hstays : Stays l.reset calls f) (hmatch : l.isMatch f = true) :
    namesakes f (l.reset.reads calls) = [f] ↔ ¬ Stranded l.reset calls f := by
  constructor
  · intro hreads hstranded
    cases hreads.symm.trans (namesakes_reads_of_stranded hstays hmatch hstranded)
  · intro hkeeps
    have hnone : namesakes f (l.reset.run calls).unread = [] := by
      refine namesakes_eq_nil fun g hg hfid ↦ ?_
      have hsame : g = f := eq_of_mem_unread (hstays calls List.prefix_rfl) hg hfid
      have hnot := isMatch_of_next_eq_none hend hg
      rw [isMatch_run, hsame] at hnot
      exact Bool.false_ne_true (hnot.symm.trans hmatch)
    have hreads := namesakes_reads hstays hmatch hkeeps
    rw [hnone, List.append_nil] at hreads
    rw [hreads]
    exact hstays.first

/-! ## Deleting what is read -/

/-- Deletes a feature that was read. -/
def deleteRead (l : Layer) (f : Feature) : Layer :=
  match f.fid with
  | some id => l.after (.delete id)
  | none => l

/-- What is read in some rounds that delete what they read. -/
def readDeleting : (rounds : Nat) → Layer → List Feature
  | 0, _ => []
  | rounds + 1, l =>
    match l.next with
    | (none, _) => []
    | (some f, l') => f :: readDeleting rounds (l'.deleteRead f)

/-- What passes a test where the element behind one that passes is passed over. -/
def passing (test : Feature → Bool) : List Feature → List Feature
  | [] => []
  | [f] => if test f then [f] else []
  | f :: g :: rest => if test f then f :: passing test rest else passing test (g :: rest)

theorem passing_cons (test : Feature → Bool) (f : Feature) (rest : List Feature) :
    passing test (f :: rest) =
      if test f then f :: passing test rest.tail else passing test rest := by
  cases rest <;> rfl

theorem passing_of_forall {test : Feature → Bool} {fs : List Feature}
    (h : ∀ g ∈ fs, test g = false) : passing test fs = [] := by
  induction fs with
  | nil => rfl
  | cons g fs ih =>
    obtain ⟨hg, hfs⟩ := List.forall_mem_cons.mp h
    rw [passing_cons, if_neg (Bool.eq_false_iff.mp hg), ih hfs]

theorem passing_append {test : Feature → Bool} {skipped : List Feature}
    (hskipped : ∀ g ∈ skipped, test g = false) (hf : test f = true) (rest : List Feature) :
    passing test (skipped ++ f :: rest) = f :: passing test rest.tail := by
  induction skipped with
  | nil => rw [List.nil_append, passing_cons, if_pos hf]
  | cons g skipped ih =>
    obtain ⟨hg, hothers⟩ := List.forall_mem_cons.mp hskipped
    rw [List.cons_append, passing_cons, if_neg (Bool.eq_false_iff.mp hg), ih hothers]

theorem passing_sublist (test : Feature → Bool) (fs : List Feature) :
    (passing test fs).Sublist (fs.filter test) := by
  induction fs using passing.induct test with
  | case1 => exact .refl []
  | case2 f hf =>
    rw [passing, if_pos hf, List.filter_cons_of_pos hf]
    exact .refl [f]
  | case3 f hf =>
    rw [passing, if_neg hf]
    exact List.nil_sublist _
  | case4 f g rest hf ih =>
    rw [passing, if_pos hf, List.filter_cons_of_pos hf]
    exact (ih.trans ((List.sublist_cons_self g rest).filter test)).cons_cons f
  | case5 f g rest hf ih =>
    rw [passing, if_neg hf, List.filter_cons_of_neg hf]
    exact ih

/-- Nothing is lost exactly if no two neighbours pass. -/
theorem passing_eq_filter_iff {test : Feature → Bool} {fs : List Feature} :
    passing test fs = fs.filter test ↔ fs.IsChain fun f g ↦ ¬ (test f = true ∧ test g = true) := by
  induction fs using passing.induct test with
  | case1 => exact ⟨fun _ ↦ .nil, fun _ ↦ rfl⟩
  | case2 f hf =>
    rw [passing, if_pos hf, List.filter_cons_of_pos hf]
    exact ⟨fun _ ↦ .singleton f, fun _ ↦ rfl⟩
  | case3 f hf =>
    rw [passing, if_neg hf, List.filter_cons_of_neg hf]
    exact ⟨fun _ ↦ .singleton f, fun _ ↦ rfl⟩
  | case4 f g rest hf ih =>
    rw [passing, if_pos hf, List.filter_cons_of_pos hf, List.cons_inj_right, List.isChain_cons_cons]
    by_cases hg : test g = true
    · -- the neighbour is lost
      rw [List.filter_cons_of_pos hg]
      refine ⟨fun hlost ↦ ?_, fun hchain ↦ absurd ⟨hf, hg⟩ hchain.1⟩
      have hlength := (passing_sublist test rest).length_le
      rw [hlost, List.length_cons] at hlength
      exact absurd hlength (Nat.not_succ_le_self _)
    · rw [List.filter_cons_of_neg hg, ih, List.isChain_cons]
      exact ⟨fun hchain ↦ ⟨fun h ↦ hg h.2, fun _ _ h ↦ hg h.1, hchain⟩, fun hchain ↦ hchain.2.2⟩
  | case5 f g rest hf ih =>
    rw [passing, if_neg hf, List.filter_cons_of_neg hf, ih, List.isChain_cons_cons]
    exact ⟨fun hchain ↦ ⟨fun h ↦ hf h.1, hchain⟩, fun hchain ↦ hchain.2⟩

/-- What a loop needs that deletes what it reads: the layer takes writes, and ids identify the
features. -/
structure IsDeletable (l : Layer) : Prop where
  writable : l.failsWrites = false
  named : ∀ g ∈ l.features, ∃ id, g.fid = some id
  distinct : l.ids.Nodup

theorem IsDeletable.delete (h : IsDeletable l) (id : Int) : IsDeletable (l.after (.delete id)) := by
  have hstep := steps_after l (.delete id)
  generalize l.after (.delete id) = l' at hstep ⊢
  cases hstep with
  | refused => exact h
  | @deleted _ old before after _ _ _ hfeatures =>
    have hsub : (before ++ after).Sublist l.features := by
      rw [hfeatures]
      exact (List.sublist_cons_self old after).append_left before
    exact ⟨h.writable, fun g hg ↦ h.named g (hsub.subset hg), h.distinct.sublist (hsub.map _)⟩

/-- A feature that was just read is in front of the place. With it goes the one that would be read
next. -/
theorem unread_deleteRead (h : IsDeletable l) {skipped : List Feature} {place : Nat}
    (hunread : l.unread = skipped ++ f :: (l.moveTo place).unread) :
    ((l.moveTo place).deleteRead f).unread = (l.moveTo place).unread.tail ∧
      IsDeletable ((l.moveTo place).deleteRead f) := by
  have hsplit : l.features =
      (l.features.take l.cursor ++ skipped) ++ f :: (l.moveTo place).unread := by
    rw [List.append_assoc, ← hunread, unread, List.take_append_drop]
  have hf : f ∈ l.features := hsplit ▸ List.mem_append_right _ List.mem_cons_self
  have hmoved : IsDeletable (l.moveTo place) := ⟨h.writable, h.named, h.distinct⟩
  obtain ⟨id, hid⟩ := h.named f hf
  have hdelete : (l.moveTo place).deleteRead f = (l.moveTo place).after (.delete id) := by
    rw [deleteRead, hid]
  rw [hdelete]
  refine ⟨?_, hmoved.delete id⟩
  have hstep := steps_after (l.moveTo place) (.delete id)
  generalize (l.moveTo place).after (.delete id) = l' at hstep ⊢
  cases hstep with
  | refused _ hwhy =>
    rcases hwhy id rfl with hfails | hnone
    · cases hfails.symm.trans hmoved.writable
    · have hplace := (isSome_place? (l := l.moveTo place)).mpr ⟨f, hf, hid⟩
      rw [hnone] at hplace
      cases hplace
  | @deleted _ old before after _ _ hold hfeatures =>
    refine unread_of_deleted_before hfeatures (Nat.lt_of_not_le fun hle ↦ ?_)
    obtain ⟨hbehind, -⟩ := unread_of_deleted_behind hfeatures hle
    have hmem : old ∈ (l.moveTo place).unread :=
      hbehind ▸ List.mem_append_right _ List.mem_cons_self
    exact ne_of_nodup_ids h.distinct hsplit old (List.mem_append_right _ hmem) (hold.trans hid.symm)

theorem isMatch_deleteRead (l : Layer) (f : Feature) : (l.deleteRead f).isMatch = l.isMatch := by
  rw [deleteRead]
  split
  · exact isMatch_after l _
  · rfl

/-- A loop that deletes what it reads passes over the feature behind each one that it reads. -/
theorem readDeleting_eq_passing (h : IsDeletable l) {rounds : Nat}
    (hrounds : l.unread.length < rounds) :
    readDeleting rounds l = passing l.isMatch l.unread := by
  induction rounds generalizing l with
  | zero => exact absurd hrounds (Nat.not_lt_zero _)
  | succ rounds ih =>
    have hreads := reads_next l
    rw [readDeleting]
    generalize l.next = r at hreads ⊢
    cases hreads with
    | finished hunread => exact (passing_of_forall hunread).symm
    | @found skipped f place hunread hskipped hf =>
      obtain ⟨hrest, hdeletable⟩ := unread_deleteRead h hunread
      have hfewer : ((l.moveTo place).deleteRead f).unread.length < rounds := by
        rw [hunread, List.length_append, List.length_cons] at hrounds
        rw [hrest, List.length_tail]
        omega
      have hothers := ih hdeletable hfewer
      rw [hrest, isMatch_deleteRead] at hothers
      rw [hunread, passing_append hskipped hf]
      exact congrArg (f :: ·) hothers

/-! ## What is lost -/

/-- **What a scan loses to writes.** Of the features that stay and match, it hands out each one once
unless it was stranded, and none twice. A loop that deletes what it reads comes to all that match
exactly if no two neighbours match. -/
theorem scan_loses_stranded (l : Layer) :
    (∀ calls f, ((l.reset.run calls).next).1 = none → Stays l.reset calls f → l.isMatch f = true →
      (namesakes f (l.reset.reads calls) = [f] ↔ ¬ Stranded l.reset calls f)) ∧
    (∀ calls f, Stays l.reset calls f → l.isMatch f = true →
      (namesakes f (l.reset.reads calls)).length ≤ 1) ∧
    (IsDeletable l → ∀ rounds, l.features.length < rounds →
      (readDeleting rounds l.reset = l.features.filter l.isMatch ↔
        l.features.IsChain fun f g ↦ ¬ (l.isMatch f = true ∧ l.isMatch g = true))) := by
  refine ⟨fun calls f ↦ namesakes_reads_reset, fun calls f hstays hmatch ↦ ?_,
    fun h rounds hrounds ↦ ?_⟩
  · by_cases hstranded : Stranded l.reset calls f
    · rw [namesakes_reads_of_stranded hstays hmatch hstranded]
      exact Nat.zero_le 1
    · have hreads := namesakes_reads hstays hmatch hstranded
      have hlength := congrArg List.length (hreads.trans hstays.first)
      rw [List.length_append] at hlength
      exact (Nat.le_add_right _ _).trans hlength.le
  · have hreset : IsDeletable l.reset := ⟨h.writable, h.named, h.distinct⟩
    rw [readDeleting_eq_passing hreset hrounds]
    exact passing_eq_filter_iff

/-! ## Lanterns -/

/-- A layer of two lanterns. -/
private def lanternsLayer : Layer where
  definition := ⟨"lanterns", [⟨"name", .string⟩], [], none⟩
  features := [⟨some 1, [.ofText "north"], none⟩, ⟨some 2, [.ofText "south"], none⟩]
  nextFid := 3

private def southLantern : Feature := ⟨some 2, [.ofText "south"], none⟩

/-- The lantern that is read first is deleted, and the other one is never handed out. -/
theorem scan_loses_lantern :
    lanternsLayer.ids.Nodup ∧ lanternsLayer.failsWrites = false ∧
      Stays lanternsLayer.reset [.next, .delete 1] southLantern ∧
      lanternsLayer.isMatch southLantern = true ∧
      ((lanternsLayer.reset.run [.next, .delete 1]).next).1 = none ∧
      (lanternsLayer.reset.reads [.next, .delete 1]).map (·.fid) = [some 1] ∧
      (readDeleting 3 lanternsLayer.reset).map (·.fid) = [some 1] := by
  refine ⟨by decide, rfl, fun earlier hearlier ↦ ?_, rfl, rfl, rfl, rfl⟩
  have hinits := (List.mem_inits earlier _).mpr hearlier
  fin_cases hinits <;> rfl

end ForeignLayer.Layer
