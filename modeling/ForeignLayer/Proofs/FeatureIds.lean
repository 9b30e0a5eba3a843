import ForeignLayer.Proofs.LayerSteps

/-!
# The ids of features

A layer that is filled with features and then written to hands out ids that are greater than all ids
it has had. That takes no more than this: the id of the next feature never gets smaller, and every
id in the layer is below it. So an id that is handed out was never in use before, not even by a
feature that has been deleted since.

Ids of their own are refused where they are taken, and a feature is replaced under its own id, so no
two features ever have the same one. What is replaced or deleted is then a single feature, and the
others stay in their order.

The greatest id of all is left out of this, since there is none after it.
-/

namespace ForeignLayer.Layer

variable {l l' : Layer} {f : Feature} {id : Int} {calls : List Call}

/-- The ids of the features. -/
def ids (l : Layer) : List (Option Int) := l.features.map (·.fid)

theorem mem_ids : some id ∈ l.ids ↔ ∃ g ∈ l.features, g.fid = some id := List.mem_map

theorem place?_eq_none_iff : l.place? id = none ↔ some id ∉ l.ids := by
  rw [mem_ids, ← isSome_place?, Option.not_isSome_iff_eq_none]

/-! ## Single features -/

/-- Whether a layer differs only in that it has some features in the place of the one with an
id. -/
def Exchanges (l : Layer) (id : Int) (new : List Feature) (l' : Layer) : Prop :=
  ∃ before old after, l.features = before ++ old :: after ∧ old.fid = some id ∧
    (∀ g ∈ before ++ after, g.fid ≠ some id) ∧ l' = { l with features := before ++ new ++ after }

section Nodup

variable (hdistinct : l.ids.Nodup)

include hdistinct

theorem ne_of_nodup_ids {before after : List Feature} {old : Feature}
    (hfeatures : l.features = before ++ old :: after) :
    ∀ g ∈ before ++ after, g.fid ≠ old.fid := by
  rw [ids, hfeatures, List.map_append, List.map_cons, List.nodup_middle, List.nodup_cons,
    ← List.map_append] at hdistinct
  intro g hg hid
  exact hdistinct.1 (List.mem_map.mpr ⟨g, hg, hid⟩)

theorem place?_eq_some_iff_of_nodup {i : Nat} : l.place? id = some i ↔
    ∃ before old after, l.features = before ++ old :: after ∧ before.length = i ∧
      old.fid = some id ∧ ∀ g ∈ before ++ after, g.fid ≠ some id := by
  rw [place?_eq_some_iff]
  constructor
  · rintro ⟨before, old, after, hfeatures, hlength, hold, -⟩
    exact ⟨before, old, after, hfeatures, hlength, hold, hold ▸ ne_of_nodup_ids hdistinct hfeatures⟩
  · rintro ⟨before, old, after, hfeatures, hlength, hold, hothers⟩
    exact ⟨before, old, after, hfeatures, hlength, hold,
      fun g hg ↦ hothers g (List.mem_append_left _ hg)⟩

theorem set_eq_ok_iff : l.set f = .ok l' ↔
    l.failsWrites = false ∧ ∃ id, f.fid = some id ∧ Exchanges l id [f] l' := by
  constructor
  · intro hset
    obtain ⟨id, i, hfid, hplace, rfl⟩ := set_eq_ok hset
    obtain ⟨before, old, after, hfeatures, rfl, hold, hothers⟩ :=
      (place?_eq_some_iff_of_nodup hdistinct).mp hplace
    refine ⟨(not_failsWrites_of_bind hset).1, id, hfid, before, old, after, hfeatures, hold,
      hothers, ?_⟩
    rw [hfeatures, set_append_cons, List.append_assoc, List.singleton_append]
  · rintro ⟨hwritable, id, hfid, before, old, after, hfeatures, hold, hothers, rfl⟩
    have hplace := (place?_eq_some_iff_of_nodup hdistinct).mpr
      ⟨before, old, after, hfeatures, rfl, hold, hothers⟩
    rw [set_of_place? hwritable hfid hplace, hfeatures, set_append_cons, List.append_assoc,
      List.singleton_append]

theorem delete_eq_ok_iff : l.delete id = .ok l' ↔
    l.failsWrites = false ∧ Exchanges l id [] l' := by
  constructor
  · intro hdelete
    obtain ⟨i, hplace, rfl⟩ := delete_eq_ok hdelete
    obtain ⟨before, old, after, hfeatures, rfl, hold, hothers⟩ :=
      (place?_eq_some_iff_of_nodup hdistinct).mp hplace
    refine ⟨(not_failsWrites_of_bind hdelete).1, before, old, after, hfeatures, hold, hothers, ?_⟩
    rw [hfeatures, eraseIdx_append_cons, List.append_nil]
  · rintro ⟨hwritable, before, old, after, hfeatures, hold, hothers, rfl⟩
    have hplace := (place?_eq_some_iff_of_nodup hdistinct).mpr
      ⟨before, old, after, hfeatures, rfl, hold, hothers⟩
    rw [delete_of_place? hwritable hplace, hfeatures, eraseIdx_append_cons, List.append_nil]

end Nodup

/-! ## Numbering -/

theorem le_fidAfter (next id : Int) : next ≤ fidAfter next id := by
  unfold fidAfter
  split_ifs
  · exact le_refl next
  · exact le_max_left next (id + 1)

theorem lt_fidAfter (next : Int) (hmax : id ≠ Feature.maxFid) : id < fidAfter next id := by
  rw [fidAfter, if_neg hmax]
  exact lt_max_of_lt_right (Int.lt_succ id)

/-- Whether every feature has an id, and all ids are below the next one. -/
def IsNumbered (l : Layer) : Prop := ∀ g ∈ l.features, ∃ id, g.fid = some id ∧ id < l.nextFid

theorem IsNumbered.notMem_ids (h : IsNumbered l) (hnext : l.nextFid ≤ id) : some id ∉ l.ids := by
  rw [mem_ids]
  rintro ⟨g, hg, hid⟩
  obtain ⟨own, hown, hlt⟩ := h g hg
  cases hown.symm.trans hid
  exact absurd hnext (not_le.mpr hlt)

theorem ids_append (l : Layer) (f : Feature) (id : Int) :
    (l.append f id).ids = l.ids ++ [some id] := List.map_append

theorem IsNumbered.append (h : IsNumbered l) (hmax : id ≠ Feature.maxFid) :
    IsNumbered (l.append f id) := by
  intro g hg
  rcases List.mem_append.mp hg with hbefore | hlast
  · obtain ⟨own, hown, hlt⟩ := h g hbefore
    exact ⟨own, hown, hlt.trans_le (le_fidAfter _ _)⟩
  · cases List.mem_singleton.mp hlast
    exact ⟨id, rfl, lt_fidAfter _ hmax⟩

/-- A layer that is filled with features, one after the other. -/
def fill (l : Layer) (fs : List Feature) : Layer := fs.foldl add l

theorem isNumbered_fill (hempty : l.features = []) {fs : List Feature}
    (hmax : some Feature.maxFid ∉ (l.fill fs).ids) : IsNumbered (l.fill fs) := by
  induction fs using List.reverseRecOn with
  | nil =>
    intro g hg
    rw [fill, List.foldl_nil, hempty] at hg
    cases hg
  | append_singleton fs f ih =>
    rw [fill, List.foldl_append, List.foldl_cons, List.foldl_nil, ← fill, add] at hmax ⊢
    rw [ids_append, List.mem_append, List.mem_singleton, not_or] at hmax
    exact (ih hmax.1).append fun heq ↦ hmax.2 (congrArg some heq.symm)

/-! ## Runs -/

theorem nextFid_le_after (l : Layer) (c : Call) : l.nextFid ≤ (l.after c).nextFid := by
  have hstep := steps_after l c
  generalize l.after c = l' at hstep ⊢
  cases hstep with
  | created => exact le_fidAfter _ _
  | read | refused | replaced | deleted => exact le_refl _

theorem nextFid_le_run (l : Layer) (calls : List Call) : l.nextFid ≤ (l.run calls).nextFid := by
  induction calls generalizing l with
  | nil => exact le_refl _
  | cons c calls ih => exact (nextFid_le_after l c).trans (ih (l.after c))

theorem IsNumbered.after (h : IsNumbered l) {c : Call}
    (hmax : some Feature.maxFid ∉ (l.after c).ids) : IsNumbered (l.after c) := by
  have hstep := steps_after l c
  generalize l.after c = l' at hstep hmax ⊢
  cases hstep with
  | read | refused => exact h
  | @created f id _ =>
    rw [ids_append, List.mem_append, List.mem_singleton, not_or] at hmax
    exact h.append fun heq ↦ hmax.2 (congrArg some heq.symm)
  | @replaced f old before after hfid hfeatures =>
    rw [IsNumbered, hfeatures, List.forall_mem_append, List.forall_mem_cons] at h
    rw [IsNumbered, List.forall_mem_append, List.forall_mem_cons, ← hfid]
    exact h
  | deleted _ _ _ hfeatures =>
    rw [IsNumbered, hfeatures, List.forall_mem_append, List.forall_mem_cons] at h
    rw [IsNumbered, List.forall_mem_append]
    exact ⟨h.1, h.2.2⟩

/-- A call keeps the ids of a numbered layer distinct. -/
theorem IsNumbered.nodup_after (h : IsNumbered l) (hdistinct : l.ids.Nodup) (c : Call) :
    (l.after c).ids.Nodup := by
  have hstep := steps_after l c
  generalize l.after c = l' at hstep ⊢
  cases hstep with
  | read | refused => exact hdistinct
  | @created f id hid =>
    have hnew : some id ∉ l.ids := by
      rcases hid with ⟨-, hplace⟩ | ⟨-, rfl⟩
      · exact place?_eq_none_iff.mp hplace
      · exact h.notMem_ids le_rfl
    rw [ids_append, ← List.concat_eq_append]
    exact hdistinct.concat hnew
  | replaced hfid hfeatures =>
    rw [ids, hfeatures, List.map_append, List.map_cons] at hdistinct
    rw [ids, List.map_append, List.map_cons, ← hfid]
    exact hdistinct
  | deleted _ _ _ hfeatures =>
    rw [ids, hfeatures, List.map_append, List.map_cons] at hdistinct
    rw [ids, List.map_append]
    exact (List.nodup_middle.mp hdistinct).of_cons

/-- Whether a feature of a layer has had an id at any time during some calls. -/
def Had (l : Layer) (calls : List Call) (id : Int) : Prop :=
  ∃ earlier, earlier <+: calls ∧ some id ∈ (l.run earlier).ids

theorem Had.mono {earlier : List Call} (h : Had l earlier id) (hearlier : earlier <+: calls) :
    Had l calls id := by
  obtain ⟨first, hfirst, hmem⟩ := h
  exact ⟨first, hfirst.trans hearlier, hmem⟩

/-- Calls keep a layer numbered and its ids distinct, as long as the greatest id stays out of it. -/
theorem IsNumbered.run (h : IsNumbered l) (hdistinct : l.ids.Nodup)
    (hmax : ¬ Had l calls Feature.maxFid) :
    IsNumbered (l.run calls) ∧ (l.run calls).ids.Nodup := by
  induction calls using List.reverseRecOn with
  | nil => exact ⟨h, hdistinct⟩
  | append_singleton calls c ih =>
    obtain ⟨hnumbered, hnodup⟩ := ih fun hhad ↦ hmax (hhad.mono (List.prefix_append calls [c]))
    have hlast : some Feature.maxFid ∉ (l.run (calls ++ [c])).ids := fun hmem ↦
      hmax ⟨calls ++ [c], List.prefix_rfl, hmem⟩
    rw [run_append] at hlast ⊢
    exact ⟨hnumbered.after hlast, hnumbered.nodup_after hnodup c⟩

/-- The next id is one that no feature has had. -/
theorem IsNumbered.not_had (h : IsNumbered l) (hdistinct : l.ids.Nodup)
    (hmax : ¬ Had l calls Feature.maxFid) : ¬ Had l calls (l.run calls).nextFid := by
  rintro ⟨earlier, hearlier, hmem⟩
  obtain ⟨hnumbered, -⟩ := h.run hdistinct fun hhad ↦ hmax (hhad.mono hearlier)
  obtain ⟨later, rfl⟩ := hearlier
  refine hnumbered.notMem_ids ?_ hmem
  rw [run_append]
  exact nextFid_le_run _ later

/-! ## Identification -/

/-- Whether ids identify the features of a layer where some ids have been in use. -/
structure Identifies (had : Int → Prop) (l : Layer) : Prop where
  named : ∀ g ∈ l.features, ∃ id, g.fid = some id
  distinct : l.ids.Nodup
  /-- A feature without an id is created under one that was never in use. -/
  fresh : l.failsWrites = false → ∀ f, f.fid = none →
    ∃ id, l.create f = .ok (id, l.append f id) ∧ ¬ had id
  /-- A feature with an id of its own is created under it, but only if it is not in use now. -/
  own : ∀ f id new l', f.fid = some id → (l.create f = .ok (new, l') ↔
    l.failsWrites = false ∧ some id ∉ l.ids ∧ new = id ∧ l' = l.append f id)
  /-- With an id that is in use it is refused. -/
  taken : ∀ f, f.fid ∈ l.ids → ∃ reason, l.create f = .error reason
  /-- A feature takes the place of the one with its id. -/
  set : ∀ f l', l.set f = .ok l' ↔
    l.failsWrites = false ∧ ∃ id, f.fid = some id ∧ Exchanges l id [f] l'
  /-- The one feature with the id is taken out. -/
  delete : ∀ id l', l.delete id = .ok l' ↔ l.failsWrites = false ∧ Exchanges l id [] l'

theorem create_eq_ok_iff {new : Int} (hfid : f.fid = some id) : l.create f = .ok (new, l') ↔
    l.failsWrites = false ∧ some id ∉ l.ids ∧ new = id ∧ l' = l.append f id := by
  constructor
  · intro hcreate
    obtain ⟨rfl, ⟨hnew, hplace⟩ | ⟨hnone, -⟩⟩ := create_eq_ok hcreate
    · cases hfid.symm.trans hnew
      exact ⟨(not_failsWrites_of_bind hcreate).1, place?_eq_none_iff.mp hplace, rfl, rfl⟩
    · cases hfid.symm.trans hnone
  · rintro ⟨hwritable, hfree, rfl, rfl⟩
    rw [create_of_fid_eq_some hwritable hfid, place?_eq_none_iff.mpr hfree]
    rfl

theorem create_of_mem_ids (hnamed : ∀ g ∈ l.features, ∃ id, g.fid = some id)
    (htaken : f.fid ∈ l.ids) : ∃ reason, l.create f = .error reason := by
  obtain ⟨g, hg, hsame⟩ := List.mem_map.mp htaken
  obtain ⟨id, hid⟩ := hnamed g hg
  have hfid : f.fid = some id := hsame.symm.trans hid
  cases hcreate : l.create f with
  | error reason => exact ⟨reason, rfl⟩
  | ok created =>
    obtain ⟨-, hfree, -⟩ := (create_eq_ok_iff hfid).mp hcreate
    exact absurd (hfid ▸ htaken) hfree

/-- **Ids identify features over whole runs**, as long as the greatest id stays out of them. -/
theorem identifies_run (hempty : l.features = []) {fs : List Feature}
    (hdistinct : (l.fill fs).ids.Nodup) (hmax : ¬ Had (l.fill fs) calls Feature.maxFid) :
    Identifies (Had (l.fill fs) calls) ((l.fill fs).run calls) := by
  have hstart : IsNumbered (l.fill fs) := isNumbered_fill hempty fun hmem ↦
    hmax ⟨[], List.nil_prefix, hmem⟩
  obtain ⟨hnumbered, hnodup⟩ := hstart.run hdistinct hmax
  have hnamed : ∀ g ∈ ((l.fill fs).run calls).features, ∃ id, g.fid = some id := by
    intro g hg
    obtain ⟨id, hid, -⟩ := hnumbered g hg
    exact ⟨id, hid⟩
  refine ⟨hnamed, hnodup, ?_, fun _ _ _ _ ↦ create_eq_ok_iff, fun _ ↦ create_of_mem_ids hnamed,
    fun _ _ ↦ set_eq_ok_iff hnodup, fun _ _ ↦ delete_eq_ok_iff hnodup⟩
  intro hwritable f hfid
  exact ⟨_, create_of_fid_eq_none hwritable hfid, hstart.not_had hdistinct hmax⟩

/-! ## Moorings -/

/-- A layer of moorings, without any yet. -/
private def mooringLayer : Layer where
  definition := ⟨"moorings", [⟨"name", .string⟩], [], none⟩

private def mooringOf (fid : Option Int) (name : String) : Feature := ⟨fid, [.ofText name], none⟩

/-- Three moorings, one of which leaves its id to the layer. -/
private def moorings : List Feature :=
  [mooringOf none "east", mooringOf (some (-3)) "west", mooringOf (some 40) "quay"]

/-- An id that was handed out is deleted and used anew, and one that is in use is refused. -/
private def mooringCalls : List Call :=
  [.create (mooringOf none "pier"), .delete 41, .create (mooringOf (some 41) "mole"),
    .set (mooringOf (some (-3)) "outer west"), .create (mooringOf (some 1) "second east")]

/-- The moorings keep the rules. -/
theorem identifies_moorings :
    (mooringLayer.fill moorings).ids.Nodup ∧
      ¬ Had (mooringLayer.fill moorings) mooringCalls Feature.maxFid ∧
      Identifies (Had (mooringLayer.fill moorings) mooringCalls)
        ((mooringLayer.fill moorings).run mooringCalls) := by
  have hdistinct : (mooringLayer.fill moorings).ids.Nodup := by decide
  have hinits : ∀ earlier ∈ mooringCalls.inits,
      some Feature.maxFid ∉ ((mooringLayer.fill moorings).run earlier).ids := by
    decide
  have hmax : ¬ Had (mooringLayer.fill moorings) mooringCalls Feature.maxFid := by
    rintro ⟨earlier, hearlier, hmem⟩
    exact hinits earlier ((List.mem_inits earlier mooringCalls).mpr hearlier) hmem
  exact ⟨hdistinct, hmax, identifies_run rfl hdistinct hmax⟩

end ForeignLayer.Layer
