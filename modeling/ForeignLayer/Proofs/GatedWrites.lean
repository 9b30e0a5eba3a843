import ForeignLayer.Proofs.Events

/-!
# Writes are gated

Whether writes get to a layer is settled by its connection, and over a run it is settled for good:
once a connection is shut it stays so, and a shut one lets nothing through. A connection is opened
shut if its source can only be read or if its table is set against writes, it shuts when a layer
without any capability for writes is asked, and one that attempts writes shuts with the first write
that the layer refuses. A connection that was never asked has no modification on it, so nothing can
be written before.
-/

namespace ForeignLayer

/-! ## Connections -/

namespace Connection

variable {c : Connection}

/-- Whether a connection lets no writes through. -/
def IsShut (c : Connection) : Prop := c.sourceUpdateable = .no ∨ c.layerUpdateable = .no

/-- Whether a connection attempts writes until the first one fails. -/
def Attempts (c : Connection) : Prop :=
  c.layerUpdateable = .attempt ∨ c.layerUpdateable = .no

theorem IsShut.probe (h : c.IsShut) (l : Layer) : c.probe l = (false, c) := by
  rw [Connection.probe]
  rcases h with hsource | hlayer
  · rw [if_pos hsource]
  · split
    · rfl
    · rw [hlayer]

theorem Attempts.probe (h : c.Attempts) (l : Layer) : (c.probe l).2 = c := by
  rw [Connection.probe]
  split
  · rfl
  · rcases h with hlayer | hlayer <;> rw [hlayer]

theorem probe_of_unset (hlayer : c.layerUpdateable = .unset) {l : Layer}
    (hwritable : isWritable l = false) : (c.probe l).1 = false := by
  rw [Connection.probe, hlayer, hwritable]
  split
  · rfl
  · rw [Bool.and_false]
    rfl

/-- Whether a property of connections stays when the connection is asked and when it takes note of a
refusal. -/
structure IsKept (P : Connection → Prop) : Prop where
  probe : ∀ {c}, P c → ∀ l, P (c.probe l).2
  recordWriteFailure : ∀ {c}, P c → P c.recordWriteFailure

theorem isKept_isShut : IsKept IsShut where
  probe h l := by
    rw [h.probe]
    exact h
  recordWriteFailure {c} h := by
    rw [Connection.recordWriteFailure]
    split
    · exact Or.inr rfl
    · exact h

theorem isKept_attempts : IsKept Attempts where
  probe h l := by
    rw [h.probe]
    exact h
  recordWriteFailure {c} h := by
    rw [Connection.recordWriteFailure]
    split
    · exact Or.inr rfl
    · exact h

theorem Attempts.recordWriteFailure (h : c.Attempts) : c.recordWriteFailure.IsShut := by
  rw [Connection.recordWriteFailure]
  rcases h with hlayer | hlayer
  · rw [if_pos hlayer]
    exact Or.inr rfl
  · rw [if_neg (by rw [hlayer]; exact Updateable.noConfusion)]
    exact Or.inr hlayer

/-! ## Opening -/

/-- Whether a source that is asked for by settings can only be opened for reading: the settings do
not ask for more, or it cannot be opened for update. -/
def OpensReadOnly (registry : Registry) (source : Settings.Source) (table : Settings.Table) :
    Prop :=
  source.updateable = false ∨ ∀ q encoding, request source table = .ok (q, encoding) →
    ∃ fault, registry.openSource q = .error fault

section Opening

variable {registry : Registry} {source : Settings.Source} {table : Settings.Table}

theorem update_of_request {q : Request} {encoding : Encoding}
    (h : request source table = .ok (q, encoding)) : q.update = source.updateable := by
  simp only [request] at h
  split at h
  · cases h
  · split at h
    · cases h
    · obtain ⟨chosen, -, h⟩ := bind_eq_ok.mp h
      obtain ⟨openOptions, -, h⟩ := bind_eq_ok.mp h
      obtain ⟨configOptions, -, ⟨⟩⟩ := bind_eq_ok.mp h
      rfl

/-- A source is for reading only if the request for it is, or if it cannot be opened for update. -/
theorem updateable_of_openSource {q : Request} {opened : Source} {updateable : Updateable}
    (h : (openSource registry q).2 = .ok (opened, updateable))
    (hreadOnly : q.update = false ∨ ∃ fault, registry.openSource q = .error fault) :
    updateable = .no := by
  have hmap {r : Except Fault Source}
      (h : r.map (fun source ↦ (source, Updateable.no)) = .ok (opened, updateable)) :
      updateable = .no := by
    obtain ⟨source, -, ⟨⟩⟩ := map_eq_ok.mp h
    rfl
  unfold openSource at h
  split at h
  · next hupdate =>
    rcases hreadOnly with hnot | ⟨fault, hfault⟩
    · cases hupdate.symm.trans hnot
    · rw [hfault] at h
      exact hmap h
  · exact hmap h

theorem exists_of_opening {l : Layer} (h : (opening registry source table).result = .ok (c, l)) :
    ∃ q encoding opened, request source table = .ok (q, encoding) ∧
      (openSource registry q).2 = .ok (opened, c.sourceUpdateable) ∧
      c.layerUpdateable = .ofSetting table.updateable := by
  unfold opening at h
  split at h
  · cases h
  · next q encoding hrequest =>
    obtain ⟨⟨opened, updateable⟩, hopened, h⟩ := bind_eq_ok.mp h
    dsimp only at h
    split at h
    · cases h
    · cases h
      exact ⟨q, encoding, opened, hrequest, hopened, rfl⟩

theorem sourceUpdateable_of_opening {l : Layer}
    (h : (opening registry source table).result = .ok (c, l))
    (hreadOnly : OpensReadOnly registry source table) : c.sourceUpdateable = .no := by
  obtain ⟨q, encoding, opened, hrequest, hopened, -⟩ := exists_of_opening h
  refine updateable_of_openSource hopened ?_
  rw [update_of_request hrequest]
  exact hreadOnly.imp_right fun hfails ↦ hfails q encoding hrequest

theorem layerUpdateable_of_opening {l : Layer}
    (h : (opening registry source table).result = .ok (c, l)) :
    c.layerUpdateable = .ofSetting table.updateable := by
  obtain ⟨q, encoding, opened, -, -, hlayer⟩ := exists_of_opening h
  exact hlayer

end Opening

end Connection

namespace Operation

open Connection

/-! ## Steps -/

/-- Whether a write got to the layer, which took it or refused it. -/
def reachesLayer : Outcome → Bool
  | some (.ok _) => true
  | some (.error fault) => fault.isLayer
  | none => false

namespace Situation

/-- Whether the connection, as far as there is one left, has a property. -/
def All (s : Situation) (P : Connection → Prop) : Prop :=
  ∀ c, s.holder.connection? = some c → P c

variable {s : Situation} {e : Event} {r : Outcome × Situation}

theorem all_opener {c : Connection} {l : Layer} {P : Connection → Prop} (h : P c) :
    All ⟨.opener c, l⟩ P := by
  intro c hc
  cases hc
  exact h

theorem all_operation {op : Operation} {l : Layer} {P : Connection → Prop} (h : P op.connection) :
    All ⟨.operation op, l⟩ P := by
  intro c hc
  cases hc
  exact h

theorem all_nothing {l : Layer} {P : Connection → Prop} : All ⟨.nothing, l⟩ P :=
  fun c hc ↦ (by cases hc)

theorem All.operation {P : Connection → Prop} (h : s.All P) {op : Operation}
    (hholder : s.holder = .operation op) : P op.connection :=
  h op.connection (by rw [hholder]; rfl)

/-- What is kept by probing and by refusals is kept by every event. -/
theorem All.follows {P : Connection → Prop} (hkept : IsKept P) (hall : s.All P)
    (h : Follows s e r) : r.2.All P := by
  cases h with
  | idle hholder => exact hall
  | turned => exact hall
  | misused hholder hfits m hnext =>
    rcases hnext with rfl | rfl
    · exact all_operation (hall.operation hholder)
    · exact all_nothing
  | lost fault hwrite hfits hcontents => exact all_nothing
  | planned hconnection hop hcontents =>
    refine all_operation ?_
    rw [hop.1]
    exact hall _ hconnection
  | scanning hholder hstage hop hcontents =>
    refine all_operation ?_
    rw [hop.1]
    exact hall.operation hholder
  | modifying hholder hstage hprobe hconnection =>
    refine all_operation ?_
    rw [hconnection]
    exact hkept.probe (hall.operation hholder) s.layer
  | read he hholder hstage hreads =>
    refine all_operation ?_
    rw [hreads.connection]
    exact hall.operation hholder
  | wrote hholder hphase hwrites =>
    have hc := hall.operation hholder
    cases hwrites with
    | blocked hfault hconnection =>
      refine all_operation ?_
      rcases hconnection with rfl | rfl
      · exact hc
      · exact hkept.probe hc s.layer
    | refused hprobe reason =>
      exact all_operation (hkept.recordWriteFailure (hkept.probe hc s.layer))
    | done hprobe a l => exact all_operation (hkept.probe hc s.layer)

theorem All.run {P : Connection → Prop} (hkept : IsKept P) (hall : s.All P)
    (events : List Event) : (s.run events).All P := by
  induction events generalizing s with
  | nil => exact hall
  | cons e events ih => exact ih (hall.follows hkept (follows_perform s e))

/-- Only a write that gets through changes the contents of the layer. -/
theorem contents_of_follows (h : Follows s e r) : r.2.layer.contents = s.layer.contents ∨
    ∃ w op, e = .write w ∧ s.holder = .operation op ∧ op.phase = .modify ∧
      (op.connection.probe s.layer).1 = true ∧ r.1 = some (.ok ()) := by
  cases h with
  | idle hholder => exact Or.inl rfl
  | turned => exact Or.inl rfl
  | misused hholder hfits m hnext => exact Or.inl rfl
  | lost fault hwrite hfits hcontents => exact Or.inl hcontents
  | planned hconnection hop hcontents => exact Or.inl hcontents
  | scanning hholder hstage hop hcontents => exact Or.inl hcontents
  | modifying hholder hstage hprobe hconnection => exact Or.inl rfl
  | read he hholder hstage hreads => exact Or.inl hreads.contents
  | wrote hholder hphase hwrites =>
    cases hwrites with
    | blocked hfault hconnection => exact Or.inl rfl
    | refused hprobe reason => exact Or.inl rfl
    | done hprobe a l => exact Or.inr ⟨_, _, rfl, hholder, hphase, hprobe, rfl⟩

/-- An event that does not belong to the phase changes nothing. -/
theorem misuse_of_follows (h : Follows s e r) {op : Operation} (hholder : s.holder = .operation op)
    (hfits : ¬ e.Fits op.phase.stage) :
    (∃ m, r.1 = some (.error (.misuse m))) ∧ r.2.layer = s.layer := by
  cases h with
  | idle hidle => exact absurd hholder (hidle op)
  | turned => exact absurd trivial hfits
  | misused hop hfits m hnext => exact ⟨⟨m, rfl⟩, rfl⟩
  | lost fault hwrite hlost hcontents => exact absurd (hlost op hholder) hfits
  | planned hconnection hop hcontents => exact absurd trivial hfits
  | scanning hop hstage hop' hcontents =>
    cases hholder.symm.trans hop
    exact absurd hstage hfits
  | modifying hop hstage hprobe hconnection =>
    cases hholder.symm.trans hop
    exact absurd hstage hfits
  | read he hop hstage hreads =>
    cases hholder.symm.trans hop
    rcases he with rfl | rfl <;> exact absurd hstage hfits
  | wrote hop hphase hwrites =>
    cases hholder.symm.trans hop
    exact absurd (congrArg Phase.stage hphase) hfits

theorem layer_of_failure {w : Write} {fault : Fault} (h : Follows s (.write w) r)
    (hfault : r.1 = some (.error fault)) : r.2.layer = s.layer := by
  cases h with
  | idle hholder => rfl
  | misused hholder hfits m hnext => rfl
  | lost fault hwrite hfits hcontents => exact absurd rfl (hwrite w)
  | read he hholder hstage hreads => rcases he with he | he <;> cases he
  | wrote hholder hphase hwrites =>
    cases hwrites with
    | blocked hfault hconnection => rfl
    | refused hprobe reason => rfl
    | done hprobe a l => cases hfault

/-! ## Shut connections -/

theorem contents_of_isShut (hall : s.All IsShut) (h : Follows s e r) :
    r.2.layer.contents = s.layer.contents := by
  rcases contents_of_follows h with hcontents | ⟨w, op, -, hholder, -, hprobe, -⟩
  · exact hcontents
  · rw [(hall.operation hholder).probe] at hprobe
    cases hprobe

theorem contents_run_of_isShut (hall : s.All IsShut) (events : List Event) :
    (s.run events).layer.contents = s.layer.contents := by
  induction events generalizing s with
  | nil => rfl
  | cons e events ih =>
    have hfollows := follows_perform s e
    exact (ih (hall.follows isKept_isShut hfollows)).trans (contents_of_isShut hall hfollows)

/-- A write that gets to the layer was let through. -/
theorem exists_of_reachesLayer {w : Write} (h : Follows s (.write w) r)
    (hreaches : reachesLayer r.1 = true) :
    ∃ op, s.holder = .operation op ∧ (op.connection.probe s.layer).1 = true := by
  cases h with
  | idle hholder => cases hreaches
  | misused hholder hfits m hnext => cases hreaches
  | lost fault hwrite hfits hcontents => exact absurd rfl (hwrite w)
  | read he hholder hstage hreads => rcases he with he | he <;> cases he
  | wrote hholder hphase hwrites =>
    cases hwrites with
    | blocked hfault hconnection => cases hfault.symm.trans hreaches
    | refused hprobe reason => exact ⟨_, hholder, hprobe⟩
    | done hprobe a l => exact ⟨_, hholder, hprobe⟩

theorem reachesLayer_of_isShut (hall : s.All IsShut) {w : Write} (h : Follows s (.write w) r) :
    reachesLayer r.1 = false := by
  rw [← Bool.not_eq_true]
  intro hreaches
  obtain ⟨op, hholder, hprobe⟩ := exists_of_reachesLayer h hreaches
  rw [(hall.operation hholder).probe] at hprobe
  cases hprobe

/-- A refusal shuts a connection that attempts writes. -/
theorem isShut_of_refused (hall : s.All Attempts) {w : Write} {reason : Layer.Fault}
    (h : Follows s (.write w) r) (hrefused : r.1 = some (.error (.layer reason))) :
    r.2.All IsShut := by
  cases h with
  | idle hholder => cases hrefused
  | misused hholder hfits m hnext => cases hrefused
  | lost fault hwrite hfits hcontents => exact absurd rfl (hwrite w)
  | read he hholder hstage hreads => rcases he with he | he <;> cases he
  | wrote hholder hphase hwrites =>
    cases hwrites with
    | blocked hfault hconnection =>
      cases hrefused
      cases hfault
    | refused hprobe reason =>
      refine all_operation ?_
      have hattempts := hall.operation hholder
      exact (isKept_attempts.probe hattempts s.layer).recordWriteFailure
    | done hprobe a l => cases hrefused

/-! ## Connections that were never asked -/

/-- Whether there is a plan, which a modification can be started from. -/
def IsPlanned (s : Situation) : Prop := ∃ op, s.holder = .operation op ∧ op.phase.stage = .plan

/-- Whether a modification that is started after some events is the first one to be started from a
plan, so that nothing has asked before what the layer is capable of. -/
def AsksFirst (s : Situation) (before : List Event) : Prop :=
  (s.run before).IsPlanned ∧
    ∀ earlier others, before = earlier ++ .startModify :: others → ¬ (s.run earlier).IsPlanned

/-- Whether the layer was never asked, so that there is no modification either. -/
structure Unasked (s : Situation) : Prop where
  unset : s.All (·.layerUpdateable = .unset)
  stage : ∀ op, s.holder = .operation op → op.phase.stage ≠ .modify

theorem unasked_operation {op : Operation} {l : Layer}
    (hunset : op.connection.layerUpdateable = .unset) (hstage : op.phase.stage ≠ .modify) :
    Unasked ⟨.operation op, l⟩ := by
  refine ⟨all_operation hunset, fun op' hop' ↦ ?_⟩
  cases hop'
  exact hstage

theorem unasked_nothing {l : Layer} : Unasked ⟨.nothing, l⟩ :=
  ⟨all_nothing, fun op hop ↦ (by cases hop)⟩

/-- Nothing asks the layer before a modification is started from a plan. -/
theorem Unasked.follows (hs : Unasked s) (h : Follows s e r)
    (he : e = .startModify → ¬ s.IsPlanned) : Unasked r.2 := by
  cases h with
  | idle hholder => exact hs
  | turned => exact ⟨hs.unset, hs.stage⟩
  | misused hholder hfits m hnext =>
    rcases hnext with rfl | rfl
    · exact unasked_operation (hs.unset.operation hholder) (hs.stage _ hholder)
    · exact unasked_nothing
  | lost fault hwrite hfits hcontents => exact unasked_nothing
  | planned hconnection hop hcontents =>
    refine unasked_operation ?_ ?_
    · rw [hop.1]
      exact hs.unset _ hconnection
    · rw [hop.2]
      exact Stage.noConfusion
  | scanning hholder hstage hop hcontents =>
    refine unasked_operation ?_ ?_
    · rw [hop.1]
      exact hs.unset.operation hholder
    · rw [hop.2]
      exact Stage.noConfusion
  | modifying hholder hstage hprobe hconnection =>
    exact absurd ⟨_, hholder, hstage⟩ (he rfl)
  | read _ hholder hstage hreads =>
    refine unasked_operation ?_ ?_
    · rw [hreads.connection]
      exact hs.unset.operation hholder
    · rw [hreads.stage]
      exact hs.stage _ hholder
  | wrote hholder hphase hwrites => exact absurd (congrArg Phase.stage hphase) (hs.stage _ hholder)

theorem Unasked.contents (hs : Unasked s) (h : Follows s e r) :
    r.2.layer.contents = s.layer.contents := by
  rcases contents_of_follows h with hcontents | ⟨w, op, -, hholder, hphase, -⟩
  · exact hcontents
  · exact absurd (congrArg Phase.stage hphase) (hs.stage op hholder)

/-- A layer that is asked first and has no capability for writes shuts the connection. -/
theorem Unasked.isShut (hs : Unasked s) (h : Follows s .startModify r) (hplanned : s.IsPlanned)
    (hwritable : isWritable s.layer = false) : r.2.All IsShut := by
  obtain ⟨op, hholder, hstage⟩ := hplanned
  cases h with
  | idle hidle => exact absurd hholder (hidle op)
  | misused hop hfits m hnext =>
    cases hholder.symm.trans hop
    exact absurd hstage hfits
  | lost fault hwrite hfits hcontents => exact all_nothing
  | modifying hop _ hprobe hconnection =>
    rw [probe_of_unset (hs.unset.operation hop) hwritable] at hprobe
    cases hprobe
  | read he hop hstage hreads => rcases he with he | he <;> cases he

/-- As long as every modification starts from a layer that is not capable of writes when it is asked
first, nothing is ever written. -/
theorem Unasked.contents_run (hs : Unasked s) {events : List Event}
    (h : ∀ before after, events = before ++ .startModify :: after → s.AsksFirst before →
      isWritable (s.run before).layer = false) :
    (s.run events).layer.contents = s.layer.contents := by
  induction events generalizing s with
  | nil => rfl
  | cons e events ih =>
    have hfollows := follows_perform s e
    have hcontents := hs.contents hfollows
    by_cases hasks : e = .startModify ∧ s.IsPlanned
    · obtain ⟨rfl, hplanned⟩ := hasks
      have hwritable : isWritable s.layer = false :=
        h [] events rfl ⟨hplanned, fun earlier others heq ↦ by simp at heq⟩
      exact (contents_run_of_isShut (hs.isShut hfollows hplanned hwritable) events).trans hcontents
    · have hnext := hs.follows hfollows fun he hplanned ↦ hasks ⟨he, hplanned⟩
      refine (ih hnext fun before after heq hfirst ↦ ?_).trans hcontents
      refine h (e :: before) after (by rw [heq, List.cons_append]) ⟨hfirst.1, ?_⟩
      -- the first event does not ask, and of the others none asked before
      rintro (_ | ⟨e', earlier⟩) others heq' hplanned
      · rw [List.nil_append, List.cons.injEq] at heq'
        exact hasks ⟨heq'.1, hplanned⟩
      · rw [List.cons_append, List.cons.injEq] at heq'
        obtain ⟨rfl, rfl⟩ := heq'
        exact hfirst.2 earlier others rfl hplanned

end Situation

/-! ## Runs -/

open Situation

/-- How the writes of all runs from a situation are gated, whatever the settings and the sources it
was opened from. -/
structure GatesWrites (registry : Registry) (source : Settings.Source) (table : Settings.Table)
    (start : Situation) : Prop where
  /-- The contents of the layer change only in a write that succeeds in a modification. -/
  change : ∀ events e,
    ((start.run events).perform e).2.layer.contents ≠ (start.run events).layer.contents →
      ∃ w op, e = .write w ∧ (start.run events).holder = .operation op ∧ op.phase = .modify ∧
        ((start.run events).perform e).1 = some (.ok ())
  /-- An event that does not belong to the phase is a mistake, and leaves the layer as it is. -/
  misuse : ∀ events e op, (start.run events).holder = .operation op → ¬ e.Fits op.phase.stage →
    (∃ m, ((start.run events).perform e).1 = some (.error (.misuse m))) ∧
      ((start.run events).perform e).2.layer = (start.run events).layer
  /-- A write that fails leaves the layer as it is. -/
  failure : ∀ events w fault, ((start.run events).perform (.write w)).1 = some (.error fault) →
    ((start.run events).perform (.write w)).2.layer = (start.run events).layer
  /-- Nothing is written if the source can only be read. -/
  readOnly : OpensReadOnly registry source table →
    ∀ events, (start.run events).layer.contents = start.layer.contents
  /-- Nothing is written if the table is set against it. -/
  forbidden : table.updateable = some false →
    ∀ events, (start.run events).layer.contents = start.layer.contents
  /-- Nothing is written without a setting if the layer is not capable of writes when it is asked
  first. -/
  incapable : table.updateable = none → ∀ events,
    (∀ before after, events = before ++ .startModify :: after → start.AsksFirst before →
      isWritable (start.run before).layer = false) →
    (start.run events).layer.contents = start.layer.contents
  /-- If the table is set for writes, none gets to the layer after the first one that it refuses. -/
  refused : table.updateable = some true → ∀ before w reason,
    ((start.run before).perform (.write w)).1 = some (.error (.layer reason)) → ∀ after,
      (start.run (before ++ .write w :: after)).layer.contents =
          (start.run before).layer.contents ∧
        ∀ w', reachesLayer
          ((start.run (before ++ .write w :: after)).perform (.write w')).1 = false

/-- **Writes are gated over whole runs.** -/
theorem gatesWrites_of_opening {registry : Registry} {source : Settings.Source}
    {table : Settings.Table} {c : Connection} {l : Layer}
    (h : (opening registry source table).result = .ok (c, l)) :
    GatesWrites registry source table ⟨.opener c, l⟩ where
  change events e hchange := by
    rcases contents_of_follows (follows_perform _ e) with hsame | ⟨w, op, he, hop, hphase, -, hok⟩
    · exact absurd hsame hchange
    · exact ⟨w, op, he, hop, hphase, hok⟩
  misuse events e op hop hfits := misuse_of_follows (follows_perform _ e) hop hfits
  failure events w fault hfault := layer_of_failure (follows_perform _ _) hfault
  readOnly hreadOnly := contents_run_of_isShut
    (all_opener (Or.inl (sourceUpdateable_of_opening h hreadOnly)))
  forbidden hsetting := by
    refine contents_run_of_isShut (all_opener (Or.inr ?_))
    rw [layerUpdateable_of_opening h, hsetting]
    rfl
  incapable hsetting events hwritable := by
    refine Unasked.contents_run ⟨all_opener ?_, fun op hop ↦ (by cases hop)⟩ hwritable
    rw [layerUpdateable_of_opening h, hsetting]
    rfl
  refused hsetting before w reason hrefused after := by
    have hattempts : All ⟨.opener c, l⟩ Attempts := by
      refine all_opener (Or.inl ?_)
      rw [layerUpdateable_of_opening h, hsetting]
      rfl
    have hfollows := follows_perform ((⟨.opener c, l⟩ : Situation).run before) (.write w)
    have hshut := isShut_of_refused (hattempts.run isKept_attempts before) hfollows hrefused
    have hcontents := layer_of_failure hfollows hrefused
    rw [run_append, run_cons]
    refine ⟨?_, fun w' ↦ ?_⟩
    · rw [contents_run_of_isShut hshut, hcontents]
    · exact reachesLayer_of_isShut (hshut.run isKept_isShut after) (follows_perform _ _)

/-- A layer with one feature that refuses writes for now. -/
def stubbornLayer : Layer where
  definition := ⟨"roads", [⟨"name", .string⟩], [], none⟩
  features := [⟨some 1, [.ofText "A1"], none⟩]
  failsWrites := true
  nextFid := 2

/-- The connection to the layer through a table that is set for writes. -/
def stubbornConnection : Connection where
  settings := { datasource := "roads.gpkg" }
  layerName := "roads"
  sourceUpdateable := .yes
  layerUpdateable := .attempt
  encoding := .utf8
  source := some { layers := [stubbornLayer] }

/-- A layer that refused to delete a feature is not written to again, even when it would take
writes. -/
theorem gatesWrites_of_opening_stubborn :
    (opening ⟨[("roads.gpkg", { layers := [stubbornLayer] })], []⟩ { datasource := "roads.gpkg" }
      { layer := "roads", updateable := some true }).result =
        .ok (stubbornConnection, stubbornLayer) ∧
    ((run ⟨.opener stubbornConnection, stubbornLayer⟩
      [.plan 0 ⟨"t", "roads", []⟩ [] [] {}, .startModify]).perform (.write (.delete 1))).1 =
        some (.error (.layer .readOnly)) ∧
    reachesLayer ((run ⟨.opener stubbornConnection, stubbornLayer⟩
      ([.plan 0 ⟨"t", "roads", []⟩ [] [] {}, .startModify] ++ .write (.delete 1) ::
        [.turn [] false])).perform (.write (.delete 1))).1 = false := by
  have hopening : (opening ⟨[("roads.gpkg", { layers := [stubbornLayer] })], []⟩
      { datasource := "roads.gpkg" } { layer := "roads", updateable := some true }).result =
        .ok (stubbornConnection, stubbornLayer) := rfl
  have hrefused : ((run ⟨.opener stubbornConnection, stubbornLayer⟩
      [.plan 0 ⟨"t", "roads", []⟩ [] [] {}, .startModify]).perform (.write (.delete 1))).1 =
        some (.error (.layer .readOnly)) := rfl
  exact ⟨hopening, hrefused,
    ((gatesWrites_of_opening hopening).refused rfl _ _ _ hrefused [.turn [] false]).2 _⟩

end Operation

end ForeignLayer
