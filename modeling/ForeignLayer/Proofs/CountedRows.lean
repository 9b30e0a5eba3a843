import ForeignLayer.Proofs.PlannedFeatures
import ForeignLayer.Proofs.WrittenFeatures

/-!
# Counting the rows of a scan

A plan on a layer that counts fast has the number of features under its filters for an estimate, and
the scan of the plan gives the rows of these features. Both set the attribute filter anew, but they
differ about a box: a scan without one clears the box that is set on the layer, while counting
leaves it there. So the estimate is right unless an earlier scan left a box that shuts out some of
the features, and after any plan that was counted there is none.
-/

namespace ForeignLayer

open Catalog Predicate

/-- The attribute filter and the box that are set on a layer. -/
def Layer.filters (l : Layer) : Option (String × Filter.Condition) × Option (Nat × Box) :=
  (l.filter, l.spatial)

namespace Operation

open Layer

variable {c : Connection} {l l' : Layer} {table : Catalog.Table} {predicates : List Expr}
  {bindings : Bindings}

/-! ## What is counted -/

theorem count?_of_capable {force : Bool} (h : l.hasCapability fastFeatureCount = true) :
    l.count? force = some (l.features.filter
      (admits (l.filter.map Prod.snd) l.leftBox)).length := by
  rw [count?, h, Bool.or_true, if_pos rfl, count, isMatch_eq_admits, List.countP_eq_length_filter]

/-- A plan without a box is counted under the box that is left on the layer. -/
theorem Counted.eq_ok {plan : Predicate.Plan} {r : Except Fault (Option Nat) × Layer}
    (h : Counted plan l r) (hcapable : l.hasCapability fastFeatureCount = true)
    (hspatial : ∀ f ∈ plan.spatial, f.field < l.definition.geometryFields.length)
    {condition : Option Filter.Condition} (htakes : Takes l plan.filter condition) :
    r.1 = .ok (some
      (l.features.filter (admits condition (plan.spatial.or l.leftBox))).length) := by
  obtain ⟨l₀, hset, hcondition⟩ := changeFilter_of_takes htakes
  obtain ⟨hsame, hbox⟩ := changeFilter_eq_ok hset
  have hcapable₀ : l₀.hasCapability fastFeatureCount = true := by
    rw [hasCapability, hsame.capabilities]
    exact hcapable
  cases h with
  | refused hfilter => cases hfilter.symm.trans hset
  | unboxed hfilter hnone =>
    cases hfilter.symm.trans hset
    have hleft : l₀.leftBox = l.leftBox := by rw [leftBox, hbox, leftBox]
    rw [count?_of_capable hcapable₀, hcondition, hsame.features, hleft, hnone, Option.none_or]
  | outside hfilter hsome hbox => exact absurd hbox (setBox_ne_error hspatial hfilter hsome _)
  | @boxed _ l₂ hfilter f hsome hboxed =>
    cases hfilter.symm.trans hset
    obtain ⟨-, rfl⟩ := setBox_eq_ok.mp hboxed
    rw [count?_of_capable (l := { l₀ with spatial := some (f.field, f.box) }) hcapable₀]
    show Except.ok (some (l₀.features.filter
      (admits (l₀.filter.map Prod.snd) (some f))).length) = _
    rw [hcondition, hsame.features, hsome, Option.some_or]

/-! ## What is scanned -/

theorem startScan_of_scanPlanned {op : Operation} {rows : List Row}
    (h : ((scanPlanned op predicates bindings).run l).1 = .ok rows) :
    ∃ op', ((startScan op predicates bindings).run l).1 = .ok op' := by
  obtain ⟨op', l', hstarted, -⟩ := run_bind_eq_ok.mp (eq_ok_of_fst h)
  exact ⟨op', congrArg Prod.fst hstarted⟩

/-! ## Counts and rows -/

/-- Whether the box that is left on a layer does not get in the way of a count: a plan has a box of
its own, or the one that is left shuts out no feature that the attribute filter admits. -/
def LeavesCount (l : Layer) (plan : Predicate.Plan) : Prop :=
  plan.spatial = none → ∀ index box, l.spatial = some (index, box) →
    ∀ condition, Takes l plan.filter condition →
      ∀ f ∈ l.features, admits condition none f = true → f.overlaps box = true

theorem length_filter_eq_iff {α : Type} {p q : α → Bool} {xs : List α} :
    (xs.filter fun x ↦ p x && q x).length = (xs.filter p).length ↔
      ∀ x ∈ xs, p x = true → q x = true := by
  have hnested : (xs.filter fun x ↦ p x && q x) = (xs.filter p).filter q := by
    rw [List.filter_filter]
    exact List.filter_congr fun x _ ↦ Bool.and_comm _ _
  rw [hnested, List.length_filter_eq_length_iff]
  simp only [List.mem_filter, and_imp]

/-- A count agrees with the features that a scan admits if nothing that is left gets in the way. -/
theorem length_filter_eq_iff_leavesCount {plan : Predicate.Plan}
    {condition : Option Filter.Condition} (htakes : Takes l plan.filter condition) :
    (l.features.filter (admits condition (plan.spatial.or l.leftBox))).length =
        (l.features.filter (admits condition plan.spatial)).length ↔ LeavesCount l plan := by
  cases hown : plan.spatial with
  | some f => exact ⟨fun _ h ↦ (by cases hown.symm.trans h), fun _ ↦ by rw [Option.some_or]⟩
  | none =>
    rw [Option.none_or, leftBox]
    cases hleft : l.spatial with
    | none => exact ⟨fun _ _ index box h ↦ (by cases hleft.symm.trans h), fun _ ↦ rfl⟩
    | some s =>
      obtain ⟨index, box⟩ := s
      have hsplit : admits condition (some ⟨index, box⟩) =
          fun f ↦ admits condition none f && f.overlaps box := by
        funext f
        rw [admits, admits, Option.all_none, Bool.and_true, Option.all_some]
      rw [Option.map_some, hsplit, length_filter_eq_iff]
      constructor
      · intro h _ index' box' hsame condition' htakes' f hf hadmits
        cases hleft.symm.trans hsame
        rw [htakes'.unique htakes] at hadmits
        exact h f hf hadmits
      · intro h f hf hadmits
        exact h hown index box hleft condition htakes f hf hadmits

/-- **A plan counts the rows of its scan exactly if no box that is left on the layer gets in the
way.** Between the two, filters and the place of reading may change. -/
theorem planned_rows_iff {tableId : Nat} {settings : Settings.Planner} {planned : Operation}
    (hfast : settings.useFastFeatureCount = true)
    (hcapable : l.hasCapability fastFeatureCount = true)
    (hplan : (plan tableId c table predicates bindings settings).run l = (.ok planned, l'))
    {l₂ : Layer} (hsame : SameContents l' l₂) :
    ∃ estimate, planned = ⟨tableId, c, table, .plan estimate⟩ ∧
      (∀ rows, ((scanPlanned planned predicates bindings).run l₂).1 = .ok rows →
        (estimate.rows = rows.length ↔ LeavesCount l (planOf table c predicates bindings))) ∧
      ∀ name schema options tableSettings,
        Table.bind name schema options l.definition tableSettings = .ok table →
        l.rejectsFilters = false → (∀ f ∈ l.features, ∃ row, rowOf table f = .ok row) →
          ∃ rows, ((scanPlanned planned predicates bindings).run l₂).1 = .ok rows := by
  obtain ⟨hopen, estimate, rfl, hestimate⟩ := plan_eq_ok hplan
  have hcontents := sameContents_estimateRows c (planOf table c predicates bindings) settings l
  rw [hestimate] at hcontents
  replace hsame := hcontents.trans hsame
  refine ⟨estimate, rfl, fun rows hscan ↦ ?_, fun name schema options tableSettings hbind haccepts
    hreadable ↦ ?_⟩
  · obtain ⟨op', hstarted⟩ := startScan_of_scanPlanned hscan
    obtain ⟨-, -, l₃, happlied⟩ := startScan_eq_ok hstarted
    obtain ⟨⟨condition, htakes₂⟩, hspatial₂⟩ := happlied.takes
    -- what the scan was started with holds of the layer that was planned on
    have htakes : Takes l (planOf table c predicates bindings).filter condition :=
      htakes₂.of_sameContents hsame.symm
    have hspatial : ∀ f ∈ (planOf table c predicates bindings).spatial,
        f.field < l.definition.geometryFields.length := by
      rw [← hsame.definition]
      exact hspatial₂
    rw [run_scanPlanned rfl hopen rfl hspatial₂ htakes₂, hsame.features] at hscan
    have hcounted := (counted_countRows (planOf table c predicates bindings) l).eq_ok hcapable
      hspatial htakes
    rw [run_estimateRows hopen, hfast, hcapable, Bool.and_self, if_pos rfl] at hestimate
    rcases hrun : (countRows (planOf table c predicates bindings)).run l with ⟨r, l₁⟩
    rw [hrun] at hcounted hestimate
    dsimp only at hcounted hestimate
    subst hcounted
    have hrows := Except.ok.inj (congrArg Prod.fst hestimate)
    rw [Option.getD_some] at hrows
    rw [← hrows, ← (mapM_eq_ok_iff.mp hscan).length_eq]
    exact length_filter_eq_iff_leavesCount htakes
  · have hspatial := field_lt_of_planOf hbind c predicates bindings
    obtain ⟨condition, htakes⟩ := exists_takes_of_planOf hbind haccepts c predicates bindings
    rw [← hsame.definition] at hspatial
    rw [run_scanPlanned rfl hopen rfl hspatial (htakes.of_sameContents hsame), hsame.features]
    exact exists_mapM_eq_ok fun f hf ↦ hreadable f (List.mem_of_mem_filter hf)

/-! ## Boxes that are left -/

/-- Counting clears the box of a layer or leaves it. -/
theorem Counted.spatial {plan : Predicate.Plan} {r : Except Fault (Option Nat) × Layer}
    (h : Counted plan l r) : r.2.spatial = none ∨ r.2.spatial = l.spatial := by
  cases h with
  | refused hfilter => exact .inr rfl
  | outside hfilter hsome hbox => exact .inr (changeFilter_eq_ok hfilter).2
  | unboxed hfilter hnone => exact .inl rfl
  | boxed hfilter hsome hbox => exact .inl rfl

theorem spatial_estimateRows (c : Connection) (plan : Predicate.Plan)
    (settings : Settings.Planner) (l : Layer) :
    ((estimateRows c plan settings).run l).2.spatial = none ∨
      ((estimateRows c plan settings).run l).2.spatial = l.spatial := by
  have hestimated := estimated_estimateRows c plan settings l
  generalize (estimateRows c plan settings).run l = r at hestimated ⊢
  cases hestimated with
  | closed | assumed => exact .inr rfl
  | counted _ _ hcounted => exact hcounted.spatial

theorem Applied.spatial {plan : Predicate.Plan} {r : Except Fault Unit × Layer}
    (h : Applied plan l r) :
    r.2.spatial = l.spatial ∨ r.2.spatial = plan.spatial.map fun f ↦ (f.field, f.box) := by
  cases h with
  | refused hfilter => exact .inl rfl
  | outside hfilter hsome hbox => exact .inl (changeFilter_eq_ok hfilter).2
  | unboxed hfilter hnone =>
    rw [hnone]
    exact .inr rfl
  | boxed hfilter hsome hbox =>
    obtain ⟨-, rfl⟩ := setBox_eq_ok.mp hbox
    rw [hsome]
    exact .inr rfl

theorem spatial_startScan (op : Operation) (predicates : List Expr) (bindings : Bindings)
    (l : Layer) : ((startScan op predicates bindings).run l).2.spatial = l.spatial ∨
      ((startScan op predicates bindings).run l).2.spatial =
        (planOf op.table op.connection predicates bindings).spatial.map fun f ↦
          (f.field, f.box) := by
  have hstarted := started_startScan op predicates bindings l
  generalize (startScan op predicates bindings).run l = r at hstarted ⊢
  cases hstarted with
  | unplanned | closed => exact .inl rfl
  | refused _ _ happlied => exact happlied.spatial
  | started _ _ hplan happlied =>
    rw [hplan]
    exact happlied.spatial

section Writing

variable {s : Session}

theorem filters_write {α : Type} {f : Layer → Except Layer.Fault (α × Layer)}
    (hf : ∀ a l', f s.layer = .ok (a, l') → l'.filters = s.layer.filters) :
    ((write f).run s).2.layer.filters = s.layer.filters := by
  rw [run_write]
  dsimp only
  split
  · split
    · rfl
    · split
      · next hwritten => exact hf _ _ hwritten
      · rfl
  · rfl

theorem filters_featureToWrite {α : Type} (row : Row) {x : Feature → Step α}
    (hx : ∀ f, ((x f).run s).2.layer.filters = s.layer.filters) :
    ((featureToWrite row >>= x).run s).2.layer.filters = s.layer.filters := by
  by_cases hphase : s.operation.phase = .modify
  · obtain ⟨r, hrun, -⟩ := run_featureToWrite row hphase
    rw [run_bind, hrun]
    cases r with
    | ok f => exact hx f
    | error fault => rfl
  · rw [run_featureToWrite_of_ne row hphase]

theorem filters_insert (row : Row) :
    ((insert row).run s).2.layer.filters = s.layer.filters := by
  refine filters_featureToWrite row fun f ↦ filters_write fun id l' hcreate ↦ ?_
  rw [(create_eq_ok hcreate).1]
  rfl

theorem filters_update (row : Row) :
    ((update row).run s).2.layer.filters = s.layer.filters := by
  refine filters_featureToWrite row fun f ↦ ?_
  dsimp only
  split
  · rfl
  · refine filters_write fun _ l' hset ↦ ?_
    obtain ⟨l, hlayer, ⟨⟩⟩ := map_eq_ok.mp hset
    obtain ⟨id, i, -, -, rfl⟩ := set_eq_ok hlayer
    rfl

theorem filters_delete (fid : Int) :
    ((delete fid).run s).2.layer.filters = s.layer.filters := by
  by_cases hphase : s.operation.phase = .modify
  · rw [delete, run_bind, run_checkModify hphase]
    refine filters_write fun _ l' hdelete ↦ ?_
    obtain ⟨l, hlayer, ⟨⟩⟩ := map_eq_ok.mp hdelete
    obtain ⟨i, -, rfl⟩ := delete_eq_ok hlayer
    rfl
  · rw [delete, run_bind, run_checkModify_of_ne hphase]

end Writing

namespace Situation

/-- What an event makes of the box that is set on the layer. -/
inductive LeavesBox (s : Situation) : Event → Layer → Prop
  | kept {e : Event} {l : Layer} (h : l.spatial = s.layer.spatial) : LeavesBox s e l
  | cleared {e : Event} {l : Layer} (h : l.spatial = none) : LeavesBox s e l
  | scanned {predicates : List Expr} {bindings : Bindings} {op : Operation} {l : Layer}
      (hholder : s.holder = .operation op)
      (h : l.spatial = (planOf op.table op.connection predicates bindings).spatial.map fun f ↦
        (f.field, f.box)) : LeavesBox s (.startScan predicates bindings) l

variable {s : Situation}

theorem layer_handOver (x : LayerAction Operation) :
    (s.handOver x).2.layer = (x.run s.layer).2 := by
  rw [handOver]
  rcases x.run s.layer with ⟨fault | op, l⟩ <;> rfl

theorem leavesBox_act {e : Event} {f : Operation → Outcome × Situation}
    (hf : ∀ op, s.holder = .operation op → LeavesBox s e (f op).2.layer) :
    LeavesBox s e (s.act f).2.layer := by
  unfold act
  split
  · next op hholder => exact hf op hholder
  · exact .kept rfl

/-- **Only a scan that starts can leave a box.** -/
theorem leavesBox_perform (s : Situation) (e : Event) : LeavesBox s e (s.perform e).2.layer := by
  cases e with
  | plan tableId table predicates bindings settings =>
    rw [perform]
    split
    · next c hconnection =>
      have hspatial := spatial_estimateRows c (planOf table c predicates bindings) settings s.layer
      rw [layer_handOver, Operation.plan, run_bind]
      rcases hrun : (estimateRows c (planOf table c predicates bindings) settings).run s.layer with
        ⟨fault | rows, l'⟩ <;> rw [hrun] at hspatial <;> exact hspatial.elim .cleared .kept
    · exact .kept rfl
  | startScan predicates bindings =>
    refine leavesBox_act fun op hholder ↦ ?_
    rw [layer_handOver]
    exact (spatial_startScan op predicates bindings s.layer).elim .kept (.scanned hholder)
  | startModify =>
    refine leavesBox_act fun op hholder ↦ ?_
    rw [layer_handOver]
    exact .kept rfl
  | nextRow =>
    exact leavesBox_act fun op _ ↦ .kept (readsRow_nextRow ⟨op, s.layer⟩).onlyReads.spatial
  | rescan =>
    exact leavesBox_act fun op _ ↦ .kept (restarts_rescan ⟨op, s.layer⟩).onlyReads.spatial
  | write w =>
    refine leavesBox_act fun op hholder ↦ .kept ?_
    cases w with
    | insert row => exact congrArg Prod.snd (filters_insert (s := ⟨op, s.layer⟩) row)
    | update row => exact congrArg Prod.snd (filters_update (s := ⟨op, s.layer⟩) row)
    | delete fid => exact congrArg Prod.snd (filters_delete (s := ⟨op, s.layer⟩) fid)
  | turn capabilities failsWrites => exact .kept rfl

/-- A box that a run leaves was there before it, or is the one of a scan that started in it. -/
theorem exists_of_leftBox {events : List Event} {index : Nat} {box : Box}
    (h : (s.run events).layer.spatial = some (index, box)) :
    s.layer.spatial = some (index, box) ∨ ∃ before predicates bindings after op,
      events = before ++ .startScan predicates bindings :: after ∧
        (s.run before).holder = .operation op ∧
        (planOf op.table op.connection predicates bindings).spatial = some ⟨index, box⟩ := by
  -- backwards from the last event, to the one that set the box
  induction events using List.reverseRecOn with
  | nil => exact .inl h
  | append_singleton events e ih =>
    have hleaves := leavesBox_perform (s.run events) e
    have hlast : ((s.run events).perform e).2.layer.spatial = some (index, box) := by
      rw [run_append] at h
      exact h
    generalize ((s.run events).perform e).2.layer = l at hleaves hlast
    cases hleaves with
    | cleared hnone => cases hnone.symm.trans hlast
    | kept hkept =>
      rcases ih (hkept.symm.trans hlast) with hbefore | ⟨before, predicates, bindings, after, op,
        rfl, hop⟩
      · exact .inl hbefore
      · refine .inr ⟨before, predicates, bindings, after ++ [e], op, ?_, hop⟩
        rw [List.append_assoc, List.cons_append]
    | @scanned predicates bindings op _ hholder hscanned =>
      refine .inr ⟨events, predicates, bindings, [], op, rfl, hholder, ?_⟩
      obtain ⟨f, hf, heq⟩ := Option.map_eq_some_iff.mp (hscanned.symm.trans hlast)
      cases heq
      exact hf

/-- **Plans count right as long as no scan with a box was started** on a layer that had none. -/
theorem leavesCount_run {events : List Event} (hunset : s.layer.spatial = none)
    (hscans : ∀ before predicates bindings after op,
      events = before ++ .startScan predicates bindings :: after →
        (s.run before).holder = .operation op →
          (planOf op.table op.connection predicates bindings).spatial = none)
    (plan : Predicate.Plan) : LeavesCount (s.run events).layer plan := by
  intro _ index box hleft
  rcases exists_of_leftBox hleft with hbefore | ⟨before, predicates, bindings, after, op, hevents,
    hholder, hbox⟩
  · cases hunset.symm.trans hbefore
  · cases (hscans _ _ _ _ _ hevents hholder).symm.trans hbox

end Situation

/-! ## Two places -/

/-- A layer of two places that counts fast. -/
private def twoPlaces : Layer where
  definition := placesLayer
  features := [
    ⟨some 1, [], (Geometry.ofBytes [1, 1, 0, 0, 0, 0, 0, 0, 0, 0, 0, 0xf0, 0x3f,
      0, 0, 0, 0, 0, 0, 0, 0x40]).toOption⟩,
    ⟨some 2, [], (Geometry.ofBytes [1, 1, 0, 0, 0, 0, 0, 0, 0, 0, 0, 0x08, 0x40,
      0, 0, 0, 0, 0, 0, 0x10, 0x40]).toOption⟩]
  capabilities := ["FastFeatureCount"]
  nextFid := 3

private def placesConnection : Connection :=
  ⟨{ datasource := "places.gpkg" }, "places", .yes, .yes, .utf8, some { layers := [twoPlaces] }⟩

/-- Overlaps with the first of the places. -/
private def aroundPlace : Expr :=
  .call "&&" .immutable [.column "geom" none, .literal placeValue]

/-- How many rows a plan expects. -/
private def expected? : Phase → Option Nat
  | .plan estimate => some estimate.rows
  | _ => none

private theorem expected?_eq_some {phase : Phase} {rows : Nat} :
    expected? phase = some rows ↔ ∃ estimate, phase = .plan estimate ∧ estimate.rows = rows := by
  cases phase <;> simp [expected?]

/-- A layer that was just opened counts right. -/
theorem planned_rows_iff_places : ∃ planned l' estimate rows,
    (plan 7 placesConnection placesTable [] [] {}).run twoPlaces = (.ok planned, l') ∧
      planned.phase = .plan estimate ∧
      ((scanPlanned planned [] []).run l').1 = .ok rows ∧ estimate.rows = rows.length := by
  have hbind : Table.bind "places" placesSchema [] twoPlaces.definition { layer := "places" } =
      .ok placesTable := bind_places
  have hreadable : ∀ f ∈ twoPlaces.features, (rowOf placesTable f).toOption.isSome = true := by
    decide +kernel
  obtain ⟨_, l', hplan, -⟩ := run_plan (c := placesConnection) 7 rfl placesTable [] [] {}
    (field_lt_of_planOf hbind placesConnection [] [])
  obtain ⟨estimate, hplanned, hcount, hscan⟩ := planned_rows_iff rfl rfl hplan (.refl l')
  obtain ⟨rows, hrows⟩ := hscan _ _ _ _ hbind rfl fun f hf ↦ by
    obtain ⟨row, hrow⟩ := Option.isSome_iff_exists.mp (hreadable f hf)
    exact ⟨row, toOption_eq_some.mp hrow⟩
  have hleaves : LeavesCount twoPlaces (planOf placesTable placesConnection [] []) :=
    fun _ index box hleft ↦ by cases hleft
  exact ⟨_, l', estimate, rows, hplan, congrArg phase hplanned, hrows,
    (hcount rows hrows).mpr hleaves⟩

/-- A scan around one of the places leaves its box behind, and a plan without predicates counts one
place where its scan reads two. -/
theorem planned_rows_ne_left_box :
    Table.bind "places" placesSchema [] twoPlaces.definition { layer := "places" } =
        .ok placesTable ∧
    ∃ l planned estimate rows,
      l = (Situation.run ⟨.opener placesConnection, twoPlaces⟩
        [.plan 7 placesTable [aroundPlace] [] {}, .startScan [aroundPlace] []]).layer ∧
      l.hasCapability fastFeatureCount = true ∧ l.rejectsFilters = false ∧
      ((scanAll 7 placesConnection placesTable [] [] {}).run l).1 = .ok (planned, rows) ∧
      planned.phase = .plan estimate ∧ estimate.rows = 1 ∧ rows.length = 2 := by
  let l := (Situation.run ⟨.opener placesConnection, twoPlaces⟩
    [.plan 7 placesTable [aroundPlace] [] {}, .startScan [aroundPlace] []]).layer
  have hcapable : l.hasCapability fastFeatureCount = true := by decide +kernel
  have haccepts : l.rejectsFilters = false := by decide +kernel
  have hrun : ((scanAll 7 placesConnection placesTable [] [] {}).run l).1.toOption.map
      (fun r ↦ (expected? r.1.phase, r.2.length)) = some (some 1, 2) := by
    decide +kernel
  obtain ⟨⟨planned, rows⟩, hscan, hboth⟩ := Option.map_eq_some_iff.mp hrun
  obtain ⟨hexpected, hlength⟩ := Prod.mk.inj hboth
  obtain ⟨estimate, hphase, hcount⟩ := expected?_eq_some.mp hexpected
  exact ⟨bind_places, l, planned, estimate, rows, rfl, hcapable, haccepts,
    toOption_eq_some.mp hscan, hphase, hcount, hlength⟩

end Operation

end ForeignLayer
