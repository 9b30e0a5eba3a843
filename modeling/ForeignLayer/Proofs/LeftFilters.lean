import ForeignLayer.Proofs.CountedRows

/-!
# Filters that are left

Counting and starting a scan set filters in the same order, first the attribute filter and then the
box. Counting clears both when it is done, but stops in between if the layer refuses the box, and so
does a scan; then the attribute filter is left. A layer can only refuse the box of a plan that was
made for another definition, since a bound table knows no geometry fields but those of its layer.
Everything else that fails leaves a clear layer clear.

If the layer refuses the attribute filter, counting clears that one and not the box, so a box that
a scan left before is still there.
-/

namespace ForeignLayer

open Catalog Predicate

namespace Layer

/-- Whether no filter is set on a layer. -/
structure IsClear (l : Layer) : Prop where
  filter : l.filter = none
  spatial : l.spatial = none

theorem IsClear.of_filters {l l' : Layer} (h : l.IsClear) (hsame : l'.filters = l.filters) :
    l'.IsClear :=
  ⟨(congrArg Prod.fst hsame).trans h.filter, (congrArg Prod.snd hsame).trans h.spatial⟩

theorem changeFilter_some_eq_ok {l l' : Layer} {text : String}
    (h : l.changeFilter (some text) = .ok l') :
    ∃ condition, Takes l (some text) (some condition) ∧ l'.filter = some (text, condition) := by
  rw [changeFilter, setFilter] at h
  split at h
  · cases h
  · next hrejects =>
    split at h
    · cases h
    · next condition hread =>
      cases h
      exact ⟨condition, .some (Bool.eq_false_of_not_eq_true hrejects) hread, rfl⟩

theorem setBox_eq_error {l : Layer} {field : Nat} {box : Box} {reason : Layer.Fault}
    (h : l.setBox field box = .error reason) :
    l.definition.geometryFields.length ≤ field ∧ reason = .noGeometryField field := by
  unfold setBox at h
  split at h
  · cases h
  · next hnot =>
    cases h
    exact ⟨Nat.le_of_not_lt hnot, rfl⟩

end Layer

namespace Operation

open Layer

variable {c : Connection} {l l' : Layer} {table : Catalog.Table} {predicates : List Expr}
  {bindings : Bindings}

/-! ## Filters that are refused -/

/-- Whether a layer takes all filters of a plan. -/
structure TakesBoth (plan : Predicate.Plan) (l : Layer) : Prop where
  filter : ∃ condition, Takes l plan.filter condition
  spatial : ∀ f ∈ plan.spatial, f.field < l.definition.geometryFields.length

/-- Whether a layer takes the attribute filter of a plan, of which there has to be one, and then
refuses the box. -/
structure Strands (plan : Predicate.Plan) (l : Layer) : Prop where
  filter : ∃ text condition, plan.filter = some text ∧ Takes l (some text) (some condition)
  spatial : ∃ f ∈ plan.spatial, l.definition.geometryFields.length ≤ f.field

theorem TakesBoth.not_strands {plan : Predicate.Plan} (h : TakesBoth plan l) :
    ¬ Strands plan l := by
  intro hstrands
  obtain ⟨f, hf, houtside⟩ := hstrands.spatial
  exact absurd (h.spatial f hf) (Nat.not_lt.mpr houtside)

/-- **A layer never strands a plan for a table that is bound to its own definition.** -/
theorem not_strands_planOf {name : String} {schema : Schema} {options : ColumnOptions}
    {settings : Settings.Table}
    (hbind : Table.bind name schema options l.definition settings = .ok table) (c : Connection)
    (predicates : List Expr) (bindings : Bindings) :
    ¬ Strands (planOf table c predicates bindings) l := by
  intro hstrands
  obtain ⟨f, hf, houtside⟩ := hstrands.spatial
  exact absurd (field_lt_of_planOf hbind c predicates bindings f hf) (Nat.not_lt.mpr houtside)

/-! ## What counting and starting leave -/

/-- What is left where a layer refused the box of a plan: the attribute filter of the plan, and the
box from before. -/
structure Stops {α : Type} (plan : Predicate.Plan) (l : Layer) (r : Except Fault α × Layer) :
    Prop where
  fault : ∃ f ∈ plan.spatial, l.definition.geometryFields.length ≤ f.field ∧
    r.1 = .error (.layer (.noGeometryField f.field))
  filter : r.2.filter.map Prod.fst = plan.filter
  spatial : r.2.spatial = l.spatial

section Plans

variable {plan : Predicate.Plan}

/-- Where a plan is stranded, its attribute filter is left. -/
theorem Stops.not_isClear {α : Type} {r : Except Fault α × Layer} (h : Stops plan l r)
    (hstrands : Strands plan l) : ¬ r.2.IsClear := by
  intro hclear
  obtain ⟨text, condition, htext, -⟩ := hstrands.filter
  have hnone := h.filter
  rw [htext, hclear.filter] at hnone
  cases hnone

theorem Stops.bind {α β : Type} {x : LayerAction α} {f : α → LayerAction β}
    (h : Stops plan l (x.run l)) : Stops plan l ((x >>= f).run l) := by
  rw [run_bind]
  obtain ⟨⟨f, hf, houtside, hfault⟩, hfilter, hspatial⟩ := h
  rcases hrun : x.run l with ⟨r, l'⟩
  rw [hrun] at hfault hfilter hspatial
  dsimp only at hfault
  subst hfault
  exact ⟨⟨f, hf, houtside, rfl⟩, hfilter, hspatial⟩

theorem not_strands_of_changeFilter {reason : Layer.Fault}
    (hfilter : l.changeFilter plan.filter = .error reason) : ¬ Strands plan l := by
  intro hstrands
  obtain ⟨text, condition, htext, htakes⟩ := hstrands.filter
  obtain ⟨l₁, hset, -⟩ := changeFilter_of_takes htakes
  rw [htext] at hfilter
  cases hfilter.symm.trans hset

section Refused

variable {l₁ : Layer} (hfilter : l.changeFilter plan.filter = .ok l₁) {f : SpatialFilter}
  (hsome : plan.spatial = some f) {reason : Layer.Fault}
  (hbox : l₁.setBox f.field f.box = .error reason)

include hfilter hsome hbox

/-- Where the box is refused, the attribute filter has been set. -/
theorem stops_of_setBox {α : Type} :
    Stops plan l ((.error (.layer reason) : Except Fault α), l₁) := by
  obtain ⟨hsame, hspatial⟩ := changeFilter_eq_ok hfilter
  obtain ⟨houtside, rfl⟩ := setBox_eq_error hbox
  rw [hsame.definition] at houtside
  refine ⟨⟨f, hsome, houtside, rfl⟩, ?_, hspatial⟩
  cases hplan : plan.filter with
  | none =>
    rw [hplan] at hfilter
    cases hfilter
    rfl
  | some text =>
    rw [hplan] at hfilter
    obtain ⟨condition, -, hset⟩ := changeFilter_some_eq_ok hfilter
    rw [hset]
    rfl

theorem isClear_iff_of_setBox : l₁.IsClear ↔ l.spatial = none ∧ ¬ Strands plan l := by
  have hstops : Stops plan l ((.error (.layer reason) : Except Fault Unit), l₁) :=
    stops_of_setBox hfilter hsome hbox
  constructor
  · intro hclear
    exact ⟨hstops.spatial.symm.trans hclear.spatial,
      fun hstrands ↦ hstops.not_isClear hstrands hclear⟩
  · rintro ⟨hspatial, hnot⟩
    refine ⟨?_, hstops.spatial.trans hspatial⟩
    cases hplan : plan.filter with
    | none =>
      rw [hplan] at hfilter
      cases hfilter
      rfl
    | some text =>
      rw [hplan] at hfilter
      obtain ⟨condition, htakes, -⟩ := changeFilter_some_eq_ok hfilter
      obtain ⟨g, hg, houtside, -⟩ := hstops.fault
      exact absurd ⟨⟨text, condition, hplan, htakes⟩, g, hg, houtside⟩ hnot

end Refused

theorem Applied.takesBoth (h : Applied plan l (.ok (), l')) : TakesBoth plan l :=
  ⟨h.takes.1, h.takes.2⟩

/-- **Counting clears a layer that takes both filters, and otherwise one without a box**, but for
the plans that it strands. -/
theorem Counted.isClear_iff {r : Except Fault (Option Nat) × Layer} (h : Counted plan l r) :
    r.2.IsClear ↔ TakesBoth plan l ∨ l.spatial = none ∧ ¬ Strands plan l := by
  cases h with
  | refused hfilter =>
    have hnot := not_strands_of_changeFilter hfilter
    refine ⟨fun hclear ↦ .inr ⟨hclear.spatial, hnot⟩, ?_⟩
    rintro (hboth | ⟨hspatial, -⟩)
    · obtain ⟨condition, htakes⟩ := hboth.filter
      obtain ⟨l₁, hset, -⟩ := changeFilter_of_takes htakes
      cases hfilter.symm.trans hset
    · exact ⟨rfl, hspatial⟩
  | outside hfilter hsome hbox =>
    rw [isClear_iff_of_setBox hfilter hsome hbox]
    refine ⟨.inr, ?_⟩
    rintro (hboth | hright)
    · exact absurd hbox (setBox_ne_error hboth.spatial hfilter hsome _)
    · exact hright
  | unboxed hfilter hnone =>
    exact ⟨fun _ ↦ .inl (Applied.unboxed hfilter hnone).takesBoth, fun _ ↦ ⟨rfl, rfl⟩⟩
  | boxed hfilter hsome hbox =>
    exact ⟨fun _ ↦ .inl (Applied.boxed hfilter hsome hbox).takesBoth, fun _ ↦ ⟨rfl, rfl⟩⟩

theorem Counted.stops {r : Except Fault (Option Nat) × Layer} (h : Counted plan l r)
    (hstrands : Strands plan l) : Stops plan l r := by
  cases h with
  | refused hfilter => exact absurd hstrands (not_strands_of_changeFilter hfilter)
  | outside hfilter hsome hbox => exact stops_of_setBox hfilter hsome hbox
  | unboxed hfilter hnone =>
    exact absurd hstrands (Applied.unboxed hfilter hnone).takesBoth.not_strands
  | boxed hfilter hsome hbox =>
    exact absurd hstrands (Applied.boxed hfilter hsome hbox).takesBoth.not_strands

/-- A scan that cannot set its filters leaves a clear layer clear, but for the plans that the layer
strands. -/
theorem Applied.isClear_iff {fault : Fault} (h : Applied plan l (.error fault, l'))
    (hclear : l.IsClear) : l'.IsClear ↔ ¬ Strands plan l := by
  cases h with
  | refused hfilter => exact ⟨fun _ ↦ not_strands_of_changeFilter hfilter, fun _ ↦ hclear⟩
  | outside hfilter hsome hbox =>
    rw [isClear_iff_of_setBox hfilter hsome hbox]
    exact and_iff_right hclear.spatial

theorem Applied.stops {r : Except Fault Unit × Layer} (h : Applied plan l r)
    (hstrands : Strands plan l) : Stops plan l r := by
  cases h with
  | refused hfilter => exact absurd hstrands (not_strands_of_changeFilter hfilter)
  | outside hfilter hsome hbox => exact stops_of_setBox hfilter hsome hbox
  | unboxed hfilter hnone =>
    exact absurd hstrands (Applied.unboxed hfilter hnone).takesBoth.not_strands
  | boxed hfilter hsome hbox =>
    exact absurd hstrands (Applied.boxed hfilter hsome hbox).takesBoth.not_strands

end Plans

/-! ## Planning and starting -/

/-- Whether a plan is counted. -/
structure Counts (c : Connection) (settings : Settings.Planner) (l : Layer) : Prop where
  isOpen : c.checkLayer = .ok ()
  wanted : settings.useFastFeatureCount = true
  fast : l.hasCapability fastFeatureCount = true

/-- Whether a scan can be started, as far as the operation is concerned. -/
structure Starts (op : Operation) : Prop where
  planned : op.checkPlanned = .ok ()
  isOpen : op.connection.checkLayer = .ok ()

/-- Whether an action leaves a clear layer clear except where it was asked to set the filters of a
plan and the layer strands the plan. -/
structure KeepsClear {α : Type} (asked : Prop) (plan : Predicate.Plan) (l : Layer)
    (r : Except Fault α × Layer) : Prop where
  isClear_iff : r.2.IsClear ↔ ¬ (asked ∧ Strands plan l)
  stops : asked → Strands plan l → Stops plan l r

section KeepsClear

variable {α β : Type} {asked : Prop} {plan : Predicate.Plan}

theorem layer_bind {x : LayerAction α} {f : α → LayerAction β}
    (hf : ∀ a l', ((f a).run l').2 = l') : ((x >>= f).run l).2 = (x.run l).2 := by
  rw [run_bind]
  rcases x.run l with ⟨fault | a, l'⟩
  · rfl
  · exact hf a l'

theorem KeepsClear.of_not {r : Except Fault α × Layer} (hlayer : r.2 = l) (hclear : l.IsClear)
    (hnot : ¬ asked) : KeepsClear asked plan l r := by
  refine ⟨⟨fun _ h ↦ hnot h.1, fun _ ↦ ?_⟩, fun h ↦ absurd h hnot⟩
  rw [hlayer]
  exact hclear

theorem KeepsClear.bind {x : LayerAction α} {f : α → LayerAction β}
    (h : KeepsClear asked plan l (x.run l)) (hf : ∀ a l', ((f a).run l').2 = l') :
    KeepsClear asked plan l ((x >>= f).run l) := by
  refine ⟨?_, fun hasked hstrands ↦ (h.stops hasked hstrands).bind⟩
  rw [layer_bind hf]
  exact h.isClear_iff

end KeepsClear

theorem run_estimateRows_of_counts {settings : Settings.Planner} (hcounts : Counts c settings l)
    (plan : Predicate.Plan) :
    (estimateRows c plan settings).run l =
      (countRows plan >>= fun count ↦ pure (count.getD settings.defaultRowEstimate)).run l := by
  simp only [estimateRows, run_bind, run_ofConnection, hcounts.isOpen, Except.mapError, run_get,
    hcounts.wanted, hcounts.fast, Bool.and_self, if_pos]

/-- **What a counted plan leaves of any layer**: filters from before are cleared, except the box of
a layer that does not take the filters of the plan. -/
theorem isClear_plan_iff {tableId : Nat} {settings : Settings.Planner}
    (hcounts : Counts c settings l) :
    ((plan tableId c table predicates bindings settings).run l).2.IsClear ↔
      TakesBoth (planOf table c predicates bindings) l ∨
        l.spatial = none ∧ ¬ Strands (planOf table c predicates bindings) l := by
  rw [plan, layer_bind fun _ _ ↦ rfl, run_estimateRows_of_counts hcounts, layer_bind fun _ _ ↦ rfl]
  exact (counted_countRows _ l).isClear_iff

theorem run_startScan_of_starts {op : Operation} (hstarts : Starts op) :
    (startScan op predicates bindings).run l =
      (applyFilters (planOf op.table op.connection predicates bindings) >>= fun _ ↦
        let plan := planOf op.table op.connection predicates bindings
        return { op with phase := .scan ⟨plan.filter, plan.spatial, plan.params, 0⟩ }).run l := by
  simp only [startScan, run_bind, run_liftM, hstarts.planned, run_ofConnection, hstarts.isOpen,
    Except.mapError]

theorem stops_startScan {op : Operation} (hstarts : Starts op)
    (hstrands : Strands (planOf op.table op.connection predicates bindings) l) :
    Stops (planOf op.table op.connection predicates bindings) l
      ((startScan op predicates bindings).run l) := by
  rw [run_startScan_of_starts hstarts]
  exact ((applied_applyFilters _ l).stops hstrands).bind

section Clear

variable (hclear : l.IsClear)

include hclear

theorem keepsClear_countRows {asked : Prop} (hasked : asked) (plan : Predicate.Plan) :
    KeepsClear asked plan l ((countRows plan).run l) := by
  have hcounted := counted_countRows plan l
  refine ⟨?_, fun _ ↦ hcounted.stops⟩
  rw [hcounted.isClear_iff, and_iff_right hclear.spatial, and_iff_right hasked]
  exact ⟨fun h ↦ h.elim TakesBoth.not_strands id, .inr⟩

theorem keepsClear_estimateRows (c : Connection) (plan : Predicate.Plan)
    (settings : Settings.Planner) :
    KeepsClear (Counts c settings l) plan l ((estimateRows c plan settings).run l) := by
  by_cases hcounts : Counts c settings l
  · rw [run_estimateRows_of_counts hcounts]
    exact .bind (keepsClear_countRows hclear hcounts plan) fun _ _ ↦ rfl
  · have hestimated := estimated_estimateRows c plan settings l
    generalize (estimateRows c plan settings).run l = r at hestimated ⊢
    cases hestimated with
    | closed | assumed => exact .of_not rfl hclear hcounts
    | counted hopen hcounted =>
      rw [Bool.and_eq_true] at hcounted
      exact absurd ⟨hopen, hcounted.1, hcounted.2⟩ hcounts

/-- **Planning leaves a clear layer clear but for the plans that it counts and the layer
strands.** -/
theorem keepsClear_plan (tableId : Nat) (c : Connection) (table : Catalog.Table)
    (predicates : List Expr) (bindings : Bindings) (settings : Settings.Planner) :
    KeepsClear (Counts c settings l) (planOf table c predicates bindings) l
      ((plan tableId c table predicates bindings settings).run l) :=
  .bind (keepsClear_estimateRows hclear c _ settings) fun _ _ ↦ rfl

/-- **A scan that fails to start leaves a clear layer clear but for the plans that the layer
strands.** -/
theorem keepsClear_startScan {op : Operation} {predicates : List Expr} {bindings : Bindings}
    {fault : Fault} (h : (startScan op predicates bindings).run l = (.error fault, l')) :
    KeepsClear (Starts op) (planOf op.table op.connection predicates bindings) l
      ((startScan op predicates bindings).run l) := by
  refine ⟨?_, stops_startScan⟩
  have hstarted := started_startScan op predicates bindings l
  rw [h] at hstarted ⊢
  cases hstarted with
  | unplanned hplanned =>
    refine iff_of_true hclear fun ⟨hstarts, _⟩ ↦ ?_
    cases hplanned.symm.trans hstarts.planned
  | closed _ hclosed =>
    refine iff_of_true hclear fun ⟨hstarts, _⟩ ↦ ?_
    cases hclosed.symm.trans hstarts.isOpen
  | refused hplanned hopen happlied =>
    rw [happlied.isClear_iff hclear, and_iff_right ⟨hplanned, hopen⟩]

end Clear

/-! ## Runs -/

theorem ReadsRow.filters {s : Session} {r : Result (Option Row) × Session} (h : ReadsRow s r) :
    r.2.layer.filters = s.layer.filters := by
  cases h <;> rfl

theorem Restarts.filters {s : Session} {r : Result Unit × Session} (h : Restarts s r) :
    r.2.layer.filters = s.layer.filters := by
  cases h <;> rfl

namespace Situation

/-- Whether an event on a clear layer leaves a filter on it: a scan starts, or the layer strands the
plan of one that was to be counted or started. -/
inductive LeavesFilter (s : Situation) : Event → Prop
  | started {predicates : List Expr} {bindings : Bindings} {op op' : Operation} {l' : Layer}
      (hholder : s.holder = .operation op)
      (hrun : (Operation.startScan op predicates bindings).run s.layer = (.ok op', l')) :
      LeavesFilter s (.startScan predicates bindings)
  | notStarted {predicates : List Expr} {bindings : Bindings} {op : Operation}
      (hholder : s.holder = .operation op) (hstarts : Starts op)
      (hstrands : Strands (planOf op.table op.connection predicates bindings) s.layer) :
      LeavesFilter s (.startScan predicates bindings)
  | notPlanned {tableId : Nat} {table : Catalog.Table} {predicates : List Expr}
      {bindings : Bindings} {settings : Settings.Planner} {c : Connection}
      (hconnection : s.holder.connection? = some c) (hcounts : Counts c settings s.layer)
      (hstrands : Strands (planOf table c predicates bindings) s.layer) :
      LeavesFilter s (.plan tableId table predicates bindings settings)

variable {s : Situation}

theorem isClear_act {f : Operation → Outcome × Situation} (hclear : s.layer.IsClear)
    (hf : ∀ op, s.holder = .operation op → (f op).2.layer.IsClear) :
    (s.act f).2.layer.IsClear := by
  unfold act
  split
  · next op hholder => exact hf op hholder
  · exact hclear

/-- Nothing else leaves a filter on a clear layer. -/
theorem isClear_perform (hclear : s.layer.IsClear) {e : Event} (hleaves : ¬ LeavesFilter s e) :
    (s.perform e).2.layer.IsClear := by
  cases e with
  | plan tableId table predicates bindings settings =>
    rw [perform]
    split
    · next c hconnection =>
      rw [layer_handOver, (keepsClear_plan hclear tableId c table predicates bindings
        settings).isClear_iff]
      exact fun h ↦ hleaves (.notPlanned hconnection h.1 h.2)
    · exact hclear
  | startScan predicates bindings =>
    refine isClear_act hclear fun op hholder ↦ ?_
    rw [layer_handOver]
    rcases hrun : (Operation.startScan op predicates bindings).run s.layer with ⟨fault | op', l'⟩
    · have hkeeps := keepsClear_startScan hclear hrun
      rw [hrun] at hkeeps
      rw [hkeeps.isClear_iff]
      exact fun h ↦ hleaves (.notStarted hholder h.1 h.2)
    · exact absurd (.started hholder hrun) hleaves
  | startModify =>
    refine isClear_act hclear fun op _ ↦ ?_
    rw [layer_handOver]
    exact hclear
  | nextRow =>
    exact isClear_act hclear fun op _ ↦ hclear.of_filters (readsRow_nextRow ⟨op, s.layer⟩).filters
  | rescan =>
    exact isClear_act hclear fun op _ ↦ hclear.of_filters (restarts_rescan ⟨op, s.layer⟩).filters
  | write w =>
    refine isClear_act hclear fun op _ ↦ ?_
    cases w with
    | insert row => exact hclear.of_filters (filters_insert (s := ⟨op, s.layer⟩) row)
    | update row => exact hclear.of_filters (filters_update (s := ⟨op, s.layer⟩) row)
    | delete fid => exact hclear.of_filters (filters_delete (s := ⟨op, s.layer⟩) fid)
  | turn capabilities failsWrites => exact ⟨hclear.filter, hclear.spatial⟩

/-- **A filter that a run left on a clear layer was left by one of its events.** -/
theorem exists_leavesFilter {events : List Event} (hclear : s.layer.IsClear)
    (hleft : ¬ (s.run events).layer.IsClear) : ∃ before e after,
      events = before ++ e :: after ∧ (s.run before).layer.IsClear ∧
        LeavesFilter (s.run before) e := by
  -- up to the first event after which the layer is not clear any more
  induction events generalizing s with
  | nil => exact absurd hclear hleft
  | cons e events ih =>
    by_cases hleaves : LeavesFilter s e
    · exact ⟨[], e, events, rfl, hclear, hleaves⟩
    · rw [run_cons] at hleft
      obtain ⟨before, e', after, rfl, hbefore, hleaves'⟩ :=
        ih (isClear_perform hclear hleaves) hleft
      exact ⟨e :: before, e', after, rfl, hbefore, hleaves'⟩

end Situation

/-! ## Clear layers -/

/-- **On a clear layer no filter is left by a plan, or by a scan that fails to start, unless the
layer takes the attribute filter of the plan and then refuses its box**, and a layer takes all boxes
of the tables that are bound to its definition. -/
theorem keepsClear (hclear : l.IsClear) :
    (∀ tableId c table predicates bindings settings,
      KeepsClear (Counts c settings l) (planOf table c predicates bindings) l
        ((plan tableId c table predicates bindings settings).run l)) ∧
    (∀ op predicates bindings fault l',
      (startScan op predicates bindings).run l = (.error fault, l') →
        KeepsClear (Starts op) (planOf op.table op.connection predicates bindings) l
          ((startScan op predicates bindings).run l)) ∧
    ∀ name schema options settings table,
      Table.bind name schema options l.definition settings = .ok table →
        ∀ c predicates bindings, ¬ Strands (planOf table c predicates bindings) l :=
  ⟨keepsClear_plan hclear, fun _ _ _ _ _ h ↦ keepsClear_startScan hclear h,
    fun _ _ _ _ _ hbind ↦ not_strands_planOf hbind⟩

/-! ## Wrecks -/

private def wrecksSchema : Schema :=
  [⟨"name", .utf8, []⟩, ⟨"geom", .binary .regular, [("ARROW:extension:name", "geoarrow.wkb")]⟩]

/-- A layer of wrecks that counts fast. -/
private def wrecksLayer : Layer where
  definition := ⟨"wrecks", [⟨"name", .string⟩], [⟨"geom", .point⟩], none⟩
  capabilities := ["FastFeatureCount"]

/-- The layer after it lost its geometry field. -/
private def lostWrecksLayer : Layer :=
  { wrecksLayer with definition := { wrecksLayer.definition with geometryFields := [] } }

/-- The layer as one that takes no attribute filters. -/
private def pickyWrecksLayer : Layer := { wrecksLayer with rejectsFilters := true }

private def wrecksTable : Catalog.Table where
  name := "wrecks"
  layerName := "wrecks"
  columns := [⟨0, "name", false, .plain .utf8, -1, .field 0 ⟨"name", .string⟩,
      (Conversion.resolve (.plain .utf8)).toOption⟩,
    ⟨1, "geom", false, .geometry (.binary .regular), 0, .geometry 0 .point,
      (Conversion.resolve (.geometry (.binary .regular))).toOption⟩]

private theorem bind_wrecks :
    Table.bind "wrecks" wrecksSchema [] wrecksLayer.definition { layer := "wrecks" } =
      .ok wrecksTable := by
  have hbind : (Table.bind "wrecks" wrecksSchema [] wrecksLayer.definition
      { layer := "wrecks" }).toOption = some wrecksTable := by
    decide +kernel
  exact toOption_eq_some.mp hbind

private def wrecksConnection : Connection :=
  ⟨{ datasource := "wrecks.gpkg" }, "wrecks", .yes, .yes, .utf8,
    some { layers := [wrecksLayer] }⟩

/-- The wrecks of a name. -/
private def isNamed : Expr :=
  .binary (.compare .eq) (.column "name" none) (.literal (.ofText "Bounty"))

/-- The wrecks at a place. -/
private def isAtPlace : Expr :=
  .call "&&" .immutable [.column "geom" none, .literal placeValue]

private theorem strands_lostWrecks :
    Strands (planOf wrecksTable wrecksConnection [isNamed, isAtPlace] []) lostWrecksLayer := by
  have hfilter : (planOf wrecksTable wrecksConnection [isNamed, isAtPlace] []).filter =
      some "\"name\" = 'Bounty'" := by
    decide +kernel
  have hread : (Filter.Condition.read lostWrecksLayer.definition
      "\"name\" = 'Bounty'").toOption.isSome = true := by
    decide +kernel
  have hspatial : (planOf wrecksTable wrecksConnection [isNamed, isAtPlace] []).spatial.isSome =
      true := by
    decide +kernel
  obtain ⟨condition, hcondition⟩ := Option.isSome_iff_exists.mp hread
  obtain ⟨f, hf⟩ := Option.isSome_iff_exists.mp hspatial
  exact ⟨⟨_, condition, hfilter, .some rfl (toOption_eq_some.mp hcondition)⟩, f, hf,
    Nat.zero_le _⟩

private theorem isClear_lostWrecks : lostWrecksLayer.IsClear := ⟨rfl, rfl⟩

private theorem counts_lostWrecks : Counts wrecksConnection {} lostWrecksLayer := ⟨rfl, rfl, rfl⟩

/-- The table of a layer strands nothing, whatever it is scanned for. -/
theorem keepsClear_wrecks :
    wrecksLayer.IsClear ∧
      Table.bind "wrecks" wrecksSchema [] wrecksLayer.definition { layer := "wrecks" } =
        .ok wrecksTable ∧
      ((plan 7 wrecksConnection wrecksTable [isNamed, isAtPlace] [] {}).run
        wrecksLayer).2.IsClear := by
  have hclear : wrecksLayer.IsClear := ⟨rfl, rfl⟩
  obtain ⟨hplan, -, hbound⟩ := keepsClear hclear
  refine ⟨hclear, bind_wrecks, ?_⟩
  rw [(hplan _ _ _ _ _ _).isClear_iff]
  exact fun h ↦ hbound _ _ _ _ _ bind_wrecks _ _ _ h.2

/-- The layer after a scan around a place was planned and started. -/
private def aroundPlaceWrecks : Situation :=
  Situation.run ⟨.opener wrecksConnection, pickyWrecksLayer⟩
    [.plan 7 wrecksTable [isAtPlace] [] {}, .startScan [isAtPlace] []]

private theorem not_isClear_of_isSome {l : Layer} (h : l.spatial.isSome = true) : ¬ l.IsClear := by
  intro hclear
  rw [hclear.spatial] at h
  cases h

/-- A layer that lost its geometry field is left with the name as its filter, by a plan that is
counted and by a scan that fails to start. And a layer that takes no attribute filters keeps the box
of an earlier scan through a plan that is made well and a scan that fails to start. -/
theorem not_isClear_lostWrecks :
    Table.bind "wrecks" wrecksSchema [] wrecksLayer.definition { layer := "wrecks" } =
        .ok wrecksTable ∧
    lostWrecksLayer.IsClear ∧
    (∃ field l', (plan 7 wrecksConnection wrecksTable [isNamed, isAtPlace] [] {}).run
        lostWrecksLayer = (.error (.layer (.noGeometryField field)), l') ∧ ¬ l'.IsClear) ∧
    (∃ op field l', ((plan 7 wrecksConnection wrecksTable [isNamed, isAtPlace] []
        { useFastFeatureCount := false }).run lostWrecksLayer).1 = .ok op ∧
      (startScan op [isNamed, isAtPlace] []).run lostWrecksLayer =
        (.error (.layer (.noGeometryField field)), l') ∧ ¬ l'.IsClear) ∧
    pickyWrecksLayer.IsClear ∧
    ∃ s, aroundPlaceWrecks.perform (.plan 7 wrecksTable [isNamed] [] {}) = (some (.ok ()), s) ∧
      ¬ s.layer.IsClear ∧ ∃ fault s',
        s.perform (.startScan [isNamed] []) = (some (.error fault), s') ∧ ¬ s'.layer.IsClear := by
  refine ⟨bind_wrecks, isClear_lostWrecks, ?_, ?_, ⟨rfl, rfl⟩, ?_⟩
  · have hstops := (keepsClear_plan isClear_lostWrecks 7 wrecksConnection wrecksTable
      [isNamed, isAtPlace] [] {}).stops counts_lostWrecks strands_lostWrecks
    rcases hrun : (plan 7 wrecksConnection wrecksTable [isNamed, isAtPlace] [] {}).run
      lostWrecksLayer with ⟨r, l'⟩
    rw [hrun] at hstops
    obtain ⟨f, -, -, hfault⟩ := hstops.fault
    dsimp only at hfault
    subst hfault
    exact ⟨f.field, l', rfl, hstops.not_isClear strands_lostWrecks⟩
  · have hmade : ((plan 7 wrecksConnection wrecksTable [isNamed, isAtPlace] []
        { useFastFeatureCount := false }).run lostWrecksLayer).1.toOption.isSome = true := by
      decide +kernel
    obtain ⟨op, hop⟩ := Option.isSome_iff_exists.mp hmade
    obtain ⟨-, estimate, rfl, -⟩ := plan_eq_ok (eq_ok_of_toOption hop)
    have hstarts : Starts ⟨7, wrecksConnection, wrecksTable, .plan estimate⟩ := ⟨rfl, rfl⟩
    have hstops := stops_startScan hstarts strands_lostWrecks
    rcases hrun : (startScan ⟨7, wrecksConnection, wrecksTable, .plan estimate⟩
      [isNamed, isAtPlace] []).run lostWrecksLayer with ⟨r, l'⟩
    rw [hrun] at hstops
    obtain ⟨f, -, -, hfault⟩ := hstops.fault
    dsimp only at hfault
    subst hfault
    exact ⟨_, f.field, l', toOption_eq_some.mp hop, hrun, hstops.not_isClear strands_lostWrecks⟩
  · have hplanned : ((aroundPlaceWrecks.perform (.plan 7 wrecksTable [isNamed] [] {})).1.bind
        Except.toOption).isSome = true ∧
        (aroundPlaceWrecks.perform
          (.plan 7 wrecksTable [isNamed] [] {})).2.layer.spatial.isSome = true := by
      decide +kernel
    have hfailed : ((aroundPlaceWrecks.perform (.plan 7 wrecksTable [isNamed] [] {})).2.perform
        (.startScan [isNamed] [])).1.map (·.toOption.isNone) = some true ∧
        ((aroundPlaceWrecks.perform (.plan 7 wrecksTable [isNamed] [] {})).2.perform
          (.startScan [isNamed] [])).2.layer.spatial.isSome = true := by
      decide +kernel
    rcases hplan : aroundPlaceWrecks.perform (.plan 7 wrecksTable [isNamed] [] {}) with
      ⟨outcome, s⟩
    rw [hplan] at hplanned hfailed
    rcases hstart : s.perform (.startScan [isNamed] []) with ⟨outcome', s'⟩
    dsimp only at hplanned hfailed
    rw [hstart] at hfailed
    obtain ⟨⟨⟩, hok⟩ := Option.isSome_iff_exists.mp hplanned.1
    obtain ⟨r, rfl, hr⟩ := Option.bind_eq_some_iff.mp hok
    cases toOption_eq_some.mp hr
    obtain ⟨r', rfl, hr'⟩ := Option.map_eq_some_iff.mp hfailed.1
    cases r' with
    | ok _ => cases hr'
    | error fault =>
      exact ⟨s, rfl, not_isClear_of_isSome hplanned.2, fault, s', hstart,
        not_isClear_of_isSome hfailed.2⟩

end Operation

end ForeignLayer
