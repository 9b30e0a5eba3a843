import ForeignLayer.Proofs.LayerSteps
import ForeignLayer.Proofs.Steps

/-!
# The rows of a scan

A scan that is read to its end gives the rows of exactly those features that match the filters of
its plan, in the order of the layer. What carries the proof is the list of features that are still
to be read: a step takes its first element, and nothing else changes it.

Planning may count features under the filters, but it leaves nothing behind that a scan would see;
starting the scan sets both filters anew and reads from the beginning.
-/

namespace ForeignLayer

open Predicate

namespace Layer

/-! ## Setting filters -/

/-- Whether two layers differ in their filters and in the place of reading at most. -/
structure SameContents (l l' : Layer) : Prop where
  definition : l'.definition = l.definition
  features : l'.features = l.features
  capabilities : l'.capabilities = l.capabilities
  rejectsFilters : l'.rejectsFilters = l.rejectsFilters
  failsWrites : l'.failsWrites = l.failsWrites
  nextFid : l'.nextFid = l.nextFid

theorem SameContents.refl (l : Layer) : SameContents l l := ⟨rfl, rfl, rfl, rfl, rfl, rfl⟩

theorem SameContents.symm {l l' : Layer} (h : SameContents l l') : SameContents l' l :=
  ⟨h.definition.symm, h.features.symm, h.capabilities.symm, h.rejectsFilters.symm,
    h.failsWrites.symm, h.nextFid.symm⟩

theorem SameContents.trans {l l' l'' : Layer} (h : SameContents l l') (h' : SameContents l' l'') :
    SameContents l l'' :=
  ⟨h'.definition.trans h.definition, h'.features.trans h.features,
    h'.capabilities.trans h.capabilities, h'.rejectsFilters.trans h.rejectsFilters,
    h'.failsWrites.trans h.failsWrites, h'.nextFid.trans h.nextFid⟩

theorem sameContents_clearFilter (l : Layer) : SameContents l l.clearFilter :=
  ⟨rfl, rfl, rfl, rfl, rfl, rfl⟩

theorem sameContents_clearBox (l : Layer) : SameContents l l.clearBox :=
  ⟨rfl, rfl, rfl, rfl, rfl, rfl⟩

theorem sameContents_reset (l : Layer) : SameContents l l.reset := ⟨rfl, rfl, rfl, rfl, rfl, rfl⟩

theorem changeFilter_eq_ok {l l' : Layer} {text : Option String}
    (h : l.changeFilter text = .ok l') : SameContents l l' ∧ l'.spatial = l.spatial := by
  cases text with
  | none =>
    cases h
    exact ⟨⟨rfl, rfl, rfl, rfl, rfl, rfl⟩, rfl⟩
  | some text =>
    rw [changeFilter, setFilter] at h
    split at h
    · cases h
    · split at h
      · cases h
      · cases h
        exact ⟨⟨rfl, rfl, rfl, rfl, rfl, rfl⟩, rfl⟩

theorem sameContents_of_changeFilter {l l' : Layer} {text : Option String}
    (h : l.changeFilter text = .ok l') : SameContents l l' :=
  (changeFilter_eq_ok h).1

theorem setBox_eq_ok {l l' : Layer} {field : Nat} {box : Box} :
    l.setBox field box = .ok l' ↔ field < l.definition.geometryFields.length ∧
      l' = { l with spatial := some (field, box) } := by
  unfold setBox
  split
  · next hlt => exact ⟨fun h ↦ ⟨hlt, (Except.ok.inj h).symm⟩, fun h ↦ congrArg Except.ok h.2.symm⟩
  · next hnot => exact ⟨fun h ↦ (by cases h), fun h ↦ absurd h.1 hnot⟩

theorem sameContents_of_setBox {l l' : Layer} {field : Nat} {box : Box}
    (h : l.setBox field box = .ok l') : SameContents l l' := by
  obtain ⟨-, rfl⟩ := setBox_eq_ok.mp h
  exact ⟨rfl, rfl, rfl, rfl, rfl, rfl⟩

/-- Whether a layer takes an attribute filter, if there is one, and what it means. -/
inductive Takes (l : Layer) : Option String → Option Filter.Condition → Prop
  | none : Takes l none none
  | some {text : String} {condition : Filter.Condition} (hrejects : l.rejectsFilters = false)
      (hread : Filter.Condition.read l.definition text = .ok condition) :
      Takes l (some text) (some condition)

theorem Takes.unique {l : Layer} {text : Option String}
    {condition condition' : Option Filter.Condition} (h : Takes l text condition)
    (h' : Takes l text condition') : condition = condition' := by
  cases h with
  | none =>
    cases h'
    rfl
  | some hrejects hread =>
    cases h' with
    | some hrejects' hread' => rw [Except.ok.inj (hread.symm.trans hread')]

theorem takes_of_read {l : Layer} {text : Option String} {condition : Option Filter.Condition}
    (hread : text.map (Filter.Condition.read l.definition) = condition.map .ok)
    (haccepts : l.rejectsFilters = true → text = none) : Takes l text condition := by
  rcases text with _ | text <;> rcases condition with _ | condition
  · exact .none
  · cases hread
  · cases hread
  · refine .some ?_ (Option.some.inj hread)
    rw [← Bool.not_eq_true]
    exact fun hrejects ↦ Option.some_ne_none _ (haccepts hrejects)

theorem Takes.of_sameContents {l l' : Layer} {text : Option String}
    {condition : Option Filter.Condition} (h : Takes l text condition) (hsame : SameContents l l') :
    Takes l' text condition := by
  cases h with
  | none => exact .none
  | some hrejects hread =>
    exact .some (hsame.rejectsFilters.trans hrejects) (by rw [hsame.definition, hread])

theorem changeFilter_of_takes {l : Layer} {text : Option String}
    {condition : Option Filter.Condition} (h : Takes l text condition) :
    ∃ l', l.changeFilter text = .ok l' ∧ l'.filter.map Prod.snd = condition := by
  cases h with
  | none => exact ⟨l.clearFilter, rfl, rfl⟩
  | @some text condition hrejects hread =>
    refine ⟨{ l with filter := some (text, condition), filterChanges := l.filterChanges + 1 }, ?_,
      rfl⟩
    rw [changeFilter, setFilter, hread, hrejects]
    rfl

theorem takes_of_changeFilter {l l' : Layer} {text : Option String}
    (h : l.changeFilter text = .ok l') :
    ∃ condition, Takes l text condition ∧ l'.filter.map Prod.snd = condition := by
  cases text with
  | none =>
    cases h
    exact ⟨none, .none, rfl⟩
  | some text =>
    rw [changeFilter, setFilter] at h
    split at h
    · cases h
    · next hrejects =>
      split at h
      · cases h
      · next condition hread =>
        cases h
        exact ⟨some condition, .some (Bool.eq_false_of_not_eq_true hrejects) hread, rfl⟩

theorem changeFilter_of_rejects {l : Layer} (h : l.rejectsFilters = true) (text : String) :
    l.changeFilter (some text) = .error (.rejected text) := by
  rw [changeFilter, setFilter, if_pos h]

/-- Whether a feature matches an attribute filter and a box, as far as there are any. -/
def admits (condition : Option Filter.Condition) (spatial : Option SpatialFilter) (f : Feature) :
    Bool :=
  condition.all (·.holds f.fields) && spatial.all fun s ↦ f.overlaps s.box

/-- The box that is set on a layer. -/
def leftBox (l : Layer) : Option SpatialFilter := l.spatial.map fun s ↦ ⟨s.1, s.2⟩

theorem isMatch_eq_admits (l : Layer) : l.isMatch = admits (l.filter.map Prod.snd) l.leftBox := by
  funext f
  rw [isMatch, admits, leftBox]
  rcases l.filter with _ | ⟨text, condition⟩ <;> rcases l.spatial with _ | ⟨field, box⟩ <;> rfl

end Layer

namespace Operation

open Layer

/-! ## Reading rows -/

/-- The rows that were read, unless a fault ended the reading. -/
def outcome (r : List Row × Option Fault × Session) : Except Fault (List Row) :=
  match r with
  | (rows, none, _) => .ok rows
  | (_, some fault, _) => .error fault

/-- Reading often enough gives the rows of all features that are still to be read. -/
theorem outcome_readRows {count : Nat} {s : Session} {scan : Scan}
    (hphase : s.operation.phase = .scan scan)
    (hopen : s.operation.connection.checkLayer = .ok ())
    (hcount : s.layer.remaining.length < count) :
    outcome (readRows count s) = s.layer.remaining.mapM (rowOf s.operation.table) := by
  -- every row that is read leaves one feature less to be read
  induction count generalizing s scan with
  | zero => exact absurd hcount (Nat.not_lt_zero _)
  | succ count ih =>
    rw [readRows, run_nextRow hphase hopen]
    cases hremaining : s.layer.remaining with
    | nil =>
      have hnone := next_of_remaining_eq_nil hremaining
      rcases hnext : s.layer.next with ⟨found, l⟩
      rw [hnext] at hnone
      dsimp only at hnone
      subst hnone
      rfl
    | cons f rest =>
      obtain ⟨hfound, hrest⟩ := next_of_remaining_eq_cons hremaining
      rcases hnext : s.layer.next with ⟨found, l⟩
      rw [hnext] at hfound hrest
      dsimp only at hfound hrest
      subst hfound hrest
      rw [List.mapM_cons]
      dsimp only
      cases hrow : rowOf s.operation.table f with
      | error fault => rfl
      | ok row =>
        let s' : Session :=
          ⟨{ s.operation with phase := .scan { scan with rows := scan.rows + 1 } }, l⟩
        rw [hremaining, List.length_cons, Nat.succ_lt_succ_iff] at hcount
        have hothers : outcome (readRows count s') = l.remaining.mapM (rowOf s.operation.table) :=
          ih (s := s') rfl hopen hcount
        dsimp only
        rw [← hothers]
        rcases readRows count s' with ⟨rows, _ | fault, last⟩ <;> rfl

/-! ## Planning and starting -/

theorem setBox_ne_error {plan : Predicate.Plan} {l l₁ : Layer}
    (hspatial : ∀ f ∈ plan.spatial, f.field < l.definition.geometryFields.length)
    (hfilter : l.changeFilter plan.filter = .ok l₁) {f : SpatialFilter}
    (hsome : plan.spatial = some f) (reason : Layer.Fault) :
    l₁.setBox f.field f.box ≠ .error reason := by
  intro hbox
  have hlt := hspatial f hsome
  rw [← (sameContents_of_changeFilter hfilter).definition] at hlt
  cases hbox.symm.trans (setBox_eq_ok.mpr ⟨hlt, rfl⟩)

/-- What counting comes to, and what it leaves of the layer. -/
inductive Counted (plan : Predicate.Plan) (l : Layer) : Except Fault (Option Nat) × Layer → Prop
  | refused {reason : Layer.Fault} (hfilter : l.changeFilter plan.filter = .error reason) :
      Counted plan l (.ok none, l.clearFilter)
  | outside {l₁ : Layer} (hfilter : l.changeFilter plan.filter = .ok l₁) {f : SpatialFilter}
      (hspatial : plan.spatial = some f) {reason : Layer.Fault}
      (hbox : l₁.setBox f.field f.box = .error reason) : Counted plan l (.error (.layer reason), l₁)
  | unboxed {l₁ : Layer} (hfilter : l.changeFilter plan.filter = .ok l₁)
      (hspatial : plan.spatial = none) :
      Counted plan l (.ok (l₁.count? false), l₁.clearFilter.clearBox)
  | boxed {l₁ l₂ : Layer} (hfilter : l.changeFilter plan.filter = .ok l₁) {f : SpatialFilter}
      (hspatial : plan.spatial = some f) (hbox : l₁.setBox f.field f.box = .ok l₂) :
      Counted plan l (.ok (l₂.count? false), l₂.clearFilter.clearBox)

theorem counted_countRows (plan : Predicate.Plan) (l : Layer) :
    Counted plan l ((countRows plan).run l) := by
  cases hfilter : l.changeFilter plan.filter with
  | error reason =>
    simp only [countRows, run_bind, run_get, hfilter, run_modify, run_pure]
    exact .refused hfilter
  | ok l₁ =>
    cases hspatial : plan.spatial with
    | none =>
      simp only [countRows, run_bind, run_get, hfilter, run_set, hspatial, run_modify, run_pure]
      exact .unboxed hfilter hspatial
    | some f =>
      cases hbox : l₁.setBox f.field f.box with
      | error reason =>
        simp only [countRows, run_bind, run_get, hfilter, run_set, hspatial, run_change, hbox]
        exact .outside hfilter hspatial hbox
      | ok l₂ =>
        simp only [countRows, run_bind, run_get, hfilter, run_set, hspatial, run_change, hbox,
          run_modify, run_pure]
        exact .boxed hfilter hspatial hbox

/-- What setting the filters of a plan comes to, and what it leaves of the layer. -/
inductive Applied (plan : Predicate.Plan) (l : Layer) : Except Fault Unit × Layer → Prop
  | refused {reason : Layer.Fault} (hfilter : l.changeFilter plan.filter = .error reason) :
      Applied plan l (.error (.layer reason), l)
  | outside {l₁ : Layer} (hfilter : l.changeFilter plan.filter = .ok l₁) {f : SpatialFilter}
      (hspatial : plan.spatial = some f) {reason : Layer.Fault}
      (hbox : l₁.setBox f.field f.box = .error reason) : Applied plan l (.error (.layer reason), l₁)
  | unboxed {l₁ : Layer} (hfilter : l.changeFilter plan.filter = .ok l₁)
      (hspatial : plan.spatial = none) : Applied plan l (.ok (), l₁.clearBox.reset)
  | boxed {l₁ l₂ : Layer} (hfilter : l.changeFilter plan.filter = .ok l₁) {f : SpatialFilter}
      (hspatial : plan.spatial = some f) (hbox : l₁.setBox f.field f.box = .ok l₂) :
      Applied plan l (.ok (), l₂.reset)

theorem applied_applyFilters (plan : Predicate.Plan) (l : Layer) :
    Applied plan l ((applyFilters plan).run l) := by
  cases hfilter : l.changeFilter plan.filter with
  | error reason =>
    simp only [applyFilters, run_bind, run_change, hfilter]
    exact .refused hfilter
  | ok l₁ =>
    cases hspatial : plan.spatial with
    | none =>
      simp only [applyFilters, run_bind, run_change, hfilter, hspatial, run_modify]
      exact .unboxed hfilter hspatial
    | some f =>
      cases hbox : l₁.setBox f.field f.box with
      | error reason =>
        simp only [applyFilters, run_bind, run_change, hfilter, hspatial, hbox]
        exact .outside hfilter hspatial hbox
      | ok l₂ =>
        simp only [applyFilters, run_bind, run_change, hfilter, hspatial, hbox, run_modify]
        exact .boxed hfilter hspatial hbox

section Layers

variable {plan : Predicate.Plan} {l : Layer}

theorem Counted.sameContents {r : Except Fault (Option Nat) × Layer} (h : Counted plan l r) :
    SameContents l r.2 := by
  cases h with
  | refused hfilter => exact sameContents_clearFilter l
  | outside hfilter hspatial hbox => exact sameContents_of_changeFilter hfilter
  | unboxed hfilter hspatial =>
    exact (sameContents_of_changeFilter hfilter).trans
      ((sameContents_clearFilter _).trans (sameContents_clearBox _))
  | boxed hfilter hspatial hbox =>
    exact ((sameContents_of_changeFilter hfilter).trans (sameContents_of_setBox hbox)).trans
      ((sameContents_clearFilter _).trans (sameContents_clearBox _))

theorem Applied.sameContents {r : Except Fault Unit × Layer} (h : Applied plan l r) :
    SameContents l r.2 := by
  cases h with
  | refused hfilter => exact .refl l
  | outside hfilter hspatial hbox => exact sameContents_of_changeFilter hfilter
  | unboxed hfilter hspatial =>
    exact (sameContents_of_changeFilter hfilter).trans
      ((sameContents_clearBox _).trans (sameContents_reset _))
  | boxed hfilter hspatial hbox =>
    exact ((sameContents_of_changeFilter hfilter).trans (sameContents_of_setBox hbox)).trans
      (sameContents_reset _)

section Applied

variable {l' : Layer} (h : Applied plan l (.ok (), l'))

include h

/-- Filters are set only if the layer takes the attribute filter and has a geometry for the box. -/
theorem Applied.takes : (∃ condition, Takes l plan.filter condition) ∧
    ∀ f ∈ plan.spatial, f.field < l.definition.geometryFields.length := by
  cases h with
  | unboxed hfilter hnone =>
    obtain ⟨condition, htakes, -⟩ := takes_of_changeFilter hfilter
    refine ⟨⟨condition, htakes⟩, fun f hf ↦ ?_⟩
    cases hnone.symm.trans hf
  | boxed hfilter hsome hbox =>
    obtain ⟨condition, htakes, -⟩ := takes_of_changeFilter hfilter
    refine ⟨⟨condition, htakes⟩, fun f hf ↦ ?_⟩
    cases hsome.symm.trans hf
    rw [← (sameContents_of_changeFilter hfilter).definition]
    exact (setBox_eq_ok.mp hbox).1

/-- Once the filters are set, all features that they admit are still to be read. -/
theorem Applied.remaining {condition : Option Filter.Condition}
    (htakes : Takes l plan.filter condition) :
    l'.remaining = l.features.filter (admits condition plan.spatial) := by
  cases h with
  | @unboxed l₁ hfilter hnone =>
    obtain ⟨condition', htakes', hcondition⟩ := takes_of_changeFilter hfilter
    cases htakes.unique htakes'
    have hbox : l₁.clearBox.reset.leftBox = plan.spatial := by rw [hnone]; rfl
    rw [Layer.remaining, isMatch_eq_admits, hbox, ← hcondition]
    exact congrArg (List.filter _) (sameContents_of_changeFilter hfilter).features
  | @boxed l₁ _ hfilter f hsome hset =>
    obtain ⟨condition', htakes', hcondition⟩ := takes_of_changeFilter hfilter
    cases htakes.unique htakes'
    obtain ⟨-, rfl⟩ := setBox_eq_ok.mp hset
    have hbox : (Layer.reset { l₁ with spatial := some (f.field, f.box) }).leftBox =
        plan.spatial := by
      rw [hsome]
      rfl
    rw [Layer.remaining, isMatch_eq_admits, hbox, ← hcondition]
    exact congrArg (List.filter _) (sameContents_of_changeFilter hfilter).features

end Applied

theorem run_applyFilters (hspatial : ∀ f ∈ plan.spatial,
      f.field < l.definition.geometryFields.length) {condition : Option Filter.Condition}
    (htakes : Takes l plan.filter condition) :
    ∃ l', (applyFilters plan).run l = (.ok (), l') := by
  obtain ⟨l₁, hset, -⟩ := changeFilter_of_takes htakes
  have happlied := applied_applyFilters plan l
  generalize (applyFilters plan).run l = r at happlied
  cases happlied with
  | refused hfilter => cases hfilter.symm.trans hset
  | unboxed hfilter hnone => exact ⟨_, rfl⟩
  | boxed hfilter hsome hbox => exact ⟨_, rfl⟩
  | outside hfilter hsome hbox => exact absurd hbox (setBox_ne_error hspatial hfilter hsome _)

theorem run_estimateRows {c : Connection} (hopen : c.checkLayer = .ok ()) (plan : Predicate.Plan)
    (settings : Settings.Planner) (l : Layer) :
    (estimateRows c plan settings).run l =
      if (settings.useFastFeatureCount && l.hasCapability fastFeatureCount) = true then
        match (countRows plan).run l with
        | (.ok count, l') => (.ok (count.getD settings.defaultRowEstimate), l')
        | (.error fault, l') => (.error fault, l')
      else (.ok settings.defaultRowEstimate, l) := by
  simp only [estimateRows, run_bind, run_ofConnection, hopen, Except.mapError, run_get]
  split
  · rw [run_bind]
    rcases (countRows plan).run l with ⟨_ | count, l'⟩ <;> rfl
  · rfl

/-- What estimating rows comes to, and what it leaves of the layer. -/
inductive Estimated (c : Connection) (plan : Predicate.Plan) (settings : Settings.Planner)
    (l : Layer) : Except Fault Nat × Layer → Prop
  | closed {reason : Connection.Fault} (hclosed : c.checkLayer = .error reason) :
      Estimated c plan settings l (.error (.connection reason), l)
  | assumed (hopen : c.checkLayer = .ok ())
      (hnot : ¬ (settings.useFastFeatureCount && l.hasCapability fastFeatureCount) = true) :
      Estimated c plan settings l (.ok settings.defaultRowEstimate, l)
  | counted (hopen : c.checkLayer = .ok ())
      (hcounts : (settings.useFastFeatureCount && l.hasCapability fastFeatureCount) = true)
      {r : Except Fault (Option Nat)} {l' : Layer} (hcounted : Counted plan l (r, l')) :
      Estimated c plan settings l (r.map fun count ↦ count.getD settings.defaultRowEstimate, l')

theorem estimated_estimateRows (c : Connection) (plan : Predicate.Plan)
    (settings : Settings.Planner) (l : Layer) :
    Estimated c plan settings l ((estimateRows c plan settings).run l) := by
  cases hopen : c.checkLayer with
  | error reason =>
    simp only [estimateRows, run_bind, run_ofConnection, hopen, Except.mapError]
    exact .closed hopen
  | ok _ =>
    rw [run_estimateRows hopen]
    split
    · next hcounts =>
      have hcounted := counted_countRows plan l
      rcases hrun : (countRows plan).run l with ⟨fault | count, l'⟩ <;> rw [hrun] at hcounted <;>
        exact .counted hopen hcounts hcounted
    · next hnot => exact .assumed hopen hnot

theorem sameContents_estimateRows (c : Connection) (plan : Predicate.Plan)
    (settings : Settings.Planner) (l : Layer) :
    SameContents l ((estimateRows c plan settings).run l).2 := by
  have hestimated := estimated_estimateRows c plan settings l
  generalize (estimateRows c plan settings).run l = r at hestimated ⊢
  cases hestimated with
  | closed | assumed => exact .refl l
  | counted _ _ hcounted => exact hcounted.sameContents

/-- What starting a scan comes to, and what it leaves of the layer. -/
inductive Started (op : Operation) (predicates : List Expr) (bindings : Bindings) (l : Layer) :
    Except Fault Operation × Layer → Prop
  | unplanned {fault : Fault} (hplanned : op.checkPlanned = .error fault) :
      Started op predicates bindings l (.error fault, l)
  | closed (hplanned : op.checkPlanned = .ok ()) {reason : Connection.Fault}
      (hclosed : op.connection.checkLayer = .error reason) :
      Started op predicates bindings l (.error (.connection reason), l)
  | refused (hplanned : op.checkPlanned = .ok ()) (hopen : op.connection.checkLayer = .ok ())
      {fault : Fault} {l' : Layer}
      (happlied : Applied (planOf op.table op.connection predicates bindings) l
        (.error fault, l')) : Started op predicates bindings l (.error fault, l')
  | started (hplanned : op.checkPlanned = .ok ()) (hopen : op.connection.checkLayer = .ok ())
      {plan : Predicate.Plan} (hplan : planOf op.table op.connection predicates bindings = plan)
      {l' : Layer} (happlied : Applied plan l (.ok (), l')) :
      Started op predicates bindings l
        (.ok { op with phase := .scan ⟨plan.filter, plan.spatial, plan.params, 0⟩ }, l')

theorem started_startScan (op : Operation) (predicates : List Expr) (bindings : Bindings)
    (l : Layer) : Started op predicates bindings l ((startScan op predicates bindings).run l) := by
  cases hplanned : op.checkPlanned with
  | error fault =>
    simp only [startScan, run_bind, run_liftM, hplanned]
    exact .unplanned hplanned
  | ok _ =>
    cases hopen : op.connection.checkLayer with
    | error reason =>
      simp only [startScan, run_bind, run_liftM, hplanned, run_ofConnection, hopen,
        Except.mapError]
      exact .closed hplanned hopen
    | ok _ =>
      have happlied := applied_applyFilters (planOf op.table op.connection predicates bindings) l
      rcases hrun : (applyFilters (planOf op.table op.connection predicates bindings)).run l with
        ⟨fault | _, l'⟩ <;> rw [hrun] at happlied <;>
          simp only [startScan, run_bind, run_liftM, hplanned, run_ofConnection, hopen,
            Except.mapError, hrun]
      · exact .refused hplanned hopen happlied
      · exact .started hplanned hopen rfl happlied

end Layers

section Run

variable {c : Connection} {l : Layer}

/-- Counting does not fail if there is a geometry field for the box. -/
theorem run_countRows {plan : Predicate.Plan}
    (hspatial : ∀ f ∈ plan.spatial, f.field < l.definition.geometryFields.length) :
    ∃ count l', (countRows plan).run l = (.ok count, l') := by
  have hcounted := counted_countRows plan l
  generalize (countRows plan).run l = r at hcounted
  cases hcounted with
  | refused hfilter => exact ⟨_, _, rfl⟩
  | unboxed hfilter hnone => exact ⟨_, _, rfl⟩
  | boxed hfilter hsome hbox => exact ⟨_, _, rfl⟩
  | outside hfilter hsome hbox => exact absurd hbox (setBox_ne_error hspatial hfilter hsome _)

theorem run_plan (tableId : Nat) (hopen : c.checkLayer = .ok ()) (table : Catalog.Table)
    (predicates : List Expr) (bindings : Bindings) (settings : Settings.Planner)
    (hspatial : ∀ f ∈ (planOf table c predicates bindings).spatial,
      f.field < l.definition.geometryFields.length) :
    ∃ estimate l', (plan tableId c table predicates bindings settings).run l =
        (.ok ⟨tableId, c, table, .plan estimate⟩, l') ∧
      estimate.pushdown = (planOf table c predicates bindings).consumed ∧ SameContents l l' := by
  have hestimate : ∃ rows l', (estimateRows c (planOf table c predicates bindings) settings).run l =
      (.ok rows, l') := by
    rw [run_estimateRows hopen]
    split
    · obtain ⟨count, l', hcount⟩ := run_countRows hspatial
      exact ⟨count.getD settings.defaultRowEstimate, l', by rw [hcount]⟩
    · exact ⟨settings.defaultRowEstimate, l, rfl⟩
  obtain ⟨rows, l', hrows⟩ := hestimate
  have hsame := sameContents_estimateRows c (planOf table c predicates bindings) settings l
  rw [hrows] at hsame
  refine ⟨⟨rows, settings.startupCost, settings.startupCost.add (.ofInt rows),
    (planOf table c predicates bindings).consumed⟩, l', ?_, rfl, hsame⟩
  simp only [plan, run_bind, hrows, run_pure]

/-- Starting a scan sets the filters of its plan, and all features that they admit are still to be
read. -/
theorem run_startScan {op : Operation} {estimate : Estimate} (hphase : op.phase = .plan estimate)
    (hopen : op.connection.checkLayer = .ok ()) {predicates : List Expr} {bindings : Bindings}
    {plan : Predicate.Plan} (hplan : planOf op.table op.connection predicates bindings = plan)
    (hspatial : ∀ f ∈ plan.spatial, f.field < l.definition.geometryFields.length)
    {condition : Option Filter.Condition} (htakes : Takes l plan.filter condition) :
    ∃ scan l',
      (startScan op predicates bindings).run l = (.ok { op with phase := .scan scan }, l') ∧
        l'.remaining = l.features.filter (admits condition plan.spatial) ∧
        l'.features = l.features := by
  obtain ⟨l', hrun⟩ := run_applyFilters hspatial htakes
  have happlied := applied_applyFilters plan l
  rw [hrun] at happlied
  refine ⟨⟨plan.filter, plan.spatial, plan.params, 0⟩, l', ?_, happlied.remaining htakes,
    happlied.sameContents.features⟩
  simp only [startScan, run_bind, run_liftM, checkPlanned, hphase, run_ofConnection, hopen,
    Except.mapError, hplan, hrun, run_pure]

theorem run_startScan_of_rejects {op : Operation} {estimate : Estimate}
    (hphase : op.phase = .plan estimate) (hopen : op.connection.checkLayer = .ok ())
    {predicates : List Expr} {bindings : Bindings} {text : String}
    (hplan : (planOf op.table op.connection predicates bindings).filter = some text)
    (hrejects : l.rejectsFilters = true) :
    (startScan op predicates bindings).run l = (.error (.layer (.rejected text)), l) := by
  simp only [startScan, run_bind, run_liftM, checkPlanned, hphase, run_ofConnection, hopen,
    Except.mapError, applyFilters, run_change, hplan, changeFilter_of_rejects hrejects]

end Run

section Success

variable {c : Connection} {l l' : Layer} {table : Catalog.Table} {predicates : List Expr}
  {bindings : Bindings}

theorem plan_eq_ok {tableId : Nat} {settings : Settings.Planner} {planned : Operation}
    (h : (plan tableId c table predicates bindings settings).run l = (.ok planned, l')) :
    c.checkLayer = .ok () ∧ ∃ estimate, planned = ⟨tableId, c, table, .plan estimate⟩ ∧
      (estimateRows c (planOf table c predicates bindings) settings).run l =
        (.ok estimate.rows, l') := by
  obtain ⟨rows, l₁, hrows, ⟨⟩⟩ := run_bind_eq_ok.mp h
  obtain ⟨_, _, hopen, -⟩ := run_bind_eq_ok.mp hrows
  rw [run_ofConnection, Prod.mk.injEq, mapError_eq_ok] at hopen
  exact ⟨hopen.1, _, rfl, hrows⟩

theorem startScan_eq_ok {op op' : Operation}
    (h : ((startScan op predicates bindings).run l).1 = .ok op') :
    (∃ estimate, op.phase = .plan estimate) ∧ op.connection.checkLayer = .ok () ∧
      ∃ l', Applied (planOf op.table op.connection predicates bindings) l (.ok (), l') := by
  have hstarted := started_startScan op predicates bindings l
  generalize (startScan op predicates bindings).run l = r at hstarted h
  cases hstarted with
  | unplanned | closed | refused => cases h
  | started hplanned hopen hplan happlied =>
    subst hplan
    refine ⟨?_, hopen, _, happlied⟩
    unfold checkPlanned at hplanned
    split at hplanned
    · next estimate hphase => exact ⟨estimate, hphase⟩
    · cases hplanned

end Success

/-! ## Whole scans -/

/-- Starts the scan of a planned operation and reads all of its rows, up to the first fault. -/
def scanPlanned (op : Operation) (predicates : List Expr) (bindings : Bindings) :
    LayerAction (List Row) := do
  let started ← startScan op predicates bindings
  let read := readAll ⟨started, ← get⟩
  set read.2.2.layer
  liftM (outcome read)

/-- Plans a scan, starts it and reads all of its rows, up to the first fault. Gives the plan with
the rows. -/
def scanAll (tableId : Nat) (c : Connection) (table : Catalog.Table) (predicates : List Expr)
    (bindings : Bindings) (settings : Settings.Planner) : LayerAction (Operation × List Row) := do
  let planned ← plan tableId c table predicates bindings settings
  let started ← startScan planned predicates bindings
  let read := readAll ⟨started, ← get⟩
  set read.2.2.layer
  return (planned, ← liftM (outcome read))

variable {c : Connection} {l : Layer} {table : Catalog.Table} {predicates : List Expr}
  {bindings : Bindings}

theorem scanAll_eq (tableId : Nat) (settings : Settings.Planner) :
    scanAll tableId c table predicates bindings settings = do
      let planned ← plan tableId c table predicates bindings settings
      return (planned, ← scanPlanned planned predicates bindings) := by
  simp only [scanAll, scanPlanned, bind_assoc]

/-- **A scan gives the rows of the features that its filters admit**, as long as the layer takes the
attribute filter. -/
theorem run_scanPlanned {op : Operation} {estimate : Estimate} (hphase : op.phase = .plan estimate)
    (hopen : op.connection.checkLayer = .ok ()) {plan : Predicate.Plan}
    (hplan : planOf op.table op.connection predicates bindings = plan)
    (hspatial : ∀ f ∈ plan.spatial, f.field < l.definition.geometryFields.length)
    {condition : Option Filter.Condition} (htakes : Takes l plan.filter condition) :
    ((scanPlanned op predicates bindings).run l).1 =
      (l.features.filter (admits condition plan.spatial)).mapM (rowOf op.table) := by
  obtain ⟨scan, l', hstarted, hremaining, hfeatures⟩ :=
    run_startScan hphase hopen hplan hspatial htakes
  -- there are as many rounds as features, and no more features are admitted
  have hread : outcome (readAll ⟨{ op with phase := .scan scan }, l'⟩) =
      l'.remaining.mapM (rowOf op.table) := by
    refine outcome_readRows rfl hopen ?_
    rw [Nat.lt_succ_iff]
    show l'.remaining.length ≤ l'.features.length
    rw [hremaining, hfeatures]
    exact List.length_filter_le _ _
  simp only [scanPlanned, run_bind, hstarted, run_get, run_set, run_liftM, hread, hremaining]

theorem run_scanAll (tableId : Nat) (hopen : c.checkLayer = .ok ()) (settings : Settings.Planner)
    {plan : Predicate.Plan} (hplan : planOf table c predicates bindings = plan)
    (hspatial : ∀ f ∈ plan.spatial, f.field < l.definition.geometryFields.length)
    {condition : Option Filter.Condition} (htakes : Takes l plan.filter condition) :
    ∃ estimate, estimate.pushdown = plan.consumed ∧
      ((scanAll tableId c table predicates bindings settings).run l).1 =
        ((l.features.filter (admits condition plan.spatial)).mapM (rowOf table)).map
          ((⟨tableId, c, table, .plan estimate⟩, ·)) := by
  subst hplan
  obtain ⟨estimate, l₁, hplanned, hpushdown, hsame⟩ :=
    run_plan tableId hopen table predicates bindings settings hspatial
  rw [← hsame.definition] at hspatial
  have hphase : (⟨tableId, c, table, .plan estimate⟩ : Operation).phase = .plan estimate := rfl
  have hscanned := run_scanPlanned hphase hopen rfl hspatial (htakes.of_sameContents hsame)
  rw [hsame.features] at hscanned
  refine ⟨estimate, hpushdown, ?_⟩
  rw [scanAll_eq]
  simp only [run_bind, hplanned]
  rcases hrun : (scanPlanned ⟨tableId, c, table, .plan estimate⟩ predicates bindings).run l₁ with
    ⟨fault | rows, l₂⟩ <;> rw [hrun] at hscanned <;> rw [← hscanned] <;> rfl

/-- A layer that takes no attribute filters gives no rows to a scan that has one. -/
theorem run_scanAll_of_rejects (tableId : Nat) (hopen : c.checkLayer = .ok ())
    (settings : Settings.Planner) {plan : Predicate.Plan}
    (hplan : planOf table c predicates bindings = plan)
    (hspatial : ∀ f ∈ plan.spatial, f.field < l.definition.geometryFields.length) {text : String}
    (hfilter : plan.filter = some text) (hrejects : l.rejectsFilters = true) :
    ((scanAll tableId c table predicates bindings settings).run l).1 =
      .error (.layer (.rejected text)) := by
  subst hplan
  obtain ⟨estimate, l₁, hplanned, -, hsame⟩ :=
    run_plan tableId hopen table predicates bindings settings hspatial
  have hphase : (⟨tableId, c, table, .plan estimate⟩ : Operation).phase = .plan estimate := rfl
  have hstarted := run_startScan_of_rejects hphase hopen hfilter
    (hsame.rejectsFilters.trans hrejects)
  simp only [scanAll, run_bind, hplanned, hstarted]

end Operation

end ForeignLayer
