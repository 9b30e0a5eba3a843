import ForeignLayer.Proofs.PlannedFeatures

/-!
# Scans are right about predicates

A scan that leaves part of its predicates to the layer comes to the same rows as one that leaves
nothing to it and is sifted by all predicates afterwards, in the same order.

What the layer tests is read from a text, and it tests the values of fields, where a predicate tests
what the columns show of them. Both come to the same for every feature that has a row, and a scan
keeps the order of the features.
-/

namespace ForeignLayer.Operation

open Catalog Predicate Layer ForeignLayer.Filter

/-- Whether a scan with predicates comes to what they keep of some rows: the rows that it gives are,
after the predicates that its plan leaves, the ones that all predicates keep. A layer that takes no
attribute filters may refuse the one of the plan instead. -/
def Agrees (l : Layer) (rows : List Row) (tableId : Nat) (c : Connection) (ev : Evaluation)
    (predicates : List Expr) (settings : Settings.Planner) : Prop :=
  let plan := planOf ev.table c predicates ev.bindings
  let scanned := ((scanAll tableId c ev.table predicates ev.bindings settings).run l).1
  (l.rejectsFilters = true ∧
      ∃ text, plan.filter = some text ∧ scanned = .error (.layer (.rejected text))) ∨
    ∃ estimate kept, estimate.pushdown = plan.consumed ∧
      scanned = .ok (⟨tableId, c, ev.table, .plan estimate⟩, kept) ∧
      kept.filter (ev.keeps · (plan.unconsumed predicates)) = rows.filter (ev.keeps · predicates)

variable {c : Connection} {l : Layer} {ev : Evaluation} {predicates : List Expr}

/-- A scan agrees with the rows of all features if every feature passes where its row is kept. -/
theorem agrees_iff (tableId : Nat) (hopen : c.checkLayer = .ok ()) (settings : Settings.Planner)
    {plan : Predicate.Plan} (hplan : planOf ev.table c predicates ev.bindings = plan)
    (hspatial : ∀ f ∈ plan.spatial, f.field < l.definition.geometryFields.length)
    {condition : Option Condition} (htakes : Takes l plan.filter condition) {r : Feature → Row}
    (hr : ∀ f ∈ l.features, rowOf ev.table f = .ok (r f)) :
    Agrees l (l.features.map r) tableId c ev predicates settings ↔
      ∀ f ∈ l.features, (admits condition plan.spatial f &&
        ev.keeps (r f) (plan.unconsumed predicates)) = ev.keeps (r f) predicates := by
  obtain ⟨estimate, hpushdown, hscan⟩ := run_scanAll tableId hopen settings hplan hspatial htakes
  have hrows : (l.features.filter (admits condition plan.spatial)).mapM (rowOf ev.table) =
      .ok ((l.features.filter (admits condition plan.spatial)).map r) :=
    mapM_eq_ok_of_forall fun f hf ↦ hr f (List.mem_of_mem_filter hf)
  rw [hrows] at hscan
  rw [← filter_map_filter_eq_iff (r := r) (q := (ev.keeps · (plan.unconsumed predicates)))
    (t := (ev.keeps · predicates))]
  subst hplan
  constructor
  · rintro (⟨hrejects, text, hfilter, -⟩ | ⟨estimate', kept, -, hkept, hsame⟩)
    · rw [hfilter] at htakes
      cases htakes with
      | some htakes' => rw [htakes'] at hrejects; cases hrejects
    · cases hkept.symm.trans hscan
      exact hsame
  · intro hsame
    exact Or.inr ⟨estimate, _, hpushdown, hscan, hsame⟩

/-- Scans agree with the rows of all features, if every feature has a row. -/
theorem agrees_of_rowOf {name : String} {schema : Schema} {options : ColumnOptions}
    {settings : Settings.Table}
    (htable : Table.bind name schema options l.definition settings = .ok ev.table)
    (hnames : ((ev.table.columns.filter fun c ↦ !c.dropped).map Catalog.Column.name).Nodup)
    (hfits : ∀ f ∈ l.features, f.Fits l.definition) {r : Feature → Row}
    (hr : ∀ f ∈ l.features, rowOf ev.table f = .ok (r f)) (tableId : Nat)
    (hopen : c.checkLayer = .ok ()) (planner : Settings.Planner) :
    Agrees l (l.features.map r) tableId c ev predicates planner := by
  have hfields := fun c hc index field ↦ @boundTo_of_bind _ _ _ _ _ _ htable c hc index field
  have hgeometry := fun c hc index kind ↦
    @boundToGeometry_of_bind _ _ _ _ _ _ htable c hc index kind
  have hspatial := field_lt_of_planOf htable c predicates ev.bindings
  by_cases hrefused : l.rejectsFilters = true ∧
      ∃ text, (planOf ev.table c predicates ev.bindings).filter = some text
  · obtain ⟨hrejects, text, hfilter⟩ := hrefused
    exact Or.inl ⟨hrejects, text, hfilter,
      run_scanAll_of_rejects tableId hopen planner rfl hspatial hfilter hrejects⟩
  · obtain ⟨condition, hread, -, hholds⟩ :=
      @exists_condition ⟨ev.table, c.encoding, ev.bindings⟩ l.definition hfields
        (Plan.others ⟨ev.table, c.encoding, ev.bindings⟩ predicates)
    have haccepts : l.rejectsFilters = true →
        (planOf ev.table c predicates ev.bindings).filter = none := by
      intro hrejects
      rw [Option.eq_none_iff_forall_ne_some]
      exact fun text hfilter ↦ hrefused ⟨hrejects, text, hfilter⟩
    rw [agrees_iff tableId hopen planner rfl hspatial (takes_of_read hread haccepts) hr]
    intro f hf
    -- what is left is that the layer and the row come to the same for every predicate with a clause
    refine admits_and_keeps hgeometry hnames (hr f hf) rfl ?_
    rw [hholds]
    exact forall₂_congr fun e _ ↦ imp_congr_right fun hclause ↦
      exists_image_iff hfields (rowShows_of_rowOf hfields (hfits f hf) (hr f hf)) hclause

/-! ## All scans -/

theorem checkLayer_of_scanAll {tableId : Nat} {table : Table} {bindings : Bindings}
    {settings : Settings.Planner} {scanned : Operation × List Row}
    (h : ((scanAll tableId c table predicates bindings settings).run l).1 = .ok scanned) :
    c.checkLayer = .ok () := by
  obtain ⟨planned, l', hplanned, -⟩ := run_bind_eq_ok.mp (eq_ok_of_fst h)
  exact (plan_eq_ok hplanned).1

theorem exists_of_scanAll_nil {tableId : Nat} {table : Table} {bindings : Bindings}
    {settings : Settings.Planner} {planned : Operation} {rows : List Row}
    (h : ((scanAll tableId c table [] bindings settings).run l).1 = .ok (planned, rows)) :
    ∃ r : Feature → Row, (∀ f ∈ l.features, rowOf table f = .ok (r f)) ∧
      rows = l.features.map r := by
  have hrows := scanAll_nil (checkLayer_of_scanAll h) tableId table bindings settings l
  rw [h] at hrows
  exact exists_of_mapM_eq_ok hrows.symm

theorem exists_of_toOption {ε α β : Type} {e : Except ε (α × β)} {b : β}
    (h : e.toOption.map Prod.snd = some b) : ∃ a, e = .ok (a, b) := by
  cases e with
  | error fault => cases h
  | ok p =>
    cases h
    exact ⟨p.1, rfl⟩

/-- **Scans are right about predicates.** Whatever predicates a scan of a bound table is started
with, over whatever connection, it comes to the rows of a scan without predicates that all of them
keep. -/
theorem agrees_of_scanAll {name : String} {schema : Schema} {options : ColumnOptions}
    {settings : Settings.Table} {table : Table}
    (htable : Table.bind name schema options l.definition settings = .ok table)
    (hnames : ((table.columns.filter fun c ↦ !c.dropped).map Catalog.Column.name).Nodup)
    (hfits : ∀ f ∈ l.features, f.Fits l.definition) {tableId : Nat} {bindings : Bindings}
    {planner : Settings.Planner} {planned : Operation} {rows : List Row}
    (hscan : ((scanAll tableId c table [] bindings planner).run l).1 = .ok (planned, rows)) :
    ∀ tableId c bindings other predicates planner, c.checkLayer = .ok () →
      Agrees l rows tableId c ⟨table, bindings, other⟩ predicates planner := by
  obtain ⟨r, hr, rfl⟩ := exists_of_scanAll_nil hscan
  intro tableId c bindings other predicates planner hopen
  exact @agrees_of_rowOf c l ⟨table, bindings, other⟩ predicates _ _ _ _ htable hnames hfits _ hr
    tableId hopen planner

/-! ## A layer of clocks -/

/-- A layer with times of day: midnight, noon and no time. -/
def clockLayer : Layer where
  definition := ⟨"clocks", [⟨"at", .time⟩], [], none⟩
  features :=
    [⟨none, [.of (.time64 .microsecond) 0], none⟩,
      ⟨none, [.of (.time64 .microsecond) 43200000000], none⟩,
      ⟨none, [.nullOf (.time64 .microsecond)], none⟩]

/-- The columns that show the time of day in nanoseconds. -/
def clockSchema : Schema := [⟨"at", .time64 .nanosecond, []⟩]

/-- The table of the layer. -/
def clockTable : Table :=
  ⟨"clocks", "clocks", [⟨0, "at", false, .plain (.time64 .nanosecond), -1, .field 0 ⟨"at", .time⟩,
    some ⟨.plain (.time64 .nanosecond), rfl⟩⟩]⟩

def clockConnection : Connection := ⟨{}, "clocks", .unset, .unset, .utf8, some {}⟩

/-- The rows of the layer. -/
def clockRows : List Row :=
  [[.of (.time64 .nanosecond) 0], [.of (.time64 .nanosecond) 43200000000000],
    [.nullOf (.time64 .nanosecond)]]

theorem fits_clockLayer : ∀ f ∈ clockLayer.features, f.Fits clockLayer.definition := by
  intro f hf i x field hx hfield
  cases List.mem_singleton.mp (List.mem_of_getElem? hfield)
  simp only [clockLayer, List.mem_cons, List.not_mem_nil, or_false] at hf
  rcases hf with rfl | rfl | rfl <;> cases List.mem_singleton.mp (List.mem_of_getElem? hx) <;> rfl

/-- All scans of the clocks are right. -/
theorem agrees_of_scanAll_clocks :
    Table.bind "clocks" clockSchema [] clockLayer.definition {} = .ok clockTable ∧
      ∀ tableId c bindings other predicates planner, c.checkLayer = .ok () →
        Agrees clockLayer clockRows tableId c ⟨clockTable, bindings, other⟩ predicates planner := by
  have hread : ((scanAll 0 clockConnection clockTable [] [] {}).run clockLayer).1.toOption.map
      Prod.snd = some clockRows := by
    decide +kernel
  obtain ⟨planned, hscan⟩ := exists_of_toOption hread
  have hbind : Table.bind "clocks" clockSchema [] clockLayer.definition {} = .ok clockTable := rfl
  exact ⟨hbind, agrees_of_scanAll hbind (by decide +kernel) fits_clockLayer hscan⟩

/-- The comparison with midnight is left to the layer, and one clock is at midnight. -/
example : let midnight : Expr :=
      .binary (.compare .eq) (.column "at" none) (.literal (.of (.time64 .nanosecond) 0))
    (planOf clockTable clockConnection [midnight] []).consumed = [true] ∧
      ((scanAll 0 clockConnection clockTable [midnight] [] {}).run clockLayer).1.toOption.map
        Prod.snd = some [[.of (.time64 .nanosecond) 0]] := by
  decide +kernel

end ForeignLayer.Operation
