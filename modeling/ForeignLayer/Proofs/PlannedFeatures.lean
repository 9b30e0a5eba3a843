import ForeignLayer.Proofs.Overlaps
import ForeignLayer.Proofs.ScannedRows

/-!
# The features of a plan

A feature passes the filters of a plan exactly if the predicates that the plan takes care of are
true of its row: at most one overlap, through the box of the layer, and the predicates with a
clause, through the attribute filter. What the attribute filter says of a feature is a matter of the
images of the predicates, which say the same of the row.
-/

namespace ForeignLayer

open Catalog Predicate Operation Layer ForeignLayer.Filter

/-! ## Lists of rows -/

section Lists

variable {α β : Type} {xs : List α} {r : α → β}

/-- Sifting before a map and after it comes to the same as sifting after it in one go exactly if it
does for every element. -/
theorem filter_map_filter_eq_iff {p : α → Bool} {q t : β → Bool} :
    ((xs.filter p).map r).filter q = (xs.map r).filter t ↔
      ∀ x ∈ xs, (p x && q (r x)) = t (r x) := by
  have hleft : ((xs.filter p).map r).filter q = (xs.filter fun x ↦ p x && q (r x)).map r := by
    rw [List.filter_map, List.filter_filter]
    exact congrArg (List.map r) (List.filter_congr fun x _ ↦ Bool.and_comm _ _)
  have hright : (xs.map r).filter t = (xs.filter fun x ↦ t (r x)).map r := List.filter_map ..
  rw [hleft, hright]
  constructor
  · intro h x hx
    -- what passes on the left passes on the right, and there are as many of either
    have himp : ∀ x ∈ xs, (p x && q (r x)) = true → t (r x) = true := by
      intro x hx hpass
      have hmem : r x ∈ (xs.filter fun x ↦ p x && q (r x)).map r :=
        List.mem_map.mpr ⟨x, List.mem_filter.mpr ⟨hx, hpass⟩, rfl⟩
      rw [h] at hmem
      obtain ⟨x', hx', hsame⟩ := List.mem_map.mp hmem
      rw [← hsame]
      exact (List.mem_filter.mp hx').2
    have hnested : (xs.filter fun x ↦ p x && q (r x)) =
        (xs.filter fun x ↦ t (r x)).filter fun x ↦ p x && q (r x) := by
      rw [List.filter_filter]
      refine List.filter_congr fun x hx ↦ ?_
      by_cases hpass : (p x && q (r x)) = true
      · rw [hpass, himp x hx hpass]
        rfl
      · rw [Bool.not_eq_true] at hpass
        rw [hpass, Bool.false_and]
    have hlength := congrArg List.length h
    rw [List.length_map, List.length_map, hnested] at hlength
    have hself := List.filter_sublist.eq_of_length hlength
    rw [List.filter_eq_self] at hself
    by_cases hpass : t (r x) = true
    · rw [hpass]
      exact hself x (List.mem_filter.mpr ⟨hx, hpass⟩)
    · rw [Bool.not_eq_true] at hpass
      rw [hpass, ← Bool.not_eq_true]
      intro hpass'
      exact Bool.false_ne_true (hpass.symm.trans (himp x hx hpass'))
  · intro h
    exact congrArg (List.map r) (List.filter_congr h)

end Lists

/-! ## Attribute filters -/

namespace Predicate

theorem kleeneAnd_eq_true {a b : Option Bool} :
    kleeneAnd a b = some true ↔ a = some true ∧ b = some true := by
  revert a b
  decide

theorem holds_foldl {fields : List Scalar} {first : Condition} {others : List Condition} :
    (others.foldl .and first).holds fields = true ↔
      ∀ c ∈ first :: others, c.holds fields = true := by
  induction others generalizing first with
  | nil => rw [List.foldl_nil, List.forall_mem_singleton]
  | cons c others ih =>
    rw [List.foldl_cons, ih, List.forall_mem_cons, List.forall_mem_cons, List.forall_mem_cons,
      ← and_assoc]
    refine and_congr_left fun _ ↦ ?_
    simp only [Condition.holds, beq_iff_eq, Condition.evaluate, kleeneAnd_eq_true]

/-- The condition of an attribute filter: it holds for a feature where the images of all predicates
with a clause do. -/
theorem exists_condition {ctx : Predicate.Context} {layer : Layer.Definition}
    (hbound : ∀ c ∈ ctx.table.columns, ∀ index field, c.binding = .field index field →
      BoundTo layer c index field) (predicates : List Expr) :
    ∃ condition : Option Condition,
      (render ctx predicates).filter.map (Condition.read layer) = condition.map .ok ∧
      (condition = none → ∀ e ∈ predicates, (ctx.clause? e).isSome = false) ∧
      ∀ fields, condition.all (·.holds fields) = true ↔
        ∀ e ∈ predicates, (ctx.clause? e).isSome = true →
          ∃ c, Image ctx.table ctx.bindings e c ∧ c.holds fields = true := by
  obtain ⟨image, himage, hsome, hread⟩ := exists_image hbound
  obtain ⟨hnone, htext⟩ := hread predicates
  -- a predicate has one image, so the chosen one holds if any does
  have hall (fields : List Scalar) :
      (∀ c ∈ predicates.filterMap image, c.holds fields = true) ↔
        ∀ e ∈ predicates, (ctx.clause? e).isSome = true →
          ∃ c, Image ctx.table ctx.bindings e c ∧ c.holds fields = true := by
    constructor
    · intro h e he hclause
      rw [← hsome] at hclause
      obtain ⟨c, hc⟩ := Option.isSome_iff_exists.mp hclause
      exact ⟨c, himage e c hc, h c (List.mem_filterMap.mpr ⟨e, he, hc⟩)⟩
    · intro h c hc
      obtain ⟨e, he, hec⟩ := List.mem_filterMap.mp hc
      have hclause : (ctx.clause? e).isSome = true := by rw [← hsome, hec, Option.isSome_some]
      obtain ⟨c', hc', hholds⟩ := h e he hclause
      rwa [(himage e c hec).unique hc']
  cases hfilter : (render ctx predicates).filter with
  | none =>
    have hnil := hnone.mp hfilter
    refine ⟨none, rfl, fun _ e he ↦ ?_, fun fields ↦ ?_⟩
    · rw [← hsome, Option.isSome_eq_false_iff, Option.isNone_iff_eq_none]
      exact List.filterMap_eq_nil_iff.mp hnil e he
    · rw [← hall, hnil]
      exact ⟨fun _ ↦ List.forall_mem_nil _, fun _ ↦ rfl⟩
  | some text =>
    obtain ⟨first, others, hfirst, hcondition⟩ := htext text hfilter
    refine ⟨some (others.foldl .and first), congrArg some hcondition, fun h ↦ ?_, fun fields ↦ ?_⟩
    · cases h
    · rw [← hall, hfirst, Option.all_some, holds_foldl]

theorem exists_image_iff {ev : Evaluation} {layer : Layer.Definition}
    (hbound : ∀ c ∈ ev.table.columns, ∀ index field, c.binding = .field index field →
      BoundTo layer c index field)
    {row : Row} {f : Feature} (hshows : RowShows ev row f) {encoding : Encoding} {e : Expr}
    (hclause : (Context.clause? ⟨ev.table, encoding, ev.bindings⟩ e).isSome = true) :
    (∃ c, Image ev.table ev.bindings e c ∧ c.holds f.fields = true) ↔
      ev.truth row e = some true := by
  obtain ⟨⟨clause, params⟩, hrendered⟩ := Option.isSome_iff_exists.mp hclause
  obtain ⟨-, condition, himage, -⟩ := renders_of_clause? hbound hrendered
  rw [← evaluate_eq_truth hshows himage]
  constructor
  · rintro ⟨condition', himage', hholds⟩
    rw [himage.unique himage']
    exact beq_iff_eq.mp hholds
  · intro htrue
    exact ⟨condition, himage, beq_iff_eq.mpr htrue⟩

theorem Evaluation.keeps_iff {ev : Evaluation} {row : Row} {predicates : List Expr} :
    ev.keeps row predicates = true ↔ ∀ e ∈ predicates, ev.truth row e = some true := by
  rw [Evaluation.keeps, List.all_eq_true]
  simp only [beq_iff_eq]

/-- **A feature passes the filters of a plan where the predicates that the plan takes are true**, so
that together with the ones that are left they keep the same rows as all of them. -/
theorem admits_and_keeps {ev : Evaluation} {layer : Layer.Definition}
    (hgeometry : ∀ c ∈ ev.table.columns, ∀ index kind, c.binding = .geometry index kind →
      BoundToGeometry layer c index)
    (hnames : ((ev.table.columns.filter fun c ↦ !c.dropped).map Catalog.Column.name).Nodup)
    {f : Feature} {row : Row} (hrow : rowOf ev.table f = .ok row) {encoding : Encoding}
    {predicates : List Expr} {plan : Predicate.Plan}
    (hplan : Plan.of ⟨ev.table, encoding, ev.bindings⟩ predicates = plan)
    {condition : Option Condition}
    (hcondition : condition.all (·.holds f.fields) = true ↔
      ∀ e ∈ Plan.others ⟨ev.table, encoding, ev.bindings⟩ predicates,
        (Context.clause? ⟨ev.table, encoding, ev.bindings⟩ e).isSome = true →
          ev.truth row e = some true) :
    (admits condition plan.spatial f && ev.keeps row (plan.unconsumed predicates)) =
      ev.keeps row predicates := by
  subst hplan
  rw [Bool.eq_iff_iff, Bool.and_eq_true, Evaluation.keeps_iff, Evaluation.keeps_iff,
    @Plan.forall_mem_iff ⟨ev.table, encoding, ev.bindings⟩ predicates, admits, Bool.and_eq_true,
    hcondition]
  have hspatial : ((Plan.of ⟨ev.table, encoding, ev.bindings⟩ predicates).spatial.all
      fun s ↦ f.overlaps s.box) = true ↔
      ∀ i spatial e, (extract ev.table ev.bindings predicates).found = some (i, spatial) →
        predicates[i]? = some e → ev.truth row e = some true := by
    show ((extract ev.table ev.bindings predicates).found.map Prod.snd).all _ = true ↔ _
    cases hfound : (extract ev.table ev.bindings predicates).found with
    | none => exact ⟨fun _ _ _ _ h ↦ (by cases h), fun _ ↦ rfl⟩
    | some found =>
      obtain ⟨i, spatial⟩ := found
      obtain ⟨e, he, htruth⟩ := truth_of_found hgeometry hnames hrow hfound
      rw [Option.map_some, Option.all_some, ← htruth]
      constructor
      · intro h i' spatial' e' hsame he'
        cases hsame
        cases he.symm.trans he'
        exact h
      · intro h
        exact h i spatial e rfl he
  rw [hspatial]
  constructor
  · rintro ⟨⟨hothers, hfound⟩, hleft⟩
    exact ⟨hleft, hfound, hothers⟩
  · rintro ⟨hleft, hfound, hothers⟩
    exact ⟨⟨hothers, hfound⟩, hleft⟩

end Predicate

namespace Operation

/-! ## Plans for bound tables -/

variable {name : String} {schema : Schema} {options : ColumnOptions} {settings : Settings.Table}
  {table : Catalog.Table}

theorem field_lt_of_planOf {layer : Layer.Definition}
    (htable : Table.bind name schema options layer settings = .ok table) (c : Connection)
    (predicates : List Expr) (bindings : Bindings) :
    ∀ f ∈ (planOf table c predicates bindings).spatial, f.field < layer.geometryFields.length := by
  intro spatial hspatial
  obtain ⟨⟨i, _⟩, hfound, rfl⟩ := Option.map_eq_some_iff.mp hspatial
  exact @field_lt_of_found ⟨table, bindings, fun _ _ ↦ none⟩ layer
    (fun c hc index kind ↦ boundToGeometry_of_bind htable hc) predicates i _ hfound

/-- A layer that accepts attribute filters takes the one of a plan for a bound table. -/
theorem exists_takes_of_planOf {l : Layer}
    (htable : Table.bind name schema options l.definition settings = .ok table)
    (haccepts : l.rejectsFilters = false) (c : Connection) (predicates : List Expr)
    (bindings : Bindings) :
    ∃ condition, Takes l (planOf table c predicates bindings).filter condition := by
  obtain ⟨condition, hread, -⟩ := @exists_condition ⟨table, c.encoding, bindings⟩ l.definition
    (fun c hc index field ↦ boundTo_of_bind htable hc)
    (Plan.others ⟨table, c.encoding, bindings⟩ predicates)
  exact ⟨condition, takes_of_read hread fun hrejects ↦
    absurd (haccepts.symm.trans hrejects) Bool.false_ne_true⟩

/-! ## Scans without predicates -/

theorem spatial_planOf_nil (table : Catalog.Table) (c : Connection) (bindings : Bindings) :
    (planOf table c [] bindings).spatial = none := by
  show (extract table bindings []).found.map Prod.snd = none
  cases hfound : (extract table bindings []).found with
  | none => rfl
  | some found =>
    obtain ⟨_, _, -, he, -⟩ := firstOverlap?_eq_some hfound
    cases he

theorem scanAll_nil {c : Connection} (hopen : c.checkLayer = .ok ()) (tableId : Nat)
    (table : Catalog.Table) (bindings : Bindings) (settings : Settings.Planner) (l : Layer) :
    ((scanAll tableId c table [] bindings settings).run l).1.map Prod.snd =
      l.features.mapM (rowOf table) := by
  have hspatial := spatial_planOf_nil table c bindings
  obtain ⟨estimate, -, hscan⟩ := run_scanAll tableId hopen settings rfl
    (by rw [hspatial]; exact fun _ h ↦ (by cases h)) (Takes.none (l := l))
  have hall :
      l.features.filter (admits none (planOf table c [] bindings).spatial) = l.features := by
    rw [hspatial, List.filter_eq_self]
    exact fun _ _ ↦ rfl
  rw [hscan, hall]
  cases l.features.mapM (rowOf table) <;> rfl

end Operation

end ForeignLayer
