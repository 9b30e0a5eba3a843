import ForeignLayer.Proofs.ClauseForms
import ForeignLayer.Proofs.ConstantGeometries
import ForeignLayer.Proofs.Overlaps

/-!
# Volatile calls in plans

A layer works out what it is handed once, so nothing that calls a volatile function should be handed
to it. No clause has any call in it. A constant geometry is made by calls, and each of them is
checked before it is folded, but the overlap around the geometry is not, nor are the arguments that
the calls have to spare. So a plan takes no volatile calls exactly if there are none in these two
places of the overlap that it takes.
-/

namespace ForeignLayer

/-! ## Calls -/

namespace Expr

/-- The parts of an expression. -/
def children : Expr → List Expr
  | .column .. | .literal _ | .placeholder _ => []
  | .call _ _ args => args
  | .cast e _ | .tryCast e _ | .not e | .isNull e | .isNotNull e | .isTrue e | .isFalse e
  | .negative e | .alias e _ => [e]
  | .binary _ left right => [left, right]
  | .like e pattern => [e, pattern]
  | .between e low high => [e, low, high]
  | .inList e candidates => e :: candidates

/-- Whether an expression is a call of a volatile function. -/
def isVolatile : Expr → Bool
  | call _ volatility _ => volatility == .volatile
  | _ => false

/-- Whether a volatile function is called in an expression, at any depth. -/
inductive CallsVolatile : Expr → Prop
  | here {e : Expr} (h : e.isVolatile = true) : CallsVolatile e
  | within {e part : Expr} (hpart : part ∈ e.children) (h : CallsVolatile part) : CallsVolatile e

theorem not_callsVolatile_iff {e : Expr} :
    ¬ e.CallsVolatile ↔ e.isVolatile = false ∧ ∀ part ∈ e.children, ¬ part.CallsVolatile := by
  constructor
  · intro h
    refine ⟨?_, fun part hpart hcalls ↦ h (.within hpart hcalls)⟩
    rw [← Bool.not_eq_true]
    exact fun hvolatile ↦ h (.here hvolatile)
  · rintro ⟨hvolatile, hparts⟩ (h | ⟨hpart, h⟩)
    · rw [hvolatile] at h
      cases h
    · exact hparts _ hpart h

theorem not_callsVolatile_of_leaf {e : Expr} (hvolatile : e.isVolatile = false)
    (hchildren : e.children = []) : ¬ e.CallsVolatile := by
  rw [not_callsVolatile_iff, hchildren]
  exact ⟨hvolatile, fun _ hpart ↦ absurd hpart List.not_mem_nil⟩

theorem isVolatile_call {name : String} {volatility : Volatility} {args : List Expr} :
    (call name volatility args).isVolatile = false ↔ volatility ≠ .volatile := by
  rw [isVolatile, beq_eq_false_iff_ne]

theorem spares_tag {name : String} {volatility : Volatility}
    (hname : Text.lower name = tagFunction) (e code : Expr) (rest : List Expr) :
    (call name volatility (e :: code :: rest)).spares = e.spares ++ rest := by
  rw [spares, if_pos hname]

theorem spares_maker {name : String} {volatility : Volatility} {args : List Expr}
    (hname : Text.lower name ≠ tagFunction) {f : GeometryMaker}
    (hmaker : GeometryMaker.ofName? name = some f) :
    (call name volatility args).spares = args.drop (f.arity + 1) := by
  unfold spares
  rw [if_neg hname, hmaker]

variable {bindings : Bindings} {e : Expr}

theorem IsConstant.not_callsVolatile (h : e.IsConstant bindings) : ¬ e.CallsVolatile :=
  IsConstant.induction (P := fun e ↦ ¬ e.CallsVolatile)
    (fun _ ↦ not_callsVolatile_of_leaf rfl rfl) (fun _ ↦ not_callsVolatile_of_leaf rfl rfl)
    (fun _ _ ih ↦ not_callsVolatile_iff.mpr ⟨rfl, List.forall_mem_singleton.mpr ih⟩) h

/-- In a constant geometry, only the spare arguments can call anything volatile. -/
theorem not_callsVolatile_iff_spares {g : Geometry} (h : e.geometry? bindings = .ok (some g)) :
    ¬ e.CallsVolatile ↔ ∀ arg ∈ e.spares, ¬ arg.CallsVolatile := by
  have hoperands := isConstant_of_geometry? h
  fun_induction geometry? bindings e generalizing g with
  | case1 | case2 | case4 | case6 | case8 => cases h
  | case3 name volatility hvolatility hname e code rest value hcode ih =>
    rw [operands_tag hname, List.forall_mem_append, List.forall_mem_singleton] at hoperands
    obtain ⟨g', hgeometry⟩ := exists_of_map h
    have hspares : ¬ e.CallsVolatile ↔ ∀ arg ∈ e.spares, ¬ arg.CallsVolatile :=
      ih hgeometry hoperands.1
    rw [not_callsVolatile_iff, isVolatile_call, and_iff_right hvolatility, children,
      List.forall_mem_cons, List.forall_mem_cons, hspares,
      and_iff_right hoperands.2.not_callsVolatile, spares_tag hname, List.forall_mem_append]
  | case5 name volatility args hvolatility hname f hmaker =>
    rw [operands_maker hname hmaker] at hoperands
    rw [not_callsVolatile_iff, isVolatile_call, and_iff_right hvolatility, children,
      spares_maker hname hmaker, ← List.take_append_drop (f.arity + 1) args,
      List.forall_mem_append, List.take_append_drop]
    exact and_iff_right fun arg harg ↦ (hoperands arg harg).not_callsVolatile
  | case7 e hcall bs hbytes =>
    rw [operands_of_ne_call hcall, List.forall_mem_singleton] at hoperands
    rw [iff_true_left hoperands.not_callsVolatile]
    intro arg harg
    unfold spares at harg
    split at harg
    · exact (hcall _ _ _ rfl).elim
    · exact absurd harg List.not_mem_nil

end Expr

namespace Predicate

/-! ## Clauses -/

namespace Context

variable {ctx : Context} {e : Expr}

theorem not_callsVolatile_of_column? {r : Catalog.Column × Layer.Field}
    (h : ctx.column? e = some r) : ¬ e.CallsVolatile := by
  fun_induction column? ctx e generalizing r with
  | case1 e type ih =>
    obtain ⟨found, hfound, -⟩ := Option.bind_eq_some_iff.mp h
    exact Expr.not_callsVolatile_iff.mpr ⟨rfl, List.forall_mem_singleton.mpr (ih hfound)⟩
  | case2 => exact Expr.not_callsVolatile_of_leaf rfl rfl
  | case3 => cases h

theorem not_callsVolatile_of_field? {r : Catalog.Column × Layer.Field}
    (h : ctx.field? e = some r) : ¬ e.CallsVolatile := by
  obtain ⟨found, hfound, -⟩ := Option.bind_eq_some_iff.mp h
  exact not_callsVolatile_of_column? hfound

/-- **What has a clause calls nothing volatile.** -/
theorem not_callsVolatile_of_clause? {r : Filter.Clause × Parameters}
    (h : ctx.clause? e = some r) : ¬ e.CallsVolatile := by
  obtain ⟨clause, ps⟩ := r
  have hform : ctx.HasClause e clause ps := clause?_eq_some_iff.mp h
  clear h
  induction hform with
  | @compare left right columnSide constantSide _ _ _ _ _ _ horient hfield hconstant =>
    have hcolumn : ¬ columnSide.CallsVolatile := not_callsVolatile_of_field? hfield
    have hsteady : ¬ constantSide.CallsVolatile :=
      Expr.IsConstant.not_callsVolatile (Option.isSome_of_eq_some hconstant)
    refine Expr.not_callsVolatile_iff.mpr ⟨rfl, ?_⟩
    rw [Expr.children, List.forall_mem_cons, List.forall_mem_singleton]
    rcases orient_eq horient with ⟨rfl, -, rfl⟩ | ⟨rfl, -, rfl⟩
    · exact ⟨hcolumn, hsteady⟩
    · exact ⟨hsteady, hcolumn⟩
  | isNull hfield | isNotNull hfield =>
    exact Expr.not_callsVolatile_iff.mpr
      ⟨rfl, List.forall_mem_singleton.mpr (not_callsVolatile_of_field? hfield)⟩
  | not _ ih => exact Expr.not_callsVolatile_iff.mpr ⟨rfl, List.forall_mem_singleton.mpr ih⟩
  | and _ _ ihl ihr | or _ _ ihl ihr =>
    exact Expr.not_callsVolatile_iff.mpr
      ⟨rfl, List.forall_mem_cons.mpr ⟨ihl, List.forall_mem_singleton.mpr ihr⟩⟩

end Context

/-! ## Overlaps -/

theorem not_callsVolatile_iff_of_isColumn {column : Catalog.Column} {e : Expr}
    (h : isColumn column e = true) :
    ¬ e.CallsVolatile ↔ ∀ arg ∈ e.spares, ¬ arg.CallsVolatile := by
  obtain ⟨relation, rfl⟩ := isColumn_eq_true h
  exact iff_of_true (Expr.not_callsVolatile_of_leaf rfl rfl)
    fun arg harg ↦ absurd harg List.not_mem_nil

/-- An overlap calls something volatile in two places only: where it is called itself, and in the
arguments to spare. -/
theorem not_callsVolatile_iff_of_overlap? {column : Catalog.Column} {bindings : Bindings} {e : Expr}
    {spatial : SpatialFilter} (h : overlap? column bindings e = some spatial) :
    ¬ e.CallsVolatile ↔ e.isVolatile = false ∧
      ∀ side ∈ e.children, ∀ arg ∈ side.spares, ¬ arg.CallsVolatile := by
  obtain ⟨-, name, volatility, left, right, operand, rfl, -, hopposite, hbox⟩ := overlap?_eq_some h
  obtain ⟨g, hg, -⟩ := constantBox?_eq_some hbox
  have hoperand := Expr.not_callsVolatile_iff_spares hg
  rw [Expr.not_callsVolatile_iff, Expr.children, List.forall_mem_cons, List.forall_mem_singleton,
    List.forall_mem_cons, List.forall_mem_singleton]
  refine and_congr_right fun _ ↦ ?_
  unfold opposite? at hopposite
  split at hopposite
  · next hleft =>
    cases hopposite
    exact and_congr (not_callsVolatile_iff_of_isColumn hleft) hoperand
  · split at hopposite
    · next hright =>
      cases hopposite
      exact and_congr hoperand (not_callsVolatile_iff_of_isColumn hright)
    · cases hopposite

/-! ## Plans -/

theorem render_filter (ctx : Context) (predicates : List Expr) :
    (render ctx (predicates.filter fun e ↦ (ctx.clause? e).isSome)).filter =
      (render ctx predicates).filter := by
  have hsame : ((predicates.filter fun e ↦ (ctx.clause? e).isSome).map ctx.clause?).filterMap id =
      (predicates.map ctx.clause?).filterMap id := by
    rw [List.filterMap_map, List.filterMap_map, List.filterMap_filter]
    refine List.filterMap_congr fun e _ ↦ ?_
    cases hclause : ctx.clause? e with
    | none => simp [hclause]
    | some r => simp [hclause]
  simp only [render, hsame]

namespace Plan

/-- **Nothing volatile is handed to a layer.** No predicate that it takes care of calls anything
volatile, and both of its filters are those of predicates that do not. -/
structure PushesNoVolatile (ctx : Context) (predicates : List Expr) : Prop where
  consumed : ∀ (i : Nat) (e : Expr), predicates[i]? = some e →
    (of ctx predicates).consumed[i]? = some true → ¬ e.CallsVolatile
  spatial : ∃ es : List Expr, es ⊆ predicates ∧ (∀ e ∈ es, ¬ e.CallsVolatile) ∧
    (extract ctx.table ctx.bindings es).found.map Prod.snd = (of ctx predicates).spatial
  filter : ∃ es : List Expr, es ⊆ predicates ∧ (∀ e ∈ es, ¬ e.CallsVolatile) ∧
    (render ctx es).filter = (of ctx predicates).filter

/-- Whether the overlap whose box is taken, if any, is no volatile call itself, and has none in the
arguments to spare of its sides. -/
def OverlapIsSteady (ctx : Context) (predicates : List Expr) : Prop :=
  ∀ i spatial (e : Expr), (extract ctx.table ctx.bindings predicates).found = some (i, spatial) →
    predicates[i]? = some e →
      e.isVolatile = false ∧ ∀ side ∈ e.children, ∀ arg ∈ side.spares, ¬ arg.CallsVolatile

variable {ctx : Context} {predicates : List Expr}

theorem not_callsVolatile_iff_of_found {i : Nat} {spatial : SpatialFilter} {e : Expr}
    (hfound : (extract ctx.table ctx.bindings predicates).found = some (i, spatial))
    (he : predicates[i]? = some e) :
    ¬ e.CallsVolatile ↔ e.isVolatile = false ∧
      ∀ side ∈ e.children, ∀ arg ∈ side.spares, ¬ arg.CallsVolatile := by
  obtain ⟨column, e', -, he', hoverlap⟩ := firstOverlap?_eq_some hfound
  cases he.symm.trans he'
  exact not_callsVolatile_iff_of_overlap? hoverlap

/-- A predicate that the layer takes care of has a clause, or is the overlap whose box is taken. -/
theorem not_callsVolatile_of_consumed (h : OverlapIsSteady ctx predicates) {i : Nat} {e : Expr}
    (he : predicates[i]? = some e) (hconsumed : (of ctx predicates).consumed[i]? = some true) :
    ¬ e.CallsVolatile := by
  rw [getElem?_consumed he, Option.some_inj, mark, he, Option.map_some, Option.getD_some,
    Bool.or_eq_true, beq_iff_eq] at hconsumed
  rcases hconsumed with hplace | hclause
  · obtain ⟨⟨j, spatial⟩, hfound, rfl⟩ := Option.map_eq_some_iff.mp hplace
    exact (not_callsVolatile_iff_of_found hfound he).mpr (h _ spatial e hfound he)
  · obtain ⟨r, hr⟩ := Option.isSome_iff_exists.mp hclause
    exact Context.not_callsVolatile_of_clause? hr

theorem exists_spatial (h : OverlapIsSteady ctx predicates) :
    ∃ es : List Expr, es ⊆ predicates ∧ (∀ e ∈ es, ¬ e.CallsVolatile) ∧
      (extract ctx.table ctx.bindings es).found.map Prod.snd = (of ctx predicates).spatial := by
  have hspatial : (of ctx predicates).spatial =
      (extract ctx.table ctx.bindings predicates).found.map Prod.snd := rfl
  cases hfound : (extract ctx.table ctx.bindings predicates).found with
  | none =>
    refine ⟨[], List.nil_subset _, fun e he ↦ absurd he List.not_mem_nil, ?_⟩
    rw [hspatial, hfound, extract, firstOverlap?]
    cases ctx.table.geometry? <;> rfl
  | some found =>
    obtain ⟨i, spatial⟩ := found
    obtain ⟨column, e, hcolumn, he, hoverlap⟩ := firstOverlap?_eq_some hfound
    have hsteady := (not_callsVolatile_iff_of_found hfound he).mpr (h i spatial e hfound he)
    refine ⟨[e], List.cons_subset.mpr ⟨List.mem_of_getElem? he, List.nil_subset _⟩,
      List.forall_mem_singleton.mpr hsteady, ?_⟩
    rw [hspatial, hfound, extract, firstOverlap?, hcolumn]
    simp only [List.zipIdx_singleton, List.findSome?_singleton, hoverlap, Option.map_some,
      Option.bind_eq_bind, Option.bind_some]

/-- The attribute filter of a plan is the one of the predicates that have clauses. -/
theorem exists_filter (ctx : Context) (predicates : List Expr) :
    ∃ es : List Expr, es ⊆ predicates ∧ (∀ e ∈ es, ¬ e.CallsVolatile) ∧
      (render ctx es).filter = (of ctx predicates).filter := by
  refine ⟨(others ctx predicates).filter fun e ↦ (ctx.clause? e).isSome, fun e he ↦ ?_,
    fun e he ↦ ?_, render_filter ctx _⟩
  · obtain ⟨i, hi, -⟩ := mem_others.mp (List.mem_filter.mp he).1
    exact List.mem_of_getElem? hi
  · obtain ⟨r, hr⟩ := Option.isSome_iff_exists.mp (List.mem_filter.mp he).2
    exact Context.not_callsVolatile_of_clause? hr

/-- **A plan hands nothing volatile to a layer exactly if its overlap is steady.** -/
theorem pushesNoVolatile_iff (ctx : Context) (predicates : List Expr) :
    PushesNoVolatile ctx predicates ↔ OverlapIsSteady ctx predicates := by
  constructor
  · intro h i spatial e hfound he
    refine (not_callsVolatile_iff_of_found hfound he).mp (h.consumed i e he ?_)
    rw [getElem?_consumed he, mark, hfound, Option.map_some, beq_self_eq_true, Bool.true_or]
  · intro h
    exact ⟨fun i e he hconsumed ↦ not_callsVolatile_of_consumed h he hconsumed, exists_spatial h,
      exists_filter ctx predicates⟩

/-- An overlap with a place that is volatile itself. -/
private def volatileOverlap : Expr :=
  .call "&&" .volatile [.column "geom" none, .literal placeValue]

/-- A call that is different every time. -/
private def volatileCall : Expr := .call "random" .volatile []

/-- A place under another tag, next to a volatile argument to spare. -/
private def taggedPlace : Expr :=
  .call "st_setsrid" .immutable [.literal placeValue, .literal (.of .int32 4326), volatileCall]

/-- An overlap with it. -/
private def volatileSpare : Expr := .call "&&" .immutable [.column "geom" none, taggedPlace]

/-- A layer is handed a volatile call in either place. -/
theorem not_pushesNoVolatile_places :
    Catalog.Table.bind "places" placesSchema [] placesLayer { layer := "places" } =
      .ok placesTable ∧
    ∀ e ∈ [volatileOverlap, volatileSpare], e.CallsVolatile ∧
      (of ⟨placesTable, .utf8, []⟩ [e]).consumed = [true] ∧
      ¬ PushesNoVolatile ⟨placesTable, .utf8, []⟩ [e] := by
  have hconsumed : ∀ e ∈ [volatileOverlap, volatileSpare],
      (of ⟨placesTable, .utf8, []⟩ [e]).consumed = [true] := by decide +kernel
  have hcalls : ∀ e ∈ [volatileOverlap, volatileSpare], e.CallsVolatile := by
    have hcall : volatileCall.CallsVolatile := .here rfl
    have htagged : taggedPlace.CallsVolatile :=
      .within (List.mem_cons_of_mem _ (List.mem_cons_of_mem _ List.mem_cons_self)) hcall
    rw [List.forall_mem_cons, List.forall_mem_singleton]
    exact ⟨.here rfl, .within (List.mem_cons_of_mem _ List.mem_cons_self) htagged⟩
  refine ⟨bind_places, fun e he ↦ ⟨hcalls e he, hconsumed e he, fun h ↦ ?_⟩⟩
  exact h.consumed 0 e rfl (by rw [hconsumed e he]; rfl) (hcalls e he)

end Plan

end Predicate

end ForeignLayer
