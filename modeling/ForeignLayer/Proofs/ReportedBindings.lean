import ForeignLayer.Proofs.ReportedParameters
import ForeignLayer.Proofs.SeparateClauses
import ForeignLayer.Proofs.VolatileCalls

/-!
# The values of reported parameters

The parameters of a filter are meant to be the bindings that its text depends on. Each placeholder
is reported once, where it is first used in a predicate that is taken. What is reported is not the
value that is bound to it, though, but the value of the constant there: a cast keeps the placeholder
of a constant and changes its value. So the parameters are bindings exactly if the casts around the
first use of every placeholder leave its value alone, and what further uses make of it is reported
nowhere.
-/

namespace ForeignLayer

/-! ## Placeholders in expressions -/

namespace Expr

/-- Whether a placeholder occurs in an expression, at any depth. -/
inductive Mentions (id : String) : Expr → Prop
  | here : Mentions id (.placeholder id)
  | within {e part : Expr} (hpart : part ∈ e.children) (h : Mentions id part) : Mentions id e

theorem mentions_of_placeholder? {e : Expr} {id : String} (h : e.placeholder? = some id) :
    e.Mentions id := by
  fun_induction placeholder? e with
  | case1 id' =>
    cases h
    exact .here
  | case2 e type ih => exact .within List.mem_cons_self (ih h)
  | case3 => cases h

end Expr

namespace Predicate

/-! ## Parameters that are added once -/

namespace Parameters

variable {ps : Parameters} {id : String}

theorem addAll_cons (ps qs : Parameters) (q : String × Scalar) :
    ps.addAll (q :: qs) = (if q.1 ∈ ps.ids then ps else ps ++ [q]).addAll qs := by
  have hany : ps.any (·.1 == q.1) = true ↔ q.1 ∈ ps.ids := by
    rw [List.any_eq_true, ids, List.mem_map]
    simp only [beq_iff_eq]
  rw [addAll, List.foldl_cons, ← addAll]
  simp only [hany]

/-- The first value of a placeholder counts. -/
theorem lookup_addAll (ps qs : Parameters) (id : String) :
    (ps.addAll qs).lookup id = (ps ++ qs).lookup id := by
  induction qs generalizing ps with
  | nil => rw [List.append_nil]; rfl
  | cons q qs ih =>
    rw [addAll_cons, ih]
    split
    · next hmem =>
      rw [List.lookup_append, List.lookup_append, List.lookup_cons]
      cases hid : id == q.1 with
      | false => rfl
      | true =>
        rw [← beq_iff_eq.mp hid] at hmem
        obtain ⟨p, hp, rfl⟩ := List.mem_map.mp hmem
        have hsome : (ps.lookup p.1).isSome = true :=
          List.lookup_isSome_iff.mpr ⟨p, hp, beq_self_eq_true p.1⟩
        obtain ⟨value, hvalue⟩ := Option.isSome_iff_exists.mp hsome
        rw [hvalue, Option.some_or, Option.some_or]
    · rw [List.append_assoc, List.singleton_append]

theorem nodup_ids_addAll (ps qs : Parameters) (h : ps.ids.Nodup) :
    (Parameters.ids (ps.addAll qs)).Nodup := by
  induction qs generalizing ps with
  | nil => exact h
  | cons q qs ih =>
    rw [addAll_cons]
    split
    · exact ih ps h
    · next hnew =>
      refine ih (ps ++ [q]) ?_
      rw [ids_append]
      exact List.nodup_append'.mpr
        ⟨h, List.nodup_singleton q.1, List.disjoint_singleton.mpr hnew⟩

theorem mem_iff_lookup (h : ps.ids.Nodup) {value : Scalar} :
    (id, value) ∈ ps ↔ ps.lookup id = some value := by
  induction ps with
  | nil => exact iff_of_false List.not_mem_nil fun h ↦ (by cases h)
  | cons p ps ih =>
    obtain ⟨hnew, hrest⟩ := List.nodup_cons.mp h
    rw [List.mem_cons, List.lookup_cons]
    cases hid : id == p.1 with
    | false =>
      rw [ih hrest]
      refine or_iff_right fun heq ↦ ?_
      rw [← heq, beq_self_eq_true] at hid
      cases hid
    | true =>
      rw [beq_iff_eq] at hid
      subst hid
      rw [Option.some_inj]
      constructor
      · rintro (heq | hmem)
        · rw [← heq]
        · exact absurd (List.mem_map_of_mem hmem) hnew
      · rintro rfl
        exact .inl rfl

end Parameters

/-! ## Uses of constants -/

namespace Context

/-- The parameter that a constant is reported as, if it comes from a placeholder. -/
def use? (bindings : Bindings) (constant : Expr) : Option (String × Scalar) := do
  let c ← constant.constant? bindings
  c.placeholder.map fun id ↦ (id, c.value)

variable {ctx : Context}

/-- The constants in the comparisons of a predicate, in the order of the text. -/
def constants (ctx : Context) : Expr → List Expr
  | .binary .and left right => ctx.constants left ++ ctx.constants right
  | .binary .or left right => ctx.constants left ++ ctx.constants right
  | .binary (.compare op) left right => [(ctx.orient left op right).2.2]
  | .not e => ctx.constants e
  | _ => []

theorem mentions_of_mem_constants {e constant : Expr} {id : String}
    (hconstant : constant ∈ ctx.constants e) (h : constant.Mentions id) : e.Mentions id := by
  fun_induction constants ctx e with
  | case1 left right ihl ihr | case2 left right ihl ihr =>
    rcases List.mem_append.mp hconstant with hleft | hright
    · exact .within List.mem_cons_self (ihl hleft)
    · exact .within (List.mem_cons_of_mem _ List.mem_cons_self) (ihr hright)
  | case3 op left right =>
    rw [List.mem_singleton.mp hconstant, orient] at h
    split at h
    · exact .within (List.mem_cons_of_mem _ List.mem_cons_self) h
    · exact .within List.mem_cons_self h
  | case4 e ih => exact .within List.mem_cons_self (ih hconstant)
  | case5 => exact absurd hconstant List.not_mem_nil

/-- The parameters of a clause are the uses of its constants. -/
theorem params_of_clause? {e : Expr} {r : Filter.Clause × Parameters}
    (h : ctx.clause? e = some r) : r.2 = (ctx.constants e).filterMap (use? ctx.bindings) ∧
      ∀ constant ∈ ctx.constants e, constant.IsConstant ctx.bindings := by
  obtain ⟨clause, ps⟩ := r
  have hform : ctx.HasClause e clause ps := clause?_eq_some_iff.mp h
  clear h
  induction hform with
  | @compare _ _ _ _ _ _ _ _ constant _ horient _ hconstant =>
    rw [constants, horient, List.forall_mem_singleton]
    refine ⟨?_, Option.isSome_of_eq_some hconstant⟩
    rw [parameter, List.filterMap_cons, use?, hconstant, List.filterMap_nil, Option.bind_eq_bind,
      Option.bind_some]
    cases constant.placeholder <;> rfl
  | isNull | isNotNull => exact ⟨rfl, fun _ hmem ↦ absurd hmem List.not_mem_nil⟩
  | not _ ih => exact ih
  | and _ _ ihl ihr | or _ _ ihl ihr =>
    rw [constants, List.filterMap_append, List.forall_mem_append, ← ihl.1, ← ihr.1]
    exact ⟨rfl, ihl.2, ihr.2⟩

/-- The constants of the predicates that have clauses, in the order of the text. -/
def usedConstants (ctx : Context) (predicates : List Expr) : List Expr :=
  (predicates.filter fun e ↦ (ctx.clause? e).isSome).flatMap ctx.constants

/-- The constant that uses a placeholder first, in a predicate that has a clause. -/
def firstUse? (ctx : Context) (predicates : List Expr) (id : String) : Option Expr :=
  (ctx.usedConstants predicates).find? fun constant ↦ constant.placeholder? == some id

variable {predicates : List Expr}

theorem isConstant_of_mem_usedConstants {constant : Expr}
    (h : constant ∈ ctx.usedConstants predicates) : constant.IsConstant ctx.bindings := by
  obtain ⟨e, he, hconstant⟩ := List.mem_flatMap.mp h
  obtain ⟨r, hr⟩ := Option.isSome_iff_exists.mp (List.mem_filter.mp he).2
  exact (params_of_clause? hr).2 constant hconstant

theorem exists_of_firstUse? {id : String} {constant : Expr}
    (h : ctx.firstUse? predicates id = some constant) :
    ∃ c, constant.constant? ctx.bindings = some c :=
  Option.isSome_iff_exists.mp (isConstant_of_mem_usedConstants (List.mem_of_find?_eq_some h))

/-- The value that a placeholder gets from uses is the one of the first. -/
theorem lookup_filterMap_use? {bindings : Bindings} {constants : List Expr}
    (h : ∀ constant ∈ constants, constant.IsConstant bindings) (id : String) :
    (constants.filterMap (use? bindings)).lookup id =
      (constants.find? fun constant ↦ constant.placeholder? == some id).bind fun constant ↦
        (constant.constant? bindings).map Constant.value := by
  induction constants with
  | nil => rfl
  | cons constant constants ih =>
    obtain ⟨hconstant, hrest⟩ := List.forall_mem_cons.mp h
    obtain ⟨c, hc⟩ := Option.isSome_iff_exists.mp hconstant
    have hplaceholder := Expr.placeholder_of_constant? hc
    rw [List.filterMap_cons, use?, hc, Option.bind_eq_bind, Option.bind_some, hplaceholder,
      List.find?_cons]
    cases constant.placeholder? with
    | none => exact ih hrest
    | some id' =>
      rw [Option.map_some]
      dsimp only
      rw [List.lookup_cons, Option.some_beq_some, BEq.comm, ih hrest]
      cases id' == id with
      | false => rfl
      | true => exact (congrArg (Option.map Constant.value) hc).symm

end Context

/-! ## What is reported -/

/-- The parameters of a filter are the uses of its constants, each placeholder once. -/
theorem params_render (ctx : Context) (predicates : List Expr) :
    (render ctx predicates).params =
      Parameters.addAll []
        ((ctx.usedConstants predicates).filterMap (Context.use? ctx.bindings)) := by
  have huses : ((predicates.map ctx.clause?).filterMap id).flatMap Prod.snd =
      (ctx.usedConstants predicates).filterMap (Context.use? ctx.bindings) := by
    rw [Context.usedConstants]
    induction predicates with
    | nil => rfl
    | cons e predicates ih =>
      rw [List.map_cons, List.filterMap_cons, List.filter_cons]
      cases hclause : ctx.clause? e with
      | none => exact ih
      | some r =>
        dsimp only [id_eq]
        rw [List.flatMap_cons, ih, Option.isSome_some, if_pos rfl, List.flatMap_cons,
          List.filterMap_append, (Context.params_of_clause? hclause).1]
  rw [render, ← huses, Parameters.addAll, List.foldl_flatMap]
  rfl

theorem nodup_ids_render (ctx : Context) (predicates : List Expr) :
    (render ctx predicates).params.ids.Nodup := by
  rw [params_render]
  exact Parameters.nodup_ids_addAll [] _ List.nodup_nil

/-- The parameters of a filter are the values of first uses. -/
theorem mem_params_render {ctx : Context} {predicates : List Expr} {id : String} {value : Scalar} :
    (id, value) ∈ (render ctx predicates).params ↔ ∃ constant,
      ctx.firstUse? predicates id = some constant ∧
        (constant.constant? ctx.bindings).map Constant.value = some value := by
  rw [Parameters.mem_iff_lookup (nodup_ids_render ctx predicates), params_render,
    Parameters.lookup_addAll, List.nil_append,
    Context.lookup_filterMap_use? fun _ ↦ Context.isConstant_of_mem_usedConstants]
  exact Option.bind_eq_some_iff

theorem exists_mentions_of_mem_ids {ctx : Context} {predicates : List Expr} {id : String}
    (h : id ∈ (render ctx predicates).params.ids) :
    ∃ e ∈ predicates, (ctx.clause? e).isSome = true ∧ e.Mentions id := by
  obtain ⟨e, he, clause, ps, hclause, hid⟩ := mem_ids_render.mp h
  refine ⟨e, he, Option.isSome_of_eq_some hclause, ?_⟩
  have hps : ps = (ctx.constants e).filterMap (Context.use? ctx.bindings) :=
    (Context.params_of_clause? hclause).1
  rw [hps] at hid
  obtain ⟨p, hp, rfl⟩ := List.mem_map.mp hid
  obtain ⟨constant, hconstant, huse⟩ := List.mem_filterMap.mp hp
  obtain ⟨c, hc, huse⟩ := Option.bind_eq_some_iff.mp huse
  obtain ⟨id', hid', rfl⟩ := Option.map_eq_some_iff.mp huse
  rw [Expr.placeholder_of_constant? hc] at hid'
  exact Context.mentions_of_mem_constants hconstant (Expr.mentions_of_placeholder? hid')

namespace Plan

/-- The overlap that is taken out of a plan has no parameters. -/
theorem params_of (ctx : Context) (predicates : List Expr) :
    (of ctx predicates).params = (render ctx predicates).params := by
  have hplan : (of ctx predicates).params = (render ctx (others ctx predicates)).params := rfl
  have hclauses : ((others ctx predicates).map ctx.clause?).filterMap id =
      (predicates.map ctx.clause?).filterMap id := by
    rw [List.filterMap_map, List.filterMap_map]
    exact filterMap_clause?_others ctx predicates
  rw [hplan, render, hclauses, render]

end Plan

/-- Whether the casts around the first use of every placeholder leave its value as it is bound. -/
def Context.CastsKeepBindings (ctx : Context) (predicates : List Expr) : Prop :=
  ∀ id constant, ctx.firstUse? predicates id = some constant →
    (constant.constant? ctx.bindings).map Constant.value = ctx.bindings.lookup id

/-- **What is reported of the placeholders of predicates**, some of which are taken. -/
structure ReportsUses (ctx : Context) (predicates : List Expr) (consumed : List Bool)
    (params : Parameters) : Prop where
  /-- No placeholder is reported twice. -/
  once : params.ids.Nodup
  /-- A placeholder that is reported occurs in a predicate that is taken. -/
  occurs : ∀ id ∈ params.ids, ∃ (i : Nat) (e : Expr), predicates[i]? = some e ∧
    consumed[i]? = some true ∧ e.Mentions id
  /-- The value of a placeholder is the one of its first use. -/
  value_iff : ∀ id value, (id, value) ∈ params ↔ ∃ constant,
    ctx.firstUse? predicates id = some constant ∧
      (constant.constant? ctx.bindings).map Constant.value = some value
  /-- The values are those that are bound exactly if no cast changes one. -/
  bound_iff : (∀ id value, (id, value) ∈ params → ctx.bindings.lookup id = some value) ↔
    ctx.CastsKeepBindings predicates

theorem reportsUses_of_consumed {ctx : Context} {predicates : List Expr} {consumed : List Bool}
    (h : ∀ (i : Nat) (e : Expr), predicates[i]? = some e → (ctx.clause? e).isSome = true →
      consumed[i]? = some true) :
    ReportsUses ctx predicates consumed (render ctx predicates).params where
  once := nodup_ids_render ctx predicates
  occurs id hid := by
    obtain ⟨e, he, hclause, hmentions⟩ := exists_mentions_of_mem_ids hid
    obtain ⟨i, hi⟩ := List.mem_iff_getElem?.mp he
    exact ⟨i, e, hi, h i e hi hclause, hmentions⟩
  value_iff _ _ := mem_params_render
  bound_iff := by
    constructor
    · intro hbound id constant hfirst
      obtain ⟨c, hc⟩ := Context.exists_of_firstUse? hfirst
      have hvalue : (constant.constant? ctx.bindings).map Constant.value = some c.value := by
        rw [hc, Option.map_some]
      rw [hvalue, hbound id c.value (mem_params_render.mpr ⟨constant, hfirst, hvalue⟩)]
    · intro hkeep id value hmem
      obtain ⟨constant, hfirst, hvalue⟩ := mem_params_render.mp hmem
      rw [← hkeep id constant hfirst, hvalue]

/-- **Parameters are reported as they are first used**, by a filter and by a plan. -/
theorem reportsUses (ctx : Context) (predicates : List Expr) :
    ReportsUses ctx predicates (render ctx predicates).consumed (render ctx predicates).params ∧
      ReportsUses ctx predicates (Plan.of ctx predicates).consumed
        (Plan.of ctx predicates).params := by
  refine ⟨reportsUses_of_consumed fun i e he hclause ↦ ?_, ?_⟩
  · rw [render, List.map_map, List.getElem?_map, he, Option.map_some]
    exact congrArg some hclause
  · rw [Plan.params_of]
    refine reportsUses_of_consumed fun i e he hclause ↦ ?_
    rw [Plan.getElem?_consumed he, Plan.mark, he, Option.map_some, Option.getD_some, hclause,
      Bool.or_true]

/-! ## A cast that is not told -/

private def berthLayer : Layer.Definition := ⟨"ports", [⟨"berths", .integer⟩], [], none⟩

private def berthTable : Catalog.Table where
  name := "ports"
  layerName := "ports"
  columns := [⟨0, "berths", false, .plain (.integer true .w32), -1, .field 0 ⟨"berths", .integer⟩,
    (Conversion.resolve (.plain (.integer true .w32))).toOption⟩]

/-- A placeholder that stands for four and a half berths. -/
private def berthContext : Context :=
  ⟨berthTable, .utf8, [("$1", .of .float64 ⟨0x4012000000000000⟩)]⟩

/-- The ports with as many berths as the placeholder says, without the half. -/
private def berthPredicate : Expr :=
  .binary (.compare .eq) (.column "berths" none) (.cast (.placeholder "$1") (.integer true .w32))

/-- A placeholder under a cast is reported with the value of the cast. -/
theorem params_not_bound_berths :
    Catalog.Table.bind "ports" [⟨"berths", .integer true .w32, []⟩] [] berthLayer
      { layer := "ports" } = .ok berthTable ∧
    ¬ (∀ id value, (id, value) ∈ (render berthContext [berthPredicate]).params →
      berthContext.bindings.lookup id = some value) ∧
    ¬ ∀ id value, (id, value) ∈ (Plan.of berthContext [berthPredicate]).params →
      berthContext.bindings.lookup id = some value := by
  have hparams : (render berthContext [berthPredicate]).params =
      [("$1", .of (.integer true .w32) 4)] := by
    decide +kernel
  have hbound : berthContext.bindings.lookup "$1" ≠ some (.of (.integer true .w32) 4) := by
    decide +kernel
  rw [Plan.params_of, hparams]
  exact ⟨rfl, fun h ↦ hbound (h _ _ List.mem_cons_self), fun h ↦ hbound (h _ _ List.mem_cons_self)⟩

end Predicate

end ForeignLayer
