import ForeignLayer.Predicate.Clauses

/-!
# The forms of predicates with clauses

A predicate has a clause in six forms only, whose parts stand for a column, have a value, or have
clauses themselves. What a clause is like follows by induction on these forms.
-/

namespace ForeignLayer.Predicate.Context

open ForeignLayer.Filter (Clause Comparison)

/-- A predicate with its clause and the parameters that it depends on. -/
inductive HasClause (ctx : Context) : Expr → Clause → Parameters → Prop
  | compare {left right columnSide constantSide : Expr} {op op' : Comparison}
      {column : Catalog.Column} {field : Layer.Field} {constant : Constant} {clause : Clause}
      (horient : ctx.orient left op right = (columnSide, op', constantSide))
      (hfield : ctx.field? columnSide = some (column, field))
      (hconstant : constantSide.constant? ctx.bindings = some constant)
      (hclause : comparisonClause? ctx.encoding column field op' constant.value = some clause) :
      HasClause ctx (.binary (.compare op) left right) clause (parameter constant)
  | isNull {e : Expr} {column : Catalog.Column} {field : Layer.Field}
      (hfield : ctx.field? e = some (column, field)) :
      HasClause ctx (.isNull e) (.isNull field.name) []
  | isNotNull {e : Expr} {column : Catalog.Column} {field : Layer.Field}
      (hfield : ctx.field? e = some (column, field)) :
      HasClause ctx (.isNotNull e) (.isNotNull field.name) []
  | not {e : Expr} {clause : Clause} {ps : Parameters} (h : HasClause ctx e clause ps) :
      HasClause ctx (.not e) (.not clause) ps
  | and {left right : Expr} {l r : Clause} {ps qs : Parameters} (hl : HasClause ctx left l ps)
      (hr : HasClause ctx right r qs) :
      HasClause ctx (.binary .and left right) (.and l r) (ps ++ qs)
  | or {left right : Expr} {l r : Clause} {ps qs : Parameters} (hl : HasClause ctx left l ps)
      (hr : HasClause ctx right r qs) :
      HasClause ctx (.binary .or left right) (.or l r) (ps ++ qs)

variable {ctx : Context} {e : Expr} {clause : Clause} {ps : Parameters}

theorem hasClause_of_clause? (h : ctx.clause? e = some (clause, ps)) :
    HasClause ctx e clause ps := by
  fun_induction clause? ctx e generalizing clause ps with
  | case1 left right ihl ihr =>
    obtain ⟨⟨l, ls⟩, hl, h⟩ := Option.bind_eq_some_iff.mp h
    obtain ⟨⟨r, rs⟩, hr, h⟩ := Option.bind_eq_some_iff.mp h
    cases h
    exact .and (ihl hl) (ihr hr)
  | case2 left right ihl ihr =>
    obtain ⟨⟨l, ls⟩, hl, h⟩ := Option.bind_eq_some_iff.mp h
    obtain ⟨⟨r, rs⟩, hr, h⟩ := Option.bind_eq_some_iff.mp h
    cases h
    exact .or (ihl hl) (ihr hr)
  | case3 op left right =>
    unfold comparison? at h
    rcases horient : ctx.orient left op right with ⟨columnSide, op', constantSide⟩
    rw [horient] at h
    obtain ⟨⟨column, field⟩, hfield, h⟩ := Option.bind_eq_some_iff.mp h
    obtain ⟨constant, hconstant, h⟩ := Option.bind_eq_some_iff.mp h
    obtain ⟨clause', hclause, h⟩ := Option.bind_eq_some_iff.mp h
    cases h
    exact .compare horient hfield hconstant hclause
  | case4 e ih =>
    obtain ⟨⟨c, cs⟩, hc, h⟩ := Option.bind_eq_some_iff.mp h
    cases h
    exact .not (ih hc)
  | case5 e =>
    obtain ⟨⟨column, field⟩, hfield, h⟩ := Option.map_eq_some_iff.mp h
    cases h
    exact .isNull hfield
  | case6 e =>
    obtain ⟨⟨column, field⟩, hfield, h⟩ := Option.map_eq_some_iff.mp h
    cases h
    exact .isNotNull hfield
  | case7 => cases h

theorem HasClause.clause?_eq (h : HasClause ctx e clause ps) :
    ctx.clause? e = some (clause, ps) := by
  induction h with
  | compare horient hfield hconstant hclause =>
    rw [clause?, comparison?, horient]
    simp only [hfield, hconstant, hclause, Option.bind_eq_bind, Option.bind_some, Option.pure_def]
  | isNull hfield | isNotNull hfield => rw [clause?, hfield, Option.map_some]
  | not _ ih => simp only [clause?, ih, Option.bind_eq_bind, Option.bind_some, Option.pure_def]
  | and _ _ ihl ihr | or _ _ ihl ihr =>
    simp only [clause?, ihl, ihr, Option.bind_eq_bind, Option.bind_some, Option.pure_def]

/-- **The predicates with clauses are those of the six forms.** -/
theorem clause?_eq_some_iff : ctx.clause? e = some (clause, ps) ↔ HasClause ctx e clause ps :=
  ⟨hasClause_of_clause?, HasClause.clause?_eq⟩

/-- In a comparison, one side stands for the column and the other one for the constant. -/
theorem orient_eq {left right columnSide constantSide : Expr} {op op' : Comparison}
    (h : ctx.orient left op right = (columnSide, op', constantSide)) :
    left = columnSide ∧ op' = op ∧ right = constantSide ∨
      left = constantSide ∧ op' = op.swap ∧ right = columnSide := by
  unfold orient at h
  split at h <;> cases h
  · exact .inl ⟨rfl, rfl, rfl⟩
  · exact .inr ⟨rfl, rfl, rfl⟩

end ForeignLayer.Predicate.Context
