import ForeignLayer.Predicate.Fold
import ForeignLayer.Proofs.Results

/-!
# What constant geometries are made of

A constant geometry is spelled out with constants, and nothing else of the expression is looked at:
a function that makes a geometry takes its own arguments and the tag behind them, and the function
that tags one takes the geometry and the tag. Further arguments are spare. So two bindings that give
the operands the same values give the same geometry, and where there is a geometry, every operand is
a constant.
-/

namespace ForeignLayer

/-! ## Operands -/

namespace Expr

/-- The operands that a constant geometry is made of. -/
def operands : Expr → List Expr
  | call name _ args =>
    if Text.lower name = tagFunction then
      match args with
      | e :: code :: _ => e.operands ++ [code]
      | _ => []
    else match GeometryMaker.ofName? name with
      | some f => args.take (f.arity + 1)
      | none => []
  | e => [e]

/-- The arguments that a constant geometry does not look at. -/
def spares : Expr → List Expr
  | call name _ args =>
    if Text.lower name = tagFunction then
      match args with
      | e :: _ :: rest => e.spares ++ rest
      | _ => args
    else match GeometryMaker.ofName? name with
      | some f => args.drop (f.arity + 1)
      | none => args
  | _ => []

/-- Whether an expression is a constant. -/
def IsConstant (bindings : Bindings) (e : Expr) : Prop := (e.constant? bindings).isSome = true

theorem IsConstant.of_bind {bindings : Bindings} {e : Expr} {α : Type} {read : Constant → Option α}
    {a : α} (h : (e.constant? bindings).bind read = some a) : e.IsConstant bindings := by
  obtain ⟨c, hc, -⟩ := Option.bind_eq_some_iff.mp h
  rw [IsConstant, hc, Option.isSome_some]

theorem IsConstant.induction {bindings : Bindings} {P : Expr → Prop}
    (hliteral : ∀ value, P (.literal value)) (hplaceholder : ∀ id, P (.placeholder id))
    (hcast : ∀ e type, P e → P (.cast e type)) {e : Expr} (h : e.IsConstant bindings) : P e := by
  unfold IsConstant at h
  fun_induction constant? bindings e with
  | case1 value => exact hliteral value
  | case2 id => exact hplaceholder id
  | case3 e type ih =>
    obtain ⟨c, hc⟩ := Option.isSome_iff_exists.mp h
    exact hcast e type (ih (IsConstant.of_bind hc))
  | case4 => cases h

end Expr

/-! ## Making geometries -/

namespace GeometryMaker

variable {f : GeometryMaker} {args : List Expr} {bindings bindings' : Bindings} {g : Geometry}

theorem make?_congr
    (h : ∀ e ∈ args.take f.arity, e.constant? bindings = e.constant? bindings') :
    f.make? bindings args = f.make? bindings' args := by
  unfold make?
  split <;> simp only [arity, List.take_succ_cons, List.take_zero, List.forall_mem_cons] at h
  · simp only [Expr.text?, h]
  · simp only [Expr.bytes?, h]
  · simp only [Expr.finite?, h]
  · simp only [Expr.finite?, h]
  · rfl

theorem isConstant_of_make? (h : f.make? bindings args = .ok (some g)) :
    ∀ e ∈ args.take f.arity, e.IsConstant bindings := by
  have hnil (e : Expr) (he : e ∈ []) : e.IsConstant bindings := absurd he List.not_mem_nil
  unfold make? at h
  split at h
  · split at h
    · next ha => exact List.forall_mem_cons.mpr ⟨.of_bind ha, hnil⟩
    · cases h
  · split at h
    · next ha => exact List.forall_mem_cons.mpr ⟨.of_bind ha, hnil⟩
    · cases h
  · split at h
    · next ha hb =>
      simp only [arity, List.take_succ_cons, List.take_zero, List.forall_mem_cons]
      exact ⟨.of_bind ha, .of_bind hb, hnil⟩
    · cases h
  · split at h
    · next ha hb hc hd =>
      simp only [arity, List.take_succ_cons, List.take_zero, List.forall_mem_cons]
      exact ⟨.of_bind ha, .of_bind hb, .of_bind hc, .of_bind hd, hnil⟩
    · cases h
  · cases h

/-- The arguments that are looked at are those of the geometry and the tag. -/
theorem forall_mem_take_succ {α : Type} {P : α → Prop} {xs : List α} {n : Nat} :
    (∀ x ∈ xs.take (n + 1), P x) ↔ (∀ x ∈ xs.take n, P x) ∧ ∀ x, xs[n]? = some x → P x := by
  rw [List.take_add_one, List.forall_mem_append]
  simp only [Option.mem_toList]

theorem makeTagged?_congr
    (h : ∀ e ∈ args.take (f.arity + 1), e.constant? bindings = e.constant? bindings') :
    f.makeTagged? bindings args = f.makeTagged? bindings' args := by
  obtain ⟨hmake, htag⟩ := forall_mem_take_succ.mp h
  rw [makeTagged?, makeTagged?, make?_congr hmake]
  cases f.make? bindings' args with
  | error fault => rfl
  | ok made =>
    dsimp only [bind, Except.bind]
    split
    · next g arg harg =>
      have hcode : arg.int32? bindings = arg.int32? bindings' := by
        simp only [Expr.int32?, htag arg harg]
      rw [hcode]
    · rfl

theorem isConstant_of_makeTagged? (h : f.makeTagged? bindings args = .ok (some g)) :
    ∀ e ∈ args.take (f.arity + 1), e.IsConstant bindings := by
  obtain ⟨made, hmake, h⟩ := bind_eq_ok.mp h
  split at h
  · next g' arg harg =>
    refine forall_mem_take_succ.mpr ⟨isConstant_of_make? hmake, fun e he ↦ ?_⟩
    cases harg.symm.trans he
    obtain ⟨code, hcode, -⟩ := Option.map_eq_some_iff.mp (Except.ok.inj h)
    exact .of_bind hcode
  · next hnot =>
    cases h
    refine forall_mem_take_succ.mpr ⟨isConstant_of_make? hmake, fun e he ↦ ?_⟩
    exact absurd he (hnot g e rfl)

end GeometryMaker

namespace Expr

variable {bindings bindings' : Bindings} {name : String} {volatility : Volatility}
  {args : List Expr}

theorem operands_tag (hname : Text.lower name = tagFunction) (e code : Expr) (rest : List Expr) :
    (call name volatility (e :: code :: rest)).operands = e.operands ++ [code] := by
  rw [operands, if_pos hname]

theorem operands_maker (hname : Text.lower name ≠ tagFunction) {f : GeometryMaker}
    (hmaker : GeometryMaker.ofName? name = some f) :
    (call name volatility args).operands = args.take (f.arity + 1) := by
  unfold operands
  rw [if_neg hname, hmaker]

theorem operands_of_ne_call {e : Expr}
    (h : ∀ name volatility args, e = call name volatility args → False) : e.operands = [e] := by
  unfold operands
  split
  · exact (h _ _ _ rfl).elim
  · rfl

theorem geometry?_of_ne_call {e : Expr}
    (h : ∀ name volatility args, e = call name volatility args → False) :
    e.geometry? bindings = match e.bytes? bindings with
      | some bs => some <$> Geometry.ofBytes bs
      | none => return none := by
  unfold geometry?
  split
  · exact (h _ _ _ rfl).elim
  · rfl

/-- A constant geometry depends on its operands only. -/
theorem geometry?_congr (e : Expr)
    (h : ∀ o ∈ e.operands, o.constant? bindings = o.constant? bindings') :
    e.geometry? bindings = e.geometry? bindings' := by
  fun_induction geometry? bindings e with
  | case1 name args =>
    unfold geometry?
    rw [if_pos rfl]
  | case2 name volatility hvolatility hname e code rest hcode =>
    rw [operands_tag hname, List.forall_mem_append, List.forall_mem_singleton] at h
    rw [int32?, h.2, ← int32?] at hcode
    rw [Expr.geometry?, if_neg hvolatility, if_pos hname]
    simp only [hcode]
  | case3 name volatility hvolatility hname e arg rest code hcode ih =>
    rw [operands_tag hname, List.forall_mem_append, List.forall_mem_singleton] at h
    rw [int32?, h.2, ← int32?] at hcode
    rw [Expr.geometry?, if_neg hvolatility, if_pos hname]
    simp only [hcode, ih h.1]
  | case4 name volatility args hvolatility hname hargs =>
    unfold geometry?
    rw [if_neg hvolatility, if_pos hname]
    split
    · next e code rest => exact (hargs e code rest rfl).elim
    · rfl
  | case5 name volatility args hvolatility hname f hmaker =>
    rw [operands_maker hname hmaker] at h
    unfold geometry?
    rw [if_neg hvolatility, if_neg hname, hmaker]
    exact GeometryMaker.makeTagged?_congr h
  | case6 name volatility args hvolatility hname hmaker =>
    unfold geometry?
    rw [if_neg hvolatility, if_neg hname, hmaker]
  | case7 e hcall bs hbytes =>
    rw [operands_of_ne_call hcall, List.forall_mem_singleton] at h
    rw [bytes?, h, ← bytes?] at hbytes
    rw [geometry?_of_ne_call hcall, hbytes]
  | case8 e hcall hbytes =>
    rw [operands_of_ne_call hcall, List.forall_mem_singleton] at h
    rw [bytes?, h, ← bytes?] at hbytes
    rw [geometry?_of_ne_call hcall, hbytes]

theorem exists_of_map {x : Except Geometry.Fault (Option Geometry)} {f : Geometry → Geometry}
    {g : Geometry} (h : (do return (← x).map f) = Except.ok (some g)) :
    ∃ g', x = .ok (some g') := by
  obtain ⟨found, hfound, h⟩ := bind_eq_ok.mp h
  obtain ⟨g', rfl, -⟩ := Option.map_eq_some_iff.mp (Except.ok.inj h)
  exact ⟨g', hfound⟩

/-- What has a constant geometry has constants for operands. -/
theorem isConstant_of_geometry? {e : Expr} {g : Geometry}
    (h : e.geometry? bindings = .ok (some g)) : ∀ o ∈ e.operands, o.IsConstant bindings := by
  fun_induction geometry? bindings e generalizing g with
  | case1 | case2 | case4 | case6 | case8 => cases h
  | case3 name volatility hvolatility hname e arg rest code hcode ih =>
    obtain ⟨g', hgeometry⟩ := exists_of_map h
    rw [operands_tag hname, List.forall_mem_append, List.forall_mem_singleton]
    exact ⟨ih hgeometry, .of_bind hcode⟩
  | case5 name volatility args hvolatility hname f hmaker =>
    rw [operands_maker hname hmaker]
    exact GeometryMaker.isConstant_of_makeTagged? h
  | case7 e hcall bs hbytes =>
    rw [operands_of_ne_call hcall, List.forall_mem_singleton]
    exact .of_bind hbytes

end Expr

end ForeignLayer
