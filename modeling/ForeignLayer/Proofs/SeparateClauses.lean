import ForeignLayer.Proofs.Overlaps

/-!
# Predicates one by one

A plan looks at its predicates as a list in one respect only: the first overlap with the geometry
column is taken out of it. Every other predicate gets the filter that it has on its own, wherever it
stands and whatever stands beside it, and the caller is left with the predicates that have none.

The filters are made of a list that is shorter than the marks, so places have to be carried back
and forth between them. Both the predicates that are rendered and those that are left are read here
as the elements of the one list in the places that are kept, and two such readings are compared
place by place.
-/

namespace ForeignLayer

/-! ## Elements in places -/

section Places

variable {α β : Type}

theorem keptAt_of_forall {keep : Nat → Bool} (h : ∀ i, keep i = true) (xs : List α) :
    keptAt keep xs = xs := by
  rw [keptAt, List.filter_eq_self.mpr fun p _ ↦ h p.2, List.zipIdx_map_fst]

theorem keptAt_findIdx? (p : α → Bool) (xs : List α) :
    keptAt (fun i ↦ xs.findIdx? p != some i) xs = xs.eraseP p := by
  induction xs with
  | nil => rfl
  | cons x xs ih =>
    rw [keptAt_cons, List.findIdx?_cons]
    by_cases hp : p x = true
    · rw [List.eraseP_cons_of_pos hp, if_pos hp, bne_self_eq_false, if_neg Bool.false_ne_true,
        List.nil_append]
      exact keptAt_of_forall (fun i ↦ rfl) xs
    · have hnext (i : Nat) :
          ((xs.findIdx? p).map (· + 1) != some (i + 1)) = (xs.findIdx? p != some i) := by
        cases xs.findIdx? p <;> simp [bne]
      have hfirst : ((xs.findIdx? p).map (· + 1) != some 0) = true := by
        cases xs.findIdx? p <;> rfl
      rw [List.eraseP_cons_of_neg hp, if_neg hp, if_pos hfirst, funext hnext, ih,
        List.singleton_append]

theorem findSome?_zipIdx (f : α → Option β) (xs : List α) (start : Nat) :
    ((xs.zipIdx start).findSome? fun (x, i) ↦ (f x).map fun y ↦ (i, y)) =
      (xs.findIdx? fun x ↦ (f x).isSome).bind fun i ↦
        (xs[i]?.bind f).map fun y ↦ (start + i, y) := by
  induction xs generalizing start with
  | nil => rfl
  | cons x xs ih =>
    rw [List.zipIdx_cons, List.findSome?_cons, List.findIdx?_cons, ih]
    cases hx : f x with
    | some y =>
      dsimp only
      rw [hx, Option.map_some, Option.isSome_some, if_pos rfl, Option.bind_some,
        List.getElem?_cons_zero, Option.bind_some, hx, Option.map_some]
      rfl
    | none =>
      have hnext (i : Nat) : start + 1 + i = start + (i + 1) := by omega
      dsimp only
      rw [hx, Option.map_none, Option.isSome_none, if_neg Bool.false_ne_true, Option.bind_map]
      simp only [hnext]
      rfl

theorem countP_marks_add_length {xs : List α} {marks : List Bool}
    (h : marks.length = xs.length) : marks.countP id +
      ((xs.zip marks).filterMap fun (x, marked) ↦ if marked then none else some x).length =
        xs.length := by
  induction xs generalizing marks with
  | nil =>
    rw [List.eq_nil_of_length_eq_zero h]
    rfl
  | cons x xs ih =>
    cases marks with
    | nil => cases h
    | cons marked marks =>
      have hrest := ih (Nat.succ.inj h)
      rw [List.zip_cons_cons, List.filterMap_cons, List.length_cons, ← hrest]
      cases marked with
      | true =>
        rw [List.countP_cons_of_pos rfl]
        exact Nat.add_right_comm _ _ _
      | false =>
        rw [List.countP_cons_of_neg (by decide)]
        rfl

/-- Places that are kept for their elements too keep a part of what is kept without. -/
theorem keptAt_eq_filter {keep keep' : Nat → Bool} {q : α → Bool} {xs : List α}
    (h : ∀ i x, xs[i]? = some x → keep' i = (keep i && q x)) :
    keptAt keep' xs = (keptAt keep xs).filter q := by
  rw [keptAt, keptAt, List.filter_map, List.filter_filter]
  refine congrArg (List.map Prod.fst) (List.filter_congr fun p hp ↦ ?_)
  rw [h p.2 p.1 (List.mk_mem_zipIdx_iff_getElem?.mp hp), Bool.and_comm]
  rfl

theorem filterMap_eraseP {p : α → Bool} {f : α → Option β}
    (h : ∀ x, p x = true → f x = none) (xs : List α) :
    (xs.eraseP p).filterMap f = xs.filterMap f := by
  induction xs with
  | nil => rfl
  | cons x xs ih =>
    by_cases hp : p x = true
    · rw [List.eraseP_cons_of_pos hp, List.filterMap_cons, h x hp]
    · rw [List.eraseP_cons_of_neg hp, List.filterMap_cons, List.filterMap_cons, ih]

end Places

namespace Predicate

open ForeignLayer.Filter (Clause)

/-! ## Predicates on their own -/

namespace Context

variable (ctx : Context)

/-- The box that a predicate asks for, if it is an overlap with the geometry column. -/
def box? (e : Expr) : Option SpatialFilter :=
  ctx.table.geometry?.bind fun column ↦ overlap? column ctx.bindings e

/-- Whether a predicate is an overlap with the geometry column. -/
def isOverlap (e : Expr) : Bool := (ctx.box? e).isSome

/-- The attribute filter of a predicate on its own. -/
def alone? (e : Expr) : Option String := (render ctx [e]).filter

variable {ctx}

theorem alone?_eq (e : Expr) : ctx.alone? e = (ctx.clause? e).map fun r ↦ r.1.text := by
  rw [alone?, render, List.map_singleton]
  cases ctx.clause? e <;> rfl

/-- An overlap has no clause. -/
theorem clause?_of_isOverlap {e : Expr} (h : ctx.isOverlap e = true) : ctx.clause? e = none := by
  obtain ⟨spatial, hbox⟩ := Option.isSome_iff_exists.mp h
  obtain ⟨column, -, hoverlap⟩ := Option.bind_eq_some_iff.mp hbox
  exact clause?_eq_none_of_overlap? hoverlap

end Context

/-! ## Filters together -/

/-- The filter that asks for all of several filters: brackets go around each of them unless it is
the only one. -/
def conjunction : List String → Option String
  | [] => none
  | [filter] => some filter
  | filters => some (" AND ".intercalate (filters.map fun filter ↦ "(" ++ filter ++ ")"))

theorem intercalate_cons {α : Type} (sep xs : List α) (xss : List (List α)) :
    sep.intercalate (xs :: xss) = xs ++ xss.flatMap (sep ++ ·) := by
  induction xss generalizing xs with
  | nil => exact List.intercalate_singleton.trans (List.append_nil xs).symm
  | cons ys xss ih =>
    rw [List.intercalate_cons_cons, ih, List.flatMap_cons]
    simp only [List.append_assoc]

theorem joined_eq (cs : List Clause) : Clause.joined cs = conjunction (cs.map Clause.text) := by
  match cs with
  | [] => rfl
  | [c] => rfl
  | c :: d :: cs =>
    have hbrackets (c : Clause) : ("(" ++ c.text ++ ")").toList = ['('] ++ c.chars ++ [')'] := by
      simp [Clause.text]
    have hfurther (c : Clause) : " AND (".toList ++ c.chars ++ [')'] =
        " AND ".toList ++ ("(" ++ c.text ++ ")").toList := by
      rw [hbrackets]
      rfl
    refine congrArg some (String.toList_inj.mp ?_)
    rw [String.toList_intercalate, List.map_map, List.map_cons, intercalate_cons, List.map_map,
      List.flatMap_map, Clause.furtherChars, String.toList_ofList, ← hbrackets]
    exact congrArg _ (List.flatMap_congr fun c _ ↦ hfurther c)

/-- **Predicates are rendered one by one.** -/
theorem filter_render (ctx : Context) (predicates : List Expr) :
    (render ctx predicates).filter = conjunction (predicates.filterMap ctx.alone?) := by
  rw [render, joined_eq, List.filterMap_map, List.map_filterMap, List.map_filterMap]
  refine congrArg conjunction (List.filterMap_congr fun e _ ↦ ?_)
  rw [Context.alone?_eq, Option.map_map]
  rfl

namespace Plan

variable {ctx : Context} {predicates : List Expr}

/-! ## The overlap that is taken -/

theorem firstOverlap?_eq (ctx : Context) (predicates : List Expr) :
    firstOverlap? ctx.table ctx.bindings predicates =
      (predicates.findIdx? ctx.isOverlap).bind fun i ↦
        (predicates[i]?.bind ctx.box?).map fun spatial ↦ (i, spatial) := by
  have hsearch := findSome?_zipIdx ctx.box? predicates 0
  simp only [Nat.zero_add] at hsearch
  refine Eq.trans ?_ hsearch
  cases hcolumn : ctx.table.geometry? with
  | none =>
    have hbox : ctx.box? = fun _ ↦ none := funext fun e ↦ by rw [Context.box?, hcolumn]; rfl
    rw [firstOverlap?, hcolumn, hbox]
    exact (List.findSome?_eq_none_iff.mpr fun _ _ ↦ rfl).symm
  | some column =>
    have hbox : ctx.box? = overlap? column ctx.bindings :=
      funext fun e ↦ by rw [Context.box?, hcolumn]; rfl
    rw [firstOverlap?, hcolumn, hbox]
    rfl

/-- The overlap that is taken is the first one. -/
theorem place_found (ctx : Context) (predicates : List Expr) :
    (extract ctx.table ctx.bindings predicates).found.map Prod.fst =
      predicates.findIdx? ctx.isOverlap := by
  rw [extract, firstOverlap?_eq]
  cases hplace : predicates.findIdx? ctx.isOverlap with
  | none => rfl
  | some i =>
    obtain ⟨hlt, hoverlap, -⟩ := List.findIdx?_eq_some_iff_getElem.mp hplace
    obtain ⟨spatial, hbox⟩ := Option.isSome_iff_exists.mp hoverlap
    rw [Option.bind_some, List.getElem?_eq_getElem hlt, Option.bind_some, hbox]
    rfl

theorem spatial_of (ctx : Context) (predicates : List Expr) : (of ctx predicates).spatial =
    (predicates.findIdx? ctx.isOverlap).bind fun i ↦ predicates[i]?.bind ctx.box? := by
  have hfound : (of ctx predicates).spatial =
      (firstOverlap? ctx.table ctx.bindings predicates).map Prod.snd := rfl
  rw [hfound, firstOverlap?_eq, Option.map_bind]
  refine congrArg _ (funext fun i ↦ ?_)
  exact (Option.map_map _ _ _).trans Option.map_id'

theorem others_eq (ctx : Context) (predicates : List Expr) :
    others ctx predicates = predicates.eraseP ctx.isOverlap := by
  rw [others_eq_keptAt, place_found, keptAt_findIdx?]

theorem filterMap_clause?_others (ctx : Context) (predicates : List Expr) :
    (others ctx predicates).filterMap ctx.clause? = predicates.filterMap ctx.clause? := by
  rw [others_eq]
  exact filterMap_eraseP (fun e he ↦ Context.clause?_of_isOverlap he) predicates

/-! ## Marks -/

theorem mark_eq {i : Nat} {e : Expr} (he : predicates[i]? = some e) : mark ctx predicates i =
    (predicates.findIdx? ctx.isOverlap == some i || (ctx.alone? e).isSome) := by
  rw [mark, place_found, he, Option.map_some, Option.getD_some, Context.alone?_eq,
    Option.isSome_map]

/-- **A plan lines up with its predicates**, and treats each of them but the first overlap as if it
stood alone. -/
structure LinesUp (ctx : Context) (predicates : List Expr) (plan : Plan) : Prop where
  /-- There is one mark for every predicate. -/
  length : plan.consumed.length = predicates.length
  /-- Marked are the first overlap and the predicates with a filter on their own. -/
  marked : ∀ (i : Nat) (e : Expr), predicates[i]? = some e →
    (plan.consumed[i]? = some true ↔
      predicates.findIdx? ctx.isOverlap = some i ∨ (ctx.alone? e).isSome = true)
  /-- The box is the one of the first overlap. -/
  spatial : plan.spatial =
    (predicates.findIdx? ctx.isOverlap).bind fun i ↦ predicates[i]?.bind ctx.box?
  /-- There is a box exactly if there is an overlap. -/
  spatial_isSome : plan.spatial.isSome = (predicates.findIdx? ctx.isOverlap).isSome
  /-- The attribute filter asks for the filters of the other predicates on their own. -/
  filter : plan.filter =
    conjunction ((predicates.eraseP ctx.isOverlap).filterMap ctx.alone?)
  /-- Left to the caller are the predicates in the places that are not marked. -/
  unconsumed : plan.unconsumed predicates =
    keptAt (fun i ↦ plan.consumed[i]? == some false) predicates
  /-- These are the others without a filter on their own. -/
  remaining : plan.unconsumed predicates =
    (predicates.eraseP ctx.isOverlap).filter fun e ↦ (ctx.alone? e).isNone
  /-- Every predicate is taken or left. -/
  count : plan.numConsumed + (plan.unconsumed predicates).length = predicates.length
  /-- What stands beside a predicate that is no overlap does not matter for its mark. -/
  steady : ∀ (others : List Expr) (i j : Nat) (e : Expr), predicates[i]? = some e →
    others[j]? = some e → ctx.isOverlap e = false →
      plan.consumed[i]? = (of ctx others).consumed[j]?
  /-- Any further overlap is left to the caller. -/
  further : ∀ (i : Nat) (e : Expr), predicates[i]? = some e → ctx.isOverlap e = true →
    predicates.findIdx? ctx.isOverlap ≠ some i → plan.consumed[i]? = some false

theorem length_consumed (ctx : Context) (predicates : List Expr) :
    (of ctx predicates).consumed.length = predicates.length := by
  rw [consumed_of, List.length_map, List.length_range]

/-- The predicates that are left are the others without a filter on their own. -/
theorem unconsumed_of (ctx : Context) (predicates : List Expr) :
    (of ctx predicates).unconsumed predicates =
      (predicates.eraseP ctx.isOverlap).filter fun e ↦ (ctx.alone? e).isNone := by
  rw [unconsumed_eq, ← keptAt_findIdx?]
  refine keptAt_eq_filter fun i e he ↦ ?_
  rw [getElem?_consumed he, mark_eq he, bne]
  cases predicates.findIdx? ctx.isOverlap == some i <;> cases ctx.alone? e <;> rfl

/-- **Plans line up with their predicates.** -/
theorem linesUp_of (ctx : Context) (predicates : List Expr) :
    LinesUp ctx predicates (of ctx predicates) where
  length := length_consumed ctx predicates
  marked i e he := by
    rw [getElem?_consumed he, mark_eq he, Option.some_inj, Bool.or_eq_true, beq_iff_eq]
  spatial := spatial_of ctx predicates
  spatial_isSome := by
    have hplace := place_found ctx predicates
    have hspatial : (of ctx predicates).spatial =
        (extract ctx.table ctx.bindings predicates).found.map Prod.snd := rfl
    rw [← hplace, hspatial, Option.isSome_map, Option.isSome_map]
  filter := by
    rw [← others_eq]
    exact filter_render ctx (others ctx predicates)
  unconsumed := unconsumed_eq _ predicates
  remaining := unconsumed_of ctx predicates
  count := countP_marks_add_length (length_consumed ctx predicates)
  steady others i j e hi hj hoverlap := by
    have hplace {es : List Expr} {k : Nat} (hk : es[k]? = some e) :
        es.findIdx? ctx.isOverlap ≠ some k := by
      intro hfound
      obtain ⟨hlt, hpos, -⟩ := List.findIdx?_eq_some_iff_getElem.mp hfound
      rw [List.getElem?_eq_getElem hlt, Option.some_inj] at hk
      rw [hk, hoverlap] at hpos
      cases hpos
    rw [getElem?_consumed hi, getElem?_consumed hj, mark_eq hi, mark_eq hj,
      beq_eq_false_iff_ne.mpr (hplace hi), beq_eq_false_iff_ne.mpr (hplace hj)]
  further i e he hoverlap hplace := by
    rw [getElem?_consumed he, mark_eq he, beq_eq_false_iff_ne.mpr hplace,
      Context.alone?_eq, Context.clause?_of_isOverlap hoverlap]
    rfl

end Plan

end Predicate

end ForeignLayer
