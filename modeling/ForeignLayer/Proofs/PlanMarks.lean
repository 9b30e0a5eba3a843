import ForeignLayer.Predicate.Plan
import Mathlib

/-!
# What a plan leaves to the caller

Every predicate of a list is the one whose box is taken, or it is one of the others, and of these
just the ones with a clause are taken. So whatever is asked of all predicates of a list may be asked
of the ones that are left, of the one whose box is taken and of the ones with a clause.
-/

namespace ForeignLayer

/-! ## Elements in places -/

section Kept

variable {α : Type}

/-- The elements of a list in the places that are kept. -/
def keptAt (keep : Nat → Bool) (xs : List α) : List α :=
  (xs.zipIdx.filter fun p ↦ keep p.2).map Prod.fst

theorem keptAt_cons (keep : Nat → Bool) (x : α) (xs : List α) :
    keptAt keep (x :: xs) =
      (if keep 0 then [x] else []) ++ keptAt (fun i ↦ keep (i + 1)) xs := by
  have hrest : ((xs.zipIdx 1).filter fun p ↦ keep p.2).map Prod.fst =
      keptAt (fun i ↦ keep (i + 1)) xs := by
    rw [keptAt, List.zipIdx_succ, List.filter_map, List.map_map]
    rfl
  rw [keptAt, List.zipIdx_cons, List.filter_cons, Nat.zero_add]
  split
  · rw [List.map_cons, hrest, List.singleton_append]
  · rw [hrest, List.nil_append]

theorem mem_keptAt {keep : Nat → Bool} {xs : List α} {x : α} :
    x ∈ keptAt keep xs ↔ ∃ i, xs[i]? = some x ∧ keep i = true := by
  rw [keptAt, List.mem_map]
  constructor
  · rintro ⟨⟨x', i⟩, hmem, rfl⟩
    obtain ⟨hplace, hkeep⟩ := List.mem_filter.mp hmem
    exact ⟨i, List.mk_mem_zipIdx_iff_getElem?.mp hplace, hkeep⟩
  · rintro ⟨i, hplace, hkeep⟩
    exact ⟨(x, i), List.mem_filter.mpr ⟨List.mk_mem_zipIdx_iff_getElem?.mpr hplace, hkeep⟩, rfl⟩

theorem filterMap_getElem?_filter_range (keep : Nat → Bool) (xs : List α) :
    ((List.range xs.length).filter keep).filterMap (xs[·]?) = keptAt keep xs := by
  induction xs generalizing keep with
  | nil => rfl
  | cons x xs ih =>
    have hrest : (((List.range xs.length).map (· + 1)).filter keep).filterMap ((x :: xs)[·]?) =
        keptAt (fun i ↦ keep (i + 1)) xs := by
      rw [List.filter_map, List.filterMap_map, ← ih]
      rfl
    rw [keptAt_cons, List.length_cons, List.range_succ_eq_map, List.filter_cons]
    split
    · rw [List.filterMap_cons_some List.getElem?_cons_zero]
      exact congrArg (x :: ·) hrest
    · exact hrest

/-- What is left beside the marks stands in the places whose mark is not set. -/
theorem filterMap_zip_marks (xs : List α) (marks : List Bool) :
    ((xs.zip marks).filterMap fun (x, marked) ↦ if marked then none else some x) =
      keptAt (fun i ↦ marks[i]? == some false) xs := by
  induction xs generalizing marks with
  | nil => rfl
  | cons x xs ih =>
    rw [keptAt_cons]
    cases marks with
    | nil =>
      rw [List.zip_nil_right]
      exact List.zip_nil_right (l := xs) ▸ ih []
    | cons marked marks =>
      rw [List.zip_cons_cons, List.filterMap_cons, ih]
      cases marked <;> rfl

end Kept

namespace Predicate

/-! ## Overlaps -/

theorem firstOverlap?_eq_some {table : Catalog.Table} {bindings : Bindings}
    {predicates : List Expr} {i : Nat} {spatial : SpatialFilter}
    (h : firstOverlap? table bindings predicates = some (i, spatial)) :
    ∃ column e, table.geometry? = some column ∧ predicates[i]? = some e ∧
      overlap? column bindings e = some spatial := by
  obtain ⟨column, hcolumn, hfound⟩ := Option.bind_eq_some_iff.mp h
  obtain ⟨⟨e, j⟩, hmem, hmap⟩ := List.exists_of_findSome?_eq_some hfound
  obtain ⟨s, hs, hpair⟩ := Option.map_eq_some_iff.mp hmap
  cases hpair
  exact ⟨column, e, hcolumn, List.mk_mem_zipIdx_iff_getElem?.mp hmem, hs⟩

/-! ## Marks -/

theorem lookup_zip_map {g : Nat → Bool} {places : List Nat} {i : Nat} (h : i ∈ places) :
    (places.zip (places.map g)).lookup i = some (g i) := by
  induction places with
  | nil => cases h
  | cons j places ih =>
    rw [List.map_cons, List.zip_cons_cons, List.lookup_cons]
    by_cases hij : i = j
    · rw [hij, beq_self_eq_true]
    · rw [beq_eq_false_iff_ne.mpr hij]
      exact ih ((List.mem_cons.mp h).resolve_left hij)

theorem map_filterMap_getElem? {α : Type} {g : α → Bool} {xs : List α} {places : List Nat}
    (h : ∀ i ∈ places, i < xs.length) :
    (places.filterMap (xs[·]?)).map g = places.map fun i ↦ (xs[i]?.map g).getD false := by
  induction places with
  | nil => rfl
  | cons i places ih =>
    rw [List.forall_mem_cons] at h
    rw [List.filterMap_cons, List.getElem?_eq_getElem h.1, List.map_cons, List.map_cons, ih h.2,
      List.getElem?_eq_getElem h.1]
    rfl

namespace Plan

variable {ctx : Context} {predicates : List Expr}

/-- The predicates that are left when the one whose box is taken is out. -/
def others (ctx : Context) (predicates : List Expr) : List Expr :=
  (extract ctx.table ctx.bindings predicates).remaining.filterMap (predicates[·]?)

/-- Which mark the predicate in a place gets. -/
def mark (ctx : Context) (predicates : List Expr) (i : Nat) : Bool :=
  (extract ctx.table ctx.bindings predicates).found.map Prod.fst == some i ||
    (predicates[i]?.map fun e ↦ (ctx.clause? e).isSome).getD false

theorem mem_remaining {i : Nat} :
    i ∈ (extract ctx.table ctx.bindings predicates).remaining ↔ i < predicates.length ∧
      (extract ctx.table ctx.bindings predicates).found.map Prod.fst ≠ some i := by
  rw [extract, List.mem_filter, List.mem_range, bne_iff_ne]

theorem others_eq_keptAt (ctx : Context) (predicates : List Expr) : others ctx predicates =
    keptAt (fun i ↦ (extract ctx.table ctx.bindings predicates).found.map Prod.fst != some i)
      predicates :=
  filterMap_getElem?_filter_range _ predicates

theorem mem_others {e : Expr} : e ∈ others ctx predicates ↔ ∃ i, predicates[i]? = some e ∧
    (extract ctx.table ctx.bindings predicates).found.map Prod.fst ≠ some i := by
  simp only [others_eq_keptAt, mem_keptAt, bne_iff_ne]

theorem consumed_of (ctx : Context) (predicates : List Expr) :
    (of ctx predicates).consumed = (List.range predicates.length).map (mark ctx predicates) := by
  refine List.map_congr_left fun i hi ↦ ?_
  rw [List.mem_range] at hi
  rw [mark]
  by_cases hfound :
      ((extract ctx.table ctx.bindings predicates).found.map Prod.fst == some i) = true
  · rw [hfound, Bool.true_or, Bool.true_or]
  · rw [Bool.not_eq_true] at hfound
    rw [hfound, Bool.false_or, Bool.false_or]
    have hmem := mem_remaining.mpr ⟨hi, beq_eq_false_iff_ne.mp hfound⟩
    have hrendered : (render ctx (others ctx predicates)).consumed =
        (extract ctx.table ctx.bindings predicates).remaining.map fun i ↦
          (predicates[i]?.map fun e ↦ (ctx.clause? e).isSome).getD false := by
      rw [render, List.map_map]
      exact map_filterMap_getElem? fun i hi ↦ (mem_remaining.mp hi).1
    show (((extract ctx.table ctx.bindings predicates).remaining.zip
      (render ctx (others ctx predicates)).consumed).lookup i).getD false = _
    rw [hrendered, lookup_zip_map hmem, Option.getD_some]

theorem getElem?_consumed {i : Nat} {e : Expr} (he : predicates[i]? = some e) :
    (of ctx predicates).consumed[i]? = some (mark ctx predicates i) := by
  rw [consumed_of, List.getElem?_map, List.getElem?_range (List.getElem?_eq_some_iff.mp he).1]
  rfl

theorem unconsumed_eq (plan : Plan) (xs : List Expr) :
    plan.unconsumed xs = keptAt (fun i ↦ plan.consumed[i]? == some false) xs :=
  filterMap_zip_marks xs plan.consumed

theorem mem_unconsumed {e : Expr} : e ∈ (of ctx predicates).unconsumed predicates ↔
    ∃ i, predicates[i]? = some e ∧ mark ctx predicates i = false := by
  rw [unconsumed_eq, mem_keptAt]
  refine exists_congr fun i ↦ and_congr_right fun he ↦ ?_
  rw [getElem?_consumed he, beq_iff_eq, Option.some_inj]

/-- **Nothing is lost between the marks.** What holds of the predicates that are left to the caller,
of the one whose box is taken and of the others with a clause holds of all predicates. -/
theorem forall_mem_iff (P : Expr → Prop) :
    (∀ e ∈ predicates, P e) ↔ (∀ e ∈ (of ctx predicates).unconsumed predicates, P e) ∧
      (∀ i spatial e, (extract ctx.table ctx.bindings predicates).found = some (i, spatial) →
        predicates[i]? = some e → P e) ∧
      ∀ e ∈ others ctx predicates, (ctx.clause? e).isSome = true → P e := by
  constructor
  · intro h
    refine ⟨fun e he ↦ ?_, fun i _ e _ he ↦ h e (List.mem_of_getElem? he), fun e he _ ↦ ?_⟩
    · obtain ⟨i, hi, -⟩ := mem_unconsumed.mp he
      exact h e (List.mem_of_getElem? hi)
    · obtain ⟨i, hi, -⟩ := mem_others.mp he
      exact h e (List.mem_of_getElem? hi)
  · -- the place of a predicate decides, since the same predicate may stand in several places
    rintro ⟨hleft, hfound, hothers⟩ e he
    obtain ⟨i, hi⟩ := List.mem_iff_getElem?.mp he
    cases hmark : mark ctx predicates i with
    | false => exact hleft e (mem_unconsumed.mpr ⟨i, hi, hmark⟩)
    | true =>
      rw [mark, hi, Option.map_some, Option.getD_some, Bool.or_eq_true, beq_iff_eq] at hmark
      by_cases hplace : (extract ctx.table ctx.bindings predicates).found.map Prod.fst = some i
      · obtain ⟨⟨j, spatial⟩, hsome, rfl⟩ := Option.map_eq_some_iff.mp hplace
        exact hfound _ _ e hsome hi
      · exact hothers e (mem_others.mpr ⟨i, hi, hplace⟩) (hmark.resolve_left hplace)

end Plan

end Predicate

end ForeignLayer
