import ForeignLayer.Proofs.ClauseForms
import ForeignLayer.Proofs.ConstantGeometries
import ForeignLayer.Proofs.Overlaps

/-!
# The placeholders that a plan depends on

A plan is worked out from the values of placeholders, and names the ones that its attribute filter
depends on. If all other values are taken away, every clause stays as it is, since a clause is made
of its constants and a constant knows its placeholder. The box of a plan comes from placeholders as
well, but does not name them. So a plan depends on the placeholders that it names and on those of
its box, and on no others.
-/

namespace ForeignLayer

/-! ## Taking values away -/

/-- The values of some placeholders only. -/
def Bindings.restrict (bindings : Bindings) (ids : List String) : Bindings :=
  bindings.filter fun b ↦ ids.contains b.1

theorem Bindings.lookup_restrict (bindings : Bindings) (ids : List String) (id : String) :
    (bindings.restrict ids).lookup id = if id ∈ ids then bindings.lookup id else none := by
  induction bindings with
  | nil =>
    split <;> rfl
  | cons b rest ih =>
    obtain ⟨id', value⟩ := b
    rw [restrict, List.filter_cons]
    by_cases hid : id = id'
    · subst hid
      by_cases hmem : id ∈ ids
      · rw [if_pos (List.contains_iff_mem.mpr hmem), if_pos hmem, List.lookup_cons_self,
          List.lookup_cons_self]
      · rw [if_neg fun h ↦ hmem (List.contains_iff_mem.mp h), if_neg hmem]
        rw [if_neg hmem] at ih
        exact ih
    · have hne : (id == id') = false := beq_eq_false_iff_ne.mpr hid
      rw [List.lookup_cons, hne]
      dsimp only
      rw [← ih]
      split
      · rw [List.lookup_cons, hne]
        rfl
      · rfl

namespace Expr

/-- The placeholder that a constant comes from. -/
def placeholder? : Expr → Option String
  | placeholder id => some id
  | cast e _ => e.placeholder?
  | _ => none

/-- The placeholders that a constant geometry comes from. -/
def sources (e : Expr) : List String := e.operands.filterMap placeholder?

variable {bindings : Bindings} {ids : List String} {e : Expr}

theorem placeholder_of_constant? {c : Constant} (h : e.constant? bindings = some c) :
    c.placeholder = e.placeholder? := by
  fun_induction constant? bindings e generalizing c with
  | case1 value =>
    cases h
    rfl
  | case2 id =>
    obtain ⟨value, -, rfl⟩ := Option.map_eq_some_iff.mp h
    rfl
  | case3 e type ih =>
    obtain ⟨c', hc', h⟩ := Option.bind_eq_some_iff.mp h
    obtain ⟨value, -, h⟩ := Option.bind_eq_some_iff.mp h
    cases h
    exact (ih hc' :)
  | case4 => cases h

theorem constant?_restrict_eq_some {c : Constant} :
    e.constant? (bindings.restrict ids) = some c ↔
      e.constant? bindings = some c ∧ ∀ id ∈ c.placeholder, id ∈ ids := by
  fun_induction constant? bindings e generalizing c with
  | case1 value =>
    rw [constant?]
    refine (and_iff_left_of_imp fun h ↦ ?_).symm
    cases h
    exact fun id hid ↦ absurd hid (Option.not_mem_none id)
  | case2 id =>
    rw [constant?, Bindings.lookup_restrict, Option.map_eq_some_iff, Option.map_eq_some_iff]
    constructor
    · rintro ⟨value, hvalue, rfl⟩
      split at hvalue
      · next hmem =>
        refine ⟨⟨value, hvalue, rfl⟩, fun id' hid' ↦ ?_⟩
        cases hid'
        exact hmem
      · cases hvalue
    · rintro ⟨⟨value, hvalue, rfl⟩, hmem⟩
      rw [if_pos (hmem id rfl)]
      exact ⟨value, hvalue, rfl⟩
  | case3 e type ih =>
    rw [constant?]
    simp only [Option.bind_eq_bind, Option.bind_eq_some_iff, ih]
    constructor
    · rintro ⟨c', ⟨hc', hmem⟩, value, hvalue, h⟩
      cases h
      exact ⟨⟨c', hc', value, hvalue, rfl⟩, hmem⟩
    · rintro ⟨⟨c', hc', value, hvalue, h⟩, hmem⟩
      cases h
      exact ⟨c', ⟨hc', hmem⟩, value, hvalue, rfl⟩
  | case4 e hliteral hplaceholder hcast =>
    rw [constant?]
    · exact ⟨fun h ↦ (by cases h), fun h ↦ (by cases h.1)⟩
    all_goals assumption

theorem constant?_restrict (h : ∀ id ∈ e.placeholder?, id ∈ ids) :
    e.constant? (bindings.restrict ids) = e.constant? bindings := by
  refine Option.ext fun c ↦ constant?_restrict_eq_some.trans (and_iff_left_of_imp fun hc ↦ ?_)
  rw [placeholder_of_constant? hc]
  exact h

theorem geometry?_restrict (h : e.sources ⊆ ids) :
    e.geometry? (bindings.restrict ids) = e.geometry? bindings :=
  e.geometry?_congr fun o ho ↦ constant?_restrict fun _ hid ↦
    h (List.mem_filterMap.mpr ⟨o, ho, hid⟩)

/-- No geometry is left if one of its placeholders is not. -/
theorem sources_subset {g : Geometry} (h : e.geometry? (bindings.restrict ids) = .ok (some g)) :
    e.sources ⊆ ids := by
  intro id hid
  obtain ⟨o, ho, hplaceholder⟩ := List.mem_filterMap.mp hid
  have hconstant := isConstant_of_geometry? h o ho
  obtain ⟨c, hc⟩ := Option.isSome_iff_exists.mp hconstant
  obtain ⟨hc, hmem⟩ := constant?_restrict_eq_some.mp hc
  exact hmem id ((placeholder_of_constant? hc).trans hplaceholder)

end Expr

namespace Predicate

/-! ## Clauses -/

/-- The placeholders of parameters. -/
def Parameters.ids (ps : Parameters) : List String := ps.map Prod.fst

theorem Parameters.ids_append (ps qs : Parameters) :
    Parameters.ids (ps ++ qs) = ps.ids ++ qs.ids := List.map_append

namespace Context

/-- The context with the values of some placeholders only. -/
def restrict (ctx : Context) (ids : List String) : Context :=
  { ctx with bindings := ctx.bindings.restrict ids }

variable {ctx : Context} {ids : List String}

theorem column?_restrict (e : Expr) : (ctx.restrict ids).column? e = ctx.column? e := by
  fun_induction column? ctx e with
  | case1 e type ih => rw [column?, ih]
  | case2 name relation => rfl
  | case3 e hcast hcolumn =>
    rw [column?] <;> assumption

theorem field?_restrict (e : Expr) : (ctx.restrict ids).field? e = ctx.field? e := by
  rw [field?, column?_restrict]
  rfl

theorem orient_restrict (left right : Expr) (op : Filter.Comparison) :
    (ctx.restrict ids).orient left op right = ctx.orient left op right := by
  rw [orient, column?_restrict]
  rfl

theorem ids_parameter (c : Constant) : Parameters.ids (parameter c) = c.placeholder.toList := by
  rw [Parameters.ids, parameter]
  cases c.placeholder <;> rfl

/-- What is left of a clause with its parameters: all of it if all of its placeholders are left, and
nothing otherwise. -/
def Keeps (ids : List String) (before after : Option (Filter.Clause × Parameters)) : Prop :=
  ∀ clause ps, after = some (clause, ps) ↔ before = some (clause, ps) ∧ ps.ids ⊆ ids

theorem HasClause.of_restrict {e : Expr} {clause : Filter.Clause} {ps : Parameters}
    (h : (ctx.restrict ids).HasClause e clause ps) :
    ctx.HasClause e clause ps ∧ ps.ids ⊆ ids := by
  induction h with
  | compare horient hfield hconstant hclause =>
    rw [orient_restrict] at horient
    rw [field?_restrict] at hfield
    obtain ⟨hconstant, hmem⟩ := Expr.constant?_restrict_eq_some.mp hconstant
    refine ⟨.compare horient hfield hconstant hclause, ?_⟩
    rw [ids_parameter]
    exact fun id hid ↦ hmem id (Option.mem_toList.mp hid)
  | isNull hfield =>
    rw [field?_restrict] at hfield
    exact ⟨.isNull hfield, List.nil_subset ids⟩
  | isNotNull hfield =>
    rw [field?_restrict] at hfield
    exact ⟨.isNotNull hfield, List.nil_subset ids⟩
  | not _ ih => exact ⟨.not ih.1, ih.2⟩
  | and _ _ ihl ihr =>
    rw [Parameters.ids_append]
    exact ⟨.and ihl.1 ihr.1, List.append_subset.mpr ⟨ihl.2, ihr.2⟩⟩
  | or _ _ ihl ihr =>
    rw [Parameters.ids_append]
    exact ⟨.or ihl.1 ihr.1, List.append_subset.mpr ⟨ihl.2, ihr.2⟩⟩

theorem HasClause.restrict {e : Expr} {clause : Filter.Clause} {ps : Parameters}
    (h : ctx.HasClause e clause ps) (hsubset : ps.ids ⊆ ids) :
    (ctx.restrict ids).HasClause e clause ps := by
  induction h with
  | compare horient hfield hconstant hclause =>
    rw [ids_parameter] at hsubset
    have hconstant' := Expr.constant?_restrict_eq_some.mpr
      ⟨hconstant, fun id hid ↦ hsubset (Option.mem_toList.mpr hid)⟩
    exact .compare ((orient_restrict _ _ _).trans horient) ((field?_restrict _).trans hfield)
      hconstant' hclause
  | isNull hfield => exact .isNull ((field?_restrict _).trans hfield)
  | isNotNull hfield => exact .isNotNull ((field?_restrict _).trans hfield)
  | not _ ih => exact .not (ih hsubset)
  | and _ _ ihl ihr =>
    rw [Parameters.ids_append, List.append_subset] at hsubset
    exact .and (ihl hsubset.1) (ihr hsubset.2)
  | or _ _ ihl ihr =>
    rw [Parameters.ids_append, List.append_subset] at hsubset
    exact .or (ihl hsubset.1) (ihr hsubset.2)

/-- **A clause depends on the placeholders that it names.** -/
theorem keeps_clause? (e : Expr) : Keeps ids (ctx.clause? e) ((ctx.restrict ids).clause? e) := by
  intro clause ps
  rw [clause?_eq_some_iff, clause?_eq_some_iff]
  exact ⟨HasClause.of_restrict, fun h ↦ h.1.restrict h.2⟩

end Context

/-! ## Attribute filters -/

namespace Parameters

theorem mem_ids_addAll {ps qs : Parameters} {id : String} :
    id ∈ Parameters.ids (ps.addAll qs) ↔ id ∈ ps.ids ∨ id ∈ qs.ids := by
  induction qs generalizing ps with
  | nil => exact (or_iff_left List.not_mem_nil).symm
  | cons q qs ih =>
    rw [addAll, List.foldl_cons, ← addAll, ih, show ids (q :: qs) = q.1 :: ids qs from rfl,
      List.mem_cons, ← or_assoc]
    refine or_congr_left ?_
    split
    · next hany =>
      obtain ⟨p, hp, heq⟩ := List.any_eq_true.mp hany
      refine (or_iff_left_of_imp fun hid ↦ ?_).symm
      rw [hid, ← beq_iff_eq.mp heq]
      exact List.mem_map_of_mem hp
    · rw [ids_append, List.mem_append]
      exact or_congr_right List.mem_singleton

theorem mem_ids_foldl {rendered : List (Filter.Clause × Parameters)} {ps : Parameters}
    {id : String} :
    id ∈ Parameters.ids (rendered.foldl (fun ps r ↦ ps.addAll r.2) ps) ↔
      id ∈ ps.ids ∨ ∃ r ∈ rendered, id ∈ r.2.ids := by
  induction rendered generalizing ps with
  | nil => simp only [List.foldl_nil, List.not_mem_nil, false_and, exists_false, or_false]
  | cons r rendered ih =>
    rw [List.foldl_cons, ih, mem_ids_addAll, List.exists_mem_cons_iff, or_assoc]

end Parameters

variable {ctx : Context} {ids : List String} {predicates : List Expr}

theorem mem_ids_render {id : String} :
    id ∈ (render ctx predicates).params.ids ↔
      ∃ e ∈ predicates, ∃ clause ps, ctx.clause? e = some (clause, ps) ∧ id ∈ ps.ids := by
  rw [render, Parameters.mem_ids_foldl, or_iff_right (show id ∉ Parameters.ids [] from
    List.not_mem_nil)]
  constructor
  · rintro ⟨⟨clause, ps⟩, hr, hid⟩
    obtain ⟨r, hr, rfl⟩ := List.mem_filterMap.mp hr
    obtain ⟨e, he, hclause⟩ := List.mem_map.mp hr
    exact ⟨e, he, clause, ps, hclause, hid⟩
  · rintro ⟨e, he, clause, ps, hclause, hid⟩
    exact ⟨(clause, ps), List.mem_filterMap.mpr ⟨_, List.mem_map.mpr ⟨e, he, hclause⟩, rfl⟩, hid⟩

theorem render_restrict (h : (render ctx predicates).params.ids ⊆ ids) :
    render (ctx.restrict ids) predicates = render ctx predicates := by
  have hsame : predicates.map (ctx.restrict ids).clause? = predicates.map ctx.clause? := by
    refine List.map_congr_left fun e he ↦ Option.ext fun ⟨clause, ps⟩ ↦ ?_
    refine (Context.keeps_clause? e clause ps).trans (and_iff_left_of_imp fun hclause id hid ↦ ?_)
    exact h (mem_ids_render.mpr ⟨e, he, clause, ps, hclause, hid⟩)
  rw [render, render, hsame]

theorem ids_render_restrict_subset : (render (ctx.restrict ids) predicates).params.ids ⊆ ids := by
  intro id hid
  obtain ⟨e, -, clause, ps, hclause, hid⟩ := mem_ids_render.mp hid
  exact ((Context.keeps_clause? e clause ps).mp hclause).2 hid

/-! ## Boxes -/

/-- The placeholders that the box of an overlap comes from. -/
def overlapSources (column : Catalog.Column) : Expr → List String
  | .call _ _ [left, right] => ((opposite? column left right).map Expr.sources).getD []
  | _ => []

section Overlap

variable {column : Catalog.Column} {bindings : Bindings} {e : Expr}

theorem overlap?_restrict (h : overlapSources column e ⊆ ids) :
    overlap? column (bindings.restrict ids) e = overlap? column bindings e := by
  unfold overlap?
  split
  · next name volatility left right =>
    cases hopposite : opposite? column left right with
    | none => rfl
    | some operand =>
      rw [overlapSources, hopposite] at h
      have hbox : constantBox? (bindings.restrict ids) operand = constantBox? bindings operand := by
        rw [constantBox?, constantBox?, Expr.geometry?_restrict h]
      rw [Option.bind_eq_bind, Option.bind_some, Option.bind_some, hbox]
  · rfl

theorem overlapSources_subset {spatial : SpatialFilter}
    (h : overlap? column (bindings.restrict ids) e = some spatial) :
    overlapSources column e ⊆ ids := by
  obtain ⟨-, name, volatility, left, right, operand, rfl, -, hopposite, hbox⟩ := overlap?_eq_some h
  obtain ⟨g, hg, -⟩ := constantBox?_eq_some hbox
  rw [overlapSources, hopposite]
  exact Expr.sources_subset hg

theorem overlap?_restrict_eq_none (h : overlap? column bindings e = none) :
    overlap? column (bindings.restrict ids) e = none := by
  cases hoverlap : overlap? column (bindings.restrict ids) e with
  | none => rfl
  | some spatial =>
    rw [overlap?_restrict (overlapSources_subset hoverlap), h] at hoverlap
    cases hoverlap

end Overlap

/-- The first result stays the first if it stays a result and nothing else becomes one. -/
theorem findSome?_eq_of_first {α β : Type} {f f' : α → Option β} {xs : List α}
    (hnone : ∀ x, f x = none → f' x = none)
    (hfirst : ∀ x y, x ∈ xs → xs.findSome? f = some y → f x = some y → f' x = some y) :
    xs.findSome? f' = xs.findSome? f := by
  cases hfound : xs.findSome? f with
  | none =>
    rw [List.findSome?_eq_none_iff] at hfound ⊢
    exact fun x hx ↦ hnone x (hfound x hx)
  | some y =>
    obtain ⟨before, x, after, rfl, hx, hbefore⟩ := List.findSome?_eq_some_iff.mp hfound
    have hmem : x ∈ before ++ x :: after := List.mem_append_right _ List.mem_cons_self
    exact List.findSome?_eq_some_iff.mpr ⟨before, x, after, rfl, hfirst x y hmem hfound hx,
      fun x' hx' ↦ hnone x' (hbefore x' hx')⟩

namespace Plan

/-- The placeholders that the box of a plan comes from. -/
def boxSources (ctx : Context) (predicates : List Expr) : List String :=
  match ctx.table.geometry?, (extract ctx.table ctx.bindings predicates).found with
  | some column, some (i, _) => (predicates[i]?.map (overlapSources column)).getD []
  | _, _ => []

theorem boxSources_eq {column : Catalog.Column} {i : Nat} {spatial : SpatialFilter} {e : Expr}
    (hcolumn : ctx.table.geometry? = some column)
    (hfound : firstOverlap? ctx.table ctx.bindings predicates = some (i, spatial))
    (he : predicates[i]? = some e) : boxSources ctx predicates = overlapSources column e := by
  have hextract : (extract ctx.table ctx.bindings predicates).found = some (i, spatial) := hfound
  rw [boxSources, hcolumn, hextract]
  dsimp only
  rw [he]
  rfl

/-- The overlap that is taken is left if its placeholders are, and those before it are no more
taken than they were. -/
theorem firstOverlap?_restrict (h : boxSources ctx predicates ⊆ ids) :
    firstOverlap? ctx.table (ctx.bindings.restrict ids) predicates =
      firstOverlap? ctx.table ctx.bindings predicates := by
  cases hcolumn : ctx.table.geometry? with
  | none => rw [firstOverlap?, firstOverlap?, hcolumn]; rfl
  | some column =>
    rw [firstOverlap?, firstOverlap?, hcolumn, Option.bind_eq_bind, Option.bind_some,
      Option.bind_some]
    refine findSome?_eq_of_first (fun x hx ↦ ?_) fun x y hmem hfirst hx ↦ ?_
    · exact Option.map_eq_none_iff.mpr (overlap?_restrict_eq_none (Option.map_eq_none_iff.mp hx))
    · obtain ⟨e, i⟩ := x
      obtain ⟨spatial, hoverlap, rfl⟩ := Option.map_eq_some_iff.mp hx
      have hfound : firstOverlap? ctx.table ctx.bindings predicates = some (i, spatial) := by
        rw [firstOverlap?, hcolumn]
        exact hfirst
      rw [boxSources_eq hcolumn hfound (List.mk_mem_zipIdx_iff_getElem?.mp hmem)] at h
      exact Option.map_eq_some_iff.mpr ⟨spatial, (overlap?_restrict h).trans hoverlap, rfl⟩

/-- A plan is left if its parameters and the placeholders of its box are. -/
theorem of_restrict (hparams : (of ctx predicates).params.ids ⊆ ids)
    (hbox : boxSources ctx predicates ⊆ ids) :
    of (ctx.restrict ids) predicates = of ctx predicates := by
  have hextract : extract ctx.table (ctx.bindings.restrict ids) predicates =
      extract ctx.table ctx.bindings predicates := by
    rw [extract, firstOverlap?_restrict hbox]
    rfl
  have hrender : render (ctx.restrict ids) (others ctx predicates) =
      render ctx (others ctx predicates) := render_restrict hparams
  rw [others] at hrender
  rw [of, of]
  simp only [Context.restrict] at hrender ⊢
  rw [hextract, hrender]

theorem ids_of_restrict_subset : (of (ctx.restrict ids) predicates).params.ids ⊆ ids :=
  ids_render_restrict_subset

/-- If the plan is left, so are the placeholders of its box: without them the overlap would not be
taken, and as an overlap has no clause, it would lose its mark. -/
theorem boxSources_subset (h : of (ctx.restrict ids) predicates = of ctx predicates) :
    boxSources ctx predicates ⊆ ids := by
  cases hfound : (extract ctx.table ctx.bindings predicates).found with
  | none =>
    unfold boxSources
    rw [hfound]
    split
    · next hsome => cases hsome
    · exact List.nil_subset ids
  | some found =>
    obtain ⟨i, spatial⟩ := found
    obtain ⟨column, e, hcolumn, he, hoverlap⟩ := firstOverlap?_eq_some hfound
    rw [boxSources_eq hcolumn hfound he]
    have hmarks : ∀ i ∈ List.range predicates.length,
        mark (ctx.restrict ids) predicates i = mark ctx predicates i := by
      rw [← List.map_inj_left, ← consumed_of, ← consumed_of, h]
    have hmark : mark (ctx.restrict ids) predicates i = true := by
      rw [hmarks i (List.mem_range.mpr (List.getElem?_eq_some_iff.mp he).1), mark, hfound,
        Option.map_some, beq_self_eq_true, Bool.true_or]
    rw [mark, he, Option.map_some, Option.getD_some, clause?_eq_none_of_overlap? hoverlap,
      Option.isSome_none, Bool.or_false, beq_iff_eq, Option.map_eq_some_iff] at hmark
    obtain ⟨⟨j, spatial'⟩, hfound', rfl⟩ := hmark
    obtain ⟨column', e', hcolumn', he', hoverlap'⟩ := firstOverlap?_eq_some hfound'
    cases hcolumn.symm.trans hcolumn'
    cases he.symm.trans he'
    exact overlapSources_subset hoverlap'

/-- **A plan depends on the placeholders that it names and on those of its box**, and on no
others. -/
theorem of_restrict_eq_iff :
    of (ctx.restrict ids) predicates = of ctx predicates ↔
      (of ctx predicates).params.ids ⊆ ids ∧ boxSources ctx predicates ⊆ ids := by
  refine ⟨fun h ↦ ⟨?_, boxSources_subset h⟩, fun h ↦ of_restrict h.1 h.2⟩
  rw [← h]
  exact ids_of_restrict_subset

/-- **The placeholders that a plan names are enough for it exactly if those of its box are among
them.** -/
theorem of_restrict_ids_eq_iff (ctx : Context) (predicates : List Expr) :
    of (ctx.restrict (of ctx predicates).params.ids) predicates = of ctx predicates ↔
      boxSources ctx predicates ⊆ (of ctx predicates).params.ids :=
  of_restrict_eq_iff.trans (and_iff_right (List.Subset.refl _))

/-- A plan for places, with the value of a placeholder. -/
private def placesContext : Context := ⟨placesTable, .utf8, [("$1", placeValue)]⟩

/-- The places whose box has the value of the placeholder in it are asked for. -/
private def atPlaceholder : Expr := .call "&&" .immutable [.column "geom" none, .placeholder "$1"]

/-- A plan with a box from a placeholder does not name it, and is another one without it. -/
theorem of_restrict_ne_at_placeholder :
    Catalog.Table.bind "places" placesSchema [] placesLayer { layer := "places" } =
      .ok placesTable ∧
    (of placesContext [atPlaceholder]).params = [] ∧
    of (placesContext.restrict (of placesContext [atPlaceholder]).params.ids) [atPlaceholder] ≠
      of placesContext [atPlaceholder] := by
  have hparams : (of placesContext [atPlaceholder]).params = [] := by decide +kernel
  refine ⟨bind_places, hparams, fun h ↦ ?_⟩
  rw [hparams] at h
  have hconsumed : (of placesContext [atPlaceholder]).consumed = [true] := by decide +kernel
  have hrestricted : (of (placesContext.restrict []) [atPlaceholder]).consumed = [false] := by
    decide +kernel
  have hsame : [false] = [true] := hrestricted.symm.trans ((congrArg consumed h).trans hconsumed)
  cases hsame

end Plan

end Predicate

end ForeignLayer
