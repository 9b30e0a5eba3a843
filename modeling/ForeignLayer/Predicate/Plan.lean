import ForeignLayer.Predicate.Overlap
import ForeignLayer.Predicate.Clauses

/-!
# Plans

What a scan leaves to the layer: at most one box, from the first overlap predicate, and the clauses
of all other predicates that have one. The predicates that are left are for the caller.
-/

namespace ForeignLayer.Predicate

/-- What of a list of predicates a layer takes care of. -/
structure Plan where
  spatial : Option SpatialFilter
  /-- The text of the attribute filter. -/
  filter : Option String
  params : Parameters
  /-- Which of the predicates the layer takes care of. -/
  consumed : List Bool

namespace Plan

/-- Plans a list of predicates. -/
def of (ctx : Context) (predicates : List Expr) : Plan :=
  let extraction := extract ctx.table ctx.bindings predicates
  let found := extraction.found.map Prod.fst
  let remaining := extraction.remaining.filterMap (predicates[·]?)
  let rendering := render ctx remaining
  let marks := extraction.remaining.zip rendering.consumed
  ⟨extraction.found.map Prod.snd, rendering.filter, rendering.params,
    (List.range predicates.length).map fun i ↦
      found == some i || (marks.lookup i).getD false⟩

/-- The number of predicates that the layer takes care of. -/
def numConsumed (p : Plan) : Nat := p.consumed.countP id

/-- The elements of a list beside the marks that are not set. -/
def unconsumed {α : Type} (p : Plan) (xs : List α) : List α :=
  (xs.zip p.consumed).filterMap fun (x, consumed) ↦ if consumed then none else some x

end Plan

end ForeignLayer.Predicate
