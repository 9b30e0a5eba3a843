import ForeignLayer.Catalog.Table
import ForeignLayer.Predicate.Fold

/-!
# Overlap predicates

The one spatial predicate that a layer can answer: the box of its geometry shares a point with the
box of a constant geometry. It is recognized only as a predicate of its own, with the geometry
column on either side, and only the first one of a list is taken, because a layer keeps one box.
-/

namespace ForeignLayer.Predicate

/-- A box that restricts a scan. -/
structure SpatialFilter where
  /-- The index of the geometry field. -/
  field : Nat
  box : Box
deriving DecidableEq, Repr

/-- The names of the overlap predicate. -/
def overlapNames : List String := ["&&", "st_intersects_bbox"]

/-- Whether an expression is a column. -/
def isColumn (column : Catalog.Column) : Expr → Bool
  | .column name _ => name == column.name
  | _ => false

/-- The operand that stands opposite the geometry column. -/
def opposite? (column : Catalog.Column) (left right : Expr) : Option Expr :=
  if isColumn column left then some right
  else if isColumn column right then some left
  else none

/-- The box of a constant geometry that is not empty. -/
def constantBox? (bindings : Bindings) (e : Expr) : Option Box :=
  match e.geometry? bindings with
  | .ok (some g) => if g.bounds.isEmpty then none else some g.bounds
  | _ => none

/-- The box that an overlap predicate asks for. -/
def overlap? (column : Catalog.Column) (bindings : Bindings) : Expr → Option SpatialFilter
  | .call name _ [left, right] =>
    if overlapNames.contains (Text.lower name) then do
      let operand ← opposite? column left right
      let box ← constantBox? bindings operand
      return ⟨← column.fieldIndex?, box⟩
    else none
  | _ => none

/-- What the overlap predicates of a list come to. -/
structure Extraction where
  /-- The place of the predicate that is taken, and its box. -/
  found : Option (Nat × SpatialFilter)
  /-- The places of the other predicates. -/
  remaining : List Nat
deriving DecidableEq, Repr

/-- The first overlap predicate of a list on the geometry column of a table. -/
def firstOverlap? (table : Catalog.Table) (bindings : Bindings) (predicates : List Expr) :
    Option (Nat × SpatialFilter) := do
  let column ← table.geometry?
  predicates.zipIdx.findSome? fun (e, i) ↦ (overlap? column bindings e).map fun f ↦ (i, f)

/-- Takes the first overlap predicate out of a list. -/
def extract (table : Catalog.Table) (bindings : Bindings) (predicates : List Expr) : Extraction :=
  let found := firstOverlap? table bindings predicates
  ⟨found, (List.range predicates.length).filter fun i ↦ found.map Prod.fst != some i⟩

end ForeignLayer.Predicate
