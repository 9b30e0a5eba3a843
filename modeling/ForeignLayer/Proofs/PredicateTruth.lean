import ForeignLayer.Operation
import Mathlib

/-!
# The truth of predicates

What a predicate says of a row of a table, in the three-valued logic of queries. This is the measure
of what may be left to a layer: it looks only at the row and knows nothing of features, fields or
filters.

Only the forms whose meaning is settled here are evaluated: comparisons of a column with a constant,
tests for null and overlaps of geometries, and the connectives. Whatever else a query can say is
left to an arbitrary function of the row and the expression, so that nothing depends on it.
-/

namespace ForeignLayer

/-- The scalar as a value of another type; as one of its own type it stays as it is. -/
def Scalar.recast? (s : Scalar) (t : DataType) : Option Scalar :=
  if s.type = t then some s else (s.cast t).toOption

namespace Predicate

open Operation

/-- The surroundings that the truth of a predicate depends on beside the row. -/
structure Evaluation where
  table : Catalog.Table
  bindings : Bindings
  /-- The truth of the expressions that have no meaning here. -/
  other : Row → Expr → Option Bool

namespace Evaluation

variable (ev : Evaluation) (row : Row)

/-! ## Operands -/

/-- The value of the column with a name, dropped columns aside. -/
def value? (name : String) : Option Scalar :=
  (ev.table.columns.findIdx? fun c ↦ !c.dropped && c.name == name).bind (row[·]?)

/-- The value of a column under any number of casts. -/
def operand? : Expr → Option Scalar
  | .column name _ => ev.value? row name
  | .cast e type => (operand? e).bind (·.recast? type)
  | _ => none

/-- The geometry of a column or of a constant, which may be null. -/
def geometry? : Expr → Option (Option Geometry)
  | .column name _ => do
    let v ← ev.value? row name
    if v.isNull then some none
    else (Geometry.ofBytes (← v.bytes?)).toOption.map some
  | e =>
    match e.geometry? ev.bindings with
    | .ok (some g) => some (some g)
    | _ => none

/-! ## Leaves -/

/-- The truth of a comparison of two values, unknown if they are in no order. -/
def compared (left : Scalar) (op : Filter.Comparison) (right : Scalar) : Option Bool :=
  (left.compare? right).map op.accepts

/-- The truth of a comparison of a column with a constant, on either side. The constant is taken in
the type of the column; a null is in no order with it. -/
def comparison? (op : Filter.Comparison) (left right : Expr) : Option (Option Bool) :=
  match operand? ev row left, right.constant? ev.bindings with
  | some v, some constant => some ((constant.value.recast? v.type).bind (compared v op ·))
  | _, _ =>
    match left.constant? ev.bindings, operand? ev row right with
    | some constant, some v => some ((constant.value.recast? v.type).bind (compared · op v))
    | _, _ => none

/-- The truth of an overlap: unknown with a null, and false as soon as a geometry is empty. -/
def overlap? (left right : Expr) : Option (Option Bool) := do
  let l ← geometry? ev row left
  let r ← geometry? ev row right
  return do return (← l).bounds.intersects (← r).bounds

/-! ## Predicates -/

/-- The truth of a predicate for a row. -/
def truth : Expr → Option Bool
  | .binary .and left right => Filter.kleeneAnd (truth left) (truth right)
  | .binary .or left right => Filter.kleeneOr (truth left) (truth right)
  | .not e => (truth e).map Bool.not
  | .isNull e =>
    ((operand? ev row e).map fun v ↦ some v.isNull).getD (ev.other row (.isNull e))
  | .isNotNull e =>
    ((operand? ev row e).map fun v ↦ some !v.isNull).getD (ev.other row (.isNotNull e))
  | .binary (.compare op) left right =>
    (ev.comparison? row op left right).getD (ev.other row (.binary (.compare op) left right))
  | .call name volatility [left, right] =>
    if overlapNames.contains (Text.lower name) then
      (ev.overlap? row left right).getD (ev.other row (.call name volatility [left, right]))
    else ev.other row (.call name volatility [left, right])
  | e => ev.other row e

/-- Whether every one of a list of predicates is true for a row. -/
def keeps (predicates : List Expr) : Bool := predicates.all fun e ↦ ev.truth row e == some true

end Evaluation

end Predicate

end ForeignLayer
