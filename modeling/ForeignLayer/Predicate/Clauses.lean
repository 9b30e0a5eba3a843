import ForeignLayer.Predicate.Literal
import ForeignLayer.Predicate.Expr

/-!
# Predicates as clauses

A predicate becomes a clause of the filter language as a whole or not at all. Fields, comparisons
of a field with a constant, tests for null, and `NOT`, `AND` and `OR` of such predicates have
clauses. A column is known by a cast around it too, if the cast changes no comparison.

A column of truth values over a field of integers shows every integer but zero as true, so only
its equality with a truth value can be told by the layer.

With a clause go the placeholders that its constants came from, with their values.
-/

namespace ForeignLayer.Predicate

open ForeignLayer.Filter (Clause Comparison)

/-- Placeholders with the values that constants have. -/
abbrev Parameters := List (String × Scalar)

/-- What the clause of a predicate depends on. -/
structure Context where
  table : Catalog.Table
  encoding : Encoding
  bindings : Bindings

namespace Context

variable (ctx : Context)

/-! ## Columns -/

/-- The column that an expression stands for in comparisons: one that is bound to a field and is no
list. -/
def column? : Expr → Option (Catalog.Column × Layer.Field)
  | .cast e type => do
    let (column, field) ← column? e
    if isPreservingCast column.type.storage type then some (column, field) else none
  | .column name _ => do
    let column ← ctx.table.column? name
    if column.isArray then none
    return (column, ← column.field?)
  | _ => none

/-- The column that an expression stands for, if its field has a name that the source can take. -/
def field? (e : Expr) : Option (Catalog.Column × Layer.Field) := do
  let (column, field) ← ctx.column? e
  if Filter.isName ctx.encoding field.name then some (column, field) else none

/-! ## Comparisons -/

/-- The clause of a comparison of a column of truth values over a field of integers. -/
def booleanClause? (field : Layer.Field) (op : Comparison) (constant : Scalar) :
    Option Clause := do
  if field.type ≠ .integer ∧ field.type ≠ .integer64 then none
  let value ← constant.bool?
  let isTrue ← match op with
    | .eq => some value
    | .ne => some (!value)
    | _ => none
  return .compare field.name (if isTrue then .ne else .eq) (.number "0")

/-- The clause of a comparison of a column with a constant. -/
def comparisonClause? (encoding : Encoding) (column : Catalog.Column) (field : Layer.Field)
    (op : Comparison) (constant : Scalar) : Option Clause :=
  if column.type.storage = .boolean then booleanClause? field op constant
  else (literal? encoding column field constant).map (.compare field.name op)

/-- The sides of a comparison with the column on the left. -/
def orient (left : Expr) (op : Comparison) (right : Expr) : Expr × Comparison × Expr :=
  if (ctx.column? left).isSome then (left, op, right) else (right, op.swap, left)

/-- The parameter of a constant that came from a placeholder. -/
def parameter (c : Constant) : Parameters := (c.placeholder.map fun id ↦ (id, c.value)).toList

/-- The clause and the parameters of a comparison. -/
def comparison? (left : Expr) (op : Comparison) (right : Expr) :
    Option (Clause × Parameters) := do
  let (columnSide, op, constantSide) := ctx.orient left op right
  let (column, field) ← ctx.field? columnSide
  let constant ← constantSide.constant? ctx.bindings
  let clause ← comparisonClause? ctx.encoding column field op constant.value
  return (clause, parameter constant)

/-! ## Predicates -/

/-- The clause of a predicate, and the parameters that it depends on in the order of the text. -/
def clause? : Expr → Option (Clause × Parameters)
  | .binary .and left right => do
    let (l, ps) ← clause? left
    let (r, qs) ← clause? right
    return (.and l r, ps ++ qs)
  | .binary .or left right => do
    let (l, ps) ← clause? left
    let (r, qs) ← clause? right
    return (.or l r, ps ++ qs)
  | .binary (.compare op) left right => ctx.comparison? left op right
  | .not e => do
    let (c, ps) ← clause? e
    return (.not c, ps)
  | .isNull e => (ctx.field? e).map fun (_, field) ↦ (.isNull field.name, [])
  | .isNotNull e => (ctx.field? e).map fun (_, field) ↦ (.isNotNull field.name, [])
  | _ => none

end Context

/-! ## Lists of predicates -/

/-- Adds the parameters that are not there yet. -/
def Parameters.addAll (ps qs : Parameters) : Parameters :=
  qs.foldl (fun ps q ↦ if ps.any (·.1 == q.1) then ps else ps ++ [q]) ps

/-- What a list of predicates comes to in the filter language. -/
structure Rendering where
  /-- The text of the clauses, if there are any. -/
  filter : Option String
  /-- The parameters that the text depends on, each placeholder once. -/
  params : Parameters
  /-- Which of the predicates have a clause. -/
  consumed : List Bool

/-- Renders the predicates that have clauses, each on its own. -/
def render (ctx : Context) (predicates : List Expr) : Rendering :=
  let results := predicates.map ctx.clause?
  let rendered := results.filterMap id
  ⟨Clause.joined (rendered.map Prod.fst),
    rendered.foldl (fun ps r ↦ ps.addAll r.2) [],
    results.map Option.isSome⟩

end ForeignLayer.Predicate
