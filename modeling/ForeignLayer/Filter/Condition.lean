import ForeignLayer.Filter.Clause
import ForeignLayer.Value.Cast

/-!
# Conditions

What a filter text means for a layer: fields are given by their index and literals by their value.
A condition is true, false or unknown of a feature. A comparison with a null, or with a value that
is in no order with the literal, is unknown; the connectives follow Kleene's logic. A feature
matches a condition only if it is true.
-/

namespace ForeignLayer.Filter

/-- A condition on the fields of a feature. -/
inductive Condition where
  | compare (field : Nat) (op : Comparison) (value : Scalar)
  | isNull (field : Nat) (negated : Bool)
  | not (c : Condition)
  | and (left right : Condition)
  | or (left right : Condition)
deriving DecidableEq

/-- The conjunction of two truth values that may be unknown: false as soon as one side is. -/
def kleeneAnd : Option Bool → Option Bool → Option Bool
  | some false, _ | _, some false => some false
  | some true, some true => some true
  | _, _ => none

/-- The disjunction of two truth values that may be unknown: true as soon as one side is. -/
def kleeneOr : Option Bool → Option Bool → Option Bool
  | some true, _ | _, some true => some true
  | some false, some false => some false
  | _, _ => none

namespace Condition

/-- The truth of a comparison. The value of the field is taken in the type of the literal. -/
def compareValues (field : Option Scalar) (op : Comparison) (value : Scalar) : Option Bool := do
  let v ← field
  if v.isNull then none
  let v ← (v.cast value.type).toOption
  return op.accepts (← v.compare? value)

/-- The truth of a condition for the fields of a feature. -/
def evaluate (fields : List Scalar) : Condition → Option Bool
  | compare field op value => compareValues fields[field]? op value
  | isNull field negated => some ((fields[field]?.map Scalar.isNull).getD true != negated)
  | not c => (c.evaluate fields).map Bool.not
  | and left right => kleeneAnd (left.evaluate fields) (right.evaluate fields)
  | or left right => kleeneOr (left.evaluate fields) (right.evaluate fields)

/-- Whether a condition is true for the fields of a feature. -/
def holds (c : Condition) (fields : List Scalar) : Bool := c.evaluate fields == some true

end Condition

end ForeignLayer.Filter
