import ForeignLayer.Filter.Clause
import ForeignLayer.Value.Cast

/-!
# Predicates

The expressions of a relational query that a scan is asked to keep rows by. Most of their forms
have no counterpart in a layer; they are here so that it can be said which ones have.
-/

namespace ForeignLayer

/-- How far the value of a function can change between calls with the same arguments. -/
inductive Volatility where
  | immutable
  | stable
  | volatile
deriving DecidableEq, Repr

/-- The operators with two operands. -/
inductive Operator where
  | compare (op : Filter.Comparison)
  | and
  | or
  /-- An operator without counterpart in a layer. -/
  | other (symbol : String)
deriving DecidableEq, Repr

/-- An expression of a relational query. -/
inductive Expr where
  | column (name : String) (relation : Option String)
  | literal (value : Scalar)
  /-- A value that is bound when the query is run. -/
  | placeholder (id : String)
  | cast (e : Expr) (type : DataType)
  | tryCast (e : Expr) (type : DataType)
  | call (name : String) (volatility : Volatility) (args : List Expr)
  | binary (op : Operator) (left right : Expr)
  | not (e : Expr)
  | isNull (e : Expr)
  | isNotNull (e : Expr)
  | isTrue (e : Expr)
  | isFalse (e : Expr)
  | negative (e : Expr)
  | alias (e : Expr) (name : String)
  | like (e pattern : Expr)
  | between (e low high : Expr)
  | inList (e : Expr) (candidates : List Expr)

/-- Values of placeholders. -/
abbrev Bindings := List (String × Scalar)

/-! ## Constants -/

/-- A constant operand, and the placeholder that it came from. -/
structure Constant where
  value : Scalar
  placeholder : Option String
deriving DecidableEq

/-- The constant that an expression is: a literal, a bound placeholder, or a cast of one that keeps
it valid. -/
def Expr.constant? (bindings : Bindings) : Expr → Option Constant
  | literal value => some ⟨value, none⟩
  | placeholder id => (bindings.lookup id).map fun value ↦ ⟨value, some id⟩
  | cast e type => do
    let c ← e.constant? bindings
    return ⟨← (c.value.cast type).toOption, c.placeholder⟩
  | _ => none

namespace Expr

/-- The text that an expression is. -/
def text? (bindings : Bindings) (e : Expr) : Option String := do
  (← e.constant? bindings).value.text?

/-- The bytes that an expression is. -/
def bytes? (bindings : Bindings) (e : Expr) : Option (List UInt8) := do
  (← e.constant? bindings).value.bytes?

/-- The finite number that an expression is, of any numeric type. -/
def finite? (bindings : Bindings) (e : Expr) : Option Number.Double := do
  let v := (← e.constant? bindings).value
  if !v.type.isNumeric then none
  let x ← (← (v.cast .float64).toOption).double?
  if x.isFinite then some x else none

/-- The integer of 32 bits that an expression is, of any integer type. -/
def int32? (bindings : Bindings) (e : Expr) : Option Int := do
  let v := (← e.constant? bindings).value
  if !v.type.isInteger then none
  (← (v.cast .int32).toOption).integer?

end Expr

end ForeignLayer
