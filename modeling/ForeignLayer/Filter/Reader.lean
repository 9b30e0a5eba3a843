import ForeignLayer.Filter.Condition
import ForeignLayer.Filter.Fault
import ForeignLayer.Layer.Definition

/-!
# Reading filters

A filter is read with the definition of its layer at hand: a name has to be a field, and the type of
the field says how a literal is read. `NOT` binds tighter than `AND`, and `AND` tighter than `OR`;
both connectives group to the left. Every step of the reader takes a token, so that the number of
tokens bounds it.
-/

namespace ForeignLayer.Filter

/-- A step of reading tokens, which may meet a fault. -/
abbrev Reader := StateT (List Token) (Except Fault)

namespace Reader

/-- The next token, which is taken. -/
def next : Reader (Option Token) := fun ts ↦ .ok (ts.head?, ts.tail)

/-- Takes the next token if it is a word. -/
def accept (word : String) : Reader Bool := fun ts ↦
  match ts with
  | .word w :: rest => if w = word then .ok (true, rest) else .ok (false, ts)
  | _ => .ok (false, ts)

end Reader

/-! ## Literals -/

/-- The type that a literal is read in, and its text, for a field of a type. -/
def literalSource? (type : FieldType) (t : Token) : Option (DataType × String) :=
  match type, t with
  | .integer, .number n | .integer64, .number n =>
    some (if n.toList.contains '.' then .float64 else .int64, n)
  | .real, .number n => some (.float64, n)
  | .string, .text s | .wideString, .text s => some (.utf8, s)
  | .date, .text s | .dateTime, .text s =>
    some (type.native, String.ofList (s.toList.map fun c ↦ if c = '/' then '-' else c))
  | .time, .text s => some (type.native, s)
  | _, _ => none

/-- The value of a literal that is compared with a field of a type. -/
def literalValue (type : FieldType) (t : Token) : Except Fault Scalar :=
  match literalSource? type t with
  | none => .error (.incomparable type t)
  | some (target, text) => ((Scalar.ofText text).cast target).mapError .unreadable

/-! ## Conditions -/

open Reader

/-- Reads what follows the name of a field. -/
def readPredicate (layer : Layer.Definition) (name : String) : Reader Condition := do
  let some index := layer.fieldIndex? name | throw (.unknownField layer.name name)
  let some field := layer.fields[index]? | throw (.unknownField layer.name name)
  if ← accept "IS" then
    let negated ← accept "NOT"
    if ← accept "NULL" then return .isNull index negated else throw .noNull
  else
    match ← next with
    | some (.op op) =>
      match ← next with
      | some literal => return .compare index op (← literalValue field.type literal)
      | none => throw (.noLiteral name)
    | other => throw (.noComparison name other)

/-- Reads further operands, each after a word, and joins them to the left. -/
def readChain (word : String) (join : Condition → Condition → Condition)
    (operand : Reader Condition) : (count : Nat) → Condition → Reader Condition
  | 0, left => return left
  | count + 1, left => do
    if ← accept word then readChain word join operand count (join left (← operand))
    else return left

/-- Reads operands with a word between them; every further operand takes at least one token. -/
def readOperands (word : String) (join : Condition → Condition → Condition)
    (operand : Reader Condition) : Reader Condition := do
  let first ← operand
  readChain word join operand (← get).length first

/-- Reads a disjunction of conjunctions of operands. -/
def readDisjunction (operand : Reader Condition) : Reader Condition :=
  readOperands "OR" .or (readOperands "AND" .and operand)

/-- Reads an operand that is nested in no more than a number of levels; there are no tokens left
where the levels end. -/
def readOperand (layer : Layer.Definition) : (levels : Nat) → Reader Condition
  | 0 => throw (.noOperand none)
  | levels + 1 => do
    if ← accept "NOT" then return .not (← readOperand layer levels)
    else match ← next with
      | some .opening =>
        let c ← readDisjunction (readOperand layer levels)
        match ← next with
        | some .closing => return c
        | other => throw (.noClosing other)
      | some (.name name) => readPredicate layer name
      | other => throw (.noOperand other)

/-- Reads a filter of a layer. -/
def Condition.read (layer : Layer.Definition) (text : String) : Except Fault Condition := do
  let tokens ← (Token.all text).mapError (.token · text)
  let (c, rest) ← (readDisjunction (readOperand layer (tokens.length + 1))).run tokens
  if rest.isEmpty then return c else throw (.trailing rest.head? text)

end ForeignLayer.Filter
