import ForeignLayer.Settings.Encoding

/-!
# Clauses

The filter language of layers, as it is written: comparisons of a field with a literal, tests for
null, and their combinations. A clause is a tree, and its text puts brackets around every
combination, so that no reading depends on precedence.

Names and texts are quoted. A name ends at its quote and cannot have one inside; in a text a quote
is written twice. Names and texts that a source in another encoding could mistake are not written at
all.
-/

namespace ForeignLayer.Filter

/-! ## Comparisons -/

/-- The comparisons of a field with a literal. -/
inductive Comparison where
  | eq
  | ne
  | lt
  | le
  | gt
  | ge
deriving DecidableEq, Repr

namespace Comparison

/-- The symbol of a comparison. -/
def symbol : Comparison → String
  | eq => "="
  | ne => "<>"
  | lt => "<"
  | le => "<="
  | gt => ">"
  | ge => ">="

/-- The comparison with its sides exchanged. -/
def swap : Comparison → Comparison
  | lt => gt
  | le => ge
  | gt => lt
  | ge => le
  | c => c

/-- Whether a comparison holds where its sides are in an order. -/
def accepts : Comparison → Ordering → Bool
  | eq, o => o.isEq
  | ne, o => o.isNe
  | lt, o => o.isLT
  | le, o => o.isLE
  | gt, o => o.isGT
  | ge, o => o.isGE

end Comparison

/-! ## Quoting -/

/-- Whether a source can take a text: none takes NUL, and one in another encoding takes only
ASCII. -/
def isExpressible (encoding : Encoding) (text : String) : Bool :=
  !text.toList.contains '\x00' && (encoding.isUtf8 || Text.allAscii text)

/-- Whether a source can take the name of a field. -/
def isName (encoding : Encoding) (name : String) : Bool :=
  !name.toList.contains '"' && isExpressible encoding name

/-- The characters of a quoted name. -/
def nameChars (name : String) : List Char := '"' :: name.toList ++ ['"']

/-- The characters of a quoted text. -/
def textChars (text : String) : List Char :=
  '\x27' :: (text.toList.flatMap fun c ↦ if c = '\x27' then [c, c] else [c]) ++ ['\x27']

/-- The quoted name of a field, for a source that can take it. -/
def quoteName? (encoding : Encoding) (name : String) : Option String :=
  if isName encoding name then some (String.ofList (nameChars name)) else none

/-- The quoted text, for a source that can take it. -/
def quoteText? (encoding : Encoding) (text : String) : Option String :=
  if isExpressible encoding text then some (String.ofList (textChars text)) else none

/-! ## Clauses -/

/-- The literals of the filter language. -/
inductive Literal where
  | number (digits : String)
  | text (s : String)
deriving DecidableEq, Repr

/-- The characters of a literal. -/
def Literal.chars : Literal → List Char
  | number digits => digits.toList
  | text s => textChars s

/-- A clause of the filter language. -/
inductive Clause where
  | compare (field : String) (op : Comparison) (value : Literal)
  | isNull (field : String)
  | isNotNull (field : String)
  | not (c : Clause)
  | and (left right : Clause)
  | or (left right : Clause)
deriving DecidableEq, Repr

namespace Clause

/-- The characters of a clause. -/
def chars : Clause → List Char
  | compare field op value =>
    nameChars field ++ [' '] ++ op.symbol.toList ++ [' '] ++ value.chars
  | isNull field => nameChars field ++ " IS NULL".toList
  | isNotNull field => nameChars field ++ " IS NOT NULL".toList
  | not c => "NOT (".toList ++ c.chars ++ [')']
  | and left right => ['('] ++ left.chars ++ " AND ".toList ++ right.chars ++ [')']
  | or left right => ['('] ++ left.chars ++ " OR ".toList ++ right.chars ++ [')']

/-- The text of a clause. -/
def text (c : Clause) : String := String.ofList c.chars

/-- The characters of further clauses that have to hold too. -/
def furtherChars (cs : List Clause) : List Char :=
  cs.flatMap fun c ↦ " AND (".toList ++ c.chars ++ [')']

/-- The text of clauses that have to hold together: none without clauses, and brackets around each
of several. -/
def joined : List Clause → Option String
  | [] => none
  | [c] => some c.text
  | c :: cs => some (String.ofList (['('] ++ c.chars ++ [')'] ++ furtherChars cs))

end Clause

end ForeignLayer.Filter
