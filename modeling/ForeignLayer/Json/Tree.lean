import ForeignLayer.Bytes.Hex
import ForeignLayer.Number.Reading

/-!
# JSON as written

The grammar of JSON, read into a tree that keeps numbers and strings the way they are spelled. What
a number or a string stands for is a second question, asked only of the values that somebody wants:
a value that is passed over may hold a number out of every range or half a surrogate pair.
-/

namespace ForeignLayer.Json

/-- A number as written: digits before the point, after it, and an exponent. -/
structure Numeral where
  negative : Bool
  whole : List Char
  fraction : Option (List Char)
  exponent : Option (Bool × List Char)
deriving DecidableEq, Repr

/-- A part of a string as written. -/
inductive Piece where
  | char (c : Char)
  /-- A unit of 16 bits that was written by its number. -/
  | unit (n : Nat)
deriving DecidableEq, Repr

/-- A JSON value as written. -/
inductive Tree where
  | null
  | bool (b : Bool)
  | number (n : Numeral)
  | string (s : List Piece)
  | array (elements : List Tree)
  | object (members : List (List Piece × Tree))

/-- A step of reading characters, which may fail. -/
abbrev Reader := StateT (List Char) Option

namespace Reader

/-- Takes the next character. -/
def next : Reader Char := fun
  | [] => none
  | c :: rest => some (c, rest)

/-- The next character, which is not taken. -/
def peek? : Reader (Option Char) := fun cs ↦ some (cs.head?, cs)

/-- Takes a character that has to be next. -/
def expect (c : Char) : Reader Unit := do if (← next) = c then return () else failure

/-- Takes characters that have to be next. -/
def expectAll (cs : List Char) : Reader Unit := cs.forM expect

/-- Takes a character if it is next, and tells whether it was. -/
def accept (c : Char) : Reader Bool := do
  if (← peek?) = some c then
    discard next
    return true
  else return false

/-- Takes the digits that are next. -/
def digits : Reader (List Char) := fun cs ↦ some (Number.spanDigits cs)

/-- Takes one digit or more. -/
def someDigits : Reader (List Char) := do
  let ds ← digits
  if ds.isEmpty then failure else return ds

/-- Whether a character is blank between the parts of JSON. -/
def isSpace (c : Char) : Bool := c == ' ' || c == '\n' || c == '\t' || c == '\r'

/-- Takes the blanks that are next. -/
def spaces : Reader Unit := fun cs ↦ some ((), cs.dropWhile isSpace)

end Reader

open Reader

/-- Takes a number: no zero in front of further digits, and digits on both sides of a point. -/
def numeral : Reader Numeral := do
  let negative ← accept '-'
  let whole ← someDigits
  if 1 < whole.length ∧ whole.head? = some '0' then failure
  let fraction ← if ← accept '.' then some <$> someDigits else pure none
  let marked ← (· || ·) <$> accept 'e' <*> accept 'E'
  if marked then
    let negativeExponent ← accept '-'
    unless negativeExponent do discard (accept '+')
    let ds ← someDigits
    return ⟨negative, whole, fraction, some (negativeExponent, ds)⟩
  else return ⟨negative, whole, fraction, none⟩

/-- The character that a letter after a backslash stands for. -/
def escaped? : Char → Option Char
  | '"' => some '"'
  | '\\' => some '\\'
  | '/' => some '/'
  | 'b' => some '\x08'
  | 'f' => some '\x0c'
  | 'n' => some '\n'
  | 'r' => some '\r'
  | 't' => some '\t'
  | _ => none

/-- Takes a hexadecimal digit. -/
def hexDigit : Reader Nat := do
  match Bytes.hexValue? (← next) with
  | some n => return n
  | none => failure

/-- Takes what follows a backslash. -/
def escape : Reader Piece := do
  let c ← next
  if c = 'u' then
    let a ← hexDigit
    let b ← hexDigit
    let c ← hexDigit
    let d ← hexDigit
    return .unit (((a * 16 + b) * 16 + c) * 16 + d)
  else match escaped? c with
    | some e => return .char e
    | none => failure

/-- Takes the rest of a string and its closing quote. Every piece takes a character, so that as
much fuel as there are characters is enough. -/
def piecesWithin : Nat → Reader (List Piece)
  | 0 => failure
  | fuel + 1 => do
    let c ← next
    if c = '"' then return []
    let piece ← if c = '\\' then escape else if c.toNat < 32 then failure else pure (.char c)
    let others ← piecesWithin fuel
    return piece :: others

/-- Takes a string. -/
def pieces : Reader (List Piece) := do
  expect '"'
  piecesWithin ((← get).length + 1)

/-- Takes parts with commas between them and a closing character after the last one. -/
def partsWithin {α : Type} (closing : Char) (part : Reader α) : Nat → Reader (List α)
  | 0 => failure
  | fuel + 1 => do
    let first ← part
    spaces
    if ← accept closing then return [first]
    expect ','
    let others ← partsWithin closing part fuel
    return first :: others

/-- Takes parts, none or more, up to a closing character. -/
def parts {α : Type} (closing : Char) (part : Reader α) : Reader (List α) := do
  spaces
  if ← accept closing then return []
  partsWithin closing part ((← get).length + 1)

/-- Takes a value, with arrays and objects on fewer levels than the fuel. -/
def treeWithin : Nat → Reader Tree
  | 0 => failure
  | fuel + 1 => do
    spaces
    match ← peek? with
    | some 'n' => (fun _ ↦ .null) <$> expectAll ['n', 'u', 'l', 'l']
    | some 't' => (fun _ ↦ .bool true) <$> expectAll ['t', 'r', 'u', 'e']
    | some 'f' => (fun _ ↦ .bool false) <$> expectAll ['f', 'a', 'l', 's', 'e']
    | some '"' => .string <$> pieces
    | some '[' =>
      expect '['
      .array <$> parts ']' (treeWithin fuel)
    | some '{' =>
      expect '{'
      .object <$> parts '}' do
        spaces
        let key ← pieces
        spaces
        expect ':'
        let value ← treeWithin fuel
        return (key, value)
    | _ => .number <$> numeral

/-- Reads a text that is one JSON value, blanks around it aside. -/
def Tree.read? (text : String) : Option Tree :=
  let cs := text.toList
  match (treeWithin (cs.length + 1)).run cs with
  | some (tree, rest) => if rest.all Reader.isSpace then some tree else none
  | none => none

end ForeignLayer.Json
