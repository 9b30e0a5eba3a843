import ForeignLayer.Filter.Clause
import ForeignLayer.Text.Quote

/-!
# Tokens of filters

A filter text is cut into tokens by a machine that reads one character at a time. Most characters
belong to the token that is being read or end it; the machine keeps that token as its state, and a
character that only ends it is read again between tokens. A quote within a text is known to be one
only by the character after it, and so is a comparison of one character.
-/

namespace ForeignLayer.Filter

/-- The tokens of filters. -/
inductive Token where
  /-- The quoted name of a field. -/
  | name (name : String)
  | text (s : String)
  | number (digits : String)
  /-- A word, in upper case. -/
  | word (word : String)
  | op (op : Comparison)
  | opening
  | closing
deriving DecidableEq, Repr

/-- The description of a comparison in messages. -/
def Comparison.description : Comparison → String
  | eq => "Eq"
  | ne => "NotEq"
  | lt => "Lt"
  | le => "LtEq"
  | gt => "Gt"
  | ge => "GtEq"

/-- The description of a token in messages. -/
def Token.description : Token → String
  | name s => "Identifier(" ++ Text.quote s ++ ")"
  | text s => "Text(" ++ Text.quote s ++ ")"
  | number s => "Number(" ++ Text.quote s ++ ")"
  | word s => "Word(" ++ Text.quote s ++ ")"
  | op c => "Op(" ++ c.description ++ ")"
  | opening => "LParen"
  | closing => "RParen"

/-- The description of a token that may be missing. -/
def Token.describe? : Option Token → String
  | some t => "Some(" ++ t.description ++ ")"
  | none => "None"

/-- Why a text cannot be cut into tokens. -/
inductive TokenFault where
  | unterminatedName
  | unterminatedText
  | unexpected (c : Char)
deriving DecidableEq, Repr

namespace Token

/-- What the machine is reading. Characters are collected backwards. -/
inductive Mode where
  | between
  | name (read : List Char)
  | text (read : List Char)
  /-- A quote was met in a text: its end, or the first of two. -/
  | textQuote (read : List Char)
  | number (read : List Char)
  | word (read : List Char)
  | less
  | greater
deriving DecidableEq, Repr

/-- Whether a character goes on with a number. -/
def isNumberChar (c : Char) : Bool := c.isDigit || c == '.'

/-- Whether a character goes on with a word. -/
def isWordChar (c : Char) : Bool := c.isAlphanum || c == '_'

/-- The word of characters that were read. -/
def ofWord (read : List Char) : Token := .word (String.ofList (read.reverse.map Char.toUpper))

/-- Reads a character between tokens. -/
def start (c : Char) : Except TokenFault (List Token × Mode) :=
  if Text.isBlank c then .ok ([], .between)
  else if c = '(' then .ok ([opening], .between)
  else if c = ')' then .ok ([closing], .between)
  else if c = '"' then .ok ([], .name [])
  else if c = '\x27' then .ok ([], .text [])
  else if c = '=' then .ok ([op .eq], .between)
  else if c = '<' then .ok ([], .less)
  else if c = '>' then .ok ([], .greater)
  else if isNumberChar c || c == '-' then .ok ([], .number [c])
  else if c.isAlpha then .ok ([], .word [c])
  else .error (.unexpected c)

/-- Ends a token with a character that is read again between tokens. -/
def endWith (t : Token) (c : Char) : Except TokenFault (List Token × Mode) := do
  let (ts, mode) ← start c
  return (t :: ts, mode)

/-- Reads a character. -/
def advance : Mode → Char → Except TokenFault (List Token × Mode)
  | .between, c => start c
  | .name read, c =>
    if c = '"' then .ok ([.name (String.ofList read.reverse)], .between)
    else .ok ([], .name (c :: read))
  | .text read, c => .ok ([], if c = '\x27' then .textQuote read else .text (c :: read))
  | .textQuote read, c =>
    if c = '\x27' then .ok ([], .text (c :: read))
    else endWith (.text (String.ofList read.reverse)) c
  | .number read, c =>
    if isNumberChar c then .ok ([], .number (c :: read))
    else endWith (.number (String.ofList read.reverse)) c
  | .word read, c =>
    if isWordChar c then .ok ([], .word (c :: read)) else endWith (ofWord read) c
  | .less, c =>
    if c = '>' then .ok ([op .ne], .between)
    else if c = '=' then .ok ([op .le], .between)
    else endWith (op .lt) c
  | .greater, c => if c = '=' then .ok ([op .ge], .between) else endWith (op .gt) c

/-- Ends the text. -/
def finish : Mode → Except TokenFault (List Token)
  | .between => .ok []
  | .name _ => .error .unterminatedName
  | .text _ => .error .unterminatedText
  | .textQuote read => .ok [.text (String.ofList read.reverse)]
  | .number read => .ok [.number (String.ofList read.reverse)]
  | .word read => .ok [ofWord read]
  | .less => .ok [op .lt]
  | .greater => .ok [op .gt]

/-- The tokens of the characters that are left. -/
def scan : Mode → List Char → Except TokenFault (List Token)
  | mode, [] => finish mode
  | mode, c :: rest => do
    let (ts, next) ← advance mode c
    return ts ++ (← scan next rest)

/-- The tokens of a text. -/
def all (text : String) : Except TokenFault (List Token) := scan .between text.toList

end Token

end ForeignLayer.Filter
