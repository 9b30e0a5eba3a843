import ForeignLayer.Settings.Fault
import ForeignLayer.Text.Blank

/-!
# Lists of pairs

Options that are handed on to a data source are written `KEY=VALUE`, with blanks between the pairs.
A value with blanks stands in double quotes. Quotes decide first where a pair ends, wherever they
stand in it; only then is each pair looked at, and the quotes around its value fall away.
-/

namespace ForeignLayer.Settings

/-- Options as keys with values, in order. -/
abbrev Pairs := List (String × String)

namespace Pairs

/-- Cuts a text at the blanks outside quotes. `current` is the part so far, backwards. -/
def cut (quoted : Bool) (current : List Char) : List Char → List (List Char)
  | [] => if current.isEmpty then [] else [current.reverse]
  | c :: rest =>
    if c = '"' then cut (!quoted) (c :: current) rest
    else if Text.isBlank c && !quoted then
      if current.isEmpty then cut false [] rest else current.reverse :: cut false [] rest
    else cut quoted (c :: current) rest

/-- The parts of a text that are separated by blanks outside quotes. -/
def tokens (text : String) : List (List Char) := cut false [] text.toList

/-- Whether a character may be part of a key. -/
def isKeyChar (c : Char) : Bool := c.isAlphanum || c == '_' || c == '-'

/-- Whether a value is in quotes that stand around it and nowhere else. -/
def isQuoted : List Char → Bool
  | '"' :: rest =>
    match rest.reverse with
    | '"' :: inner => !inner.contains '"'
    | _ => false
  | _ => false

/-- Whether a value may be written as it is: in quotes, or without blanks. -/
def isValue (value : List Char) : Bool := isQuoted value || !value.any Text.isBlank

/-- The text without the quotes at both ends. -/
def unquote (value : List Char) : List Char :=
  ((value.dropWhile (· = '"')).reverse.dropWhile (· = '"')).reverse

/-- Reads one pair. -/
def readPair (token : List Char) : Except Fault (String × String) :=
  let key := token.takeWhile isKeyChar
  match token.dropWhile isKeyChar with
  | '=' :: value =>
    if !key.isEmpty && isValue value then
      .ok (String.ofList key, String.ofList (unquote value))
    else .error (.malformedPair (String.ofList token))
  | _ => .error (.malformedPair (String.ofList token))

/-- Reads a list of pairs; the first part that is no pair is the fault. -/
def read (text : String) : Except Fault Pairs := (tokens text).mapM readPair

end Pairs

end ForeignLayer.Settings
