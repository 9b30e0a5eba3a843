import ForeignLayer.Number.Reading

/-!
# Tokens of geometry texts

A geometry text is cut at parentheses, commas and blanks. What starts like a number has to be one;
a plus sign in front of it is dropped. Everything else up to the next cut is a word, whatever its
characters are. A NUL ends the text.
-/

namespace ForeignLayer.Geometry.Wkt

open Number

/-- A token of a geometry text. -/
inductive Token where
  | opening
  | closing
  | comma
  | number (value : Double)
  | word (text : String)
  /-- A token that starts like a number and is none. -/
  | bad
deriving DecidableEq, Repr

/-- The blanks of geometry texts. -/
def isSpace (c : Char) : Bool := c == ' ' || c == '\n' || c == '\r' || c == '\t'

/-- Whether a token that starts with a character is a number. -/
def startsNumber (c : Char) : Bool := c.isDigit || c == '.' || c == '-' || c == '+'

/-- The token for the characters collected so far, last one first. -/
def Token.ofPending (isNumber : Bool) (reversed : List Char) : Token :=
  if isNumber then
    match readDouble? reversed.reverse with
    | some x => .number x
    | none => .bad
  else .word (String.ofList reversed.reverse)

/-- The tokens of a text. A number or word that is being read is held with its characters reversed,
together with whether it is a number. -/
def tokensFrom : Option (Bool × List Char) → List Char → List Token
  | none, [] => []
  | some (isNumber, cs), [] => [.ofPending isNumber cs]
  | pending, c :: rest =>
    let done := match pending with
      | some (isNumber, cs) => [.ofPending isNumber cs]
      | none => []
    if c = '\x00' then done
    else if c = '(' then done ++ .opening :: tokensFrom none rest
    else if c = ')' then done ++ .closing :: tokensFrom none rest
    else if c = ',' then done ++ .comma :: tokensFrom none rest
    else if isSpace c then done ++ tokensFrom none rest
    else match pending with
      | some (isNumber, cs) => tokensFrom (some (isNumber, c :: cs)) rest
      | none =>
        if c = '+' then tokensFrom (some (true, [])) rest
        else tokensFrom (some (startsNumber c, [c])) rest

/-- The tokens of a text. -/
def tokens (text : List Char) : List Token := tokensFrom none text

end ForeignLayer.Geometry.Wkt
