import ForeignLayer.Text.Printable

/-!
# Quotations

Texts in double quotes, as messages show them: the quote and the backslash are escaped, common
controls have letters, and other characters that are not printable are spelled by their number.
-/

namespace ForeignLayer.Text

/-- A character within a quotation. -/
def quoteChar (c : Char) : List Char :=
  if c = '\x00' then ['\\', '0']
  else if c = '\t' then ['\\', 't']
  else if c = '\r' then ['\\', 'r']
  else if c = '\n' then ['\\', 'n']
  else if c = '\\' then ['\\', '\\']
  else if c = '"' then ['\\', '"']
  else if isPrintable c then [c]
  else ['\\', 'u', '\x7b'] ++ Nat.toDigits 16 c.toNat ++ ['\x7d']

/-- A text in double quotes. -/
def quote (text : String) : String :=
  String.ofList ('"' :: text.toList.flatMap quoteChar ++ ['"'])

/-- An optional text, in double quotes if there is one. -/
def quoteOption (text : Option String) : String :=
  match text with
  | none => "None"
  | some s => "Some(" ++ quote s ++ ")"

end ForeignLayer.Text
