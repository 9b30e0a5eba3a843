/-!
# Blank characters

The characters of the property White_Space, and the removal of blanks around a text. Number and
JSON texts know fewer blanks; they name theirs where they are read.
-/

namespace ForeignLayer.Text

/-- Whether a character has the property White_Space. -/
def isBlank (c : Char) : Bool :=
  let n := c.toNat
  (9 ≤ n && n ≤ 13) || n == 0x20 || n == 0x85 || n == 0xA0 || n == 0x1680 ||
  (0x2000 ≤ n && n ≤ 0x200A) || n == 0x2028 || n == 0x2029 || n == 0x202F || n == 0x205F ||
  n == 0x3000

/-- The text without the blanks at its start. -/
def trimStart (text : List Char) : List Char := text.dropWhile isBlank

/-- The text without the blanks at its end. -/
def trimEnd (text : List Char) : List Char := (text.reverse.dropWhile isBlank).reverse

/-- The text without the blanks around it. -/
def trim (text : List Char) : List Char := trimEnd (trimStart text)

end ForeignLayer.Text
