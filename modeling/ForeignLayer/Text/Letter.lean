/-!
# Letter case

Names are compared in two ways: with the case of ASCII letters set aside, and through the lower or
upper case image of every character. Such an image is only ever compared with a word of ASCII
letters, so the maps below are exact where an image is made of ASCII letters and leave every other
character alone. Few characters beyond ASCII have such an image: the kelvin sign below, and above
the long s, the dotless i, the sharp s and the Latin ligatures.
-/

namespace ForeignLayer.Text

/-- Whether a character belongs to ASCII. -/
def isAscii (c : Char) : Bool := c.toNat < 128

/-- Whether every character of a text belongs to ASCII. -/
def allAscii (text : String) : Bool := text.toList.all isAscii

/-- Whether two texts are the same but for the case of ASCII letters. -/
def sameFolded (a b : String) : Bool := a.toList.map Char.toLower == b.toList.map Char.toLower

/-- The lower case image of a character, where that is an ASCII letter. -/
def lowerImage (c : Char) : Char := if c.toNat = 0x212A then 'k' else c.toLower

/-- The text with every character in lower case, as far as images are ASCII letters. -/
def lower (text : String) : String := String.ofList (text.toList.map lowerImage)

/-- The upper case image of a character, where that is made of ASCII letters. -/
def upperImage (c : Char) : List Char :=
  match c.toNat with
  | 0xDF => ['S', 'S']
  | 0x131 => ['I']
  | 0x17F => ['S']
  | 0xFB00 => ['F', 'F']
  | 0xFB01 => ['F', 'I']
  | 0xFB02 => ['F', 'L']
  | 0xFB03 => ['F', 'F', 'I']
  | 0xFB04 => ['F', 'F', 'L']
  | 0xFB05 => ['S', 'T']
  | 0xFB06 => ['S', 'T']
  | _ => [c.toUpper]

/-- The text with every character in upper case, as far as images are made of ASCII letters. -/
def upper (text : String) : String := String.ofList (text.toList.flatMap upperImage)

end ForeignLayer.Text
