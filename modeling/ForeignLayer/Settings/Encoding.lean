import ForeignLayer.Settings.Pairs

/-!
# Character encodings

The encoding that a source keeps its texts in. Only one encoding is understood here; of the others
just the name is known, and that ASCII texts are the same in all of them.
-/

namespace ForeignLayer

open Settings

/-- The character encoding of a source. -/
inductive Encoding where
  | utf8
  | other (name : String)
deriving DecidableEq, Repr

namespace Encoding

/-- Whether the encoding is the one understood here. -/
def isUtf8 : Encoding → Bool
  | utf8 => true
  | other _ => false

/-- The name of an encoding. -/
def name : Encoding → String
  | utf8 => "UTF-8"
  | other name => name

/-- The encoding with a name. -/
def ofName (name : String) : Encoding :=
  if ["utf8", "utf-8", "utf_8"].contains (Text.lower name) then utf8 else other name

/-- Reads the setting of an encoding, with blanks around it. -/
def read (text : String) : Except Fault Encoding :=
  let name := Text.trim text.toList
  if name.isEmpty then .error .emptyEncoding else .ok (ofName (String.ofList name))

/-- The encoding that open options ask for; of several the first one counts. -/
def ofOpenOptions? (options : String) : Except Fault (Option Encoding) := do
  let pairs ← Pairs.read options
  return (pairs.find? fun p ↦ Text.sameFolded p.1 "ENCODING").map fun p ↦ ofName p.2

end Encoding

end ForeignLayer
