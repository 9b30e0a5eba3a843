import ForeignLayer.Box
import ForeignLayer.Json.Value
import ForeignLayer.Number.Text

/-!
# Boxes in JSON

A box is written as an object with its four bounds. What is read may also be the list of the four
bounds, and an object may hold members of other names, which are passed over. Each bound has to be
there once and has to be a number; an infinite bound is written as null and cannot be read back.
-/

namespace ForeignLayer.Box

open Number Json

/-- The JSON text of a box. -/
def jsonText (b : Box) : String :=
  "\x7b\"min_x\":" ++ b.minX.jsonText ++ ",\"min_y\":" ++ b.minY.jsonText ++ ",\"max_x\":" ++
    b.maxX.jsonText ++ ",\"max_y\":" ++ b.maxY.jsonText ++ "\x7d"

/-- The bound that a tree stands for. -/
def bound? : Tree → Option Double
  | .number n => n.amount?.map Amount.toDouble
  | _ => none

/-- The bound under a name, which is there exactly once. -/
def uniqueBound? (members : List (String × Tree)) (name : String) : Option Double :=
  match members.filter (·.1 = name) with
  | [(_, t)] => bound? t
  | _ => none

/-- Reads a box from JSON text. -/
def ofJson? (text : String) : Option Box := do
  match ← Tree.read? text with
  | .array [a, b, c, d] => return ⟨← bound? a, ← bound? b, ← bound? c, ← bound? d⟩
  | .object members =>
    let members ← members.mapM fun m ↦ return (← text? m.1, m.2)
    let bound := uniqueBound? members
    return ⟨← bound "min_x", ← bound "min_y", ← bound "max_x", ← bound "max_y"⟩
  | _ => none

end ForeignLayer.Box
