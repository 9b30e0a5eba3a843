import ForeignLayer.Geometry.Shape
import ForeignLayer.Number.Text

/-!
# Writing geometry texts

The text of a shape: an upper case keyword, the letters of its dimensions after a blank, and the
parts without blanks around parentheses and commas. What has no parts ends with the word for
empty.

The word has no place inside a list. A line without coordinates is empty parentheses there, while a
point without coordinate and a polygon without rings cannot be written, so that a shape with such a
member has no text.
-/

namespace ForeignLayer.Geometry.Wkt

open Number

/-- Texts with commas between them. -/
def joinCommas (texts : List String) : String := String.intercalate "," texts

/-- Texts in parentheses. -/
def enclosed (texts : List String) : String := "(" ++ joinCommas texts ++ ")"

/-- Texts in parentheses, or the word for empty. -/
def listText (texts : List String) : String := if texts.isEmpty then " EMPTY" else enclosed texts

/-- The ordinates of a coordinate with blanks between them. -/
def coordText (c : Coord) : String :=
  String.intercalate " " ((c.x :: c.y :: c.more).map Floating.text)

/-- The coordinates of a ring or a line in a list. -/
def lineText (cs : List Coord) : String := enclosed (cs.map coordText)

/-- The point in a list, which has to have a coordinate. -/
def pointText? (c : Option Coord) : Option String := c.map fun c ↦ enclosed [coordText c]

/-- The rings of a polygon in a list, which has to have some. -/
def ringsText? (rs : List (List Coord)) : Option String :=
  if rs.isEmpty then none else some (enclosed (rs.map lineText))

/-- A keyword with the letters of its dimensions. -/
def keywordText (kind : Kind) (dims : Dimensions) : String :=
  kind.name.map Char.toUpper ++ match dims with
    | .xy => ""
    | .xyz => " Z"
    | .xym => " M"
    | .xyzm => " ZM"

/-- The text of a shape, unless it has a member that cannot be written. -/
def write? : Shape → Option String
  | .point d c => some (keywordText .point d ++ listText (c.toList.map coordText))
  | .lineString d cs => some (keywordText .lineString d ++ listText (cs.map coordText))
  | .polygon d rs => some (keywordText .polygon d ++ listText (rs.map lineText))
  | .multiPoint d ps => do return keywordText .multiPoint d ++ listText (← ps.mapM pointText?)
  | .multiLineString d ls => some (keywordText .multiLineString d ++ listText (ls.map lineText))
  | .multiPolygon d ps => do return keywordText .multiPolygon d ++ listText (← ps.mapM ringsText?)
  | .collection d ms => do return keywordText .geometryCollection d ++ listText (← writeAll? ms)
where
  /-- The texts of some shapes. -/
  writeAll? : List Shape → Option (List String)
    | [] => some []
    | member :: others => do return (← write? member) :: (← writeAll? others)

end ForeignLayer.Geometry.Wkt
