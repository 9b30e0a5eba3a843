import ForeignLayer.Geometry.Shape
import ForeignLayer.Geometry.Wkt.Token

/-!
# Reading geometry texts

A geometry text is a keyword, the letters of its dimensions joined to it or apart, and either the
word for empty or its parts in parentheses. Every part has the dimensions of the outer keyword,
except the members of a collection, which are geometry texts of their own. Nothing is said about
what follows a complete geometry: it is not looked at.
-/

namespace ForeignLayer.Geometry.Wkt

open Number

/-- A step of reading tokens, which may fail. -/
abbrev Parser := StateT (List Token) Option

/-- Takes the next token. -/
def next : Parser Token := fun
  | [] => none
  | t :: rest => some (t, rest)

/-- The next token, which is not taken. -/
def peek? : Parser (Option Token) := fun ts ↦ some (ts.head?, ts)

/-- Takes a token that has to be next. -/
def expect (t : Token) : Parser Unit := do if (← next) = t then return () else failure

/-- Takes a number. -/
def number : Parser Double := do
  match ← next with
  | .number x => return x
  | _ => failure

/-- Takes a word. -/
def word : Parser String := do
  match ← next with
  | .word w => return w
  | _ => failure

/-- Takes parts between commas. There are at most as many parts as the fuel, one more than there
are tokens, so that it never ends the list. -/
def partsWithin {α : Type} (part : Parser α) : Nat → Parser (List α)
  | 0 => failure
  | fuel + 1 => do
    let first ← part
    if (← peek?) = some .comma then
      expect .comma
      let others ← partsWithin part fuel
      return first :: others
    else return [first]

/-- Takes one part or more, with commas between them. -/
def parts {α : Type} (part : Parser α) : Parser (List α) := do
  partsWithin part ((← get).length + 1)

/-- Takes the word for empty, or a body in parentheses. -/
def inParens {α : Type} (empty : α) (body : Parser α) : Parser α := do
  match ← next with
  | .opening =>
    let a ← body
    expect .closing
    return a
  | .word w => if Text.sameFolded w "EMPTY" then return empty else failure
  | _ => failure

/-- Takes a coordinate. -/
def coord (dims : Dimensions) : Parser Coord := do
  let x ← number
  let y ← number
  let more ← match dims with
    | .xy => pure []
    | .xyz | .xym => (fun a ↦ [a]) <$> number
    | .xyzm => do
      let z ← number
      let m ← number
      pure [z, m]
  return ⟨x, y, more⟩

/-- Takes the coordinates of a line string or a ring in parentheses. -/
def coords (dims : Dimensions) : Parser (List Coord) := inParens [] (parts (coord dims))

/-- Takes the rings of a polygon in parentheses. -/
def rings (dims : Dimensions) : Parser (List (List Coord)) := inParens [] (parts (coords dims))

/-- Takes a point of a multi point, with or without parentheses. -/
def memberPoint (dims : Dimensions) : Parser (Option Coord) := do
  if (← peek?) = some .opening then inParens none (some <$> coord dims)
  else some <$> coord dims

/-- The letters of dimensions. -/
def dimsOfLetters? (w : String) : Option Dimensions :=
  if Text.sameFolded w "Z" then some .xyz
  else if Text.sameFolded w "M" then some .xym
  else if Text.sameFolded w "ZM" then some .xyzm
  else none

/-- Takes the letters of dimensions that stand apart, if there are any. -/
def dimsApart : Parser Dimensions := do
  match ← peek? with
  | none | some .bad => failure
  | some (.word w) =>
    match dimsOfLetters? w with
    | some dims => do
      discard next
      return dims
    | none => if Text.sameFolded w "EMPTY" then return .xy else failure
  | some _ => return .xy

/-- The concrete kinds of geometry, which have keywords. -/
def keywordKinds : List Kind :=
  [.point, .lineString, .polygon, .multiPoint, .multiLineString, .multiPolygon,
    .geometryCollection]

/-- The kind that a keyword names, and the dimensions that are joined to it. -/
def keyword? (w : String) : Option (Kind × Option Dimensions) :=
  if Text.sameFolded w "LINEARRING" then some (.lineString, none)
  else keywordKinds.findSome? fun k ↦
    if Text.sameFolded w k.name then some (k, none)
    else if Text.sameFolded w (k.name ++ "Z") then some (k, some .xyz)
    else if Text.sameFolded w (k.name ++ "M") then some (k, some .xym)
    else if Text.sameFolded w (k.name ++ "ZM") then some (k, some .xyzm)
    else none

/-- Takes a geometry; `member` takes a member of a collection. -/
def geometryWith (member : Parser Shape) : Parser Shape := do
  let some (kind, joined) := keyword? (← word) | failure
  let dims ← match joined with
    | some dims => pure dims
    | none => dimsApart
  match kind with
  | .geometry => failure
  | .point => .point dims <$> inParens none (some <$> coord dims)
  | .lineString => .lineString dims <$> coords dims
  | .polygon => .polygon dims <$> rings dims
  | .multiPoint => .multiPoint dims <$> inParens [] (parts (memberPoint dims))
  | .multiLineString => .multiLineString dims <$> inParens [] (parts (coords dims))
  | .multiPolygon => .multiPolygon dims <$> inParens [] (parts (rings dims))
  | .geometryCollection => .collection dims <$> inParens [] (parts member)

/-- Takes a geometry with collections on fewer levels than the fuel. -/
def geometryWithin : Nat → Parser Shape
  | 0 => failure
  | fuel + 1 => geometryWith (geometryWithin fuel)

/-- Reads a text as a shape; every collection takes a token, so that the fuel is enough. -/
def read? (text : List Char) : Option Shape :=
  let ts := tokens text
  ((geometryWithin (ts.length + 1)).run ts).map Prod.fst

end ForeignLayer.Geometry.Wkt
