import ForeignLayer.Geometry.Kind
import ForeignLayer.Number.Reading

/-!
# Faults of geometry encodings

Every reason for which bytes or a text are refused as a geometry, as one closed type with the
wording in one place.
-/

namespace ForeignLayer.Geometry

/-- Nested geometries may lie this many levels below the outermost one. -/
def maxDepth : Nat := 64

/-- Why bytes or a text hold no geometry. -/
inductive Fault where
  /-- The byte order mark is neither of the two. -/
  | byteOrder (mark : UInt8)
  /-- A type code lies beyond the four groups of a thousand. -/
  | typeCode (code : Nat)
  /-- No kind of geometry has this number. -/
  | kindCode (code : Nat)
  /-- No kind of geometry has this name. -/
  | kindName (name : String)
  /-- A geometry of the generic kind has no binary form. -/
  | genericBody
  /-- Geometries are nested below `maxDepth`. -/
  | tooDeep
  /-- Bytes are left after the geometry. -/
  | trailing (count : Nat)
  /-- The bytes end before the next part is complete. -/
  | truncated (offset needed : Nat)
  /-- The coordinates of the bytes cannot be reached. -/
  | unreadable
  /-- The text is no geometry text. -/
  | malformedText
  /-- A line string has a single coordinate. -/
  | shortLineString
  /-- A ring of a polygon has less than four coordinates. -/
  | shortRing (count : Nat)
  /-- The first and the last coordinate of a ring differ in X or Y. -/
  | openRing
  /-- The tag in front of a geometry text does not end. -/
  | unterminatedTag (text : String)
  /-- The tag in front of a geometry text is no number of 32 bits. -/
  | invalidTag (tag : String) (reason : Number.IntegerFault)
deriving DecidableEq, Repr

/-- The wording of a fault. -/
def Fault.message : Fault → String
  | byteOrder mark => "Unexpected byte order: " ++ toString mark.toNat
  | typeCode code => "Unexpected WKB geometry type code: " ++ toString code
  | kindCode code => "Unknown geometry type identifier " ++ toString code
  | kindName name => "Invalid geometry type string: '" ++ name ++ "'"
  | genericBody => "Invalid WKB: generic geometry type code 0 has no body"
  | tooDeep => "Invalid WKB: nesting deeper than " ++ toString maxDepth ++ " levels"
  | trailing count => "Invalid WKB: " ++ toString count ++ " trailing bytes after geometry"
  | truncated offset needed =>
    "Invalid WKB: buffer too small at offset " ++ toString offset ++ " (need " ++
      toString needed ++ " bytes)"
  | unreadable => "The coordinates cannot be read"
  | malformedText => "The text is not a geometry"
  | shortLineString => "LineString must have at least two points"
  | shortRing count => "Polygon ring must have at least four points but has " ++ toString count
  | openRing => "Polygon ring is not closed"
  | unterminatedTag text => "Missing ';' after SRID in '" ++ text ++ "'"
  | invalidTag tag reason => "Invalid SRID '" ++ tag ++ "': " ++ reason.message

end ForeignLayer.Geometry
