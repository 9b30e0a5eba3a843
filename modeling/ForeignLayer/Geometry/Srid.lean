/-!
# Reference system identifiers

A geometry may be tagged with the identifier of its spatial reference system, a signed number of
32 bits. Zero means that there is none, so a tag is an identifier that is not zero, and "no tag" is
`none` everywhere. Columns carry a tag in their type modifier, in the 21 bits from the ninth up.
-/

namespace ForeignLayer.Geometry

/-- The identifier of a spatial reference system, never zero. -/
structure Srid where
  /-- The identifier as a word. -/
  code : BitVec 32
  nonzero : code ≠ 0#32
deriving DecidableEq

namespace Srid

/-- The tag of an identifier, none for zero. -/
def ofCode? (code : BitVec 32) : Option Srid := if h : code = 0#32 then none else some ⟨code, h⟩

/-- The identifier as a number with a sign. -/
def toInt (s : Srid) : Int := s.code.toInt

@[simp] theorem ofCode?_code (s : Srid) : ofCode? s.code = some s :=
  dif_neg s.nonzero

/-- The type modifier that carries a tag, zero for none. -/
def typeModifier (tag : Option Srid) : BitVec 32 :=
  match tag with
  | some s => (s.code <<< 8) &&& 0x1FFFFF00#32
  | none => 0

/-- The tag that a type modifier carries. A negative modifier carries none. -/
def ofTypeModifier? (modifier : BitVec 32) : Option Srid :=
  if modifier.msb then none
  else
    let size := modifier &&& 0x0FFFFF00#32
    let sign := modifier &&& 0x10000000#32
    ofCode? ((size - sign).sshiftRight 8)

end Srid

end ForeignLayer.Geometry
