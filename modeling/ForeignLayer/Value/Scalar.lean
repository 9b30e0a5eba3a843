import ForeignLayer.Number.Floating
import ForeignLayer.Value.DataType

/-!
# Column values

A value is held in the carrier of its type, so that a value that does not fit its type cannot be
written down: integers, dates, times and decimals are words of the width they are stored in, lists
hold values of one element type or nulls. A `Scalar` is a type with a value of it or with null.

Two scalars are equal if they have one type and the same value, floating-point numbers bit by bit;
that is plain `=` here. The order of values is a partial one: only values of one type compare, lists
do not, and floating-point numbers stand in their total order.
-/

namespace ForeignLayer

open Number

/-- The values of a type. -/
@[reducible] def DataType.Carrier : DataType → Type
  | null => Empty
  | boolean => Bool
  | integer _ width => BitVec width.bits
  | float32 => Single
  | float64 => Double
  | decimal .. => BitVec 128
  | text _ => String
  | binary _ => List UInt8
  | fixedSizeBinary _ => List UInt8
  | date32 => BitVec 32
  | date64 => BitVec 64
  | time32 _ => BitVec 32
  | time64 _ => BitVec 64
  | duration _ => BitVec 64
  | timestamp .. => BitVec 64
  | list _ element _ => List (Option element.Carrier)

/-- Equality of the values of a type can be decided. -/
def DataType.decEqCarrier : (t : DataType) → DecidableEq t.Carrier
  | null => inferInstanceAs (DecidableEq Empty)
  | boolean => inferInstanceAs (DecidableEq Bool)
  | integer _ width => inferInstanceAs (DecidableEq (BitVec width.bits))
  | float32 => inferInstanceAs (DecidableEq Single)
  | float64 => inferInstanceAs (DecidableEq Double)
  | decimal .. => inferInstanceAs (DecidableEq (BitVec 128))
  | text _ => inferInstanceAs (DecidableEq String)
  | binary _ => inferInstanceAs (DecidableEq (List UInt8))
  | fixedSizeBinary _ => inferInstanceAs (DecidableEq (List UInt8))
  | date32 => inferInstanceAs (DecidableEq (BitVec 32))
  | date64 => inferInstanceAs (DecidableEq (BitVec 64))
  | time32 _ => inferInstanceAs (DecidableEq (BitVec 32))
  | time64 _ => inferInstanceAs (DecidableEq (BitVec 64))
  | duration _ => inferInstanceAs (DecidableEq (BitVec 64))
  | timestamp .. => inferInstanceAs (DecidableEq (BitVec 64))
  | list _ element _ =>
    have := element.decEqCarrier
    inferInstanceAs (DecidableEq (List (Option element.Carrier)))

instance (t : DataType) : DecidableEq t.Carrier := t.decEqCarrier

/-- The number that an integer word stands for. -/
def Width.toInt (signed : Bool) {width : Width} (word : BitVec width.bits) : Int :=
  if signed then word.toInt else word.toNat

/-- A value of a type, or null. -/
structure Scalar where
  type : DataType
  value : Option type.Carrier
deriving DecidableEq

namespace Scalar

/-- The null of a type. -/
def nullOf (t : DataType) : Scalar := ⟨t, none⟩

/-- A value of a type. -/
def of (t : DataType) (v : t.Carrier) : Scalar := ⟨t, some v⟩

/-- Whether a scalar is a null; the type of nulls has no other scalar. -/
def isNull (s : Scalar) : Bool := s.value.isNone

/-- A text. -/
def ofText (s : String) : Scalar := of .utf8 s

/-- The truth value that a scalar holds. -/
def bool? : Scalar → Option Bool
  | ⟨.boolean, v⟩ => v
  | _ => none

/-- The integer that a scalar holds. -/
def integer? : Scalar → Option Int
  | ⟨.integer signed _, v⟩ => v.map (Width.toInt signed)
  | _ => none

/-- The text that a scalar holds. -/
def text? : Scalar → Option String
  | ⟨.text _, v⟩ => v
  | _ => none

/-- The number that a scalar of 64 bits holds. -/
def double? : Scalar → Option Double
  | ⟨.float64, v⟩ => v
  | _ => none

/-- The bytes that a scalar holds. -/
def bytes? : Scalar → Option (List UInt8)
  | ⟨.binary _, v⟩ => v
  | ⟨.fixedSizeBinary _, v⟩ => v
  | _ => none

/-! ## Order -/

/-- Compares values of one type: numbers by value, floating-point numbers in their total order,
texts by code points and bytes in turn. -/
def compareValues : (t : DataType) → t.Carrier → t.Carrier → Option Ordering
  | .null, _, _ => none
  | .boolean, a, b => some (compare a.toNat b.toNat)
  | .integer signed _, a, b => some (compare (Width.toInt signed a) (Width.toInt signed b))
  | .float32, a, b => some (compare a.totalKey b.totalKey)
  | .float64, a, b => some (compare a.totalKey b.totalKey)
  | .decimal .., a, b => some (compare a.toInt b.toInt)
  | .text _, a, b => some (compareLists (a.toList.map Char.toNat) (b.toList.map Char.toNat))
  | .binary _, a, b => some (compareLists (a.map UInt8.toNat) (b.map UInt8.toNat))
  | .fixedSizeBinary _, a, b => some (compareLists (a.map UInt8.toNat) (b.map UInt8.toNat))
  | .date32, a, b => some (compare a.toInt b.toInt)
  | .date64, a, b => some (compare a.toInt b.toInt)
  | .time32 _, a, b => some (compare a.toInt b.toInt)
  | .time64 _, a, b => some (compare a.toInt b.toInt)
  | .duration _, a, b => some (compare a.toInt b.toInt)
  | .timestamp .., a, b => some (compare a.toInt b.toInt)
  | .list .., _, _ => none
where
  /-- Compares lists of numbers element by element, a proper beginning being less. -/
  compareLists : List Nat → List Nat → Ordering
    | [], [] => .eq
    | [], _ :: _ => .lt
    | _ :: _, [] => .gt
    | a :: as, b :: bs => (compare a b).then (compareLists as bs)

/-- Compares scalars that are not null and have one type. -/
def compare? (a b : Scalar) : Option Ordering :=
  if h : b.type = a.type then
    match a.value, h ▸ b.value with
    | some x, some y => compareValues a.type x y
    | _, _ => none
  else none

end Scalar

end ForeignLayer
