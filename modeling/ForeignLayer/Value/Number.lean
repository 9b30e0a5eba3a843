import ForeignLayer.Number.Reading
import ForeignLayer.Text.Blank
import ForeignLayer.Value.Scalar

/-!
# Numeric conversions

Conversions between integers, floating-point numbers, decimals and truth values. A value is never
bent to fit: what has no place in the other type is refused. A fraction is dropped on the way to an
integer, and rounded to the nearest decimal of a scale, half away from zero.

The unscaled integer of a decimal is a word of 128 bits, and so are the powers of ten by which
decimals are rescaled: scales that lie too far apart for that have no conversion at all. Between
decimals, the precision of the result is only checked where the types do not promise that it fits.
-/

namespace ForeignLayer

open Number

-- Powers are the core library's, whichever other instances are in scope.
attribute [local instance (high)] instPowNat

/-- Why a value has no counterpart in another type. -/
inductive CastFault where
  /-- There is no conversion between the two types. -/
  | unsupported
  /-- The value is out of the range of the other type. -/
  | outOfRange
  /-- The text is not written as a value of the other type. -/
  | unreadable
  /-- The types promise that the value fits, but it outgrows its word; nothing can go on. -/
  | broken
deriving DecidableEq, Repr

namespace Convert

/-- The result of a conversion. -/
abbrev Result := Except CastFault

/-- A value that has to be there. -/
def inRange {α : Type} : Option α → Result α
  | some a => .ok a
  | none => .error .outOfRange

/-- A value that has to be readable. -/
def readable {α : Type} : Option α → Result α
  | some a => .ok a
  | none => .error .unreadable

/-! ## Integers -/

/-- The least integer of a width. -/
def minOf (signed : Bool) (width : Width) : Int := if signed then -2 ^ (width.bits - 1) else 0

/-- The greatest integer of a width. -/
def maxOf (signed : Bool) (width : Width) : Int :=
  if signed then 2 ^ (width.bits - 1) - 1 else 2 ^ width.bits - 1

/-- The word of an integer that fits a width. -/
def word? (signed : Bool) (width : Width) (n : Int) : Option (BitVec width.bits) :=
  if minOf signed width ≤ n ∧ n ≤ maxOf signed width then some (BitVec.ofInt width.bits n)
  else none

/-- The word of an integer, which has to fit a width. -/
def toWord (signed : Bool) (width : Width) (n : Int) : Result (BitVec width.bits) :=
  inRange (word? signed width n)

/-- Reads an integer, which has to fit a width: an optional sign and digits up to the end. A minus
sign may stand in front of zero where there are no negative numbers. -/
def readWord (signed : Bool) (width : Width) (text : List Char) : Result (BitVec width.bits) :=
  let (negative, ds) := match text with
    | '-' :: ds => (true, ds)
    | '+' :: ds => (false, ds)
    | ds => (false, ds)
  if ds.isEmpty || !ds.all Char.isDigit then .error .unreadable
  else toWord signed width (if negative then -(digitsValue ds : Int) else digitsValue ds)

/-! ## Truth values -/

/-- The beginnings of words, and the words, that stand for true. -/
def trueWords : List String := ["t", "tr", "tru", "true", "y", "ye", "yes", "on", "1"]

/-- The beginnings of words, and the words, that stand for false. -/
def falseWords : List String :=
  ["f", "fa", "fal", "fals", "false", "n", "no", "of", "off", "0"]

/-- Reads a truth value. -/
def readBool (text : List Char) : Result Bool :=
  let w := String.ofList (Text.trim (text.map Char.toLower))
  if trueWords.contains w then .ok true
  else if falseWords.contains w then .ok false
  else .error .unreadable

/-! ## Decimals -/

/-- The word of an unscaled decimal that has no more digits than a precision. -/
def toDecimal (precision : Nat) (n : Int) : Result (BitVec 128) :=
  if n.natAbs < 10 ^ precision then .ok (BitVec.ofInt 128 n) else .error .outOfRange

/-- An integer divided by a power of ten, rounded half away from zero. -/
def roundedDiv (n : Int) (power : Nat) : Int :=
  let q : Int := divToAway n.natAbs (10 ^ power)
  if n < 0 then -q else q

/-- The number of digits that a power of ten may add to fit the word of a decimal. -/
def maxShift : Nat := 38

/-- The word of an integer that the types promise to fit it. -/
def promised {bits : Nat} (n : Int) : Result (BitVec bits) :=
  let w := BitVec.ofInt bits n
  if w.toInt = n then .ok w else .error .broken

/-- The conversion of unscaled decimals between two types, unless their scales lie too far apart.
The result is checked unless a decimal of the first type always fits the second one; rounding may
add one digit. -/
def rescale? (p : Nat) (s : Int) (q : Nat) (t : Int) : Option (Int → Result (BitVec 128)) :=
  if maxShift < (t - s).natAbs then none
  else if s ≤ t then
    let scaled (n : Int) := n * 10 ^ (t - s).toNat
    some fun n ↦ if p + (t - s) ≤ q then promised (scaled n) else toDecimal q (scaled n)
  else
    let scaled (n : Int) := roundedDiv n (s - t).toNat
    some fun n ↦ if p - (s - t) < q then promised (scaled n) else toDecimal q (scaled n)

/-- The conversion of unscaled decimals to their integer part. A negative scale has none. -/
def decimalToInt? (scale : Int) : Option (Int → Int) :=
  if scale < 0 then none else some fun n ↦ n.tdiv (10 ^ scale.toNat)

/-- The conversion of integers to unscaled decimals, unless the scale is too far from zero; digits
beyond a negative scale are dropped. -/
def intToDecimal? (scale : Int) : Option (Int → Int) :=
  if maxShift < scale.natAbs then none
  else if 0 ≤ scale then some fun n ↦ n * 10 ^ scale.toNat
  else some fun n ↦ n.tdiv (10 ^ scale.natAbs)

/-- The unit of a scale as a number, with the errors of its roundings. -/
def scalePower (scale : Int) : Double := Floating.power (.ofInt 10) scale

/-- The number that a decimal stands for. Its digits, the power of ten and the quotient are rounded
one after the other. -/
def decimalToDouble (scale : Int) (n : Int) : Double := (Floating.ofInt n).div (scalePower scale)

/-- The unscaled decimal nearest to a number. -/
def doubleToDecimal (precision : Nat) (scale : Int) (x : Double) : Result (BitVec 128) := do
  toDecimal precision (← inRange ((scalePower scale).mul x).round?)

/-- Natural numbers that are read as part of a decimal stay below this bound, `2 ^ 255`. -/
def readingBound : Nat := 0x8000000000000000000000000000000000000000000000000000000000000000

/-- Powers of ten that places are rounded away with stay below `10` to this power. -/
def readingShift : Nat := 76

/-- Splits a text at points. -/
def splitPoints (text : List Char) : List (List Char) :=
  text.foldr (fun c parts ↦
    if c = '.' then [] :: parts
    else match parts with
      | part :: others => (c :: part) :: others
      | [] => [[c]]) [[]]

/-- Reads a decimal: an optional sign, digits and a point among them. Places beyond the scale are
rounded away, as long as there are not too many. Without any digit there is still the decimal zero,
if the scale has places for it. -/
def readDecimal (precision : Nat) (scale : Int) (text : List Char) : Result (BitVec 128) := do
  let places := scale.toNat
  let (first, fraction) ← match splitPoints (Text.trim text) with
    | [first] => pure (first, [])
    | [first, fraction] => pure (first, fraction)
    | _ => throw .unreadable
  let (negative, whole) := match first with
    | '-' :: ds => (true, ds)
    | '+' :: ds => (false, ds)
    | ds => (false, ds)
  if !whole.all Char.isDigit || !fraction.all Char.isDigit then throw .unreadable
  if whole.isEmpty && fraction.isEmpty && places = 0 then throw .unreadable
  if readingShift < fraction.length - places ∨
      (places < fraction.length ∧ readingBound ≤ digitsValue fraction) then throw .unreadable
  let kept := roundedDiv (digitsValue fraction) (fraction.length - places) *
    10 ^ (places - fraction.length)
  let n : Int := digitsValue whole * 10 ^ places + kept
  toDecimal precision (if negative then -n else n)

/-- The text of a decimal: no more digits than its precision, and its scale as places. -/
def decimalText (precision : Nat) (scale : Int) (n : Int) : String :=
  let all := decimalDigits n.natAbs
  let ds := all.take precision
  let sign := if n < 0 then ['-'] else []
  let places := scale.toNat
  String.ofList <| sign ++
    if scale < 0 then ds ++ List.replicate scale.natAbs '0'
    else if places = 0 then ds
    else if places < all.length then
      ds.take (ds.length - places) ++ '.' :: ds.drop (ds.length - places)
    else ['0', '.'] ++ List.replicate (places - all.length) '0' ++ all

end Convert

end ForeignLayer
