import ForeignLayer.Number.Shortest

/-!
# Texts of numbers

The spellings of floating-point numbers that the library writes. All use the fewest digits that
read back. Plain text is always positional and adds nothing to a whole number. Marked text, and the
number text of JSON with it, always shows by a point or an exponent that the number is not an
integer, and turns to an exponent far from one.
-/

namespace ForeignLayer.Number

/-- The decimal digits of a natural. -/
def decimalDigits (n : Nat) : List Char := Nat.toDigits 10 n

/-- An integer in decimal digits, with a minus sign if it is negative. -/
def integerText (n : Int) : String :=
  String.ofList (if n < 0 then '-' :: decimalDigits n.natAbs else decimalDigits n.natAbs)

/-- A natural in at least `width` digits, zeros in front. -/
def paddedText (width n : Nat) : String :=
  let ds := decimalDigits n
  String.ofList (List.replicate (width - ds.length) '0' ++ ds)

/-- The decisions behind marked text. -/
structure MarkedForm where
  /-- The place of the point up to which there is an exponent. -/
  low : Int
  /-- The place of the point above which there is an exponent. -/
  high : Int
  /-- What stands in front of a positive exponent. -/
  mark : List Char
deriving DecidableEq, Repr

namespace MarkedForm

/-- No exponent from `10 ^ -5` up to `10 ^ 16`. -/
def double : MarkedForm := ⟨-5, 16, []⟩

/-- No exponent from `10 ^ -6` up to `10 ^ 13`. -/
def single : MarkedForm := ⟨-6, 13, []⟩

/-- The form of numbers in JSON, where every exponent has a sign. -/
def json : MarkedForm := { double with mark := ['+'] }

/-- The form for the numbers of a layout. -/
def ofLayout (L : Layout) : MarkedForm :=
  if L.fractionBits ≤ Layout.single.fractionBits then single else double

end MarkedForm

namespace Decimal

/-- The decimal written out, without point if it is whole. -/
def positional (d : Decimal) : List Char :=
  let ds := decimalDigits d.digits
  if 0 ≤ d.exponent then ds ++ List.replicate d.exponent.toNat '0'
  else
    let places := (-d.exponent).toNat
    let ds := List.replicate (places + 1 - ds.length) '0' ++ ds
    ds.take (ds.length - places) ++ '.' :: ds.drop (ds.length - places)

/-- The decimal written out, with a point and a zero if it is whole. -/
def pointed (d : Decimal) : List Char :=
  if 0 ≤ d.exponent then d.positional ++ ['.', '0'] else d.positional

/-- The decimal with one digit before the point and an exponent, with `mark` in front of a positive
one. -/
def scientific (mark : List Char) (d : Decimal) : List Char :=
  let ds := decimalDigits d.digits
  let e := d.exponent + (ds.length - 1 : Nat)
  let mantissa := match ds with
    | [c] => [c]
    | c :: rest => c :: '.' :: rest
    | [] => []
  mantissa ++ 'e' :: (if e < 0 then ['-'] else mark) ++ decimalDigits e.natAbs

/-- The number of digits before the point; it is negative if zeros follow the point. -/
def pointPlace (d : Decimal) : Int := d.exponent + (decimalDigits d.digits).length

/-- The decimal in a marked form. -/
def marked (form : MarkedForm) (d : Decimal) : List Char :=
  if d.digits = 0 ∨ (form.low < d.pointPlace ∧ d.pointPlace ≤ form.high) then d.pointed
  else d.scientific form.mark

end Decimal

namespace Floating

variable {L : Layout}

/-- A text with the sign of a number in front. -/
def signed (negative : Bool) (body : List Char) : String :=
  String.ofList (if negative then '-' :: body else body)

/-- The plain text: positional, a whole number without point, `-0` for negative zero. -/
def text (x : Floating L) : String :=
  match x.datum with
  | .nan => "NaN"
  | .infinite s => if s then "-inf" else "inf"
  | .finite s m q => signed s (L.shortest m q).positional

/-- The marked text, in the form of the layout. -/
def markedText (x : Floating L) : String :=
  match x.datum with
  | .finite s m q => signed s ((L.shortest m q).marked (.ofLayout L))
  | _ => x.text

/-- The number text of JSON. What is not finite has none and is `null`. -/
def jsonText (x : Floating L) : String :=
  match x.datum with
  | .finite s m q => signed s ((L.shortest m q).marked .json)
  | _ => "null"

end Floating

end ForeignLayer.Number
