import ForeignLayer.Number.Layout

/-!
# Floating-point numbers

Words of a layout with the arithmetic of binary interchange formats. Three comparisons live side
by side because the library needs all of them: `=` tells words apart bit by bit, `Floating.equal`
and the order by `Floating.key` are numeric (both zeros agree and a NaN compares with nothing),
and `Floating.totalKey` puts every word, NaNs included, on one line.
-/

namespace ForeignLayer.Number

-- Powers are the core library's, whichever other instances are in scope.
attribute [local instance (high)] instPowNat

/-- A floating-point number, held as its word. -/
structure Floating (L : Layout) where
  /-- The word, the sign in its highest bit. -/
  bits : BitVec L.width
deriving DecidableEq, Repr

/-- Numbers held in 64 bits. -/
abbrev Double := Floating .double

/-- Numbers held in 32 bits. -/
abbrev Single := Floating .single

namespace Floating

variable {L : Layout}

/-- The number with a given sign and magnitude. -/
def ofMagnitude (negative : Bool) (magnitude : Nat) : Floating L :=
  ⟨BitVec.ofNat L.width (if negative then L.signBit + magnitude else magnitude)⟩

/-- Whether the sign bit is set. -/
def negative (x : Floating L) : Bool := decide (L.signBit ≤ x.bits.toNat)

/-- The word without its sign bit. -/
def magnitude (x : Floating L) : Nat := x.bits.toNat % L.signBit

/-- The exact meaning of the word. -/
def datum (x : Floating L) : Datum := L.datum x.negative x.magnitude

/-- Whether the word is not a number. -/
def isNaN (x : Floating L) : Bool := decide (L.infinity < x.magnitude)

/-- Whether the word stands for a number that is not infinite. -/
def isFinite (x : Floating L) : Bool := decide (x.magnitude < L.infinity)

/-- Positive zero. -/
def zero : Floating L := ofMagnitude false 0

/-- The infinity of a sign. -/
def infinity (negative : Bool) : Floating L := ofMagnitude negative L.infinity

/-- The quiet NaN without payload. -/
def nan : Floating L := ofMagnitude false L.quietNaN

/-! ## Order -/

/-- The place of a number on a line of integers: signed magnitudes, where both zeros meet. -/
def key (x : Floating L) : Int := if x.negative then -(x.magnitude : Int) else x.magnitude

/-- The place of a word in the total order, where negative zero comes just before positive zero
and NaNs lie beyond the infinity of their sign. -/
def totalKey (x : Floating L) : Int :=
  if x.negative then -(x.magnitude : Int) - 1 else x.magnitude

/-- Numeric equality: a NaN equals nothing and the zeros equal each other. -/
def equal (x y : Floating L) : Bool := !x.isNaN && !y.isNaN && decide (x.key = y.key)

/-- Numeric less-or-equal, false as soon as a NaN is involved. -/
def le (x y : Floating L) : Bool := !x.isNaN && !y.isNaN && decide (x.key ≤ y.key)

/-- Numeric strict order, false as soon as a NaN is involved. -/
def lt (x y : Floating L) : Bool := !x.isNaN && !y.isNaN && decide (x.key < y.key)

/-- The lesser of two numbers; a NaN gives way to the other operand, equal ones to the first. -/
def min (x y : Floating L) : Floating L :=
  if x.isNaN then y else if y.lt x then y else x

/-- The greater of two numbers; a NaN gives way to the other operand, equal ones to the first. -/
def max (x y : Floating L) : Floating L :=
  if x.isNaN then y else if x.lt y then y else x

/-! ## Arithmetic -/

/-- The number nearest to a signed fraction. -/
def ofRatio (negative : Bool) (num den : Nat) : Floating L :=
  ofMagnitude negative (L.roundRatio num den)

/-- The number nearest to `± m · 2 ^ q`. -/
def ofScaled (negative : Bool) (m : Nat) (q : Int) : Floating L :=
  ofMagnitude negative (L.roundScaled m q)

/-- The number nearest to an integer. -/
def ofInt (n : Int) : Floating L := ofRatio (decide (n < 0)) n.natAbs 1

/-- The sum, rounded once. An exact zero is positive unless both operands are negative zeros. -/
def add (x y : Floating L) : Floating L :=
  match x.datum, y.datum with
  | .nan, _ | _, .nan => nan
  | .infinite a, .infinite b => if a = b then infinity a else nan
  | .infinite a, _ | _, .infinite a => infinity a
  | .finite a m p, .finite b n q =>
    let low := Min.min p q
    let signed (s : Bool) (k : Nat) (e : Int) : Int :=
      let v : Int := k * 2 ^ (e - low).toNat
      if s then -v else v
    let total := signed a m p + signed b n q
    if total = 0 then ofMagnitude (a && b) 0
    else ofScaled (decide (total < 0)) total.natAbs low

/-- The product, rounded once. -/
def mul (x y : Floating L) : Floating L :=
  match x.datum, y.datum with
  | .nan, _ | _, .nan => nan
  | .infinite a, .infinite b => infinity (a != b)
  | .infinite a, .finite b n _ | .finite b n _, .infinite a =>
    if n = 0 then nan else infinity (a != b)
  | .finite a m p, .finite b n q => ofScaled (a != b) (m * n) (p + q)

/-- The quotient, rounded once. -/
def div (x y : Floating L) : Floating L :=
  match x.datum, y.datum with
  | .nan, _ | _, .nan => nan
  | .infinite _, .infinite _ => nan
  | .infinite a, .finite b _ _ => infinity (a != b)
  | .finite a _ _, .infinite b => ofMagnitude (a != b) 0
  | .finite a m p, .finite b n q =>
    if n = 0 then (if m = 0 then nan else infinity (a != b))
    else if p < q then ofRatio (a != b) m (n * 2 ^ (q - p).toNat)
    else ofRatio (a != b) (m * 2 ^ (p - q).toNat) n

/-! ## Integers and other layouts -/

/-- The integer part, the fraction dropped toward zero; infinities and NaNs have none. -/
def truncate? (x : Floating L) : Option Int :=
  match x.datum with
  | .finite s m q =>
    let n : Nat := if 0 ≤ q then m * 2 ^ q.toNat else m / 2 ^ (-q).toNat
    some (if s then -(n : Int) else n)
  | _ => none

/-- The nearest integer, a half going away from zero; infinities and NaNs have none. -/
def round? (x : Floating L) : Option Int :=
  match x.datum with
  | .finite s m q =>
    let n : Nat := if 0 ≤ q then m * 2 ^ q.toNat else divToAway m (2 ^ (-q).toNat)
    some (if s then -(n : Int) else n)
  | _ => none

/-- The nearest number of another layout. A NaN keeps its sign and the leading bits of its
fraction, and becomes quiet. -/
def convert {M : Layout} (x : Floating L) : Floating M :=
  match x.datum with
  | .nan =>
    let fraction := x.magnitude % L.unit
    let moved := if L.fractionBits ≤ M.fractionBits
      then fraction * 2 ^ (M.fractionBits - L.fractionBits)
      else fraction / 2 ^ (L.fractionBits - M.fractionBits)
    let quiet := if moved < M.unit / 2 then moved + M.unit / 2 else moved
    ofMagnitude x.negative (M.infinity + quiet)
  | .infinite s => infinity s
  | .finite s m q => ofScaled s m q

/-- The number `10 ^ n` rounded, which is exact up to `10 ^ 22` for doubles. -/
def powerOfTen (n : Nat) : Floating L := ofRatio false (10 ^ n) 1

/-- A power by repeated squaring, every product rounded. The power of a negative exponent is the
reciprocal of the positive one. -/
def power (x : Floating L) (n : Int) : Floating L :=
  let one : Floating L := ofRatio false 1 1
  let p := go n.natAbs n.natAbs x one
  if n < 0 then one.div p else p
where
  /-- Multiplies `product` by the squares that the binary digits of an exponent select. -/
  go : Nat → Nat → Floating L → Floating L → Floating L
    | 0, _, _, product => product
    | fuel + 1, n, square, product =>
      let product := if n % 2 = 1 then product.mul square else product
      if n < 2 then product else go fuel (n / 2) (square.mul square) product

end Floating

end ForeignLayer.Number
