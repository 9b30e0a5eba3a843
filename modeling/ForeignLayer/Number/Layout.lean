/-!
# Layouts of binary floating-point words

A floating-point word is a sign bit above a magnitude, and the magnitude is a biased exponent
above a fraction. Everything here works on magnitudes as natural numbers, for any sizes of the
two fields: the magnitude of a word grows with the value that it stands for, so that order and
rounding need no case split on exponents. No operation of the machine is involved, which keeps
every result open to proof.

`Layout.datum` gives a word its exact meaning `± m · 2 ^ q`, and `Layout.roundRatio` is the one
rounding step that all arithmetic, all number reading and all conversions share.
-/

namespace ForeignLayer.Number

-- Powers are the core library's, whichever other instances are in scope.
attribute [local instance (high)] instPowNat

/-- The quotient of two naturals rounded to the nearest one, a tie going to the even neighbour. -/
def divToEven (num den : Nat) : Nat :=
  let q := num / den
  let r := num % den
  if den < 2 * r ∨ (den = 2 * r ∧ q % 2 = 1) then q + 1 else q

/-- The quotient of two naturals rounded to the nearest one, a tie going upward. -/
def divToAway (num den : Nat) : Nat :=
  let q := num / den
  if den ≤ 2 * (num % den) then q + 1 else q

/-- The sizes of the two fields that make up the magnitude of a word. -/
structure Layout where
  /-- The number of bits of the fraction field. -/
  fractionBits : Nat
  /-- The number of bits of the exponent field. -/
  exponentBits : Nat
deriving DecidableEq, Repr

/-- What a word stands for: a finite value is `± significand · 2 ^ exponent`. -/
inductive Datum where
  | nan
  | infinite (negative : Bool)
  | finite (negative : Bool) (significand : Nat) (exponent : Int)
deriving DecidableEq, Repr

namespace Layout

/-- The layout of 64-bit words. -/
def double : Layout := ⟨52, 11⟩

/-- The layout of 32-bit words. -/
def single : Layout := ⟨23, 8⟩

/-- The number of bits of a word. -/
abbrev width (L : Layout) : Nat := L.fractionBits + L.exponentBits + 1

/-- The significand of a normal number with an empty fraction. -/
def unit (L : Layout) : Nat := 2 ^ L.fractionBits

/-- The place of the sign bit: magnitudes are the words below it. -/
def signBit (L : Layout) : Nat := 2 ^ (L.fractionBits + L.exponentBits)

/-- The magnitude of infinity; the magnitudes above it are not numbers. -/
def infinity (L : Layout) : Nat := (2 ^ L.exponentBits - 1) * L.unit

/-- The magnitude written for a result that is not a number. -/
def quietNaN (L : Layout) : Nat := L.infinity + L.unit / 2

/-- The exponent of the least unit: every finite value is a multiple of two to this power. -/
def minExponent (L : Layout) : Int := 2 - 2 ^ (L.exponentBits - 1) - L.fractionBits

/-- The meaning of a magnitude under a sign. -/
def datum (L : Layout) (negative : Bool) (magnitude : Nat) : Datum :=
  if L.infinity < magnitude then .nan
  else if magnitude = L.infinity then .infinite negative
  else
    let e := magnitude / L.unit
    let f := magnitude % L.unit
    if e = 0 then .finite negative f L.minExponent
    else .finite negative (L.unit + f) (L.minExponent + (e - 1 : Nat))

/-- The floor of the binary logarithm of a positive fraction. -/
def binaryExponent (num den : Nat) : Int :=
  let d : Int := (Nat.log2 num : Int) - (Nat.log2 den : Int)
  let reached := if 0 ≤ d then den * 2 ^ d.toNat ≤ num else den ≤ num * 2 ^ (-d).toNat
  if reached then d else d - 1

/-- The magnitude nearest to a fraction, a tie going to the even one. A value that rounds to or
above the first power of two out of range becomes infinity. -/
def roundRatio (L : Layout) (num den : Nat) : Nat :=
  if num = 0 then 0 else
    let q := max L.minExponent (binaryExponent num den - L.fractionBits)
    let r := if 0 ≤ q then divToEven num (den * 2 ^ q.toNat)
      else divToEven (num * 2 ^ (-q).toNat) den
    min L.infinity ((q - L.minExponent).toNat * L.unit + r)

/-- The magnitude nearest to `m · 2 ^ q`. -/
def roundScaled (L : Layout) (m : Nat) (q : Int) : Nat :=
  if 0 ≤ q then L.roundRatio (m * 2 ^ q.toNat) 1 else L.roundRatio m (2 ^ (-q).toNat)

end Layout

end ForeignLayer.Number
