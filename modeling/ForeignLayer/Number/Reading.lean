import ForeignLayer.Number.Floating

/-!
# Reading numbers

Texts of integers and of decimal numbers, read exactly. Integers come with the reason for a
refusal, because callers show it: digits are taken from the left and the first fault wins. Decimal
numbers are collected as a natural and a power of ten and rounded once; exponents beyond any
layout are cut off first, so that no reading builds a huge power.
-/

namespace ForeignLayer.Number

-- Powers are the core library's, whichever other instances are in scope.
attribute [local instance (high)] instPowNat

/-- The value of a decimal digit. -/
def digitValue? (c : Char) : Option Nat :=
  if '0' ≤ c ∧ c ≤ '9' then some (c.toNat - '0'.toNat) else none

/-! ## Integers -/

/-- Why a text is no integer of a range. -/
inductive IntegerFault where
  | empty
  | invalidDigit
  | tooLarge
  | tooSmall
deriving DecidableEq, Repr

/-- The wording of a fault. -/
def IntegerFault.message : IntegerFault → String
  | .empty => "cannot parse integer from empty string"
  | .invalidDigit => "invalid digit found in string"
  | .tooLarge => "number too large to fit in target type"
  | .tooSmall => "number too small to fit in target type"

/-- Reads digits onto a value with a bound on its size, the first fault from the left winning. -/
def readDigits (bound : Nat) (overflow : IntegerFault) : Nat → List Char → Except IntegerFault Nat
  | value, [] => .ok value
  | value, c :: rest =>
    match digitValue? c with
    | none => .error .invalidDigit
    | some d =>
      let next := value * 10 + d
      if bound < next then .error overflow else readDigits bound overflow next rest

/-- Reads an integer between two bounds: an optional sign and at least one digit. A minus sign is
part of the notation only where the range has negative numbers. -/
def readInteger (low high : Int) (text : List Char) : Except IntegerFault Int :=
  match text with
  | [] => .error .empty
  | ['+'] | ['-'] => .error .invalidDigit
  | '+' :: rest => (readDigits high.toNat .tooLarge 0 rest).map Int.ofNat
  | '-' :: rest =>
    if low < 0 then (readDigits low.natAbs .tooSmall 0 rest).map fun n ↦ -(n : Int)
    else .error .invalidDigit
  | _ => (readDigits high.toNat .tooLarge 0 text).map Int.ofNat

/-- Reads an integer that fits 32 bits with a sign. -/
def readInt32 (text : List Char) : Except IntegerFault Int :=
  readInteger (-2147483648) 2147483647 text

/-! ## Decimal numbers -/

/-- The natural that a list of digits stands for. -/
def digitsValue (ds : List Char) : Nat :=
  ds.foldl (fun n c ↦ n * 10 + (c.toNat - '0'.toNat)) 0

/-- Splits off the leading digits. -/
def spanDigits (text : List Char) : List Char × List Char :=
  text.span fun c ↦ (digitValue? c).isSome

/-- The exponent part of a decimal number: nothing, or a mark, a sign and at least one digit. -/
def readExponent? : List Char → Option Int
  | [] => some 0
  | mark :: rest =>
    if mark = 'e' ∨ mark = 'E' then
      let (negative, ds) := match rest with
        | '-' :: ds => (true, ds)
        | '+' :: ds => (false, ds)
        | ds => (false, ds)
      let (ds, rest) := spanDigits ds
      if ds.isEmpty || !rest.isEmpty then none
      else some (if negative then -(digitsValue ds : Int) else digitsValue ds)
    else none

/-- Rounds `digits · 10 ^ exponent`, where `length` is the number of digits. Values far outside
every layout are settled without building the power. -/
def roundDecimal (L : Layout) (negative : Bool) (digits length : Nat) (exponent : Int) :
    Floating L :=
  if digits = 0 then .ofMagnitude negative 0
  else if 400 < exponent + length then .infinity negative
  else if exponent + length < -400 then .ofMagnitude negative 0
  else if 0 ≤ exponent then .ofRatio negative (digits * 10 ^ exponent.toNat) 1
  else .ofRatio negative digits (10 ^ (-exponent).toNat)

/-- Reads a decimal number without sign: digits with at most one point among or around them, and an
optional exponent. -/
def readUnsignedDecimal? (L : Layout) (negative : Bool) (text : List Char) :
    Option (Floating L) := do
  let (whole, rest) := spanDigits text
  let (fraction, rest) := match rest with
    | '.' :: after => spanDigits after
    | _ => ([], rest)
  if whole.isEmpty && fraction.isEmpty then none
  let exponent ← readExponent? rest
  let ds := (whole ++ fraction).dropWhile (· = '0')
  return roundDecimal L negative (digitsValue ds) ds.length (exponent - fraction.length)

/-- Whether a text is a word, the case of ASCII letters aside. -/
def isWord (word : String) (text : List Char) : Bool :=
  text.map Char.toLower == word.toList

/-- Reads a floating-point number: an optional sign, then a decimal number or a name of infinity
or of NaN in any letter case. -/
def readFloating? (L : Layout) (text : List Char) : Option (Floating L) :=
  let (negative, body) := match text with
    | '-' :: rest => (true, rest)
    | '+' :: rest => (false, rest)
    | _ => (false, text)
  if isWord "inf" body || isWord "infinity" body then some (.infinity negative)
  else if isWord "nan" body then some (.ofMagnitude negative L.quietNaN)
  else readUnsignedDecimal? L negative body

/-- Reads a number held in 64 bits. -/
def readDouble? (text : List Char) : Option Double := readFloating? .double text

end ForeignLayer.Number
