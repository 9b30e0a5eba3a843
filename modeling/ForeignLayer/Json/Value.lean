import ForeignLayer.Json.Tree
import ForeignLayer.Number.Floating

/-!
# JSON values

What the numbers and strings of a JSON tree stand for. An integer that fits 64 bits, with or
without a sign, stays an integer; every other number is held in 64 bits as a floating-point number
and has to be finite. Its digits are collected up to 64 bits and scaled once by a power of ten, so
that the last bit may differ from the nearest number. Of the members of an object that have one
name, the last one counts.
-/

namespace ForeignLayer.Json

open Number

/-! ## Strings -/

/-- The characters of a string as written, surrogates put together. Half a pair is refused. -/
def characters? : List Piece → Option (List Char)
  | [] => some []
  | .char c :: rest => (c :: ·) <$> characters? rest
  | .unit n :: rest =>
    if 0xD800 ≤ n ∧ n < 0xDC00 then
      match rest with
      | .unit m :: rest =>
        if 0xDC00 ≤ m ∧ m < 0xE000 then
          (Char.ofNat (0x10000 + (n - 0xD800) * 1024 + (m - 0xDC00)) :: ·) <$> characters? rest
        else none
      | _ => none
    else if 0xDC00 ≤ n ∧ n < 0xE000 then none
    else (Char.ofNat n :: ·) <$> characters? rest

/-- The text of a string as written. -/
def text? (s : List Piece) : Option String := String.ofList <$> characters? s

/-! ## Numbers -/

/-- A JSON number. -/
inductive Amount where
  | integer (n : Int)
  | real (x : Double)
deriving DecidableEq, Repr

namespace Amount

/-- The number as a floating-point number. -/
def toDouble : Amount → Double
  | integer n => .ofInt n
  | real x => x

end Amount

/-- The bound of the integers that digits are collected in, the number of 64-bit words. -/
def collectBound : Nat := UInt64.size

/-- The leading digits that fit the bound after a number, and how many digits are left. -/
def collect : Nat → List Char → Nat × Nat
  | n, [] => (n, 0)
  | n, c :: rest =>
    let next := n * 10 + (c.toNat - '0'.toNat)
    if next < collectBound then collect next rest else (n, rest.length + 1)

/-- A number times a power of ten, divided in steps where the power is out of range. An infinite
result is refused. A collected number is below ten to the twentieth, so that two divisions already
reach zero and a handful of steps is enough. -/
def scaleWithin (x : Double) : Nat → Int → Option Double
  | 0, _ => some x
  | fuel + 1, e =>
    if e.natAbs ≤ 308 then
      if 0 ≤ e then
        let y := x.mul (.powerOfTen e.toNat)
        if y.isFinite then some y else none
      else some (x.div (.powerOfTen e.natAbs))
    else if x.magnitude = 0 then some x
    else if 0 ≤ e then none
    else scaleWithin (x.div (.powerOfTen 308)) fuel (e + 308)

/-- The number of collected digits under a sign and an exponent. -/
def ofParts? (negative : Bool) (significand : Nat) (exponent : Int) : Option Amount := do
  let x ← scaleWithin (.ofInt significand) 8 exponent
  return .real (if negative then .ofMagnitude true x.magnitude else x)

/-- The bound of exponents as they are written. -/
def exponentBound : Nat := 0x80000000

/-- The number under a written exponent. An exponent out of bounds gives zero, unless it would give
infinity. -/
def withExponent? (negative : Bool) (significand : Nat) (start : Int) :
    Option (Bool × List Char) → Option Amount
  | none => ofParts? negative significand start
  | some (negativeExponent, ds) =>
    let e := digitsValue ds
    if exponentBound ≤ e then
      if significand ≠ 0 ∧ !negativeExponent then none else some (.real (.ofMagnitude negative 0))
    else ofParts? negative significand (if negativeExponent then start - e else start + e)

/-- The number as written stands for. -/
def Numeral.amount? (n : Numeral) : Option Amount :=
  let (significand, dropped) := collect 0 n.whole
  match n.fraction, n.exponent with
  | none, none =>
    if dropped ≠ 0 then ofParts? n.negative significand dropped
    else if !n.negative then some (.integer significand)
    else if significand = 0 ∨ collectBound < 2 * significand then
      some (.real (.ofRatio true significand 1))
    else some (.integer (-significand))
  | none, e => withExponent? n.negative significand dropped e
  | some ds, e =>
    let (significand, left) := collect significand ds
    withExponent? n.negative significand ((dropped : Int) - (ds.length - left : Nat)) e

/-! ## Values -/

/-- A JSON value. -/
inductive Value where
  | null
  | bool (b : Bool)
  | number (n : Amount)
  | string (s : String)
  | array (elements : List Value)
  | object (members : List (String × Value))

/-- Arrays and objects may be nested this many levels deep. -/
def maxLevels : Nat := 127

/-- What a tree stands for, with arrays and objects on as many levels as are given. -/
def Tree.valueWithin? (levels : Nat) : Tree → Option Value
  | .null => some .null
  | .bool b => some (.bool b)
  | .number n => .number <$> n.amount?
  | .string s => .string <$> text? s
  | .array elements => if levels = 0 then none else .array <$> elementsWithin? (levels - 1) elements
  | .object members => if levels = 0 then none else .object <$> membersWithin? (levels - 1) members
where
  /-- What some trees stand for. -/
  elementsWithin? (levels : Nat) : List Tree → Option (List Value)
    | [] => some []
    | t :: others => do
      let v ← t.valueWithin? levels
      let vs ← elementsWithin? levels others
      return v :: vs
  /-- What some members stand for. -/
  membersWithin? (levels : Nat) : List (List Piece × Tree) → Option (List (String × Value))
    | [] => some []
    | (key, t) :: others => do
      let k ← text? key
      let v ← t.valueWithin? levels
      let vs ← membersWithin? levels others
      return (k, v) :: vs

/-- Reads a text as a JSON value. -/
def Value.read? (text : String) : Option Value :=
  Tree.read? text >>= Tree.valueWithin? maxLevels

/-- The value of the last member with a name. -/
def Value.get? (name : String) : Value → Option Value
  | object members => (members.reverse.find? (·.1 = name)).map (·.2)
  | _ => none

end ForeignLayer.Json
