/-!
# Hexadecimal text

Bytes as pairs of hexadecimal digits. What is written is in lower case; what is read may use
either case.
-/

namespace ForeignLayer.Bytes

/-- The digit of a value below sixteen. -/
def hexDigit (n : Nat) : Char := if n < 10 then Char.ofNat (48 + n) else Char.ofNat (87 + n)

/-- The value of a hexadecimal digit of either case. -/
def hexValue? (c : Char) : Option Nat :=
  if '0' ≤ c ∧ c ≤ '9' then some (c.toNat - 48)
  else if 'a' ≤ c ∧ c ≤ 'f' then some (c.toNat - 87)
  else if 'A' ≤ c ∧ c ≤ 'F' then some (c.toNat - 55)
  else none

/-- The two digits of a byte. -/
def hexPair (b : UInt8) : List Char := [hexDigit (b.toNat / 16), hexDigit (b.toNat % 16)]

/-- The digits of a list of bytes. -/
def hexText (bs : List UInt8) : List Char := bs.flatMap hexPair

end ForeignLayer.Bytes
