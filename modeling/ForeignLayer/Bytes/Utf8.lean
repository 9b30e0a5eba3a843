/-!
# UTF-8

Text as bytes and back. Reading stops at the first byte that cannot belong to a text and tells how
many bytes of the faulty character were still in order, or that the bytes end within a character.
The second byte of a character is what rules out overlong forms, surrogates and code points beyond
the last one: its range depends on the first byte.
-/

namespace ForeignLayer.Bytes

/-- Why bytes are no text, and where. -/
inductive Utf8Fault where
  /-- A character that starts at `index` is broken after `length` bytes. -/
  | invalid (length index : Nat)
  /-- The bytes end within the character that starts at `index`. -/
  | incomplete (index : Nat)
deriving DecidableEq, Repr

/-- The wording of a fault. -/
def Utf8Fault.message : Utf8Fault → String
  | .invalid length index =>
    "invalid utf-8 sequence of " ++ toString length ++ " bytes from index " ++ toString index
  | .incomplete index => "incomplete utf-8 byte sequence from index " ++ toString index

/-- The bytes of a text. -/
def encodeUtf8 (text : String) : List UInt8 := text.toList.flatMap String.utf8EncodeChar

/-- How many bytes follow a first byte, and the range of the next one. -/
def utf8Lead? (b : Nat) : Option (Nat × Nat × Nat) :=
  if b < 0x80 then some (0, 0, 0)
  else if 0xC2 ≤ b ∧ b ≤ 0xDF then some (1, 0x80, 0xBF)
  else if b = 0xE0 then some (2, 0xA0, 0xBF)
  else if b = 0xED then some (2, 0x80, 0x9F)
  else if 0xE1 ≤ b ∧ b ≤ 0xEF then some (2, 0x80, 0xBF)
  else if b = 0xF0 then some (3, 0x90, 0xBF)
  else if 0xF1 ≤ b ∧ b ≤ 0xF3 then some (3, 0x80, 0xBF)
  else if b = 0xF4 then some (3, 0x80, 0x8F)
  else none

/-- Reads the bytes that follow a first byte. `seen` counts the bytes of the character so far. -/
def utf8Tail (index : Nat) :
    (count low high seen code : Nat) → List UInt8 → Except Utf8Fault (Nat × List UInt8)
  | 0, _, _, _, code, rest => .ok (code, rest)
  | _ + 1, _, _, _, _, [] => .error (.incomplete index)
  | count + 1, low, high, seen, code, b :: rest =>
    if low ≤ b.toNat ∧ b.toNat ≤ high then
      utf8Tail index count 0x80 0xBF (seen + 1) (code * 64 + b.toNat % 64) rest
    else .error (.invalid seen index)

/-- The bits of the code point that a first byte holds. -/
def utf8LeadBits (count b : Nat) : Nat :=
  match count with
  | 0 => b
  | 1 => b % 32
  | 2 => b % 16
  | _ => b % 8

theorem length_utf8Tail {index count low high seen code : Nat} {bs rest : List UInt8} {n : Nat}
    (h : utf8Tail index count low high seen code bs = .ok (n, rest)) :
    rest.length + count = bs.length := by
  induction count generalizing low high seen code bs with
  | zero => simp_all [utf8Tail]
  | succ count ih =>
    cases bs with
    | nil => simp [utf8Tail] at h
    | cons b bs =>
      simp only [utf8Tail] at h
      split at h
      · have := ih h
        simp only [List.length_cons]
        omega
      · simp at h

/-- Reads bytes as text, from the byte at `index` on. -/
def decodeUtf8From (index : Nat) (bs : List UInt8) : Except Utf8Fault (List Char) :=
  match bs with
  | [] => .ok []
  | b :: tail =>
    match utf8Lead? b.toNat with
    | none => .error (.invalid 1 index)
    | some (count, low, high) =>
      match h : utf8Tail index count low high 1 (utf8LeadBits count b.toNat) tail with
      | .error fault => .error fault
      | .ok (code, rest) =>
        (decodeUtf8From (index + count + 1) rest).map (Char.ofNat code :: ·)
termination_by bs.length
decreasing_by
  have := length_utf8Tail h
  simp only [List.length_cons]
  omega

/-- Reads bytes as text. -/
def decodeUtf8 (bs : List UInt8) : Except Utf8Fault String :=
  (decodeUtf8From 0 bs).map String.ofList

end ForeignLayer.Bytes
