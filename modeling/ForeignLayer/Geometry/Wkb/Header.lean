import ForeignLayer.Bytes.Order
import ForeignLayer.Geometry.Fault
import ForeignLayer.Geometry.Srid

/-!
# Headers of binary geometries

A geometry in binary starts with a byte order, a type code and, if the code says so, a tag. The
code names the kind and the dimensions in two ways that may be mixed: the plain form adds
thousands to the number of the kind, the extended form sets high bits, of which one announces the
tag. Reading takes both at once; writing takes a `Flavor`.

Reading works on a `Cursor`, the bytes that are left with the place where they start, so that a
fault can tell where it was met.
-/

namespace ForeignLayer.Geometry.Wkb

open Bytes

/-! ## Reading bytes -/

/-- The bytes that are left to read. -/
structure Cursor where
  /-- The number of bytes read so far. -/
  offset : Nat
  /-- The bytes that follow. -/
  rest : List UInt8
deriving Repr

/-- A step of reading, which may meet a fault. -/
abbrev Reader := StateT Cursor (Except Fault)

/-- Reads the next `n` bytes. -/
def take (n : Nat) : Reader (List UInt8) := fun c ↦
  if c.rest.length < n then .error (.truncated c.offset n)
  else .ok (c.rest.take n, ⟨c.offset + n, c.rest.drop n⟩)

/-- Reads a word of `w` bytes. -/
def takeWord (order : Order) (w : Nat) : Reader Nat := order.decode <$> take w

/-- Reads the next byte. -/
def takeByte : Reader UInt8 := fun c ↦
  match c.rest with
  | [] => .error (.truncated c.offset 1)
  | b :: rest => .ok (b, ⟨c.offset + 1, rest⟩)

/-- Reads a byte order mark. -/
def takeOrder : Reader Order := do
  let mark ← takeByte
  match Order.ofMark? mark with
  | some order => return order
  | none => throw (.byteOrder mark)

/-- Reads a number of parts, one after the other. -/
def takeMany {α : Type} (part : Reader α) : Nat → Reader (List α)
  | 0 => return []
  | count + 1 => do
    let first ← part
    let others ← takeMany part count
    return first :: others

/-! ## Type codes -/

/-- The two spellings of a header. -/
inductive Flavor where
  /-- Dimensions by thousands, no tag. -/
  | iso
  /-- Dimensions by high bits, the outermost geometry may carry a tag. -/
  | extended
deriving DecidableEq, Repr

/-- What a type code says. -/
structure TypeCode where
  kind : Kind
  dims : Dimensions
  /-- Whether a tag follows the code. -/
  tagged : Bool
deriving DecidableEq, Repr

namespace TypeCode

/-- The high bit for Z. -/
def zFlag : Nat := 0x80000000

/-- The high bit for M. -/
def mFlag : Nat := 0x40000000

/-- The high bit for a tag. -/
def tagFlag : Nat := 0x20000000

/-- Reads a code of 32 bits, thousands and high bits alike. -/
def decode (code : Nat) : Except Fault TypeCode := do
  let flagZ := code / zFlag % 2 == 1
  let flagM := code / mFlag % 2 == 1
  let tagged := code / tagFlag % 2 == 1
  let plain := code % tagFlag
  let (isoZ, isoM) ← match plain / 1000 with
    | 0 => pure (false, false)
    | 1 => pure (true, false)
    | 2 => pure (false, true)
    | 3 => pure (true, true)
    | _ => throw (.typeCode code)
  match Kind.ofCode? (plain % 1000) with
  | some kind => return ⟨kind, .of (flagZ || isoZ) (flagM || isoM), tagged⟩
  | none => throw (.kindCode (plain % 1000))

/-- The code in one flavor; the plain one has no place for a tag. -/
def encode (flavor : Flavor) (t : TypeCode) : Nat :=
  match flavor with
  | .iso =>
    t.kind.code + (if t.dims.hasZ then 1000 else 0) + (if t.dims.hasM then 2000 else 0)
  | .extended =>
    t.kind.code + (if t.dims.hasZ then zFlag else 0) + (if t.dims.hasM then mFlag else 0) +
      (if t.tagged then tagFlag else 0)

end TypeCode

/-! ## Headers -/

/-- The header of a geometry. -/
structure Header where
  order : Order
  kind : Kind
  dims : Dimensions
  srid : Option Srid
deriving DecidableEq

namespace Header

/-- Reads a header of either flavor. -/
def read : Reader Header := do
  let order ← takeOrder
  let code ← takeWord order 4
  let t ← (TypeCode.decode code : Except Fault TypeCode)
  if t.tagged then
    let tag ← takeWord order 4
    return ⟨order, t.kind, t.dims, Srid.ofCode? (BitVec.ofNat 32 tag)⟩
  else return ⟨order, t.kind, t.dims, none⟩

/-- The bytes of a header in one flavor. -/
def encode (flavor : Flavor) (h : Header) : List UInt8 :=
  let tag := match flavor with
    | .iso => none
    | .extended => h.srid
  h.order.mark :: (h.order.encode 4 (TypeCode.encode flavor ⟨h.kind, h.dims, tag.isSome⟩) ++
    match tag with
    | some s => h.order.encode 4 s.code.toNat
    | none => [])

/-- Reads the header in front of bytes, whatever follows it. -/
def ofBytes (bytes : List UInt8) : Except Fault Header := (read.run ⟨0, bytes⟩).map Prod.fst

end Header

end ForeignLayer.Geometry.Wkb
