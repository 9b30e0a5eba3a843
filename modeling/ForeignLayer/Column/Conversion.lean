import ForeignLayer.Bytes.Order
import ForeignLayer.Column.Fault
import ForeignLayer.Column.Type
import ForeignLayer.Geometry.Value
import ForeignLayer.Value.Cast

/-!
# Conversions of columns

Every column that takes part in an exchange has four conversions: a text to a scalar and back, and
bytes to a scalar and back. Plain values are sent in the bytes of their storage, little end first.
Geometries are sent in the extended binary form, and their tag always travels with them.

A `Conversion` is a column type that has conversions, so that asking for one can fail only once. The
type of the scalar to make is a parameter of the input conversions; by default it is the storage
type of the column.
-/

namespace ForeignLayer

open Column

/-- A scalar of bytes in a type that holds bytes. -/
def Scalar.ofBytes (bs : List UInt8) : DataType → Except Fault Scalar
  | .binary storage => .ok (.of (.binary storage) bs)
  | t => .error (.notBinary t)

/-- A scalar as a value of another type, as a conversion. -/
def Scalar.castTo (s : Scalar) (t : DataType) : Except Fault Scalar :=
  (s.cast t).mapError .cast

/-! ## Texts of bytes -/

/-- The mark in front of a text of bytes. -/
def hexMark : List Char := ['\\', 'x']

/-- The text of bytes: a mark and two digits for each byte. -/
def writeHex (bs : List UInt8) : String := String.ofList (hexMark ++ Bytes.hexText bs)

/-- The byte of two digits. A plus sign may stand in place of the first. -/
def hexByte? (a b : Char) : Option UInt8 := do
  let low ← Bytes.hexValue? b
  let high ← if a = '+' then some 0 else Bytes.hexValue? a
  return UInt8.ofNat (high * 16 + low)

/-- The bytes of an even number of digits. -/
def hexBytes? : List Char → Option (List UInt8)
  | a :: b :: rest => do return (← hexByte? a b) :: (← hexBytes? rest)
  | _ => some []

/-- Reads a text of bytes; the mark may be missing. -/
def readHex (text : String) : Except Fault (List UInt8) :=
  let digits := match text.toList with
    | '\\' :: 'x' :: digits => digits
    | digits => digits
  if !digits.all Text.isAscii || digits.length % 2 ≠ 0 then .error (.hexText text)
  else match hexBytes? digits with
    | some bs => .ok bs
    | none => .error .hexDigit

/-! ## Plain values -/

/-- The scalar of a text. -/
def readPlain (text : String) (t : DataType) : Except Fault Scalar :=
  if t.isBinary then do Scalar.ofBytes (← readHex text) t
  else (Scalar.ofText text).castTo t

/-- The text of a scalar. -/
def writePlain (s : Scalar) : Except Fault String :=
  match s with
  | ⟨_, none⟩ => .error .nullText
  | ⟨.float32, some x⟩ => .ok x.text
  | ⟨.float64, some x⟩ => .ok x.text
  | ⟨.text _, some text⟩ => .ok text
  | ⟨.binary _, some bs⟩ => .ok (writeHex bs)
  | ⟨.fixedSizeBinary _, some bs⟩ => .ok (writeHex bs)
  | s => do return ((← s.castTo .utf8).text?).getD ""

/-- The bytes of a scalar that is not null. -/
def sendPlain (s : Scalar) : Except Fault (List UInt8) :=
  let word {n : Nat} (w : BitVec n) : List UInt8 := Bytes.littleBytes (n / 8) w.toNat
  match s with
  | ⟨.boolean, some b⟩ => .ok [if b then 1 else 0]
  | ⟨.integer _ _, some w⟩ => .ok (word w)
  | ⟨.float32, some x⟩ => .ok (word x.bits)
  | ⟨.float64, some x⟩ => .ok (word x.bits)
  | ⟨.decimal .., some w⟩ => .ok (word w)
  | ⟨.text _, some text⟩ => .ok (Bytes.encodeUtf8 text)
  | ⟨.binary _, some bs⟩ => .ok bs
  | ⟨.date32, some w⟩ => .ok (word w)
  | ⟨.date64, some w⟩ => .ok (word w)
  | ⟨.time64 .microsecond, some w⟩ => .ok (word w)
  | ⟨.time64 .nanosecond, some w⟩ => .ok (word w)
  | ⟨.timestamp _ none, some w⟩ => .ok (word w)
  | s => .error (.unsendable s)

/-- The word that bytes hold, which have to be as many as the word has. -/
def receiveWord (n : Nat) (bs : List UInt8) : Except Fault (BitVec n) :=
  if bs.length = n / 8 then .ok (BitVec.ofNat n (Bytes.littleNat bs))
  else .error (.wrongLength (n / 8) bs.length)

/-- The scalar of bytes. -/
def receivePlain (bs : List UInt8) : DataType → Except Fault Scalar
  | .boolean => do return .of .boolean ((← receiveWord 8 bs) != 0)
  | .integer signed width => do return .of (.integer signed width) (← receiveWord _ bs)
  | .float32 => do return .of .float32 ⟨← receiveWord _ bs⟩
  | .float64 => do return .of .float64 ⟨← receiveWord _ bs⟩
  | .decimal precision scale => do return .of (.decimal precision scale) (← receiveWord _ bs)
  | .text storage => do
    return .of (.text storage) (← (Bytes.decodeUtf8 bs).mapError .invalidText)
  | .binary storage => .ok (.of (.binary storage) bs)
  | .date32 => do return .of .date32 (← receiveWord _ bs)
  | .date64 => do return .of .date64 (← receiveWord _ bs)
  | .time64 .microsecond => do return .of (.time64 .microsecond) (← receiveWord _ bs)
  | .time64 .nanosecond => do return .of (.time64 .nanosecond) (← receiveWord _ bs)
  | .timestamp unit none => do return .of (.timestamp unit none) (← receiveWord _ bs)
  | t => .error (.unreceivable t)

/-! ## Geometries -/

/-- The extended form of either binary form of a geometry, with its own tag. -/
def normalForm (bs : List UInt8) : Except Geometry.Fault (List UInt8) := do
  let header ← Geometry.Wkb.Header.ofBytes bs
  Geometry.Wkb.toExtended bs header.srid

/-- The bytes of a geometry in a scalar. -/
def sendGeometry (s : Scalar) : Except Fault (List UInt8) :=
  match s.bytes? with
  | some bs => (normalForm bs).mapError .geometry
  | none => .error (.unsendableGeometry s)

/-- The scalar of the bytes of a geometry. -/
def receiveGeometry (bs : List UInt8) (t : DataType) : Except Fault Scalar := do
  Scalar.ofBytes (← (normalForm bs).mapError .geometry) t

/-- The text of a geometry in a scalar, with its tag. -/
def writeGeometry (s : Scalar) : Except Fault String :=
  match s.bytes? with
  | some bs => do
    match (← (Geometry.ofBytes bs).mapError .geometry).taggedText? with
    | some text => return text
    | none => throw .emptyMember
  | none => .error (.unwritableGeometry s)

/-- The scalar of the text of a geometry. -/
def readGeometry (text : String) (t : DataType) : Except Fault Scalar := do
  Scalar.ofBytes (← (Geometry.ofText text).mapError .geometry).extended t

/-! ## Column types -/

/-- A column type with its conversions. -/
structure Conversion where
  type : ColumnType
  supported : type.isSupported = true
deriving DecidableEq

namespace Conversion

/-- The conversions of a column type. -/
def resolve (c : ColumnType) : Except Fault Conversion :=
  if h : c.isSupported = true then .ok ⟨c, h⟩
  else if c.isGeometry then .error (.geometryStorage c.storage)
  else .error (.unsupported c.storage)

/-- The scalar of a text, as a value of type `t`. -/
def read (c : Conversion) (text : String) (t : DataType) : Except Fault Scalar :=
  if c.type.isGeometry then readGeometry text t else readPlain text t

/-- The text of a scalar. -/
def write (c : Conversion) (s : Scalar) : Except Fault String :=
  if c.type.isGeometry then writeGeometry s else writePlain s

/-- The scalar of bytes, as a value of type `t`. -/
def receive (c : Conversion) (bs : List UInt8) (t : DataType) : Except Fault Scalar :=
  if c.type.isGeometry then receiveGeometry bs t else receivePlain bs t

/-- The bytes of a scalar. -/
def send (c : Conversion) (s : Scalar) : Except Fault (List UInt8) :=
  if c.type.isGeometry then sendGeometry s else sendPlain s

end Conversion

end ForeignLayer
