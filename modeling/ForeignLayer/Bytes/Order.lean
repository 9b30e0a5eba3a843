/-!
# Byte orders

Fixed-width naturals as bytes, least significant first, and the two orders in which a word may be
written. A wide word in the other order is the same list of bytes reversed, so that every law has
to be shown for one order only.
-/

namespace ForeignLayer.Bytes

-- Powers are the core library's, whichever other instances are in scope.
attribute [local instance (high)] instPowNat

/-- The `w` bytes of a natural, least significant first; what does not fit is dropped. -/
def littleBytes : Nat → Nat → List UInt8
  | 0, _ => []
  | w + 1, n => UInt8.ofNat (n % 256) :: littleBytes w (n / 256)

/-- The natural with the given bytes, least significant first. -/
def littleNat : List UInt8 → Nat
  | [] => 0
  | b :: bs => b.toNat + 256 * littleNat bs

@[simp] theorem length_littleBytes (w n : Nat) : (littleBytes w n).length = w := by
  induction w generalizing n with
  | zero => rfl
  | succ w ih => simp [littleBytes, ih]

theorem littleBytes_littleNat (bs : List UInt8) : littleBytes bs.length (littleNat bs) = bs := by
  induction bs with
  | nil => rfl
  | cons b bs ih =>
    have hb : b.toNat < 256 := b.toNat_lt
    have hmod : (b.toNat + 256 * littleNat bs) % 256 = b.toNat := by omega
    have hdiv : (b.toNat + 256 * littleNat bs) / 256 = littleNat bs := by omega
    simp [littleBytes, littleNat, hmod, hdiv, ih]

theorem littleNat_littleBytes {w n : Nat} (h : n < 256 ^ w) : littleNat (littleBytes w n) = n := by
  induction w generalizing n with
  | zero => simp [littleBytes, littleNat] at *; omega
  | succ w ih =>
    have hd : n / 256 < 256 ^ w := by
      rw [Nat.pow_succ] at h
      omega
    simp only [littleBytes, littleNat, ih hd, UInt8.toNat_ofNat']
    omega

theorem littleNat_lt (bs : List UInt8) : littleNat bs < 256 ^ bs.length := by
  induction bs with
  | nil => simp [littleNat]
  | cons b bs ih =>
    have hb : b.toNat < 256 := b.toNat_lt
    rw [littleNat, List.length_cons, Nat.pow_succ]
    omega

/-- The two orders of the bytes of a word. -/
inductive Order where
  | big
  | little
deriving DecidableEq, Repr

namespace Order

/-- The byte that announces an order. -/
def mark : Order → UInt8
  | big => 0
  | little => 1

/-- The order that a byte announces. -/
def ofMark? (b : UInt8) : Option Order :=
  if b = 0 then some big else if b = 1 then some little else none

theorem ofMark?_mark (order : Order) : ofMark? order.mark = some order := by
  cases order <;> rfl

theorem mark_of_ofMark? {b : UInt8} {order : Order} (h : ofMark? b = some order) :
    order.mark = b := by
  unfold ofMark? at h
  split at h
  · next hb => cases h; exact hb.symm
  · split at h
    · next hb => cases h; exact hb.symm
    · cases h

/-- The `w` bytes of a word. -/
def encode (order : Order) (w n : Nat) : List UInt8 :=
  match order with
  | big => (littleBytes w n).reverse
  | little => littleBytes w n

/-- The word with the given bytes. -/
def decode (order : Order) (bs : List UInt8) : Nat :=
  match order with
  | big => littleNat bs.reverse
  | little => littleNat bs

@[simp] theorem length_encode (order : Order) (w n : Nat) : (order.encode w n).length = w := by
  cases order <;> simp [encode]

theorem decode_lt (order : Order) (bs : List UInt8) : order.decode bs < 256 ^ bs.length := by
  cases order with
  | big => simpa [decode] using littleNat_lt bs.reverse
  | little => exact littleNat_lt bs

theorem encode_decode (order : Order) (bs : List UInt8) :
    order.encode bs.length (order.decode bs) = bs := by
  cases order with
  | big =>
    have h := littleBytes_littleNat bs.reverse
    rw [List.length_reverse] at h
    simp [encode, decode, h]
  | little => exact littleBytes_littleNat bs

theorem decode_encode (order : Order) {w n : Nat} (h : n < 256 ^ w) :
    order.decode (order.encode w n) = n := by
  cases order <;> simp [encode, decode, littleNat_littleBytes h]

end Order

end ForeignLayer.Bytes
