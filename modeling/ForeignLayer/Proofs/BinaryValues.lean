import ForeignLayer.Column.Conversion
import ForeignLayer.Proofs.Utf8Text
import Mathlib.Logic.Equiv.Defs

/-!
# Values and the bytes they are sent in

A value that is not a geometry is sent in the bytes of its storage, and the bytes are received as
the value again. Words are sent little end first, texts in UTF-8, bytes as they are; a type admits
the bytes that are as many as its word takes, or that are a text, and receives no others.

The one type of which values have several spellings is that of truth values: every byte but zero is
received as true, which is sent as one.

Times of day in seconds or milliseconds have conversions, but no values in a column. They are never
received.
-/

namespace ForeignLayer

open Bytes Column

-- Powers are the core library's, whichever other instances are in scope.
attribute [local instance (high)] instPowNat

/-! ## What a type admits -/

namespace DataType

/-- The number of bytes of a value, for the types of which all values have the same. -/
def byteCount? : DataType → Option Nat
  | boolean => some 1
  | integer _ width => some (width.bits / 8)
  | float32 | date32 => some 4
  | float64 | date64 | time64 _ | timestamp .. => some 8
  | decimal .. => some 16
  | _ => none

/-- Whether bytes are those of a value: as many as it takes, and a text if values are texts. -/
structure Admits (t : DataType) (bs : List UInt8) : Prop where
  length_eq : ∀ n, t.byteCount? = some n → bs.length = n
  isValidUTF8 : t.isText = true → bs.toByteArray.IsValidUTF8

/-- The bytes that a value is sent in that was received from other bytes: truth values are sent as
zero or one. -/
def settled (t : DataType) (bs : List UInt8) : List UInt8 :=
  match t with
  | boolean => bs.map fun b ↦ if b = 0 then 0 else 1
  | _ => bs

theorem settled_of_ne {t : DataType} (ht : t ≠ .boolean) (bs : List UInt8) :
    t.settled bs = bs := by
  cases t <;> first | rfl | exact absurd rfl ht

theorem admits_of_byteCount? {t : DataType} {n : Nat} (hcount : t.byteCount? = some n)
    {bs : List UInt8} : t.Admits bs ↔ bs.length = n := by
  constructor
  · intro h
    exact h.length_eq n hcount
  · rintro rfl
    refine ⟨fun k hk ↦ Option.some.inj (hcount.symm.trans hk), fun htext ↦ ?_⟩
    cases t <;> cases htext
    cases hcount

end DataType

/-- Whether the values of a type go out and come in again, and what comes in goes out. -/
structure Exchanges (t : DataType) : Prop where
  sent : ∀ v, ∃ bs, sendPlain (.of t v) = .ok bs ∧ receivePlain bs t = .ok (.of t v)
  received : ∀ bs s, receivePlain bs t = .ok s →
    ∃ v, s = .of t v ∧ sendPlain s = .ok (t.settled bs)
  admitted : ∀ bs, (∃ s, receivePlain bs t = .ok s) ↔ t.Admits bs

/-! ## Words -/

section Word

variable {n : Nat} {bs : List UInt8}

theorem two_pow_eq (hn : 8 ∣ n) : 2 ^ n = 256 ^ (n / 8) := by
  obtain ⟨k, rfl⟩ := hn
  rw [Nat.mul_div_cancel_left k (by decide), Nat.pow_mul]

/-- A word is received from its bytes, little end first, and from no others. -/
theorem receiveWord_eq_ok (hn : 8 ∣ n) {w : BitVec n} :
    receiveWord n bs = .ok w ↔ littleBytes (n / 8) w.toNat = bs := by
  constructor
  · intro h
    by_cases hlength : bs.length = n / 8
    · rw [receiveWord, if_pos hlength, Except.ok.injEq] at h
      have hlt := littleNat_lt bs
      rw [hlength, ← two_pow_eq hn] at hlt
      rw [← h, BitVec.toNat_ofNat, Nat.mod_eq_of_lt hlt, ← hlength, littleBytes_littleNat]
    · rw [receiveWord, if_neg hlength] at h
      cases h
  · rintro rfl
    have hlt : w.toNat < 256 ^ (n / 8) := two_pow_eq hn ▸ w.isLt
    rw [receiveWord, if_pos (length_littleBytes _ _), littleNat_littleBytes hlt,
      BitVec.ofNat_toNat, BitVec.setWidth_eq]

theorem exists_receiveWord_eq_ok : (∃ w, receiveWord n bs = .ok w) ↔ bs.length = n / 8 := by
  by_cases hlength : bs.length = n / 8 <;> simp [receiveWord, hlength]

theorem Exchanges.of_word {t : DataType} (hn : 8 ∣ n) (word : t.Carrier ≃ BitVec n)
    (hsend : ∀ v, sendPlain (.of t v) = .ok (littleBytes (n / 8) (word v).toNat))
    (hreceive : ∀ bs, receivePlain bs t = (receiveWord n bs).map fun w ↦ .of t (word.symm w))
    (hcount : t.byteCount? = some (n / 8)) (hbool : t ≠ .boolean) : Exchanges t where
  sent v := by
    refine ⟨_, hsend v, ?_⟩
    rw [hreceive, (receiveWord_eq_ok hn).mpr rfl, Except.map, word.symm_apply_apply]
  received bs s h := by
    rw [hreceive] at h
    rcases hread : receiveWord n bs with fault | w
    · rw [hread] at h
      cases h
    · rw [hread] at h
      cases h
      refine ⟨word.symm w, rfl, ?_⟩
      rw [hsend, word.apply_symm_apply, (receiveWord_eq_ok hn).mp hread, t.settled_of_ne hbool]
  admitted bs := by
    rw [DataType.admits_of_byteCount? hcount, ← exists_receiveWord_eq_ok, hreceive]
    rcases receiveWord n bs with fault | w <;> simp [Except.map]

end Word

/-! ## The types -/

theorem exchanges_boolean : Exchanges .boolean where
  sent v := by
    refine ⟨_, rfl, ?_⟩
    cases v <;> rfl
  received bs s h := by
    rcases hread : receiveWord 8 bs with fault | w
    · rw [receivePlain, hread] at h
      cases h
    · rw [receivePlain, hread] at h
      cases h
      obtain rfl := (receiveWord_eq_ok (by decide)).mp hread
      refine ⟨w != 0, rfl, ?_⟩
      have hbyte : UInt8.ofNat (w.toNat % 256) = 0 ↔ w = 0 := by
        rw [← UInt8.toNat_inj, ← BitVec.toNat_inj, UInt8.toNat_ofNat']
        simp only [UInt8.toNat_zero, BitVec.ofNat_eq_ofNat, BitVec.toNat_zero]
        have hlt := w.isLt
        omega
      show Except.ok [if w != 0 then 1 else 0] =
        Except.ok [if UInt8.ofNat (w.toNat % 256) = 0 then 0 else 1]
      by_cases hw : w = 0
      · rw [if_pos (hbyte.mpr hw), hw]
        rfl
      · rw [if_neg (mt hbyte.mp hw), if_pos (bne_iff_ne.mpr hw)]
  admitted bs := by
    rw [DataType.admits_of_byteCount? rfl, ← exists_receiveWord_eq_ok (n := 8)]
    simp only [receivePlain]
    rcases receiveWord 8 bs with fault | w <;> simp [Bind.bind, Except.bind, pure, Except.pure]

theorem exchanges_integer (signed : Bool) (width : Width) :
    Exchanges (.integer signed width) :=
  .of_word (n := width.bits) (by cases width <;> decide) (.refl _) (fun _ ↦ rfl) (fun _ ↦ rfl)
    rfl nofun

theorem exchanges_float32 : Exchanges .float32 :=
  .of_word (n := 32) (by decide) ⟨(·.bits), (⟨·⟩), fun _ ↦ rfl, fun _ ↦ rfl⟩ (fun _ ↦ rfl)
    (fun _ ↦ rfl) rfl nofun

theorem exchanges_float64 : Exchanges .float64 :=
  .of_word (n := 64) (by decide) ⟨(·.bits), (⟨·⟩), fun _ ↦ rfl, fun _ ↦ rfl⟩ (fun _ ↦ rfl)
    (fun _ ↦ rfl) rfl nofun

theorem exchanges_text (storage : Storage) : Exchanges (.text storage) where
  sent text := by
    refine ⟨_, rfl, ?_⟩
    rw [receivePlain, decodeUtf8_eq_ok.mpr rfl]
    rfl
  received bs s h := by
    rcases hread : decodeUtf8 bs with fault | text
    · rw [receivePlain, hread] at h
      cases h
    · rw [receivePlain, hread] at h
      cases h
      exact ⟨text, rfl, congrArg _ (decodeUtf8_eq_ok.mp hread)⟩
  admitted bs := by
    have hadmits : (DataType.text storage).Admits bs ↔ bs.toByteArray.IsValidUTF8 :=
      ⟨fun h ↦ h.isValidUTF8 rfl, fun h ↦ ⟨nofun, fun _ ↦ h⟩⟩
    rw [hadmits, ← exists_decodeUtf8_eq_ok]
    simp only [receivePlain]
    rcases decodeUtf8 bs with fault | text <;>
      simp [Except.mapError, Bind.bind, Except.bind, pure, Except.pure]

theorem exchanges_binary (storage : Storage) : Exchanges (.binary storage) where
  sent bs := ⟨bs, rfl, rfl⟩
  received bs s h := by
    cases h
    exact ⟨bs, rfl, rfl⟩
  admitted bs := ⟨fun _ ↦ ⟨nofun, nofun⟩, fun _ ↦ ⟨_, rfl⟩⟩

/-- **Every type with conversions and values exchanges them.** -/
theorem exchanges_of_isConvertible {t : DataType} (h : ColumnType.isConvertible t = true)
    (hvalues : Convert.hasNull t = true) : Exchanges t := by
  cases t with
  | boolean => exact exchanges_boolean
  | integer signed width => exact exchanges_integer signed width
  | float32 => exact exchanges_float32
  | float64 => exact exchanges_float64
  | text storage => exact exchanges_text storage
  | binary storage => exact exchanges_binary storage
  | decimal precision scale =>
    exact .of_word (n := 128) (by decide) (.refl _) (fun _ ↦ rfl) (fun _ ↦ rfl) rfl nofun
  | date32 =>
    exact .of_word (n := 32) (by decide) (.refl _) (fun _ ↦ rfl) (fun _ ↦ rfl) rfl nofun
  | date64 =>
    exact .of_word (n := 64) (by decide) (.refl _) (fun _ ↦ rfl) (fun _ ↦ rfl) rfl nofun
  | time64 unit =>
    cases unit with
    | second | millisecond => cases hvalues
    | microsecond | nanosecond =>
      exact .of_word (n := 64) (by decide) (.refl _) (fun _ ↦ rfl) (fun _ ↦ rfl) rfl nofun
  | timestamp unit zone =>
    cases zone with
    | none => exact .of_word (n := 64) (by decide) (.refl _) (fun _ ↦ rfl) (fun _ ↦ rfl) rfl nofun
    | some zone => cases h
  | null | fixedSizeBinary length | time32 unit | duration unit | list storage element metadata =>
    cases h

/-! ## Columns -/

/-- What it means that the values of a column and the bytes they are sent in determine each
other. -/
structure Conversion.IsReversible (c : Conversion) : Prop where
  /-- Every value is sent, and received again from what it is sent in, if there are values. -/
  sent : Convert.hasNull c.type.storage = true → ∀ v, ∃ bs,
    c.send (.of c.type.storage v) = .ok bs ∧
      c.receive bs c.type.storage = .ok (.of c.type.storage v)
  /-- What is received is a value, and is sent in the bytes it was received from, true in a one. -/
  received : ∀ bs s, c.receive bs c.type.storage = .ok s →
    ∃ v, s = .of c.type.storage v ∧ c.send s = .ok (c.type.storage.settled bs)
  /-- Bytes of another length than that of the values are refused, and bytes that are no text if
  values are texts. -/
  refused : ∀ bs, ¬c.type.storage.Admits bs →
    ∃ fault, c.receive bs c.type.storage = .error fault
  /-- Nothing else is refused where there are values. -/
  admitted : Convert.hasNull c.type.storage = true → ∀ bs, c.type.storage.Admits bs →
    ∃ s, c.receive bs c.type.storage = .ok s

theorem receivePlain_of_hasNull {t : DataType} (h : ColumnType.isConvertible t = true)
    (hvalues : Convert.hasNull t = false) (bs : List UInt8) :
    receivePlain bs t = .error (.unreceivable t) := by
  cases t with
  | time64 unit => cases unit <;> first | rfl | cases hvalues
  | time32 unit => cases h
  | _ => cases hvalues

/-- **The values of every column that is not of geometries and the bytes they are sent in determine
each other.** -/
theorem Conversion.isReversible {c : Conversion} (hplain : c.type.isGeometry = false) :
    c.IsReversible := by
  obtain ⟨⟨isGeometry, t⟩, hsupported⟩ := c
  obtain rfl : isGeometry = false := hplain
  have hconvertible : ColumnType.isConvertible t = true := hsupported
  cases hvalues : Convert.hasNull t with
  | true =>
    have hexchanges := exchanges_of_isConvertible hconvertible hvalues
    refine ⟨fun _ ↦ hexchanges.sent, hexchanges.received, fun bs hbs ↦ ?_,
      fun _ bs ↦ (hexchanges.admitted bs).mpr⟩
    rcases hread : receivePlain bs t with fault | s
    · exact ⟨fault, hread⟩
    · exact absurd ((hexchanges.admitted bs).mp ⟨s, hread⟩) hbs
  | false =>
    have hnever := receivePlain_of_hasNull hconvertible hvalues
    refine ⟨fun h ↦ ?_, fun bs s h ↦ ?_, fun bs _ ↦ ⟨_, hnever bs⟩, fun h ↦ ?_⟩
    · cases hvalues.symm.trans h
    · cases (hnever bs).symm.trans h
    · cases hvalues.symm.trans h

/-- A column of numbers with two places, whose bytes are sixteen. -/
theorem Conversion.isReversible_decimal :
    (⟨.plain (.decimal 10 2), rfl⟩ : Conversion).IsReversible ∧
      (⟨.plain (.decimal 10 2), rfl⟩ : Conversion).send (.of (.decimal 10 2) 258) =
        .ok [2, 1, 0, 0, 0, 0, 0, 0, 0, 0, 0, 0, 0, 0, 0, 0] :=
  ⟨Conversion.isReversible rfl, rfl⟩

end ForeignLayer
