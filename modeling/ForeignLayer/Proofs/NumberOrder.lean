import ForeignLayer.Number.Floating
import Mathlib

/-!
# The order of numbers

Numbers that are not NaN stand on a line of integers, their keys, and everything that is said about
their order is said about keys. Two numbers may share a key only if both are zeros, so that the
lesser and the greater of two numbers are one of the two, word for word.
-/

namespace ForeignLayer.Number

-- Powers are the core library's, whichever other instances are in scope.
attribute [local instance (high)] instPowNat

namespace Floating

variable {L : Layout} {x y : Floating L}

/-! ## Words -/

theorem toNat_bits (x : Floating L) :
    x.bits.toNat = (if x.negative then L.signBit else 0) + x.magnitude := by
  have hlt : x.bits.toNat < 2 * L.signBit := by
    rw [Layout.signBit, ← Nat.pow_succ']
    exact x.bits.isLt
  rw [magnitude, negative]
  by_cases h : L.signBit ≤ x.bits.toNat
  · rw [decide_eq_true h, if_pos rfl, Nat.mod_eq_sub_mod h, Nat.mod_eq_of_lt (by omega)]
    omega
  · rw [decide_eq_false h, if_neg Bool.false_ne_true, Nat.mod_eq_of_lt (by omega), Nat.zero_add]

theorem ext_magnitude (hnegative : x.negative = y.negative)
    (hmagnitude : x.magnitude = y.magnitude) : x = y := by
  have hbits := x.toNat_bits
  rw [hnegative, hmagnitude, ← y.toNat_bits] at hbits
  obtain ⟨bits⟩ := x
  exact congrArg mk (BitVec.eq_of_toNat_eq hbits)

/-- Only the zeros share their key. -/
theorem eq_of_key_eq (h : x.key = y.key) (hne : y.key ≠ 0) : x = y := by
  unfold key at h hne
  cases hx : x.negative <;> cases hy : y.negative <;>
    simp only [hx, hy, Bool.false_eq_true, if_true, if_false] at h hne
  · exact ext_magnitude (hx.trans hy.symm) (by omega)
  · omega
  · omega
  · exact ext_magnitude (hx.trans hy.symm) (by omega)

/-! ## Comparisons -/

theorem le_iff : x.le y = true ↔ x.isNaN = false ∧ y.isNaN = false ∧ x.key ≤ y.key := by
  simp [le, and_assoc]

theorem lt_iff : x.lt y = true ↔ x.isNaN = false ∧ y.isNaN = false ∧ x.key < y.key := by
  simp [lt, and_assoc]

theorem equal_iff : x.equal y = true ↔ x.isNaN = false ∧ y.isNaN = false ∧ x.key = y.key := by
  simp [equal, and_assoc]

theorem equal_of_le_of_le (hxy : x.le y = true) (hyx : y.le x = true) : x.equal y = true := by
  rw [le_iff] at hxy hyx
  exact equal_iff.mpr ⟨hxy.1, hyx.1, Int.le_antisymm hxy.2.2 hyx.2.2⟩

theorem equal_self (hx : x.isNaN = false) : x.equal x = true := equal_iff.mpr ⟨hx, hx, rfl⟩

theorem isNaN_of_isFinite (hx : x.isFinite = true) : x.isNaN = false := by
  rw [isFinite, decide_eq_true_iff] at hx
  rw [isNaN, decide_eq_false_iff_not]
  omega

/-- Whether a function keeps the order of numbers, and takes NaN, and nothing else, to NaN. -/
def KeepsOrder (f : Floating L → Floating L) : Prop := ∀ x y, (f x).le (f y) = x.le y

theorem keepsOrder_id : KeepsOrder (id : Floating L → Floating L) := fun _ _ ↦ rfl

theorem KeepsOrder.isNaN {f : Floating L → Floating L} (hf : KeepsOrder f) :
    (f x).isNaN = x.isNaN := by
  have hle := hf x x
  rw [le, le, decide_eq_true le_rfl, decide_eq_true le_rfl, Bool.and_true, Bool.and_true,
    Bool.and_self, Bool.and_self] at hle
  exact Bool.not_inj hle

theorem min_cases (hx : x.isNaN = false) (hy : y.isNaN = false) :
    x.min y = x ∧ x.key ≤ y.key ∨ x.min y = y ∧ y.key < x.key := by
  rw [min, hx, if_neg Bool.false_ne_true]
  by_cases h : y.key < x.key
  · exact Or.inr ⟨if_pos (lt_iff.mpr ⟨hy, hx, h⟩), h⟩
  · exact Or.inl ⟨if_neg fun hlt ↦ h (lt_iff.mp hlt).2.2, Int.not_lt.mp h⟩

theorem max_cases (hx : x.isNaN = false) (hy : y.isNaN = false) :
    x.max y = x ∧ y.key ≤ x.key ∨ x.max y = y ∧ x.key < y.key := by
  rw [max, hx, if_neg Bool.false_ne_true]
  by_cases h : x.key < y.key
  · exact Or.inr ⟨if_pos (lt_iff.mpr ⟨hx, hy, h⟩), h⟩
  · exact Or.inl ⟨if_neg fun hlt ↦ h (lt_iff.mp hlt).2.2, Int.not_lt.mp h⟩

theorem key_min (hx : x.isNaN = false) (hy : y.isNaN = false) :
    (x.min y).isNaN = false ∧ (x.min y).key = Min.min x.key y.key := by
  rcases min_cases hx hy with ⟨h, hle⟩ | ⟨h, hlt⟩
  · rw [h]
    exact ⟨hx, (Int.min_eq_left hle).symm⟩
  · rw [h]
    exact ⟨hy, (Int.min_eq_right hlt.le).symm⟩

theorem key_max (hx : x.isNaN = false) (hy : y.isNaN = false) :
    (x.max y).isNaN = false ∧ (x.max y).key = Max.max x.key y.key := by
  rcases max_cases hx hy with ⟨h, hle⟩ | ⟨h, hlt⟩
  · rw [h]
    exact ⟨hx, (Int.max_eq_left hle).symm⟩
  · rw [h]
    exact ⟨hy, (Int.max_eq_right hlt.le).symm⟩

/-! ## Infinities -/

section Infinities

variable {x : Double}

theorem key_infinity (negative : Bool) : (infinity negative : Double).key =
    if negative then -(Layout.double.infinity : Int) else Layout.double.infinity := by
  cases negative <;> decide +kernel

theorem key_mem_range (hx : x.isNaN = false) :
    (infinity true : Double).key ≤ x.key ∧ x.key ≤ (infinity false : Double).key := by
  rw [isNaN, decide_eq_false_iff_not, Nat.not_lt] at hx
  rw [key_infinity, key_infinity, if_pos rfl, if_neg Bool.false_ne_true, key]
  split <;> omega

/-- Nothing but infinity is as great. -/
theorem infinity_min (hx : x.isNaN = false) : (infinity false : Double).min x = x := by
  rcases min_cases (x := (infinity false : Double)) (by decide +kernel) hx with ⟨h, hle⟩ | ⟨h, -⟩
  · rw [h]
    exact (eq_of_key_eq (Int.le_antisymm (key_mem_range hx).2 hle) (by decide +kernel)).symm
  · exact h

theorem infinity_max (hx : x.isNaN = false) : (infinity true : Double).max x = x := by
  rcases max_cases (x := (infinity true : Double)) (by decide +kernel) hx with ⟨h, hle⟩ | ⟨h, -⟩
  · rw [h]
    exact (eq_of_key_eq (Int.le_antisymm hle (key_mem_range hx).1) (by decide +kernel)).symm
  · exact h

end Infinities

end Floating

end ForeignLayer.Number
