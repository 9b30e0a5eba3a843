import ForeignLayer.Proofs.NumberOrder
import ForeignLayer.Proofs.Rounding
import ForeignLayer.Proofs.WiderNumbers

/-!
# Numbers on the extended line

Every number of 64 bits stands for a point of the extended line: a real, or one of the ends of the
line. Numbers are compared by their keys, which are integers, and this is the same as to compare
their points. So what is said about boxes of numbers can be said about rectangles of points.

The points of magnitudes grow up to infinity, and the points of keys extend them to both sides of
zero. Both zeros have the key zero, and the same point.
-/

namespace ForeignLayer.Number

-- Powers are the core library's, whichever other instances are in scope.
attribute [local instance (high)] instPowNat

/-- The point of the extended line that a datum stands for. What is not a number stands for none,
and is put at zero. -/
noncomputable def Datum.toEReal : Datum → EReal
  | .nan => 0
  | .infinite negative => if negative then ⊥ else ⊤
  | .finite negative significand exponent =>
    let size : ℝ := significand * 2 ^ exponent
    if negative then ((-size : ℝ) : EReal) else size

/-! ## Points of keys -/

namespace Layout

variable (L : Layout)

/-- The point that a magnitude stands for, up to infinity. -/
noncomputable def size (m : Nat) : EReal := if m < L.infinity then ((L.value m : ℝ) : EReal) else ⊤

/-- The point that belongs to a key. -/
noncomputable def point (k : Int) : EReal := if k < 0 then -L.size k.natAbs else L.size k.natAbs

variable {L}

theorem size_nonneg (m : Nat) : 0 ≤ L.size m := by
  rw [size]
  split
  · have hvalue : 0 ≤ L.value m := L.value_zero ▸ L.value_strictMono.monotone (Nat.zero_le m)
    exact EReal.coe_nonneg.mpr (Rat.cast_nonneg.mpr hvalue)
  · exact le_top

theorem size_zero (h : 0 < L.infinity) : L.size 0 = 0 := by
  rw [size, if_pos h, L.value_zero, Rat.cast_zero, EReal.coe_zero]

theorem strictMonoOn_size : StrictMonoOn L.size (Set.Iic L.infinity) := by
  intro m _ n hn hlt
  rw [size, if_pos (hlt.trans_le hn), size]
  split
  · exact EReal.coe_lt_coe (Rat.cast_lt.mpr (L.value_strictMono hlt))
  · exact EReal.coe_lt_top _

theorem point_natCast (m : Nat) : L.point m = L.size m := by
  rw [point, if_neg (by omega), Int.natAbs_natCast]

theorem point_neg_natCast (h : 0 < L.infinity) (m : Nat) : L.point (-m) = -L.size m := by
  rcases Nat.eq_zero_or_pos m with rfl | hm
  · rw [Nat.cast_zero, neg_zero, ← Nat.cast_zero, point_natCast, size_zero h, neg_zero]
  · rw [point, if_pos (by omega), Int.natAbs_neg, Int.natAbs_natCast]

/-- Points stand in the order of their keys, on both sides of zero. -/
theorem strictMonoOn_point : StrictMonoOn L.point (Set.Icc (-L.infinity) L.infinity) := by
  intro j hj k hk hlt
  obtain ⟨hj, -⟩ := hj
  obtain ⟨-, hk⟩ := hk
  have hsize {m n : Nat} (hmn : m < n) (hn : n ≤ L.infinity) : L.size m < L.size n :=
    strictMonoOn_size (hmn.le.trans hn) hn hmn
  unfold point
  by_cases hkNegative : k < 0
  · rw [if_pos (hlt.trans hkNegative), if_pos hkNegative, EReal.neg_lt_neg_iff]
    exact hsize (by omega) (by omega)
  · rw [if_neg hkNegative]
    by_cases hjNegative : j < 0
    · rw [if_pos hjNegative]
      have hpos : 0 < L.size j.natAbs := (size_nonneg 0).trans_lt (hsize (by omega) (by omega))
      exact (EReal.neg_lt_zero.mpr hpos).trans_le (size_nonneg _)
    · rw [if_neg hjNegative]
      exact hsize (by omega) (by omega)

end Layout

/-! ## Points of numbers -/

namespace Floating

variable {x y : Double}

/-- The point of the extended line that a number stands for. -/
noncomputable def toEReal (x : Double) : EReal := x.datum.toEReal

theorem toEReal_infinity (negative : Bool) :
    toEReal (infinity negative) = if negative then ⊥ else ⊤ := by
  have hdatum : (infinity negative : Double).datum = .infinite negative := by
    cases negative <;> decide +kernel
  rw [toEReal, hdatum, Datum.toEReal]

theorem toEReal_eq (hx : x.isNaN = false) : x.toEReal =
    if x.negative then -Layout.double.size x.magnitude else Layout.double.size x.magnitude := by
  rw [toEReal, datum]
  rcases isFinite_or_eq_infinity hx with hfinite | ⟨-, hinfinite⟩
  · have hlt : x.magnitude < Layout.double.infinity := of_decide_eq_true hfinite
    obtain ⟨m, q, hdatum, hvalue⟩ := Layout.datum_of_lt hlt x.negative
    have hsize : (Layout.double.value x.magnitude : ℝ) = m * 2 ^ q := by
      rw [hvalue]
      push_cast
      rfl
    rw [hdatum, Layout.size, if_pos hlt, hsize]
    rfl
  · rw [Layout.datum, if_neg hinfinite.not_gt, if_pos hinfinite, Layout.size,
      if_neg hinfinite.not_lt]
    rfl

theorem toEReal_eq_point (hx : x.isNaN = false) : x.toEReal = Layout.double.point x.key := by
  rw [toEReal_eq hx, key]
  split
  · rw [Layout.point_neg_natCast (by decide)]
  · rw [Layout.point_natCast]

/-- **Numbers stand on the extended line in the order of their keys.** -/
theorem toEReal_le_iff (hx : x.isNaN = false) (hy : y.isNaN = false) :
    x.toEReal ≤ y.toEReal ↔ x.key ≤ y.key := by
  have hrange {z : Double} (hz : z.isNaN = false) :
      z.key ∈ Set.Icc (-Layout.double.infinity : Int) Layout.double.infinity := by
    have hends := key_mem_range hz
    rw [key_infinity, key_infinity] at hends
    exact hends
  rw [toEReal_eq_point hx, toEReal_eq_point hy]
  exact Layout.strictMonoOn_point.le_iff_le (hrange hx) (hrange hy)

end Floating

end ForeignLayer.Number
