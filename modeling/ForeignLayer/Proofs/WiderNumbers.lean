import ForeignLayer.Proofs.DecimalReading
import ForeignLayer.Proofs.NumberOrder
import ForeignLayer.Proofs.Rounding

/-!
# Numbers in a wider layout

A layout is wider than another one if it has all of its values. There, a number stands in the same
place among the others, and on the way back it is the same word again. That is not so of a NaN,
which becomes quiet on its way.

A number of the wider layout has the value of the number that it comes from, and nothing else is
nearer to that value, in one layout or the other. So neither conversion rounds.
-/

namespace ForeignLayer.Number

-- Powers are the core library's, whichever other instances are in scope.
attribute [local instance (high)] instPowNat

/-! ## Layouts -/

namespace Layout

variable {L : Layout}

theorem infinity_lt_signBit : L.infinity < L.signBit := by
  have hpos : 0 < 2 ^ L.exponentBits := Nat.two_pow_pos _
  rw [infinity, signBit, Nat.add_comm, Nat.pow_add, ← unit]
  exact Nat.mul_lt_mul_of_pos_right (by omega) L.unit_pos

theorem isNearest_roundScaled (hunit : L.unit % 2 = 0) (m : Nat) (q : Int) :
    L.IsNearest (m * (2 : ℚ) ^ q) (L.roundScaled m q) := by
  unfold roundScaled
  split
  · next hq =>
    have hnearest := isNearest_roundRatio hunit (m * 2 ^ q.toNat) one_pos
    rwa [Nat.cast_mul, ← two_zpow_of_nonneg hq, Nat.cast_one, div_one] at hnearest
  · next hq =>
    have hone := two_zpow_mul_of_neg (Int.not_le.mp hq)
    have hpow : (0 : ℚ) < (2 ^ (-q).toNat : ℕ) := by positivity
    have hquotient : m * (2 : ℚ) ^ q = m / (2 ^ (-q).toNat : ℕ) := by
      rw [eq_div_iff hpow.ne', mul_assoc, hone, mul_one]
    rw [hquotient]
    exact isNearest_roundRatio hunit m (Nat.two_pow_pos _)

/-- Whether every finite value of a layout is one of another layout too. -/
def IsWithin (L M : Layout) : Prop := ∀ m < L.infinity, ∃ n < M.infinity, M.value n = L.value m

/-- The values of 32 bits are values of 64 bits: there are digits enough, and the least number of
the narrow layout is far above the grid of the least ones of the wide layout. -/
theorem single_isWithin_double : single.IsWithin double := by
  intro m hm
  have hunit : single.unit = 8388608 := rfl
  have hunit' : double.unit = 4503599627370496 := rfl
  obtain ⟨k, r, rfl, hr, hk⟩ := single.exists_grid m
  have hgrid : k < 255 := by
    have hinfinity : single.infinity = 255 * 8388608 := rfl
    rw [hunit, hinfinity] at hm
    omega
  have hbelow {j c : Nat} (hc : c ≤ 2 * 4503599627370496) :
      (k + 925 - j) * 4503599627370496 + c < double.infinity := by
    have hle : (k + 925 - j) * 4503599627370496 ≤ 1180 * 4503599627370496 :=
      Nat.mul_le_mul_right _ (by omega)
    have hinfinity : 1182 * 4503599627370496 < double.infinity := by decide
    omega
  rw [value_of_grid hr.le hk]
  rw [hunit] at hr
  by_cases hzero : r = 0
  · refine ⟨0, by decide, ?_⟩
    rw [value_zero, hzero, Nat.cast_zero, zero_mul]
  · -- as many doublings as it takes to fill the digits of the wide layout
    have hlow := Nat.log2_self_le hzero
    have hhigh := @Nat.lt_log2_self r
    have hlog : r.log2 < 24 := (Nat.log2_lt hzero).mpr (by omega)
    have hfull : 2 ^ r.log2 * 2 ^ (52 - r.log2) = 4503599627370496 := by
      rw [← Nat.pow_add, Nat.add_sub_of_le (by omega)]
    rw [Nat.pow_succ'] at hhigh
    have hcount : 4503599627370496 ≤ r * 2 ^ (52 - r.log2) :=
      hfull ▸ Nat.mul_le_mul_right _ hlow
    have hcount' : r * 2 ^ (52 - r.log2) ≤ 2 * 4503599627370496 := by
      rw [← hfull, ← Nat.mul_assoc]
      exact Nat.mul_le_mul_right _ hhigh.le
    refine ⟨(k + 925 - (52 - r.log2)) * double.unit + r * 2 ^ (52 - r.log2), ?_, ?_⟩
    · rw [hunit']
      exact hbelow hcount'
    · have hplace : double.minExponent + (k + 925 - (52 - r.log2) : ℕ) =
          single.minExponent + k - (52 - r.log2 : ℕ) := by
        have hmin : single.minExponent = -149 := by decide
        have hmin' : double.minExponent = -1074 := by decide
        omega
      rw [value_of_grid (by omega) (Or.inr (by omega)), hplace, Nat.cast_mul, Nat.cast_pow,
        Nat.cast_ofNat, mul_assoc, ← zpow_natCast, ← zpow_add₀ two_ne_zero, add_sub_cancel]

end Layout

/-! ## Words -/

namespace Floating

variable {L M : Layout}

section Words

variable {s : Bool} {m : Nat}

theorem toNat_ofMagnitude (h : m < L.signBit) :
    (ofMagnitude s m : Floating L).bits.toNat = if s then L.signBit + m else m := by
  have hwidth : 2 ^ L.width = 2 * L.signBit := Nat.pow_succ'
  rw [ofMagnitude, BitVec.toNat_ofNat, hwidth]
  exact Nat.mod_eq_of_lt (by split <;> omega)

theorem negative_ofMagnitude (h : m < L.signBit) :
    (ofMagnitude s m : Floating L).negative = s := by
  rw [negative, toNat_ofMagnitude h]
  cases s
  · exact decide_eq_false (Nat.not_le.mpr h)
  · exact decide_eq_true (Nat.le_add_right _ _)

theorem magnitude_ofMagnitude (h : m < L.signBit) :
    (ofMagnitude s m : Floating L).magnitude = m := by
  rw [magnitude, toNat_ofMagnitude h]
  cases s
  · exact Nat.mod_eq_of_lt h
  · exact (Nat.add_mod_left _ _).trans (Nat.mod_eq_of_lt h)

end Words

variable {x y : Floating L}

theorem isFinite_or_eq_infinity (hx : x.isNaN = false) :
    x.isFinite = true ∨ x = infinity x.negative ∧ x.magnitude = L.infinity := by
  rw [isNaN, decide_eq_false_iff_not, Nat.not_lt] at hx
  rcases hx.lt_or_eq with hlt | heq
  · exact Or.inl (decide_eq_true hlt)
  · refine Or.inr ⟨?_, heq⟩
    rw [infinity, ← heq, ofMagnitude_self]

theorem eq_of_totalKey_eq (h : x.totalKey = y.totalKey) : x = y := by
  unfold totalKey at h
  split at h <;> split at h
  · next hx hy => exact ext_magnitude (hx.trans hy.symm) (by omega)
  · omega
  · omega
  · next hx hy => exact ext_magnitude (Bool.eq_iff_iff.mpr (iff_of_false hx hy)) (by omega)

/-! ## Conversions -/

theorem convert_infinity (s : Bool) :
    (infinity s : Floating L).convert = (infinity s : Floating M) := by
  have hdatum : (infinity s : Floating L).datum = .infinite s := by
    have hlt := L.infinity_lt_signBit
    rw [datum, infinity, negative_ofMagnitude hlt, magnitude_ofMagnitude hlt, Layout.datum,
      if_neg (Nat.lt_irrefl _), if_pos rfl]
  rw [convert, hdatum]

/-- A number becomes the one with its value, if there is one. -/
theorem convert_eq_of_value (hunit : M.unit % 2 = 0) (hx : x.isFinite = true) {n : Nat}
    (hn : n ≤ M.infinity) (hvalue : M.value n = L.value x.magnitude) :
    (x.convert : Floating M) = ofMagnitude x.negative n := by
  obtain ⟨m, q, hdatum, hsize⟩ := Layout.datum_of_lt (of_decide_eq_true hx) x.negative
  have hnearest := Layout.isNearest_roundScaled hunit m q
  rw [← hsize, ← hvalue] at hnearest
  have hsame := (Layout.isNearest_value hn).unique hnearest
  rw [convert, datum, hdatum, hsame]
  rfl

section Wider

variable (h : L.IsWithin M) (hunit : M.unit % 2 = 0)
include h hunit

theorem exists_convert (hx : x.isFinite = true) : ∃ n < M.infinity,
    (x.convert : Floating M) = ofMagnitude x.negative n ∧ M.value n = L.value x.magnitude := by
  obtain ⟨n, hn, hvalue⟩ := h _ (of_decide_eq_true hx)
  exact ⟨n, hn, convert_eq_of_value hunit hx hn.le hvalue, hvalue⟩

theorem negative_convert (hx : x.isNaN = false) :
    (x.convert : Floating M).negative = x.negative := by
  rcases isFinite_or_eq_infinity hx with hfinite | ⟨hinfinite, -⟩
  · obtain ⟨n, hn, hconvert, -⟩ := exists_convert h hunit hfinite
    rw [hconvert, negative_ofMagnitude (hn.trans M.infinity_lt_signBit)]
  · rw [hinfinite, convert_infinity, infinity, infinity,
      negative_ofMagnitude M.infinity_lt_signBit, negative_ofMagnitude L.infinity_lt_signBit]

theorem magnitude_convert_lt (hy : y.isNaN = false) (hlt : x.magnitude < y.magnitude) :
    (x.convert : Floating M).magnitude < (y.convert : Floating M).magnitude := by
  have hyle : y.magnitude ≤ L.infinity := by
    rwa [isNaN, decide_eq_false_iff_not, Nat.not_lt] at hy
  have hx : x.isFinite = true := decide_eq_true (hlt.trans_le hyle)
  obtain ⟨n, hn, hconvert, hvalue⟩ := exists_convert h hunit hx
  rw [hconvert, magnitude_ofMagnitude (hn.trans M.infinity_lt_signBit)]
  rcases isFinite_or_eq_infinity hy with hfinite | ⟨hinfinite, -⟩
  · obtain ⟨k, hk, hconvert', hvalue'⟩ := exists_convert h hunit hfinite
    rw [hconvert', magnitude_ofMagnitude (hk.trans M.infinity_lt_signBit)]
    refine M.value_strictMono.lt_iff_lt.mp ?_
    rw [hvalue, hvalue']
    exact L.value_strictMono hlt
  · rw [hinfinite, convert_infinity, infinity, magnitude_ofMagnitude M.infinity_lt_signBit]
    exact hn

theorem totalKey_convert_lt (hx : x.isNaN = false) (hy : y.isNaN = false)
    (hlt : x.totalKey < y.totalKey) :
    (x.convert : Floating M).totalKey < (y.convert : Floating M).totalKey := by
  have hless := @magnitude_convert_lt L M x y h hunit hy
  have hmore := @magnitude_convert_lt L M y x h hunit hx
  unfold totalKey at hlt ⊢
  rw [negative_convert h hunit hx, negative_convert h hunit hy]
  split at hlt <;> split at hlt
  · next hxs hys =>
    have hmore := hmore (by omega)
    rw [if_pos hxs, if_pos hys]
    omega
  · next hxs hys =>
    rw [if_pos hxs, if_neg hys]
    omega
  · omega
  · next hxs hys =>
    have hless := hless (by omega)
    rw [if_neg hxs, if_neg hys]
    omega

/-- **Numbers keep their order in a wider layout.** -/
theorem compare_convert (hx : x.isNaN = false) (hy : y.isNaN = false) :
    compare (x.convert : Floating M).totalKey (y.convert : Floating M).totalKey =
      compare x.totalKey y.totalKey := by
  rcases lt_trichotomy x.totalKey y.totalKey with hlt | heq | hgt
  · rw [compare_lt_iff_lt.mpr hlt, compare_lt_iff_lt]
    exact totalKey_convert_lt h hunit hx hy hlt
  · rw [eq_of_totalKey_eq heq, compare_eq_iff_eq.mpr rfl, compare_eq_iff_eq.mpr rfl]
  · rw [compare_gt_iff_gt.mpr hgt, compare_gt_iff_gt]
    exact totalKey_convert_lt h hunit hy hx hgt

/-- **A number that went to a wider layout comes back as the same word.** -/
theorem convert_convert (hunit' : L.unit % 2 = 0) (hx : x.isNaN = false) :
    ((x.convert : Floating M).convert : Floating L) = x := by
  rcases isFinite_or_eq_infinity hx with hfinite | ⟨hinfinite, -⟩
  · obtain ⟨n, hn, hconvert, hvalue⟩ := exists_convert h hunit hfinite
    have hlt := hn.trans M.infinity_lt_signBit
    have hmagnitude := @magnitude_ofMagnitude M x.negative n hlt
    have hback : (ofMagnitude x.negative n : Floating M).isFinite = true := by
      rw [isFinite, hmagnitude]
      exact decide_eq_true hn
    have hle : x.magnitude ≤ L.infinity := Nat.le_of_lt (of_decide_eq_true hfinite)
    rw [hconvert, convert_eq_of_value hunit' hback hle (by rw [hmagnitude, hvalue]),
      negative_ofMagnitude hlt, ofMagnitude_self]
  · rw [hinfinite, convert_infinity, convert_infinity]

end Wider

end Floating

end ForeignLayer.Number
