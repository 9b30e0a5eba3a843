import ForeignLayer.Number.Floating
import Mathlib

/-!
# Rounding to the nearest number

The magnitudes of a layout stand for rationals that grow with them, infinity for the first power of
two that is out of range. To round a rational is to take the magnitude whose value is nearest to it,
and the even one of two that are equally near. There is no more than one such magnitude, and
`Layout.roundRatio` gives it.

The proof goes by the grid that a rational is rounded on. A magnitude is a place of the grid and a
count of its units; next to a magnitude lie the neighbours on the grid, or a finer grid below it,
which is too far away to matter.
-/

namespace ForeignLayer.Number

-- Powers are the core library's, whichever other instances are in scope.
attribute [local instance (high)] instPowNat

/-! ## Quotients -/

/-- The nearest natural is off by half of the denominator at most, and even if by just that. -/
theorem divToEven_spec (num : Nat) {den : Nat} (hden : 0 < den) :
    2 * |(num : ℚ) - divToEven num den * den| ≤ den ∧
      (2 * |(num : ℚ) - divToEven num den * den| = den → divToEven num den % 2 = 0) := by
  have hnum := Nat.div_add_mod' num den
  have hrest := Nat.mod_lt num hden
  have hcast : (num : ℚ) = (num / den : ℕ) * den + (num % den : ℕ) := by exact_mod_cast hnum.symm
  have hlt : ((num % den : ℕ) : ℚ) < den := by exact_mod_cast hrest
  unfold divToEven
  dsimp only
  split
  · next h =>
    have hle : (den : ℚ) ≤ 2 * (num % den : ℕ) := by
      exact_mod_cast h.elim Nat.le_of_lt fun h ↦ h.1.le
    have hoff : |(num : ℚ) - (num / den + 1 : ℕ) * den| = den - (num % den : ℕ) := by
      rw [abs_of_nonpos (by push_cast at hcast ⊢; linarith)]
      push_cast at hcast ⊢
      linarith
    rw [hoff]
    refine ⟨by linarith, fun htie ↦ ?_⟩
    have heq : den = 2 * (num % den) := by
      have heq : (den : ℚ) = 2 * (num % den : ℕ) := by linarith
      exact_mod_cast heq
    omega
  · next h =>
    rw [not_or, not_and_or, Nat.not_lt] at h
    have hle : 2 * ((num % den : ℕ) : ℚ) ≤ den := by exact_mod_cast h.1
    have hoff : |(num : ℚ) - (num / den : ℕ) * den| = (num % den : ℕ) := by
      rw [hcast, add_sub_cancel_left, abs_of_nonneg (Nat.cast_nonneg _)]
    rw [hoff]
    refine ⟨hle, fun htie ↦ ?_⟩
    have heq : 2 * (num % den) = den := by exact_mod_cast htie
    omega

/-- The nearest natural of a quotient that is scaled is nearest on the scale. -/
theorem divToEven_of_scale {num den : Nat} {t v u : ℚ} (ht : 0 < t) (hu : 0 < u)
    (hnum : (num : ℚ) = t * v) (hden : (den : ℚ) = t * u) :
    2 * |v - divToEven num den * u| ≤ u ∧
      (2 * |v - divToEven num den * u| = u → divToEven num den % 2 = 0) := by
  have hpos : 0 < den := by
    have hpos : (0 : ℚ) < den := hden ▸ mul_pos ht hu
    exact_mod_cast hpos
  have hspec := divToEven_spec num hpos
  have hscale : (num : ℚ) - divToEven num den * den = t * (v - divToEven num den * u) := by
    rw [hnum, hden]
    ring
  rwa [hscale, hden, abs_mul, abs_of_pos ht, mul_left_comm, mul_le_mul_iff_right₀ ht,
    mul_right_inj' ht.ne'] at hspec

theorem two_zpow_of_nonneg {e : Int} (h : 0 ≤ e) : (2 : ℚ) ^ e = (2 ^ e.toNat : ℕ) := by
  rw [Nat.cast_pow, Nat.cast_ofNat, ← zpow_natCast, Int.toNat_of_nonneg h]

theorem two_zpow_mul_of_neg {e : Int} (h : e < 0) : (2 : ℚ) ^ e * (2 ^ (-e).toNat : ℕ) = 1 := by
  rw [← two_zpow_of_nonneg (by omega), ← zpow_add₀ two_ne_zero, add_neg_cancel, zpow_zero]

namespace Layout

variable (L : Layout)

/-! ## Values -/

/-- The number of times that the grid of a magnitude doubles the least unit. -/
def doublings (m : Nat) : Nat := m / L.unit - 1

/-- The rational that a magnitude stands for; infinity stands for the first power of two that is out
of range. -/
def value (m : Nat) : ℚ :=
  (m - L.doublings m * L.unit : ℕ) * (2 : ℚ) ^ (L.minExponent + L.doublings m)

variable {L}

theorem unit_pos : 0 < L.unit := Nat.two_pow_pos _

/-- The value of a count of units, on a grid that the count is large enough for. -/
theorem value_of_grid {k r : Nat} (hr : r ≤ 2 * L.unit) (hk : k = 0 ∨ L.unit ≤ r) :
    L.value (k * L.unit + r) = r * (2 : ℚ) ^ (L.minExponent + k) := by
  have hunit := L.unit_pos
  have hdiv : (k * L.unit + r) / L.unit = k + r / L.unit := by
    rw [Nat.add_comm, Nat.add_mul_div_right _ _ hunit, Nat.add_comm]
  have htwo : (2 : ℚ) ≠ 0 := two_ne_zero
  rcases hr.lt_or_eq with hlt | rfl
  · have hsame : L.doublings (k * L.unit + r) = k := by
      rw [doublings, hdiv]
      by_cases hru : L.unit ≤ r
      · have hone : r / L.unit = 1 :=
          Nat.div_eq_of_lt_le (by omega) (by omega)
        omega
      · have hzero : r / L.unit = 0 := Nat.div_eq_of_lt (by omega)
        omega
    rw [value, hsame, Nat.add_sub_cancel_left]
  · -- the count of all units of the grid is the first one of the next grid
    have hnext : L.doublings (k * L.unit + 2 * L.unit) = k + 1 := by
      rw [doublings, hdiv, Nat.mul_div_cancel _ hunit]
      omega
    have hcount : k * L.unit + 2 * L.unit - (k + 1) * L.unit = L.unit := by
      rw [Nat.add_one_mul k]
      omega
    rw [value, hnext, hcount, Nat.cast_succ, ← add_assoc, zpow_add_one₀ htwo]
    push_cast
    ring

theorem exists_grid (m : Nat) :
    ∃ k r, m = k * L.unit + r ∧ r < 2 * L.unit ∧ (k = 0 ∨ L.unit ≤ r) := by
  have hunit := L.unit_pos
  have hm := Nat.div_add_mod' m L.unit
  have hmod := Nat.mod_lt m hunit
  by_cases hlow : m / L.unit = 0
  · rw [hlow] at hm
    exact ⟨0, m, by omega, by omega, Or.inl rfl⟩
  · obtain ⟨k, hk⟩ := Nat.exists_eq_add_one_of_ne_zero hlow
    rw [hk, Nat.succ_mul] at hm
    exact ⟨k, L.unit + m % L.unit, by omega, by omega, Or.inr (by omega)⟩

theorem value_strictMono : StrictMono L.value := by
  refine strictMono_nat_of_lt_succ fun m ↦ ?_
  obtain ⟨k, r, rfl, hr, hk⟩ := L.exists_grid m
  rw [Nat.add_assoc, value_of_grid hr.le hk, value_of_grid hr (hk.imp_right Nat.le_succ_of_le)]
  have hpos : (0 : ℚ) < 2 ^ (L.minExponent + k) := by positivity
  push_cast
  nlinarith

theorem value_zero : L.value 0 = 0 := by
  have hgrid := L.value_of_grid (k := 0) (r := 0) (Nat.zero_le _) (Or.inl rfl)
  rw [Nat.zero_mul, Nat.add_zero, Nat.cast_zero, zero_mul] at hgrid
  exact hgrid

theorem datum_of_lt {m : Nat} (h : m < L.infinity) (negative : Bool) :
    ∃ significand exponent, L.datum negative m = .finite negative significand exponent ∧
      L.value m = significand * (2 : ℚ) ^ exponent := by
  have hunit := L.unit_pos
  have hm := Nat.div_add_mod' m L.unit
  have hmod := Nat.mod_lt m hunit
  rw [datum, if_neg (by omega), if_neg (by omega)]
  dsimp only
  by_cases hlow : m / L.unit = 0
  · rw [if_pos hlow]
    refine ⟨_, _, rfl, ?_⟩
    have hgrid := L.value_of_grid (k := 0) (r := m % L.unit) (by omega) (Or.inl rfl)
    rw [hlow] at hm
    rw [hm, Nat.cast_zero, add_zero] at hgrid
    exact hgrid
  · rw [if_neg hlow]
    refine ⟨_, _, rfl, ?_⟩
    obtain ⟨k, hk⟩ := Nat.exists_eq_add_one_of_ne_zero hlow
    have hgrid := L.value_of_grid (k := k) (r := L.unit + m % L.unit) (by omega) (Or.inr (by omega))
    rw [← Nat.add_assoc, ← Nat.succ_mul, Nat.succ_eq_add_one, ← hk, hm] at hgrid
    rw [hgrid, hk, Nat.add_sub_cancel]

/-! ## The nearest magnitude -/

variable (L) in
/-- Whether a magnitude is nearest to a rational among the magnitudes up to infinity, and even if
another one is equally near. -/
structure IsNearest (v : ℚ) (m : Nat) : Prop where
  le_infinity : m ≤ L.infinity
  nearest : ∀ n ≤ L.infinity, |v - L.value m| ≤ |v - L.value n|
  even : ∀ n ≤ L.infinity, n ≠ m → |v - L.value n| = |v - L.value m| → m % 2 = 0

section IsNearest

variable {v : ℚ} {m n : Nat}

theorem IsNearest.not_lt (hm : L.IsNearest v m) (hn : L.IsNearest v n) : ¬m < n := by
  intro hlt
  have hvalue := L.value_strictMono hlt
  have htie : |v - L.value m| = |v - L.value n| :=
    le_antisymm (hm.nearest n hn.le_infinity) (hn.nearest m hm.le_infinity)
  have hmiddle : v - L.value m = L.value n - v := by
    rcases abs_eq_abs.mp htie with h | h <;> linarith
  -- what lies between the two would be nearer, and of neighbours one is odd
  by_cases hnext : m + 1 < n
  · have hlow := L.value_strictMono (Nat.lt_succ_self m)
    have hhigh := L.value_strictMono hnext
    have hbetween := hm.nearest (m + 1) (hnext.le.trans hn.le_infinity)
    rw [abs_of_nonneg (by linarith), le_abs] at hbetween
    rcases hbetween with h | h <;> linarith
  · have hm' := hm.even n hn.le_infinity hlt.ne' htie.symm
    have hn' := hn.even m hm.le_infinity hlt.ne htie
    omega

theorem IsNearest.unique (hm : L.IsNearest v m) (hn : L.IsNearest v n) : m = n :=
  Nat.le_antisymm (Nat.not_lt.mp (hn.not_lt hm)) (Nat.not_lt.mp (hm.not_lt hn))

theorem isNearest_value (h : m ≤ L.infinity) : L.IsNearest (L.value m) m where
  le_infinity := h
  nearest n _ := by rw [sub_self, abs_zero]; exact abs_nonneg _
  even n _ hne htie := by
    rw [sub_self, abs_zero, abs_eq_zero, sub_eq_zero] at htie
    exact absurd (L.value_strictMono.injective htie).symm hne

/-- Infinity is nearest to all that lies beyond it. -/
theorem isNearest_infinity (h : L.value L.infinity ≤ v) : L.IsNearest v L.infinity := by
  have hcloser {n : Nat} (hn : n ≤ L.infinity) (hne : n ≠ L.infinity) :
      |v - L.value L.infinity| < |v - L.value n| := by
    have hlt := L.value_strictMono (lt_of_le_of_ne hn hne)
    rw [abs_of_nonneg (by linarith), abs_of_nonneg (by linarith)]
    linarith
  refine ⟨le_rfl, fun n hn ↦ ?_, fun n hn hne htie ↦ absurd htie (hcloser hn hne).ne'⟩
  by_cases hne : n = L.infinity
  · rw [hne]
  · exact (hcloser hn hne).le

/-- Zero is nearest to what is less than half of the least unit. -/
theorem isNearest_zero (hv : 0 ≤ v) (h : 2 * v < L.value 1) : L.IsNearest v 0 where
  le_infinity := Nat.zero_le _
  nearest n _ := by
    rw [value_zero, sub_zero, abs_of_nonneg hv, le_abs]
    by_cases hn : n = 0
    · rw [hn, value_zero]
      exact Or.inl (by linarith)
    · have hle := L.value_strictMono.monotone (Nat.one_le_iff_ne_zero.mpr hn)
      exact Or.inr (by linarith)
  even _ _ _ _ := rfl

end IsNearest

/-! ## Rounding -/

theorem reached_iff (num : Nat) {den : Nat} (hden : 0 < den) (d : Int) :
    (if 0 ≤ d then den * 2 ^ d.toNat ≤ num else den ≤ num * 2 ^ (-d).toNat) ↔
      (2 : ℚ) ^ d ≤ (num : ℚ) / den := by
  rw [le_div_iff₀ (by exact_mod_cast hden)]
  split
  · next hd =>
    rw [two_zpow_of_nonneg hd, mul_comm, ← Nat.cast_mul, Nat.cast_le]
  · next hd =>
    have hone := two_zpow_mul_of_neg (Int.not_le.mp hd)
    have hpos : (0 : ℚ) < 2 ^ d := by positivity
    have hscale : (2 : ℚ) ^ d * (num * 2 ^ (-d).toNat : ℕ) = num := by
      rw [Nat.cast_mul, mul_left_comm, hone, mul_one]
    rw [← Nat.cast_le (α := ℚ), ← mul_le_mul_iff_right₀ hpos, hscale]

/-- The binary exponent of a fraction is the floor of its logarithm. -/
theorem binaryExponent_spec {num den : Nat} (hnum : num ≠ 0) (hden : den ≠ 0) :
    (2 : ℚ) ^ binaryExponent num den ≤ (num : ℚ) / den ∧
      (num : ℚ) / den < 2 ^ (binaryExponent num den + 1) := by
  have htwo : (2 : ℚ) ≠ 0 := two_ne_zero
  have hdenpos : (0 : ℚ) < den := by exact_mod_cast Nat.pos_of_ne_zero hden
  have hbounds {n : Nat} (hn : n ≠ 0) :
      (2 : ℚ) ^ (n.log2 : Int) ≤ n ∧ (n : ℚ) < 2 ^ ((n.log2 : Int) + 1) := by
    constructor
    · exact_mod_cast Nat.log2_self_le hn
    · exact_mod_cast Nat.lt_log2_self
  obtain ⟨hnumle, hnumlt⟩ := hbounds hnum
  obtain ⟨hdenle, hdenlt⟩ := hbounds hden
  -- the difference of the logarithms is the exponent, or one more
  have hlow : (2 : ℚ) ^ ((num.log2 : Int) - den.log2 - 1) ≤ (num : ℚ) / den := by
    rw [le_div_iff₀ hdenpos]
    calc (2 : ℚ) ^ ((num.log2 : Int) - den.log2 - 1) * den
        ≤ 2 ^ ((num.log2 : Int) - den.log2 - 1) * 2 ^ ((den.log2 : Int) + 1) := by gcongr
      _ = 2 ^ (num.log2 : Int) := by rw [← zpow_add₀ htwo]; congr 1; ring
      _ ≤ num := hnumle
  have hhigh : (num : ℚ) / den < 2 ^ ((num.log2 : Int) - den.log2 + 1) := by
    rw [div_lt_iff₀ hdenpos]
    calc (num : ℚ) < 2 ^ ((num.log2 : Int) + 1) := hnumlt
      _ = 2 ^ ((num.log2 : Int) - den.log2 + 1) * 2 ^ (den.log2 : Int) := by
        rw [← zpow_add₀ htwo]; congr 1; ring
      _ ≤ 2 ^ ((num.log2 : Int) - den.log2 + 1) * den := by gcongr
  have hreached := reached_iff num (Nat.pos_of_ne_zero hden)
  by_cases h : (2 : ℚ) ^ ((num.log2 : Int) - den.log2) ≤ (num : ℚ) / den
  · have hexponent : binaryExponent num den = (num.log2 : Int) - den.log2 :=
      if_pos ((hreached _).mpr h)
    rw [hexponent]
    exact ⟨h, hhigh⟩
  · have hexponent : binaryExponent num den = (num.log2 : Int) - den.log2 - 1 :=
      if_neg (mt (hreached _).mp h)
    rw [hexponent, sub_add_cancel]
    exact ⟨hlow, not_le.mp h⟩

/-- The count of units of a grid that is nearest to a fraction. -/
def gridCount (num den : Nat) (q : Int) : Nat :=
  if 0 ≤ q then divToEven num (den * 2 ^ q.toNat) else divToEven (num * 2 ^ (-q).toNat) den

theorem gridCount_spec (num : Nat) {den : Nat} (hden : 0 < den) (q : Int) :
    2 * |(num : ℚ) / den - gridCount num den q * 2 ^ q| ≤ 2 ^ q ∧
      (2 * |(num : ℚ) / den - gridCount num den q * 2 ^ q| = 2 ^ q →
        gridCount num den q % 2 = 0) := by
  have hdenpos : (0 : ℚ) < den := by exact_mod_cast hden
  have hu : (0 : ℚ) < 2 ^ q := by positivity
  unfold gridCount
  split
  · next hq =>
    refine divToEven_of_scale hdenpos hu (mul_div_cancel₀ _ hdenpos.ne').symm ?_
    rw [Nat.cast_mul, two_zpow_of_nonneg hq]
  · next hq =>
    have hone := two_zpow_mul_of_neg (Int.not_le.mp hq)
    have hpow : (0 : ℚ) < (2 ^ (-q).toNat : ℕ) := by positivity
    refine divToEven_of_scale (mul_pos hdenpos hpow) hu ?_ ?_
    · rw [Nat.cast_mul]
      field_simp
    · rw [mul_assoc, mul_comm _ ((2 : ℚ) ^ q), hone, mul_one]

section Nearest

variable {v : ℚ} {k r : Nat}

theorem le_value_of_lt {n : Nat} (hr : r ≤ 2 * L.unit) (hk : k = 0 ∨ L.unit ≤ r)
    (hn : k * L.unit + r < n) : (r + 1 : ℚ) * 2 ^ (L.minExponent + k) ≤ L.value n := by
  refine le_trans ?_ (L.value_strictMono.monotone hn)
  rcases hr.lt_or_eq with hlt | rfl
  · have hgrid := value_of_grid hlt (hk.imp_right Nat.le_succ_of_le)
    rw [Nat.succ_eq_add_one, Nat.add_assoc, hgrid, Nat.cast_succ]
  · have hunit := L.unit_pos
    have hnext : k * L.unit + 2 * L.unit + 1 = (k + 1) * L.unit + (L.unit + 1) := by ring
    have hgrid := L.value_of_grid (k := k + 1) (r := L.unit + 1) (by omega) (Or.inr (Nat.le_succ _))
    have hpos : (0 : ℚ) < 2 ^ (L.minExponent + k) := by positivity
    rw [Nat.succ_eq_add_one, hnext, hgrid, Nat.cast_succ k, ← add_assoc, zpow_add_one₀ two_ne_zero]
    push_cast
    nlinarith

theorem value_le_of_lt {n : Nat} (hr : r ≤ 2 * L.unit) (hk : k = 0 ∨ L.unit < r)
    (hn : n < k * L.unit + r) : L.value n ≤ (r - 1 : ℚ) * 2 ^ (L.minExponent + k) := by
  have hunit := L.unit_pos
  obtain ⟨r, rfl⟩ : ∃ s, r = s + 1 := Nat.exists_eq_add_one_of_ne_zero fun hzero ↦ by
    rcases hk with rfl | hk <;> omega
  have hgrid := L.value_of_grid (k := k) (r := r) (by omega) (hk.imp_right Nat.le_of_lt_succ)
  have hle : n ≤ k * L.unit + r := Nat.le_of_lt_succ hn
  refine (L.value_strictMono.monotone hle).trans (le_of_eq ?_)
  rw [hgrid, Nat.cast_succ, add_sub_cancel_right]

/-- On the grid of a rational, no other magnitude is nearer than the one with the nearest count of
units, and that one is even if another one is equally near. -/
theorem le_abs_of_grid (hunit : L.unit % 2 = 0)
    (hlow : k = 0 ∨ (L.unit : ℚ) * 2 ^ (L.minExponent + k) ≤ v)
    (hhigh : v < 2 * L.unit * 2 ^ (L.minExponent + k))
    (hspec : 2 * |v - r * 2 ^ (L.minExponent + k)| ≤ 2 ^ (L.minExponent + k) ∧
      (2 * |v - r * 2 ^ (L.minExponent + k)| = 2 ^ (L.minExponent + k) → r % 2 = 0))
    {n : Nat} (hn : n ≠ k * L.unit + r) :
    |v - L.value (k * L.unit + r)| ≤ |v - L.value n| ∧
      (|v - L.value n| = |v - L.value (k * L.unit + r)| → (k * L.unit + r) % 2 = 0) := by
  have hpos : (0 : ℚ) < 2 ^ (L.minExponent + k) := by positivity
  have hclose : |v - r * 2 ^ (L.minExponent + k)| ≤ 2 ^ (L.minExponent + k) / 2 := by
    linarith [hspec.1]
  have hoff := abs_le.mp hclose
  have hr : r ≤ 2 * L.unit := by
    by_contra hr
    have hr : (2 * L.unit + 1 : ℚ) ≤ r := by exact_mod_cast Nat.not_le.mp hr
    nlinarith
  have hk : k = 0 ∨ L.unit ≤ r := by
    refine hlow.imp_right fun hlow ↦ ?_
    by_contra hr
    have hr : (r + 1 : ℚ) ≤ L.unit := by exact_mod_cast Nat.not_le.mp hr
    nlinarith
  rw [value_of_grid hr hk]
  -- what is at least half a unit away is no nearer, and as near only if half a unit was rounded off
  have hfar (hhalf : (2 : ℚ) ^ (L.minExponent + k) / 2 ≤ |v - L.value n|) :
      |v - r * 2 ^ (L.minExponent + k)| ≤ |v - L.value n| ∧
        (|v - L.value n| = |v - r * 2 ^ (L.minExponent + k)| → (k * L.unit + r) % 2 = 0) := by
    refine ⟨hclose.trans hhalf, fun htie ↦ ?_⟩
    have hreven := hspec.2 (by linarith)
    rw [Nat.add_mod, Nat.mul_mod, hunit, hreven]
    omega
  rcases Nat.lt_or_gt_of_ne hn with hlt | hgt
  · by_cases hfirst : k = 0 ∨ L.unit < r
    · have hle := value_le_of_lt hr hfirst hlt
      exact hfar (le_abs.mpr (Or.inl (by linarith)))
    · -- the first unit of a grid has a finer grid below it, but the rational does not
      rw [not_or] at hfirst
      have hreq : r = L.unit := Nat.le_antisymm (Nat.not_lt.mp hfirst.2) (hk.resolve_left hfirst.1)
      have hle := hlow.resolve_left hfirst.1
      have hless := L.value_strictMono hlt
      rw [value_of_grid hr hk, hreq] at hless
      rw [hreq, abs_of_nonneg (by linarith), abs_of_nonneg (by linarith)]
      exact ⟨by linarith, fun htie ↦ by linarith⟩
  · have hle := le_value_of_lt hr hk hgt
    exact hfar (le_abs.mpr (Or.inr (by linarith)))

/-- What no other magnitude is nearer than is nearest, cut off at infinity. -/
theorem isNearest_min {m : Nat}
    (h : ∀ n, n ≠ m → |v - L.value m| ≤ |v - L.value n| ∧
      (|v - L.value n| = |v - L.value m| → m % 2 = 0)) :
    L.IsNearest v (min L.infinity m) := by
  by_cases hm : m ≤ L.infinity
  · rw [Nat.min_eq_right hm]
    refine ⟨hm, fun n _ ↦ ?_, fun n _ hne ↦ (h n hne).2⟩
    by_cases hne : n = m
    · rw [hne]
    · exact (h n hne).1
  · rw [Nat.min_eq_left (Nat.le_of_not_le hm)]
    refine isNearest_infinity (not_lt.mp fun hlt ↦ ?_)
    have hless := L.value_strictMono (Nat.lt_of_not_le hm)
    have hle := (h L.infinity (Nat.lt_of_not_le hm).ne).1
    rw [abs_of_nonpos (by linarith), abs_of_nonpos (by linarith)] at hle
    linarith

/-- **A fraction is rounded to its nearest magnitude.** -/
theorem isNearest_roundRatio (hunit : L.unit % 2 = 0) (num : Nat) {den : Nat} (hden : 0 < den) :
    L.IsNearest ((num : ℚ) / den) (L.roundRatio num den) := by
  by_cases hnum : num = 0
  · rw [roundRatio, if_pos hnum, hnum, Nat.cast_zero, zero_div, ← L.value_zero]
    exact isNearest_value (Nat.zero_le _)
  · obtain ⟨hle, hlt⟩ := binaryExponent_spec hnum hden.ne'
    rw [roundRatio, if_neg hnum]
    dsimp only
    generalize binaryExponent num den = e at hle hlt
    obtain ⟨k, hk⟩ : ∃ k : Nat, max L.minExponent (e - L.fractionBits) = L.minExponent + k :=
      ⟨(max L.minExponent (e - L.fractionBits) - L.minExponent).toNat, by omega⟩
    have hplace : (L.minExponent + k - L.minExponent).toNat = k := by omega
    have hpow (n : Int) : (L.unit : ℚ) * 2 ^ n = 2 ^ (L.fractionBits + n) := by
      rw [unit, Nat.cast_pow, Nat.cast_ofNat, ← zpow_natCast, ← zpow_add₀ two_ne_zero]
    rw [hk, hplace]
    refine isNearest_min fun n hn ↦ le_abs_of_grid hunit ?_ ?_ (gridCount_spec num hden _) hn
    · by_cases hzero : k = 0
      · exact Or.inl hzero
      · refine Or.inr ((le_of_eq ?_).trans hle)
        rw [hpow]
        congr 1
        omega
    · refine hlt.trans_le ?_
      rw [mul_assoc, hpow, ← zpow_one_add₀ two_ne_zero]
      exact zpow_le_zpow_right₀ one_le_two (by omega)

end Nearest

end Layout

end ForeignLayer.Number
