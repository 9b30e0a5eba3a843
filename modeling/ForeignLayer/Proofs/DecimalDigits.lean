import ForeignLayer.Calendar.Instant
import Mathlib

/-!
# Decimal digits

The value of digits is positional: what stands in front counts for as many tens as digits follow.
Every natural below a power of ten has that many digits, zeros in front of them included.
-/

namespace ForeignLayer.Number

-- Powers are the core library's, whichever other instances are in scope.
attribute [local instance (high)] instPowNat

variable {ds : List Char}

/-! ## Single digits -/

theorem isDigit_iff {c : Char} : c.isDigit = true ↔ 48 ≤ c.toNat ∧ c.toNat ≤ 57 := by
  rw [Char.isDigit, Bool.and_eq_true, decide_eq_true_eq, decide_eq_true_eq]
  exact Iff.rfl

theorem isSome_digitValue? (c : Char) : (digitValue? c).isSome = c.isDigit := by
  have hrange : ('0' ≤ c ∧ c ≤ '9') ↔ c.isDigit = true := isDigit_iff.symm
  rw [Bool.eq_iff_iff, ← hrange, digitValue?]
  split <;> simp_all

theorem digitValue?_of_isDigit {c : Char} (h : c.isDigit = true) :
    digitValue? c = some (digitsValue [c]) := by
  have hrange : '0' ≤ c ∧ c ≤ '9' := isDigit_iff.mp h
  rw [digitValue?, if_pos hrange, digitsValue, List.foldl_cons, List.foldl_nil, Nat.zero_mul,
    Nat.zero_add]

theorem toLower_of_lt {c : Char} (h : c.toNat < 65) : c.toLower = c := by
  rw [Char.toLower, dif_neg]
  intro hupper
  have hle : 65 ≤ c.toNat := hupper.1
  omega

theorem digitChar_spec :
    ∀ d < 10, d.digitChar.isDigit = true ∧ d.digitChar.toNat - '0'.toNat = d := by
  decide

/-! ## Values of digits -/

theorem foldl_digits (n : Nat) (ds : List Char) :
    ds.foldl (fun n c ↦ n * 10 + (c.toNat - '0'.toNat)) n =
      n * 10 ^ ds.length + digitsValue ds := by
  rw [digitsValue]
  induction ds generalizing n with
  | nil => exact (Nat.mul_one n).symm
  | cons d ds ih =>
    rw [List.foldl_cons, List.foldl_cons, ih, ih (0 * 10 + _), List.length_cons, Nat.pow_succ]
    ring

theorem digitsValue_append (as bs : List Char) :
    digitsValue (as ++ bs) = digitsValue as * 10 ^ bs.length + digitsValue bs := by
  rw [digitsValue, List.foldl_append, foldl_digits]
  rfl

theorem digitsValue_cons (c : Char) (ds : List Char) :
    digitsValue (c :: ds) = (c.toNat - '0'.toNat) * 10 ^ ds.length + digitsValue ds := by
  rw [digitsValue, List.foldl_cons, foldl_digits, Nat.zero_mul, Nat.zero_add]

theorem digitsValue_lt (h : ∀ d ∈ ds, d.isDigit = true) : digitsValue ds < 10 ^ ds.length := by
  induction ds with
  | nil => exact Nat.one_pos
  | cons d ds ih =>
    rw [List.forall_mem_cons] at h
    have hd : d.toNat - '0'.toNat ≤ 9 := by
      have hhigh : d.toNat ≤ 57 := (isDigit_iff.mp h.1).2
      have hzero : '0'.toNat = 48 := rfl
      omega
    have hhead := Nat.mul_le_mul_right (10 ^ ds.length) hd
    have htail := ih h.2
    rw [digitsValue_cons, List.length_cons, Nat.pow_succ]
    omega

/-- Zeros in front do not count. -/
theorem digitsValue_dropWhile (ds : List Char) :
    digitsValue (ds.dropWhile (· = '0')) = digitsValue ds := by
  induction ds with
  | nil => rfl
  | cons d ds ih =>
    by_cases hd : d = '0'
    · rw [List.dropWhile_cons, if_pos (decide_eq_true hd), ih, hd, digitsValue_cons, Nat.sub_self,
        Nat.zero_mul, Nat.zero_add]
    · rw [List.dropWhile_cons, if_neg (by simpa using hd)]

theorem le_digitsValue {d : Char} (hd : d.isDigit = true) (hzero : d ≠ '0') (ds : List Char) :
    10 ^ ds.length ≤ digitsValue (d :: ds) := by
  have hone : 1 ≤ d.toNat - '0'.toNat := by
    have hlow : 48 ≤ d.toNat := (isDigit_iff.mp hd).1
    have hne : d.toNat ≠ '0'.toNat := mt Char.toNat_inj.mp hzero
    have h48 : '0'.toNat = 48 := rfl
    omega
  rw [digitsValue_cons]
  exact (Nat.le_mul_of_pos_left _ hone).trans (Nat.le_add_right _ _)

/-- **Every natural below a power of ten has that many digits.** -/
theorem exists_digits {n k : Nat} (h : n < 10 ^ k) :
    ∃ ds : List Char, ds.length = k ∧ (∀ d ∈ ds, d.isDigit = true) ∧ digitsValue ds = n := by
  induction k generalizing n with
  | zero =>
    refine ⟨[], rfl, List.forall_mem_nil _, ?_⟩
    rw [Nat.pow_zero, Nat.lt_one_iff] at h
    exact h.symm
  | succ k ih =>
    rw [Nat.pow_succ] at h
    obtain ⟨ds, hlength, hdigits, hvalue⟩ := ih (Nat.div_lt_of_lt_mul (Nat.mul_comm _ _ ▸ h))
    obtain ⟨hdigit, hlast⟩ := digitChar_spec (n % 10) (Nat.mod_lt _ (by decide))
    refine ⟨ds ++ [(n % 10).digitChar], ?_, ?_, ?_⟩
    · rw [List.length_append, List.length_singleton, hlength]
    · intro d hd
      rw [List.mem_append, List.mem_singleton] at hd
      rcases hd with hd | rfl
      · exact hdigits d hd
      · exact hdigit
    · rw [digitsValue_append, digitsValue_cons, hvalue, hlast, List.length_singleton]
      have hsplit := Nat.div_add_mod' n 10
      have hnil : digitsValue [] = 0 := rfl
      rw [hnil, List.length_nil]
      omega

theorem spanDigits_append {rest : List Char} (h : ∀ d ∈ ds, d.isDigit = true)
    (hrest : ∀ c ∈ rest.head?, c.isDigit = false) : spanDigits (ds ++ rest) = (ds, rest) := by
  have hpos : ∀ d ∈ ds, (digitValue? d).isSome = true := fun d hd ↦ by
    rw [isSome_digitValue?, h d hd]
  have hneg : ∀ c ∈ rest.head?, ¬(digitValue? c).isSome = true := fun c hc ↦ by
    rw [isSome_digitValue?, hrest c hc]
    exact Bool.false_ne_true
  have htake : rest.takeWhile (fun c ↦ (digitValue? c).isSome) = [] := by
    cases rest with
    | nil => rfl
    | cons c rest => exact List.takeWhile_cons_of_neg (hneg c rfl)
  have hdrop : rest.dropWhile (fun c ↦ (digitValue? c).isSome) = rest := by
    cases rest with
    | nil => rfl
    | cons c rest => exact List.dropWhile_cons_of_neg (hneg c rfl)
  rw [spanDigits, List.span_eq_takeWhile_dropWhile, List.takeWhile_append_of_pos hpos,
    List.dropWhile_append_of_pos hpos, htake, hdrop, List.append_nil]

theorem spanDigits_self (h : ∀ d ∈ ds, d.isDigit = true) : spanDigits ds = (ds, []) := by
  have hend : ∀ c ∈ ([] : List Char).head?, c.isDigit = false := by
    intro c hc
    cases hc
  have hspan := spanDigits_append h hend
  rwa [List.append_nil] at hspan

end ForeignLayer.Number

namespace ForeignLayer.Calendar

open Number

theorem allDigits?_of_forall {ds : List Char} (h : ∀ d ∈ ds, d.isDigit = true) :
    allDigits? ds = some (digitsValue ds) := by
  rw [allDigits?, if_pos (List.all_eq_true.mpr h)]

end ForeignLayer.Calendar
