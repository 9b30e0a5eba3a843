import ForeignLayer.Proofs.DecimalDigits
import ForeignLayer.Proofs.NumberOrder
import ForeignLayer.Proofs.Rounding
import ForeignLayer.Value.Time

/-!
# Reading decimal numbers

A numeral is a decimal number without exponent: a sign, digits, and a point with further digits. It
stands for a rational, and what is read from it is the number nearest to that rational. The cuts
that the reader makes far outside the range do not show, because nothing else is nearest there.

Every finite number is the value of a numeral: its own decimal expansion, which ends because its
denominator is a power of two.
-/

namespace ForeignLayer.Number

-- Powers are the core library's, whichever other instances are in scope.
attribute [local instance (high)] instPowNat

/-! ## Numerals -/

/-- A decimal number as it is written without exponent. -/
structure Numeral where
  negative : Bool
  /-- The digits in front of the point. -/
  whole : List Char
  /-- The digits behind the point, if there is one. -/
  fraction : Option (List Char)

namespace Numeral

/-- The characters of a numeral. -/
def chars (n : Numeral) : List Char :=
  (if n.negative then ['-'] else []) ++ n.whole ++ n.fraction.elim [] ('.' :: ·)

/-- All digits of a numeral. -/
def digits (n : Numeral) : List Char := n.whole ++ n.fraction.getD []

/-- The number of digits behind the point. -/
def places (n : Numeral) : Nat := (n.fraction.getD []).length

/-- Whether a numeral has digits, and nothing but digits. -/
def IsDecimal (n : Numeral) : Prop := n.digits ≠ [] ∧ ∀ d ∈ n.digits, d.isDigit = true

/-- The rational that a numeral stands for, the sign aside. -/
def size (n : Numeral) : ℚ := digitsValue n.digits / (10 ^ n.places : ℕ)

/-- Whether a finite number is nearest to a numeral, with the sign that is written. -/
def Denotes (n : Numeral) (x : Double) : Prop :=
  x.isFinite = true ∧ x.negative = n.negative ∧ Layout.double.IsNearest n.size x.magnitude

end Numeral

/-! ## Rounding decimals -/

theorem Floating.ofMagnitude_self {L : Layout} (x : Floating L) :
    ofMagnitude x.negative x.magnitude = x := by
  have hbits : (if x.negative then L.signBit + x.magnitude else x.magnitude) = x.bits.toNat := by
    rw [toNat_bits]
    split <;> simp
  rw [ofMagnitude, hbits, BitVec.ofNat_toNat, BitVec.setWidth_eq]

/-- The first power of two that is out of range is below `10 ^ 400`. -/
theorem value_infinity_le : Layout.double.value Layout.double.infinity ≤ 10 ^ (400 : Int) := by
  have hgrid := Layout.double.value_of_grid (k := 2046) (r := Layout.double.unit) (by decide)
    (Or.inr le_rfl)
  have hinfinity : Layout.double.infinity = 2046 * Layout.double.unit + Layout.double.unit := by
    decide +kernel
  have hexponent : Layout.double.minExponent + (2046 : ℕ) = 972 := by decide
  have hpowers : Layout.double.unit * 2 ^ 972 ≤ 10 ^ 400 := by decide +kernel
  rw [hinfinity, hgrid, hexponent]
  exact_mod_cast hpowers

/-- The least number is above `10 ^ -400`. -/
theorem lt_value_one : 2 * (10 : ℚ) ^ (-400 : Int) < Layout.double.value 1 := by
  have hgrid := Layout.double.value_of_grid (k := 0) (r := 1) (by decide) (Or.inl rfl)
  rw [Nat.zero_mul, Nat.zero_add] at hgrid
  have hexponent : Layout.double.minExponent + (0 : ℕ) = -1074 := by decide
  have hpowers : 2 * 2 ^ 1074 < 10 ^ 400 := by decide +kernel
  have hpowers : 2 * (2 : ℚ) ^ (1074 : Int) < 10 ^ (400 : Int) := by exact_mod_cast hpowers
  rw [hgrid, hexponent, Nat.cast_one, one_mul, zpow_neg, zpow_neg, ← div_eq_mul_inv,
    div_lt_iff₀ (by positivity), inv_mul_eq_div, lt_div_iff₀ (by positivity)]
  exact hpowers

theorem ofRatio_eq {num den : Nat} (hden : 0 < den) {v : ℚ} (hv : (num : ℚ) / den = v) {m : Nat}
    (hm : Layout.double.IsNearest v m) (negative : Bool) :
    Floating.ofRatio negative num den = (.ofMagnitude negative m : Double) := by
  have hnearest := Layout.isNearest_roundRatio (L := .double) (by decide) num hden
  rw [hv] at hnearest
  rw [Floating.ofRatio, hm.unique hnearest]

section Cuts

variable {digits length : Nat} {exponent : Int}

/-- A decimal of more than four hundred places in front of the point is beyond all numbers. -/
theorem infinity_le_decimal (hle : 10 ^ (length - 1) ≤ digits) (hlength : length ≠ 0)
    (hlarge : 400 < exponent + length) :
    Layout.double.value Layout.double.infinity ≤ digits * (10 : ℚ) ^ exponent := by
  have hfirst : (10 : ℚ) ^ ((length : Int) - 1) ≤ digits := by
    have hcast : ((length - 1 : ℕ) : Int) = (length : Int) - 1 := by omega
    rw [← hcast, zpow_natCast]
    exact_mod_cast hle
  calc Layout.double.value Layout.double.infinity ≤ 10 ^ (400 : Int) := value_infinity_le
    _ ≤ 10 ^ ((length : Int) - 1 + exponent) := zpow_le_zpow_right₀ (by norm_num) (by omega)
    _ = 10 ^ ((length : Int) - 1) * 10 ^ exponent := zpow_add₀ (by norm_num) _ _
    _ ≤ digits * 10 ^ exponent := by gcongr

/-- A decimal with four hundred zeros behind the point is below half of the least number. -/
theorem decimal_lt_value_one (hlt : digits < 10 ^ length) (hsmall : exponent + length < -400) :
    2 * (digits * (10 : ℚ) ^ exponent) < Layout.double.value 1 := by
  have hall : (digits : ℚ) ≤ 10 ^ (length : Int) := by
    rw [zpow_natCast]
    exact_mod_cast hlt.le
  have hbelow : digits * (10 : ℚ) ^ exponent ≤ 10 ^ (-400 : Int) :=
    calc digits * (10 : ℚ) ^ exponent ≤ 10 ^ (length : Int) * 10 ^ exponent := by gcongr
      _ = 10 ^ ((length : Int) + exponent) := (zpow_add₀ (by norm_num) _ _).symm
      _ ≤ 10 ^ (-400 : Int) := zpow_le_zpow_right₀ (by norm_num) (by omega)
  linarith [lt_value_one]

/-- **A decimal is rounded to its nearest magnitude**, if it has as many digits as it says and none
of them is a zero in front. -/
theorem roundDecimal_eq {negative : Bool} {m : Nat} (hlt : digits < 10 ^ length)
    (hle : digits ≠ 0 → 10 ^ (length - 1) ≤ digits)
    (hm : Layout.double.IsNearest (digits * (10 : ℚ) ^ exponent) m) :
    roundDecimal .double negative digits length exponent = .ofMagnitude negative m := by
  unfold roundDecimal
  by_cases hdigits : digits = 0
  · rw [hdigits, Nat.cast_zero, zero_mul, ← Layout.double.value_zero] at hm
    rw [if_pos hdigits, hm.unique (Layout.isNearest_value (Nat.zero_le _))]
  rw [if_neg hdigits]
  by_cases hlarge : 400 < exponent + length
  · have hlength : length ≠ 0 := by
      rintro rfl
      exact hdigits (Nat.lt_one_iff.mp hlt)
    have hbeyond := infinity_le_decimal (hle hdigits) hlength hlarge
    rw [if_pos hlarge, hm.unique (Layout.isNearest_infinity hbeyond)]
    rfl
  rw [if_neg hlarge]
  by_cases hsmall : exponent + length < -400
  · have hpositive : 0 ≤ digits * (10 : ℚ) ^ exponent := by positivity
    have hbelow := decimal_lt_value_one hlt hsmall
    rw [if_pos hsmall, hm.unique (Layout.isNearest_zero hpositive hbelow)]
  rw [if_neg hsmall]
  by_cases hwhole : 0 ≤ exponent
  · rw [if_pos hwhole]
    refine ofRatio_eq Nat.one_pos ?_ hm negative
    rw [Nat.cast_one, div_one, Nat.cast_mul, Nat.cast_pow, Nat.cast_ofNat, ← zpow_natCast,
      Int.toNat_of_nonneg hwhole]
  · rw [if_neg hwhole]
    refine ofRatio_eq (Nat.pow_pos (by decide)) ?_ hm negative
    rw [Nat.cast_pow, Nat.cast_ofNat, ← zpow_natCast, Int.toNat_of_nonneg (by omega), zpow_neg,
      div_inv_eq_mul]

end Cuts

/-! ## Reading numerals -/

theorem isWord_eq_false {cs : List Char} (h : ∀ c ∈ cs, c.toNat < 65) {word : String}
    (hword : ∃ d ∈ word.toList, 65 ≤ d.toNat) : isWord word cs = false := by
  rw [isWord, beq_eq_false_iff_ne]
  intro heq
  obtain ⟨d, hd, hletter⟩ := hword
  rw [← heq, List.mem_map] at hd
  obtain ⟨c, hc, rfl⟩ := hd
  have hlow := h c hc
  rw [toLower_of_lt hlow] at hletter
  omega

namespace Numeral

variable {n : Numeral}

/-- What follows the sign of a numeral. -/
def body (n : Numeral) : List Char := n.whole ++ n.fraction.elim [] ('.' :: ·)

theorem chars_of_negative (hn : n.negative = true) : n.chars = '-' :: n.body := by
  rw [chars, hn, List.append_assoc]
  rfl

theorem chars_of_not_negative (hn : n.negative = false) : n.chars = n.body := by
  rw [chars, hn, List.append_assoc]
  rfl

theorem IsDecimal.whole (h : n.IsDecimal) : ∀ d ∈ n.whole, d.isDigit = true :=
  fun d hd ↦ h.2 d (List.mem_append_left _ hd)

theorem IsDecimal.fraction (h : n.IsDecimal) : ∀ d ∈ n.fraction.getD [], d.isDigit = true :=
  fun d hd ↦ h.2 d (List.mem_append_right _ hd)

theorem IsDecimal.body (h : n.IsDecimal) : ∀ c ∈ n.body, c.isDigit = true ∨ c = '.' := by
  intro c hc
  rcases List.mem_append.mp hc with hc | hc
  · exact Or.inl (h.whole c hc)
  · have hfraction := h.fraction
    cases hn : n.fraction with
    | none => rw [hn] at hc; cases hc
    | some ds =>
      rw [hn] at hc hfraction
      rcases List.mem_cons.mp hc with rfl | hc
      · exact Or.inr rfl
      · exact Or.inl (hfraction c hc)

theorem IsDecimal.body_ne_nil (h : n.IsDecimal) : n.body ≠ [] := by
  intro hnil
  obtain ⟨hwhole, hfraction⟩ := List.append_eq_nil_iff.mp hnil
  refine h.1 ?_
  cases hn : n.fraction with
  | none => rw [digits, hwhole, hn]; rfl
  | some ds => rw [hn] at hfraction; cases hfraction

theorem IsDecimal.chars (h : n.IsDecimal) :
    ∀ c ∈ n.chars, c = '-' ∨ c.isDigit = true ∨ c = '.' := by
  intro c hc
  cases hn : n.negative with
  | true =>
    rw [chars_of_negative hn] at hc
    exact (List.mem_cons.mp hc).imp_right (h.body c)
  | false =>
    rw [chars_of_not_negative hn] at hc
    exact Or.inr (h.body c hc)

theorem IsDecimal.body_ne (h : n.IsDecimal) {sign : Char} (hsign : sign = '-' ∨ sign = '+')
    (rest : List Char) : n.body ≠ sign :: rest := by
  intro heq
  have hmem := h.body sign (heq ▸ List.mem_cons_self)
  rcases hsign with rfl | rfl <;> exact absurd hmem (by decide)

/-- The digits of a numeral without the zeros in front are rounded to the nearest magnitude. -/
theorem roundDecimal_digits (h : n.IsDecimal) {m : Nat} (hm : Layout.double.IsNearest n.size m) :
    roundDecimal .double n.negative (digitsValue (n.digits.dropWhile (· = '0')))
      (n.digits.dropWhile (· = '0')).length (0 - n.places) = .ofMagnitude n.negative m := by
  have hdigits : ∀ d ∈ n.digits.dropWhile (· = '0'), d.isDigit = true :=
    fun d hd ↦ h.2 d (List.dropWhile_subset _ hd)
  refine roundDecimal_eq (digitsValue_lt hdigits) ?_ ?_
  · intro hne
    cases hds : n.digits.dropWhile (· = '0') with
    | nil => rw [hds] at hne; exact absurd rfl hne
    | cons d ds =>
      rw [hds] at hdigits
      have hfirst : d ≠ '0' := by
        have hhead := List.head?_dropWhile_not (· = '0') n.digits
        rw [hds] at hhead
        simpa using hhead
      exact le_digitsValue (hdigits d List.mem_cons_self) hfirst ds
  · have hsize : digitsValue (n.digits.dropWhile (· = '0')) * (10 : ℚ) ^ (0 - n.places : Int) =
        n.size := by
      rw [digitsValue_dropWhile, size, zero_sub, zpow_neg, zpow_natCast, ← div_eq_mul_inv,
        Nat.cast_pow, Nat.cast_ofNat]
    rw [hsize]
    exact hm

theorem readUnsignedDecimal?_body (h : n.IsDecimal) {m : Nat}
    (hm : Layout.double.IsNearest n.size m) :
    readUnsignedDecimal? .double n.negative n.body = some (.ofMagnitude n.negative m) := by
  have hround := roundDecimal_digits h hm
  have hnonempty := h.1
  have hfraction := h.fraction
  have hpoint : ∀ c ∈ (n.fraction.elim [] ('.' :: ·)).head?, c.isDigit = false := by
    intro c hc
    cases hn : n.fraction with
    | none => rw [hn] at hc; cases hc
    | some ds =>
      rw [hn] at hc
      obtain rfl := Option.some.inj hc
      rfl
  rw [readUnsignedDecimal?, body, spanDigits_append h.whole hpoint]
  rw [digits, places] at hround
  rw [digits] at hnonempty
  cases hn : n.fraction with
  | none =>
    rw [hn] at hround hnonempty
    rw [Option.getD_none, List.append_nil] at hround hnonempty
    have hsome : n.whole.isEmpty = false := by simpa using hnonempty
    simp only [Option.elim_none, hsome, Bool.false_and, Bool.false_eq_true, if_false,
      readExponent?, Option.bind_eq_bind, Option.bind_some, List.append_nil, Option.pure_def]
    exact congrArg some hround
  | some ds =>
    rw [hn] at hround hnonempty hfraction
    rw [Option.getD_some] at hround hnonempty hfraction
    have hsome : (n.whole.isEmpty && ds.isEmpty) = false := by
      rw [Bool.eq_false_iff, Ne, Bool.and_eq_true, List.isEmpty_iff, List.isEmpty_iff]
      rintro ⟨hwhole, rfl⟩
      exact hnonempty (by rw [hwhole]; rfl)
    simp only [Option.elim_some, spanDigits_self hfraction, hsome, Bool.false_eq_true, if_false,
      readExponent?, Option.bind_eq_bind, Option.bind_some, Option.pure_def]
    exact congrArg some hround

/-- **What is read from a numeral is the number nearest to it.** -/
theorem readFloating?_chars (h : n.IsDecimal) {x : Double} (hx : n.Denotes x) :
    readFloating? .double n.chars = some x := by
  obtain ⟨-, hsign, hnearest⟩ := hx
  have hlow : ∀ c ∈ n.body, c.toNat < 65 := by
    intro c hc
    rcases h.body c hc with hdigit | rfl
    · have hrange := isDigit_iff.mp hdigit
      omega
    · decide
  have hword {word : String} (hword : ∃ d ∈ word.toList, 65 ≤ d.toNat) :
      isWord word n.body = false := isWord_eq_false hlow hword
  have hinf : isWord "inf" n.body = false := hword ⟨'i', by decide, by decide⟩
  have hinfinity : isWord "infinity" n.body = false := hword ⟨'i', by decide, by decide⟩
  have hnan : isWord "nan" n.body = false := hword ⟨'n', by decide, by decide⟩
  have hread := readUnsignedDecimal?_body h hnearest
  have hself := x.ofMagnitude_self
  rw [hsign] at hself
  rw [hself] at hread
  cases hn : n.negative with
  | true =>
    rw [hn] at hread
    simp only [chars_of_negative hn, readFloating?, hinf, hinfinity, hnan, Bool.or_self,
      Bool.false_eq_true, if_false, hread]
  | false =>
    rw [hn] at hread
    unfold readFloating?
    rw [chars_of_not_negative hn]
    split
    next negative unsigned hparts =>
    split at hparts
    · next heq => exact absurd heq (h.body_ne (Or.inl rfl) _)
    · next heq => exact absurd heq (h.body_ne (Or.inr rfl) _)
    · cases hparts
      simp only [hinf, hinfinity, hnan, Bool.or_self, Bool.false_eq_true, if_false, hread]

/-! ## Integers -/

/-- The integer that a numeral without point stands for. -/
def integer (n : Numeral) : Int :=
  if n.negative then -(digitsValue n.whole : Int) else digitsValue n.whole

theorem body_of_none (hn : n.fraction = none) : n.body = n.whole := by
  rw [body, hn, Option.elim_none, List.append_nil]

theorem whole_ne_nil (h : n.IsDecimal) (hn : n.fraction = none) : n.whole ≠ [] :=
  body_of_none hn ▸ h.body_ne_nil

theorem point_not_mem (h : n.IsDecimal) (hn : n.fraction = none) : '.' ∉ n.chars := by
  have hwhole : '.' ∉ n.whole := fun hmem ↦ absurd (h.whole _ hmem) (by decide)
  cases hnegative : n.negative with
  | true =>
    rw [chars_of_negative hnegative, body_of_none hn, List.mem_cons, not_or]
    exact ⟨by decide, hwhole⟩
  | false => rwa [chars_of_not_negative hnegative, body_of_none hn]

theorem point_mem {ds : List Char} (hn : n.fraction = some ds) : '.' ∈ n.chars := by
  rw [chars, hn]
  exact List.mem_append_right _ List.mem_cons_self

theorem readWord_chars (h : n.IsDecimal) (hn : n.fraction = none) (width : Width) :
    Convert.readWord true width n.chars = Convert.toWord true width n.integer := by
  have hwhole := whole_ne_nil h hn
  have hdigits : (n.whole.isEmpty || !n.whole.all Char.isDigit) = false := by
    rw [List.all_eq_true.mpr h.whole, List.isEmpty_eq_false_iff.mpr hwhole]
    rfl
  unfold Convert.readWord
  cases hnegative : n.negative with
  | true =>
    simp only [chars_of_negative hnegative, body_of_none hn, hdigits, integer, hnegative, if_true,
      Bool.false_eq_true, if_false]
  | false =>
    rw [chars_of_not_negative hnegative]
    split
    next negative ds hparts =>
    split at hparts
    · next heq => exact absurd heq (h.body_ne (Or.inl rfl) _)
    · next heq => exact absurd heq (h.body_ne (Or.inr rfl) _)
    · cases hparts
      simp only [body_of_none hn, hdigits, integer, hnegative, Bool.false_eq_true, if_false]

theorem readDigits_eq {bound : Nat} {overflow : IntegerFault} {ds : List Char} {value : Nat}
    (hds : ∀ d ∈ ds, d.isDigit = true) (hbound : value * 10 ^ ds.length + digitsValue ds ≤ bound) :
    readDigits bound overflow value ds = .ok (value * 10 ^ ds.length + digitsValue ds) := by
  induction ds generalizing value with
  | nil => exact congrArg Except.ok (Nat.mul_one value).symm
  | cons d ds ih =>
    rw [List.forall_mem_cons] at hds
    have hvalue : value * 10 ^ (d :: ds).length + digitsValue (d :: ds) =
        (value * 10 + (d.toNat - '0'.toNat)) * 10 ^ ds.length + digitsValue ds := by
      rw [digitsValue_cons, List.length_cons, Nat.pow_succ]
      ring
    have hdigit : digitsValue [d] = d.toNat - '0'.toNat := by
      rw [digitsValue_cons, List.length_nil, Nat.pow_zero, Nat.mul_one]
      rfl
    rw [hvalue] at hbound ⊢
    have hnext : value * 10 + (d.toNat - '0'.toNat) ≤ bound :=
      (Nat.le_mul_of_pos_right _ (Nat.pow_pos (by decide))).trans
        ((Nat.le_add_right _ _).trans hbound)
    rw [readDigits, digitValue?_of_isDigit hds.1]
    dsimp only
    rw [hdigit, if_neg (Nat.not_lt.mpr hnext)]
    exact ih hds.2 hbound

/-- A numeral without point is read as its integer between bounds that it keeps. -/
theorem readInteger_chars (h : n.IsDecimal) (hn : n.fraction = none) {low high : Int}
    (hlow : low < 0) (hle : low ≤ n.integer) (hge : n.integer ≤ high) :
    readInteger low high n.chars = .ok n.integer := by
  have hread {bound : Nat} (overflow : IntegerFault) (hbound : digitsValue n.whole ≤ bound) :
      readDigits bound overflow 0 n.whole = .ok (digitsValue n.whole) := by
    have hread := @readDigits_eq bound overflow n.whole 0 h.whole (by omega)
    rwa [Nat.zero_mul, Nat.zero_add] at hread
  rw [integer] at hle hge ⊢
  cases hnegative : n.negative with
  | true =>
    rw [hnegative, if_pos rfl] at hle hge
    rw [chars_of_negative hnegative, body_of_none hn, if_pos rfl]
    have hmagnitude := hread .tooSmall (show digitsValue n.whole ≤ low.natAbs by omega)
    cases hwhole : n.whole with
    | nil => exact absurd hwhole (whole_ne_nil h hn)
    | cons d ds =>
      rw [hwhole] at hmagnitude
      rw [readInteger, if_pos hlow, hmagnitude]
      · rfl
      · exact List.cons_ne_nil d ds
  | false =>
    rw [hnegative, if_neg Bool.false_ne_true] at hle hge
    have hmagnitude := hread .tooLarge (show digitsValue n.whole ≤ high.toNat by omega)
    rw [chars_of_not_negative hnegative, if_neg Bool.false_ne_true]
    unfold readInteger
    split
    · next heq => exact absurd ((body_of_none hn).symm.trans heq) (whole_ne_nil h hn)
    · next heq => exact absurd heq (h.body_ne (Or.inr rfl) _)
    · next heq => exact absurd heq (h.body_ne (Or.inl rfl) _)
    · next heq => exact absurd heq (h.body_ne (Or.inr rfl) _)
    · next heq => exact absurd heq (h.body_ne (Or.inl rfl) _)
    · rw [body_of_none hn, hmagnitude]
      rfl

/-! ## Expansions -/

theorem exists_integer (v : Int) :
    ∃ n : Numeral, n.IsDecimal ∧ n.fraction = none ∧ n.integer = v := by
  obtain ⟨ds, hlength, hdigits, hvalue⟩ :=
    exists_digits (Nat.lt_pow_succ_log_self (b := 10) (by decide) v.natAbs)
  have hnonempty : ds ≠ [] := List.ne_nil_of_length_eq_add_one hlength
  refine ⟨⟨decide (v < 0), ds, none⟩, ⟨?_, ?_⟩, rfl, ?_⟩
  · rwa [digits, Option.getD_none, List.append_nil]
  · rwa [digits, Option.getD_none, List.append_nil]
  · rw [integer, hvalue]
    split
    · next h =>
      have h := of_decide_eq_true h
      omega
    · next h =>
      have h := of_decide_eq_false (Bool.eq_false_iff.mpr h)
      omega

theorem exists_places (negative : Bool) (value places : Nat) :
    ∃ (n : Numeral) (ds : List Char), n.IsDecimal ∧ n.negative = negative ∧ n.fraction = some ds ∧
      n.size = value / (10 ^ places : ℕ) := by
  have hlt : value < 10 ^ (value + 1 + places) := by
    have hself : value < 10 ^ value := Nat.lt_pow_self (by decide)
    exact hself.trans_le (Nat.pow_le_pow_right (by decide) (by omega))
  obtain ⟨ds, hlength, hdigits, hvalue⟩ := exists_digits hlt
  have hsplit : ds.take (value + 1) ++ ds.drop (value + 1) = ds := List.take_append_drop _ _
  have hfraction : (ds.drop (value + 1)).length = places := by
    rw [List.length_drop, hlength, Nat.add_sub_cancel_left]
  refine ⟨⟨negative, ds.take (value + 1), some (ds.drop (value + 1))⟩, _, ⟨?_, ?_⟩, rfl, rfl, ?_⟩
  · rw [digits, Option.getD_some, hsplit]
    refine List.ne_nil_of_length_pos ?_
    omega
  · rw [digits, Option.getD_some, hsplit]
    exact hdigits
  · rw [size, digits, Numeral.places, Option.getD_some, hsplit, hvalue, hfraction]

/-- **Every finite number has a numeral, with a point, that stands for just its value.** -/
theorem exists_denotes {x : Double} (hx : x.isFinite = true) :
    ∃ (n : Numeral) (ds : List Char), n.IsDecimal ∧ n.fraction = some ds ∧ n.Denotes x := by
  have hlt : x.magnitude < Layout.double.infinity := of_decide_eq_true hx
  obtain ⟨significand, exponent, -, hvalue⟩ := Layout.datum_of_lt hlt x.negative
  -- a part of a power of two is as many parts of the same power of ten
  obtain ⟨value, places, hdecimal⟩ : ∃ value places : Nat,
      Layout.double.value x.magnitude = value / (10 ^ places : ℕ) := by
    by_cases hwhole : 0 ≤ exponent
    · refine ⟨significand * 2 ^ exponent.toNat, 0, ?_⟩
      rw [hvalue, two_zpow_of_nonneg hwhole, Nat.pow_zero, Nat.cast_one, div_one, Nat.cast_mul]
    · refine ⟨significand * 5 ^ (-exponent).toNat, (-exponent).toNat, ?_⟩
      have hone := two_zpow_mul_of_neg (Int.not_le.mp hwhole)
      have hten : (10 : ℕ) ^ (-exponent).toNat = 2 ^ (-exponent).toNat * 5 ^ (-exponent).toNat :=
        Nat.mul_pow 2 5 _
      rw [hvalue, eq_div_iff (by positivity), hten, Nat.cast_mul, Nat.cast_mul, mul_assoc,
        ← mul_assoc ((2 : ℚ) ^ exponent), hone, one_mul]
  obtain ⟨n, ds, hdec, hnegative, hfraction, hsize⟩ := exists_places x.negative value places
  refine ⟨n, ds, hdec, hfraction, hx, hnegative.symm, ?_⟩
  rw [hsize, ← hdecimal]
  exact Layout.isNearest_value hlt.le

end Numeral

end ForeignLayer.Number
