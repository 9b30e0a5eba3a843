import ForeignLayer.Proofs.DecimalReading
import ForeignLayer.Proofs.LiteralValue
import ForeignLayer.Proofs.TimeTexts

/-!
# Spellings of values

How the values that a field is compared with are spelled as literals, field type by field type: an
integer by its numeral, a number by any numeral that it is nearest to, a text by itself, and dates
and times by their texts, with hyphens or slashes. Integer fields tell numbers from integers by the
point, and a time of day can also be spelled by its count.

Every spelling is read as the value that it spells, and every value that has a place in a literal
has a spelling: the finite numbers, and the dates with years of four digits.
-/

namespace ForeignLayer.Filter

open ForeignLayer.Convert Number Calendar Predicate

/-! ## Spellings -/

/-- Whether integers are compared with the values of a field. -/
def IsIntegerType (type : FieldType) : Prop := type = .integer ∨ type = .integer64

/-- Whether texts are compared with the values of a field. -/
def IsTextType (type : FieldType) : Prop := type = .string ∨ type = .wideString

/-- Whether a character may stand between the parts of a date. -/
def IsDateSeparator (c : Char) : Prop := c = '-' ∨ c = '/'

/-- How a value is spelled that is compared with a field of a type. -/
inductive Spells : FieldType → Literal → Scalar → Prop
  | integer {type : FieldType} (htype : IsIntegerType type) {n : Numeral} (hn : n.IsDecimal)
    (hpoint : n.fraction = none) {v : BitVec 64} (hv : v.toInt = n.integer) :
    Spells type (.number (String.ofList n.chars)) (.of .int64 v)
  | decimal {type : FieldType} (htype : IsIntegerType type) {n : Numeral} (hn : n.IsDecimal)
    {ds : List Char} (hpoint : n.fraction = some ds) {x : Double} (hx : n.Denotes x) :
    Spells type (.number (String.ofList n.chars)) (.of .float64 x)
  | real {n : Numeral} (hn : n.IsDecimal) {x : Double} (hx : n.Denotes x) :
    Spells .real (.number (String.ofList n.chars)) (.of .float64 x)
  | text {type : FieldType} (htype : IsTextType type) (s : String) :
    Spells type (.text s) (.of .utf8 s)
  | date {v : BitVec 32} (hdate : (Date.ofDays v.toInt).HasFourDigits) {cs : List Char}
    (hcs : IsDateText IsDateSeparator (Date.ofDays v.toInt) cs) :
    Spells .date (.text (String.ofList cs)) (.of .date32 v)
  | clock {micros : Nat} {cs : List Char} (hcs : IsClockText micros cs) {v : BitVec 64}
    (hv : v.toInt = micros) : Spells .time (.text (String.ofList cs)) (.of (.time64 .microsecond) v)
  | count {n : Numeral} (hn : n.IsDecimal) (hpoint : n.fraction = none) {v : BitVec 64}
    (hv : v.toInt = n.integer) :
    Spells .time (.text (String.ofList n.chars)) (.of (.time64 .microsecond) v)
  | dateTime {days : Int} (hdate : (Date.ofDays days).HasFourDigits) {date : List Char}
    (hday : IsDateText IsDateSeparator (Date.ofDays days) date) {micros : Nat} {clock : List Char}
    (hclock : IsClockText micros clock) {separator : Char}
    (hseparator : separator = ' ' ∨ separator = 'T') {v : BitVec 64}
    (hv : v.toInt = days * 86400000000 + micros) :
    Spells .dateTime (.text (String.ofList (date ++ separator :: clock)))
      (.of (.timestamp .microsecond none) v)

/-- Whether a value can be compared with a field of a type: what literals of the field stand for. -/
inductive Admits : FieldType → Scalar → Prop
  | integer {type : FieldType} (htype : IsIntegerType type) (v : BitVec 64) :
    Admits type (.of .int64 v)
  | decimal {type : FieldType} (htype : IsIntegerType type) {x : Double} (hx : x.isFinite = true) :
    Admits type (.of .float64 x)
  | real {x : Double} (hx : x.isFinite = true) : Admits .real (.of .float64 x)
  | text {type : FieldType} (htype : IsTextType type) (s : String) : Admits type (.of .utf8 s)
  | date {v : BitVec 32} (hdate : (Date.ofDays v.toInt).HasFourDigits) :
    Admits .date (.of .date32 v)
  | time (v : BitVec 64) : Admits .time (.of (.time64 .microsecond) v)
  | dateTime {v : BitVec 64} (hdate : (Date.ofDays (v.toInt / 86400000000)).HasFourDigits) :
    Admits .dateTime (.of (.timestamp .microsecond none) v)

variable {type : FieldType} {literal : Literal} {value : Scalar}

/-- **What can be compared with a field has a spelling.** -/
theorem Admits.exists_spells (h : Admits type value) : ∃ literal, Spells type literal value := by
  cases h with
  | integer htype v =>
    obtain ⟨n, hn, hpoint, hv⟩ := Numeral.exists_integer v.toInt
    exact ⟨_, .integer htype hn hpoint hv.symm⟩
  | decimal htype hx =>
    obtain ⟨n, ds, hn, hpoint, hx⟩ := Numeral.exists_denotes hx
    exact ⟨_, .decimal htype hn hpoint hx⟩
  | real hx =>
    obtain ⟨n, ds, hn, -, hx⟩ := Numeral.exists_denotes hx
    exact ⟨_, .real hn hx⟩
  | text htype s => exact ⟨_, .text htype s⟩
  | date hdate =>
    obtain ⟨cs, hcs⟩ := exists_isDateText hdate IsDateSeparator (Or.inl rfl)
    exact ⟨_, .date hdate hcs⟩
  | time v =>
    obtain ⟨n, hn, hpoint, hv⟩ := Numeral.exists_integer v.toInt
    exact ⟨_, .count hn hpoint hv.symm⟩
  | @dateTime v hdate =>
    obtain ⟨date, hday⟩ := exists_isDateText hdate IsDateSeparator (Or.inl rfl)
    obtain ⟨micros, hmicros⟩ := Int.eq_ofNat_of_zero_le
      (Int.emod_nonneg v.toInt (show (86400000000 : Int) ≠ 0 by decide))
    obtain ⟨clock, hclock⟩ := exists_isClockText micros (by omega)
    exact ⟨_, .dateTime hdate hday hclock (Or.inl rfl) (by omega)⟩

/-! ## Reading spellings -/

theorem unslashed_digits {ds : List Char} (h : ∀ d ∈ ds, d.isDigit = true) : unslashed ds = ds :=
  unslashed_eq fun hmem ↦ absurd (h _ hmem) (by decide)

theorem isDateText_unslashed {date : Date} {cs : List Char}
    (h : IsDateText IsDateSeparator date cs) : IsDateText (· = '-') date (unslashed cs) := by
  obtain ⟨hyear, hmonth, hday, hs, ht⟩ := h
  have hseparator {c : Char} (hc : IsDateSeparator c) : (if c = '/' then '-' else c) = '-' := by
    rcases hc with rfl | rfl <;> rfl
  have hyears := unslashed_digits hyear.digits
  have hmonths := unslashed_digits hmonth.digits
  have hdays := unslashed_digits hday.digits
  rw [unslashed] at hyears hmonths hdays
  rw [unslashed, List.map_append, List.map_cons, List.map_append, List.map_cons, hseparator hs,
    hseparator ht, hyears, hmonths, hdays]
  exact .mk hyear hmonth hday rfl rfl

theorem literalValue_integer (htype : IsIntegerType type) {n : Numeral} (hn : n.IsDecimal)
    (hpoint : n.fraction = none) {v : BitVec 64} (hv : v.toInt = n.integer) :
    literalValue type (.number (String.ofList n.chars)) = .ok (.of .int64 v) := by
  have hcs : (String.ofList n.chars).toList = n.chars := String.toList_ofList
  have hsource : literalSource? type (.number (String.ofList n.chars)) =
      some (.int64, String.ofList n.chars) := by
    rcases htype with rfl | rfl <;> simp [literalSource?, Numeral.point_not_mem hn hpoint]
  have hword : readWord true .w64 n.chars = .ok v :=
    (Numeral.readWord_chars hn hpoint .w64).trans ((@toWord_eq_ok .w64 _ _).mpr hv)
  simp only [literalValue, hsource, Scalar.cast_ofText_integer, hcs, hword]
  rfl

theorem literalValue_number {n : Numeral} (hn : n.IsDecimal) {x : Double}
    (hx : n.Denotes x) (hsource : literalSource? type (.number (String.ofList n.chars)) =
      some (.float64, String.ofList n.chars)) :
    literalValue type (.number (String.ofList n.chars)) = .ok (.of .float64 x) := by
  have hcast := Scalar.cast_ofText (b := .float64) (by simp) trivial rfl rfl (String.ofList n.chars)
  simp only [literalValue, hsource, hcast, String.toList_ofList, Numeral.readFloating?_chars hn hx]
  rfl

theorem literalValue_date {v : BitVec 32} (hdate : (Date.ofDays v.toInt).HasFourDigits)
    {cs : List Char} (hcs : IsDateText IsDateSeparator (Date.ofDays v.toInt) cs) :
    literalValue .date (.text (String.ofList cs)) = .ok (.of .date32 v) := by
  have hread := readDate?_isDateText (isDateText_unslashed hcs)
  rw [Date.of?_ofDays hdate.inRange] at hread
  have hday : readDate32 (unslashed cs) = .ok v := by
    rw [readDate32, hread]
    show Except.ok (BitVec.ofInt 32 (Date.ofDays v.toInt).toDays) = _
    rw [Date.toDays_ofDays, BitVec.ofInt_toInt]
  have hcast := Scalar.cast_ofText (b := .date32) (by simp) trivial rfl rfl
    (String.ofList (unslashed cs))
  rw [String.toList_ofList, hday] at hcast
  show ((Scalar.ofText (String.ofList (unslashed (String.ofList cs).toList))).cast
    .date32).mapError _ = _
  rw [String.toList_ofList, hcast]
  rfl

theorem literalValue_time {v : BitVec 64} {cs : List Char}
    (hread : readTime .microsecond .w64 cs = .ok v) :
    literalValue .time (.text (String.ofList cs)) = .ok (.of (.time64 .microsecond) v) := by
  show ((Scalar.ofText (String.ofList cs)).cast (.time64 .microsecond)).mapError _ = _
  rw [Scalar.cast_ofText_time rfl, String.toList_ofList, hread]
  rfl

theorem readTime_isClockText {micros : Nat} {cs : List Char} (hcs : IsClockText micros cs)
    {v : BitVec 64} (hv : v.toInt = micros) : readTime .microsecond .w64 cs = .ok v := by
  have hnanos : (clockOfMicros micros).toNanos / (nanosPerSecond / TimeUnit.microsecond.perSecond) =
      micros := by
    simp only [Clock.toNanos, clockOfMicros, nanosPerSecond, TimeUnit.perSecond]
    omega
  rw [readTime, read?_isClockText hcs]
  dsimp only
  rw [hnanos, ← BitVec.ofInt_natCast, ← hv]
  exact congrArg Except.ok (BitVec.ofInt_toInt)

theorem readTime_chars {n : Numeral} (hn : n.IsDecimal) (hpoint : n.fraction = none)
    {v : BitVec 64} (hv : v.toInt = n.integer) : readTime .microsecond .w64 n.chars = .ok v := by
  have hcolon : ':' ∉ n.chars := fun hmem ↦ absurd (hn.chars ':' hmem) (by decide)
  have hlow : minOf true .w64 ≤ n.integer := hv ▸ v.le_toInt
  have hhigh : n.integer ≤ maxOf true .w64 := hv ▸ Int.le_sub_one_of_lt v.toInt_lt
  rw [readTime, read?_eq_none hcolon]
  dsimp only
  rw [Numeral.readInteger_chars hn hpoint (by decide) hlow hhigh, ← hv]
  exact congrArg Except.ok (BitVec.ofInt_toInt)

theorem stampOf_clockOfMicros {days : Int} (hdate : (Date.ofDays days).HasFourDigits)
    {micros : Nat} (hmicros : micros < 86400000000) {v : BitVec 64}
    (hv : v.toInt = days * 86400000000 + micros) :
    stampOf .microsecond ⟨Date.ofDays days, clockOfMicros micros⟩ = .ok v := by
  obtain ⟨hlow, hhigh⟩ := Date.ofDays_bounds hdate.1 hdate.2
  have hseconds : DateTime.seconds ⟨Date.ofDays days, clockOfMicros micros⟩ * 1000000 =
      days * 86400000000 + (micros / 1000000 * 1000000 : Nat) := by
    simp only [DateTime.seconds, Date.toDays_ofDays, clockOfMicros, secondsPerDay]
    omega
  refine (stampOf_eq_ok (by decide)).mpr ⟨BitVec.ofInt 64 (days * 86400000000 +
    (micros / 1000000 * 1000000 : Nat)), ?_, ?_⟩
  · rw [BitVec.toInt_ofInt_eq_self (by decide) (by omega) (by omega)]
    exact hseconds.symm
  · rw [BitVec.toInt_ofInt_eq_self (by decide) (by omega) (by omega), hv]
    simp only [clockOfMicros, nanosPerSecond, TimeUnit.perSecond]
    omega

theorem literalValue_dateTime {days : Int} (hdate : (Date.ofDays days).HasFourDigits)
    {date clock : List Char} (hday : IsDateText IsDateSeparator (Date.ofDays days) date)
    {micros : Nat} (hclock : IsClockText micros clock) {separator : Char}
    (hseparator : separator = ' ' ∨ separator = 'T') {v : BitVec 64}
    (hv : v.toInt = days * 86400000000 + micros) :
    literalValue .dateTime (.text (String.ofList (date ++ separator :: clock))) =
      .ok (.of (.timestamp .microsecond none) v) := by
  have hslash : unslashed (date ++ separator :: clock) = unslashed date ++ separator :: clock := by
    have hclockSlash : unslashed clock = clock :=
      unslashed_eq fun hmem ↦ absurd (hclock.chars '/' hmem) (by decide)
    have hseparatorSlash : separator ≠ '/' := by rcases hseparator with rfl | rfl <;> decide
    rw [unslashed] at hclockSlash ⊢
    rw [List.map_append, List.map_cons, if_neg hseparatorSlash, hclockSlash]
    rfl
  have hsplits : isInstantSeparator separator = true := by rcases hseparator with rfl | rfl <;> rfl
  have hinstant := readInstant?_texts hdate (isDateText_unslashed hday) hclock hsplits
  have hstamp : readStamp .microsecond none (unslashed (date ++ separator :: clock)) = .ok v := by
    rw [hslash, readStamp, Option.getD_none, hinstant]
    exact stampOf_clockOfMicros hdate hclock.lt hv
  show ((Scalar.ofText (String.ofList (unslashed (String.ofList (date ++ separator ::
    clock)).toList))).cast (.timestamp .microsecond none)).mapError _ = _
  rw [Scalar.cast_ofText_stamp, String.toList_ofList, String.toList_ofList, hstamp]
  rfl

/-- **A spelling is read as the value that it spells.** -/
theorem Spells.literalValue_eq (h : Spells type literal value) :
    literalValue type literal.token = .ok value := by
  cases h with
  | integer htype hn hpoint hv => exact literalValue_integer htype hn hpoint hv
  | decimal htype hn hpoint hx =>
    refine literalValue_number hn hx ?_
    rcases htype with rfl | rfl <;> simp [literalSource?, Numeral.point_mem hpoint]
  | real hn hx => exact literalValue_number hn hx rfl
  | text htype s =>
    have hself : (Scalar.ofText s).cast .utf8 = .ok (.of .utf8 s) := Scalar.cast_self rfl
    have hsource : literalSource? type (.text s) = some (.utf8, s) := by
      rcases htype with rfl | rfl <;> rfl
    simp only [literalValue, Literal.token, hsource, hself]
    rfl
  | date hdate hcs => exact literalValue_date hdate hcs
  | clock hcs hv => exact literalValue_time (readTime_isClockText hcs hv)
  | count hn hpoint hv => exact literalValue_time (readTime_chars hn hpoint hv)
  | dateTime hdate hday hclock hseparator hv =>
    exact literalValue_dateTime hdate hday hclock hseparator hv

theorem isNumber_chars {n : Numeral} (hn : n.IsDecimal) : IsNumber n.chars := by
  have hbody : ∀ c ∈ n.body, Token.isNumberChar c = true := by
    intro c hc
    rw [Token.isNumberChar, Bool.or_eq_true, beq_iff_eq]
    exact hn.body c hc
  cases hnegative : n.negative with
  | true =>
    rw [Numeral.chars_of_negative hnegative]
    exact ⟨Or.inl rfl, hbody⟩
  | false =>
    rw [Numeral.chars_of_not_negative hnegative]
    cases hcs : n.body with
    | nil => exact absurd hcs hn.body_ne_nil
    | cons c cs =>
      rw [hcs, List.forall_mem_cons] at hbody
      exact ⟨Or.inr hbody.1, hbody.2⟩

theorem Spells.isWritten (h : Spells type literal value) : literal.IsWritten := by
  cases h with
  | integer htype hn | decimal htype hn | real hn =>
    show IsNumber (String.ofList _).toList
    rw [String.toList_ofList]
    exact isNumber_chars hn
  | text | date | clock | count | dateTime => trivial

end ForeignLayer.Filter
