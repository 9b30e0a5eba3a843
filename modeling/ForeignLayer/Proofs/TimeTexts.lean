import ForeignLayer.Proofs.CivilDays
import ForeignLayer.Proofs.DecimalDigits
import ForeignLayer.Value.Time

/-!
# Texts of dates and times

The texts that dates and times of day have in filters: a year in four digits, month and day in two,
and a time of day in two digits each with up to six digits of a fraction. Every date with a year of
four digits and every microsecond of a day has such a text, and what is read from the text is the
date and the microsecond again.
-/

namespace ForeignLayer.Calendar

open Number ForeignLayer.Convert

-- Powers are the core library's, whichever other instances are in scope.
attribute [local instance (high)] instPowNat

/-! ## Numbers in a fixed number of digits -/

/-- Whether characters are the digits of a number in a given width. -/
structure IsPadded (width n : Nat) (cs : List Char) : Prop where
  length_eq : cs.length = width
  digits : ∀ d ∈ cs, d.isDigit = true
  value : digitsValue cs = n

theorem exists_isPadded (width n : Nat) (h : n < 10 ^ width) : ∃ cs, IsPadded width n cs := by
  obtain ⟨cs, hlength, hdigits, hvalue⟩ := exists_digits h
  exact ⟨cs, hlength, hdigits, hvalue⟩

section IsPadded

variable {width n : Nat} {cs : List Char}

theorem IsPadded.allDigits? (h : IsPadded width n cs) : allDigits? cs = some n := by
  rw [allDigits?_of_forall h.digits, h.value]

theorem IsPadded.eq_pair (h : IsPadded 2 n cs) : ∃ a b, cs = [a, b] :=
  List.length_eq_two.mp h.length_eq

theorem IsPadded.eq_four (h : IsPadded 4 n cs) : ∃ a b c d, cs = [a, b, c, d] := by
  match cs, h.length_eq with
  | [a, b, c, d], _ => exact ⟨a, b, c, d, rfl⟩

theorem IsPadded.digitValue? {a b : Char} (h : IsPadded 2 n [a, b]) :
    ∃ high low, digitValue? a = some high ∧ digitValue? b = some low ∧ high * 10 + low = n := by
  have ha := h.digits a (by simp)
  have hb := h.digits b (by simp)
  refine ⟨_, _, digitValue?_of_isDigit ha, digitValue?_of_isDigit hb, ?_⟩
  have hvalue := digitsValue_append [a] [b]
  have hpair : digitsValue ([a] ++ [b]) = n := h.value
  rw [hpair] at hvalue
  exact hvalue.symm

end IsPadded

/-! ## Dates -/

/-- The text of a date of four digits for the year, and two for the month and the day, with a
character before and behind the month. -/
inductive IsDateText (isSeparator : Char → Prop) : Date → List Char → Prop
  | mk {year month day : Nat} {ys ms ds : List Char} {s t : Char} (hyear : IsPadded 4 year ys)
    (hmonth : IsPadded 2 month ms) (hday : IsPadded 2 day ds) (hs : isSeparator s)
    (ht : isSeparator t) : IsDateText isSeparator ⟨year, month, day⟩ (ys ++ s :: (ms ++ t :: ds))

variable {date : Date} {cs : List Char}

theorem IsDateText.length_eq {isSeparator : Char → Prop} (h : IsDateText isSeparator date cs) :
    cs.length = 10 := by
  obtain ⟨hyear, hmonth, hday, -, -⟩ := h
  simp only [List.length_append, List.length_cons, hyear.length_eq, hmonth.length_eq,
    hday.length_eq]

theorem readFullDate?_isDateText (h : IsDateText (· = '-') date cs) :
    readFullDate? cs = Date.of? date.year date.month date.day := by
  obtain ⟨hyear, hmonth, hday, rfl, rfl⟩ := h
  obtain ⟨a, b, c, d, rfl⟩ := hyear.eq_four
  obtain ⟨e, f, rfl⟩ := hmonth.eq_pair
  obtain ⟨g, i, rfl⟩ := hday.eq_pair
  simp only [List.cons_append, List.nil_append, readFullDate?, hyear.allDigits?,
    hmonth.allDigits?, hday.allDigits?, Option.bind_eq_bind, Option.bind_some]

theorem readShortDate?_isDateText (h : IsDateText (· = '-') date cs) :
    readShortDate? cs = Date.of? date.year date.month date.day := by
  obtain ⟨hyear, hmonth, hday, rfl, rfl⟩ := h
  obtain ⟨a, b, c, d, rfl⟩ := hyear.eq_four
  obtain ⟨e, f, rfl⟩ := hmonth.eq_pair
  obtain ⟨g, i, rfl⟩ := hday.eq_pair
  have htake : [g, i].takeWhile Char.isDigit = [g, i] :=
    List.takeWhile_eq_self_iff.mpr hday.digits
  have hmonth' : f ≠ '-' := by
    rintro rfl
    exact absurd (hmonth.digits '-' (by simp)) (by decide)
  have hfirst : g.isDigit = true := hday.digits g List.mem_cons_self
  simp [readShortDate?, readShortDate?.short, hyear.allDigits?, hmonth.allDigits?, htake,
    hday.value, hfirst]

theorem utf8Size_of_isDigit {c : Char} (h : c.isDigit = true) : c.utf8Size = 1 := by
  rw [Char.utf8Size_eq_one_iff]
  have hhigh := (isDigit_iff.mp h).2
  show c.toNat ≤ 127
  omega

/-- The text of a date has ten bytes and no sign, so that no other form of dates is tried. -/
theorem readDate?_isDateText (h : IsDateText (· = '-') date cs) :
    readDate? cs = Date.of? date.year date.month date.day := by
  rw [← readShortDate?_isDateText h]
  obtain ⟨hyear, hmonth, hday, rfl, rfl⟩ := h
  obtain ⟨a, b, c, d, rfl⟩ := hyear.eq_four
  obtain ⟨e, f, rfl⟩ := hmonth.eq_pair
  obtain ⟨g, i, rfl⟩ := hday.eq_pair
  have hone {width n : Nat} {cs : List Char} (h : IsPadded width n cs) :
      ∀ c ∈ cs, c.utf8Size = 1 := fun c hc ↦ utf8Size_of_isDigit (h.digits c hc)
  have hyears := hone hyear
  have hmonths := hone hmonth
  have hdays := hone hday
  simp only [List.forall_mem_cons, List.not_mem_nil, false_implies, implies_true, and_true]
    at hyears hmonths hdays
  have hlength : byteLength [a, b, c, d, '-', e, f, '-', g, i] = 10 := by
    have hhyphen : Char.utf8Size '-' = 1 := rfl
    simp [byteLength, hyears, hmonths, hdays, hhyphen]
  have hsign : ¬(some a = some '+' ∨ some a = some '-') := by
    have hdigit := hyear.digits a List.mem_cons_self
    rintro (heq | heq) <;> obtain rfl := Option.some.inj heq <;> exact absurd hdigit (by decide)
  have hlong : ¬10 < byteLength [a, b, c, d, '-', e, f, '-', g, i] := by omega
  exact (if_neg hsign).trans (if_neg hlong)

/-- Whether a date has a year of four digits. -/
def Date.HasFourDigits (d : Date) : Prop := 0 ≤ d.year ∧ d.year ≤ 9999

theorem Date.HasFourDigits.inRange (h : date.HasFourDigits) :
    minYear ≤ date.year ∧ date.year ≤ maxYear :=
  ⟨le_trans (by decide) h.1, h.2.trans (by decide)⟩

theorem daysInMonth_le (year : Int) (month : Nat) : daysInMonth year month ≤ 31 := by
  unfold daysInMonth
  split
  · split <;> decide
  all_goals decide

theorem Date.parts_lt {year : Int} {month day : Nat} {d : Date} (h : of? year month day = some d) :
    month < 10 ^ 2 ∧ day < 10 ^ 2 := by
  unfold of? at h
  split at h
  · next hparts =>
    have hdays := daysInMonth_le year month
    omega
  · cases h

theorem exists_isDateText {n : Int} (h : (Date.ofDays n).HasFourDigits) (isSeparator : Char → Prop)
    {s : Char} (hs : isSeparator s) : ∃ cs, IsDateText isSeparator (Date.ofDays n) cs := by
  have hvalid := Date.of?_ofDays h.inRange
  obtain ⟨hyear, hlarge⟩ := h
  obtain ⟨hmonth, hday⟩ := Date.parts_lt hvalid
  obtain ⟨ys, hys⟩ := exists_isPadded 4 (Date.ofDays n).year.toNat (by omega)
  obtain ⟨ms, hms⟩ := exists_isPadded 2 _ hmonth
  obtain ⟨ds, hds⟩ := exists_isPadded 2 _ hday
  have htext := IsDateText.mk hys hms hds hs hs
  rw [Int.toNat_of_nonneg hyear] at htext
  exact ⟨_, htext⟩

/-! ## Times of day -/

/-- The text of a fraction of a second: none, or a point and up to six digits. -/
inductive IsFractionText : (micros : Nat) → List Char → Prop
  | none : IsFractionText 0 []
  | digits {fs : List Char} (hne : fs ≠ []) (hlength : fs.length ≤ 6)
    (hdigits : ∀ d ∈ fs, d.isDigit = true) :
    IsFractionText (digitsValue fs * 10 ^ (6 - fs.length)) ('.' :: fs)

/-- The text of a microsecond of a day: hour, minute and second in two digits each, with colons
between them, and a fraction. -/
inductive IsClockText : (micros : Nat) → List Char → Prop
  | mk {hour minute second micros : Nat} {hs ms ss fraction : List Char}
    (hhour : IsPadded 2 hour hs) (hminute : IsPadded 2 minute ms) (hsecond : IsPadded 2 second ss)
    (hrange : hour < 24 ∧ minute < 60 ∧ second < 60) (hfraction : IsFractionText micros fraction) :
    IsClockText ((hour * 3600 + minute * 60 + second) * 1000000 + micros)
      (hs ++ ':' :: (ms ++ ':' :: (ss ++ fraction)))

section Clock

variable {micros : Nat}

theorem fractionNanos_eq {fs : List Char} (hlength : fs.length ≤ 6) :
    Clock.fractionNanos fs = digitsValue fs * 10 ^ (6 - fs.length) * 1000 := by
  have hzeros (n : Nat) : digitsValue (List.replicate n '0') = 0 := by
    induction n with
    | zero => rfl
    | succ n ih => rw [List.replicate_succ, digitsValue_cons, ih, Nat.sub_self, Nat.zero_mul]
  have htake : (fs ++ List.replicate 9 '0').take 9 = fs ++ List.replicate (9 - fs.length) '0' := by
    rw [List.take_append, List.take_of_length_le (by omega), List.take_replicate]
    congr 2
    omega
  have hpow : 9 - fs.length = 6 - fs.length + 3 := by omega
  rw [Clock.fractionNanos, htake, digitsValue_append, hzeros, List.length_replicate, hpow,
    Nat.pow_add, Nat.add_zero, ← Nat.mul_assoc]

theorem IsFractionText.lt {cs : List Char} (h : IsFractionText micros cs) : micros < 1000000 := by
  cases h with
  | none => decide
  | @digits fs hne hlength hdigits =>
    have hpow : 10 ^ 6 = 10 ^ fs.length * 10 ^ (6 - fs.length) := by
      rw [← Nat.pow_add, Nat.add_sub_cancel' hlength]
    show digitsValue fs * 10 ^ (6 - fs.length) < 10 ^ 6
    rw [hpow]
    exact Nat.mul_lt_mul_of_pos_right (digitsValue_lt hdigits) (Nat.pow_pos (by decide))

theorem exists_isFractionText (micros : Nat) (h : micros < 1000000) :
    ∃ cs, IsFractionText micros cs := by
  obtain ⟨fs, hlength, hdigits, hvalue⟩ := exists_digits (k := 6) h
  have hne : fs ≠ [] := List.ne_nil_of_length_pos (by omega)
  have htext := IsFractionText.digits hne hlength.le hdigits
  rw [hlength, Nat.sub_self, Nat.pow_zero, Nat.mul_one, hvalue] at htext
  exact ⟨_, htext⟩

theorem exists_isClockText (micros : Nat) (h : micros < 86400000000) :
    ∃ cs, IsClockText micros cs := by
  obtain ⟨hs, hhs⟩ := exists_isPadded 2 (micros / 3600000000) (by omega)
  obtain ⟨ms, hms⟩ := exists_isPadded 2 (micros / 60000000 % 60) (by omega)
  obtain ⟨ss, hss⟩ := exists_isPadded 2 (micros / 1000000 % 60) (by omega)
  obtain ⟨fraction, hfraction⟩ := exists_isFractionText (micros % 1000000) (by omega)
  have htext := IsClockText.mk hhs hms hss ⟨by omega, by omega, by omega⟩ hfraction
  have hsum : (micros / 3600000000 * 3600 + micros / 60000000 % 60 * 60 + micros / 1000000 % 60) *
      1000000 + micros % 1000000 = micros := by omega
  rw [hsum] at htext
  exact ⟨_, htext⟩

theorem IsClockText.lt (h : IsClockText micros cs) : micros < 86400000000 := by
  obtain ⟨-, -, -, hrange, hfraction⟩ := h
  have hlt := hfraction.lt
  omega

/-- The time of day of a microsecond. -/
def clockOfMicros (micros : Nat) : Clock := ⟨micros / 1000000, micros % 1000000 * 1000⟩

theorem Clock.of?_parts {hour minute second : Nat} (hrange : hour < 24 ∧ minute < 60 ∧ second < 60)
    (hmicros : micros < 1000000) : Clock.of? hour minute second (micros * 1000) =
      some (clockOfMicros ((hour * 3600 + minute * 60 + second) * 1000000 + micros)) := by
  have hsecond : ((hour * 3600 + minute * 60 + second) * 1000000 + micros) / 1000000 =
      hour * 3600 + minute * 60 + second := by omega
  have hrest : ((hour * 3600 + minute * 60 + second) * 1000000 + micros) % 1000000 = micros := by
    omega
  rw [Clock.of?, if_pos hrange, clockOfMicros, hsecond, hrest]

theorem readInstantTime?_isClockText (h : IsClockText micros cs) :
    readInstantTime? cs = some (clockOfMicros micros, []) := by
  obtain ⟨hhour, hminute, hsecond, hrange, hfraction⟩ := h
  have hof := Clock.of?_parts hrange hfraction.lt
  obtain ⟨a, b, rfl⟩ := hhour.eq_pair
  obtain ⟨c, d, rfl⟩ := hminute.eq_pair
  obtain ⟨e, f, rfl⟩ := hsecond.eq_pair
  simp only [List.cons_append, List.nil_append, readInstantTime?, hhour.allDigits?,
    hminute.allDigits?, hsecond.allDigits?, Option.bind_eq_bind, Option.bind_some]
  cases hfraction with
  | none =>
    rw [Nat.zero_mul] at hof
    simp only [hof, Option.bind_some, Option.pure_def]
  | @digits fs hne hlength hdigits =>
    have hsome : fs.isEmpty = false := by simpa using hne
    rw [← fractionNanos_eq hlength] at hof
    simp only [spanDigits_self hdigits, hsome, hof, Bool.false_eq_true, if_false,
      Option.bind_some, Option.pure_def]

theorem readSeconds?_fraction {second : Nat} {ss fraction : List Char}
    (hsecond : IsPadded 2 second ss) (hfraction : IsFractionText micros fraction) :
    Clock.readSeconds? (':' :: (ss ++ fraction)) = some (second, micros * 1000) := by
  obtain ⟨e, f, rfl⟩ := hsecond.eq_pair
  obtain ⟨high, low, he, hf, rfl⟩ := hsecond.digitValue?
  simp only [List.cons_append, List.nil_append, Clock.readSeconds?, he, hf, Option.bind_eq_bind,
    Option.bind_some]
  cases hfraction with
  | none => rfl
  | @digits fs hne hlength hdigits =>
    have hall : (fs.isEmpty || !fs.all Char.isDigit) = false := by
      rw [List.all_eq_true.mpr hdigits, List.isEmpty_eq_false_iff.mpr hne]
      rfl
    simp only [hall, Bool.false_eq_true, if_false, fractionNanos_eq hlength]

/-- Without blanks there is no mark for the half of the day. -/
theorem splitHalf_eq (h : ' ' ∉ cs.map Char.toLower) : Clock.splitHalf cs = (none, cs) := by
  have hmark (rest : List Char) : (cs.drop (cs.length - 3)).map Char.toLower ≠ ' ' :: rest := by
    intro heq
    have hmem : ' ' ∈ (cs.drop (cs.length - 3)).map Char.toLower := heq ▸ List.mem_cons_self
    rw [List.map_drop] at hmem
    exact h (List.mem_of_mem_drop hmem)
  rw [Clock.splitHalf, if_neg (hmark _), if_neg (hmark _)]

theorem IsClockText.chars (h : IsClockText micros cs) :
    ∀ c ∈ cs, c.isDigit = true ∨ c = ':' ∨ c = '.' := by
  have hdigits {ds : List Char} (h : ∀ d ∈ ds, d.isDigit = true) :
      ∀ c ∈ ds, c.isDigit = true ∨ c = ':' ∨ c = '.' := fun c hc ↦ Or.inl (h c hc)
  obtain ⟨hhour, hminute, hsecond, hrange, hfraction⟩ := h
  simp only [List.forall_mem_append, List.forall_mem_cons]
  refine ⟨hdigits hhour.digits, by simp, hdigits hminute.digits, by simp,
    hdigits hsecond.digits, ?_⟩
  cases hfraction with
  | none => exact List.forall_mem_nil _
  | digits hne hlength hfs =>
    exact List.forall_mem_cons.mpr ⟨Or.inr (Or.inr rfl), hdigits hfs⟩

theorem read?_isClockText (h : IsClockText micros cs) :
    Clock.read? cs = some (clockOfMicros micros) := by
  have hblank : ' ' ∉ cs.map Char.toLower := by
    intro hmem
    obtain ⟨c, hc, heq⟩ := List.mem_map.mp hmem
    have hlower : c.toLower = c := by
      rcases h.chars c hc with hdigit | rfl | rfl
      · have hrange := isDigit_iff.mp hdigit
        exact toLower_of_lt (by omega)
      · rfl
      · rfl
    rw [hlower] at heq
    rw [heq] at hc
    exact absurd (h.chars ' ' hc) (by decide)
  have hhalf := splitHalf_eq hblank
  obtain ⟨hhour, hminute, hsecond, hrange, hfraction⟩ := h
  have hof := Clock.of?_parts hrange hfraction.lt
  have hseconds := readSeconds?_fraction hsecond hfraction
  obtain ⟨a, b, rfl⟩ := hhour.eq_pair
  obtain ⟨c, d, rfl⟩ := hminute.eq_pair
  obtain ⟨hourHigh, hourLow, ha, hb, rfl⟩ := hhour.digitValue?
  obtain ⟨minuteHigh, minuteLow, hc, hd, rfl⟩ := hminute.digitValue?
  have hcolon : b ≠ ':' := by
    rintro rfl
    exact absurd (hhour.digits ':' (by simp)) (by decide)
  have hlong (rest : List Char) : ¬(a :: b :: ':' :: c :: rest).length < 4 := by simp
  simp only [List.cons_append, List.nil_append] at hhalf ⊢
  simp only [Clock.read?, hhalf, if_neg (hlong _), ha, hb, hc, hd, hseconds, Clock.hourOfHalf?, hof,
    Option.bind_eq_bind, Option.bind_some, Option.pure_def]

/-- What has no colon is no time of day. -/
theorem read?_eq_none (h : ':' ∉ cs) : Clock.read? cs = none := by
  have hbody : ':' ∉ (Clock.splitHalf cs).2 := by
    rw [Clock.splitHalf]
    split
    · exact fun hmem ↦ h (List.mem_of_mem_take hmem)
    · split
      · exact fun hmem ↦ h (List.mem_of_mem_take hmem)
      · exact h
  simp only [Clock.read?, Option.bind_eq_bind, Option.pure_def, Option.bind_none, Option.bind_some]
  generalize Clock.splitHalf cs = p at hbody
  split
  · rfl
  · split
    · rfl
    · split
      · next heq => simp [heq] at hbody
      · next heq => simp [heq] at hbody
      · rfl

end Clock

/-! ## Instants -/

/-- A date and time in universal time is what the clocks of universal time show. -/
theorem instantOf?_universal {n : Int} (h : (Date.ofDays n).HasFourDigits) {c : Clock}
    (hc : c.second < secondsPerDay) :
    Zone.universal.instantOf? ⟨Date.ofDays n, c⟩ = some ⟨Date.ofDays n, c⟩ := by
  have hseconds : (⟨Date.ofDays n, c⟩ : DateTime).seconds = n * 86400 + c.second := by
    rw [DateTime.seconds, Date.toDays_ofDays]
    rfl
  rw [secondsPerDay] at hc
  have hday : (n * 86400 + (c.second : Int) + -0).fdiv secondsPerDay = n := by
    rw [Int.fdiv_eq_ediv_of_nonneg _ (by decide), secondsPerDay]
    omega
  have hsecond : ((n * 86400 + (c.second : Int) + -0).fmod secondsPerDay).toNat = c.second := by
    rw [Int.fmod_eq_emod_of_nonneg _ (by decide), secondsPerDay]
    omega
  have hrange : (⟨Date.ofDays n, c⟩ : DateTime).isInRange = true := by
    rw [DateTime.isInRange, Bool.and_eq_true, decide_eq_true_iff, decide_eq_true_iff]
    exact h.inRange
  show DateTime.checked? (DateTime.shift ⟨Date.ofDays n, c⟩ (-0)) = _
  rw [DateTime.shift, DateTime.ofSeconds, hseconds, hday, hsecond, DateTime.checked?, if_pos hrange]

theorem readInstant?_texts {n : Int} (h : (Date.ofDays n).HasFourDigits) {date clock : List Char}
    (hdate : IsDateText (· = '-') (Date.ofDays n) date) {micros : Nat}
    (hclock : IsClockText micros clock) {separator : Char}
    (hseparator : isInstantSeparator separator = true) :
    readInstant? .universal (date ++ separator :: clock) =
      some ⟨Date.ofDays n, clockOfMicros micros⟩ := by
  have hread := readFullDate?_isDateText hdate
  rw [Date.of?_ofDays h.inRange] at hread
  have hsecond : (clockOfMicros micros).second < secondsPerDay :=
    Nat.div_lt_of_lt_mul (hclock.lt.trans_eq rfl)
  have hinstant := instantOf?_universal h hsecond
  simp only [readInstant?, ← hdate.length_eq, List.take_left, List.drop_left, hread, hseparator,
    readInstantTime?_isClockText hclock, hinstant, Bool.not_true, Bool.false_eq_true, if_false,
    Option.bind_eq_bind, Option.bind_some]

end ForeignLayer.Calendar
