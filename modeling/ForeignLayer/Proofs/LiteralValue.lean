import ForeignLayer.Filter.Reader
import ForeignLayer.Predicate.Literal
import ForeignLayer.Proofs.Casts
import ForeignLayer.Proofs.DecimalDigits
import ForeignLayer.Proofs.FilterTokens

/-!
# The value of a literal

A constant becomes a literal, and the layer reads the literal as a value of the field it is compared
with. That value is the constant itself, brought to the type of the field: the text of a literal is
one that the column reads back as the constant, and reading it as a field does makes no difference
beyond what the types of column and field differ in.
-/

namespace ForeignLayer.Predicate

open ForeignLayer.Convert Number Calendar ForeignLayer.Filter

-- Powers are the core library's, whichever other instances are in scope.
attribute [local instance (high)] instPowNat

/-- The type in which a field of a type is compared: integers are compared in 64 bits. -/
def comparisonType : FieldType → DataType
  | .integer | .integer64 => .int64
  | t => t.native

/-! ## Values that survive a way -/

theorem exists_of_cast {s there : Scalar} {t : DataType} (h : s.cast t = .ok there)
    (hnull : there.isNull = false) : ∃ v, there = .of t v := by
  obtain ⟨type, value⟩ := there
  have htype : type = t := Scalar.type_of_cast h
  subst htype
  cases value with
  | none => cases hnull
  | some v => exact ⟨v, rfl⟩

theorem toOption_eq_some {ε α : Type} {e : Except ε α} {a : α} :
    e.toOption = some a ↔ e = .ok a := by
  cases e <;> simp [Except.toOption]

theorem roundTrip?_eq_some {value there : Scalar} {t : DataType}
    (h : roundTrip? value t = some there) :
    value.cast t = .ok there ∧ there.isNull = false ∧ there.cast value.type = .ok value := by
  simp only [roundTrip?, Option.bind_eq_bind, Option.bind_eq_some_iff, toOption_eq_some] at h
  obtain ⟨s, hthere, hnull⟩ := h
  split at hnull
  · cases hnull
  · next hnot =>
    obtain ⟨back, hback, hvalue⟩ := Option.bind_eq_some_iff.mp hnull
    split at hvalue
    · next heq =>
      cases hvalue
      rw [heq] at hback
      exact ⟨hthere, by simpa using hnot, toOption_eq_some.mp hback⟩
    · cases hvalue

theorem stableText?_eq_some {conversion : Conversion} {value : Scalar} {text : String}
    (h : stableText? conversion value = some text) :
    conversion.write value = .ok text ∧
      conversion.read text conversion.type.storage = .ok value := by
  simp only [stableText?, Option.bind_eq_bind, Option.bind_eq_some_iff, toOption_eq_some] at h
  obtain ⟨text', hwritten, back, hback, hvalue⟩ := h
  split at hvalue
  · next heq =>
    cases hvalue
    rw [← heq]
    exact ⟨heq ▸ hwritten, hback⟩
  · cases hvalue

/-! ## Numbers -/

theorem readWord_ok {width : Width} {cs : List Char} {v : BitVec width.bits}
    (h : readWord true width cs = .ok v) :
    '.' ∉ cs ∧ ∀ target, readWord true target cs = toWord true target v.toInt := by
  have hpoint {ds : List Char} (hds : ds.all Char.isDigit = true) : '.' ∉ ds := fun hmem ↦
    absurd (List.all_eq_true.mp hds '.' hmem) (by decide)
  unfold readWord at h ⊢
  split at h
  next negative ds hparts =>
  split at h
  · cases h
  · next hdigits =>
    rw [Bool.or_eq_true, not_or, Bool.not_eq_true, Bool.not_eq_true, Bool.not_eq_false'] at hdigits
    rw [toWord_eq_ok] at h
    refine ⟨?_, fun target ↦ ?_⟩
    · have hds := hpoint hdigits.2
      split at hparts <;> cases hparts
      · simpa using hds
      · simpa using hds
      · exact hds
    · simp only [hdigits.1, hdigits.2, h]
      rfl

theorem isNumber_of_isNumericText {cs : List Char} (h : isNumericText cs = true) :
    IsNumber cs := by
  unfold isNumericText at h
  simp only [Bool.and_eq_true, List.all_eq_true] at h
  obtain ⟨⟨hall, hany⟩, -⟩ := h
  split at hall
  · exact ⟨Or.inl rfl, hall⟩
  · cases cs with
    | nil => cases hany
    | cons c rest =>
      rw [List.forall_mem_cons] at hall
      exact ⟨Or.inr hall.1, hall.2⟩

theorem literalOfText?_number {type : FieldType}
    (htype : type = .integer ∨ type = .integer64 ∨ type = .real) {text : String}
    {literal : Literal} (h : literalOfText? type text = some literal) :
    literal = .number text ∧ literal.IsWritten := by
  have hif : (if isNumericText text.toList = true then some (Literal.number text) else none) =
      some literal := by
    rcases htype with rfl | rfl | rfl <;> exact h
  split at hif
  · next hnumeric =>
    cases hif
    exact ⟨rfl, isNumber_of_isNumericText hnumeric⟩
  · cases hif

/-- What a literal of a constant is read as, in terms of the value that the field holds. -/
def ReadsNative (type : FieldType) (literal : Literal) (native : Scalar) : Prop :=
  literal.IsWritten ∧ ∃ compared, native.cast (comparisonType type) = .ok compared ∧
    literalValue type literal.token = .ok compared

theorem readsNative_integer {type : FieldType} {target : Width}
    (htype : type = .integer ∧ target = .w32 ∨ type = .integer64 ∧ target = .w64) {width : Width}
    {v : BitVec width.bits} {native : Scalar}
    (hnative : (Scalar.of (.integer true width) v).cast (.integer true target) = .ok native)
    {text : String}
    (htext : (Scalar.ofText text).cast (.integer true width) = .ok (.of (.integer true width) v))
    {literal : Literal} (hliteral : literalOfText? type text = some literal) :
    ReadsNative type literal native := by
  have hcase : type = .integer ∨ type = .integer64 := htype.imp And.left And.left
  have hnumber : type = .integer ∨ type = .integer64 ∨ type = .real := hcase.imp_right Or.inl
  obtain ⟨rfl, hwritten⟩ := literalOfText?_number hnumber hliteral
  rw [Scalar.cast_ofText_integer, Scalar.map_of_eq_ok] at htext
  obtain ⟨w, hread, hw⟩ := htext
  cases hw
  obtain ⟨hpoint, hreads⟩ := readWord_ok hread
  rw [Scalar.cast_integer, Scalar.map_of_eq_ok] at hnative
  obtain ⟨n, hn, rfl⟩ := hnative
  have hcompare : comparisonType type = .int64 := by rcases hcase with rfl | rfl <;> rfl
  have hsource : literalSource? type (.number text) = some (.int64, text) := by
    rcases hcase with rfl | rfl <;> simp [literalSource?, hpoint]
  have hlong (w : Width) : w.bits ≤ Width.w64.bits := by cases w <;> decide
  refine ⟨hwritten, .of .int64 (BitVec.ofInt 64 n.toInt), ?_, ?_⟩
  · rw [hcompare, Scalar.cast_integer, toWord_of_le (hlong target)]
    rfl
  · have hvalue : readWord true .w64 text.toList = .ok (BitVec.ofInt 64 n.toInt) := by
      rw [hreads, toWord_eq_ok.mp hn]
      exact toWord_of_le (hlong width) v
    simp only [literalValue, Literal.token, hsource, Scalar.cast_ofText_integer, hvalue]
    rfl

theorem readsNative_real {v : Double} {text : String}
    (htext : (Scalar.ofText text).cast .float64 = .ok (.of .float64 v)) {literal : Literal}
    (hliteral : literalOfText? .real text = some literal) :
    ReadsNative .real literal (.of .float64 v) := by
  obtain ⟨rfl, hwritten⟩ := literalOfText?_number (Or.inr (Or.inr rfl)) hliteral
  refine ⟨hwritten, .of .float64 v, Scalar.cast_self rfl, ?_⟩
  show ((Scalar.ofText text).cast .float64).mapError _ = _
  rw [htext]
  rfl

/-! ## Texts -/

theorem readsNative_text {type : FieldType} (htype : type = .string ∨ type = .wideString)
    {storage : Storage} {v : String} {native : Scalar}
    (hnative : (Scalar.of (.text storage) v).cast .utf8 = .ok native) {text : String}
    (htext : (Scalar.ofText text).cast (.text storage) = .ok (.of (.text storage) v))
    {literal : Literal} (hliteral : literalOfText? type text = some literal) :
    ReadsNative type literal native := by
  have hsome : some (Literal.text text) = some literal := by
    rcases htype with rfl | rfl <;> exact hliteral
  cases hsome
  have hv : v = text := by
    have hcast := Scalar.cast_text .regular storage text
    rw [show Scalar.of (.text .regular) text = Scalar.ofText text from rfl, htext] at hcast
    cases hcast
    rfl
  rw [Scalar.cast_text] at hnative
  cases hnative
  subst hv
  refine ⟨trivial, .of .utf8 v, ?_, ?_⟩
  · rcases htype with rfl | rfl <;> exact Scalar.cast_self rfl
  · have hself : (Scalar.ofText v).cast .utf8 = .ok (.of .utf8 v) := Scalar.cast_self rfl
    have hsource : literalSource? type (.text v) = some (.utf8, v) := by
      rcases htype with rfl | rfl <;> rfl
    simp only [literalValue, Literal.token, hsource, hself]
    rfl

/-! ## Dates and times of day -/

/-- Hyphens in place of slashes. -/
def unslashed (cs : List Char) : List Char := cs.map fun c ↦ if c = '/' then '-' else c

private theorem ne_slash {c : Char} (h : c.isDigit = true) : c ≠ '/' := by
  rintro rfl
  cases h

theorem slashedDate?_eq_some {cs slashed : List Char} (h : slashedDate? cs = some slashed) :
    unslashed slashed = cs ∧ cs.length = 10 := by
  unfold slashedDate? at h
  split at h
  · next a b c d e f g i =>
    split at h
    · next hdigits =>
      cases h
      simp only [List.all_cons, List.all_nil, Bool.and_true, Bool.and_eq_true] at hdigits
      obtain ⟨ha, hb, hc, hd, he, hf, hg, hi⟩ := hdigits
      simp [unslashed, ne_slash ha, ne_slash hb, ne_slash hc, ne_slash hd, ne_slash he,
        ne_slash hf, ne_slash hg, ne_slash hi]
    · cases h
  · cases h

theorem unslashed_eq {cs : List Char} (h : '/' ∉ cs) : unslashed cs = cs := by
  induction cs with
  | nil => rfl
  | cons c cs ih =>
    rw [List.mem_cons, not_or] at h
    rw [unslashed, List.map_cons, if_neg (Ne.symm h.1)]
    exact congrArg (c :: ·) (ih h.2)

theorem plainTime?_eq_some {cs time : List Char} (h : plainTime? cs = some time) :
    time = cs ∧ ':' ∈ cs ∧ '/' ∉ cs := by
  unfold plainTime? at h
  split at h
  · next a b c d e f rest =>
    split at h
    · next hdigits =>
      simp only [List.all_cons, List.all_nil, Bool.and_true, Bool.and_eq_true] at hdigits
      obtain ⟨ha, hb, hc, hd, he, hf⟩ := hdigits
      have hhead (hrest : '/' ∉ rest) : '/' ∉ a :: b :: ':' :: c :: d :: ':' :: e :: f :: rest := by
        simp [hrest, (ne_slash ha).symm, (ne_slash hb).symm, (ne_slash hc).symm,
          (ne_slash hd).symm, (ne_slash he).symm, (ne_slash hf).symm]
      split at h
      · cases h
        exact ⟨rfl, by simp, hhead nofun⟩
      · next fraction =>
        split at h
        · next hfraction =>
          cases h
          refine ⟨rfl, by simp, hhead ?_⟩
          rw [Bool.and_eq_true, List.all_eq_true] at hfraction
          rw [List.mem_cons, not_or]
          exact ⟨by decide, fun hmem ↦ ne_slash (hfraction.2 _ hmem) rfl⟩
        · cases h
      · cases h
    · cases h
  · cases h

theorem plainStamp?_eq_some {cs stamp : List Char} (h : plainStamp? cs = some stamp) :
    ∃ date separator time, cs = date ++ separator :: time ∧ date.length = 10 ∧
      (separator = 'T' ∨ separator = ' ') ∧ unslashed stamp = date ++ ' ' :: time := by
  unfold plainStamp? at h
  split at h
  next date rest hspan =>
  rw [List.span_eq_takeWhile_dropWhile, Prod.mk.injEq] at hspan
  obtain ⟨hdate, hrest⟩ := hspan
  split at h
  · cases h
  · next separator time =>
    simp only [Option.bind_eq_bind, Option.bind_eq_some_iff, Option.pure_def] at h
    obtain ⟨slashed, hslashed, time', htime, hstamp⟩ := h
    cases hstamp
    obtain ⟨hunslashed, hlength⟩ := slashedDate?_eq_some hslashed
    obtain ⟨rfl, -, hslash⟩ := plainTime?_eq_some htime
    refine ⟨date, separator, time', ?_, hlength, ?_, ?_⟩
    · rw [← hdate, ← hrest, List.takeWhile_append_dropWhile]
    · have hhead := List.head?_dropWhile_not (fun c ↦ c != 'T' && c != ' ') cs
      rw [hrest, List.head?_cons] at hhead
      by_cases hT : separator = 'T'
      · exact Or.inl hT
      · exact Or.inr (by simpa [hT] using hhead)
    · show unslashed (slashed ++ ' ' :: time') = _
      rw [unslashed, List.map_append, List.map_cons]
      exact congrArg₂ (· ++ ' ' :: ·) hunslashed (unslashed_eq hslash)

theorem readsNative_date {v : BitVec 32} {text : String}
    (htext : (Scalar.ofText text).cast .date32 = .ok (.of .date32 v)) {literal : Literal}
    (hliteral : literalOfText? .date text = some literal) :
    ReadsNative .date literal (.of .date32 v) := by
  obtain ⟨slashed, hslashed, rfl⟩ := Option.map_eq_some_iff.mp hliteral
  have hback : String.ofList (unslashed (String.ofList slashed).toList) = text := by
    rw [String.toList_ofList, (slashedDate?_eq_some hslashed).1, String.ofList_toList]
  refine ⟨trivial, .of .date32 v, Scalar.cast_self rfl, ?_⟩
  show ((Scalar.ofText (String.ofList (unslashed (String.ofList slashed).toList))).cast
    .date32).mapError _ = _
  rw [hback, htext]
  rfl

/-! ## Clocks -/

theorem fractionNanos_lt {ds : List Char} (h : ∀ d ∈ ds, d.isDigit = true) :
    Clock.fractionNanos ds < 1000000000 := by
  have hdigits : ∀ d ∈ (ds ++ List.replicate 9 '0').take 9, d.isDigit = true := by
    intro d hd
    rcases List.mem_append.mp (List.mem_of_mem_take hd) with hd | hd
    · exact h d hd
    · rw [List.eq_of_mem_replicate hd]
      rfl
  have hlt := digitsValue_lt hdigits
  have hlength : ((ds ++ List.replicate 9 '0').take 9).length = 9 := by simp
  rw [hlength] at hlt
  exact hlt

theorem nano_lt_of_readSeconds? {cs : List Char} {second nano : Nat}
    (h : Clock.readSeconds? cs = some (second, nano)) : nano < 1000000000 := by
  unfold Clock.readSeconds? at h
  split at h
  · cases h
    decide
  · next a b rest =>
    simp only [Option.bind_eq_bind, Option.bind_eq_some_iff] at h
    obtain ⟨high, -, low, -, h⟩ := h
    split at h
    · cases h
      decide
    · next ds =>
      split at h
      · cases h
      · next hds =>
        cases h
        rw [Bool.or_eq_true, not_or, Bool.not_eq_true, Bool.not_eq_true, Bool.not_eq_false',
          List.all_eq_true] at hds
        exact fractionNanos_lt hds.2
    · cases h
  · cases h

theorem toNanos_lt_of_of? {hour minute second nano : Nat} {c : Clock}
    (h : Clock.of? hour minute second nano = some c) (hnano : nano < 1000000000) :
    c.toNanos < 86402000000000 := by
  unfold Clock.of? at h
  split at h
  · cases h
    simp only [Clock.toNanos, nanosPerSecond]
    omega
  · split at h
    · cases h
      simp only [Clock.toNanos, nanosPerSecond]
      omega
    · cases h

/-- A time of day that was read lies in a day, a leap second included. -/
theorem toNanos_lt_of_read? {cs : List Char} {c : Clock} (h : Clock.read? cs = some c) :
    c.toNanos < 86402000000000 := by
  simp only [Clock.read?, Option.bind_eq_bind, Option.pure_def, Option.bind_none,
    Option.bind_some] at h
  split at h
  · cases h
  · split at h
    · cases h
    · split at h
      · obtain ⟨hour, -, h⟩ := Option.bind_eq_some_iff.mp h
        split at h
        · simp only [Option.bind_eq_some_iff] at h
          obtain ⟨_, -, _, -, ⟨second, nano⟩, hseconds, _, -, hof⟩ := h
          exact toNanos_lt_of_of? hof (nano_lt_of_readSeconds? hseconds)
        · cases h
      · simp only [Option.bind_eq_some_iff] at h
        obtain ⟨_, -, _, -, h⟩ := h
        split at h
        · simp only [Option.bind_eq_some_iff] at h
          obtain ⟨_, -, _, -, ⟨second, nano⟩, hseconds, _, -, hof⟩ := h
          exact toNanos_lt_of_of? hof (nano_lt_of_readSeconds? hseconds)
        · cases h
      · cases h

/-- A text with a colon is no count. -/
theorem readInteger_ne_ok_of_colon {low high n : Int} {cs : List Char} (hcolon : ':' ∈ cs) :
    readInteger low high cs ≠ .ok n := by
  -- reading the digits ends in a fault, at the colon at the latest
  have hdigits (bound : Nat) (overflow : IntegerFault) (value : Nat) (cs : List Char)
      (hcolon : ':' ∈ cs) : ∃ fault, readDigits bound overflow value cs = .error fault := by
    induction cs generalizing value with
    | nil => cases hcolon
    | cons c cs ih =>
      unfold readDigits
      split
      · exact ⟨_, rfl⟩
      · next d hd =>
        dsimp only
        split
        · exact ⟨_, rfl⟩
        · refine ih _ ?_
          rcases List.mem_cons.mp hcolon with rfl | hmem
          · cases hd
          · exact hmem
  intro h
  unfold readInteger at h
  split at h
  · cases h
  · cases h
  · cases h
  · next rest _ =>
    obtain ⟨fault, hfault⟩ := hdigits high.toNat .tooLarge 0 rest (by simpa using hcolon)
    rw [hfault] at h
    cases h
  · next rest _ =>
    split at h
    · obtain ⟨fault, hfault⟩ := hdigits low.natAbs .tooSmall 0 rest (by simpa using hcolon)
      rw [hfault] at h
      cases h
    · cases h
  · obtain ⟨fault, hfault⟩ := hdigits high.toNat .tooLarge 0 cs hcolon
    rw [hfault] at h
    cases h

/-- A time of day with colons is read in any unit from the same nanoseconds. -/
theorem readTime_of_colon {unit : TimeUnit} {cs : List Char} (hcolon : ':' ∈ cs) {v : BitVec 64}
    (h : readTime unit .w64 cs = .ok v) :
    ∃ nanos < 86402000000000, ∀ target, readTime target .w64 cs =
      .ok (BitVec.ofNat 64 (nanos / (nanosPerSecond / target.perSecond))) := by
  unfold readTime at h
  cases hread : Clock.read? cs with
  | none =>
    rw [hread] at h
    dsimp only at h
    split at h
    · next n hn => exact absurd hn (readInteger_ne_ok_of_colon hcolon)
    · cases h
  | some c =>
    refine ⟨c.toNanos, toNanos_lt_of_read? hread, fun target ↦ ?_⟩
    rw [readTime, hread]

theorem readTime_of_literal {unit : TimeUnit} (hunit : isShortUnit unit = false) {v : BitVec 64}
    {text : String} (htext : (Scalar.ofText text).cast (.time64 unit) = .ok (.of (.time64 unit) v))
    {literal : Literal} (hliteral : literalOfText? .time text = some literal) :
    literal = .text text ∧ ∃ nanos < 86402000000000,
      v.toInt = (nanos / (nanosPerSecond / unit.perSecond) : Nat) ∧
      ∀ target, readTime target .w64 text.toList =
        .ok (BitVec.ofNat 64 (nanos / (nanosPerSecond / target.perSecond))) := by
  obtain ⟨time, htime, rfl⟩ := Option.map_eq_some_iff.mp hliteral
  obtain ⟨rfl, hcolon, -⟩ := plainTime?_eq_some htime
  rw [Scalar.cast_ofText_time hunit, Scalar.map_of_eq_ok] at htext
  obtain ⟨w, hread, hw⟩ := htext
  cases hw
  obtain ⟨nanos, hlt, hreads⟩ := readTime_of_colon hcolon hread
  refine ⟨by rw [String.ofList_toList], nanos, hlt, ?_, hreads⟩
  have hv := hread.symm.trans (hreads unit)
  rw [Except.ok.injEq] at hv
  have hint (m : Nat) (hm : m < 86402000000000) : (BitVec.ofNat 64 m).toInt = m := by
    rw [BitVec.toInt_ofNat', Int.bmod_eq_of_le (by omega) (by omega)]
  rw [hv, hint _ (Nat.lt_of_le_of_lt (Nat.div_le_self _ _) hlt)]

theorem readsNative_time {unit : TimeUnit} (hunit : isShortUnit unit = false) {v : BitVec 64}
    {native : Scalar}
    (hnative : (Scalar.of (.time64 unit) v).cast (.time64 .microsecond) = .ok native)
    {text : String} (htext : (Scalar.ofText text).cast (.time64 unit) = .ok (.of (.time64 unit) v))
    {literal : Literal} (hliteral : literalOfText? .time text = some literal) :
    ReadsNative .time literal native := by
  obtain ⟨rfl, nanos, hlt, hv, hreads⟩ := readTime_of_literal hunit htext hliteral
  rw [Scalar.cast_time hunit rfl, Scalar.map_of_eq_ok] at hnative
  obtain ⟨w, hw, rfl⟩ := hnative
  have hsame : w = BitVec.ofNat 64 (nanos / (nanosPerSecond / TimeUnit.microsecond.perSecond)) := by
    rw [← BitVec.ofInt_toInt (x := w), promised_eq_ok.mp hw, hv]
    cases unit <;> cases hunit
    · exact (congrArg (BitVec.ofInt 64) (Int.mul_one _)).trans (BitVec.ofInt_natCast _ _)
    · have hquotient : (nanos / 1 : Nat) / 1000 = nanos / 1000 := by rw [Nat.div_one]
      show BitVec.ofInt 64 (Int.tdiv (nanos / 1 : Nat) (1000 : Nat)) = _
      rw [← Int.ofNat_tdiv, hquotient, BitVec.ofInt_natCast]
      rfl
  refine ⟨trivial, _, Scalar.cast_self rfl, ?_⟩
  show ((Scalar.ofText text).cast (.time64 .microsecond)).mapError _ = _
  rw [Scalar.cast_ofText_time rfl, hreads, hsame]
  rfl

/-- Whether a value, if it is a time of day of microseconds, is one of the moments of a day. -/
def IsMoment (s : Scalar) : Prop :=
  ∀ v, s = .of (.time64 .microsecond) v → 0 ≤ v.toInt ∧ v.toInt < 86400000000

/-- A time of day has a text only if its seconds lie in a day, as far as they fit 32 bits. -/
theorem lt_of_clockOf? {unit : TimeUnit} {n : Int} {c : Clock} (h : clockOf? unit n = some c)
    (hlow : 0 ≤ n) (hhigh : n < 4294967296 * unit.perSecond) : n < 86400 * unit.perSecond := by
  simp only [clockOf?] at h
  split at h
  · next hday =>
    have hseconds : (n.tdiv unit.perSecond % 4294967296).toNat < 86400 := hday.2
    have hpos : (0 : Int) < unit.perSecond := by cases unit <;> decide
    rw [Int.tdiv_eq_ediv_of_nonneg hlow] at hseconds
    have hquotient := Int.ediv_nonneg hlow hpos.le
    have hlt : n / unit.perSecond < 4294967296 := Int.ediv_lt_of_lt_mul hpos hhigh
    rw [Int.emod_eq_of_lt hquotient hlt] at hseconds
    refine (Int.ediv_lt_iff_lt_mul hpos).mp ?_
    omega
  · cases h

theorem clockOf?_of_writePlain {unit : TimeUnit} {v : BitVec 64} {text : String}
    (h : writePlain (.of (.time64 unit) v) = .ok text) : ∃ c, clockOf? unit v.toInt = some c := by
  have hcast : Scalar.cast ⟨.time64 unit, some v⟩ .utf8 =
      (wholeText (temporalText (.time64 unit) v.toInt ((clockOf? unit v.toInt).map Clock.text))).map
        (Scalar.of .utf8) := by
    have hstorable : isStorable (.time64 unit) = true := rfl
    refine Scalar.cast_of (a := .time64 unit) (b := .utf8) (by simp) trivial trivial hstorable rfl
      (f := fun v ↦ wholeText (temporalText (.time64 unit) v.toInt
        ((clockOf? unit v.toInt).map Clock.text))) rfl v
  cases hclock : clockOf? unit v.toInt with
  | some c => exact ⟨c, rfl⟩
  | none =>
    rw [hclock] at hcast
    simp only [writePlain, Scalar.of, Scalar.castTo, hcast] at h
    cases h

theorem isMoment_of_text {unit : TimeUnit} (hunit : isShortUnit unit = false) {v : BitVec 64}
    {native : Scalar}
    (hnative : (Scalar.of (.time64 unit) v).cast (.time64 .microsecond) = .ok native)
    {written text : String} (hwritten : writePlain (.of (.time64 unit) v) = .ok written)
    (htext : (Scalar.ofText text).cast (.time64 unit) = .ok (.of (.time64 unit) v))
    {literal : Literal} (hliteral : literalOfText? .time text = some literal) :
    IsMoment native := by
  obtain ⟨-, nanos, hlt, hv, -⟩ := readTime_of_literal hunit htext hliteral
  obtain ⟨c, hclock⟩ := clockOf?_of_writePlain hwritten
  rw [Scalar.cast_time hunit rfl, Scalar.map_of_eq_ok] at hnative
  obtain ⟨w, hw, rfl⟩ := hnative
  rintro _ ⟨⟩
  rw [promised_eq_ok.mp hw]
  have hcount : (nanos / (nanosPerSecond / unit.perSecond) : Nat) ≤ nanos := Nat.div_le_self _ _
  have hlow : 0 ≤ v.toInt := by
    rw [hv]
    exact Int.natCast_nonneg _
  -- what was read has seconds of 32 bits, so that writing cannot take it for another time
  cases unit <;> cases hunit
  · have hhigh : v.toInt < 4294967296 * 1000000 := by omega
    have hday : v.toInt < 86400 * 1000000 := lt_of_clockOf? hclock hlow hhigh
    rw [rescaleTime_self]
    exact ⟨hlow, hday⟩
  · have hhigh : v.toInt < 4294967296 * 1000000000 := by omega
    have hday : v.toInt < 86400 * 1000000000 := lt_of_clockOf? hclock hlow hhigh
    have hquotient : rescaleTime .nanosecond .microsecond v.toInt = v.toInt / 1000 :=
      Int.tdiv_eq_ediv_of_nonneg hlow
    rw [hquotient]
    omega

/-! ## Timestamps -/

theorem stampOf_eq_ok {unit : TimeUnit} (hunit : unit ≠ .second) {d : DateTime} {v : BitVec 64} :
    stampOf unit d = .ok v ↔ ∃ whole : BitVec 64, whole.toInt = d.seconds * unit.perSecond ∧
      v.toInt = whole.toInt + (d.clock.nano / (nanosPerSecond / unit.perSecond) : Nat) := by
  simp only [stampOf, toInt64, if_neg hunit]
  exact bind_eq_ok.trans (exists_congr fun whole ↦ and_congr toWord_eq_ok toWord_eq_ok)

/-- A date and time whose count of nanoseconds is one of microseconds has the one of microseconds
for its timestamp. -/
theorem stampOf_microsecond {d : DateTime} {v n : BitVec 64}
    (hv : stampOf .nanosecond d = .ok v) (hn : v.toInt = n.toInt * 1000) :
    stampOf .microsecond d = .ok n := by
  obtain ⟨whole, hwhole, hsum⟩ := (stampOf_eq_ok (by decide)).mp hv
  have hlow := whole.le_toInt
  have hhigh := whole.toInt_lt
  simp only [TimeUnit.perSecond, nanosPerSecond] at hwhole hsum
  have hseconds : (BitVec.ofInt 64 (d.seconds * 1000000)).toInt = d.seconds * 1000000 :=
    BitVec.toInt_ofInt_eq_self (by decide) (by omega) (by omega)
  refine (stampOf_eq_ok (by decide)).mpr ⟨_, hseconds, ?_⟩
  simp only [TimeUnit.perSecond, nanosPerSecond]
  omega

/-- Which separator stands behind a date makes no difference to the reader of instants. -/
theorem readInstant?_separator (zone : Zone) {date : List Char} (hlength : date.length = 10)
    {separator : Char} (hseparator : isInstantSeparator separator = true) (time : List Char) :
    readInstant? zone (date ++ separator :: time) = readInstant? zone (date ++ ' ' :: time) := by
  simp only [readInstant?, ← hlength, List.take_left, List.drop_left, hseparator]
  rfl

theorem readInstant?_unslashed {cs stamp : List Char} (h : plainStamp? cs = some stamp)
    (zone : Zone) : readInstant? zone (unslashed stamp) = readInstant? zone cs := by
  obtain ⟨date, separator, time, rfl, hlength, hseparator, hunslashed⟩ := plainStamp?_eq_some h
  have hinstant : isInstantSeparator separator = true := by
    rcases hseparator with rfl | rfl <;> rfl
  rw [hunslashed, readInstant?_separator zone hlength hinstant]

theorem readsNative_stamp {unit : TimeUnit} (hunit : unit = .microsecond ∨ unit = .nanosecond)
    {v : BitVec 64} {native : Scalar}
    (hnative : (Scalar.of (.timestamp unit none) v).cast (.timestamp .microsecond none) =
      .ok native)
    (hback : native.cast (.timestamp unit none) = .ok (.of (.timestamp unit none) v))
    {text : String}
    (htext : (Scalar.ofText text).cast (.timestamp unit none) =
      .ok (.of (.timestamp unit none) v))
    {literal : Literal} (hliteral : literalOfText? .dateTime text = some literal) :
    ReadsNative .dateTime literal native := by
  obtain ⟨stamp, hstamp, rfl⟩ := Option.map_eq_some_iff.mp hliteral
  rw [Scalar.cast_ofText_stamp, Scalar.map_of_eq_ok] at htext
  obtain ⟨w, hread, hw⟩ := htext
  cases hw
  rw [Scalar.cast_stamp, Scalar.map_of_eq_ok] at hnative
  obtain ⟨n, hn, rfl⟩ := hnative
  rw [Scalar.cast_stamp, Scalar.map_of_eq_ok] at hback
  obtain ⟨w, hw, hv⟩ := hback
  cases hv
  have hstampOf : readStamp .microsecond none (unslashed stamp) = .ok n := by
    simp only [readStamp, Option.getD_none] at hread ⊢
    rw [readInstant?_unslashed hstamp]
    cases hd : readInstant? .universal text.toList with
    | none => rw [hd] at hread; cases hread
    | some d =>
      rw [hd] at hread
      rcases hunit with rfl | rfl
      · have hself : n.toInt = v.toInt := ((@toWord_eq_ok .w64 _ _).mp hn).trans (Int.mul_one _)
        rw [BitVec.toInt_inj.mp hself]
        exact hread
      · exact stampOf_microsecond hread ((@toWord_eq_ok .w64 _ _).mp hw)
  refine ⟨trivial, _, Scalar.cast_self rfl, ?_⟩
  show ((Scalar.ofText (String.ofList (unslashed (String.ofList stamp).toList))).cast
    (.timestamp .microsecond none)).mapError _ = _
  rw [Scalar.cast_ofText_stamp, String.toList_ofList, String.toList_ofList, hstampOf]
  rfl

/-! ## All types -/

/-- **A literal is read as the value that the field holds**, if its text is one that the column
reads back as the constant and the constant survives the way to the field. -/
theorem readsNative_of_text {type : FieldType} {column : DataType}
    (hlossless : readsLosslessly type column = true) {v : column.Carrier} {native : Scalar}
    (hnative : roundTrip? (.of column v) type.native = some native) {text : String}
    (htext : (Scalar.ofText text).cast column = .ok (.of column v)) {literal : Literal}
    (hliteral : literalOfText? type text = some literal) : ReadsNative type literal native := by
  obtain ⟨hthere, -, hback⟩ := roundTrip?_eq_some hnative
  unfold readsLosslessly at hlossless
  split at hlossless
  · exact readsNative_integer (Or.inl ⟨rfl, rfl⟩) hthere htext hliteral
  · exact readsNative_integer (Or.inl ⟨rfl, rfl⟩) hthere htext hliteral
  · exact readsNative_integer (Or.inr ⟨rfl, rfl⟩) hthere htext hliteral
  · have hself : (Scalar.of .float64 v).cast .float64 = .ok (.of .float64 v) := Scalar.cast_self rfl
    cases hself.symm.trans hthere
    exact readsNative_real htext hliteral
  · exact readsNative_text (Or.inl rfl) hthere htext hliteral
  · exact readsNative_text (Or.inr rfl) hthere htext hliteral
  · have hself : (Scalar.of .date32 v).cast .date32 = .ok (.of .date32 v) := Scalar.cast_self rfl
    cases hself.symm.trans hthere
    exact readsNative_date htext hliteral
  · exact readsNative_time rfl hthere htext hliteral
  · exact readsNative_time rfl hthere htext hliteral
  · exact readsNative_stamp (Or.inl rfl) hthere hback htext hliteral
  · exact readsNative_stamp (Or.inr rfl) hthere hback htext hliteral
  · cases hlossless

/-- A constant with a literal is a moment of a day as a value of a field of times of day. -/
theorem isMoment_of_literalOfText? {type : FieldType} {column : DataType}
    (hlossless : readsLosslessly type column = true) {v : column.Carrier} {native : Scalar}
    (hnative : (Scalar.of column v).cast type.native = .ok native) {written text : String}
    (hwritten : writePlain (.of column v) = .ok written)
    (htext : (Scalar.ofText text).cast column = .ok (.of column v)) {literal : Literal}
    (hliteral : literalOfText? type text = some literal) : IsMoment native := by
  by_cases htime : type = .time
  · subst htime
    cases column with
    | time64 unit =>
      have hunit : isShortUnit unit = false := by
        cases unit <;> first | rfl | cases hlossless
      exact isMoment_of_text hunit hnative hwritten htext hliteral
    | _ => cases hlossless
  · rintro w rfl
    have htype : DataType.time64 .microsecond = type.native := Scalar.type_of_cast hnative
    cases type <;> first | exact absurd rfl htime | cases htype

theorem not_isBinary_of_readsLosslessly {type : FieldType} {column : DataType}
    (h : readsLosslessly type column = true) : column.isBinary = false := by
  unfold readsLosslessly at h
  split at h <;> first | rfl | cases h

/-- What a column and a constant are like that have a literal. -/
structure LiteralOf (encoding : Encoding) (column : Catalog.Column) (field : Layer.Field)
    (constant : Scalar) (literal : Literal) : Prop where
  lossless : readsLosslessly field.type column.type.storage = true
  family : Family.of constant.type = Family.of column.type.storage
  notNull : constant.isNull = false
  writable : isWritable encoding literal = true
  /-- The constant as a value of the column and of the field, and what the literal is read as. -/
  value : ∃ value native, roundTrip? constant column.type.storage = some value ∧
    roundTrip? value field.type.native = some native ∧ ReadsNative field.type literal native ∧
    IsMoment native

theorem literalOf_of_literal? {encoding : Encoding} {column : Catalog.Column}
    {field : Layer.Field} {constant : Scalar} {literal : Literal}
    (hconversion : ∃ c, column.conversion = some c ∧ c.type = column.type)
    (hplain : column.type.isGeometry = false)
    (h : literal? encoding column field constant = some literal) :
    LiteralOf encoding column field constant literal := by
  obtain ⟨c, hc, htype⟩ := hconversion
  simp only [literal?, hc, Option.bind_eq_bind, Option.bind_some] at h
  split at h
  · cases h
  · next hchecks =>
    simp only [Bool.or_eq_true, not_or, Bool.not_eq_true, Bool.not_eq_false', bne_eq_false_iff_eq]
      at hchecks
    obtain ⟨⟨hnull, hlossless⟩, hfamily⟩ := hchecks
    simp only [Option.bind_eq_some_iff] at h
    obtain ⟨value, hvalue, native, hnative, text, htext, literal', hliteral, hwritable⟩ := h
    split at hwritable
    · next hw =>
      cases hwritable
      obtain ⟨hthere, hthereNull, -⟩ := roundTrip?_eq_some hvalue
      obtain ⟨v, rfl⟩ := exists_of_cast hthere hthereNull
      -- the text was checked to be read as the same value again
      have hread : (Scalar.ofText text).cast column.type.storage =
          .ok (.of column.type.storage v) := by
        have hstable := (stableText?_eq_some htext).2
        simp only [Conversion.read, htype, hplain, readPlain,
          not_isBinary_of_readsLosslessly hlossless, Bool.false_eq_true, if_false,
          Scalar.castTo] at hstable
        exact mapError_eq_ok.mp hstable
      have hwritten : writePlain (.of column.type.storage v) = .ok text := by
        have hwrite := (stableText?_eq_some htext).1
        rwa [Conversion.write, htype, hplain] at hwrite
      exact ⟨hlossless, hfamily, hnull, hw, _, native, hvalue, hnative,
        readsNative_of_text hlossless hnative hread hliteral,
        isMoment_of_literalOfText? hlossless (roundTrip?_eq_some hnative).1 hwritten hread hliteral⟩
    · cases hwritable

end ForeignLayer.Predicate
