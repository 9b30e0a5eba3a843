import ForeignLayer.Column.Conversion
import Mathlib.Algebra.Group.Nat.Even
import Mathlib.Tactic.IntervalCases

/-!
# Texts of bytes

Bytes are written as a mark and two digits for each byte, the digits in lower case, and what is
written is read as the same bytes. A text is read in pairs of characters, whether it has the mark or
not. The second of a pair has to be a digit, of either case, but the first may also be a plus sign,
which counts as zero.

So a text without such a sign is read exactly if it consists of an even number of digits, and is
then written again with its digits in lower case. A text with one is read as well, although it has
something else than digits, and the sign is written as a zero.
-/

namespace ForeignLayer

open Bytes Column

/-! ## Digits -/

namespace Bytes

/-- Whether a character is a hexadecimal digit, of either case. -/
def IsHexDigit (c : Char) : Prop :=
  '0' ≤ c ∧ c ≤ '9' ∨ 'a' ≤ c ∧ c ≤ 'f' ∨ 'A' ≤ c ∧ c ≤ 'F'

theorem exists_hexValue? {c : Char} : (∃ n, hexValue? c = some n) ↔ IsHexDigit c := by
  rw [hexValue?, IsHexDigit]
  split_ifs with hnumber hlower hupper <;> simp [*]

theorem toNat_lt_of_isHexDigit {c : Char} (h : IsHexDigit c) : c.toNat < 128 := by
  rcases h with h | h | h <;> exact Nat.lt_of_le_of_lt (UInt32.le_iff_toNat_le.mp h.2) (by decide)

private theorem hexDigit_table : ∀ k < 128, ∀ n ∈ hexValue? (Char.ofNat k),
    n < 16 ∧ hexDigit n = (Char.ofNat k).toLower := by
  decide

theorem hexDigit_of_hexValue? {c : Char} {n : Nat} (h : hexValue? c = some n) :
    n < 16 ∧ hexDigit n = c.toLower := by
  have hc := toNat_lt_of_isHexDigit (exists_hexValue?.mp ⟨n, h⟩)
  rw [← Char.ofNat_toNat c] at h ⊢
  exact hexDigit_table c.toNat hc n h

theorem hexValue?_hexDigit {n : Nat} (h : n < 16) : hexValue? (hexDigit n) = some n := by
  interval_cases n <;> rfl

end Bytes

/-! ## Pairs of characters -/

/-- Pairs of a digit or a plus sign and a digit. -/
inductive Paired : List Char → Prop
  | nil : Paired []
  | cons {a b : Char} {cs : List Char} (ha : IsHexDigit a ∨ a = '+') (hb : IsHexDigit b)
      (hcs : Paired cs) : Paired (a :: b :: cs)

/-- The digit that a character of a pair is written as: in lower case, and zero for a sign. -/
def settledDigit (c : Char) : Char := if c = '+' then '0' else c.toLower

theorem ne_plus_of_isHexDigit {c : Char} (h : IsHexDigit c) : c ≠ '+' := by
  rintro rfl
  obtain ⟨n, hn⟩ := exists_hexValue?.mpr h
  exact Option.some_ne_none n (hn.symm.trans rfl)

theorem settledDigit_of_isHexDigit {c : Char} (h : IsHexDigit c) : settledDigit c = c.toLower :=
  if_neg (ne_plus_of_isHexDigit h)

theorem hexPair_ofNat {high low : Nat} (hhigh : high < 16) (hlow : low < 16) :
    hexPair (UInt8.ofNat (high * 16 + low)) = [hexDigit high, hexDigit low] := by
  have hbyte : (UInt8.ofNat (high * 16 + low)).toNat = high * 16 + low :=
    UInt8.toNat_ofNat_of_lt (by rw [UInt8.size]; omega)
  have hdiv : (high * 16 + low) / 16 = high := by omega
  have hmod : (high * 16 + low) % 16 = low := by omega
  rw [hexPair, hbyte, hdiv, hmod]

theorem hexByte?_eq (a b : Char) :
    hexByte? a b = (hexValue? b).bind fun low ↦
      (if a = '+' then some 0 else hexValue? a).map fun high ↦ UInt8.ofNat (high * 16 + low) := by
  rw [hexByte?]
  refine Option.bind_congr fun low _ ↦ ?_
  by_cases hplus : a = '+'
  · rw [if_pos hplus, if_pos hplus]
    rfl
  · rw [if_neg hplus, if_neg hplus]
    exact bind_pure_comp _ (hexValue? a)

/-- The first of a pair is a digit or a sign, the second a digit, and the byte is written in the
digits that these stand for. -/
theorem hexByte?_eq_some {a b : Char} {x : UInt8} (h : hexByte? a b = some x) :
    (IsHexDigit a ∨ a = '+') ∧ IsHexDigit b ∧ hexPair x = [settledDigit a, settledDigit b] := by
  rw [hexByte?_eq] at h
  obtain ⟨low, hlow, hbyte⟩ := Option.bind_eq_some_iff.mp h
  obtain ⟨high, hhigh, rfl⟩ := Option.map_eq_some_iff.mp hbyte
  obtain ⟨hlt, hdigit⟩ := hexDigit_of_hexValue? hlow
  have hb : IsHexDigit b := exists_hexValue?.mp ⟨low, hlow⟩
  by_cases hplus : a = '+'
  · subst hplus
    obtain rfl : 0 = high := Option.some.inj hhigh
    refine ⟨.inr rfl, hb, ?_⟩
    rw [hexPair_ofNat (by decide) hlt, hdigit, settledDigit_of_isHexDigit hb]
    rfl
  · rw [if_neg hplus] at hhigh
    obtain ⟨hlt', hdigit'⟩ := hexDigit_of_hexValue? hhigh
    have ha : IsHexDigit a := exists_hexValue?.mp ⟨high, hhigh⟩
    refine ⟨.inl ha, hb, ?_⟩
    rw [hexPair_ofNat hlt' hlt, hdigit, hdigit', settledDigit_of_isHexDigit ha,
      settledDigit_of_isHexDigit hb]

theorem exists_hexByte? {a b : Char} (ha : IsHexDigit a ∨ a = '+') (hb : IsHexDigit b) :
    ∃ x, hexByte? a b = some x := by
  obtain ⟨low, hlow⟩ := exists_hexValue?.mpr hb
  have hhigh : ∃ high, (if a = '+' then some 0 else hexValue? a) = some high := by
    rcases ha with ha | rfl
    · rw [if_neg (ne_plus_of_isHexDigit ha)]
      exact exists_hexValue?.mpr ha
    · exact ⟨0, rfl⟩
  obtain ⟨high, hhigh⟩ := hhigh
  exact ⟨UInt8.ofNat (high * 16 + low), by rw [hexByte?_eq, hlow, hhigh]; rfl⟩

namespace Paired

variable {cs : List Char}

theorem even_length (h : Paired cs) : Even cs.length := by
  induction h with
  | nil => exact Even.zero
  | cons ha hb hcs ih => exact ih.add even_two

theorem isHexDigit_or (h : Paired cs) : ∀ c ∈ cs, IsHexDigit c ∨ c = '+' := by
  induction h with
  | nil => exact fun c hc ↦ absurd hc List.not_mem_nil
  | cons ha hb hcs ih => exact List.forall_mem_cons.mpr ⟨ha, List.forall_mem_cons.mpr ⟨.inl hb, ih⟩⟩

theorem all_isAscii (h : Paired cs) : cs.all Text.isAscii = true := by
  rw [List.all_eq_true]
  intro c hc
  refine decide_eq_true ?_
  rcases h.isHexDigit_or c hc with hdigit | rfl
  · exact toNat_lt_of_isHexDigit hdigit
  · decide

theorem exists_hexBytes? (h : Paired cs) : ∃ bs, hexBytes? cs = some bs := by
  induction h with
  | nil => exact ⟨[], rfl⟩
  | cons ha hb hcs ih =>
    obtain ⟨x, hx⟩ := exists_hexByte? ha hb
    obtain ⟨bs, hbs⟩ := ih
    exact ⟨x :: bs, by simp [hexBytes?, hx, hbs]⟩

/-- An even number of digits is made of pairs. -/
theorem of_isHexDigit (heven : Even cs.length) (hdigits : ∀ c ∈ cs, IsHexDigit c) : Paired cs := by
  fun_induction hexBytes? cs with
  | case1 a b rest ih =>
    rw [List.length_cons, List.length_cons, Nat.even_add_one, Nat.even_add_one, not_not] at heven
    rw [List.forall_mem_cons, List.forall_mem_cons] at hdigits
    exact .cons (.inl hdigits.1) hdigits.2.1 (ih heven hdigits.2.2)
  | case2 cs hshort =>
    rcases cs with _ | ⟨a, _ | ⟨b, rest⟩⟩
    · exact .nil
    · exact absurd heven Nat.not_even_one
    · exact absurd rfl (hshort a b rest)

end Paired

/-- What is read in pairs is made of them, and the bytes are written in the digits that the pairs
stand for. -/
theorem hexBytes?_eq_some {cs : List Char} {bs : List UInt8} (heven : Even cs.length)
    (h : hexBytes? cs = some bs) : Paired cs ∧ hexText bs = cs.map settledDigit := by
  fun_induction hexBytes? cs generalizing bs with
  | case1 a b rest ih =>
    rw [List.length_cons, List.length_cons, Nat.even_add_one, Nat.even_add_one, not_not] at heven
    simp only [Option.bind_eq_bind, Option.bind_eq_some_iff, Option.pure_def,
      Option.some.injEq] at h
    obtain ⟨x, hx, others, hothers, rfl⟩ := h
    obtain ⟨ha, hb, hpair⟩ := hexByte?_eq_some hx
    obtain ⟨hrest, htext⟩ := ih heven hothers
    refine ⟨.cons ha hb hrest, ?_⟩
    rw [hexText, List.flatMap_cons, ← hexText, hpair, htext]
    rfl
  | case2 cs hshort =>
    rcases cs with _ | ⟨a, _ | ⟨b, rest⟩⟩
    · obtain rfl := Option.some.inj h
      exact ⟨.nil, rfl⟩
    · exact absurd heven Nat.not_even_one
    · exact absurd rfl (hshort a b rest)

theorem hexByte?_hexPair (b : UInt8) :
    hexByte? (hexDigit (b.toNat / 16)) (hexDigit (b.toNat % 16)) = some b := by
  have hlt := b.toNat_lt
  have hhigh := hexValue?_hexDigit (n := b.toNat / 16) (by omega)
  have hlow := hexValue?_hexDigit (n := b.toNat % 16) (by omega)
  have hplus := ne_plus_of_isHexDigit (exists_hexValue?.mp ⟨_, hhigh⟩)
  rw [hexByte?_eq, hlow, if_neg hplus, hhigh]
  show some (UInt8.ofNat (b.toNat / 16 * 16 + b.toNat % 16)) = some b
  rw [Nat.div_add_mod', UInt8.ofNat_toNat]

theorem hexBytes?_hexText (bs : List UInt8) : hexBytes? (hexText bs) = some bs := by
  induction bs with
  | nil => rfl
  | cons b bs ih =>
    rw [hexText, List.flatMap_cons, ← hexText, hexPair, List.cons_append, List.cons_append,
      List.nil_append, hexBytes?, hexByte?_hexPair, ih]
    rfl

theorem hexText_eq_map (bs : List UInt8) :
    Paired (hexText bs) ∧ hexText bs = (hexText bs).map settledDigit := by
  refine hexBytes?_eq_some ?_ (hexBytes?_hexText bs)
  induction bs with
  | nil => exact Even.zero
  | cons b bs ih => exact ih.add even_two

/-! ## Texts -/

/-- The characters of a text without its mark, if it has one. -/
def digitsOf (text : String) : List Char :=
  if hexMark <+: text.toList then text.toList.drop hexMark.length else text.toList

theorem digitsOf_writeHex (bs : List UInt8) : digitsOf (writeHex bs) = hexText bs := by
  rw [digitsOf, writeHex, String.toList_ofList, if_pos (List.prefix_append _ _)]
  exact List.drop_left

theorem readHex_eq (text : String) : readHex text =
    if !(digitsOf text).all Text.isAscii || (digitsOf text).length % 2 ≠ 0 then
      .error (.hexText text)
    else (hexBytes? (digitsOf text)).elim (.error .hexDigit) .ok := by
  unfold readHex
  split
  · next digits htext =>
    have hmarked : hexMark <+: text.toList := ⟨digits, htext.symm⟩
    have hdigits : digitsOf text = digits := by
      rw [digitsOf, if_pos hmarked, htext]
      rfl
    rw [hdigits]
    dsimp only
    cases hexBytes? digits <;> rfl
  · next hunmarked =>
    have hdigits : digitsOf text = text.toList := by
      rw [digitsOf, if_neg]
      rintro ⟨digits, hmarked⟩
      exact hunmarked digits hmarked.symm
    rw [hdigits]
    dsimp only
    cases hexBytes? text.toList <;> rfl

/-- **A text is read exactly if its characters are pairs**, and the bytes are written in the digits
that the pairs stand for. -/
theorem readHex_eq_ok {text : String} {bs : List UInt8} :
    readHex text = .ok bs ↔
      Paired (digitsOf text) ∧ hexText bs = (digitsOf text).map settledDigit := by
  rw [readHex_eq]
  constructor
  · intro h
    split_ifs at h with hrefused
    rw [Bool.or_eq_true, not_or, decide_eq_true_eq, not_not] at hrefused
    have heven : Even (digitsOf text).length := Nat.even_iff.mpr hrefused.2
    cases hread : hexBytes? (digitsOf text) with
    | none =>
      rw [hread] at h
      cases h
    | some bs' =>
      rw [hread] at h
      obtain rfl := Except.ok.inj h
      exact hexBytes?_eq_some heven hread
  · rintro ⟨hpaired, htext⟩
    obtain ⟨bs', hread⟩ := hpaired.exists_hexBytes?
    have hsame : hexText bs' = hexText bs :=
      (hexBytes?_eq_some hpaired.even_length hread).2.trans htext.symm
    obtain rfl : bs' = bs := by
      refine Option.some.inj ?_
      rw [← hexBytes?_hexText, hsame, hexBytes?_hexText]
    rw [if_neg, hread, Option.elim_some]
    rw [hpaired.all_isAscii, Nat.even_iff.mp hpaired.even_length]
    decide

/-! ## Columns of bytes -/

namespace Conversion

/-- The conversions of a column of bytes. -/
def ofBytes (storage : Storage) : Conversion := ⟨.plain (.binary storage), rfl⟩

variable {storage : Storage} {text : String}

theorem read_ofBytes (storage : Storage) (text : String) :
    (ofBytes storage).read text (.binary storage) =
      (readHex text).map (Scalar.of (.binary storage)) := by
  show (do Scalar.ofBytes (← readHex text) (.binary storage)) = _
  cases readHex text with
  | error fault => rfl
  | ok bs => rfl

theorem write_ofBytes (storage : Storage) (bs : List UInt8) :
    (ofBytes storage).write (.of (.binary storage) bs) = .ok (writeHex bs) := rfl

/-- Whether a column of bytes takes a text exactly if it is made of the digits of whole bytes, and
then writes it again with its digits in lower case. -/
structure ReadsDigits (storage : Storage) (text : String) : Prop where
  reads : (∃ s, (ofBytes storage).read text (.binary storage) = .ok s) ↔
    Even (digitsOf text).length ∧ ∀ c ∈ digitsOf text, IsHexDigit c
  writes : ∀ s, (ofBytes storage).read text (.binary storage) = .ok s →
    (ofBytes storage).write s =
      .ok (String.ofList (hexMark ++ (digitsOf text).map Char.toLower))

/-- Whether a text is made of pairs of which one starts with a plus sign. -/
structure IsSigned (text : String) : Prop where
  paired : Paired (digitsOf text)
  plus : '+' ∈ digitsOf text

theorem read_ofBytes_eq_ok {s : Scalar} :
    (ofBytes storage).read text (.binary storage) = .ok s ↔
      ∃ bs, readHex text = .ok bs ∧ s = .of (.binary storage) bs := by
  rw [read_ofBytes]
  rcases readHex text with fault | bs
  · constructor
    · rintro ⟨⟩
    · rintro ⟨bs, ⟨⟩, -⟩
  · constructor
    · rintro ⟨⟩
      exact ⟨bs, rfl, rfl⟩
    · rintro ⟨_, ⟨⟩, rfl⟩
      rfl

theorem exists_read_ofBytes :
    (∃ s, (ofBytes storage).read text (.binary storage) = .ok s) ↔ Paired (digitsOf text) := by
  constructor
  · rintro ⟨s, hs⟩
    obtain ⟨bs, hbs, -⟩ := read_ofBytes_eq_ok.mp hs
    exact (readHex_eq_ok.mp hbs).1
  · intro hpaired
    obtain ⟨bs, hbs⟩ := hpaired.exists_hexBytes?
    have htext := (hexBytes?_eq_some hpaired.even_length hbs).2
    exact ⟨_, read_ofBytes_eq_ok.mpr ⟨bs, readHex_eq_ok.mpr ⟨hpaired, htext⟩, rfl⟩⟩

theorem readsDigits_of_not_isSigned (h : ¬ IsSigned text) : ReadsDigits storage text := by
  have hdigits (hpaired : Paired (digitsOf text)) : ∀ c ∈ digitsOf text, IsHexDigit c := by
    intro c hc
    rcases hpaired.isHexDigit_or c hc with hdigit | rfl
    · exact hdigit
    · exact absurd ⟨hpaired, hc⟩ h
  constructor
  · rw [exists_read_ofBytes]
    constructor
    · intro hpaired
      exact ⟨hpaired.even_length, hdigits hpaired⟩
    · rintro ⟨heven, hall⟩
      exact .of_isHexDigit heven hall
  · intro s hs
    obtain ⟨bs, hbs, rfl⟩ := read_ofBytes_eq_ok.mp hs
    obtain ⟨hpaired, htext⟩ := readHex_eq_ok.mp hbs
    rw [write_ofBytes, writeHex, htext]
    have hlower : (digitsOf text).map settledDigit = (digitsOf text).map Char.toLower :=
      List.map_congr_left fun c hc ↦ settledDigit_of_isHexDigit (hdigits hpaired c hc)
    rw [hlower]

/-- **What a column of bytes writes is read as the same bytes, and it takes exactly the texts of
digits, unless a plus sign stands where a byte starts.** -/
theorem readsDigits_iff (storage : Storage) :
    (∀ bs, ∃ text, (ofBytes storage).write (.of (.binary storage) bs) = .ok text ∧
      (ofBytes storage).read text (.binary storage) = .ok (.of (.binary storage) bs)) ∧
    ∀ text, ReadsDigits storage text ↔ ¬ IsSigned text := by
  constructor
  · intro bs
    refine ⟨writeHex bs, write_ofBytes storage bs, ?_⟩
    refine read_ofBytes_eq_ok.mpr ⟨bs, readHex_eq_ok.mpr ?_, rfl⟩
    rw [digitsOf_writeHex]
    exact hexText_eq_map bs
  · intro text
    constructor
    · intro hreads hsigned
      have hdigits := (hreads.reads.mp (exists_read_ofBytes.mpr hsigned.paired)).2
      exact ne_plus_of_isHexDigit (hdigits _ hsigned.plus) rfl
    · exact readsDigits_of_not_isSigned

/-- A sign and a digit are read as a byte. -/
theorem not_readsDigits_signed :
    (ofBytes .regular).read "\\x+f" (.binary .regular) = .ok (.of (.binary .regular) [15]) ∧
      ¬ ReadsDigits .regular "\\x+f" := by
  have hread : (ofBytes .regular).read "\\x+f" (.binary .regular) =
      .ok (.of (.binary .regular) [15]) := by
    cbv
  refine ⟨hread, ?_⟩
  intro hreads
  have hplus : '+' ∈ digitsOf "\\x+f" := by decide
  exact ne_plus_of_isHexDigit ((hreads.reads.mp ⟨_, hread⟩).2 _ hplus) rfl

end Conversion

end ForeignLayer
