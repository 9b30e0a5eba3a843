import ForeignLayer.Bytes.Utf8
import Mathlib.Tactic.IntervalCases

/-!
# Texts and their bytes

Reading bytes as text and writing text as bytes are inverse to each other: bytes are read as a text
exactly if they are the bytes of the text. So what is read is valid UTF-8, and nothing else is.

Between the reader, which goes byte by byte, and the writer, which goes character by character,
stands the grammar of the bytes of one character. The first byte settles how many bytes follow, and
the bounds of the second byte are what makes the grammar fit the characters: they leave out just the
longer spellings, the surrogates and what is beyond the last code point.
-/

namespace ForeignLayer.Bytes

/-! ## The grammar of a character -/

/-- The byte of a mark and the bits of a code point behind it. -/
def marked (mark bits : Nat) : UInt8 := UInt8.ofNat (mark + bits)

/-- The bytes of a character and its code point, of which every byte holds some bits. -/
inductive SpellsCode : Nat → List UInt8 → Prop
  | one {x : Nat} (hx : x < 0x80) : SpellsCode x [marked 0 x]
  | two {x y : Nat} (hx : 2 ≤ x ∧ x < 32) (hy : y < 64) :
    SpellsCode (x * 64 + y) [marked 0xC0 x, marked 0x80 y]
  | three {x y z : Nat} (hx : x < 16) (hy : y < 64) (hz : z < 64) (shortest : x = 0 → 32 ≤ y)
    (scalar : x = 13 → y < 32) :
    SpellsCode ((x * 64 + y) * 64 + z) [marked 0xE0 x, marked 0x80 y, marked 0x80 z]
  | four {x y z w : Nat} (hx : x ≤ 4) (hy : y < 64) (hz : z < 64) (hw : w < 64)
    (shortest : x = 0 → 16 ≤ y) (inside : x = 4 → y < 16) :
    SpellsCode (((x * 64 + y) * 64 + z) * 64 + w)
      [marked 0xF0 x, marked 0x80 y, marked 0x80 z, marked 0x80 w]

theorem SpellsCode.isValidChar {code : Nat} {bs : List UInt8} (h : SpellsCode code bs) :
    code.isValidChar := by
  simp only [Nat.isValidChar]
  induction h <;> omega

/-! ## Writing -/

/-- The bytes that are written for a character, by the size of its code point. -/
theorem utf8EncodeChar_eq (c : Char) : String.utf8EncodeChar c =
    if c.toNat ≤ 0x7F then [marked 0 c.toNat]
    else if c.toNat ≤ 0x7FF then [marked 0xC0 (c.toNat / 64 % 32), marked 0x80 (c.toNat % 64)]
    else if c.toNat ≤ 0xFFFF then
      [marked 0xE0 (c.toNat / 4096 % 16), marked 0x80 (c.toNat / 64 % 64),
        marked 0x80 (c.toNat % 64)]
    else
      [marked 0xF0 (c.toNat / 262144 % 8), marked 0x80 (c.toNat / 4096 % 64),
        marked 0x80 (c.toNat / 64 % 64), marked 0x80 (c.toNat % 64)] := by
  simp only [marked, Nat.add_comm _ (_ % _), Nat.zero_add]
  rfl

theorem SpellsCode.eq_utf8EncodeChar {c : Char} {bs : List UInt8} (h : SpellsCode c.toNat bs) :
    bs = String.utf8EncodeChar c := by
  rw [utf8EncodeChar_eq]
  generalize c.toNat = code at h
  induction h with
  | one hx => rw [if_pos (by omega)]
  | two hx hy =>
    rw [if_neg (by omega), if_pos (by omega)]
    congr <;> omega
  | three hx hy hz shortest scalar =>
    rw [if_neg (by omega), if_neg (by omega), if_pos (by omega)]
    congr <;> omega
  | four hx hy hz hw shortest inside =>
    rw [if_neg (by omega), if_neg (by omega), if_neg (by omega)]
    congr <;> omega

private theorem SpellsCode.of_eq {code code' : Nat} {bs : List UInt8} (h : SpellsCode code bs)
    (heq : code = code') : SpellsCode code' bs := heq ▸ h

theorem spellsCode_utf8EncodeChar (c : Char) : SpellsCode c.toNat (String.utf8EncodeChar c) := by
  have hvalid : c.toNat.isValidChar := c.valid
  simp only [Nat.isValidChar] at hvalid
  rw [utf8EncodeChar_eq]
  generalize c.toNat = code at hvalid
  split
  · exact .one (by omega)
  split
  · refine .of_eq (.two ?_ ?_) ?_ <;> omega
  split
  · refine .of_eq (.three ?_ ?_ ?_ ?_ ?_) ?_ <;> omega
  · refine .of_eq (.four ?_ ?_ ?_ ?_ ?_ ?_) ?_ <;> omega

/-! ## Reading -/

theorem toNat_marked {mark bits : Nat} (h : mark + bits < 256) :
    (marked mark bits).toNat = mark + bits := by
  rw [marked, UInt8.toNat_ofNat', Nat.mod_eq_of_lt h]

theorem eq_marked {b : UInt8} {mark bits : Nat} (h : b.toNat = mark + bits) :
    b = marked mark bits := by
  rw [marked, ← h, UInt8.ofNat_toNat]

section Lead

variable {x : Nat}

/-- Whether a byte begins a character with `x`, behind which `count` bytes follow that hold six bits
each, the first of them those that `P` is about. -/
def Leads (a : UInt8) (count x : Nat) (P : Nat → Prop) : Prop :=
  ∃ low high, utf8Lead? a.toNat = some (count, low, high) ∧ utf8LeadBits count a.toNat = x ∧
    (0 < count → 0x80 ≤ low ∧ high ≤ 0xBF) ∧ ∀ y, (low ≤ 0x80 + y ∧ 0x80 + y ≤ high) ↔ P y

theorem leads_one (hx : x < 0x80) : Leads (marked 0 x) 0 x fun _ ↦ False := by
  refine ⟨0, 0, ?_, ?_, nofun, fun y ↦ ?_⟩
  · rw [toNat_marked (by omega), utf8Lead?, if_pos (by omega)]
  · rw [toNat_marked (by omega), utf8LeadBits, Nat.zero_add]
  · simp only [iff_false]
    omega

theorem leads_two (hx : 2 ≤ x ∧ x < 32) : Leads (marked 0xC0 x) 1 x fun y ↦ y < 64 := by
  refine ⟨0x80, 0xBF, ?_, ?_, by omega, fun y ↦ by omega⟩
  · rw [toNat_marked (by omega), utf8Lead?, if_neg (by omega), if_pos (by omega)]
  · rw [toNat_marked (by omega), utf8LeadBits]
    omega

theorem leads_three (hx : x < 16) : Leads (marked 0xE0 x) 2 x fun y ↦
    y < 64 ∧ (x = 0 → 32 ≤ y) ∧ (x = 13 → y < 32) := by
  refine ⟨if x = 0 then 0xA0 else 0x80, if x = 13 then 0x9F else 0xBF, ?_, ?_, ?_, fun y ↦ ?_⟩
  · rw [toNat_marked (by omega)]
    interval_cases x <;> rfl
  · rw [toNat_marked (by omega), utf8LeadBits]
    omega
  all_goals split <;> split <;> omega

theorem leads_four (hx : x ≤ 4) : Leads (marked 0xF0 x) 3 x fun y ↦
    y < 64 ∧ (x = 0 → 16 ≤ y) ∧ (x = 4 → y < 16) := by
  refine ⟨if x = 0 then 0x90 else 0x80, if x = 4 then 0x8F else 0xBF, ?_, ?_, ?_, fun y ↦ ?_⟩
  · rw [toNat_marked (by omega)]
    interval_cases x <;> rfl
  · rw [toNat_marked (by omega)]
    show (0xF0 + x) % 8 = x
    omega
  all_goals split <;> split <;> omega

/-- There are no other first bytes. -/
theorem exists_of_utf8Lead? {a : UInt8} {lead : Nat × Nat × Nat}
    (h : utf8Lead? a.toNat = some lead) :
    (∃ x, x < 0x80 ∧ a = marked 0 x) ∨ (∃ x, (2 ≤ x ∧ x < 32) ∧ a = marked 0xC0 x) ∨
      (∃ x, x < 16 ∧ a = marked 0xE0 x) ∨ ∃ x, x ≤ 4 ∧ a = marked 0xF0 x := by
  have hrange : a.toNat < 0x80 ∨ (0xC2 ≤ a.toNat ∧ a.toNat ≤ 0xDF) ∨
      (0xE0 ≤ a.toNat ∧ a.toNat ≤ 0xEF) ∨ (0xF0 ≤ a.toNat ∧ a.toNat ≤ 0xF4) := by
    by_contra hout
    have hnone : utf8Lead? a.toNat = none := by
      unfold utf8Lead?
      repeat rw [if_neg (by omega)]
    rw [hnone] at h
    cases h
  rcases hrange with hone | htwo | hthree | hfour
  · exact .inl ⟨a.toNat, hone, eq_marked (by omega)⟩
  · exact .inr (.inl ⟨a.toNat - 0xC0, by omega, eq_marked (by omega)⟩)
  · exact .inr (.inr (.inl ⟨a.toNat - 0xE0, by omega, eq_marked (by omega)⟩))
  · exact .inr (.inr (.inr ⟨a.toNat - 0xF0, by omega, eq_marked (by omega)⟩))

end Lead

section Reading

variable {index seen code n : Nat} {a : UInt8} {bs rest : List UInt8}

theorem utf8Tail_zero_eq_ok {low high : Nat} :
    utf8Tail index 0 low high seen code bs = .ok (n, rest) ↔ n = code ∧ bs = rest := by
  simp [utf8Tail, eq_comm]

/-- A byte behind the first one holds six bits within bounds. -/
theorem utf8Tail_succ_eq_ok {low high count : Nat} (hlow : 0x80 ≤ low) (hhigh : high ≤ 0xBF) :
    utf8Tail index (count + 1) low high seen code bs = .ok (n, rest) ↔
      ∃ y bs', (low ≤ 0x80 + y ∧ 0x80 + y ≤ high) ∧ bs = marked 0x80 y :: bs' ∧
        utf8Tail index count 0x80 0xBF (seen + 1) (code * 64 + y) bs' = .ok (n, rest) := by
  constructor
  · intro h
    rcases bs with _ | ⟨b, bs⟩
    · cases h
    · by_cases hb : low ≤ b.toNat ∧ b.toNat ≤ high
      · refine ⟨b.toNat - 0x80, bs, by omega, ?_, ?_⟩
        · rw [← eq_marked (b := b) (by omega)]
        · rw [utf8Tail, if_pos hb] at h
          rwa [show b.toNat - 0x80 = b.toNat % 64 by omega]
      · rw [utf8Tail, if_neg hb] at h
        cases h
  · rintro ⟨y, bs, hy, rfl, h⟩
    rw [utf8Tail, toNat_marked (by omega), if_pos hy, show (0x80 + y) % 64 = y by omega]
    exact h

theorem utf8Tail_free_eq_ok {count : Nat} :
    utf8Tail index (count + 1) 0x80 0xBF seen code bs = .ok (n, rest) ↔
      ∃ y bs', y < 64 ∧ bs = marked 0x80 y :: bs' ∧
        utf8Tail index count 0x80 0xBF (seen + 1) (code * 64 + y) bs' = .ok (n, rest) := by
  rw [utf8Tail_succ_eq_ok (by omega) (by omega)]
  simp only [show ∀ y, (0x80 ≤ 0x80 + y ∧ 0x80 + y ≤ 0xBF) ↔ y < 64 by omega]

/-- Whether the bytes behind a first byte are read as those of a character. -/
def ReadsCode (index : Nat) (a : UInt8) (tail : List UInt8) (code : Nat) (rest : List UInt8) :
    Prop :=
  ∃ count low high, utf8Lead? a.toNat = some (count, low, high) ∧
    utf8Tail index count low high 1 (utf8LeadBits count a.toNat) tail = .ok (code, rest)

theorem Leads.readsCode_zero {x : Nat} {P : Nat → Prop} (ha : Leads a 0 x P) :
    ReadsCode index a bs code rest ↔ code = x ∧ bs = rest := by
  obtain ⟨low, high, hlead, rfl, -, -⟩ := ha
  simp only [ReadsCode, hlead, Option.some.injEq, Prod.mk.injEq]
  constructor
  · rintro ⟨_, _, _, ⟨rfl, -, -⟩, h⟩
    exact utf8Tail_zero_eq_ok.mp h
  · intro h
    exact ⟨_, _, _, ⟨rfl, rfl, rfl⟩, utf8Tail_zero_eq_ok.mpr h⟩

theorem Leads.readsCode_succ {x count : Nat} {P : Nat → Prop} (ha : Leads a (count + 1) x P) :
    ReadsCode index a bs code rest ↔ ∃ y bs', P y ∧ bs = marked 0x80 y :: bs' ∧
      utf8Tail index count 0x80 0xBF 2 (x * 64 + y) bs' = .ok (code, rest) := by
  obtain ⟨low, high, hlead, rfl, hbounds, hP⟩ := ha
  have hbounds := hbounds count.succ_pos
  simp only [← hP, ReadsCode, hlead, Option.some.injEq, Prod.mk.injEq]
  constructor
  · rintro ⟨_, _, _, ⟨rfl, rfl, rfl⟩, h⟩
    exact (utf8Tail_succ_eq_ok hbounds.1 hbounds.2).mp h
  · intro h
    exact ⟨_, _, _, ⟨rfl, rfl, rfl⟩, (utf8Tail_succ_eq_ok hbounds.1 hbounds.2).mpr h⟩

/-- **The reader follows the grammar.** -/
theorem readsCode_iff :
    ReadsCode index a bs code rest ↔ ∃ cs, SpellsCode code cs ∧ a :: bs = cs ++ rest := by
  constructor
  · intro hread
    obtain ⟨_, _, _, hlead, -⟩ := id hread
    rcases exists_of_utf8Lead? hlead with
      ⟨x, hx, rfl⟩ | ⟨x, hx, rfl⟩ | ⟨x, hx, rfl⟩ | ⟨x, hx, rfl⟩
    · obtain ⟨rfl, rfl⟩ := (leads_one hx).readsCode_zero.mp hread
      exact ⟨_, .one hx, rfl⟩
    · obtain ⟨y, _, hy, rfl, hend⟩ := (leads_two hx).readsCode_succ.mp hread
      obtain ⟨rfl, rfl⟩ := utf8Tail_zero_eq_ok.mp hend
      exact ⟨_, .two hx hy, rfl⟩
    · obtain ⟨y, _, ⟨hy, hshortest, hscalar⟩, rfl, hthird⟩ :=
        (leads_three hx).readsCode_succ.mp hread
      obtain ⟨z, _, hz, rfl, hend⟩ := utf8Tail_free_eq_ok.mp hthird
      obtain ⟨rfl, rfl⟩ := utf8Tail_zero_eq_ok.mp hend
      exact ⟨_, .three hx hy hz hshortest hscalar, rfl⟩
    · obtain ⟨y, _, ⟨hy, hshortest, hinside⟩, rfl, hthird⟩ :=
        (leads_four hx).readsCode_succ.mp hread
      obtain ⟨z, _, hz, rfl, hfourth⟩ := utf8Tail_free_eq_ok.mp hthird
      obtain ⟨w, _, hw, rfl, hend⟩ := utf8Tail_free_eq_ok.mp hfourth
      obtain ⟨rfl, rfl⟩ := utf8Tail_zero_eq_ok.mp hend
      exact ⟨_, .four hx hy hz hw hshortest hinside, rfl⟩
  · rintro ⟨cs, hspells, hbytes⟩
    induction hspells with
    | one hx =>
      obtain ⟨rfl, rfl⟩ := List.cons.inj hbytes
      exact (leads_one hx).readsCode_zero.mpr ⟨rfl, rfl⟩
    | two hx hy =>
      obtain ⟨rfl, rfl⟩ := List.cons.inj hbytes
      exact (leads_two hx).readsCode_succ.mpr
        ⟨_, _, hy, rfl, utf8Tail_zero_eq_ok.mpr ⟨rfl, rfl⟩⟩
    | three hx hy hz hshortest hscalar =>
      obtain ⟨rfl, rfl⟩ := List.cons.inj hbytes
      exact (leads_three hx).readsCode_succ.mpr ⟨_, _, ⟨hy, hshortest, hscalar⟩, rfl,
        utf8Tail_free_eq_ok.mpr ⟨_, _, hz, rfl, utf8Tail_zero_eq_ok.mpr ⟨rfl, rfl⟩⟩⟩
    | four hx hy hz hw hshortest hinside =>
      obtain ⟨rfl, rfl⟩ := List.cons.inj hbytes
      exact (leads_four hx).readsCode_succ.mpr ⟨_, _, ⟨hy, hshortest, hinside⟩, rfl,
        utf8Tail_free_eq_ok.mpr ⟨_, _, hz, rfl,
          utf8Tail_free_eq_ok.mpr ⟨_, _, hw, rfl, utf8Tail_zero_eq_ok.mpr ⟨rfl, rfl⟩⟩⟩⟩

end Reading

theorem decodeUtf8From_of_readsCode {index code : Nat} {a : UInt8} {bs rest : List UInt8}
    (h : ReadsCode index a bs code rest) : ∃ later, decodeUtf8From index (a :: bs) =
      (decodeUtf8From later rest).map (Char.ofNat code :: ·) := by
  obtain ⟨count, low, high, hlead, htail⟩ := h
  refine ⟨index + count + 1, ?_⟩
  rw [decodeUtf8From]
  simp only [hlead]
  split
  · next hfault => cases hfault.symm.trans htail
  · next hread =>
    cases hread.symm.trans htail
    rfl

/-- What is read begins with a character. -/
theorem exists_readsCode {index : Nat} {a : UInt8} {bs : List UInt8} {cs : List Char}
    (h : decodeUtf8From index (a :: bs) = .ok cs) :
    ∃ code rest, ReadsCode index a bs code rest := by
  rw [decodeUtf8From] at h
  split at h
  · cases h
  · next count low high hlead =>
    split at h
    · cases h
    · next code rest htail => exact ⟨code, rest, count, low, high, hlead, htail⟩

/-! ## Texts -/

theorem decodeUtf8From_flatMap (index : Nat) (cs : List Char) :
    decodeUtf8From index (cs.flatMap String.utf8EncodeChar) = .ok cs := by
  induction cs generalizing index with
  | nil => rw [List.flatMap_nil, decodeUtf8From]
  | cons c cs ih =>
    rw [List.flatMap_cons]
    rcases hbytes : String.utf8EncodeChar c with _ | ⟨a, bs⟩
    · exact absurd hbytes String.utf8EncodeChar_ne_nil
    · have hread : ReadsCode index a (bs ++ cs.flatMap String.utf8EncodeChar) c.toNat
          (cs.flatMap String.utf8EncodeChar) :=
        readsCode_iff.mpr ⟨_, spellsCode_utf8EncodeChar c, by rw [hbytes, List.cons_append]⟩
      obtain ⟨later, hstep⟩ := decodeUtf8From_of_readsCode hread
      rw [List.cons_append, hstep, ih later, Char.ofNat_toNat]
      rfl

theorem eq_flatMap_of_decodeUtf8From {index : Nat} {bs : List UInt8} {cs : List Char}
    (h : decodeUtf8From index bs = .ok cs) : bs = cs.flatMap String.utf8EncodeChar := by
  induction hlength : bs.length using Nat.strongRecOn generalizing index bs cs with
  | ind length ih =>
    subst hlength
    rcases bs with _ | ⟨a, bs⟩
    · rw [decodeUtf8From] at h
      cases h
      rfl
    · obtain ⟨code, rest, hread⟩ := exists_readsCode h
      obtain ⟨later, hstep⟩ := decodeUtf8From_of_readsCode hread
      obtain ⟨spelling, hspells, hbytes⟩ := readsCode_iff.mp hread
      have hcode : (Char.ofNat code).toNat = code := by
        rw [Char.ofNat, dif_pos hspells.isValidChar]
        rfl
      rw [← hcode] at hspells
      have hspelling := hspells.eq_utf8EncodeChar
      rw [hstep] at h
      rcases hothers : decodeUtf8From later rest with fault | others
      · rw [hothers] at h
        cases h
      · rw [hothers] at h
        cases h
        have hshorter : rest.length < (a :: bs).length := by
          have hpos := List.length_pos_iff.mpr (hspelling ▸ String.utf8EncodeChar_ne_nil)
          rw [hbytes, List.length_append]
          omega
        rw [List.flatMap_cons, ← ih _ hshorter hothers rfl, ← hspelling, hbytes]

/-- **Bytes are read as a text exactly if they are its bytes.** -/
theorem decodeUtf8_eq_ok {bs : List UInt8} {text : String} :
    decodeUtf8 bs = .ok text ↔ encodeUtf8 text = bs := by
  constructor
  · intro h
    rcases hread : decodeUtf8From 0 bs with fault | cs
    · rw [decodeUtf8, hread] at h
      cases h
    · rw [decodeUtf8, hread] at h
      cases h
      rw [encodeUtf8, String.toList_ofList, ← eq_flatMap_of_decodeUtf8From hread]
  · rintro rfl
    rw [decodeUtf8, encodeUtf8, decodeUtf8From_flatMap, Except.map, String.ofList_toList]

/-- **What is read as text is valid UTF-8, and nothing else is.** -/
theorem exists_decodeUtf8_eq_ok {bs : List UInt8} :
    (∃ text, decodeUtf8 bs = .ok text) ↔ bs.toByteArray.IsValidUTF8 := by
  constructor
  · rintro ⟨text, h⟩
    obtain rfl := decodeUtf8_eq_ok.mp h
    exact ⟨text.toList, rfl⟩
  · rintro ⟨cs, hbytes⟩
    refine ⟨String.ofList cs, decodeUtf8_eq_ok.mpr ?_⟩
    have hlist := congrArg (fun b ↦ b.data.toList) hbytes
    simpa [encodeUtf8, List.utf8Encode] using hlist.symm

end ForeignLayer.Bytes
