import ForeignLayer.Proofs.FilterTokens

/-!
# Layouts of filters

The same tokens can be written in many ways: words in any letter case, and blanks of any kind and
number in front of every token and at the end. Blanks may be missing wherever the character that a
token starts with cannot go on with the token before it. Between two words it would, so that there
has to be one; and a few other tokens could run into each other too, but those never stand side by
side in a filter.

Cutting a text into tokens undoes all of this: a text is cut into the tokens that it is laid out
from.
-/

namespace ForeignLayer.Filter.Token

/-! ## Tokens as characters -/

/-- How a token is written. -/
inductive IsWrittenAs : Token → List Char → Prop
  | name {name : String} (h : IsQuotable name) : IsWrittenAs (.name name) (nameChars name)
  | text (s : String) : IsWrittenAs (.text s) (textChars s)
  | number {digits : String} (h : IsNumber digits.toList) :
    IsWrittenAs (.number digits) digits.toList
  | word {w : String} (h : w ∈ keywords) {chars : List Char}
    (hchars : chars.map Char.toUpper = w.toList) : IsWrittenAs (.word w) chars
  | op (op : Comparison) : IsWrittenAs (.op op) op.symbol.toList
  | opening : IsWrittenAs .opening ['(']
  | closing : IsWrittenAs .closing [')']

/-- Whether a character could be the first one of a token. -/
def OpensWith (c : Char) : Token → Prop
  | name _ => c = '"'
  | text _ => c = '\x27'
  | number _ => c = '-' ∨ isNumberChar c = true
  | word _ => c.isAlpha = true
  | op _ => c = '=' ∨ c = '<' ∨ c = '>'
  | opening => c = '('
  | closing => c = ')'

/-- Whether a character behind a token would be read as a part of it. -/
def goesOn : Token → Char → Bool
  | text _, c => c == '\x27'
  | number _, c => isNumberChar c
  | word _, c => isWordChar c
  | op _, c => isSymbolChar c
  | _, _ => false

/-- Whether a token is a word. -/
def isWord : Token → Bool
  | word _ => true
  | _ => false

variable {t u : Token} {cs rest : List Char}

/-- A token is cut off in front of what does not go on with it. -/
theorem scan_isWrittenAs (ht : t.IsWrittenAs cs) (hrest : StartsOff t.goesOn rest) :
    scan .between (cs ++ rest) = andThen t (scan .between rest) := by
  cases ht with
  | name h => exact scan_name h rest
  | text s => exact scan_text s hrest
  | number h => exact scan_number h hrest
  | word h hchars => exact scan_letters h hchars hrest
  | op op => exact scan_symbol op hrest
  | opening => exact scan_opening rest
  | closing => exact scan_closing rest

theorem IsWrittenAs.exists_head (ht : t.IsWrittenAs cs) :
    ∃ c others, cs = c :: others ∧ OpensWith c t := by
  cases ht with
  | name h => exact ⟨_, _, rfl, rfl⟩
  | text s => exact ⟨_, _, rfl, rfl⟩
  | @number digits h =>
    cases hdigits : digits.toList with
    | nil => rw [hdigits] at h; exact h.elim
    | cons c others => rw [hdigits] at h; exact ⟨c, others, rfl, h.1⟩
  | @word w h _ hchars =>
    simp only [keywords, List.mem_cons, List.not_mem_nil, or_false] at h
    cases cs with
    | nil => rcases h with rfl | rfl | rfl | rfl | rfl <;> cases hchars
    | cons c others =>
      refine ⟨c, others, rfl, isAlpha_of_toUpper ?_⟩
      rcases h with rfl | rfl | rfl | rfl | rfl <;> rw [(List.cons.inj hchars).1] <;> rfl
  | op op =>
    cases op with
    | eq => exact ⟨_, _, rfl, Or.inl rfl⟩
    | ne | lt | le => exact ⟨_, _, rfl, Or.inr (Or.inl rfl)⟩
    | gt | ge => exact ⟨_, _, rfl, Or.inr (Or.inr rfl)⟩
  | opening => exact ⟨_, _, rfl, rfl⟩
  | closing => exact ⟨_, _, rfl, rfl⟩

/-! ## Tokens side by side -/

/-- Whether a token may follow another one: none of the characters it starts with goes on with the
one before it, unless both are words. -/
def Adjoins : Token → Token → Prop
  | text _, text _ => False
  | number _, number _ => False
  | word _, number _ => False
  | op _, op _ => False
  | _, _ => True

theorem goesOn_of_isBlank {c : Char} (h : Text.isBlank c = true) (t : Token) :
    t.goesOn c = false := by
  have hnot : ¬(33 ≤ c.toNat ∧ c.toNat ≤ 126) := fun hrange ↦ by
    rw [not_isBlank hrange] at h
    cases h
  have hne (d : Char) (hd : 33 ≤ d.toNat ∧ d.toNat ≤ 126) : (c == d) = false := by
    rw [beq_eq_false_iff_ne]
    rintro rfl
    exact hnot hd
  cases t with
  | text s => exact hne '\x27' (by decide)
  | number digits =>
    rw [goesOn, Bool.eq_false_iff, Ne, isNumberChar_iff]
    omega
  | word w =>
    rw [goesOn, Bool.eq_false_iff, Ne, isWordChar_iff]
    omega
  | op op => rw [goesOn, isSymbolChar, hne '>' (by decide), hne '=' (by decide), Bool.or_false]
  | name | opening | closing => rfl

/-- The first character of a token does not go on with the one before it. -/
theorem Adjoins.goesOn_eq_false (h : Adjoins t u) (hwords : t.isWord = true → u.isWord = false)
    {c : Char} (hc : OpensWith c u) : t.goesOn c = false := by
  have hoff {p : Char → Bool} (hp : p c = true) {d : Char} (hd : p d = false) :
      (c == d) = false := by
    rw [beq_eq_false_iff_ne]
    rintro rfl
    rw [hp] at hd
    cases hd
  cases u with
  | name | opening | closing =>
    obtain rfl := hc
    cases t <;> rfl
  | text s =>
    obtain rfl := hc
    cases t <;> first | rfl | exact h.elim
  | op op =>
    rcases hc with rfl | rfl | rfl <;> cases t <;> first | rfl | exact h.elim
  | number digits =>
    rcases hc with rfl | hc
    · cases t <;> rfl
    · cases t with
      | name | opening | closing => rfl
      | number | word => exact h.elim
      | text s => exact hoff hc rfl
      | op op => rw [goesOn, isSymbolChar, hoff hc rfl, hoff hc rfl, Bool.or_false]
  | word w =>
    have halpha : c.isAlpha = true := hc
    cases t with
    | name | opening | closing => rfl
    | word => cases hwords rfl
    | text s => exact hoff halpha rfl
    | op op => rw [goesOn, isSymbolChar, hoff halpha rfl, hoff halpha rfl, Bool.or_false]
    | number digits =>
      have hrange := isAlpha_iff.mp halpha
      rw [goesOn, Bool.eq_false_iff, Ne, isNumberChar_iff]
      omega

/-! ## Layouts -/

/-- How tokens are written one after the other: with blanks in front of each of them and at the end,
and at least one between two words. -/
inductive IsLaidOut : List Token → List Char → Prop
  | nil (blanks : List Char) (hblanks : ∀ c ∈ blanks, Text.isBlank c = true) : IsLaidOut [] blanks
  | cons (blanks : List Char) (hblanks : ∀ c ∈ blanks, Text.isBlank c = true) {t : Token}
    {ts : List Token} {cs rest : List Char} (ht : t.IsWrittenAs cs)
    (hgap : t.isWord = true → ∀ u ∈ ts.head?, u.isWord = true →
      ∃ c ∈ rest.head?, Text.isBlank c = true)
    (h : IsLaidOut ts rest) : IsLaidOut (t :: ts) (blanks ++ (cs ++ rest))

theorem scan_blanks {blanks : List Char} (h : ∀ c ∈ blanks, Text.isBlank c = true)
    (rest : List Char) : scan .between (blanks ++ rest) = scan .between rest := by
  induction blanks with
  | nil => rfl
  | cons c blanks ih =>
    rw [List.forall_mem_cons] at h
    have hstart : start c = .ok ([], .between) := by rw [start, if_pos h.1]
    rw [List.cons_append, scan_open hstart, ih h.2]

/-- What tokens start with is a blank, or opens the first of them. -/
theorem IsLaidOut.head {ts : List Token} (h : IsLaidOut ts cs) :
    ∀ c ∈ cs.head?, Text.isBlank c = true ∨ ∃ t ∈ ts.head?, OpensWith c t := by
  intro c hc
  cases h with
  | nil blanks hblanks => exact Or.inl (hblanks c (List.mem_of_mem_head? hc))
  | cons blanks hblanks ht hgap h =>
    cases blanks with
    | nil =>
      obtain ⟨d, others, rfl, hd⟩ := ht.exists_head
      obtain rfl := Option.some.inj hc
      exact Or.inr ⟨_, rfl, hd⟩
    | cons d blanks =>
      obtain rfl := Option.some.inj hc
      exact Or.inl (hblanks _ List.mem_cons_self)

/-- **What tokens are laid out as is cut into them**, if each of them may follow the one before. -/
theorem scan_isLaidOut {ts : List Token} (h : IsLaidOut ts cs) (hadjoins : ts.IsChain Adjoins) :
    scan .between cs = .ok ts := by
  induction h with
  | nil blanks hblanks =>
    have hscan := scan_blanks hblanks []
    rw [List.append_nil] at hscan
    rw [hscan]
    rfl
  | @cons blanks hblanks t ts cs rest ht hgap h ih =>
    have hrest : StartsOff t.goesOn rest := by
      intro c hc
      rcases h.head c hc with hblank | ⟨u, hu, hopens⟩
      · exact goesOn_of_isBlank hblank t
      · by_cases hblank : Text.isBlank c = true
        · exact goesOn_of_isBlank hblank t
        · refine Adjoins.goesOn_eq_false (hadjoins.rel_head? hu) ?_ hopens
          intro hword
          rw [Bool.eq_false_iff]
          intro hword'
          obtain ⟨d, hd, hdblank⟩ := hgap hword u hu hword'
          obtain rfl := Option.some.inj (hc.symm.trans hd)
          exact hblank hdblank
    rw [scan_blanks hblanks, scan_isWrittenAs ht hrest, ih hadjoins.tail]
    rfl

/-- **Tokens that can be written can be laid out.** -/
theorem exists_isLaidOut {ts : List Token} (h : ∀ t ∈ ts, ∃ cs, t.IsWrittenAs cs) :
    ∃ cs, IsLaidOut ts cs := by
  -- a space in front of every token keeps words apart
  suffices hspaced : ∃ cs, (ts ≠ [] → cs.head? = some ' ') ∧ IsLaidOut ts cs by
    obtain ⟨cs, -, hcs⟩ := hspaced
    exact ⟨cs, hcs⟩
  induction ts with
  | nil => exact ⟨[], absurd rfl, .nil [] (List.forall_mem_nil _)⟩
  | cons t ts ih =>
    rw [List.forall_mem_cons] at h
    obtain ⟨cs, hcs⟩ := h.1
    obtain ⟨rest, hrest, hlaid⟩ := ih h.2
    have hblank : ∀ c ∈ [' '], Text.isBlank c = true := List.forall_mem_singleton.mpr rfl
    refine ⟨_, fun _ ↦ rfl, .cons [' '] hblank hcs ?_ hlaid⟩
    intro _ u hu _
    exact ⟨' ', hrest (List.ne_nil_of_mem (List.mem_of_mem_head? hu)), rfl⟩

end ForeignLayer.Filter.Token
