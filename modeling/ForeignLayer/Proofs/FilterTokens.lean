import ForeignLayer.Filter.Token
import ForeignLayer.Proofs.DecimalDigits
import Mathlib

/-!
# The tokens of a clause

The text of a clause is cut into exactly the tokens that the clause is made of, whatever names and
texts it mentions: a quoted name ends at its quote and nowhere else, and within a quoted text every
quote is doubled. A clause may stand in front of anything that ends a token, so that the statement
goes through brackets and connectives.
-/

namespace ForeignLayer.Filter

/-! ## Clauses as tokens -/

/-- The token of a literal. -/
def Literal.token : Literal → Token
  | number digits => .number digits
  | text s => .text s

/-- The tokens of a clause. -/
def Clause.tokens : Clause → List Token
  | compare field op value => [.name field, .op op, value.token]
  | isNull field => [.name field, .word "IS", .word "NULL"]
  | isNotNull field => [.name field, .word "IS", .word "NOT", .word "NULL"]
  | not c => .word "NOT" :: .opening :: c.tokens ++ [.closing]
  | and left right => .opening :: left.tokens ++ .word "AND" :: right.tokens ++ [.closing]
  | or left right => .opening :: left.tokens ++ .word "OR" :: right.tokens ++ [.closing]

/-- The tokens of further clauses that have to hold too. -/
def Clause.furtherTokens (cs : List Clause) : List Token :=
  cs.flatMap fun c ↦ .word "AND" :: .opening :: c.tokens ++ [.closing]

/-- The tokens of clauses that have to hold together. -/
def Clause.joinedTokens : List Clause → List Token
  | [] => []
  | [c] => c.tokens
  | c :: cs => .opening :: c.tokens ++ .closing :: furtherTokens cs

/-! ## What can be written -/

/-- Whether a name has no quote inside. -/
def IsQuotable (name : String) : Prop := '"' ∉ name.toList

theorem isName_utf8 {encoding : Encoding} {name : String} (h : isName encoding name = true) :
    isName .utf8 name = true := by
  simp only [isName, isExpressible, Bool.and_eq_true] at h ⊢
  exact ⟨h.1, h.2.1, rfl⟩

theorem isQuotable_of_isName {encoding : Encoding} {name : String}
    (h : isName encoding name = true) : IsQuotable name := by
  rw [isName, Bool.and_eq_true, Bool.not_eq_true'] at h
  simpa [IsQuotable] using h.1

/-- Whether characters are written as a number: a minus sign or a character of numbers, and then
only characters of numbers. -/
def IsNumber : List Char → Prop
  | [] => False
  | c :: rest => (c = '-' ∨ Token.isNumberChar c = true) ∧ ∀ d ∈ rest, Token.isNumberChar d = true

/-- Whether a literal is written as it is read. -/
def Literal.IsWritten : Literal → Prop
  | number digits => IsNumber digits.toList
  | text _ => True

/-- Whether the names and literals of a clause are written as they are read. -/
def Clause.IsWritten : Clause → Prop
  | compare field _ value => IsQuotable field ∧ value.IsWritten
  | isNull field => IsQuotable field
  | isNotNull field => IsQuotable field
  | not c => c.IsWritten
  | and left right => left.IsWritten ∧ right.IsWritten
  | or left right => left.IsWritten ∧ right.IsWritten

namespace Token

/-! ## Characters -/

section Characters

variable {c : Char}

theorem isAlpha_iff : c.isAlpha = true ↔
    65 ≤ c.toNat ∧ c.toNat ≤ 90 ∨ 97 ≤ c.toNat ∧ c.toNat ≤ 122 := by
  simp only [Char.isAlpha, Char.isUpper, Char.isLower, Bool.or_eq_true, Bool.and_eq_true,
    decide_eq_true_eq, ge_iff_le, UInt32.le_iff_toNat_le]
  exact Iff.rfl

theorem isNumberChar_iff : isNumberChar c = true ↔
    (48 ≤ c.toNat ∧ c.toNat ≤ 57) ∨ c.toNat = 46 := by
  rw [isNumberChar, Bool.or_eq_true, Number.isDigit_iff, beq_iff_eq, ← Char.toNat_inj]
  exact Iff.rfl

theorem isWordChar_iff : isWordChar c = true ↔
    ((65 ≤ c.toNat ∧ c.toNat ≤ 90 ∨ 97 ≤ c.toNat ∧ c.toNat ≤ 122) ∨
      48 ≤ c.toNat ∧ c.toNat ≤ 57) ∨ c.toNat = 95 := by
  rw [isWordChar, Char.isAlphanum, Bool.or_eq_true, Bool.or_eq_true, isAlpha_iff,
    Number.isDigit_iff, beq_iff_eq, ← Char.toNat_inj]
  exact Iff.rfl

/-- Blanks of ASCII come before all other characters, and no blank is below the lot of ASCII. -/
theorem not_isBlank (h : 33 ≤ c.toNat ∧ c.toNat ≤ 126) : Text.isBlank c = false := by
  simp only [Text.isBlank, Bool.or_eq_false_iff, Bool.and_eq_false_iff, decide_eq_false_iff_not,
    beq_eq_false_iff_ne]
  omega

end Characters

/-! ## The machine at the end of a token -/

/-- Whether characters end every token that is open in front of them. -/
def Ends : List Char → Prop
  | [] => True
  | c :: _ => c = ' ' ∨ c = ')'

theorem ends_blank (rest : List Char) : Ends (' ' :: rest) := Or.inl rfl

theorem ends_closing (rest : List Char) : Ends (')' :: rest) := Or.inr rfl

/-- Whether characters, if there are any, start with one that fails a test. -/
def StartsOff (p : Char → Bool) (rest : List Char) : Prop := ∀ c ∈ rest.head?, p c = false

theorem Ends.startsOff {rest : List Char} (h : Ends rest) {p : Char → Bool} (hblank : p ' ' = false)
    (hclosing : p ')' = false) : StartsOff p rest := by
  intro c hc
  obtain ⟨rest, rfl⟩ := List.head?_eq_some_iff.mp hc
  rcases h with rfl | rfl
  · exact hblank
  · exact hclosing

/-- The tokens of the characters behind a token. -/
abbrev andThen (t : Token) (r : Except TokenFault (List Token)) : Except TokenFault (List Token) :=
  r.map (t :: ·)

theorem scan_between_cons (c : Char) (rest : List Char) :
    scan .between (c :: rest) = (do
      let (ts, mode) ← start c
      return ts ++ (← scan mode rest)) := rfl

theorem scan_blank (rest : List Char) : scan .between (' ' :: rest) = scan .between rest := by
  have hstart : start ' ' = .ok ([], .between) := by rfl
  rw [scan_between_cons, hstart]
  simp only [bind, Except.bind, pure, Except.pure, List.nil_append]
  cases scan .between rest <;> rfl

theorem scan_single {c : Char} {t : Token} (hstart : start c = .ok ([t], .between))
    (rest : List Char) : scan .between (c :: rest) = andThen t (scan .between rest) := by
  rw [scan_between_cons, hstart]
  simp only [bind, Except.bind, pure, Except.pure]
  cases scan .between rest <;> rfl

theorem scan_open {c : Char} {mode : Mode} (hstart : start c = .ok ([], mode))
    (rest : List Char) : scan .between (c :: rest) = scan mode rest := by
  rw [scan_between_cons, hstart]
  simp only [bind, Except.bind, pure, Except.pure, List.nil_append]
  cases scan mode rest <;> rfl

theorem scan_go (next : Mode) {mode : Mode} {c : Char} (h : advance mode c = .ok ([], next))
    (rest : List Char) : scan mode (c :: rest) = scan next rest := by
  rw [scan, h]
  simp only [bind, Except.bind, pure, Except.pure, List.nil_append]
  cases scan next rest <;> rfl

theorem scan_last {mode : Mode} {c : Char} {t : Token} (h : advance mode c = .ok ([t], .between))
    (rest : List Char) : scan mode (c :: rest) = andThen t (scan .between rest) := by
  rw [scan, h]
  simp only [bind, Except.bind, pure, Except.pure]
  cases scan .between rest <;> rfl

/-- A token that is ended by what follows it. -/
theorem scan_end {mode : Mode} {t : Token} (hfinish : finish mode = .ok [t]) {rest : List Char}
    (hadvance : ∀ c ∈ rest.head?, advance mode c = endWith t c) :
    scan mode rest = andThen t (scan .between rest) := by
  cases rest with
  | nil =>
    rw [scan, hfinish]
    rfl
  | cons c rest =>
    rw [scan, hadvance c rfl, endWith, scan_between_cons]
    cases start c with
    | error fault => rfl
    | ok p =>
      obtain ⟨ts, mode⟩ := p
      simp only [bind, Except.bind, pure, Except.pure, andThen]
      cases scan mode rest <;> rfl

/-! ## Single tokens -/

theorem scan_name_body (chars read rest : List Char) (h : '"' ∉ chars) :
    scan (.name read) (chars ++ '"' :: rest) =
      andThen (.name (String.ofList (read.reverse ++ chars))) (scan .between rest) := by
  induction chars generalizing read with
  | nil =>
    rw [List.nil_append, List.append_nil]
    exact scan_last (by simp [advance]) rest
  | cons c chars ih =>
    rw [List.mem_cons, not_or] at h
    rw [List.cons_append, scan_go (.name (c :: read)) (by simp [advance, Ne.symm h.1]),
      ih _ h.2, List.reverse_cons, List.append_assoc, List.singleton_append]

theorem scan_name {name : String} (h : IsQuotable name) (rest : List Char) :
    scan .between (nameChars name ++ rest) = andThen (.name name) (scan .between rest) := by
  have hopen : start '"' = .ok ([], .name []) := by rfl
  rw [nameChars, List.cons_append, List.cons_append, List.append_assoc, List.singleton_append,
    scan_open hopen, scan_name_body _ _ _ h, List.reverse_nil, List.nil_append,
    String.ofList_toList]

theorem scan_text_body (chars read rest : List Char) (hrest : StartsOff (· == '\x27') rest) :
    scan (.text read)
        ((chars.flatMap fun c ↦ if c = '\x27' then [c, c] else [c]) ++ '\x27' :: rest) =
      andThen (.text (String.ofList (read.reverse ++ chars))) (scan .between rest) := by
  induction chars generalizing read with
  | nil =>
    rw [List.flatMap_nil, List.nil_append, List.append_nil,
      scan_go (.textQuote read) (by simp [advance])]
    refine scan_end rfl fun c hc ↦ ?_
    have hquote : c ≠ '\x27' := by simpa using hrest c hc
    simp [advance, hquote]
  | cons c chars ih =>
    rw [List.flatMap_cons, List.append_assoc]
    by_cases hc : c = '\x27'
    · rw [if_pos hc, hc, List.cons_append, List.singleton_append,
        scan_go (.textQuote read) (by simp [advance]),
        scan_go (.text ('\x27' :: read)) (by simp [advance]),
        ih, List.reverse_cons, List.append_assoc, List.singleton_append]
    · rw [if_neg hc, List.singleton_append,
        scan_go (.text (c :: read)) (by simp [advance, hc]),
        ih, List.reverse_cons, List.append_assoc, List.singleton_append]

theorem scan_text (s : String) {rest : List Char} (hrest : StartsOff (· == '\x27') rest) :
    scan .between (textChars s ++ rest) = andThen (.text s) (scan .between rest) := by
  have hopen : start '\x27' = .ok ([], .text []) := by rfl
  rw [textChars, List.cons_append, List.cons_append, List.append_assoc, List.singleton_append,
    scan_open hopen, scan_text_body _ _ _ hrest, List.reverse_nil, List.nil_append,
    String.ofList_toList]

/-- What starts a number is no bracket, quote, symbol or blank. -/
theorem start_number {c : Char} (h : c = '-' ∨ isNumberChar c = true) :
    start c = .ok ([], .number [c]) := by
  rcases h with rfl | h
  · rfl
  · have hne (d : Char) (hd : isNumberChar d = false) : c ≠ d := by
      rintro rfl
      rw [h] at hd
      cases hd
    have hrange := isNumberChar_iff.mp h
    have hblank : Text.isBlank c = false := not_isBlank (by omega)
    simp [start, h, hblank, hne '(' rfl, hne ')' rfl, hne '"' rfl,
      hne '\x27' rfl, hne '=' rfl, hne '<' rfl, hne '>' rfl]

theorem scan_number_body (digits read rest : List Char)
    (hdigits : ∀ d ∈ digits, isNumberChar d = true) (hrest : StartsOff isNumberChar rest) :
    scan (.number read) (digits ++ rest) =
      andThen (.number (String.ofList (read.reverse ++ digits))) (scan .between rest) := by
  induction digits generalizing read with
  | nil =>
    rw [List.nil_append, List.append_nil]
    refine scan_end rfl fun c hc ↦ ?_
    simp [advance, hrest c hc]
  | cons d digits ih =>
    rw [List.forall_mem_cons] at hdigits
    rw [List.cons_append, scan_go (.number (d :: read)) (by simp [advance, hdigits.1]),
      ih _ hdigits.2, List.reverse_cons, List.append_assoc, List.singleton_append]

theorem scan_number {digits : String} (h : IsNumber digits.toList) {rest : List Char}
    (hrest : StartsOff isNumberChar rest) :
    scan .between (digits.toList ++ rest) = andThen (.number digits) (scan .between rest) := by
  cases hd : digits.toList with
  | nil => rw [hd] at h; exact h.elim
  | cons c chars =>
    rw [hd] at h
    have hopen : start c = .ok ([], .number [c]) := start_number h.1
    have hdigits : String.ofList ([c].reverse ++ chars) = digits := by
      rw [List.reverse_singleton, List.singleton_append, ← hd, String.ofList_toList]
    rw [List.cons_append, scan_open hopen, scan_number_body _ _ _ h.2 hrest, hdigits]

theorem scan_literal {value : Literal} (h : value.IsWritten) {rest : List Char}
    (hrest : Ends rest) :
    scan .between (value.chars ++ rest) = andThen value.token (scan .between rest) := by
  cases value with
  | number digits => exact scan_number h (hrest.startsOff rfl rfl)
  | text s => exact scan_text s (hrest.startsOff rfl rfl)

/-- Whether a character could go on with a symbol. -/
def isSymbolChar (c : Char) : Bool := c == '>' || c == '='

theorem scan_symbol (op : Comparison) {rest : List Char} (hrest : StartsOff isSymbolChar rest) :
    scan .between (op.symbol.toList ++ rest) = andThen (.op op) (scan .between rest) := by
  have hends : ∀ c ∈ rest.head?,
      advance .less c = endWith (.op .lt) c ∧ advance .greater c = endWith (.op .gt) c := by
    intro c hc
    have hoff := hrest c hc
    rw [isSymbolChar, Bool.or_eq_false_iff, beq_eq_false_iff_ne, beq_eq_false_iff_ne] at hoff
    simp [advance, hoff.1, hoff.2]
  cases op with
  | eq => exact scan_single rfl _
  | ne => exact (scan_open (c := '<') rfl _).trans (scan_last rfl _)
  | lt => exact (scan_open (c := '<') rfl _).trans (scan_end rfl fun c hc ↦ (hends c hc).1)
  | le => exact (scan_open (c := '<') rfl _).trans (scan_last rfl _)
  | gt => exact (scan_open (c := '>') rfl _).trans (scan_end rfl fun c hc ↦ (hends c hc).2)
  | ge => exact (scan_open (c := '>') rfl _).trans (scan_last rfl _)

theorem scan_word_body (chars read rest : List Char)
    (hchars : ∀ c ∈ chars, isWordChar c = true) (hrest : StartsOff isWordChar rest) :
    scan (.word read) (chars ++ rest) =
      andThen (ofWord (chars.reverse ++ read)) (scan .between rest) := by
  induction chars generalizing read with
  | nil =>
    refine scan_end rfl fun c hc ↦ ?_
    simp [advance, hrest c hc]
  | cons c chars ih =>
    rw [List.forall_mem_cons] at hchars
    rw [List.cons_append, scan_go (.word (c :: read)) (by simp [advance, hchars.1]),
      ih _ hchars.2, List.reverse_cons, List.append_assoc, List.singleton_append]

/-- A letter is no bracket, quote, symbol, blank or character of numbers. -/
theorem start_letter {c : Char} (h : c.isAlpha = true) : start c = .ok ([], .word [c]) := by
  have hne (d : Char) (hd : d.isAlpha = false) : c ≠ d := by
    rintro rfl
    rw [h] at hd
    cases hd
  have hrange := isAlpha_iff.mp h
  have hblank : Text.isBlank c = false := not_isBlank (by omega)
  have hdigit : c.isDigit = false := by
    rw [Bool.eq_false_iff, Ne, Number.isDigit_iff]
    omega
  simp [start, isNumberChar, h, hblank, hdigit, hne '(' rfl, hne ')' rfl, hne '"' rfl,
    hne '\x27' rfl, hne '=' rfl, hne '<' rfl, hne '>' rfl, hne '.' rfl, hne '-' rfl]

/-- What is a letter in upper case is a letter. -/
theorem isAlpha_of_toUpper {c : Char} (h : c.toUpper.isUpper = true) : c.isAlpha = true := by
  rw [Char.isAlpha, Bool.or_eq_true]
  by_cases hlower : c.isLower = true
  · exact Or.inr hlower
  · refine Or.inl ?_
    rw [Char.toUpper, dif_neg] at h
    · exact h
    · simpa [Char.isLower] using hlower

/-- A word is one token, whatever case its letters are in. -/
theorem scan_word {w : List Char} (hw : w ≠ []) (hupper : ∀ c ∈ w, c.isUpper = true)
    {chars : List Char} (hchars : chars.map Char.toUpper = w) {rest : List Char}
    (hrest : StartsOff isWordChar rest) :
    scan .between (chars ++ rest) = andThen (.word (String.ofList w)) (scan .between rest) := by
  have halpha : ∀ c ∈ chars, c.isAlpha = true := fun c hc ↦
    isAlpha_of_toUpper (hupper _ (hchars ▸ List.mem_map_of_mem hc))
  cases chars with
  | nil => exact absurd hchars.symm hw
  | cons c chars =>
    rw [List.forall_mem_cons] at halpha
    have hword : ∀ d ∈ chars, isWordChar d = true := fun d hd ↦ by
      rw [isWordChar, Char.isAlphanum, halpha.2 d hd, Bool.true_or, Bool.true_or]
    rw [List.cons_append, scan_open (start_letter halpha.1), scan_word_body _ _ _ hword hrest,
      ofWord, List.reverse_append, List.reverse_reverse, List.reverse_singleton,
      List.singleton_append, hchars]

/-- The words of the filter language. -/
def keywords : List String := ["IS", "NOT", "NULL", "AND", "OR"]

theorem scan_letters {w : String} (h : w ∈ keywords) {chars : List Char}
    (hchars : chars.map Char.toUpper = w.toList) {rest : List Char}
    (hrest : StartsOff isWordChar rest) :
    scan .between (chars ++ rest) = andThen (.word w) (scan .between rest) := by
  simp only [keywords, List.mem_cons, List.not_mem_nil, or_false] at h
  rcases h with rfl | rfl | rfl | rfl | rfl <;>
    exact scan_word (List.cons_ne_nil _ _) (List.all_eq_true.mp rfl) hchars hrest

theorem scan_keyword (w : String) (h : w ∈ keywords) {rest : List Char} (hrest : Ends rest) :
    scan .between (w.toList ++ rest) = andThen (.word w) (scan .between rest) := by
  refine scan_letters h ?_ (hrest.startsOff rfl rfl)
  simp only [keywords, List.mem_cons, List.not_mem_nil, or_false] at h
  rcases h with rfl | rfl | rfl | rfl | rfl <;> rfl

theorem scan_blank_keyword (w : String) (h : w ∈ keywords) (rest : List Char) :
    scan .between (' ' :: (w.toList ++ ' ' :: rest)) =
      andThen (.word w) (scan .between rest) := by
  rw [scan_blank, scan_keyword w h (ends_blank rest), scan_blank]

theorem scan_opening (rest : List Char) :
    scan .between ('(' :: rest) = andThen .opening (scan .between rest) :=
  scan_single rfl rest

theorem scan_closing (rest : List Char) :
    scan .between (')' :: rest) = andThen .closing (scan .between rest) :=
  scan_single rfl rest

/-! ## Clauses -/

/-- Two texts in brackets with a word between them are cut into what each of them is cut into. -/
theorem scan_connective (w : String) (h : w ∈ keywords) {left right : List Char}
    {ls rs : List Token}
    (hl : ∀ {rest}, Ends rest →
      scan .between (left ++ rest) = (scan .between rest).map (ls ++ ·))
    (hr : ∀ {rest}, Ends rest →
      scan .between (right ++ rest) = (scan .between rest).map (rs ++ ·)) (rest : List Char) :
    scan .between ('(' :: (left ++ ' ' :: (w.toList ++ ' ' :: (right ++ ')' :: rest)))) =
      (scan .between rest).map (.opening :: ls ++ .word w :: rs ++ [.closing] ++ ·) := by
  rw [scan_opening, hl (ends_blank _), scan_blank_keyword w h, hr (ends_closing _), scan_closing]
  cases scan .between rest <;> simp [Except.map]

/-- The text of a clause is cut into its tokens, in front of whatever ends a token. -/
theorem scan_clause {c : Clause} (h : c.IsWritten) {rest : List Char} (hrest : Ends rest) :
    scan .between (c.chars ++ rest) = (scan .between rest).map (c.tokens ++ ·) := by
  -- what follows an inner clause is a blank or a bracket, and both end a token
  induction c generalizing rest with
  | compare field op value =>
    rw [Clause.chars]
    simp only [List.append_assoc, List.cons_append, List.nil_append]
    rw [scan_name h.1, scan_blank, scan_symbol op ((ends_blank _).startsOff rfl rfl), scan_blank,
      scan_literal h.2 hrest]
    cases scan .between rest <;> rfl
  | isNull field =>
    have hwords : " IS NULL".toList ++ rest =
        ' ' :: ("IS".toList ++ ' ' :: ("NULL".toList ++ rest)) := rfl
    rw [Clause.chars, List.append_assoc, hwords, scan_name h, scan_blank_keyword "IS" (by decide),
      scan_keyword "NULL" (by decide) hrest]
    cases scan .between rest <;> rfl
  | isNotNull field =>
    have hwords : " IS NOT NULL".toList ++ rest =
        ' ' :: ("IS".toList ++ ' ' :: ("NOT".toList ++ ' ' :: ("NULL".toList ++ rest))) := rfl
    rw [Clause.chars, List.append_assoc, hwords, scan_name h, scan_blank_keyword "IS" (by decide),
      scan_keyword "NOT" (by decide) (ends_blank _), scan_blank,
      scan_keyword "NULL" (by decide) hrest]
    cases scan .between rest <;> rfl
  | not c ih =>
    have hwords (tail : List Char) : "NOT (".toList ++ tail =
        "NOT".toList ++ ' ' :: '(' :: tail := rfl
    rw [Clause.chars, List.append_assoc, List.append_assoc, List.singleton_append, hwords,
      scan_keyword "NOT" (by decide) (ends_blank _), scan_blank, scan_opening,
      ih h (ends_closing _), scan_closing]
    cases scan .between rest <;> simp [Except.map, Clause.tokens]
  | and left right ihl ihr =>
    have hwords (tail : List Char) : " AND ".toList ++ tail =
        ' ' :: ("AND".toList ++ ' ' :: tail) := rfl
    rw [Clause.chars]
    simp only [List.append_assoc, List.cons_append, List.nil_append]
    rw [hwords]
    exact scan_connective "AND" (by decide) (ihl h.1) (ihr h.2) rest
  | or left right ihl ihr =>
    have hwords (tail : List Char) : " OR ".toList ++ tail =
        ' ' :: ("OR".toList ++ ' ' :: tail) := rfl
    rw [Clause.chars]
    simp only [List.append_assoc, List.cons_append, List.nil_append]
    rw [hwords]
    exact scan_connective "OR" (by decide) (ihl h.1) (ihr h.2) rest

theorem scan_further {cs : List Clause} (h : ∀ c ∈ cs, c.IsWritten) :
    scan .between (Clause.furtherChars cs) = .ok (Clause.furtherTokens cs) := by
  induction cs with
  | nil => rfl
  | cons c cs ih =>
    rw [List.forall_mem_cons] at h
    have hwords (tail : List Char) : " AND (".toList ++ tail =
        ' ' :: ("AND".toList ++ ' ' :: '(' :: tail) := rfl
    have hcons : Clause.furtherChars (c :: cs) =
        " AND (".toList ++ (c.chars ++ ')' :: Clause.furtherChars cs) := by
      simp only [Clause.furtherChars, List.flatMap_cons, List.append_assoc, List.singleton_append]
    rw [hcons, hwords, scan_blank_keyword "AND" (by decide), scan_opening,
      scan_clause h.1 (ends_closing _), scan_closing, ih h.2]
    simp [Except.map, Clause.furtherTokens]

/-- **The text of some clauses is cut into their tokens.** -/
theorem all_joined {cs : List Clause} (h : ∀ c ∈ cs, c.IsWritten) {text : String}
    (htext : Clause.joined cs = some text) : all text = .ok (Clause.joinedTokens cs) := by
  match cs with
  | [] => cases htext
  | [c] =>
    cases htext
    have hscan : scan .between (c.chars ++ []) = _ := scan_clause (h c List.mem_cons_self) trivial
    rw [List.append_nil] at hscan
    rw [all, Clause.text, String.toList_ofList, hscan]
    simp [scan, finish, Except.map, Clause.joinedTokens]
  | c :: d :: cs =>
    cases htext
    rw [all, String.toList_ofList]
    simp only [List.append_assoc, List.cons_append, List.nil_append]
    rw [List.forall_mem_cons] at h
    rw [scan_opening, scan_clause h.1 (ends_closing _),
      scan_closing, scan_further h.2]
    simp [Except.map, Clause.joinedTokens]

end Token

end ForeignLayer.Filter
