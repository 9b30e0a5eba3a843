import ForeignLayer.Settings.Pairs
import Mathlib

/-!
# Lists of pairs are read back

A list of pairs can be written in many ways: with blanks of any kind and number around the pairs, at
least one of them between two pairs, and with or without quotes around a value that has no blanks.
`IsText` holds of a list and of the texts that it can be written as, and each of them is read as the
list again.

Two readers look at a text, one that cuts it and one that takes each part on its own. A part has
quotes around its value or no quotes at all, so that the first reader is between quotes just where
the value is, and the second one finds the value between the ends that it trims.
-/

namespace ForeignLayer.Settings.Pairs

/-! ## Texts of pairs -/

/-- Whether a pair can be written: its key is a word, and its value has no quotes inside. -/
structure IsWritable (p : String × String) : Prop where
  key_ne_nil : p.1.toList ≠ []
  key : ∀ c ∈ p.1.toList, c.isAlphanum = true ∨ c = '_' ∨ c = '-'
  value : '"' ∉ p.2.toList

/-- How a pair is written: with its value as it is, if there are no blanks inside, or in quotes. -/
inductive IsPart (p : String × String) : List Char → Prop
  | bare (h : ∀ c ∈ p.2.toList, Text.isBlank c = false) :
    IsPart p (p.1.toList ++ '=' :: p.2.toList)
  | quoted : IsPart p (p.1.toList ++ '=' :: '"' :: (p.2.toList ++ ['"']))

/-- Whether characters, if there are any, start with a blank. -/
def StartsBlank : List Char → Prop
  | [] => True
  | c :: _ => Text.isBlank c = true

/-- How a list of pairs is written: with blanks around the pairs, and at least one between two. -/
inductive IsText : Pairs → List Char → Prop
  | nil (blanks : List Char) (hblanks : ∀ c ∈ blanks, Text.isBlank c = true) : IsText [] blanks
  | cons (blanks : List Char) {part rest : List Char} {p : String × String} {ps : Pairs}
    (hblanks : ∀ c ∈ blanks, Text.isBlank c = true) (hpart : IsPart p part)
    (hrest : StartsBlank rest) (h : IsText ps rest) : IsText (p :: ps) (blanks ++ (part ++ rest))

/-! ## Cutting -/

section Cut

variable {current rest : List Char}

theorem cut_blanks {blanks : List Char} (h : ∀ c ∈ blanks, Text.isBlank c = true) :
    cut false [] (blanks ++ rest) = cut false [] rest := by
  induction blanks with
  | nil => rfl
  | cons c blanks ih =>
    rw [List.forall_mem_cons] at h
    have hc : c ≠ '"' := by
      rintro rfl
      exact absurd h.1 (by decide)
    rw [List.cons_append, cut, if_neg hc, h.1]
    exact ih h.2

/-- Characters that are neither quotes nor, outside quotes, blanks belong to the part. -/
theorem cut_append (quoted : Bool) {cs : List Char} (hquote : '"' ∉ cs)
    (hblank : quoted = false → ∀ c ∈ cs, Text.isBlank c = false) :
    cut quoted current (cs ++ rest) = cut quoted (cs.reverse ++ current) rest := by
  induction cs generalizing current with
  | nil => rfl
  | cons c cs ih =>
    rw [List.mem_cons, not_or] at hquote
    have hgo : (Text.isBlank c && !quoted) = false := by
      cases quoted with
      | true => exact Bool.and_false _
      | false => rw [hblank rfl c List.mem_cons_self, Bool.false_and]
    rw [List.cons_append, cut, if_neg (Ne.symm hquote.1), hgo, if_neg Bool.false_ne_true,
      ih hquote.2 fun hq d hd ↦ hblank hq d (List.mem_cons_of_mem _ hd), List.reverse_cons,
      List.append_assoc, List.singleton_append]

theorem cut_quote (quoted : Bool) :
    cut quoted current ('"' :: rest) = cut (!quoted) ('"' :: current) rest := by
  rw [cut, if_pos rfl]

theorem cut_end (hcurrent : current ≠ []) (hrest : StartsBlank rest) :
    cut false current rest = current.reverse :: cut false [] rest := by
  have hne : current.isEmpty = false := List.isEmpty_eq_false_iff.mpr hcurrent
  cases rest with
  | nil => rw [cut, hne]; rfl
  | cons c rest =>
    have hc : Text.isBlank c = true := hrest
    have hquote : c ≠ '"' := by
      rintro rfl
      exact absurd hc (by decide)
    simp only [cut, if_neg hquote, hc, hne, Bool.not_false, Bool.and_true, if_true,
      Bool.false_eq_true, if_false, List.isEmpty_nil]

end Cut

/-! ## Single pairs -/

section Part

variable {p : String × String} {part : List Char}

theorem IsWritable.isKeyChar (hp : IsWritable p) {c : Char} (hc : c ∈ p.1.toList) :
    isKeyChar c = true := by
  rcases hp.key c hc with h | rfl | rfl
  · rw [Pairs.isKeyChar, h, Bool.true_or, Bool.true_or]
  · rfl
  · rfl

theorem isBlank_of_isKeyChar {c : Char} (h : isKeyChar c = true) : Text.isBlank c = false := by
  simp only [isKeyChar, Char.isAlphanum, Char.isAlpha, Char.isUpper, Char.isLower, Char.isDigit,
    Bool.or_eq_true, Bool.and_eq_true, decide_eq_true_eq, beq_iff_eq, ge_iff_le,
    UInt32.le_iff_toNat_le] at h
  have hnat : (65 ≤ c.toNat ∧ c.toNat ≤ 90) ∨ (97 ≤ c.toNat ∧ c.toNat ≤ 122) ∨
      (48 ≤ c.toNat ∧ c.toNat ≤ 57) ∨ c.toNat = 95 ∨ c.toNat = 45 := by
    rcases h with (((h | h) | h) | rfl) | rfl
    · exact Or.inl h
    · exact Or.inr (Or.inl h)
    · exact Or.inr (Or.inr (Or.inl h))
    · decide
    · decide
  simp only [Text.isBlank, Bool.or_eq_false_iff, Bool.and_eq_false_iff, decide_eq_false_iff_not,
    beq_eq_false_iff_ne]
  omega

theorem cut_key (hp : IsWritable p) (rest : List Char) :
    cut false [] (p.1.toList ++ '=' :: rest) = cut false ('=' :: p.1.toList.reverse) rest := by
  have hkey {c : Char} (hc : c ∈ p.1.toList ++ ['=']) : c = '=' ∨ Pairs.isKeyChar c = true := by
    rcases List.mem_append.mp hc with hc | hc
    · exact Or.inr (hp.isKeyChar hc)
    · exact Or.inl (List.mem_singleton.mp hc)
  have hquote : '"' ∉ p.1.toList ++ ['='] := fun hmem ↦
    (hkey hmem).elim (by decide) (by decide)
  have hblank : ∀ c ∈ p.1.toList ++ ['='], Text.isBlank c = false := fun c hc ↦
    (hkey hc).elim (fun h ↦ h ▸ rfl) isBlank_of_isKeyChar
  have hcut : cut false [] (p.1.toList ++ ['='] ++ rest) =
      cut false ((p.1.toList ++ ['=']).reverse ++ []) rest := cut_append _ hquote fun _ ↦ hblank
  simpa using hcut

theorem cut_part (hp : IsWritable p) (hpart : IsPart p part) {rest : List Char}
    (hrest : StartsBlank rest) : cut false [] (part ++ rest) = part :: cut false [] rest := by
  cases hpart with
  | bare hblank =>
    rw [List.append_assoc, List.cons_append, cut_key hp,
      cut_append _ hp.value fun _ ↦ hblank, cut_end (by simp) hrest]
    simp
  | quoted =>
    rw [List.append_assoc, List.cons_append, cut_key hp, List.cons_append, cut_quote,
      List.append_assoc, Bool.not_false, cut_append _ hp.value (Bool.noConfusion ·),
      List.singleton_append, cut_quote, Bool.not_true, cut_end (by simp) hrest]
    simp

theorem unquote_bare {value : List Char} (h : '"' ∉ value) : unquote value = value := by
  have hdrop {cs : List Char} (hcs : '"' ∉ cs) : cs.dropWhile (· = '"') = cs := by
    cases cs with
    | nil => rfl
    | cons c cs =>
      rw [List.mem_cons, not_or] at hcs
      rw [List.dropWhile_cons_of_neg (by simpa using Ne.symm hcs.1)]
  rw [unquote, hdrop h, hdrop (by rwa [List.mem_reverse]), List.reverse_reverse]

theorem unquote_quoted {value : List Char} (h : '"' ∉ value) :
    unquote ('"' :: (value ++ ['"'])) = value := by
  have hvalue := unquote_bare h
  unfold unquote at hvalue ⊢
  rw [List.dropWhile_cons_of_pos (by simp)]
  cases value with
  | nil => rfl
  | cons c value =>
    rw [List.mem_cons, not_or] at h
    rw [List.dropWhile_cons_of_neg (by simpa using Ne.symm h.1)] at hvalue
    rw [List.cons_append, List.dropWhile_cons_of_neg (by simpa using Ne.symm h.1),
      ← List.cons_append, List.reverse_append, List.reverse_singleton, List.singleton_append,
      List.dropWhile_cons_of_pos (by simp)]
    exact hvalue

/-- What a pair is written as is read as the pair. -/
theorem readPair_part (hp : IsWritable p) (hpart : IsPart p part) : readPair part = .ok p := by
  have hkey : ∀ c ∈ p.1.toList, isKeyChar c = true := fun c hc ↦ hp.isKeyChar hc
  have hne : p.1.toList.isEmpty = false := List.isEmpty_eq_false_iff.mpr hp.key_ne_nil
  have hread {value : List Char} (hvalue : isValue value = true)
      (hunquote : unquote value = p.2.toList) :
      readPair (p.1.toList ++ '=' :: value) = .ok p := by
    have htake : (p.1.toList ++ '=' :: value).takeWhile isKeyChar = p.1.toList := by
      rw [List.takeWhile_append_of_pos hkey, List.takeWhile_cons_of_neg (by decide),
        List.append_nil]
    have hdrop : (p.1.toList ++ '=' :: value).dropWhile isKeyChar = '=' :: value := by
      rw [List.dropWhile_append_of_pos hkey, List.dropWhile_cons_of_neg (by decide)]
    rw [readPair, htake, hdrop]
    simp only [hne, hvalue, hunquote, Bool.not_false, Bool.and_true, if_true, String.ofList_toList]
  cases hpart with
  | bare hblank =>
    refine hread ?_ (unquote_bare hp.value)
    have hany : p.2.toList.any Text.isBlank = false := by
      simpa using hblank
    rw [isValue, hany, Bool.not_false, Bool.or_true]
  | quoted =>
    refine hread ?_ (unquote_quoted hp.value)
    have hquoted : isQuoted ('"' :: (p.2.toList ++ ['"'])) = true := by
      simp [isQuoted, hp.value]
    rw [isValue, hquoted, Bool.true_or]

end Part

/-! ## Lists -/

/-- A text is cut into the parts that its pairs are written as. -/
theorem IsText.exists_cut {ps : Pairs} {cs : List Char} (h : IsText ps cs)
    (hps : ∀ p ∈ ps, IsWritable p) :
    ∃ parts, cut false [] cs = parts ∧ List.Forall₂ IsPart ps parts := by
  induction h with
  | nil blanks hblanks =>
    have hcut : cut false [] (blanks ++ []) = cut false [] [] := cut_blanks hblanks
    rw [List.append_nil] at hcut
    exact ⟨[], hcut, .nil⟩
  | @cons blanks part _ _ _ hblanks hpart hrest _ ih =>
    rw [List.forall_mem_cons] at hps
    obtain ⟨parts, hparts, hforall⟩ := ih hps.2
    exact ⟨part :: parts, by rw [cut_blanks hblanks, cut_part hps.1 hpart hrest, hparts],
      .cons hpart hforall⟩

theorem mapM_readPair {ps : Pairs} {parts : List (List Char)} (h : List.Forall₂ IsPart ps parts)
    (hps : ∀ p ∈ ps, IsWritable p) : parts.mapM readPair = .ok ps := by
  induction h with
  | nil => rfl
  | cons hpart _ ih =>
    rw [List.forall_mem_cons] at hps
    rw [List.mapM_cons, readPair_part hps.1 hpart, ih hps.2]
    rfl

theorem exists_isText (ps : Pairs) : ∃ text : String, IsText ps text.toList := by
  suffices h : ∃ cs, StartsBlank cs ∧ IsText ps cs by
    obtain ⟨cs, -, hcs⟩ := h
    exact ⟨String.ofList cs, by rwa [String.toList_ofList]⟩
  induction ps with
  | nil => exact ⟨[], trivial, .nil [] (List.forall_mem_nil _)⟩
  | cons p ps ih =>
    obtain ⟨cs, hcs, htext⟩ := ih
    have hblank : ∀ c ∈ [' '], Text.isBlank c = true := List.forall_mem_singleton.mpr rfl
    exact ⟨_, by rfl, .cons [' '] hblank .quoted hcs htext⟩

/-- **A list of pairs is read back from every text that it can be written as.** -/
theorem read_of_isText {ps : Pairs} (hps : ∀ p ∈ ps, IsWritable p) :
    (∃ text : String, IsText ps text.toList) ∧
      ∀ text : String, IsText ps text.toList → read text = .ok ps := by
  refine ⟨exists_isText ps, fun text htext ↦ ?_⟩
  obtain ⟨parts, hcut, hparts⟩ := htext.exists_cut hps
  rw [read, tokens, hcut]
  exact mapM_readPair hparts hps

/-- A key twice, a value with signs and blanks, an empty one, and blanks of several kinds. -/
theorem read_of_isText_berths :
    read "\tBERTHS=a=b \u3000 BERTHS=\"two  = \n three\"\u00a0note-1= " =
      .ok [("BERTHS", "a=b"), ("BERTHS", "two  = \n three"), ("note-1", "")] := by
  have hlast : IsText [("note-1", "")] ("\u00a0note-1= ".toList) :=
    .cons ['\u00a0'] (List.forall_mem_singleton.mpr rfl) (.bare (List.all_iff_forall_prop.mp rfl))
      (by rfl) (.nil [' '] (List.forall_mem_singleton.mpr rfl))
  have hsecond : IsText [("BERTHS", "two  = \n three"), ("note-1", "")]
      (" \u3000 BERTHS=\"two  = \n three\"\u00a0note-1= ".toList) :=
    .cons [' ', '\u3000', ' '] (List.all_iff_forall_prop.mp rfl) .quoted (by rfl) hlast
  have hpart : IsPart ("BERTHS", "a=b") "BERTHS=a=b".toList :=
    .bare (List.all_iff_forall_prop.mp rfl)
  have hfirst := IsText.cons ['\t'] (List.forall_mem_singleton.mpr rfl) hpart (by rfl) hsecond
  refine (read_of_isText ?_).2 _ ?_
  · have hkey : ∀ c ∈ "BERTHS".toList, c.isAlphanum = true ∨ c = '_' ∨ c = '-' :=
      List.all_iff_forall_prop.mp rfl
    simp only [List.forall_mem_cons]
    exact ⟨⟨by decide, hkey, by decide⟩, ⟨by decide, hkey, by decide⟩,
      ⟨by decide, List.all_iff_forall_prop.mp rfl, by decide⟩, List.forall_mem_nil _⟩
  · simpa using hfirst

end ForeignLayer.Settings.Pairs
