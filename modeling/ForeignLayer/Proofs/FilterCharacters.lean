import ForeignLayer.Proofs.DecimalDigits
import ForeignLayer.Proofs.FilterRoundTrip

/-!
# Filters and the encoding of their source

A filter holds only characters that its source can take: none takes NUL, and one in another encoding
than Unicode takes only ASCII. The encoding has no other say. It decides whether a predicate has a
clause, and the clause of a predicate that has one is the same in every encoding.

Names and texts are checked where they are quoted, and everything else in a clause is ASCII without
NUL: keywords, brackets, symbols and the digits of numbers. So a clause has been checked as a whole
exactly if all of its characters can be taken, and the two encodings of a predicate are compared
through the characters of its clause.
-/

namespace ForeignLayer

/-! ## Characters -/

/-- Whether a source of an encoding can take a character. -/
def Encoding.Takes (encoding : Encoding) (c : Char) : Prop :=
  c ≠ '\x00' ∧ (encoding.isUtf8 = true ∨ c.toNat < 128)

namespace Filter

variable {encoding : Encoding}

/-- Whether a source of an encoding can take all of some characters. -/
def TakesAll (encoding : Encoding) (cs : List Char) : Prop := ∀ c ∈ cs, encoding.Takes c

theorem takesAll_append {cs ds : List Char} :
    TakesAll encoding (cs ++ ds) ↔ TakesAll encoding cs ∧ TakesAll encoding ds :=
  List.forall_mem_append

theorem takesAll_cons {c : Char} {cs : List Char} :
    TakesAll encoding (c :: cs) ↔ encoding.Takes c ∧ TakesAll encoding cs :=
  List.forall_mem_cons

theorem takesAll_nil : TakesAll encoding [] := List.forall_mem_nil _

theorem takes_of_ascii {c : Char} (hnul : c ≠ '\x00') (hascii : c.toNat < 128) :
    encoding.Takes c :=
  ⟨hnul, Or.inr hascii⟩

theorem takesAll_of_ascii {cs : List Char} (h : ∀ c ∈ cs, c ≠ '\x00' ∧ c.toNat < 128) :
    TakesAll encoding cs :=
  fun c hc ↦ takes_of_ascii (h c hc).1 (h c hc).2

theorem takesAll_of_all {cs : List Char}
    (h : cs.all (fun c ↦ c != '\x00' && decide (c.toNat < 128)) = true) :
    TakesAll encoding cs := by
  refine takesAll_of_ascii fun c hc ↦ ?_
  have hc := List.all_eq_true.mp h c hc
  rw [Bool.and_eq_true, bne_iff_ne, decide_eq_true_eq] at hc
  exact hc

theorem TakesAll.utf8 {cs : List Char} (h : TakesAll encoding cs) : TakesAll .utf8 cs :=
  fun c hc ↦ ⟨(h c hc).1, Or.inl rfl⟩

theorem isExpressible_iff {text : String} :
    isExpressible encoding text = true ↔ TakesAll encoding text.toList := by
  rw [isExpressible, Bool.and_eq_true, Bool.or_eq_true, Bool.not_eq_true', List.contains_eq_mem,
    decide_eq_false_iff_not, Text.allAscii, List.all_eq_true]
  constructor
  · rintro ⟨hnul, hascii⟩ c hc
    refine ⟨fun hzero ↦ hnul (hzero ▸ hc), hascii.imp_right fun h ↦ ?_⟩
    exact of_decide_eq_true (h c hc)
  · intro h
    refine ⟨fun hnul ↦ (h _ hnul).1 rfl, ?_⟩
    by_cases hutf8 : encoding.isUtf8 = true
    · exact Or.inl hutf8
    · exact Or.inr fun c hc ↦ decide_eq_true ((h c hc).2.resolve_left hutf8)

/-! ## Quotations and literals -/

theorem takesAll_nameChars {name : String} :
    TakesAll encoding (nameChars name) ↔ TakesAll encoding name.toList := by
  have hquote : encoding.Takes '"' := takes_of_ascii (by decide) (by decide)
  rw [nameChars, List.cons_append, takesAll_cons, takesAll_append, takesAll_cons]
  exact ⟨fun h ↦ h.2.1, fun h ↦ ⟨hquote, h, hquote, takesAll_nil⟩⟩

/-- Quotes are doubled, and a quote can be taken once if it can be taken twice. -/
theorem takesAll_textChars {text : String} :
    TakesAll encoding (textChars text) ↔ TakesAll encoding text.toList := by
  have hquote : encoding.Takes '\x27' := takes_of_ascii (by decide) (by decide)
  have hdouble : TakesAll encoding (text.toList.flatMap fun c ↦ if c = '\x27' then [c, c] else [c])
      ↔ TakesAll encoding text.toList := by
    constructor
    · intro h c hc
      refine h c (List.mem_flatMap.mpr ⟨c, hc, ?_⟩)
      split <;> exact List.mem_cons_self
    · intro h d hd
      obtain ⟨c, hc, hd⟩ := List.mem_flatMap.mp hd
      have hsame : d = c := by
        split at hd
        · exact (List.mem_pair.mp hd).elim id id
        · exact List.mem_singleton.mp hd
      rw [hsame]
      exact h c hc
  rw [textChars, List.cons_append, takesAll_cons, takesAll_append, hdouble, takesAll_cons]
  exact ⟨fun h ↦ h.2.1, fun h ↦ ⟨hquote, h, hquote, takesAll_nil⟩⟩

theorem isName_iff {name : String} : isName encoding name = true ↔
    '"' ∉ name.toList ∧ TakesAll encoding name.toList := by
  rw [isName, Bool.and_eq_true, isExpressible_iff, Bool.not_eq_true', List.contains_eq_mem,
    decide_eq_false_iff_not]

/-! ## Clauses -/

namespace Clause

variable {field : String}

theorem takesAll_compare {op : Comparison} {value : Literal} :
    TakesAll encoding (compare field op value).chars ↔
      TakesAll encoding field.toList ∧ TakesAll encoding value.chars := by
  have hblank : TakesAll encoding [' '] := takesAll_of_all rfl
  have hsymbol : TakesAll encoding op.symbol.toList :=
    takesAll_of_all (by cases op <;> rfl)
  change TakesAll encoding (nameChars field ++ [' '] ++ _ ++ [' '] ++ _) ↔ _
  rw [takesAll_append, takesAll_append, takesAll_append, takesAll_append, takesAll_nameChars]
  exact ⟨fun h ↦ ⟨h.1.1.1.1, h.2⟩, fun h ↦ ⟨⟨⟨⟨h.1, hblank⟩, hsymbol⟩, hblank⟩, h.2⟩⟩

theorem takesAll_isNull :
    TakesAll encoding (isNull field).chars ↔ TakesAll encoding field.toList := by
  have hwords : TakesAll encoding " IS NULL".toList := takesAll_of_all rfl
  change TakesAll encoding (nameChars field ++ _) ↔ _
  rw [takesAll_append, takesAll_nameChars]
  exact and_iff_left hwords

theorem takesAll_isNotNull :
    TakesAll encoding (isNotNull field).chars ↔ TakesAll encoding field.toList := by
  have hwords : TakesAll encoding " IS NOT NULL".toList := takesAll_of_all rfl
  change TakesAll encoding (nameChars field ++ _) ↔ _
  rw [takesAll_append, takesAll_nameChars]
  exact and_iff_left hwords

theorem takesAll_not {c : Clause} :
    TakesAll encoding (not c).chars ↔ TakesAll encoding c.chars := by
  have hword : TakesAll encoding "NOT (".toList := takesAll_of_all rfl
  have hclosing : TakesAll encoding [')'] := takesAll_of_all rfl
  change TakesAll encoding (_ ++ c.chars ++ [')']) ↔ _
  rw [takesAll_append, takesAll_append]
  exact ⟨fun h ↦ h.1.2, fun h ↦ ⟨⟨hword, h⟩, hclosing⟩⟩

private theorem takesAll_joint {left right word : List Char} (hword : TakesAll encoding word) :
    TakesAll encoding (['('] ++ left ++ word ++ right ++ [')']) ↔
      TakesAll encoding left ∧ TakesAll encoding right := by
  have hopening : TakesAll encoding ['('] := takesAll_of_all rfl
  have hclosing : TakesAll encoding [')'] := takesAll_of_all rfl
  rw [takesAll_append, takesAll_append, takesAll_append, takesAll_append]
  exact ⟨fun h ↦ ⟨h.1.1.1.2, h.1.2⟩, fun h ↦ ⟨⟨⟨⟨hopening, h.1⟩, hword⟩, h.2⟩, hclosing⟩⟩

theorem takesAll_and {left right : Clause} : TakesAll encoding (and left right).chars ↔
    TakesAll encoding left.chars ∧ TakesAll encoding right.chars :=
  takesAll_joint (takesAll_of_all rfl)

theorem takesAll_or {left right : Clause} : TakesAll encoding (or left right).chars ↔
    TakesAll encoding left.chars ∧ TakesAll encoding right.chars :=
  takesAll_joint (takesAll_of_all rfl)

theorem takesAll_joined {cs : List Clause} (h : ∀ c ∈ cs, TakesAll encoding c.chars) {text : String}
    (htext : joined cs = some text) : TakesAll encoding text.toList := by
  have hopening : TakesAll encoding ['('] := takesAll_of_all rfl
  have hclosing : TakesAll encoding [')'] := takesAll_of_all rfl
  have hword : TakesAll encoding " AND (".toList := takesAll_of_all rfl
  rcases cs with - | ⟨c, - | ⟨d, cs⟩⟩
  · cases htext
  · cases htext
    rw [Clause.text, String.toList_ofList]
    exact h c List.mem_cons_self
  · cases htext
    rw [String.toList_ofList]
    rw [List.forall_mem_cons] at h
    refine takesAll_append.mpr ⟨takesAll_append.mpr
      ⟨takesAll_append.mpr ⟨hopening, h.1⟩, hclosing⟩, ?_⟩
    intro ch hch
    obtain ⟨c', hc', hch⟩ := List.mem_flatMap.mp hch
    exact takesAll_append.mpr ⟨takesAll_append.mpr ⟨hword, h.2 c' hc'⟩, hclosing⟩ ch hch

end Clause

end Filter

namespace Predicate

open ForeignLayer.Filter (Clause Comparison Literal TakesAll takesAll_cons takesAll_textChars
  takesAll_of_ascii takesAll_of_all takes_of_ascii isExpressible_iff isName isName_iff)

variable {encoding : Encoding}

theorem takesAll_of_isNumericText {cs : List Char} (h : isNumericText cs = true) :
    TakesAll encoding cs := by
  have hdigits {ds : List Char} (hds : ds.all (fun c ↦ c.isDigit || c == '.') = true) :
      TakesAll encoding ds := by
    refine takesAll_of_ascii fun c hc ↦ ?_
    rcases Bool.or_eq_true_iff.mp (List.all_eq_true.mp hds c hc) with hdigit | hpoint
    · have hrange := Number.isDigit_iff.mp hdigit
      refine ⟨?_, by omega⟩
      rintro rfl
      exact absurd hrange.1 (by decide)
    · rw [beq_iff_eq.mp hpoint]
      decide
  unfold isNumericText at h
  rw [Bool.and_eq_true, Bool.and_eq_true] at h
  obtain ⟨⟨hall, -⟩, -⟩ := h
  split at hall
  · exact takesAll_cons.mpr ⟨takes_of_ascii (by decide) (by decide), hdigits hall⟩
  · exact hdigits hall

/-- A literal that was made of a text is checked as far as it has to be. -/
theorem isWritable_iff {type : FieldType} {text : String} {literal : Literal}
    (h : literalOfText? type text = some literal) :
    isWritable encoding literal = true ↔ TakesAll encoding literal.chars := by
  rcases literal with digits | s
  · have hnumeric : isNumericText digits.toList = true := by
      unfold literalOfText? at h
      split at h
      case h_1 | h_2 | h_3 =>
        split at h
        · next hnumeric =>
          cases h
          exact hnumeric
        · cases h
      all_goals simp at h
    exact iff_of_true rfl (takesAll_of_isNumericText hnumeric)
  · rw [isWritable, isExpressible_iff]
    exact takesAll_textChars.symm

/-! ## Comparisons -/

/-- Whether a constant comes to a literal of a field, before anybody asks for the encoding. -/
def MakesLiteral (column : Catalog.Column) (field : Layer.Field) (constant : Scalar)
    (literal : Literal) : Prop :=
  ∃ conversion, column.conversion = some conversion ∧
    (constant.isNull || !readsLosslessly field.type column.type.storage ||
      Family.of constant.type != Family.of column.type.storage) = false ∧
    ∃ value, roundTrip? constant column.type.storage = some value ∧
      (∃ native, roundTrip? value field.type.native = some native) ∧
      ∃ text, stableText? conversion value = some text ∧
        literalOfText? field.type text = some literal

section Literal

variable {column : Catalog.Column} {field : Layer.Field} {constant : Scalar} {literal : Literal}

theorem literal?_eq_some_iff : literal? encoding column field constant = some literal ↔
    MakesLiteral column field constant literal ∧ isWritable encoding literal = true := by
  unfold literal? MakesLiteral
  simp only [Option.bind_eq_bind, Option.bind_eq_some_iff]
  constructor
  · rintro ⟨conversion, hconversion, h⟩
    split at h
    · cases h
    · next hchecks =>
      simp only [Option.bind_eq_some_iff] at h
      obtain ⟨value, hvalue, native, hnative, text, htext, literal', hliteral, h⟩ := h
      split at h
      · next hwritable =>
        cases h
        exact ⟨⟨conversion, hconversion, Bool.not_eq_true _ ▸ hchecks, value, hvalue,
          ⟨native, hnative⟩, text, htext, hliteral⟩, hwritable⟩
      · cases h
  · rintro ⟨⟨conversion, hconversion, hchecks, value, hvalue, ⟨native, hnative⟩, text, htext,
      hliteral⟩, hwritable⟩
    refine ⟨conversion, hconversion, ?_⟩
    rw [if_neg (Bool.not_eq_true _ ▸ hchecks)]
    simp only [Option.bind_eq_some_iff]
    exact ⟨value, hvalue, native, hnative, text, htext, literal, hliteral, if_pos hwritable⟩

/-- The encoding has a say on a literal only through the characters of it. -/
theorem literal?_eq_some_iff_takesAll : literal? encoding column field constant = some literal ↔
    MakesLiteral column field constant literal ∧ TakesAll encoding literal.chars := by
  rw [literal?_eq_some_iff]
  refine and_congr_right fun h ↦ ?_
  obtain ⟨-, -, -, -, -, -, text, -, hliteral⟩ := h
  exact isWritable_iff hliteral

/-- A column of truth values is compared with zero, which every source can take. -/
theorem takesAll_of_booleanClause? {op : Comparison} {clause : Clause}
    (h : Context.booleanClause? field op constant = some clause) :
    TakesAll encoding clause.chars ↔ TakesAll encoding field.name.toList := by
  obtain ⟨op', rfl⟩ : ∃ op', clause = .compare field.name op' (.number "0") := by
    simp only [Context.booleanClause?, Option.bind_eq_bind, Option.bind_none] at h
    split at h
    · cases h
    · obtain ⟨value, -, h⟩ := Option.bind_eq_some_iff.mp h
      split at h
      · cases h
        exact ⟨_, rfl⟩
      · cases h
        exact ⟨_, rfl⟩
      · cases h
  have hzero : TakesAll encoding (Literal.number "0").chars := takesAll_of_all rfl
  rw [Clause.takesAll_compare]
  exact and_iff_left hzero

/-- A comparison with a field that can be named has the same clause in every encoding that takes
it. -/
theorem comparisonClause?_eq_some_iff {op : Comparison} {clause : Clause} :
    Context.comparisonClause? encoding column field op constant = some clause ∧
        TakesAll encoding field.name.toList ↔
      Context.comparisonClause? .utf8 column field op constant = some clause ∧
        TakesAll encoding clause.chars := by
  unfold Context.comparisonClause?
  by_cases hboolean : column.type.storage = .boolean
  · rw [if_pos hboolean, if_pos hboolean]
    exact and_congr_right fun h ↦ (takesAll_of_booleanClause? h).symm
  · rw [if_neg hboolean, if_neg hboolean, Option.map_eq_some_iff, Option.map_eq_some_iff]
    constructor
    · rintro ⟨⟨literal, hliteral, rfl⟩, hname⟩
      obtain ⟨hmakes, htakes⟩ := literal?_eq_some_iff_takesAll.mp hliteral
      refine ⟨⟨literal, literal?_eq_some_iff_takesAll.mpr ⟨hmakes, htakes.utf8⟩, rfl⟩, ?_⟩
      exact Clause.takesAll_compare.mpr ⟨hname, htakes⟩
    · rintro ⟨⟨literal, hliteral, rfl⟩, htakes⟩
      obtain ⟨hname, htakes⟩ := Clause.takesAll_compare.mp htakes
      have hmakes := (literal?_eq_some_iff_takesAll.mp hliteral).1
      exact ⟨⟨literal, literal?_eq_some_iff_takesAll.mpr ⟨hmakes, htakes⟩, rfl⟩, hname⟩

end Literal

/-! ## Predicates in two encodings -/

namespace Context

/-- The same context for a source of another encoding. -/
def inEncoding (ctx : Context) (encoding : Encoding) : Context := { ctx with encoding }

variable {ctx : Context}

theorem column?_inEncoding (e : Expr) : (ctx.inEncoding encoding).column? e = ctx.column? e := by
  fun_induction column? ctx e with
  | case1 e type ih => rw [column?, ih]
  | case2 name relation => rfl
  | case3 e hcast hcolumn =>
    rw [column?] <;> assumption

theorem orient_inEncoding (left right : Expr) (op : Comparison) :
    (ctx.inEncoding encoding).orient left op right = ctx.orient left op right := by
  rw [orient, column?_inEncoding]
  rfl

theorem field?_eq_some_iff {e : Expr} {column : Catalog.Column} {field : Layer.Field} :
    (ctx.inEncoding encoding).field? e = some (column, field) ↔
      (ctx.inEncoding .utf8).field? e = some (column, field) ∧
        TakesAll encoding field.name.toList := by
  have hsome (encoding : Encoding) : (ctx.inEncoding encoding).field? e = some (column, field) ↔
      ctx.column? e = some (column, field) ∧ isName encoding field.name = true := by
    rw [field?, column?_inEncoding]
    constructor
    · intro h
      obtain ⟨⟨column', field'⟩, hcolumn, h⟩ := Option.bind_eq_some_iff.mp h
      dsimp only at h
      split at h
      · next hname =>
        cases h
        exact ⟨hcolumn, hname⟩
      · cases h
    · rintro ⟨hcolumn, hname⟩
      exact Option.bind_eq_some_iff.mpr ⟨_, hcolumn, if_pos hname⟩
  rw [hsome, hsome, isName_iff, isName_iff]
  constructor
  · rintro ⟨hcolumn, hquote, htakes⟩
    exact ⟨⟨hcolumn, hquote, htakes.utf8⟩, htakes⟩
  · rintro ⟨⟨hcolumn, hquote, -⟩, htakes⟩
    exact ⟨hcolumn, hquote, htakes⟩

/-- A clause of a predicate holds characters that its source can take, and is the one in Unicode. -/
theorem HasClause.utf8 {e : Expr} {clause : Clause} {ps : Parameters}
    (h : (ctx.inEncoding encoding).HasClause e clause ps) :
    (ctx.inEncoding .utf8).HasClause e clause ps ∧ TakesAll encoding clause.chars := by
  induction h with
  | compare horient hfield hconstant hclause =>
    rw [orient_inEncoding] at horient
    obtain ⟨hfield, hname⟩ := field?_eq_some_iff.mp hfield
    obtain ⟨hclause, htakes⟩ := comparisonClause?_eq_some_iff.mp ⟨hclause, hname⟩
    exact ⟨.compare ((orient_inEncoding _ _ _).trans horient) hfield hconstant hclause, htakes⟩
  | isNull hfield =>
    obtain ⟨hfield, hname⟩ := field?_eq_some_iff.mp hfield
    exact ⟨.isNull hfield, Clause.takesAll_isNull.mpr hname⟩
  | isNotNull hfield =>
    obtain ⟨hfield, hname⟩ := field?_eq_some_iff.mp hfield
    exact ⟨.isNotNull hfield, Clause.takesAll_isNotNull.mpr hname⟩
  | not _ ih => exact ⟨.not ih.1, Clause.takesAll_not.mpr ih.2⟩
  | and _ _ ihl ihr => exact ⟨.and ihl.1 ihr.1, Clause.takesAll_and.mpr ⟨ihl.2, ihr.2⟩⟩
  | or _ _ ihl ihr => exact ⟨.or ihl.1 ihr.1, Clause.takesAll_or.mpr ⟨ihl.2, ihr.2⟩⟩

/-- A clause in Unicode is one in every encoding that can take its characters. -/
theorem HasClause.of_utf8 {e : Expr} {clause : Clause} {ps : Parameters}
    (h : (ctx.inEncoding .utf8).HasClause e clause ps) (htakes : TakesAll encoding clause.chars) :
    (ctx.inEncoding encoding).HasClause e clause ps := by
  induction h with
  | compare horient hfield hconstant hclause =>
    rw [orient_inEncoding] at horient
    obtain ⟨hclause, hname⟩ := comparisonClause?_eq_some_iff.mpr ⟨hclause, htakes⟩
    exact .compare ((orient_inEncoding _ _ _).trans horient)
      (field?_eq_some_iff.mpr ⟨hfield, hname⟩) hconstant hclause
  | isNull hfield =>
    exact .isNull (field?_eq_some_iff.mpr ⟨hfield, Clause.takesAll_isNull.mp htakes⟩)
  | isNotNull hfield =>
    exact .isNotNull (field?_eq_some_iff.mpr ⟨hfield, Clause.takesAll_isNotNull.mp htakes⟩)
  | not _ ih => exact .not (ih (Clause.takesAll_not.mp htakes))
  | and _ _ ihl ihr =>
    obtain ⟨hleft, hright⟩ := Clause.takesAll_and.mp htakes
    exact .and (ihl hleft) (ihr hright)
  | or _ _ ihl ihr =>
    obtain ⟨hleft, hright⟩ := Clause.takesAll_or.mp htakes
    exact .or (ihl hleft) (ihr hright)

/-- **The clause of a predicate in an encoding is the one in Unicode, if the source can take its
characters.** -/
theorem clause?_inEncoding_eq_some_iff {e : Expr} {clause : Clause} {ps : Parameters} :
    (ctx.inEncoding encoding).clause? e = some (clause, ps) ↔
      (ctx.inEncoding .utf8).clause? e = some (clause, ps) ∧ TakesAll encoding clause.chars := by
  rw [clause?_eq_some_iff, clause?_eq_some_iff]
  exact ⟨HasClause.utf8, fun h ↦ h.1.of_utf8 h.2⟩

theorem clause?_eq_some_iff_utf8 {e : Expr} {clause : Clause} {ps : Parameters} :
    ctx.clause? e = some (clause, ps) ↔
      (ctx.inEncoding .utf8).clause? e = some (clause, ps) ∧
        TakesAll ctx.encoding clause.chars := by
  change (ctx.inEncoding ctx.encoding).clause? e = _ ↔ _
  exact clause?_inEncoding_eq_some_iff

end Context

/-! ## Filters -/

theorem takesAll_render {ctx : Context} {predicates : List Expr} {text : String}
    (h : (render ctx predicates).filter = some text) : TakesAll ctx.encoding text.toList := by
  refine Clause.takesAll_joined (fun c hc ↦ ?_) h
  obtain ⟨⟨clause, ps⟩, hr, rfl⟩ := List.mem_map.mp hc
  obtain ⟨r, hr, rfl⟩ := List.mem_filterMap.mp hr
  obtain ⟨e, -, hclause⟩ := List.mem_map.mp hr
  exact (Context.clause?_eq_some_iff_utf8.mp hclause).2

/-- What the encoding of a source has to do with the filters that are written for it. -/
structure SuitsEncoding (ctx : Context) : Prop where
  /-- No filter holds NUL. -/
  noNul : ∀ predicates text, (render ctx predicates).filter = some text → '\x00' ∉ text.toList
  /-- A filter in another encoding than Unicode is ASCII. -/
  isAscii : ctx.encoding.isUtf8 = false → ∀ predicates text,
    (render ctx predicates).filter = some text → Text.allAscii text = true
  /-- A predicate with a clause in any encoding has the same one in Unicode, with the same
  parameters. -/
  utf8 : ∀ e clause ps, ctx.clause? e = some (clause, ps) →
    (ctx.inEncoding .utf8).clause? e = some (clause, ps)
  /-- A predicate whose clause in Unicode is ASCII has that clause in every encoding. -/
  ofAscii : ∀ e clause ps, (ctx.inEncoding .utf8).clause? e = some (clause, ps) →
    Text.allAscii clause.text = true → ctx.clause? e = some (clause, ps)

/-- **Filters suit the encoding of their source**: they hold nothing that it cannot take, and no
predicate is left out for any other reason. -/
theorem suitsEncoding (ctx : Context) : SuitsEncoding ctx where
  noNul predicates text h hnul := (takesAll_render h _ hnul).1 rfl
  isAscii hencoding predicates text h := by
    rw [Text.allAscii, List.all_eq_true]
    intro c hc
    refine decide_eq_true ((takesAll_render h c hc).2.resolve_left fun hutf8 ↦ ?_)
    rw [hencoding] at hutf8
    cases hutf8
  utf8 e clause ps h := (Context.clause?_eq_some_iff_utf8.mp h).1
  ofAscii e clause ps h hascii := by
    refine Context.clause?_eq_some_iff_utf8.mpr ⟨h, fun c hc ↦ ?_⟩
    have hnul := (Context.clause?_eq_some_iff_utf8.mp h).2 c hc
    rw [Text.allAscii, Clause.text, String.toList_ofList, List.all_eq_true] at hascii
    exact ⟨hnul.1, Or.inr (of_decide_eq_true (hascii c hc))⟩

end Predicate

end ForeignLayer
