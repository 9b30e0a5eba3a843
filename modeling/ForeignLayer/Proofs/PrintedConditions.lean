import ForeignLayer.Proofs.SparseClauses
import ForeignLayer.Proofs.SpelledLiterals

/-!
# Conditions are read back from their texts

A condition on the fields of a layer is printed by naming its fields and spelling its values, with
the brackets that it needs and no others, in any layout: words in any letter case and blanks of any
kind around the tokens. In a layer whose names are distinct and can be quoted, every condition with
values that literals can stand for has such texts, and each of them is read as the condition.
-/

namespace ForeignLayer.Filter

variable {layer : Layer.Definition} {c : Condition} {clause : Clause}

/-! ## Clauses of conditions -/

/-- What clauses a condition on the fields of a layer can be written as. -/
inductive IsClauseOf (layer : Layer.Definition) : Condition → Clause → Prop
  | compare {index : Nat} {field : Layer.Field} {op : Comparison} {literal : Literal}
    {value : Scalar} (hfield : layer.fields[index]? = some field)
    (hvalue : Spells field.type literal value) :
    IsClauseOf layer (.compare index op value) (.compare field.name op literal)
  | isNull {index : Nat} {field : Layer.Field} (hfield : layer.fields[index]? = some field) :
    IsClauseOf layer (.isNull index false) (.isNull field.name)
  | isNotNull {index : Nat} {field : Layer.Field} (hfield : layer.fields[index]? = some field) :
    IsClauseOf layer (.isNull index true) (.isNotNull field.name)
  | not {c : Condition} {clause : Clause} (h : IsClauseOf layer c clause) :
    IsClauseOf layer (.not c) (.not clause)
  | and {l r : Condition} {left right : Clause} (hl : IsClauseOf layer l left)
    (hr : IsClauseOf layer r right) : IsClauseOf layer (.and l r) (.and left right)
  | or {l r : Condition} {left right : Clause} (hl : IsClauseOf layer l left)
    (hr : IsClauseOf layer r right) : IsClauseOf layer (.or l r) (.or left right)

/-- Whether a text is a layout of a condition with the brackets that it needs. -/
def Condition.IsPrintedAs (layer : Layer.Definition) (c : Condition) (text : String) : Prop :=
  ∃ clause, IsClauseOf layer c clause ∧ Token.IsLaidOut clause.sparse text.toList

/-- Whether the fields of a condition are fields of a layer, and compared with values that literals
can stand for. -/
def Condition.Fits (layer : Layer.Definition) : Condition → Prop
  | compare index _ value => ∃ field ∈ layer.fields[index]?, Admits field.type value
  | isNull index _ => index < layer.fields.length
  | not c => c.Fits layer
  | and left right => left.Fits layer ∧ right.Fits layer
  | or left right => left.Fits layer ∧ right.Fits layer

theorem fieldIndex?_of_nodup (hnodup : (layer.fields.map Layer.Field.name).Nodup) {index : Nat}
    {field : Layer.Field} (hfield : layer.fields[index]? = some field) :
    layer.fieldIndex? field.name = some index := by
  obtain ⟨hindex, rfl⟩ := List.getElem?_eq_some_iff.mp hfield
  rw [Layer.Definition.fieldIndex?, List.findIdx?_eq_some_iff_getElem]
  refine ⟨hindex, beq_self_eq_true _, fun j hj heq ↦ ?_⟩
  have hlength : (layer.fields.map Layer.Field.name).length = layer.fields.length :=
    List.length_map _
  have hne := List.pairwise_iff_getElem.mp hnodup j index (by omega) (by omega) hj
  rw [List.getElem_map, List.getElem_map] at hne
  exact hne (beq_iff_eq.mp heq)

theorem IsClauseOf.means (hnodup : (layer.fields.map Layer.Field.name).Nodup)
    (h : IsClauseOf layer c clause) : Means layer clause c := by
  induction h with
  | compare hfield hvalue =>
    exact .compare (fieldIndex?_of_nodup hnodup hfield) hfield hvalue.literalValue_eq
  | isNull hfield => exact .isNull (fieldIndex?_of_nodup hnodup hfield) hfield
  | isNotNull hfield => exact .isNotNull (fieldIndex?_of_nodup hnodup hfield) hfield
  | not _ ih => exact .not ih
  | and _ _ ihl ihr => exact .and ihl ihr
  | or _ _ ihl ihr => exact .or ihl ihr

/-- A condition that fits the layer can be written as a clause. -/
theorem Condition.Fits.exists_clause (h : c.Fits layer) : ∃ clause, IsClauseOf layer c clause := by
  induction c with
  | compare index op value =>
    obtain ⟨field, hfield, hadmits⟩ := h
    obtain ⟨literal, hliteral⟩ := hadmits.exists_spells
    exact ⟨_, .compare hfield hliteral⟩
  | isNull index negated =>
    have hfield := List.getElem?_eq_getElem h
    cases negated with
    | false => exact ⟨_, .isNull hfield⟩
    | true => exact ⟨_, .isNotNull hfield⟩
  | not c ih =>
    obtain ⟨clause, hclause⟩ := ih h
    exact ⟨_, .not hclause⟩
  | and left right ihl ihr =>
    obtain ⟨l, hl⟩ := ihl h.1
    obtain ⟨r, hr⟩ := ihr h.2
    exact ⟨_, .and hl hr⟩
  | or left right ihl ihr =>
    obtain ⟨l, hl⟩ := ihl h.1
    obtain ⟨r, hr⟩ := ihr h.2
    exact ⟨_, .or hl hr⟩

/-! ## Tokens that can be written -/

/-- Whether every token can be written. -/
def AreWritable (ts : List Token) : Prop := ∀ t ∈ ts, ∃ cs, t.IsWrittenAs cs

theorem AreWritable.append {ts us : List Token} (hts : AreWritable ts) (hus : AreWritable us) :
    AreWritable (ts ++ us) := List.forall_mem_append.mpr ⟨hts, hus⟩

theorem AreWritable.cons {t : Token} {ts : List Token} {cs : List Char} (ht : t.IsWrittenAs cs)
    (hts : AreWritable ts) : AreWritable (t :: ts) := List.forall_mem_cons.mpr ⟨⟨cs, ht⟩, hts⟩

theorem AreWritable.placed {ts : List Token} (h : AreWritable ts) (needed own : Strength) :
    AreWritable (Clause.placed needed own ts) := by
  unfold Clause.placed
  split
  · exact h
  · exact AreWritable.append (.cons .opening h) (.cons .closing (List.forall_mem_nil _))

theorem isWrittenAs_word {w : String} (h : w ∈ Token.keywords) :
    (Token.word w).IsWrittenAs w.toList := by
  refine .word h ?_
  simp only [Token.keywords, List.mem_cons, List.not_mem_nil, or_false] at h
  rcases h with rfl | rfl | rfl | rfl | rfl <;> rfl

theorem exists_isWrittenAs_token {literal : Literal} (h : literal.IsWritten) :
    ∃ cs, literal.token.IsWrittenAs cs := by
  cases literal with
  | number digits => exact ⟨_, .number h⟩
  | text s => exact ⟨_, .text s⟩

theorem IsClauseOf.areWritable (hnames : ∀ field ∈ layer.fields, IsQuotable field.name)
    (h : IsClauseOf layer c clause) : AreWritable clause.sparse := by
  have hname {index : Nat} {field : Layer.Field} (hfield : layer.fields[index]? = some field) :
      (Token.name field.name).IsWrittenAs (nameChars field.name) :=
    .name (hnames field (List.mem_of_getElem? hfield))
  have hword (w : String) (h : w ∈ Token.keywords) := isWrittenAs_word h
  induction h with
  | compare hfield hvalue =>
    obtain ⟨cs, hcs⟩ := exists_isWrittenAs_token hvalue.isWritten
    exact .cons (hname hfield) (.cons (.op _) (.cons hcs (List.forall_mem_nil _)))
  | isNull hfield =>
    exact .cons (hname hfield) (.cons (hword "IS" (by decide))
      (.cons (hword "NULL" (by decide)) (List.forall_mem_nil _)))
  | isNotNull hfield =>
    exact .cons (hname hfield) (.cons (hword "IS" (by decide)) (.cons (hword "NOT" (by decide))
      (.cons (hword "NULL" (by decide)) (List.forall_mem_nil _))))
  | not _ ih => exact .cons (hword "NOT" (by decide)) (ih.placed _ _)
  | and _ _ ihl ihr =>
    exact (ihl.placed _ _).append (.cons (hword "AND" (by decide)) (ihr.placed _ _))
  | or _ _ ihl ihr =>
    exact (ihl.placed _ _).append (.cons (hword "OR" (by decide)) (ihr.placed _ _))

/-! ## Texts -/

/-- **A condition that fits a layer has texts, and every one of them is read as the condition.** -/
theorem Condition.reads_printed (hnodup : (layer.fields.map Layer.Field.name).Nodup)
    (hnames : ∀ field ∈ layer.fields, IsQuotable field.name) (hc : c.Fits layer) :
    (∃ text, c.IsPrintedAs layer text) ∧
      ∀ text, c.IsPrintedAs layer text → Condition.read layer text = .ok c := by
  constructor
  · obtain ⟨clause, hclause⟩ := hc.exists_clause
    obtain ⟨cs, hcs⟩ := Token.exists_isLaidOut (hclause.areWritable hnames)
    exact ⟨String.ofList cs, clause, hclause, by rwa [String.toList_ofList]⟩
  · rintro text ⟨clause, hclause, htext⟩
    exact read_isLaidOut (hclause.means hnodup) htext

/-- A layer of harbours. -/
def harbours : Layer.Definition where
  name := "harbours"
  fields := [⟨"name", .string⟩, ⟨"berths", .integer⟩, ⟨"opened", .date⟩]
  geometryFields := []
  fidColumn := none

/-- Harbours of a name or with a known number of berths, but for those that were opened before a
day. -/
def oldHarbours : Condition :=
  .and (.or (.compare 0 .eq (.of .utf8 "Seaman's Rest")) (.isNull 1 true))
    (.not (.compare 2 .lt (.of .date32 19723)))

theorem reads_printed_oldHarbours : (∃ text, oldHarbours.IsPrintedAs harbours text) ∧
    ∀ text, oldHarbours.IsPrintedAs harbours text →
      Condition.read harbours text = .ok oldHarbours := by
  refine Condition.reads_printed (by decide) ?_ ?_
  · intro field hfield
    simp only [harbours, List.mem_cons, List.not_mem_nil, or_false] at hfield
    rcases hfield with rfl | rfl | rfl <;> unfold IsQuotable <;> decide
  · have hberths : 1 < harbours.fields.length := by decide
    refine ⟨⟨⟨_, rfl, .text (Or.inl rfl) _⟩, hberths⟩, ⟨_, rfl, .date ⟨?_, ?_⟩⟩⟩ <;> decide

end ForeignLayer.Filter
