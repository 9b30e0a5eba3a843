import ForeignLayer.Proofs.ClauseForms
import ForeignLayer.Proofs.FilterReading
import ForeignLayer.Proofs.LiteralValue
import ForeignLayer.Proofs.TableColumns

/-!
# Filters round-trip

What the text of a filter is read as is given by the predicates it was made of: `Image` relates a
predicate to a condition of the same shape, in which a field stands for each column and the value of
a constant for the constant. No name and no text in a predicate can change more than the leaf that
it belongs to.
-/

namespace ForeignLayer.Predicate

open ForeignLayer.Filter Catalog

/-- Whether an expression stands for a column that is bound to a field: the column itself, which is
no list, or a cast of it that keeps its values distinct and in order. -/
inductive Stands (table : Table) : Expr → Column → Nat → Layer.Field → Prop
  | column {name : String} {relation : Option String} {c : Column} {index : Nat}
      {field : Layer.Field} (hcolumn : table.column? name = some c) (harray : c.isArray = false)
      (hbinding : c.binding = .field index field) :
      Stands table (.column name relation) c index field
  | cast {e : Expr} {type : DataType} {c : Column} {index : Nat} {field : Layer.Field}
      (h : Stands table e c index field)
      (hcast : isPreservingCast c.type.storage type = true) :
      Stands table (.cast e type) c index field

/-- What a comparison of a column with a constant becomes. -/
inductive Compares (c : Column) (index : Nat) (field : Layer.Field) (op : Comparison)
    (constant : Scalar) : Condition → Prop
  /-- The constant goes to the type of the column, which has to be of the same family, and on to the
  type of the field without change, and is compared as the field is. A field has a name that can be
  written, and a time of day lies in a day. -/
  | value {value native compared : Scalar} (hname : isName .utf8 field.name = true)
      (hnull : constant.isNull = false)
      (hlossless : readsLosslessly field.type c.type.storage = true)
      (hfamily : Family.of constant.type = Family.of c.type.storage)
      (hvalue : roundTrip? constant c.type.storage = some value)
      (hnative : roundTrip? value field.type.native = some native) (hmoment : IsMoment native)
      (hcompared : native.cast (comparisonType field.type) = .ok compared) :
      Compares c index field op constant (.compare index op compared)
  /-- A truth value is compared with the integer zero, since every other one is shown as true. -/
  | truth {b isTrue : Bool} (hcolumn : c.type.storage = .boolean)
      (hfield : field.type = .integer ∨ field.type = .integer64)
      (hconstant : constant.bool? = some b)
      (hop : op = .eq ∧ isTrue = b ∨ op = .ne ∧ isTrue = !b) :
      Compares c index field op constant
        (.compare index (if isTrue then .ne else .eq) (.of .int64 0))

/-- The condition of the same shape as a predicate. -/
inductive Image (table : Table) (bindings : Bindings) : Expr → Condition → Prop
  | left {l r : Expr} {op : Comparison} {c : Column} {index : Nat} {field : Layer.Field}
      {constant : Constant} {condition : Condition} (hcolumn : Stands table l c index field)
      (hconstant : r.constant? bindings = some constant)
      (hcompares : Compares c index field op constant.value condition) :
      Image table bindings (.binary (.compare op) l r) condition
  | right {l r : Expr} {op : Comparison} {c : Column} {index : Nat} {field : Layer.Field}
      {constant : Constant} {condition : Condition} (hcolumn : Stands table r c index field)
      (hconstant : l.constant? bindings = some constant)
      (hcompares : Compares c index field op.swap constant.value condition) :
      Image table bindings (.binary (.compare op) l r) condition
  | isNull {e : Expr} {c : Column} {index : Nat} {field : Layer.Field}
      (hcolumn : Stands table e c index field) :
      Image table bindings (.isNull e) (.isNull index false)
  | isNotNull {e : Expr} {c : Column} {index : Nat} {field : Layer.Field}
      (hcolumn : Stands table e c index field) :
      Image table bindings (.isNotNull e) (.isNull index true)
  | not {e : Expr} {condition : Condition} (h : Image table bindings e condition) :
      Image table bindings (.not e) (.not condition)
  | and {l r : Expr} {left right : Condition} (hl : Image table bindings l left)
      (hr : Image table bindings r right) :
      Image table bindings (.binary .and l r) (.and left right)
  | or {l r : Expr} {left right : Condition} (hl : Image table bindings l left)
      (hr : Image table bindings r right) :
      Image table bindings (.binary .or l r) (.or left right)

/-! ## Clauses of predicates -/

/-- What the clause of a predicate stands for: the image of the predicate. -/
def Renders (layer : Layer.Definition) (table : Table) (bindings : Bindings) (e : Expr)
    (clause : Clause) : Prop :=
  clause.IsWritten ∧ ∃ condition, Image table bindings e condition ∧ Means layer clause condition

namespace Context

variable {ctx : Context}

theorem stands_of_column? {e : Expr} {c : Column} {field : Layer.Field}
    (h : ctx.column? e = some (c, field)) : ∃ index, Stands ctx.table e c index field := by
  fun_induction ctx.column? e with
  | case1 e type ih =>
    simp only [Option.bind_eq_bind, Option.bind_eq_some_iff] at h
    obtain ⟨⟨c', field'⟩, hcolumn, hcast⟩ := h
    dsimp only at hcast
    split at hcast
    · next hpreserving =>
      cases hcast
      obtain ⟨index, hstands⟩ := ih hcolumn
      exact ⟨index, .cast hstands hpreserving⟩
    · cases hcast
  | case2 name relation =>
    simp only [Option.bind_eq_bind, Option.pure_def, Option.bind_none, Option.bind_eq_some_iff]
      at h
    obtain ⟨c', hcolumn, hfield⟩ := h
    split at hfield
    · cases hfield
    · next harray =>
      obtain ⟨field', hfield', hsome⟩ := Option.bind_eq_some_iff.mp hfield
      cases hsome
      unfold Column.field? at hfield'
      split at hfield'
      · next index f hbinding =>
        cases hfield'
        exact ⟨index, .column hcolumn (by simpa using harray) hbinding⟩
      · cases hfield'
  | case3 => cases h

theorem stands_of_field? {e : Expr} {c : Column} {field : Layer.Field}
    (h : ctx.field? e = some (c, field)) :
    isName .utf8 field.name = true ∧ ∃ index, Stands ctx.table e c index field := by
  simp only [field?, Option.bind_eq_bind, Option.bind_eq_some_iff] at h
  obtain ⟨⟨c', field'⟩, hcolumn, hname⟩ := h
  dsimp only at hname
  split at hname
  · next hisName =>
    cases hname
    exact ⟨isName_utf8 hisName, stands_of_column? hcolumn⟩
  · cases hname

end Context

theorem Stands.column_eq {table : Table} {e : Expr} {c : Column} {index : Nat}
    {field : Layer.Field} (h : Stands table e c index field) :
    c ∈ table.columns ∧ c.isArray = false ∧ c.binding = .field index field := by
  induction h with
  | column hcolumn harray hbinding =>
    exact ⟨List.mem_of_find?_eq_some hcolumn, harray, hbinding⟩
  | cast h hcast ih => exact ih

theorem Stands.not_constant {table : Table} {e : Expr} {c : Column} {index : Nat}
    {field : Layer.Field} (h : Stands table e c index field) (bindings : Bindings) :
    e.constant? bindings = none := by
  induction h with
  | column => rfl
  | cast h hcast ih =>
    rw [Expr.constant?, ih]
    rfl

theorem Stands.unique {table : Table} {e : Expr} {c c' : Column} {index index' : Nat}
    {field field' : Layer.Field} (h : Stands table e c index field)
    (h' : Stands table e c' index' field') : c = c' ∧ index = index' ∧ field = field' := by
  induction h with
  | column hcolumn _ hbinding =>
    cases h' with
    | column hcolumn' _ hbinding' =>
      cases hcolumn.symm.trans hcolumn'
      cases hbinding.symm.trans hbinding'
      exact ⟨rfl, rfl, rfl⟩
  | cast _ _ ih =>
    cases h' with
    | cast h' _ => exact ih h'

theorem Compares.unique {c : Column} {index : Nat} {field : Layer.Field} {op : Comparison}
    {constant : Scalar} {condition condition' : Condition}
    (h : Compares c index field op constant condition)
    (h' : Compares c index field op constant condition') : condition = condition' := by
  -- no field is read into truth values without loss, so a column has one kind of clause only
  have hboolean (type : FieldType) : readsLosslessly type .boolean ≠ true := by
    cases type <;> exact Bool.noConfusion
  cases h with
  | value _ _ hlossless _ hvalue hnative _ hcompared =>
    cases h' with
    | value _ _ _ _ hvalue' hnative' _ hcompared' =>
      cases hvalue.symm.trans hvalue'
      cases hnative.symm.trans hnative'
      cases hcompared.symm.trans hcompared'
      rfl
    | truth hcolumn =>
      rw [hcolumn] at hlossless
      exact absurd hlossless (hboolean _)
  | truth hcolumn _ hconstant hop =>
    cases h' with
    | value _ _ hlossless =>
      rw [hcolumn] at hlossless
      exact absurd hlossless (hboolean _)
    | truth _ _ hconstant' hop' =>
      cases hconstant.symm.trans hconstant'
      rcases hop with ⟨rfl, rfl⟩ | ⟨rfl, rfl⟩ <;> rcases hop' with ⟨hop', rfl⟩ | ⟨hop', rfl⟩ <;>
        first | rfl | cases hop'

/-- A predicate has one image only. -/
theorem Image.unique {table : Table} {bindings : Bindings} {e : Expr}
    {condition condition' : Condition} (h : Image table bindings e condition)
    (h' : Image table bindings e condition') : condition = condition' := by
  induction h generalizing condition' with
  | left hcolumn hconstant hcompares =>
    cases h' with
    | left hcolumn' hconstant' hcompares' =>
      obtain ⟨rfl, rfl, rfl⟩ := hcolumn.unique hcolumn'
      cases hconstant.symm.trans hconstant'
      exact hcompares.unique hcompares'
    | right hcolumn' hconstant' =>
      rw [hcolumn.not_constant] at hconstant'
      cases hconstant'
  | right hcolumn hconstant hcompares =>
    -- a column has no constant value, so the sides are not mistaken for each other
    cases h' with
    | left hcolumn' hconstant' =>
      rw [hcolumn.not_constant] at hconstant'
      cases hconstant'
    | right hcolumn' hconstant' hcompares' =>
      obtain ⟨rfl, rfl, rfl⟩ := hcolumn.unique hcolumn'
      cases hconstant.symm.trans hconstant'
      exact hcompares.unique hcompares'
  | isNull hcolumn =>
    cases h' with
    | isNull hcolumn' =>
      obtain ⟨rfl, rfl, rfl⟩ := hcolumn.unique hcolumn'
      rfl
  | isNotNull hcolumn =>
    cases h' with
    | isNotNull hcolumn' =>
      obtain ⟨rfl, rfl, rfl⟩ := hcolumn.unique hcolumn'
      rfl
  | not _ ih =>
    cases h' with
    | not h' => rw [ih h']
  | and _ _ ihl ihr =>
    cases h' with
    | and hl' hr' => rw [ihl hl', ihr hr']
  | or _ _ ihl ihr =>
    cases h' with
    | or hl' hr' => rw [ihl hl', ihr hr']

/-! ## Predicates and their clauses -/

section Clauses

variable {ctx : Context} {layer : Layer.Definition}
  (hbound : ∀ c ∈ ctx.table.columns, ∀ index field, c.binding = .field index field →
    BoundTo layer c index field)

include hbound

theorem Stands.boundTo {e : Expr} {c : Column} {index : Nat} {field : Layer.Field}
    (h : Stands ctx.table e c index field) : BoundTo layer c index field :=
  hbound c h.column_eq.1 index field h.column_eq.2.2

theorem Stands.conversion {e : Expr} {c : Column} {index : Nat} {field : Layer.Field}
    (h : Stands ctx.table e c index field) :
    ∃ conversion, c.conversion = some conversion ∧ conversion.type = c.type := by
  obtain ⟨conversion, hsome, htype⟩ := (h.boundTo hbound).conversion
  have helement : c.type.element? = none := by
    have harray := h.column_eq.2.1
    rwa [Column.isArray, Column.element?, Option.isSome_eq_false_iff, Option.isNone_iff_eq_none]
      at harray
  rw [helement, Option.getD_none] at htype
  exact ⟨conversion, hsome, htype⟩

/-- The clause of a comparison stands for what the comparison becomes. -/
theorem compares_of_comparisonClause? {e : Expr} {c : Column} {index : Nat} {field : Layer.Field}
    (hstands : Stands ctx.table e c index field) (hname : isName .utf8 field.name = true)
    {op : Comparison} {constant : Scalar} {clause : Clause}
    (h : Context.comparisonClause? ctx.encoding c field op constant = some clause) :
    clause.IsWritten ∧ ∃ condition, Compares c index field op constant condition ∧
      Means layer clause condition := by
  have hboundTo := hstands.boundTo hbound
  have hquotable := isQuotable_of_isName hname
  unfold Context.comparisonClause? at h
  split at h
  · next hboolean =>
    simp only [Context.booleanClause?, Option.bind_eq_bind, Option.bind_none] at h
    split at h
    · cases h
    · next hinteger =>
      obtain ⟨b, hconstant, hsome⟩ := Option.bind_eq_some_iff.mp h
      have hfield : field.type = .integer ∨ field.type = .integer64 := by
        rw [not_and_or, not_not, not_not] at hinteger
        exact hinteger
      have hzero : literalValue field.type (.number "0") = .ok (.of .int64 0) := by
        rcases hfield with hfield | hfield <;> rw [hfield] <;> rfl
      have hwritten (o : Comparison) : (Clause.compare field.name o (.number "0")).IsWritten :=
        ⟨hquotable, Or.inr rfl, List.forall_mem_nil _⟩
      split at hsome
      · cases hsome
        exact ⟨hwritten _, _, .truth hboolean hfield hconstant (Or.inl ⟨rfl, rfl⟩),
          .compare hboundTo.fieldIndex hboundTo.getElem hzero⟩
      · cases hsome
        exact ⟨hwritten _, _, .truth hboolean hfield hconstant (Or.inr ⟨rfl, rfl⟩),
          .compare hboundTo.fieldIndex hboundTo.getElem hzero⟩
      · cases hsome
  · next hplain =>
    obtain ⟨literal, hliteral, rfl⟩ := Option.map_eq_some_iff.mp h
    have hof := literalOf_of_literal? (hstands.conversion hbound) hboundTo.plain hliteral
    obtain ⟨value, native, hvalue, hnative, hread, hmoment⟩ := hof.value
    obtain ⟨hwritten, compared, hcompared, hread⟩ := hread
    exact ⟨⟨hquotable, hwritten⟩, _, .value hname hof.notNull hof.lossless hof.family hvalue hnative
      hmoment hcompared,
      .compare hboundTo.fieldIndex hboundTo.getElem hread⟩

/-- What a predicate with a clause stands for, form by form. -/
theorem renders_of_hasClause {e : Expr} {clause : Clause} {ps : Parameters}
    (h : ctx.HasClause e clause ps) : Renders layer ctx.table ctx.bindings e clause := by
  induction h with
  | compare horient hfield hconstant hclause =>
    obtain ⟨hname, index, hstands⟩ := Context.stands_of_field? hfield
    obtain ⟨hwritten, condition, hcompares, hmeans⟩ :=
      compares_of_comparisonClause? hbound hstands hname hclause
    rcases Context.orient_eq horient with ⟨rfl, rfl, rfl⟩ | ⟨rfl, rfl, rfl⟩
    · exact ⟨hwritten, condition, .left hstands hconstant hcompares, hmeans⟩
    · exact ⟨hwritten, condition, .right hstands hconstant hcompares, hmeans⟩
  | isNull hfield =>
    obtain ⟨hname, index, hstands⟩ := Context.stands_of_field? hfield
    have hboundTo := hstands.boundTo hbound
    exact ⟨isQuotable_of_isName hname, _, .isNull hstands,
      .isNull hboundTo.fieldIndex hboundTo.getElem⟩
  | isNotNull hfield =>
    obtain ⟨hname, index, hstands⟩ := Context.stands_of_field? hfield
    have hboundTo := hstands.boundTo hbound
    exact ⟨isQuotable_of_isName hname, _, .isNotNull hstands,
      .isNotNull hboundTo.fieldIndex hboundTo.getElem⟩
  | not _ ih =>
    obtain ⟨hw, c, hi, hm⟩ := ih
    exact ⟨hw, _, .not hi, .not hm⟩
  | and _ _ ihl ihr =>
    obtain ⟨hwl, cl, hil, hml⟩ := ihl
    obtain ⟨hwr, cr, hir, hmr⟩ := ihr
    exact ⟨⟨hwl, hwr⟩, _, .and hil hir, .and hml hmr⟩
  | or _ _ ihl ihr =>
    obtain ⟨hwl, cl, hil, hml⟩ := ihl
    obtain ⟨hwr, cr, hir, hmr⟩ := ihr
    exact ⟨⟨hwl, hwr⟩, _, .or hil hir, .or hml hmr⟩

/-- **The clause of a predicate stands for the image of the predicate.** -/
theorem renders_of_clause? {e : Expr} {clause : Clause} {ps : Parameters}
    (h : ctx.clause? e = some (clause, ps)) : Renders layer ctx.table ctx.bindings e clause :=
  renders_of_hasClause hbound (Context.clause?_eq_some_iff.mp h)

/-- A predicate has a clause and an image together, or neither. -/
theorem exists_clause_image (e : Expr) : ∃ p : Option (Clause × Condition),
    p.map Prod.fst = (ctx.clause? e).map Prod.fst ∧
      ∀ q, p = some q → q.1.IsWritten ∧ Image ctx.table ctx.bindings e q.2 ∧
        Means layer q.1 q.2 := by
  cases hclause : ctx.clause? e with
  | none => exact ⟨none, rfl, fun q hq ↦ (by cases hq)⟩
  | some r =>
    obtain ⟨hwritten, condition, himage, hmeans⟩ := renders_of_clause? hbound hclause
    refine ⟨some (r.1, condition), rfl, ?_⟩
    rintro q ⟨⟩
    exact ⟨hwritten, himage, hmeans⟩

end Clauses

/-! ## Lists of predicates -/

/-- Clauses are joined into a text if there are any, and the text is read as the conjunction of what
they mean. -/
theorem read_joined_clauses {layer : Layer.Definition} {pairs : List (Clause × Condition)}
    (hall : ∀ q ∈ pairs, q.1.IsWritten ∧ Means layer q.1 q.2) :
    (Clause.joined (pairs.map Prod.fst) = none ↔ pairs.map Prod.snd = []) ∧
      ∀ text, Clause.joined (pairs.map Prod.fst) = some text →
        ∃ first others, pairs.map Prod.snd = first :: others ∧
          Condition.read layer text = .ok (others.foldl .and first) := by
  refine ⟨?_, fun text htext ↦ ?_⟩
  · rcases pairs with _ | ⟨p, _ | ⟨q, ps⟩⟩ <;> simp [Clause.joined]
  · cases pairs with
    | nil => cases htext
    | cons first others =>
      exact ⟨first.2, others.map Prod.snd, rfl, read_joined (fun q hq ↦ (hall q hq).2)
        (fun q hq ↦ (hall q hq).1) htext⟩

/-- The predicates that have a clause have images, and the text of a list of predicates is read as
the conjunction of the images in it. -/
theorem exists_image {ctx : Context} {layer : Layer.Definition}
    (hbound : ∀ c ∈ ctx.table.columns, ∀ index field, c.binding = .field index field →
      BoundTo layer c index field) :
    ∃ image : Expr → Option Condition,
      (∀ e condition, image e = some condition → Image ctx.table ctx.bindings e condition) ∧
      (∀ e, (image e).isSome = (ctx.clause? e).isSome) ∧
      ∀ predicates,
        ((render ctx predicates).filter = none ↔ predicates.filterMap image = []) ∧
        ∀ text, (render ctx predicates).filter = some text →
          ∃ first others, predicates.filterMap image = first :: others ∧
            Condition.read layer text = .ok (others.foldl .and first) := by
  -- clause and condition are chosen together, so that the two lists keep step
  obtain ⟨pair, hpair⟩ := Classical.axiomOfChoice (exists_clause_image hbound)
  refine ⟨fun e ↦ (pair e).map Prod.snd, ?_, fun e ↦ ?_, fun predicates ↦ ?_⟩
  · intro e condition himage
    obtain ⟨q, hq, rfl⟩ := Option.map_eq_some_iff.mp himage
    exact ((hpair e).2 q hq).2.1
  · have hsome := congrArg Option.isSome (hpair e).1
    rw [Option.isSome_map, Option.isSome_map] at hsome
    rw [Option.isSome_map, hsome]
  · have hrendered : ((predicates.map ctx.clause?).filterMap id).map Prod.fst =
        (predicates.filterMap pair).map Prod.fst := by
      rw [List.filterMap_map, List.map_filterMap, List.map_filterMap]
      exact congrArg (List.filterMap · predicates) (funext fun e ↦ ((hpair e).1).symm)
    have hconditions : (predicates.filterMap fun e ↦ (pair e).map Prod.snd) =
        (predicates.filterMap pair).map Prod.snd := List.map_filterMap.symm
    have hall : ∀ q ∈ predicates.filterMap pair, q.1.IsWritten ∧ Means layer q.1 q.2 := by
      intro q hq
      obtain ⟨e, -, he⟩ := List.mem_filterMap.mp hq
      exact ⟨((hpair e).2 q he).1, ((hpair e).2 q he).2.2⟩
    have hfilter : (render ctx predicates).filter =
        Clause.joined ((predicates.filterMap pair).map Prod.fst) :=
      congrArg Clause.joined hrendered
    rw [hconditions, hfilter]
    exact read_joined_clauses hall

/-- **Filters round-trip.** The text that a list of predicates is rendered to is read as the
conjunction, to the left and in the order of the list, of the images of those predicates that are
taken; a predicate that has no image is not taken. -/
theorem render_reads_back {name : String} {schema : Schema} {options : ColumnOptions}
    {layer : Layer.Definition} {settings : Settings.Table} {table : Table}
    (htable : Table.bind name schema options layer settings = .ok table) (encoding : Encoding)
    (bindings : Bindings) (predicates : List Expr) :
    ∃ image : Expr → Option Condition,
      (∀ e condition, image e = some condition → Image table bindings e condition) ∧
      (render ⟨table, encoding, bindings⟩ predicates).consumed =
        predicates.map (fun e ↦ (image e).isSome) ∧
      ((render ⟨table, encoding, bindings⟩ predicates).filter = none ↔
        predicates.filterMap image = []) ∧
      ∀ text, (render ⟨table, encoding, bindings⟩ predicates).filter = some text →
        ∃ first others, predicates.filterMap image = first :: others ∧
          Condition.read layer text = .ok (others.foldl .and first) := by
  obtain ⟨image, himage, hsome, hread⟩ := @exists_image ⟨table, encoding, bindings⟩ layer
    fun c hc index field hbinding ↦ boundTo_of_bind htable hc hbinding
  refine ⟨image, himage, ?_, hread predicates⟩
  show (predicates.map (Context.clause? _)).map Option.isSome = _
  rw [List.map_map]
  exact List.map_congr_left fun e _ ↦ (hsome e).symm

/-- A field and a constant with quotes, brackets and keywords in them stay one comparison. -/
theorem render_reads_back_quoted :
    ∃ table condition,
      Table.bind "t" [⟨"a) OR (b", .utf8, []⟩] []
        ⟨"l", [⟨"a) OR (b", .string⟩], [], none⟩ {} = .ok table ∧
      Image table [] (.binary (.compare .eq) (.column "a) OR (b" none)
        (.literal (.ofText "it's ' NULL"))) condition ∧
      Condition.read ⟨"l", [⟨"a) OR (b", .string⟩], [], none⟩
        "\"a) OR (b\" = 'it''s '' NULL'" = .ok condition := by
  have htable : Table.bind "t" [⟨"a) OR (b", .utf8, []⟩] []
      ⟨"l", [⟨"a) OR (b", .string⟩], [], none⟩ {} = .ok ⟨"t", "l", [⟨0, "a) OR (b", false,
        .plain .utf8, -1, .field 0 ⟨"a) OR (b", .string⟩, some ⟨.plain .utf8, rfl⟩⟩]⟩ := rfl
  obtain ⟨image, himage, -, -, hread⟩ := render_reads_back htable .utf8 []
    [.binary (.compare .eq) (.column "a) OR (b" none) (.literal (.ofText "it's ' NULL"))]
  obtain ⟨first, others, hfirst, htext⟩ := hread "\"a) OR (b\" = 'it''s '' NULL'" rfl
  rw [List.filterMap_cons, List.filterMap_nil] at hfirst
  split at hfirst
  · cases hfirst
  · next condition hcondition =>
    cases hfirst
    exact ⟨_, _, htable, himage _ _ hcondition, htext⟩

end ForeignLayer.Predicate
