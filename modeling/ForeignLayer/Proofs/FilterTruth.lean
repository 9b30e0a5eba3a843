import ForeignLayer.Proofs.ColumnValues
import ForeignLayer.Proofs.FilterRoundTrip

/-!
# Filters and predicates agree

The condition that a filter is read as says of a feature what its predicate says of the row of that
feature: true, false or unknown alike, so that it stays right under negations. The leaves carry the
argument, a comparison of what a column shows with a constant on one side and of a value of the
field with the value of a literal on the other.
-/

namespace ForeignLayer.Predicate

open ForeignLayer.Convert ForeignLayer.Filter Catalog Operation

/-! ## Comparisons with their sides exchanged -/

theorem compareLists_swap (xs ys : List Nat) :
    Scalar.compareValues.compareLists ys xs = (Scalar.compareValues.compareLists xs ys).swap := by
  induction xs generalizing ys with
  | nil => cases ys <;> rfl
  | cons x xs ih =>
    cases ys with
    | nil => rfl
    | cons y ys =>
      simp only [Scalar.compareValues.compareLists, ih, Ordering.swap_then]
      rw [Std.OrientedOrd.eq_swap (a := y)]

theorem compareValues_swap {t : DataType} (a b : t.Carrier) :
    Scalar.compareValues t b a = (Scalar.compareValues t a b).map Ordering.swap := by
  cases t <;> first
    | rfl
    | exact congrArg some (compareLists_swap _ _)
    | exact congrArg some Std.OrientedOrd.eq_swap

theorem compare?_swap (a b : Scalar) : b.compare? a = (a.compare? b).map Ordering.swap := by
  obtain ⟨t, x⟩ := a
  obtain ⟨u, y⟩ := b
  by_cases h : t = u
  · subst h
    cases x with
    | none =>
      have hnull := @compare?_eq_none_of_isNull ⟨t, none⟩ rfl ⟨t, y⟩
      rw [hnull.1, hnull.2]
      rfl
    | some x =>
      cases y with
      | none =>
        have hnull := @compare?_eq_none_of_isNull ⟨t, none⟩ rfl ⟨t, some x⟩
        rw [hnull.1, hnull.2]
        rfl
      | some y =>
        exact (compare?_of y x).trans ((compareValues_swap x y).trans
          (congrArg (Option.map Ordering.swap) (compare?_of x y).symm))
  · rw [Scalar.compare?, Scalar.compare?, dif_neg h, dif_neg (Ne.symm h)]
    rfl

theorem accepts_swap (op : Comparison) (o : Ordering) : op.swap.accepts o = op.accepts o.swap := by
  cases op <;> cases o <;> rfl

/-! ## What columns read -/

/-- What a column of a type reads of a value of a field, which a feature may not have. -/
inductive Reads (t : DataType) (type : FieldType) : Option Scalar → Scalar → Prop
  | value {x v : Scalar} (hx : x.type = type.native) (hv : x.cast t = .ok v) :
      Reads t type (some x) v
  | missing : Reads t type none (.nullOf t)

theorem Reads.type_eq {t : DataType} {type : FieldType} {x? : Option Scalar} {v : Scalar}
    (h : Reads t type x? v) : v.type = t := by
  cases h with
  | value _ hv => exact Scalar.type_of_cast hv
  | missing => rfl

theorem Reads.isNull {t : DataType} {type : FieldType} {x? : Option Scalar} {v : Scalar}
    (h : Reads t type x? v) (ht : t.IsPlain) : v.isNull = (x?.map Scalar.isNull).getD true := by
  cases h with
  | value hx hv => exact isNull_of_native ht hx hv
  | missing => rfl

theorem exists_cast_comparisonType {type : FieldType} (x : type.native.Carrier) :
    ∃ y, (Scalar.of type.native x).cast (comparisonType type) = .ok y := by
  cases type with
  | integer =>
    have hword := @toWord_of_le .w32 .w64 (by decide) x
    exact ⟨_, (@Scalar.cast_integer .w32 .w64 x).trans (congrArg (Except.map _) hword)⟩
  | _ => exact ⟨_, Scalar.cast_self rfl⟩

theorem isPlain_of_readsLosslessly {type : FieldType} {t : DataType}
    (h : readsLosslessly type t = true) : t.IsPlain := by
  unfold readsLosslessly at h
  split at h <;> trivial

theorem compareValues_some {x y compared : Scalar} (hx : x.isNull = false)
    (hy : x.cast compared.type = .ok y) (op : Comparison) :
    Condition.compareValues (some x) op compared = (y.compare? compared).map op.accepts := by
  simp only [Condition.compareValues, Option.bind_eq_bind, Option.bind_some, hx, hy,
    Bool.false_eq_true, if_false, Except.toOption]
  cases y.compare? compared <;> rfl

/-- A comparison of what a column shows is the one of the values of the field. -/
theorem compareValues_of_reads {t : DataType} {type : FieldType} {x? : Option Scalar} {v : Scalar}
    (h : Reads t type x? v) (hlossless : readsLosslessly type t = true) {native : Scalar}
    {c : t.Carrier} (hnative : roundTrip? (.of t c) type.native = some native)
    {compared : Scalar} (hcompared : native.cast (comparisonType type) = .ok compared)
    (op : Comparison) :
    Condition.compareValues x? op compared = (v.compare? (.of t c)).map op.accepts := by
  have hnull := h.isNull (isPlain_of_readsLosslessly hlossless)
  cases h with
  | missing =>
    rw [(compare?_eq_none_of_isNull rfl _).1]
    rfl
  | @value x v hx hv =>
    obtain ⟨a, value⟩ := x
    dsimp only at hx
    subst hx
    cases value with
    | none =>
      rw [(compare?_eq_none_of_isNull hnull _).1]
      rfl
    | some x =>
      obtain ⟨hthere, hthereNull, hback⟩ := roundTrip?_eq_some hnative
      obtain ⟨n, rfl⟩ := exists_of_cast hthere hthereNull
      -- the layer compares in the type of the field, the row in the type of the column
      obtain ⟨y, hy⟩ := exists_cast_comparisonType x
      have hfield := compare?_comparisonType hy hcompared
      have hcolumn := compare?_cast hlossless hv hback
      rw [hcolumn, ← hfield]
      refine compareValues_some rfl ?_ op
      rw [Scalar.type_of_cast hcompared]
      exact hy

/-- An integer is compared with zero as it is compared with a truth value when it is shown as one.
-/
theorem compare?_boolean {width : Width} (x : BitVec width.bits) {b isTrue : Bool}
    {op : Comparison} (hop : op = .eq ∧ isTrue = b ∨ op = .ne ∧ isTrue = !b) :
    ((Scalar.of .int64 (BitVec.ofInt 64 x.toInt)).compare? (.of .int64 0)).map
        (Comparison.accepts (if isTrue then .ne else .eq)) =
      ((Scalar.of .boolean (x != 0)).compare? (.of .boolean b)).map op.accepts := by
  have hlong : width.bits ≤ Width.w64.bits := by cases width <;> decide
  have hzero : x.toInt = 0 ↔ x = 0 := by
    rw [← BitVec.toInt_inj]
    exact iff_of_eq (congrArg (x.toInt = ·) BitVec.toInt_zero.symm)
  have hleft : (Scalar.of .int64 (BitVec.ofInt 64 x.toInt)).compare? (.of .int64 0) =
      some (compare x.toInt 0) :=
    (compare?_of (t := .int64) _ _).trans
      (congrArg (fun n ↦ some (compare n 0)) (@toInt_ofInt_of_le _ .w64 hlong x))
  have hright : (Scalar.of .boolean (x != 0)).compare? (.of .boolean b) =
      some (compare (x != 0).toNat b.toNat) := compare?_of (t := .boolean) _ _
  rw [hleft, hright]
  by_cases hx : x = 0
  · rw [hzero.mpr hx, hx]
    rcases hop with ⟨rfl, hb⟩ | ⟨rfl, hb⟩ <;> cases b <;> subst hb <;> rfl
  · have hne : (x != 0) = true := bne_iff_ne.mpr hx
    rw [hne]
    rcases lt_or_gt_of_ne (mt hzero.mp hx) with h | h
    · rw [compare_lt_iff_lt.mpr h]
      rcases hop with ⟨rfl, hb⟩ | ⟨rfl, hb⟩ <;> cases b <;> subst hb <;> rfl
    · rw [compare_gt_iff_gt.mpr h]
      rcases hop with ⟨rfl, hb⟩ | ⟨rfl, hb⟩ <;> cases b <;> subst hb <;> rfl

/-- A column of truth values shows the integers of its field by whether they are zero. -/
theorem compareValues_of_reads_boolean {type : FieldType}
    (htype : type = .integer ∨ type = .integer64) {x? : Option Scalar} {v : Scalar}
    (h : Reads .boolean type x? v) {b isTrue : Bool} {op : Comparison}
    (hop : op = .eq ∧ isTrue = b ∨ op = .ne ∧ isTrue = !b) :
    Condition.compareValues x? (if isTrue then .ne else .eq) (.of .int64 0) =
      (v.compare? (.of .boolean b)).map op.accepts := by
  have hnull := @Reads.isNull .boolean _ _ _ h trivial
  obtain ⟨width, hwidth⟩ : ∃ width, type.native = .integer true width := by
    rcases htype with rfl | rfl <;> exact ⟨_, rfl⟩
  cases h with
  | missing =>
    rw [(compare?_eq_none_of_isNull rfl _).1]
    rfl
  | @value x v hx hv =>
    obtain ⟨a, value⟩ := x
    obtain rfl : a = .integer true width := hx.trans hwidth
    cases value with
    | none =>
      rw [(compare?_eq_none_of_isNull hnull _).1]
      rfl
    | some x =>
      have hshown : (Scalar.of (.integer true width) x).cast .boolean =
          .ok (.of .boolean (x != 0)) :=
        Scalar.cast_of (a := .integer true width) (b := .boolean) (by simp) trivial trivial rfl rfl
          rfl x
      have hcast := Scalar.cast_integer width .w64 x
      rw [@toWord_of_le width .w64 (by cases width <;> decide)] at hcast
      cases hshown.symm.trans hv
      rw [← compare?_boolean x hop]
      exact compareValues_some rfl hcast _

/-! ## Operands -/

/-- What a row shows of a feature: each column that is bound to a field reads the field. -/
def RowShows (ev : Evaluation) (row : Row) (f : Feature) : Prop :=
  ∀ name c index field, ev.table.column? name = some c → c.isArray = false →
    c.binding = .field index field → c.type.storage.IsPlain ∧
      ∃ v, ev.value? row name = some v ∧ Reads c.type.storage field.type f.fields[index]? v

/-- What the operand of a comparison shows of a field. -/
structure OperandShows (f : Feature) (c : Column) (index : Nat) (field : Layer.Field)
    (s : Scalar) : Prop where
  plain : c.type.storage.IsPlain
  preserving : isPreservingCast c.type.storage s.type = true
  reads : ∃ v, Reads c.type.storage field.type f.fields[index]? v ∧ ShownAs v s

variable {ev : Evaluation} {row : Row} {f : Feature}

theorem operand?_of_stands (hrow : RowShows ev row f) {e : Expr} {c : Column} {index : Nat}
    {field : Layer.Field} (h : Stands ev.table e c index field) :
    ∃ s, ev.operand? row e = some s ∧ OperandShows f c index field s := by
  induction h with
  | column hcolumn harray hbinding =>
    obtain ⟨hplain, v, hv, hreads⟩ := hrow _ _ _ _ hcolumn harray hbinding
    refine ⟨v, hv, hplain, ?_, v, hreads, .refl v⟩
    rw [hreads.type_eq]
    exact isPreservingCast_self _
  | cast h hcast ih =>
    obtain ⟨s, hs, hshows⟩ := ih
    obtain ⟨v, hreads, hshown⟩ := hshows.reads
    obtain ⟨s', hs', htype, hshown'⟩ := hshown.recast (hreads.type_eq ▸ hcast)
    refine ⟨s', ?_, hshows.plain, htype ▸ hcast, v, hreads, hshown'⟩
    rw [Evaluation.operand?, hs, Option.bind_some, hs']

theorem OperandShows.isNull {c : Column} {index : Nat} {field : Layer.Field} {s : Scalar}
    (h : OperandShows f c index field s) :
    s.isNull = (f.fields[index]?.map Scalar.isNull).getD true := by
  obtain ⟨v, hreads, hshown⟩ := h.reads
  rw [hshown.isNull, hreads.isNull h.plain]

/-- The condition of a comparison is true of a feature where the comparison is true of what is shown
of the field. -/
theorem evaluate_of_compares {c : Column} {index : Nat} {field : Layer.Field} {op : Comparison}
    {constant : Scalar} {condition : Condition} (h : Compares c index field op constant condition)
    {s : Scalar} (hs : OperandShows f c index field s) :
    ∃ c', constant.recast? s.type = some c' ∧
      condition.evaluate f.fields = (s.compare? c').map op.accepts := by
  obtain ⟨v, hreads, hshown⟩ := hs.reads
  cases h with
  | value _ _ hlossless hfamily hvalue hnative _ hcompared =>
    obtain ⟨hthere, hthereNull, -⟩ := roundTrip?_eq_some hvalue
    obtain ⟨k, rfl⟩ := exists_of_cast hthere hthereNull
    obtain ⟨c', hc', hcompare⟩ :=
      compare?_recast hlossless hreads.type_eq hshown hs.preserving hfamily hthere
    refine ⟨c', hc', ?_⟩
    rw [hcompare]
    exact compareValues_of_reads hreads hlossless hnative hcompared op
  | @truth b isTrue hcolumn hfield hconstant hop =>
    rw [hcolumn] at hreads
    have htype : v.type = .boolean := hreads.type_eq
    -- truth values are cast only to themselves, so what is shown is the value
    have hsame : s = v := by
      have hcarried := hshown.carried
      rw [htype] at hcarried
      exact hcarried
    have hb : constant = .of .boolean b := by
      obtain ⟨t, value⟩ := constant
      cases t <;> cases hconstant
      rfl
    subst hsame
    rw [htype, hb]
    exact ⟨_, recast?_self _, compareValues_of_reads_boolean hfield hreads hop⟩

/-- **A condition says of a feature what its predicate says of the row of the feature.** -/
theorem evaluate_eq_truth (hrow : RowShows ev row f) {e : Expr} {condition : Condition}
    (h : Image ev.table ev.bindings e condition) :
    condition.evaluate f.fields = ev.truth row e := by
  induction h with
  | left hcolumn hconstant hcompares =>
    obtain ⟨s, hs, hshows⟩ := operand?_of_stands hrow hcolumn
    obtain ⟨c', hc', hevaluate⟩ := evaluate_of_compares hcompares hshows
    rw [hevaluate, Evaluation.truth, Evaluation.comparison?, hs, hconstant]
    simp only [hc', Option.bind_some, Option.getD_some]
    rfl
  | @right l r op _ _ _ _ _ hcolumn hconstant hcompares =>
    obtain ⟨s, hs, hshows⟩ := operand?_of_stands hrow hcolumn
    obtain ⟨c', hc', hevaluate⟩ := evaluate_of_compares hcompares hshows
    -- the constant is on the left, so the comparison is mirrored
    have hnone := hcolumn.not_constant ev.bindings
    rw [hevaluate, Evaluation.truth, Evaluation.comparison?, hnone, hconstant, hs]
    have hswap : (s.compare? c').map op.swap.accepts = (c'.compare? s).map op.accepts := by
      rw [compare?_swap s c', Option.map_map]
      exact congrArg (Option.map · _) (funext fun o ↦ accepts_swap op o)
    cases ev.operand? row l <;> simp only [hc', Option.bind_some, Option.getD_some] <;> exact hswap
  | isNull hcolumn =>
    obtain ⟨s, hs, hshows⟩ := operand?_of_stands hrow hcolumn
    rw [Condition.evaluate, ← hshows.isNull, Evaluation.truth, hs, Option.map_some,
      Option.getD_some]
    cases s.isNull <;> rfl
  | isNotNull hcolumn =>
    obtain ⟨s, hs, hshows⟩ := operand?_of_stands hrow hcolumn
    rw [Condition.evaluate, ← hshows.isNull, Evaluation.truth, hs, Option.map_some,
      Option.getD_some]
    cases s.isNull <;> rfl
  | not h ih => rw [Condition.evaluate, Evaluation.truth, ih]
  | and hl hr ihl ihr => rw [Condition.evaluate, Evaluation.truth, ihl, ihr]
  | or hl hr ihl ihr => rw [Condition.evaluate, Evaluation.truth, ihl, ihr]

end ForeignLayer.Predicate
