import ForeignLayer.Proofs.FilterTruth
import ForeignLayer.Proofs.WiderNumbers

/-!
# The order of what columns show

A comparison may be left to a layer only if the layer, which compares the values of a field, comes
to what a query comes to, which compares what a column shows of them. So neither the reading of a
field nor the casts around a column may merge values or put them in another order.

A reading takes a value to the same number or text in a wider type, or a count of microseconds to
nanoseconds. What has no place there is not read at all, so that nothing comes back around.

A column under casts has the value of the last cast alone. Each cast was checked only against the
type of the column, but that is enough: what came between leaves no trace.
-/

namespace ForeignLayer

open ForeignLayer.Convert Number

-- Powers are the core library's, whichever other instances are in scope.
attribute [local instance (high)] instPowNat

/-! ## The same order -/

namespace Scalar

/-- Whether two values are told apart where two others are, and are in the same order. -/
structure SameOrder (x y left right : Scalar) : Prop where
  eq_iff : left = right ↔ x = y
  compare?_eq : left.compare? right = x.compare? y

/-- Whether a value is a floating-point number, but not a number. -/
def isNaN : Scalar → Bool
  | ⟨.float32, some v⟩ => v.isNaN
  | ⟨.float64, some v⟩ => v.isNaN
  | _ => false

theorem SameOrder.refl (x y : Scalar) : SameOrder x y x y := ⟨Iff.rfl, rfl⟩

theorem compare?_mk {t : DataType} (a b : Option t.Carrier) :
    compare? ⟨t, a⟩ ⟨t, b⟩ = a.bind fun v ↦ b.bind (compareValues t v) := by
  rw [compare?, dif_pos rfl]
  cases a <;> cases b <;> rfl

theorem compareLists_eq_iff {xs ys : List Nat} :
    compareValues.compareLists xs ys = .eq ↔ xs = ys := by
  induction xs generalizing ys with
  | nil => cases ys <;> simp [compareValues.compareLists]
  | cons x xs ih =>
    cases ys with
    | nil => simp [compareValues.compareLists]
    | cons y ys => simp [compareValues.compareLists, Ordering.then_eq_eq, ih]

theorem compareValues_eq_iff {t : DataType} (ht : t.IsPlain) {a b : t.Carrier} :
    compareValues t a b = some .eq ↔ a = b := by
  have hsigned {n : Nat} {v w : BitVec n} : some (compare v.toInt w.toInt) = some .eq ↔ v = w := by
    rw [Option.some_inj, compare_eq_iff_eq, BitVec.toInt_inj]
  have hfloating {L : Layout} {v w : Floating L} :
      some (compare v.totalKey w.totalKey) = some .eq ↔ v = w := by
    rw [Option.some_inj, compare_eq_iff_eq]
    exact ⟨Floating.eq_of_totalKey_eq, congrArg _⟩
  have hbytes {vs ws : List UInt8} : some (compareValues.compareLists (vs.map UInt8.toNat)
      (ws.map UInt8.toNat)) = some .eq ↔ vs = ws := by
    rw [Option.some_inj, compareLists_eq_iff]
    exact (List.map_injective_iff.mpr fun _ _ h ↦ UInt8.toNat_inj.mp h).eq_iff
  cases t with
  | null | list => exact ht.elim
  | boolean => cases a <;> cases b <;> decide
  | integer signed width =>
    rw [compareValues, Option.some_inj, compare_eq_iff_eq]
    exact ⟨toInt_inj, congrArg _⟩
  | text =>
    rw [compareValues, Option.some_inj, compareLists_eq_iff]
    have hchars := (List.map_injective_iff.mpr fun _ _ h ↦ Char.toNat_inj.mp h).eq_iff
      (a := a.toList) (b := b.toList)
    exact hchars.trans String.toList_inj
  | float32 | float64 => exact hfloating
  | binary | fixedSizeBinary => exact hbytes
  | _ => exact hsigned

theorem eq_iff_compare? {s r : Scalar} (htype : r.type = s.type) (hplain : s.type.IsPlain) :
    s = r ↔ s.isNull = true ∧ r.isNull = true ∨ s.compare? r = some .eq := by
  obtain ⟨t, a⟩ := s
  obtain ⟨t', b⟩ := r
  dsimp only at htype hplain
  subst htype
  rw [compare?_mk, Scalar.mk.injEq, heq_eq_eq]
  cases a <;> cases b <;> simp [isNull, compareValues_eq_iff hplain]

/-- Order tells plain scalars apart. -/
theorem SameOrder.of_compare? {x y left right : Scalar} (htype : y.type = x.type)
    (hplain : x.type.IsPlain) (htype' : right.type = left.type) (hplain' : left.type.IsPlain)
    (hleft : left.isNull = x.isNull) (hright : right.isNull = y.isNull)
    (h : left.compare? right = x.compare? y) : SameOrder x y left right where
  eq_iff := by
    rw [eq_iff_compare? htype hplain, eq_iff_compare? htype' hplain', hleft, hright, h]
  compare?_eq := h

end Scalar

namespace Predicate

open Operation (Row)
open Scalar (SameOrder)

/-! ## Readings -/

section Readings

variable {type : FieldType} {t : DataType} {x y left right : Scalar}

theorem isPlain_native_of_readsLosslessly (h : readsLosslessly type t = true) :
    type.native.IsPlain := by
  unfold readsLosslessly at h
  split at h <;> trivial

/-- **A column that reads a field without loss keeps its values apart and in order.** -/
theorem sameOrder_of_reads (h : readsLosslessly type t = true) (hx : x.type = type.native)
    (hy : y.type = type.native) (hleft : x.cast t = .ok left) (hright : y.cast t = .ok right) :
    SameOrder x y left right := by
  have hplain := isPlain_of_readsLosslessly h
  have hnative := isPlain_native_of_readsLosslessly h
  have hnull := isNull_of_native hplain hx hleft
  have hnull' := isNull_of_native hplain hy hright
  have htype := Scalar.type_of_cast hleft
  have htype' := Scalar.type_of_cast hright
  refine .of_compare? (hy.trans hx.symm) (hx ▸ hnative) (htype'.trans htype.symm) (htype ▸ hplain)
    hnull hnull' ?_
  obtain ⟨a, v⟩ := x
  obtain ⟨b, w⟩ := y
  dsimp only at hx hy
  subst hx hy
  rcases v with - | v
  · rw [(compare?_eq_none_of_isNull hnull _).1, (compare?_eq_none_of_isNull rfl _).1]
  · rcases w with - | w
    · rw [(compare?_eq_none_of_isNull hnull' _).2, (compare?_eq_none_of_isNull rfl _).2]
    · exact compare?_cast h hleft hright

end Readings

/-! ## Casts -/

section Casts

variable {v s : Scalar} {a b t : DataType}

theorem exists_recast? (h : isPreservingCast v.type t = true) :
    ∃ s, v.recast? t = some s ∧ s.type = t ∧ ShownAs v s :=
  (ShownAs.refl v).recast h

theorem ShownAs.exists_integer {signed : Bool} {width : Width} {m : Option (BitVec width.bits)}
    (h : ShownAs ⟨.integer signed width, m⟩ s) :
    ∃ signed' width' n, s = ⟨.integer signed' width', n⟩ ∧
      n.map (Width.toInt signed') = m.map (Width.toInt signed) := by
  obtain ⟨hinteger, hvalue⟩ := h.carried
  obtain ⟨c, n⟩ := s
  obtain ⟨signed', width', rfl⟩ : ∃ signed' width', c = .integer signed' width' := by
    cases c <;> first | exact ⟨_, _, rfl⟩ | cases hinteger
  exact ⟨signed', width', n, rfl, hvalue⟩

theorem ShownAs.exists_text {layout : Storage} {m : Option String}
    (h : ShownAs ⟨.text layout, m⟩ s) : ∃ layout', s = ⟨.text layout', m⟩ := by
  obtain ⟨htext, hvalue⟩ := h.carried
  obtain ⟨c, n⟩ := s
  obtain ⟨layout', rfl⟩ : ∃ layout', c = .text layout' := by
    cases c <;> first | exact ⟨_, rfl⟩ | cases htext
  exact ⟨layout', congrArg _ hvalue⟩

/-- What is shown of a value is known by its type. Single numbers are not followed. -/
theorem ShownAs.unique {r : Scalar} (hs : ShownAs v s) (hr : ShownAs v r) (htype : s.type = r.type)
    (hv : v.type ≠ .float32) : s = r := by
  obtain ⟨c, value⟩ := v
  cases c with
  | integer =>
    obtain ⟨signed, width, m, rfl, hm⟩ := hs.exists_integer
    obtain ⟨signed', width', n, rfl, hn⟩ := hr.exists_integer
    cases htype
    rw [Option.map_injective (fun _ _ ↦ toInt_inj) (hm.trans hn.symm)]
  | text =>
    obtain ⟨layout, rfl⟩ := hs.exists_text
    obtain ⟨layout', rfl⟩ := hr.exists_text
    cases htype
    rfl
  | float32 => exact absurd rfl hv
  | _ => exact hs.carried.trans hr.carried.symm

theorem float_of_isPreservingCast (h : isPreservingCast .float32 t = true) :
    t = .float32 ∨ t = .float64 := by
  cases t <;> first | exact Or.inl rfl | exact Or.inr rfl | simp [isPreservingCast] at h

theorem recast?_single_double (value : Option Single) :
    Scalar.recast? ⟨.float32, value⟩ .float64 = some ⟨.float64, value.map Floating.convert⟩ :=
  recast?_plain (a := .float32) (b := .float64) (by decide) trivial trivial rfl rfl rfl value

theorem recast?_double_single (value : Option Double) :
    Scalar.recast? ⟨.float64, value⟩ .float32 = some ⟨.float32, value.map Floating.convert⟩ :=
  recast?_plain (a := .float64) (b := .float32) (by decide) trivial trivial rfl rfl rfl value

/-- A cast leaves no trace of the one before. -/
theorem recast?_recast? (hv : v.isNaN = false) (ha : isPreservingCast v.type a = true)
    (hb : isPreservingCast v.type b = true) (hs : v.recast? a = some s) :
    s.recast? b = v.recast? b := by
  by_cases hfloat : v.type = .float32
  · obtain ⟨c, value⟩ := v
    dsimp only at hfloat
    subst hfloat
    rcases float_of_isPreservingCast ha with rfl | rfl
    · cases (recast?_self _).symm.trans hs
      rfl
    · cases (recast?_single_double value).symm.trans hs
      rcases float_of_isPreservingCast hb with rfl | rfl
      · rw [recast?_double_single, recast?_self ⟨.float32, value⟩]
        rcases value with - | x
        · rfl
        · rw [Option.map_some, Option.map_some,
            Floating.convert_convert Layout.single_isWithin_double (by decide) (by decide) hv]
      · rw [recast?_single_double]
        exact recast?_self _
  · obtain ⟨s', hs', -, hshown⟩ := exists_recast? ha
    cases hs'.symm.trans hs
    obtain ⟨r, hr, htype, hrshown⟩ := hshown.recast hb
    obtain ⟨r', hr', htype', hrshown'⟩ := exists_recast? hb
    rw [hr, hr', hrshown.unique hrshown' (htype.trans htype'.symm) hfloat]

theorem compare?_integers {signed : Bool} {width : Width} (m n : Option (BitVec width.bits)) :
    Scalar.compare? ⟨.integer signed width, m⟩ ⟨.integer signed width, n⟩ =
      (m.map (Width.toInt signed)).bind fun i ↦ (n.map (Width.toInt signed)).map (compare i) := by
  rw [Scalar.compare?_mk]
  cases m <;> cases n <;> rfl

theorem compare?_doubles {m n : Option Single} (hm : Scalar.isNaN ⟨.float32, m⟩ = false)
    (hn : Scalar.isNaN ⟨.float32, n⟩ = false) :
    Scalar.compare? ⟨.float64, m.map Floating.convert⟩ ⟨.float64, n.map Floating.convert⟩ =
      Scalar.compare? ⟨.float32, m⟩ ⟨.float32, n⟩ := by
  rw [Scalar.compare?_mk, Scalar.compare?_mk]
  rcases m with - | m
  · rfl
  · rcases n with - | n
    · rfl
    · exact congrArg some
        (Floating.compare_convert Layout.single_isWithin_double (by decide) hm hn)

section Order

variable {x y left right : Scalar}

theorem sameOrder_of_shownAs_integer {signed : Bool} {width : Width}
    {m n : Option (BitVec width.bits)} (hx : ShownAs ⟨.integer signed width, m⟩ left)
    (hy : ShownAs ⟨.integer signed width, n⟩ right) (htype : right.type = left.type) :
    SameOrder ⟨.integer signed width, m⟩ ⟨.integer signed width, n⟩ left right := by
  obtain ⟨_, _, m', rfl, hm⟩ := hx.exists_integer
  obtain ⟨_, _, n', rfl, hn⟩ := hy.exists_integer
  cases htype
  refine .of_compare? rfl trivial rfl trivial hx.isNull hy.isNull ?_
  rw [compare?_integers, compare?_integers, hm, hn]

theorem sameOrder_of_shownAs_text {layout : Storage} {m n : Option String}
    (hx : ShownAs ⟨.text layout, m⟩ left) (hy : ShownAs ⟨.text layout, n⟩ right)
    (htype : right.type = left.type) :
    SameOrder ⟨.text layout, m⟩ ⟨.text layout, n⟩ left right := by
  obtain ⟨_, rfl⟩ := hx.exists_text
  obtain ⟨_, rfl⟩ := hy.exists_text
  cases htype
  refine .of_compare? rfl trivial rfl trivial rfl rfl ?_
  rw [Scalar.compare?_mk, Scalar.compare?_mk]
  rfl

theorem sameOrder_of_recast?_single {m n : Option Single}
    (hm : Scalar.isNaN ⟨.float32, m⟩ = false) (hn : Scalar.isNaN ⟨.float32, n⟩ = false)
    (ht : t = .float32 ∨ t = .float64) (hleft : Scalar.recast? ⟨.float32, m⟩ t = some left)
    (hright : Scalar.recast? ⟨.float32, n⟩ t = some right) :
    SameOrder ⟨.float32, m⟩ ⟨.float32, n⟩ left right := by
  rcases ht with rfl | rfl
  · cases (recast?_self _).symm.trans hleft
    cases (recast?_self _).symm.trans hright
    exact .refl _ _
  · cases (recast?_single_double m).symm.trans hleft
    cases (recast?_single_double n).symm.trans hright
    exact .of_compare? rfl trivial rfl trivial (Option.isNone_map ..) (Option.isNone_map ..)
      (compare?_doubles hm hn)

/-- **A cast that is accepted keeps values apart and in order.** -/
theorem sameOrder_of_recast? (htype : y.type = x.type) (hx : x.isNaN = false)
    (hy : y.isNaN = false) (ht : isPreservingCast x.type t = true)
    (hleft : x.recast? t = some left) (hright : y.recast? t = some right) :
    SameOrder x y left right := by
  obtain ⟨s, hs, hstype, hshown⟩ := exists_recast? ht
  cases hs.symm.trans hleft
  obtain ⟨r, hr, hrtype, hshown'⟩ := exists_recast? (v := y) (htype ▸ ht)
  cases hr.symm.trans hright
  have htype' := hrtype.trans hstype.symm
  obtain ⟨c, m⟩ := x
  obtain ⟨c', n⟩ := y
  dsimp only at htype ht
  subst htype
  cases c' with
  | integer => exact sameOrder_of_shownAs_integer hshown hshown' htype'
  | text => exact sameOrder_of_shownAs_text hshown hshown' htype'
  | float32 => exact sameOrder_of_recast?_single hx hy (float_of_isPreservingCast ht) hleft hright
  | _ =>
    cases hshown.carried
    cases hshown'.carried
    exact .refl _ _

end Order

end Casts

/-! ## Columns under casts -/

/-- A column under casts, the first one innermost. -/
def underCasts (name : String) (relation : Option String) (types : List DataType) : Expr :=
  types.foldl Expr.cast (.column name relation)

theorem underCasts_append (name : String) (relation : Option String) (types : List DataType)
    (t : DataType) :
    underCasts name relation (types ++ [t]) = .cast (underCasts name relation types) t :=
  List.foldl_concat ..

variable {ctx : Context} {name : String} {relation : Option String}

/-- Casts of a column that are accepted come to the last one of them. -/
theorem exists_recast?_of_underCasts {types : List DataType} {column : Catalog.Column}
    {field : Layer.Field}
    (h : ctx.column? (underCasts name relation types) = some (column, field)) :
    ∃ t, isPreservingCast column.type.storage t = true ∧
      ∀ (ev : Evaluation) (row : Row) (v : Scalar), ev.value? row name = some v →
        v.type = column.type.storage → v.isNaN = false →
        ev.operand? row (underCasts name relation types) = v.recast? t := by
  induction types using List.reverseRecOn with
  | nil =>
    refine ⟨column.type.storage, isPreservingCast_self _, fun ev row v hv htype _ ↦ ?_⟩
    rw [← htype, recast?_self]
    exact hv
  | append_singleton types t ih =>
    rw [underCasts_append, Context.column?] at h
    obtain ⟨⟨column', field'⟩, hcolumn, hcast⟩ := Option.bind_eq_some_iff.mp h
    dsimp only at hcast
    split at hcast
    · next hpreserving =>
      cases hcast
      obtain ⟨u, hu, hoperand⟩ := ih hcolumn
      refine ⟨t, hpreserving, fun ev row v hv htype hnumber ↦ ?_⟩
      rw [underCasts_append, Evaluation.operand?, hoperand ev row v hv htype hnumber]
      rw [← htype] at hu hpreserving
      obtain ⟨s, hs, -⟩ := exists_recast? hu
      rw [hs, Option.bind_some, recast?_recast? hnumber hu hpreserving hs]
    · cases hcast

/-- What becomes of the order of values on their way to a comparison that is left to a layer. -/
structure KeepsOrder (ctx : Context) : Prop where
  /-- A column that reads a field without loss keeps any two values of the field apart and in order
  for which the reading succeeds. -/
  readings : ∀ type t, readsLosslessly type t = true → ∀ x y left right : Scalar,
    x.type = type.native → y.type = type.native → x.cast t = .ok left → y.cast t = .ok right →
      SameOrder x y left right
  /-- A column under casts that stands for the column has a value for every value of the column,
  and keeps any two of them apart and in order. -/
  casts : ∀ name relation types column field,
    ctx.column? (underCasts name relation types) = some (column, field) →
      ∀ (ev : Evaluation) (row row' : Row) (x y : Scalar), ev.value? row name = some x →
        ev.value? row' name = some y → x.type = column.type.storage →
        y.type = column.type.storage → x.isNaN = false → y.isNaN = false →
        ∃ left right, ev.operand? row (underCasts name relation types) = some left ∧
          ev.operand? row' (underCasts name relation types) = some right ∧
          SameOrder x y left right

/-- **Columns keep the order of values.** -/
theorem keepsOrder (ctx : Context) : KeepsOrder ctx where
  readings _ _ h _ _ _ _ hx hy hleft hright := sameOrder_of_reads h hx hy hleft hright
  casts name relation types column field h ev row row' x y hx hy htype htype' hnumber hnumber' := by
    obtain ⟨t, ht, hoperand⟩ := exists_recast?_of_underCasts h
    have hxt : isPreservingCast x.type t = true := htype ▸ ht
    obtain ⟨left, hleft, -⟩ := exists_recast? hxt
    obtain ⟨right, hright, -⟩ := exists_recast? (v := y) (htype' ▸ ht)
    refine ⟨left, right, ?_, ?_, ?_⟩
    · rw [hoperand ev row x hx htype hnumber, hleft]
    · rw [hoperand ev row' y hy htype' hnumber', hright]
    · exact sameOrder_of_recast? (htype'.trans htype.symm) hnumber hnumber' hxt hleft hright

end Predicate

end ForeignLayer
