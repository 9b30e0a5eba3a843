import ForeignLayer.Proofs.LiteralValue
import ForeignLayer.Proofs.PredicateTruth

/-!
# What columns show of fields

A column shows the values of a field as they come out of a cast, and a query may cast a column
again. For the casts that a filter is made through, none of that matters: nulls stay nulls, the
order of values stays as it is, and a constant that is compared with what is shown compares as it
would with the field.
-/

namespace ForeignLayer.Predicate

open ForeignLayer.Convert Number ForeignLayer.Filter

-- Powers are the core library's, whichever other instances are in scope.
attribute [local instance (high)] instPowNat

/-! ## Nulls -/

theorem isNull_of_native {type : FieldType} {t : DataType} (ht : t.IsPlain) {s shown : Scalar}
    (hs : s.type = type.native) (h : s.cast t = .ok shown) : shown.isNull = s.isNull := by
  obtain ⟨a, value⟩ := s
  dsimp only at hs
  subst hs
  cases type with
  | integerList => exact Scalar.isNull_of_cast_list ht h
  | integer64List => exact Scalar.isNull_of_cast_list ht h
  | realList => exact Scalar.isNull_of_cast_list ht h
  | stringList => exact Scalar.isNull_of_cast_list ht h
  | wideStringList => exact Scalar.isNull_of_cast_list ht h
  | _ => exact Scalar.isNull_of_cast trivial ht h

/-! ## Casts of columns -/

/-- What is still known of the value of a column under casts that keep its values distinct and in
order: integers and texts are the same ones in another type. -/
structure ShownAs (v s : Scalar) : Prop where
  isNull : s.isNull = v.isNull
  carried : match v.type with
    | .integer .. => s.type.isInteger = true ∧ s.integer? = v.integer?
    | .text _ => s.type.isText = true ∧ s.text? = v.text?
    | .float32 => s.type = .float32 ∨ s.type = .float64
    | _ => s = v

theorem ShownAs.refl (v : Scalar) : ShownAs v v := by
  refine ⟨rfl, ?_⟩
  obtain ⟨t, value⟩ := v
  cases t <;> first | rfl | exact ⟨rfl, rfl⟩ | exact Or.inl rfl

theorem recast?_self (s : Scalar) : s.recast? s.type = some s := if_pos rfl

theorem recast?_of_cast {s there : Scalar} {t : DataType} (hne : s.type ≠ t)
    (h : s.cast t = .ok there) : s.recast? t = some there := by
  rw [Scalar.recast?, if_neg hne, h]
  rfl

/-- Integers go to every type that has a place for them. -/
theorem recast?_integer {s : Scalar} (hs : s.type.isInteger = true) {signed : Bool} {width : Width}
    (hrange : ∀ n ∈ s.integer?, minOf signed width ≤ n ∧ n ≤ maxOf signed width) :
    ∃ s', s.recast? (.integer signed width) = some s' ∧ s'.type = .integer signed width ∧
      s'.isNull = s.isNull ∧ s'.integer? = s.integer? := by
  obtain ⟨t, value⟩ := s
  by_cases hne : t = .integer signed width
  · subst hne
    exact ⟨_, recast?_self _, rfl, rfl, rfl⟩
  · cases t with
    | integer signed' width' =>
      cases value with
      | none =>
        have hcast := Scalar.cast_null hne trivial trivial rfl rfl rfl
        exact ⟨.nullOf _, recast?_of_cast hne hcast, rfl, rfl, rfl⟩
      | some v =>
        obtain ⟨hlow, hhigh⟩ := hrange _ rfl
        obtain ⟨w, hw, htoInt⟩ := exists_toWord hlow hhigh
        refine ⟨.of _ w, recast?_of_cast hne ?_, rfl, rfl, congrArg some htoInt⟩
        have hcast := @Scalar.cast_word signed' signed _ width v
        rw [hw] at hcast
        exact hcast
    | _ => cases hs

/-- A conversion that refuses nothing applies to values and nulls alike. -/
theorem recast?_plain {a b : DataType} (hne : a ≠ b) (ha : a.IsPlain) (hb : b.IsPlain)
    (hstorable : isStorable a = true) (hstorable' : isStorable b = true)
    {g : a.Carrier → b.Carrier} (hg : plain? a b = some fun v ↦ .ok (g v))
    (value : Option a.Carrier) : Scalar.recast? ⟨a, value⟩ b = some ⟨b, value.map g⟩ := by
  refine recast?_of_cast hne ?_
  cases value with
  | none => exact Scalar.cast_null hne ha hb hstorable hstorable' hg
  | some v => exact Scalar.cast_of hne ha hb hstorable hstorable' hg v

theorem recast?_text (source layout : Storage) (value : Option String) :
    Scalar.recast? ⟨.text source, value⟩ (.text layout) = some ⟨.text layout, value⟩ := by
  by_cases h : source = layout
  · subst h
    exact recast?_self _
  · have hcast := recast?_plain (a := .text source) (b := .text layout) (g := id) (by simp [h])
      trivial trivial rfl rfl rfl value
    rwa [Option.map_id] at hcast

theorem recast?_float {s : Scalar} (hs : s.type = .float32 ∨ s.type = .float64) {t : DataType}
    (ht : t = .float32 ∨ t = .float64) :
    ∃ s', s.recast? t = some s' ∧ s'.type = t ∧ s'.isNull = s.isNull := by
  obtain ⟨a, value⟩ := s
  rcases hs with rfl | rfl <;> rcases ht with rfl | rfl
  · exact ⟨_, recast?_self _, rfl, rfl⟩
  · have hcast := recast?_plain (a := .float32) (b := .float64) (by decide) trivial trivial rfl rfl
      rfl value
    exact ⟨_, hcast, rfl, Option.isNone_map ..⟩
  · have hcast := recast?_plain (a := .float64) (b := .float32) (by decide) trivial trivial rfl rfl
      rfl value
    exact ⟨_, hcast, rfl, Option.isNone_map ..⟩
  · exact ⟨_, recast?_self _, rfl, rfl⟩

theorem isPreservingCast_self (t : DataType) : isPreservingCast t t = true := by
  unfold isPreservingCast
  exact if_pos rfl

theorem range_of_isPreservingCast {signed signed' : Bool} {a b : Width}
    (h : isPreservingCast (.integer signed a) (.integer signed' b) = true) :
    minOf signed' b ≤ minOf signed a ∧ maxOf signed a ≤ maxOf signed' b := by
  revert h
  cases signed <;> cases signed' <;> cases a <;> cases b <;> decide

/-- A cast that keeps the values of a column distinct and in order applies to all that is left of
them after other such casts. -/
theorem ShownAs.recast {v s : Scalar} (h : ShownAs v s) {t : DataType}
    (ht : isPreservingCast v.type t = true) :
    ∃ s', s.recast? t = some s' ∧ s'.type = t ∧ ShownAs v s' := by
  obtain ⟨hnull, hcarried⟩ := h
  obtain ⟨a, value⟩ := v
  cases a with
  | integer signed width =>
    obtain ⟨hinteger, hvalue⟩ := hcarried
    obtain ⟨signed', width', rfl⟩ : ∃ signed' width', t = .integer signed' width' := by
      cases t <;> first | exact ⟨_, _, rfl⟩ | simp [isPreservingCast] at ht
    obtain ⟨hlow, hhigh⟩ := range_of_isPreservingCast ht
    have hrange : ∀ n ∈ s.integer?, minOf signed' width' ≤ n ∧ n ≤ maxOf signed' width' := by
      intro n hn
      rw [hvalue] at hn
      obtain ⟨w, -, rfl⟩ := Option.map_eq_some_iff.mp hn
      have hw := toInt_mem_range signed w
      exact ⟨hlow.trans hw.1, hw.2.trans hhigh⟩
    obtain ⟨s', hs', htype, hnull', hvalue'⟩ := recast?_integer hinteger hrange
    refine ⟨s', hs', htype, hnull'.trans hnull, ?_, hvalue'.trans hvalue⟩
    rw [htype]
    rfl
  | text layout =>
    obtain ⟨htext, hvalue⟩ := hcarried
    obtain ⟨layout', rfl⟩ : ∃ layout', t = .text layout' := by
      cases t <;> first | exact ⟨_, rfl⟩ | simp [isPreservingCast] at ht
    obtain ⟨b, value'⟩ := s
    obtain ⟨source, rfl⟩ : ∃ source, b = .text source := by
      cases b <;> first | exact ⟨_, rfl⟩ | cases htext
    exact ⟨_, recast?_text source layout' value', rfl, hnull, rfl, hvalue⟩
  | float32 =>
    have ht' : t = .float32 ∨ t = .float64 := by
      cases t <;> first | exact Or.inl rfl | exact Or.inr rfl | simp [isPreservingCast] at ht
    obtain ⟨s', hs', htype, hnull'⟩ := recast?_float hcarried ht'
    refine ⟨s', hs', htype, hnull'.trans hnull, ?_⟩
    rw [htype]
    exact ht'
  | _ =>
    -- the other types are cast only to themselves
    have hsame : s = _ := hcarried
    subst hsame
    simp only [isPreservingCast] at ht
    split at ht
    · next htype =>
      subst htype
      exact ⟨_, recast?_self _, rfl, .refl _⟩
    · cases ht

/-! ## The order of values -/

theorem compare?_of {t : DataType} (a b : t.Carrier) :
    (Scalar.of t a).compare? (.of t b) = Scalar.compareValues t a b := by
  rw [Scalar.compare?]
  exact dif_pos rfl

theorem compare?_eq_none_of_isNull {s : Scalar} (h : s.isNull = true) (other : Scalar) :
    s.compare? other = none ∧ other.compare? s = none := by
  obtain ⟨t, value⟩ := s
  cases value with
  | some v => cases h
  | none =>
    constructor
    · unfold Scalar.compare?
      split <;> rfl
    · unfold Scalar.compare?
      split
      · next htype =>
        obtain ⟨t', value'⟩ := other
        dsimp only at htype
        subst htype
        cases value' <;> rfl
      · rfl

theorem compare_thousandfold (m n : Int) : compare (m * 1000) (n * 1000) = compare m n := by
  rcases lt_trichotomy m n with h | h | h
  · rw [compare_lt_iff_lt.mpr h, compare_lt_iff_lt]
    omega
  · rw [h]
    simp
  · rw [compare_gt_iff_gt.mpr h, compare_gt_iff_gt]
    omega

section Order

variable {left right : Scalar}

theorem compare?_cast_self {t : DataType} (hstorable : isStorable t = true) {x y : t.Carrier}
    (hx : (Scalar.of t x).cast t = .ok left) (hy : (Scalar.of t y).cast t = .ok right) :
    left.compare? right = (Scalar.of t x).compare? (.of t y) := by
  have hcast (v : t.Carrier) := Scalar.cast_self (s := .of t v) hstorable
  cases (hcast x).symm.trans hx
  cases (hcast y).symm.trans hy
  rfl

theorem compare?_cast_integer {source target : Width} {x y : BitVec source.bits}
    (hx : (Scalar.of (.integer true source) x).cast (.integer true target) = .ok left)
    (hy : (Scalar.of (.integer true source) y).cast (.integer true target) = .ok right) :
    left.compare? right =
      (Scalar.of (.integer true source) x).compare? (.of (.integer true source) y) := by
  rw [Scalar.cast_integer, Scalar.map_of_eq_ok] at hx hy
  obtain ⟨v, hv, rfl⟩ := hx
  obtain ⟨w, hw, rfl⟩ := hy
  rw [compare?_of, compare?_of]
  show some (compare v.toInt w.toInt) = some (compare x.toInt y.toInt)
  rw [toWord_eq_ok.mp hv, toWord_eq_ok.mp hw]

theorem compare?_cast_text {storage : Storage} {x y : String}
    (hx : (Scalar.of .utf8 x).cast (.text storage) = .ok left)
    (hy : (Scalar.of .utf8 y).cast (.text storage) = .ok right) :
    left.compare? right = (Scalar.of .utf8 x).compare? (.of .utf8 y) := by
  cases (Scalar.cast_text .regular storage x).symm.trans hx
  cases (Scalar.cast_text .regular storage y).symm.trans hy
  rw [compare?_of, compare?_of]
  rfl

theorem compare?_cast_time {x y : BitVec 64}
    (hx : (Scalar.of (.time64 .microsecond) x).cast (.time64 .nanosecond) = .ok left)
    (hy : (Scalar.of (.time64 .microsecond) y).cast (.time64 .nanosecond) = .ok right) :
    left.compare? right =
      (Scalar.of (.time64 .microsecond) x).compare? (.of (.time64 .microsecond) y) := by
  rw [Scalar.cast_time rfl rfl, Scalar.map_of_eq_ok] at hx hy
  obtain ⟨v, hv, rfl⟩ := hx
  obtain ⟨w, hw, rfl⟩ := hy
  rw [compare?_of, compare?_of]
  show some (compare v.toInt w.toInt) = some (compare x.toInt y.toInt)
  rw [promised_eq_ok.mp hv, promised_eq_ok.mp hw]
  exact congrArg some (compare_thousandfold x.toInt y.toInt)

theorem compare?_cast_stamp {x y : BitVec 64}
    (hx : (Scalar.of (.timestamp .microsecond none) x).cast (.timestamp .nanosecond none) =
      .ok left)
    (hy : (Scalar.of (.timestamp .microsecond none) y).cast (.timestamp .nanosecond none) =
      .ok right) :
    left.compare? right =
      (Scalar.of (.timestamp .microsecond none) x).compare?
        (.of (.timestamp .microsecond none) y) := by
  rw [Scalar.cast_stamp, Scalar.map_of_eq_ok] at hx hy
  obtain ⟨v, hv, rfl⟩ := hx
  obtain ⟨w, hw, rfl⟩ := hy
  rw [compare?_of, compare?_of]
  show some (compare v.toInt w.toInt) = some (compare x.toInt y.toInt)
  rw [(@toWord_eq_ok .w64 _ _).mp hv, (@toWord_eq_ok .w64 _ _).mp hw]
  exact congrArg some (compare_thousandfold x.toInt y.toInt)

/-- **A column that reads a field without loss keeps the order of its values.** Counts of time may
outgrow their word on the way, but then they are not read at all. -/
theorem compare?_cast {type : FieldType} {t : DataType} (h : readsLosslessly type t = true)
    {x y : type.native.Carrier} (hx : (Scalar.of type.native x).cast t = .ok left)
    (hy : (Scalar.of type.native y).cast t = .ok right) :
    left.compare? right = (Scalar.of type.native x).compare? (.of type.native y) := by
  unfold readsLosslessly at h
  split at h
  · exact compare?_cast_self (t := .int32) rfl hx hy
  · exact @compare?_cast_integer _ _ .w32 .w64 x y hx hy
  · exact compare?_cast_self (t := .int64) rfl hx hy
  · exact compare?_cast_self (t := .float64) rfl hx hy
  · exact compare?_cast_text hx hy
  · exact compare?_cast_text hx hy
  · exact compare?_cast_self (t := .date32) rfl hx hy
  · exact compare?_cast_self (t := .time64 .microsecond) rfl hx hy
  · exact compare?_cast_time hx hy
  · exact compare?_cast_self (t := .timestamp .microsecond none) rfl hx hy
  · exact compare?_cast_stamp hx hy
  · cases h

/-- A layer compares values of a field in a type that keeps their order. -/
theorem compare?_comparisonType {type : FieldType} {x y : type.native.Carrier}
    (hx : (Scalar.of type.native x).cast (comparisonType type) = .ok left)
    (hy : (Scalar.of type.native y).cast (comparisonType type) = .ok right) :
    left.compare? right = (Scalar.of type.native x).compare? (.of type.native y) := by
  cases type with
  | integer => exact @compare?_cast_integer _ _ .w32 .w64 x y hx hy
  | _ => exact compare?_cast_self rfl hx hy

end Order

/-! ## Constants -/

theorem recast?_of_cast_ok {s there : Scalar} {t : DataType} (hstorable : isStorable t = true)
    (h : s.cast t = .ok there) : s.recast? t = some there := by
  by_cases hne : s.type = t
  · subst hne
    cases (Scalar.cast_self hstorable).symm.trans h
    exact recast?_self s
  · exact recast?_of_cast hne h

/-- The conversion of a number to a signed integer goes by way of its integer part. -/
theorem plain?_integer {t : DataType} (ht : t.isNumeric = true) (width : Width) :
    plain? t (.integer true width) =
      (toInteger? t).map fun f v ↦ f v >>= toWord true width := by
  cases t with
  | decimal precision scale =>
    simp only [plain?, number?, toInteger?, ofInteger?, calendar?, time?, timeOfDay?,
      timeToInteger?]
    cases decimalToInt? scale <;> rfl
  | integer => rfl
  | float32 => rfl
  | float64 => rfl
  | _ => cases ht

/-- A number is cast to signed integers of any width through one integer, if it has one. -/
theorem exists_cast_number {t : DataType} (ht : t.isNumeric = true)
    (hstorable : isStorable t = true) (x : t.Carrier) : ∃ r : Convert.Result Int, ∀ width : Width,
      (Scalar.of t x).cast (.integer true width) =
        (r >>= toWord true width).map (Scalar.of (.integer true width)) := by
  by_cases hinteger : t.isInteger = true
  · cases t with
    | integer signed source => exact ⟨.ok (Width.toInt signed x), fun width ↦ Scalar.cast_word x⟩
    | _ => cases hinteger
  · have hplain : t.IsPlain := by
      cases t <;> trivial
    have hne (width : Width) : t ≠ .integer true width := by
      rintro rfl
      exact hinteger rfl
    cases hf : toInteger? t with
    | some f =>
      refine ⟨f x, fun width ↦ ?_⟩
      have hconversion : plain? t (.integer true width) =
          some fun v ↦ f v >>= toWord true width := by
        rw [plain?_integer ht, hf]
        rfl
      exact Scalar.cast_of (b := .integer true width) (hne width) hplain trivial hstorable rfl
        hconversion x
    | none =>
      refine ⟨.error .unsupported, fun width ↦ ?_⟩
      have hnone : nullable? (.integer true width) t = none := by
        rw [nullable?_plain (b := .integer true width) (hne width) hplain trivial,
          plain?_integer ht, hf]
        rfl
      simp only [Scalar.cast, Scalar.of, hstorable, hnone, Bool.not_true, Bool.false_eq_true,
        if_false]
      rfl

/-- A number that is an integer of a width is the same one in every greater width. -/
theorem cast_number_of_le {s : Scalar} (hs : s.type.isNumeric = true) {width target : Width}
    (hle : width.bits ≤ target.bits) {v : BitVec width.bits}
    (h : s.cast (.integer true width) = .ok (.of (.integer true width) v)) :
    s.cast (.integer true target) =
      .ok (.of (.integer true target) (BitVec.ofInt target.bits v.toInt)) := by
  obtain ⟨t, value⟩ := s
  have hplain : t.IsPlain := by
    cases t <;> trivial
  have hstorable : isStorable t = true := by
    unfold Scalar.cast at h
    split at h
    · cases h
    · next hnot => simpa using hnot
  have hnull : (Scalar.of (.integer true width) v).isNull = _ :=
    @Scalar.isNull_of_cast (.integer true width) _ _ hplain trivial h
  cases value with
  | none => cases hnull
  | some x =>
    -- both casts go through one integer, and only the range of the width can refuse it
    obtain ⟨r, hr⟩ := exists_cast_number hs hstorable x
    have hwidth := (hr width).symm.trans h
    rw [Scalar.map_of_eq_ok] at hwidth
    obtain ⟨w, hw, hv⟩ := hwidth
    cases hv
    refine (hr target).trans ?_
    cases r with
    | error fault => cases hw
    | ok n =>
      have hn : v.toInt = n := toWord_eq_ok.mp hw
      subst hn
      show (toWord true target v.toInt).map _ = _
      rw [toWord_of_le hle]
      rfl

theorem isNumeric_of_family {t : DataType} (h : Family.of t = .numeric) : t.isNumeric = true := by
  cases t <;> first | rfl | cases h

theorem isText_of_family {t : DataType} (h : Family.of t = .text) :
    ∃ storage, t = .text storage := by
  cases t with
  | text storage => exact ⟨storage, rfl⟩
  | _ => cases h

theorem width_of_isPreservingCast {a : Width} {t : DataType}
    (h : isPreservingCast (.integer true a) t = true) :
    ∃ b, t = .integer true b ∧ a.bits ≤ b.bits := by
  cases t with
  | integer signed b =>
    cases signed with
    | true =>
      refine ⟨b, rfl, ?_⟩
      simp only [isPreservingCast] at h
      split at h
      · next heq =>
        cases heq
        exact Nat.le_refl _
      · exact Nat.le_of_lt (of_decide_eq_true h)
    | false => simp [isPreservingCast] at h
  | _ => simp [isPreservingCast] at h

section Recast

variable {s constant : Scalar}

theorem compare?_integer {width : Width} (x : Option (BitVec width.bits)) (c : BitVec width.bits) :
    Scalar.compare? ⟨.integer true width, x⟩ (.of (.integer true width) c) =
      (x.map (Width.toInt true)).map (compare · c.toInt) := by
  cases x with
  | none =>
    rw [Scalar.compare?]
    exact dif_pos rfl
  | some x => exact compare?_of (t := .integer true width) x c

theorem compare?_text {storage : Storage} (x : Option String) (c : String) :
    Scalar.compare? ⟨.text storage, x⟩ (.of (.text storage) c) =
      x.bind (Scalar.compareValues .utf8 · c) := by
  cases x with
  | none =>
    rw [Scalar.compare?]
    exact dif_pos rfl
  | some x => exact compare?_of (t := .text storage) x c

theorem compare?_recast_integer {width : Width} {value : Option (BitVec width.bits)}
    (hs : ShownAs ⟨.integer true width, value⟩ s)
    (hpreserving : isPreservingCast (.integer true width) s.type = true)
    (hnumeric : constant.type.isNumeric = true) {c : BitVec width.bits}
    (hc : constant.cast (.integer true width) = .ok (.of (.integer true width) c)) :
    ∃ c', constant.recast? s.type = some c' ∧
      s.compare? c' =
        Scalar.compare? ⟨.integer true width, value⟩ (.of (.integer true width) c) := by
  obtain ⟨target, htype, hle⟩ := width_of_isPreservingCast hpreserving
  obtain ⟨-, hvalue⟩ := hs.carried
  obtain ⟨t, value'⟩ := s
  dsimp only at htype
  subst htype
  have hsame : value'.map (Width.toInt true) = value.map (Width.toInt true) := hvalue
  refine ⟨_, recast?_of_cast_ok rfl (cast_number_of_le hnumeric hle hc), ?_⟩
  rw [compare?_integer, compare?_integer, hsame, toInt_ofInt_of_le hle]

theorem compare?_recast_text {storage : Storage} {value : Option String}
    (hs : ShownAs ⟨.text storage, value⟩ s)
    (hfamily : Family.of constant.type = .text) {c : String}
    (hc : constant.cast (.text storage) = .ok (.of (.text storage) c)) :
    ∃ c', constant.recast? s.type = some c' ∧
      s.compare? c' = Scalar.compare? ⟨.text storage, value⟩ (.of (.text storage) c) := by
  obtain ⟨htext, hvalue⟩ := hs.carried
  obtain ⟨t, value'⟩ := s
  obtain ⟨layout, rfl⟩ : ∃ layout, t = .text layout := by
    cases t <;> first | exact ⟨_, rfl⟩ | cases htext
  have hsame : value' = value := hvalue
  obtain ⟨t, k⟩ := constant
  obtain ⟨source, rfl⟩ := isText_of_family hfamily
  have hk := recast?_of_cast_ok (t := .text storage) rfl hc
  rw [recast?_text] at hk
  cases hk
  refine ⟨_, recast?_text source layout (some c), ?_⟩
  rw [hsame]
  exact (compare?_text value c).trans (compare?_text value c).symm

/-- **A constant compares with what is shown of a column as with the value of the column**, if it is
of the same family and has a place in the type of the column. -/
theorem compare?_recast {type : FieldType} {t : DataType}
    (hlossless : readsLosslessly type t = true) {v : Scalar} (hv : v.type = t) (hs : ShownAs v s)
    (hpreserving : isPreservingCast t s.type = true)
    (hfamily : Family.of constant.type = Family.of t) {c : t.Carrier}
    (hc : constant.cast t = .ok (.of t c)) :
    ∃ c', constant.recast? s.type = some c' ∧ s.compare? c' = v.compare? (.of t c) := by
  have hplain (hstorable : isStorable t = true) (hsame : s = v) :
      ∃ c', constant.recast? s.type = some c' ∧ s.compare? c' = v.compare? (.of t c) := by
    subst hsame
    rw [hv]
    exact ⟨_, recast?_of_cast_ok hstorable hc, rfl⟩
  have hcarried := hs.carried
  obtain ⟨t', value⟩ := v
  dsimp only at hv
  subst hv
  unfold readsLosslessly at hlossless
  split at hlossless
  · exact compare?_recast_integer hs hpreserving (isNumeric_of_family hfamily) hc
  · exact compare?_recast_integer hs hpreserving (isNumeric_of_family hfamily) hc
  · exact compare?_recast_integer hs hpreserving (isNumeric_of_family hfamily) hc
  · exact hplain rfl hcarried
  · exact compare?_recast_text hs hfamily hc
  · exact compare?_recast_text hs hfamily hc
  · exact hplain rfl hcarried
  · exact hplain rfl hcarried
  · exact hplain rfl hcarried
  · exact hplain rfl hcarried
  · exact hplain rfl hcarried
  · cases hlossless

end Recast

end ForeignLayer.Predicate
