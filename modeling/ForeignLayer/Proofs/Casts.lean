import ForeignLayer.Proofs.Results
import ForeignLayer.Value.Cast

/-!
# Casts between plain types

Casting a value of a type that is neither a list nor the type of nulls to another such type applies
the conversion of the pair of types to the value, keeps nulls, and does nothing between equal types.
-/

namespace ForeignLayer

open ForeignLayer.Convert

-- Powers are the core library's, whichever other instances are in scope.
attribute [local instance (high)] instPowNat

/-- Whether a type is neither a list nor the type of nulls. -/
def DataType.IsPlain : DataType → Prop
  | null | list .. => False
  | _ => True

namespace Convert

variable {a b : DataType}

theorem nullable?_self (a : DataType) : nullable? a a = some Except.ok := by
  unfold nullable?
  rw [dif_pos rfl]

/-- Between different plain types, the conversion is the one of the pair of types. -/
theorem nullable?_plain (hne : a ≠ b) (ha : a.IsPlain) (hb : b.IsPlain) :
    nullable? b a = if isStorable b then (plain? a b).map keepNull else none := by
  have htoPlain : toPlain? b a = if isStorable b then (plain? a b).map keepNull else none := by
    unfold toPlain?
    split
    · exact ha.elim
    · exact ha.elim
    · rw [dif_neg hne]
      split
      · exact hb.elim
      · rfl
  unfold nullable?
  rw [dif_neg hne]
  split
  · exact ha.elim
  · exact hb.elim
  · exact hb.elim
  · exact htoPlain

theorem toInt_mem_range (signed : Bool) {width : Width} (v : BitVec width.bits) :
    minOf signed width ≤ Width.toInt signed v ∧ Width.toInt signed v ≤ maxOf signed width := by
  have hlow := v.le_toInt
  have hhigh := v.toInt_lt
  have hnat := v.isLt
  unfold minOf maxOf Width.toInt
  cases width <;> cases signed <;>
    simp only [Width.bits, if_true, Bool.false_eq_true, if_false] at * <;> omega

theorem toInt_ofInt_of_range {signed : Bool} {width : Width} {n : Int}
    (hlow : minOf signed width ≤ n) (hhigh : n ≤ maxOf signed width) :
    Width.toInt signed (BitVec.ofInt width.bits n) = n := by
  unfold minOf maxOf at *
  unfold Width.toInt
  cases signed with
  | true =>
    simp only [if_true] at *
    cases width <;> simp only [Width.bits] at * <;>
      exact BitVec.toInt_ofInt_eq_self (by decide) (by omega) (by omega)
  | false =>
    simp only [Bool.false_eq_true, if_false] at *
    rw [BitVec.toNat_ofInt]
    cases width <;> simp only [Width.bits] at * <;> omega

theorem toInt_inj {signed : Bool} {width : Width} {v w : BitVec width.bits}
    (h : Width.toInt signed v = Width.toInt signed w) : v = w := by
  unfold Width.toInt at h
  split at h
  · exact BitVec.toInt_inj.mp h
  · exact BitVec.toNat_inj.mp (Int.ofNat_inj.mp h)

theorem toWord_eq_ok_iff {signed : Bool} {width : Width} {n : Int} {v : BitVec width.bits} :
    toWord signed width n = .ok v ↔ Width.toInt signed v = n := by
  unfold toWord word?
  constructor
  · intro h
    split at h
    · next hrange =>
      cases h
      exact toInt_ofInt_of_range hrange.1 hrange.2
    · cases h
  · rintro rfl
    have hrange := toInt_mem_range signed v
    rw [if_pos hrange]
    exact congrArg Except.ok (toInt_inj (toInt_ofInt_of_range hrange.1 hrange.2))

theorem toWord_eq_ok {width : Width} {n : Int} {v : BitVec width.bits} :
    toWord true width n = .ok v ↔ v.toInt = n :=
  toWord_eq_ok_iff

theorem promised_eq_ok {bits : Nat} {n : Int} {v : BitVec bits} :
    promised n = .ok v ↔ v.toInt = n := by
  unfold promised
  constructor
  · intro h
    dsimp only at h
    split at h
    · next hfits =>
      cases h
      exact hfits
    · cases h
  · rintro rfl
    rw [BitVec.ofInt_toInt]
    exact if_pos rfl

theorem exists_toWord {signed : Bool} {width : Width} {n : Int} (hlow : minOf signed width ≤ n)
    (hhigh : n ≤ maxOf signed width) :
    ∃ v : BitVec width.bits, toWord signed width n = .ok v ∧ Width.toInt signed v = n :=
  ⟨_, toWord_eq_ok_iff.mpr (toInt_ofInt_of_range hlow hhigh), toInt_ofInt_of_range hlow hhigh⟩

theorem toInt_ofInt_of_le {width target : Width} (h : width.bits ≤ target.bits)
    (v : BitVec width.bits) : (BitVec.ofInt target.bits v.toInt).toInt = v.toInt := by
  have hlow := v.le_toInt
  have hhigh := v.toInt_lt
  cases width <;> cases target <;> simp only [Width.bits] at * <;>
    exact BitVec.toInt_ofInt_eq_self (by decide) (by omega) (by omega)

theorem toWord_of_le {width target : Width} (h : width.bits ≤ target.bits)
    (v : BitVec width.bits) :
    toWord true target v.toInt = .ok (BitVec.ofInt target.bits v.toInt) :=
  toWord_eq_ok.mpr (toInt_ofInt_of_le h v)

theorem toWord_toInt {width : Width} (v : BitVec width.bits) :
    toWord true width v.toInt = .ok v :=
  toWord_eq_ok.mpr rfl

theorem rescaleTime_self (unit : TimeUnit) (n : Int) : rescaleTime unit unit n = n := by
  rw [rescaleTime, if_pos (Nat.le_refl _), Nat.div_self (by cases unit <;> decide)]
  exact Int.mul_one _

/-- Nanoseconds that are cut to microseconds and brought back fit their count. -/
theorem toInt_micros (n : BitVec 64) :
    (BitVec.ofInt 64 (n.toInt.tdiv 1000)).toInt = n.toInt.tdiv 1000 ∧
      (BitVec.ofInt 64 (n.toInt.tdiv 1000 * 1000)).toInt = n.toInt.tdiv 1000 * 1000 := by
  have hlow := n.le_toInt
  have hhigh := n.toInt_lt
  generalize n.toInt = i at *
  have hdiv : i.tdiv 1000 = if 0 ≤ i then i / 1000 else -(-i / 1000) := by
    split
    · next hnonneg => exact Int.tdiv_eq_ediv_of_nonneg hnonneg
    · rw [← Int.tdiv_eq_ediv_of_nonneg (by omega), Int.neg_tdiv, neg_neg]
  constructor <;> refine BitVec.toInt_ofInt_eq_self (by decide) ?_ ?_ <;> split at hdiv <;> omega

end Convert

namespace Scalar

theorem cast_self {s : Scalar} (h : isStorable s.type = true) : s.cast s.type = .ok s := by
  simp only [cast, h, nullable?_self]
  rfl

variable {a b : DataType}

theorem cast_of (hne : a ≠ b) (ha : a.IsPlain) (hb : b.IsPlain) (hstorable : isStorable a = true)
    (hstorable' : isStorable b = true) {f : Convert.Conversion a b} (hf : plain? a b = some f)
    (v : a.Carrier) : (Scalar.of a v).cast b = (f v).map (Scalar.of b) := by
  simp only [cast, Scalar.of, hstorable, nullable?_plain hne ha hb, hstorable', if_true, hf,
    Bool.not_true, Bool.false_eq_true, if_false, Option.map_some, keepNull]
  cases f v <;> rfl

theorem cast_null (hne : a ≠ b) (ha : a.IsPlain) (hb : b.IsPlain)
    (hstorable : isStorable a = true) (hstorable' : isStorable b = true)
    {f : Convert.Conversion a b} (hf : plain? a b = some f) :
    (Scalar.nullOf a).cast b = .ok (.nullOf b) := by
  simp only [cast, Scalar.nullOf, hstorable, nullable?_plain hne ha hb, hstorable', if_true, hf,
    Bool.not_true, Bool.false_eq_true, if_false, Option.map_some, keepNull]
  rfl

theorem map_of_eq_ok {t : DataType} {r : Result t.Carrier} {s : Scalar} :
    r.map (Scalar.of t) = .ok s ↔ ∃ v, r = .ok v ∧ s = .of t v :=
  map_eq_ok.trans (exists_congr fun _ ↦ and_congr_right fun _ ↦ eq_comm)

theorem type_of_cast {s there : Scalar} {t : DataType} (h : s.cast t = .ok there) :
    there.type = t := by
  unfold cast at h
  split at h
  · cases h
  · split at h
    · cases h
    · next f hf =>
      obtain ⟨w, -, ⟨⟩⟩ := bind_eq_ok.mp h
      rfl

/-! ## Nulls -/

/-- Casts between plain types give nulls for nulls and values for values. -/
theorem isNull_of_cast {s there : Scalar} (ha : s.type.IsPlain) (hb : b.IsPlain)
    (h : s.cast b = .ok there) : there.isNull = s.isNull := by
  obtain ⟨a, value⟩ := s
  unfold cast at h
  split at h
  · cases h
  · by_cases hne : a = b
    · subst hne
      rw [nullable?_self] at h
      cases h
      rfl
    · rw [nullable?_plain hne ha hb] at h
      split at h
      · cases h
      · next f hf =>
        split at hf
        · obtain ⟨g, -, rfl⟩ := Option.map_eq_some_iff.mp hf
          cases value with
          | none => cases h; rfl
          | some v =>
            obtain ⟨w, hw, ⟨⟩⟩ := bind_eq_ok.mp h
            obtain ⟨x, -, rfl⟩ := map_eq_ok.mp hw
            rfl
        · cases hf

/-- A list is cast to a plain type only as a text, and as a whole. -/
theorem isNull_of_cast_list {element : DataType} {value : Option (List (Option element.Carrier))}
    {there : Scalar} (hb : b.IsPlain)
    (h : cast ⟨.list .regular element [], value⟩ b = .ok there) :
    there.isNull = value.isNone := by
  cases b with
  | text layout =>
    have htext : nullable? (.text layout) (.list .regular element []) =
        (listToText? element .regular layout).map fun f v ↦ v.mapM f := by
      simp [nullable?, toPlain?]
    rw [cast, htext] at h
    simp only [isStorable, Bool.not_true, Bool.false_eq_true, if_false] at h
    split at h
    · cases h
    · next g hg =>
      obtain ⟨f, -, rfl⟩ := Option.map_eq_some_iff.mp hg
      obtain ⟨w, hw, ⟨⟩⟩ := bind_eq_ok.mp h
      cases value with
      | none =>
        cases hw
        rfl
      | some vs =>
        obtain ⟨text, -, ⟨⟩⟩ := map_eq_ok.mp hw
        rfl
  | null => exact hb.elim
  | list => exact hb.elim
  | _ => simp [cast, isStorable, nullable?, toPlain?] at h

/-! ## Casts of single types -/

theorem cast_ofText (hne : b ≠ .utf8) (hb : b.IsPlain) (hstorable : isStorable b = true)
    {f : String → Result b.Carrier} (hf : ofText? b = some f) (s : String) :
    (Scalar.ofText s).cast b = (f s).map (Scalar.of b) :=
  cast_of (a := .utf8) hne.symm trivial hb rfl hstorable hf s

theorem cast_ofText_integer (width : Width) (s : String) :
    (Scalar.ofText s).cast (.integer true width) =
      (readWord true width s.toList).map (Scalar.of (.integer true width)) :=
  cast_ofText (b := .integer true width) (by simp) trivial rfl rfl s

theorem cast_ofText_time {unit : TimeUnit} (h : isShortUnit unit = false) (s : String) :
    (Scalar.ofText s).cast (.time64 unit) =
      (readTime unit .w64 s.toList).map (Scalar.of (.time64 unit)) := by
  cases unit <;> cases h
  · exact cast_ofText (b := .time64 .microsecond) (by simp) trivial rfl rfl s
  · exact cast_ofText (b := .time64 .nanosecond) (by simp) trivial rfl rfl s

theorem cast_ofText_stamp (unit : TimeUnit) (s : String) :
    (Scalar.ofText s).cast (.timestamp unit none) =
      (readStamp unit none s.toList).map (Scalar.of (.timestamp unit none)) :=
  cast_ofText (b := .timestamp unit none) (by simp) trivial rfl rfl s

theorem cast_text (source target : Storage) (s : String) :
    (Scalar.of (.text source) s).cast (.text target) = .ok (.of (.text target) s) := by
  by_cases h : source = target
  · subst h
    exact cast_self rfl
  · exact cast_of (a := .text source) (b := .text target) (by simp [h]) trivial trivial rfl rfl
      rfl s

theorem cast_word {signed signed' : Bool} {width target : Width} (v : BitVec width.bits) :
    (Scalar.of (.integer signed width) v).cast (.integer signed' target) =
      (toWord signed' target (Width.toInt signed v)).map (Scalar.of (.integer signed' target)) := by
  by_cases h : DataType.integer signed width = .integer signed' target
  · cases h
    rw [toWord_eq_ok_iff.mpr rfl]
    exact cast_self rfl
  · exact cast_of (a := .integer signed width) (b := .integer signed' target) h trivial trivial
      rfl rfl rfl v

theorem cast_integer (width target : Width) (v : BitVec width.bits) :
    (Scalar.of (.integer true width) v).cast (.integer true target) =
      (toWord true target v.toInt).map (Scalar.of (.integer true target)) :=
  cast_word v

/-- Times of day of long units are brought to another long unit, if they fit there. -/
theorem cast_time {source target : TimeUnit} (hsource : isShortUnit source = false)
    (htarget : isShortUnit target = false) (v : BitVec 64) :
    (Scalar.of (.time64 source) v).cast (.time64 target) =
      (promised (rescaleTime source target v.toInt)).map (Scalar.of (.time64 target)) := by
  by_cases h : source = target
  · subst h
    rw [rescaleTime_self, promised_eq_ok.mpr rfl]
    exact cast_self rfl
  cases source <;> cases hsource <;> cases target <;> cases htarget
  · exact absurd rfl h
  · exact cast_of (a := .time64 .microsecond) (b := .time64 .nanosecond) (by decide) trivial
      trivial rfl rfl rfl v
  · have hmicros : rescaleTime .nanosecond .microsecond v.toInt = v.toInt.tdiv 1000 := rfl
    rw [hmicros, promised_eq_ok.mpr (toInt_micros v).1]
    exact cast_of (a := .time64 .nanosecond) (b := .time64 .microsecond) (by decide) trivial
      trivial rfl rfl rfl v
  · exact absurd rfl h

/-- A count that would come back around to midnight is no time of day in nanoseconds. -/
example : (Scalar.of (.time64 .microsecond) 2305843009213693952).cast (.time64 .nanosecond) =
    .error .broken :=
  rfl

theorem cast_stamp (source target : TimeUnit) (v : BitVec 64) :
    (Scalar.of (.timestamp source none) v).cast (.timestamp target none) =
      (rescaleStamp source target v.toInt).map (Scalar.of (.timestamp target none)) := by
  by_cases h : source = target
  · subst h
    rw [rescaleStamp, rescaleTime_self, toInt64, @toWord_toInt .w64]
    exact cast_self rfl
  · have hcast := cast_of (a := .timestamp source none) (b := .timestamp target none)
      (by simp [h]) trivial trivial rfl rfl rfl v
    rw [hcast]
    dsimp only
    cases rescaleStamp source target v.toInt <;> rfl

end Scalar

end ForeignLayer
