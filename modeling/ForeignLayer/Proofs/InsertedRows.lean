import ForeignLayer.Proofs.BoundTables
import ForeignLayer.Proofs.PlannedFeatures
import ForeignLayer.Proofs.Rewriting
import ForeignLayer.Proofs.WrittenFeatures

/-!
# Inserted rows

A row that is inserted goes through the native types of the fields, and a scan brings it back
through the same casts the other way. Where a column reads its field without loss, a value that has
no place in the field is refused when it is written, with one exception: nanoseconds are cut to
microseconds without a word, so they come back as they were only if they are whole microseconds.

Ids are a case of their own. The layer may give an id that the column of ids has no place for; the
row is written all the same, and cannot be read.
-/

namespace ForeignLayer

open Catalog Predicate ForeignLayer.Convert

/-! ## Values that come back -/

namespace Scalar

theorem of_inj {t : DataType} {v w : t.Carrier} : Scalar.of t v = .of t w ↔ v = w :=
  ⟨fun h ↦ Option.some.inj (eq_of_heq (Scalar.mk.inj h).2), congrArg _⟩

/-- Whether a value that counts nanoseconds counts whole microseconds. -/
def IsWhole (v : Scalar) : Prop :=
  ∀ n : BitVec 64, v = .of (.time64 .nanosecond) n ∨ v = .of (.timestamp .nanosecond none) n →
    (1000 : Int) ∣ n.toInt

theorem isWhole_of_type {v : Scalar} (htime : v.type ≠ .time64 .nanosecond)
    (hstamp : v.type ≠ .timestamp .nanosecond none) : v.IsWhole := by
  rintro n (rfl | rfl)
  · exact absurd rfl htime
  · exact absurd rfl hstamp

theorem isWhole_nullOf (t : DataType) : (nullOf t).IsWhole := by
  rintro n (h | h) <;> cases h

theorem isWhole_time {n : BitVec 64} :
    (Scalar.of (.time64 .nanosecond) n).IsWhole ↔ (1000 : Int) ∣ n.toInt := by
  constructor
  · exact fun h ↦ h n (.inl rfl)
  · rintro h m (heq | heq) <;> cases heq
    exact h

theorem isWhole_stamp {n : BitVec 64} :
    (Scalar.of (.timestamp .nanosecond none) n).IsWhole ↔ (1000 : Int) ∣ n.toInt := by
  constructor
  · exact fun h ↦ h n (.inr rfl)
  · rintro h m (heq | heq) <;> cases heq
    exact h

theorem micros_eq_iff {n : Int} : n.tdiv 1000 * 1000 = n ↔ (1000 : Int) ∣ n :=
  ⟨fun h ↦ ⟨n.tdiv 1000, by rw [Int.mul_comm, h]⟩, Int.tdiv_mul_cancel⟩

/-- Microseconds that were cut from nanoseconds are nanoseconds again, the same ones if nothing was
cut off. -/
theorem exists_nanos {n m : BitVec 64} (hm : m.toInt = n.toInt.tdiv 1000) :
    ∃ back : BitVec 64, back.toInt = m.toInt * 1000 ∧ (back = n ↔ (1000 : Int) ∣ n.toInt) := by
  have hback := (toInt_micros n).2
  refine ⟨_, hback.trans (congrArg (· * 1000) hm.symm), ?_⟩
  rw [← BitVec.toInt_inj, hback, micros_eq_iff]

section Back

variable {a b : DataType} {s x : Scalar}

theorem cast_back_self (hs : s.type = a) (hstorable : isStorable a = true)
    (htime : a ≠ .time64 .nanosecond) (hstamp : a ≠ .timestamp .nanosecond none)
    (hx : s.cast a = .ok x) : ∃ back, x.cast a = .ok back ∧ (back = s ↔ s.IsWhole) := by
  subst hs
  cases (cast_self hstorable).symm.trans hx
  exact ⟨s, hx, fun _ ↦ isWhole_of_type htime hstamp, fun _ ↦ rfl⟩

theorem cast_back_null (hne : a ≠ b) (ha : a.IsPlain) (hb : b.IsPlain)
    (hstorable : isStorable a = true) (hstorable' : isStorable b = true)
    {f : Convert.Conversion a b} (hf : plain? a b = some f) {g : Convert.Conversion b a}
    (hg : plain? b a = some g) (hx : (Scalar.nullOf a).cast b = .ok x) :
    ∃ back, x.cast a = .ok back ∧ (back = .nullOf a ↔ (Scalar.nullOf a).IsWhole) := by
  cases (cast_null hne ha hb hstorable hstorable' hf).symm.trans hx
  exact ⟨_, cast_null hne.symm hb ha hstorable' hstorable hg,
    fun _ ↦ isWhole_nullOf a, fun _ ↦ rfl⟩

theorem cast_back_integer {value : Option (BitVec 64)}
    (hx : cast ⟨.int64, value⟩ .int32 = .ok x) :
    ∃ back, x.cast .int64 = .ok back ∧
      (back = ⟨.int64, value⟩ ↔ IsWhole ⟨.int64, value⟩) := by
  cases value with
  | none =>
    exact cast_back_null (a := .int64) (b := .int32) (by decide) trivial trivial rfl rfl rfl rfl hx
  | some n =>
    have hcast := (cast_integer .w64 .w32 n).symm.trans hx
    rw [map_of_eq_ok] at hcast
    obtain ⟨m, hm, rfl⟩ := hcast
    have hsame : m.toInt = n.toInt := toWord_eq_ok.mp hm
    refine ⟨.of .int64 n, ?_, fun _ ↦ isWhole_of_type (by simp) (by simp), fun _ ↦ rfl⟩
    rw [cast_integer, hsame, map_of_eq_ok]
    exact ⟨n, @toWord_toInt .w64 n, rfl⟩

theorem cast_back_text {storage : Storage} {value : Option String}
    (hx : cast ⟨.text storage, value⟩ .utf8 = .ok x) :
    ∃ back, x.cast (.text storage) = .ok back ∧
      (back = ⟨.text storage, value⟩ ↔ IsWhole ⟨.text storage, value⟩) := by
  cases value with
  | none =>
    by_cases hutf8 : storage = .regular
    · subst hutf8
      exact cast_back_self rfl rfl (by simp) (by simp) hx
    · exact cast_back_null (a := .text storage) (b := .utf8) (by simpa using hutf8) trivial trivial
        rfl rfl rfl rfl hx
  | some text =>
    cases (cast_text storage .regular text).symm.trans hx
    exact ⟨_, cast_text .regular storage text,
      fun _ ↦ isWhole_of_type (by simp) (by simp), fun _ ↦ rfl⟩

theorem cast_back_time {value : Option (BitVec 64)}
    (hx : cast ⟨.time64 .nanosecond, value⟩ (.time64 .microsecond) = .ok x) :
    ∃ back, x.cast (.time64 .nanosecond) = .ok back ∧
      (back = ⟨.time64 .nanosecond, value⟩ ↔ IsWhole ⟨.time64 .nanosecond, value⟩) := by
  cases value with
  | none =>
    exact cast_back_null (a := .time64 .nanosecond) (b := .time64 .microsecond) (by decide) trivial
      trivial rfl rfl rfl rfl hx
  | some n =>
    have hcast := (@cast_time .nanosecond .microsecond rfl rfl n).symm.trans hx
    rw [map_of_eq_ok] at hcast
    obtain ⟨m, hm, rfl⟩ := hcast
    obtain ⟨back, hback, hwhole⟩ := exists_nanos (promised_eq_ok.mp hm)
    refine ⟨.of (.time64 .nanosecond) back, ?_, ?_⟩
    · rw [@cast_time .microsecond .nanosecond rfl rfl, map_of_eq_ok]
      exact ⟨back, promised_eq_ok.mpr hback, rfl⟩
    · show Scalar.of (.time64 .nanosecond) back = .of (.time64 .nanosecond) n ↔
        (Scalar.of (.time64 .nanosecond) n).IsWhole
      rw [isWhole_time, of_inj, hwhole]

theorem cast_back_stamp {value : Option (BitVec 64)}
    (hx : cast ⟨.timestamp .nanosecond none, value⟩ (.timestamp .microsecond none) = .ok x) :
    ∃ back, x.cast (.timestamp .nanosecond none) = .ok back ∧
      (back = ⟨.timestamp .nanosecond none, value⟩ ↔
        IsWhole ⟨.timestamp .nanosecond none, value⟩) := by
  cases value with
  | none =>
    exact cast_back_null (a := .timestamp .nanosecond none) (b := .timestamp .microsecond none)
      (by decide) trivial trivial rfl rfl rfl rfl hx
  | some n =>
    have hcast := (cast_stamp .nanosecond .microsecond n).symm.trans hx
    rw [map_of_eq_ok] at hcast
    obtain ⟨m, hm, rfl⟩ := hcast
    obtain ⟨back, hback, hwhole⟩ := exists_nanos ((@toWord_eq_ok .w64 _ _).mp hm)
    refine ⟨.of (.timestamp .nanosecond none) back, ?_, ?_⟩
    · rw [cast_stamp, map_of_eq_ok]
      exact ⟨back, (@toWord_eq_ok .w64 _ _).mpr hback, rfl⟩
    · show Scalar.of (.timestamp .nanosecond none) back = .of (.timestamp .nanosecond none) n ↔
        (Scalar.of (.timestamp .nanosecond none) n).IsWhole
      rw [isWhole_stamp, of_inj, hwhole]

/-- **A value that its field has a place for comes back whole**, or as the whole microseconds of
it. -/
theorem cast_back {type : FieldType} {t : DataType} (hlossless : readsLosslessly type t = true)
    (hs : s.type = t) (hx : s.cast type.native = .ok x) :
    ∃ back, x.cast t = .ok back ∧ (back = s ↔ s.IsWhole) := by
  obtain ⟨t', value⟩ := s
  dsimp only at hs
  subst hs
  unfold readsLosslessly at hlossless
  split at hlossless
  · exact cast_back_self rfl rfl (by decide) (by decide) hx
  · exact cast_back_integer hx
  · exact cast_back_self rfl rfl (by decide) (by decide) hx
  · exact cast_back_self rfl rfl (by decide) (by decide) hx
  · exact cast_back_text hx
  · exact cast_back_text hx
  · exact cast_back_self rfl rfl (by decide) (by decide) hx
  · exact cast_back_self rfl rfl (by decide) (by decide) hx
  · exact cast_back_time hx
  · exact cast_back_self rfl rfl (by decide) (by decide) hx
  · exact cast_back_stamp hx
  · cases hlossless

end Back

end Scalar

/-- Whether a type holds an integer. -/
def DataType.HasPlace (t : DataType) (n : Int) : Prop :=
  ∃ signed width, t = .integer signed width ∧ minOf signed width ≤ n ∧ n ≤ maxOf signed width

namespace Operation

/-! ## What columns give back -/

/-- Whether a geometry value is the other one under a tag, or else under its own tag. -/
def SameGeometry (tag : Option Geometry.Srid) (v v' : Scalar) : Prop :=
  v'.type = v.type ∧ match v.bytes? with
    | none => v'.isNull = true
    | some bytes => ∃ bytes' iso own, v'.bytes? = some bytes' ∧
      Geometry.Wkb.toIso bytes = .ok (iso, own) ∧ Geometry.Wkb.toIso bytes' = .ok (iso, tag.or own)

/-- What a column gives back of a value that was inserted under an id. -/
def GivesBack (id : Int) (c : Catalog.Column) (v v' : Scalar) : Prop :=
  match c.binding with
  | .unmatched => v' = .nullOf c.type.storage
  | .fid => v'.type = c.type.storage ∧ v'.integer? = some id
  | .field .. => v' = v
  | .geometry .. => SameGeometry (columnSrid c) v v'

/-- Whether a column has a place for the value that is inserted and for the id. -/
def HasPlaces (id : Int) (c : Catalog.Column) (v : Scalar) : Prop :=
  match c.binding with
  | .field .. => v.IsWhole
  | .fid => DataType.int64.HasPlace id ∧ c.type.storage.HasPlace id
  | _ => True

section Columns

variable {c : Catalog.Column} {f : Feature} {id : Int} {v : Scalar}

theorem givesBack_unmatched (hbinding : c.binding = .unmatched)
    (hnull : hasNull c.type.storage = true) :
    ∃ v', columnValue c c.type.storage f = .ok v' ∧ GivesBack id c v v' := by
  refine ⟨.nullOf c.type.storage, ?_, ?_⟩
  · rw [columnValue, hbinding]
    exact if_pos hnull
  · rw [GivesBack, hbinding]

theorem givesBack_fid (hbinding : c.binding = .fid) (hinteger : c.type.storage.isInteger = true)
    (hfid : f.fid = some id) :
    (∃ v', columnValue c c.type.storage f = .ok v' ∧ GivesBack id c v v') ↔
      DataType.int64.HasPlace id ∧ c.type.storage.HasPlace id := by
  obtain ⟨signed, width, hstorage⟩ : ∃ signed width, c.type.storage = .integer signed width := by
    cases hstorage : c.type.storage <;> rw [hstorage] at hinteger <;> cases hinteger
    exact ⟨_, _, rfl⟩
  have hcast : (fidScalar (some id)).cast (.integer signed width) =
      (toWord signed width (BitVec.ofInt 64 id).toInt).map (Scalar.of (.integer signed width)) :=
    @Scalar.cast_word true signed .w64 width (BitVec.ofInt 64 id)
  have hread (v' : Scalar) : columnValue c c.type.storage f = .ok v' ↔
      ∃ w, toWord signed width (BitVec.ofInt 64 id).toInt = .ok w ∧
        v' = .of (.integer signed width) w := by
    rw [columnValue, hbinding, hfid, hstorage]
    exact castTo_eq_ok.trans (by rw [hcast, Scalar.map_of_eq_ok])
  simp only [hread, GivesBack, hbinding]
  rw [hstorage]
  constructor
  · rintro ⟨_, ⟨w, hw, rfl⟩, -, hinteger⟩
    have hword : Width.toInt signed w = (BitVec.ofInt 64 id).toInt := toWord_eq_ok_iff.mp hw
    have hid : Width.toInt signed w = id := Option.some.inj hinteger
    have hlong := @toInt_mem_range true .w64 (BitVec.ofInt 64 id)
    have hshort := toInt_mem_range signed w
    rw [hid] at hword hshort
    rw [Width.toInt, if_pos rfl, ← hword] at hlong
    exact ⟨⟨true, .w64, rfl, hlong⟩, ⟨signed, width, rfl, hshort⟩⟩
  · rintro ⟨⟨_, _, htype, hlow, hhigh⟩, _, _, htype', hlow', hhigh'⟩
    cases htype
    cases htype'
    obtain ⟨w, hw, hid⟩ := exists_toWord hlow' hhigh'
    have hlong : (BitVec.ofInt 64 id).toInt = id := @toInt_ofInt_of_range true .w64 id hlow hhigh
    exact ⟨_, ⟨w, by rw [hlong]; exact hw, rfl⟩, rfl, congrArg some hid⟩

theorem givesBack_field {index : Nat} {field : Layer.Field}
    (hbinding : c.binding = .field index field)
    (hlossless : readsLosslessly field.type c.type.storage = true) (hv : v.type = c.type.storage)
    {x : Scalar} (hx : castTo v field.type.native = .ok x) (hheld : f.fields[index]? = some x) :
    (∃ v', columnValue c c.type.storage f = .ok v' ∧ GivesBack id c v v') ↔ v.IsWhole := by
  obtain ⟨back, hback, hwhole⟩ := Scalar.cast_back hlossless hv (castTo_eq_ok.mp hx)
  have hread : columnValue c c.type.storage f = .ok back := by
    rw [columnValue, hbinding]
    simp only [hheld]
    exact castTo_eq_ok.mpr hback
  rw [← hwhole]
  simp only [hread, GivesBack, hbinding, Except.ok.injEq, exists_eq_left']

theorem givesBack_geometry {index : Nat} {kind : Geometry.Kind} {storage : Storage}
    (hbinding : c.binding = .geometry index kind) (hstorage : c.type.storage = .binary storage)
    (hconversion : c.conversion = some (.ofGeometry storage)) (hv : v.type = c.type.storage)
    (hheld : geometryOf c v = .ok f.geometry) :
    ∃ v', columnValue c c.type.storage f = .ok v' ∧ GivesBack id c v v' := by
  refine ⟨_, columnValue_geometry hbinding hstorage hconversion f, ?_⟩
  rw [GivesBack, hbinding]
  dsimp only
  rcases geometryOf_eq_ok hconversion hheld with ⟨hnull, hnone⟩ | ⟨bytes, g, tag, hbytes, hnode,
    hsome, hsrid⟩
  · obtain ⟨t, value⟩ := v
    rw [hstorage] at hv
    dsimp only at hv
    subst hv
    cases value with
    | some _ => cases hnull
    | none =>
      rw [hnone]
      exact ⟨rfl, rfl⟩
  · rw [hsome, SameGeometry, hbytes]
    refine ⟨(hv.trans hstorage).symm, _, g.node.encode .iso none, tag, rfl, ?_, ?_⟩
    · rw [Geometry.Wkb.toIso_eq, hnode]
      rfl
    · have htag : (columnSrid c).or g.srid = (columnSrid c).or tag := by
        rw [hsrid]
        cases columnSrid c <;> simp
      rw [← htag]
      exact Geometry.Wkb.toIso_encode g.node_eq .extended _

end Columns

/-! ## Rows that come back -/

/-- Whether the columns of a table read their fields without loss, each its own one. -/
structure IsLossless (table : Table) : Prop where
  lossless : ∀ c ∈ table.columns, ∀ index field, c.binding = .field index field →
    readsLosslessly field.type c.type.storage = true
  apart : ∀ (i j : Nat) (c c' : Catalog.Column) index field field', table.columns[i]? = some c →
    table.columns[j]? = some c' → c.binding = .field index field →
      c'.binding = .field index field' → i = j

/-- Whether the values of a row have the types of the columns. A type without a null has no values
either. -/
def IsTyped (table : Table) (row : Row) : Prop :=
  ∀ (i : Nat) (c : Catalog.Column) (v : Scalar), table.columns[i]? = some c → row[i]? = some v →
    v.type = c.type.storage ∧ hasNull v.type = true

/-- Whether a row that was inserted under an id is a feature of the layer, and comes back as another
row. -/
structure ComesBack (table : Table) (l l' : Layer) (row : Row) (id : Int) (f : Feature)
    (back : Row) : Prop where
  /-- The feature is behind all others. -/
  features : l'.features = l.features ++ [f]
  fid : f.fid = some id
  read : rowOf table f = .ok back
  values : ∀ (i : Nat) (c : Catalog.Column) (v : Scalar), table.columns[i]? = some c →
    row[i]? = some v → ∃ v', back[i]? = some v' ∧ GivesBack id c v v'
  /-- A scan without predicates gives the row after the ones of all other features. -/
  scanned : ∀ tableId c bindings settings, c.checkLayer = .ok () →
    ((scanAll tableId c table [] bindings settings).run l').1.map Prod.snd =
      (l.features.mapM (rowOf table)).map (· ++ [back])

section Tables

variable {name : String} {schema : Schema} {options : ColumnOptions} {layer : Layer.Definition}
  {settings : Settings.Table} {table : Table} {row : Row} {id : Int}

/-- A column gives back what the feature of a row holds for it, if it has a place for it. -/
theorem givesBack_iff (htable : Table.bind name schema options layer settings = .ok table)
    (hlossless : IsLossless table) (htyped : IsTyped table row) {f : Feature}
    (hfeature : featureOf table layer row = .ok f) {i : Nat} {c : Catalog.Column}
    (hc : table.columns[i]? = some c) {v : Scalar} (hv : row[i]? = some v) :
    (∃ v', columnValue c c.type.storage { f with fid := some id } = .ok v' ∧
      GivesBack id c v v') ↔ HasPlaces id c v := by
  have hbound := isBound_of_bind htable
  have hmade := madeOf_of_featureOf hfeature
  have hmem := List.mem_of_getElem? hc
  obtain ⟨htype, hnull⟩ := htyped i c v hc hv
  cases hbinding : c.binding with
  | unmatched =>
    rw [HasPlaces, hbinding]
    exact iff_of_true (givesBack_unmatched hbinding (htype ▸ hnull)) trivial
  | fid =>
    rw [HasPlaces, hbinding]
    obtain ⟨_, -, hcolumn⟩ := hbound.column i c hc
    exact givesBack_fid hbinding (hcolumn.fid hbinding).1 rfl
  | field index field =>
    rw [HasPlaces, hbinding]
    obtain ⟨x, hx, hheld⟩ := hmade.field hc hv hbinding fun j c' field' hc' hbinding' ↦
      hlossless.apart j i c' c index field' field hc' hc hbinding' hbinding
    exact givesBack_field hbinding (hlossless.lossless c hmem index field hbinding) htype hx hheld
  | geometry index kind =>
    rw [HasPlaces, hbinding]
    have hgeometry : c.isGeometry = true := by rw [Catalog.Column.isGeometry, hbinding]
    have hholds := hmade.geometry hc hv hgeometry fun j c' hc' hisGeometry ↦
      hbound.geometry j i c' c hc' hc hisGeometry hgeometry
    obtain ⟨storage, hstorage, hconversion⟩ :=
      conversion_of_boundToGeometry (boundToGeometry_of_bind htable hmem hbinding)
    exact iff_of_true (givesBack_geometry hbinding hstorage hconversion htype hholds) trivial

/-- **A row that was inserted comes back exactly if every column has a place for it**: nanoseconds
are whole microseconds, and the id fits the column of ids. -/
theorem comes_back_iff {s s' : Session}
    (htable : Table.bind name schema options s.layer.definition settings = .ok s.operation.table)
    (hlossless : IsLossless s.operation.table) (htyped : IsTyped s.operation.table row)
    (h : (insert row).run s = (.ok id, s')) :
    (∃ f back, ComesBack s.operation.table s.layer s'.layer row id f back) ↔
      ∀ (i : Nat) (c : Catalog.Column) (v : Scalar), s.operation.table.columns[i]? = some c →
        row[i]? = some v → HasPlaces id c v := by
  obtain ⟨-, hlength, f, hfeature, hlayer, -⟩ := insert_eq_ok h
  have hfeatures : s'.layer.features = s.layer.features ++ [{ f with fid := some id }] := by
    rw [hlayer]
    rfl
  constructor
  · rintro ⟨f', back, hback⟩ i c v hc hv
    have hsame : f' = { f with fid := some id } := by
      have happended := hback.features.symm.trans hfeatures
      exact List.singleton_inj.mp (List.append_cancel_left happended)
    have hread := hback.read
    rw [hsame] at hread
    rw [← givesBack_iff htable hlossless htyped hfeature hc hv]
    obtain ⟨v', hv', hgives⟩ := hback.values i c v hc hv
    obtain ⟨w, hw, hvalue⟩ := getElem?_of_rowOf hread hc
    cases hw.symm.trans hv'
    exact ⟨v', hvalue, hgives⟩
  · intro hplaces
    have hcells {i : Nat} {c : Catalog.Column} (hc : s.operation.table.columns[i]? = some c)
        {v : Scalar} (hv : row[i]? = some v) :=
      (givesBack_iff htable hlossless htyped hfeature hc hv).mpr (hplaces i c v hc hv)
    obtain ⟨back, hread⟩ :
        ∃ back, rowOf s.operation.table { f with fid := some id } = .ok back := by
      refine exists_mapM_eq_ok fun c hc ↦ ?_
      obtain ⟨i, hlt, hi⟩ := List.mem_iff_getElem.mp hc
      have hv : row[i]? = some row[i] := List.getElem?_eq_getElem (hlength ▸ hlt)
      obtain ⟨v', hv', -⟩ := hcells (List.getElem?_eq_some_iff.mpr ⟨hlt, hi⟩) hv
      exact ⟨v', hv'⟩
    refine ⟨_, back, hfeatures, rfl, hread, fun i c v hc hv ↦ ?_, fun tableId c bindings planner
      hopen ↦ ?_⟩
    · obtain ⟨v', hv', hgives⟩ := hcells hc hv
      obtain ⟨w, hw, hvalue⟩ := getElem?_of_rowOf hread hc
      cases hvalue.symm.trans hv'
      exact ⟨v', hw, hgives⟩
    · rw [scanAll_nil hopen, hfeatures, List.mapM_append, List.mapM_cons, hread]
      cases s.layer.features.mapM (rowOf s.operation.table) <;> rfl

end Tables

/-! ## Sightings of gulls -/

private def sightingsSchema : Schema :=
  [⟨"fid", .int64, []⟩, ⟨"bird", .text .large, []⟩, ⟨"seen", .time64 .nanosecond, []⟩,
    ⟨"note", .utf8, []⟩, .ofGeometry "place" .bytes (some 4326)]

private def sightingsLayer : Layer where
  definition := ⟨"sightings", [⟨"seen", .time⟩, ⟨"bird", .string⟩], [⟨"place", .point⟩], none⟩
  capabilities := ["SequentialWrite"]

private def sightingsTable : Table where
  name := "sightings"
  layerName := "sightings"
  columns := [⟨0, "fid", false, .plain .int64, -1, .fid,
      (Conversion.resolve (.plain .int64)).toOption⟩,
    ⟨1, "bird", false, .plain (.text .large), -1, .field 1 ⟨"bird", .string⟩,
      (Conversion.resolve (.plain (.text .large))).toOption⟩,
    ⟨2, "seen", false, .plain (.time64 .nanosecond), -1, .field 0 ⟨"seen", .time⟩,
      (Conversion.resolve (.plain (.time64 .nanosecond))).toOption⟩,
    ⟨3, "note", false, .plain .utf8, -1, .unmatched, none⟩,
    ⟨4, "place", false, .geometry .bytes, 0x10e600#32, .geometry 0 .point,
      (Conversion.resolve (.geometry .bytes)).toOption⟩]

/-- The table is being modified. -/
private def sightingsSession : Session where
  operation := ⟨7, ⟨{ datasource := "birds.gpkg" }, "sightings", .yes, .yes, .utf8,
    some { layers := [sightingsLayer] }⟩, sightingsTable, .modify⟩
  layer := sightingsLayer

/-- A gull that was seen after some nanoseconds of the day, at a place without a tag. -/
private def gullAt (nanos : BitVec 64) : Row :=
  [.nullOf .int64, .of (.text .large) "gull", .of (.time64 .nanosecond) nanos,
    .ofText "on the pier", .of .bytes
      [1, 1, 0, 0, 0, 0, 0, 0, 0, 0, 0, 0xf0, 0x3f, 0, 0, 0, 0, 0, 0, 0, 0x40]]

private theorem bind_sightings :
    Table.bind "sightings" sightingsSchema [] sightingsLayer.definition {} =
      .ok sightingsTable := by
  have hbind : (Table.bind "sightings" sightingsSchema [] sightingsLayer.definition {}).toOption =
      some sightingsTable := by
    decide +kernel
  exact toOption_eq_some.mp hbind

private theorem isLossless_sightings : IsLossless sightingsTable where
  lossless := by
    simp only [sightingsTable, List.forall_mem_cons, List.not_mem_nil, IsEmpty.forall_iff,
      implies_true, and_true]
    refine ⟨?_, ?_, ?_, ?_, ?_⟩ <;> intro index field hbinding <;> cases hbinding <;> rfl
  apart i j c c' index field field' hc hc' hbinding hbinding' := by
    rcases i with _ | _ | _ | _ | _ | i <;> cases hc <;> cases hbinding <;>
      rcases j with _ | _ | _ | _ | _ | j <;> cases hc' <;> cases hbinding' <;> rfl

private theorem isTyped_gullAt (nanos : BitVec 64) : IsTyped sightingsTable (gullAt nanos) := by
  intro i c v hc hv
  rcases i with _ | _ | _ | _ | _ | i <;> cases hc <;> cases hv <;> exact ⟨rfl, rfl⟩

/-- A gull that was seen a microsecond after noon comes back. -/
theorem comes_back_iff_gull :
    ((insert (gullAt 43200000001000)).run sightingsSession).1.toOption = some 1 ∧
      ∃ f back, ComesBack sightingsTable sightingsLayer
        ((insert (gullAt 43200000001000)).run sightingsSession).2.layer (gullAt 43200000001000) 1
        f back := by
  have hinsert : ((insert (gullAt 43200000001000)).run sightingsSession).1.toOption = some 1 := by
    decide +kernel
  refine ⟨hinsert, (comes_back_iff (s := sightingsSession) bind_sightings isLossless_sightings
    (isTyped_gullAt _) (eq_ok_of_toOption hinsert)).mpr ?_⟩
  intro i c v hc hv
  rcases i with _ | _ | _ | _ | _ | i <;> cases hc <;> cases hv
  · have hplace : DataType.int64.HasPlace 1 := ⟨true, .w64, rfl, by decide, by decide⟩
    exact ⟨hplace, hplace⟩
  · exact Scalar.isWhole_of_type (by decide) (by decide)
  · exact Scalar.isWhole_time.mpr (by decide +kernel)
  · trivial
  · trivial

/-- A gull that was seen a nanosecond after midnight is written, and comes back as one that was seen
at midnight. -/
theorem not_comes_back_gull :
    Table.bind "sightings" sightingsSchema [] sightingsLayer.definition {} = .ok sightingsTable ∧
      IsLossless sightingsTable ∧ IsTyped sightingsTable (gullAt 1) ∧
      ((insert (gullAt 1)).run sightingsSession).1 = .ok 1 ∧
      (∃ planned, ((scanAll 7 sightingsSession.operation.connection sightingsTable [] [] {}).run
        ((insert (gullAt 1)).run sightingsSession).2.layer).1 =
          .ok (planned, [[.of .int64 1, .of (.text .large) "gull", .of (.time64 .nanosecond) 0,
            .nullOf .utf8, .of .bytes [1, 1, 0, 0, 0x20, 0xe6, 0x10, 0, 0, 0, 0, 0, 0, 0, 0, 0xf0,
              0x3f, 0, 0, 0, 0, 0, 0, 0, 0x40]]])) ∧
      ¬ ∃ f back, ComesBack sightingsTable sightingsLayer
        ((insert (gullAt 1)).run sightingsSession).2.layer (gullAt 1) 1 f back := by
  have hinsert : ((insert (gullAt 1)).run sightingsSession).1.toOption = some 1 := by
    decide +kernel
  have hscan : ((scanAll 7 sightingsSession.operation.connection sightingsTable [] [] {}).run
      ((insert (gullAt 1)).run sightingsSession).2.layer).1.toOption.map Prod.snd =
        some [[.of .int64 1, .of (.text .large) "gull", .of (.time64 .nanosecond) 0,
          .nullOf .utf8, .of .bytes [1, 1, 0, 0, 0x20, 0xe6, 0x10, 0, 0, 0, 0, 0, 0, 0, 0, 0xf0,
            0x3f, 0, 0, 0, 0, 0, 0, 0, 0x40]]] := by
    decide +kernel
  obtain ⟨⟨planned, rows⟩, hplanned, hrows⟩ := Option.map_eq_some_iff.mp hscan
  cases hrows
  have hok := toOption_eq_some.mp hplanned
  refine ⟨bind_sightings, isLossless_sightings, isTyped_gullAt 1, toOption_eq_some.mp hinsert,
    ⟨planned, hok⟩, ?_⟩
  rintro ⟨f, back, hback⟩
  have hscanned := hback.scanned 7 sightingsSession.operation.connection [] {} rfl
  rw [hok] at hscanned
  have hrows := List.singleton_inj.mp (Except.ok.inj hscanned)
  obtain ⟨v', hv', hgives⟩ := hback.values 2 _ _ rfl rfl
  rw [← hrows] at hv'
  cases hv'
  have hsame : Scalar.of (.time64 .nanosecond) 0 = .of (.time64 .nanosecond) 1 := hgives
  exact absurd hsame (by decide)

end Operation

end ForeignLayer
