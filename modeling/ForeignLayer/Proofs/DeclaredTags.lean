import ForeignLayer.Proofs.BoundTables
import ForeignLayer.Proofs.RowValues
import ForeignLayer.Proofs.WrittenFeatures

/-!
# Tags that a schema declares

A geometry column may declare a reference system, and its table keeps the tag of it in a type
modifier. There it has 21 bits, the last one of them a sign, and what does not fit is cut off; so
the modifier carries exactly the tags that fit, and every other tag is lost when the table is bound.
From there on nothing is lost any more: what is read through the column has the tag of the modifier,
whatever tag the layer keeps, and what is written without a tag is stored with it.
-/

namespace ForeignLayer

open Catalog Operation Predicate ForeignLayer.Geometry

/-! ## Tags in type modifiers -/

namespace Geometry.Srid

/-- Whether a tag is a number of 21 bits with a sign, as wide as its place in a type modifier. -/
def FitsModifier (s : Srid) : Prop := -1048576 ≤ s.toInt ∧ s.toInt < 1048576

-- A mask of low bits leaves a remainder, and a mask of one bit leaves a digit.

theorem toNat_size (code : BitVec 32) :
    (((code <<< 8) &&& 0x1FFFFF00#32) &&& 0x0FFFFF00#32).toNat = code.toNat % 1048576 * 256 := by
  have hmask : ((code <<< 8) &&& 0x1FFFFF00#32) &&& 0x0FFFFF00#32 =
      (code &&& 0xFFFFF#32) <<< 8 := by
    rw [BitVec.and_assoc, BitVec.shiftLeft_and_distrib]
    rfl
  have hmod : (code &&& 0xFFFFF#32).toNat = code.toNat % 1048576 :=
    Nat.and_two_pow_sub_one_eq_mod code.toNat 20
  rw [hmask, BitVec.toNat_shiftLeft, hmod, Nat.shiftLeft_eq]
  omega

theorem toNat_sign (code : BitVec 32) :
    (((code <<< 8) &&& 0x1FFFFF00#32) &&& 0x10000000#32).toNat =
      code.toNat / 1048576 % 2 * 268435456 := by
  have hmask : ((code <<< 8) &&& 0x1FFFFF00#32) &&& 0x10000000#32 =
      (code &&& 0x100000#32) <<< 8 := by
    rw [BitVec.and_assoc, BitVec.shiftLeft_and_distrib]
    rfl
  have hbit : (code &&& 0x100000#32).toNat = code.toNat / 1048576 % 2 * 1048576 := by
    have hand : (code &&& 0x100000#32).toNat = code.toNat &&& 2 ^ 20 := rfl
    rw [hand, Nat.and_two_pow, Nat.toNat_testBit]
    rfl
  rw [hmask, BitVec.toNat_shiftLeft, hbit, Nat.shiftLeft_eq]
  omega

theorem msb_mask (code : BitVec 32) : ((code <<< 8) &&& 0x1FFFFF00#32).msb = false := by
  rw [BitVec.msb_and]
  exact Bool.and_false _

/-- What a type modifier keeps of a tag: its lowest 21 bits, the last one of them as a sign. -/
theorem toInt_unpack (code : BitVec 32) :
    (BitVec.sshiftRight ((((code <<< 8) &&& 0x1FFFFF00#32) &&& 0x0FFFFF00#32) -
      (((code <<< 8) &&& 0x1FFFFF00#32) &&& 0x10000000#32)) 8).toInt =
        (code.toNat % 1048576 : Nat) - (code.toNat / 1048576 % 2 * 1048576 : Nat) := by
  have hsize := toNat_size code
  have hsign := toNat_sign code
  generalize ((code <<< 8) &&& 0x1FFFFF00#32) &&& 0x0FFFFF00#32 = size at *
  generalize ((code <<< 8) &&& 0x1FFFFF00#32) &&& 0x10000000#32 = sign at *
  have hsub : (size - sign).toInt = (size.toNat : Int) - sign.toNat := by
    rw [BitVec.toInt_sub, BitVec.toInt_eq_toNat_of_lt (by omega),
      BitVec.toInt_eq_toNat_of_lt (by omega)]
    exact Int.bmod_eq_of_le (by omega) (by omega)
  rw [BitVec.toInt_sshiftRight, hsub, hsize, hsign, Int.shiftRight_eq_div_pow]
  omega

theorem ofCode?_eq_some {code : BitVec 32} {s : Srid} :
    ofCode? code = some s ↔ code = s.code := by
  unfold ofCode?
  constructor
  · intro h
    split at h
    · cases h
    · cases h
      rfl
  · rintro rfl
    exact dif_neg s.nonzero

/-- **A type modifier carries exactly the tags of 21 bits.** -/
theorem ofTypeModifier?_typeModifier (s : Srid) :
    ofTypeModifier? (typeModifier (some s)) = some s ↔ s.FitsModifier := by
  have hunpack := toInt_unpack s.code
  have hcode := s.code.isLt
  have hsigned := s.code.toInt_eq_toNat_cond
  rw [ofTypeModifier?, typeModifier, msb_mask, if_neg Bool.false_ne_true]
  dsimp only
  generalize BitVec.sshiftRight _ 8 = code at *
  rw [ofCode?_eq_some, ← BitVec.toInt_inj, hunpack, FitsModifier, toInt]
  split at hsigned <;> omega

end Geometry.Srid

/-! ## Declared tags -/

namespace Operation

open Layer

variable {c : Catalog.Column}

/-- Whether a stored geometry is what the value at a place of a row is the bytes of, and under a tag
if the value has none. -/
def StoredUnder (tag : Srid) (row : Row) (place : Nat) (stored : Option Geometry) : Prop :=
  ∀ v bytes node, row[place]? = some v → v.bytes? = some bytes →
    Wkb.Node.ofBytes bytes = .ok (node, none) →
      ∃ g, stored = some g ∧ g.node = node ∧ g.srid = some tag

/-- What becomes of a tag that the geometry column at a place of a table declares. -/
structure TagSurvives (table : Table) (place : Nat) (tag : Srid) : Prop where
  /-- What is read there is null or the geometry of the feature under the tag, in extended form. -/
  read : ∀ s s' row, s.operation.table = table → nextRow.run s = (.ok (some row), s') →
    ∃ v f, row[place]? = some v ∧ s.layer.next.1 = some f ∧ (v.isNull = false →
      ∃ g storage, f.geometry = some g ∧
        v = .of (.binary storage) (g.withSrid (some tag)).extended)
  /-- What is inserted without a tag is stored under the tag. -/
  inserted : ∀ s s' row id, s.operation.table = table → (insert row).run s = (.ok id, s') →
    ∃ f, s'.layer.features = s.layer.features ++ [f] ∧ StoredUnder tag row place f.geometry
  /-- What is updated without a tag is stored under the tag. -/
  updated : ∀ s s' row, s.operation.table = table → (update row).run s = (.ok (), s') →
    ∃ i f, i < s.layer.features.length ∧ s'.layer.features = s.layer.features.set i f ∧
      StoredUnder tag row place f.geometry

/-- The feature of a row keeps what the value of a geometry column is the bytes of. -/
theorem storedUnder_of_featureOf {schema : Schema} {layer : Layer.Definition} {table : Table}
    (hbound : IsBound schema layer table) {i : Nat} (hc : table.columns[i]? = some c)
    (hgeometry : c.isGeometry = true) {storage : Storage}
    (hconversion : c.conversion = some (.ofGeometry storage)) {tag : Srid}
    (htag : columnSrid c = some tag) {target : Layer.Definition} {row : Row} {f : Feature}
    (h : featureOf table target row = .ok f) : StoredUnder tag row i f.geometry := by
  intro v bytes node hv hbytes hread
  have hholds := (madeOf_of_featureOf h).geometry hc hv hgeometry fun j c' hc' hisGeometry ↦
    hbound.geometry j i c' c hc' hc hisGeometry hgeometry
  rcases geometryOf_eq_ok hconversion hholds with
    ⟨hnull, -⟩ | ⟨bytes', g, own, hv', hnode, hg, hsrid⟩
  · obtain ⟨t, value⟩ := v
    cases value with
    | some _ => cases hnull
    | none => cases t <;> cases hbytes
  · cases hbytes.symm.trans hv'
    cases hread.symm.trans hnode
    exact ⟨g, hg, rfl, hsrid.trans htag⟩

/-- **A declared tag survives exactly if it fits the type modifier**, on every way that geometries
take through the table. -/
theorem declared_tag_survives {name : String} {schema : Schema} {options : ColumnOptions}
    {layer : Layer.Definition} {settings : Settings.Table} {table : Table}
    (h : Table.bind name schema options layer settings = .ok table) {i : Nat}
    (hc : table.columns[i]? = some c) (hgeometry : c.isGeometry = true) {f : Schema.Field}
    (hf : schema[i]? = some f) {tag : Srid} (htag : f.srid = .ok (some tag)) :
    (Srid.ofTypeModifier? c.typeModifier = some tag ↔ tag.FitsModifier) ∧
      (tag.FitsModifier → TagSurvives table i tag) := by
  obtain ⟨fid, geometry, f', hf', -, -, hfrom⟩ := exists_boundFrom h hc
  cases hf.symm.trans hf'
  obtain ⟨index, kind, hbinding⟩ := exists_of_isGeometry hgeometry
  have hboundTo := boundToGeometry_of_bind h (List.mem_of_getElem? hc) hbinding
  obtain ⟨storage, hstorage, hconversion⟩ := conversion_of_boundToGeometry hboundTo
  have hmodifier : c.typeModifier = Srid.typeModifier (some tag) := by
    have hisGeometry : f.isGeometry = true := by
      rw [← hboundTo.isGeometry, hfrom.type]
      rfl
    have hmade := hfrom.modifier
    rw [typeModifier, if_pos hisGeometry, htag] at hmade
    exact (Except.ok.inj hmade).symm
  have hcarried : Srid.ofTypeModifier? c.typeModifier = some tag ↔ tag.FitsModifier := by
    rw [hmodifier]
    exact tag.ofTypeModifier?_typeModifier
  refine ⟨hcarried, fun hfits ↦ ?_⟩
  have hsrid : columnSrid c = some tag := hcarried.mpr hfits
  have hbound := isBound_of_bind h
  refine ⟨?_, ?_, ?_⟩
  · rintro s s' row rfl hrun
    obtain ⟨found, hnext, hrow⟩ := nextRow_eq_ok hrun
    obtain ⟨v, hv, hvalue⟩ := getElem?_of_rowOf hrow hc
    refine ⟨v, found, hv, hnext, fun hnull ↦ ?_⟩
    rw [columnValue_geometry hbinding hstorage hconversion, hsrid] at hvalue
    cases hfound : found.geometry with
    | none =>
      rw [hfound] at hvalue
      cases hvalue
      cases hnull
    | some g =>
      rw [hfound] at hvalue
      cases hvalue
      exact ⟨g, storage, rfl, rfl⟩
  · rintro s s' row id rfl hrun
    obtain ⟨-, -, written, hfeature, hlayer, -⟩ := insert_eq_ok hrun
    have hstored := storedUnder_of_featureOf hbound hc hgeometry hconversion hsrid hfeature
    exact ⟨{ written with fid := some id }, by rw [hlayer]; rfl, hstored⟩
  · rintro s s' row rfl hrun
    obtain ⟨-, -, written, hfeature, hset⟩ := update_eq_ok hrun
    obtain ⟨id, place, -, hplace, hlayer⟩ := set_eq_ok hset
    obtain ⟨old, hold, -⟩ := getElem?_of_place? hplace
    refine ⟨place, written, (List.getElem?_eq_some_iff.mp hold).1, by rw [hlayer], ?_⟩
    exact storedUnder_of_featureOf hbound hc hgeometry hconversion hsrid hfeature

/-- A schema of one geometry column that declares a reference system. -/
private def buoySchema (code : Int) : Schema := [.ofGeometry "geom" .bytes (some code)]

private def buoyLayer : Layer where
  definition := ⟨"buoys", [], [⟨"geom", .point⟩], none⟩
  capabilities := ["SequentialWrite"]

/-- The table of the layer under a type modifier. -/
private def buoyTable (modifier : BitVec 32) : Table :=
  ⟨"buoys", "buoys", [⟨0, "geom", false, .geometry .bytes, modifier, .geometry 0 .point,
    (Conversion.resolve (.geometry .bytes)).toOption⟩]⟩

/-- The table is being modified. -/
private def buoySession (modifier : BitVec 32) : Session where
  operation := ⟨7, ⟨{ datasource := "buoys.gpkg" }, "buoys", .yes, .yes, .utf8,
    some { layers := [buoyLayer] }⟩, buoyTable modifier, .modify⟩
  layer := buoyLayer

/-- The bytes of a point without a tag. -/
private def buoy : List UInt8 :=
  [1, 1, 0, 0, 0, 0, 0, 0, 0, 0, 0, 0xf0, 0x3f, 0, 0, 0, 0, 0, 0, 0, 0x40]

/-- An untagged buoy that is inserted is stored under the reference system of its column. -/
theorem declared_tag_survives_buoy :
    Table.bind "buoys" (buoySchema 4326) [] buoyLayer.definition {} =
        .ok (buoyTable 0x10e600#32) ∧
      (Schema.Field.srid (.ofGeometry "geom" .bytes (some 4326))).toOption =
        some (some ⟨4326, by decide⟩) ∧
      ((insert [.of .bytes buoy]).run (buoySession 0x10e600#32)).1.toOption = some 1 ∧
      ∃ f g, ((insert [.of .bytes buoy]).run (buoySession 0x10e600#32)).2.layer.features = [f] ∧
        f.geometry = some g ∧ g.srid = some ⟨4326, by decide⟩ := by
  have hbind : (Table.bind "buoys" (buoySchema 4326) [] buoyLayer.definition {}).toOption =
      some (buoyTable 0x10e600#32) := by
    decide +kernel
  have hsrid : (Schema.Field.srid (.ofGeometry "geom" .bytes (some 4326))).toOption =
      some (some ⟨4326, by decide⟩) := by
    decide +kernel
  have hinsert : ((insert [.of .bytes buoy]).run (buoySession 0x10e600#32)).1.toOption =
      some 1 := by
    decide +kernel
  have hfits : Srid.FitsModifier ⟨4326, by decide⟩ := ⟨by decide, by decide⟩
  have hsurvives := (declared_tag_survives (toOption_eq_some.mp hbind) (i := 0) rfl rfl rfl
    (toOption_eq_some.mp hsrid)).2 hfits
  obtain ⟨f, hfeatures, hstored⟩ := hsurvives.inserted (buoySession 0x10e600#32) _ _ 1 rfl
    (eq_ok_of_toOption hinsert)
  obtain ⟨g, hg, -, htag⟩ := hstored (.of .bytes buoy) buoy
    (.point .little .xy [0, 0, 0, 0, 0, 0, 0xf0, 0x3f, 0, 0, 0, 0, 0, 0, 0, 0x40]) rfl rfl (by cbv)
  exact ⟨toOption_eq_some.mp hbind, hsrid, hinsert, f, g, hfeatures, hg, htag⟩

/-- A declared tag of 22 bits becomes another one: the table gives geometries the tag that is left
of it. -/
theorem declared_tag_lost :
    ∃ c, Table.bind "buoys" (buoySchema 1048576) [] buoyLayer.definition {} =
        .ok (buoyTable 0x10000000#32) ∧
      (buoyTable 0x10000000#32).columns[0]? = some c ∧ c.isGeometry = true ∧
      (Schema.Field.srid (.ofGeometry "geom" .bytes (some 1048576))).toOption =
        some (some ⟨1048576, by decide⟩) ∧
      Srid.ofTypeModifier? c.typeModifier = some ⟨-1048576, by decide⟩ ∧
      Srid.ofTypeModifier? c.typeModifier ≠ some ⟨1048576, by decide⟩ := by
  have hbind : (Table.bind "buoys" (buoySchema 1048576) [] buoyLayer.definition {}).toOption =
      some (buoyTable 0x10000000#32) := by
    decide +kernel
  exact ⟨_, toOption_eq_some.mp hbind, rfl, rfl, by decide +kernel, by decide, by decide⟩

end Operation

end ForeignLayer
