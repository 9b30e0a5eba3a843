import ForeignLayer.Proofs.FilterTruth
import ForeignLayer.Proofs.GeometryExchange
import ForeignLayer.Proofs.Results

/-!
# What rows show of features

The row of a feature holds, in the place of each column, what the column reads: a field after a
cast, and the geometry in binary form. So a predicate finds under the name of a column the value of
the field it is bound to, and under the name of the geometry column a geometry with the bounds of
the one that the layer has.
-/

namespace ForeignLayer

open Catalog Predicate Operation Column

/-! ## Features -/

/-- Whether the values of a feature have the native types of their fields. -/
def Feature.Fits (f : Feature) (layer : Layer.Definition) : Prop :=
  ∀ (i : Nat) (x : Scalar) (field : Layer.Field), f.fields[i]? = some x →
    layer.fields[i]? = some field → x.type = field.type.native

namespace Operation

variable {table : Table} {f : Feature} {row : Row}

/-! ## Columns -/

theorem getElem?_of_rowOf (h : rowOf table f = .ok row) {i : Nat} {c : Catalog.Column}
    (hc : table.columns[i]? = some c) :
    ∃ v, row[i]? = some v ∧ columnValue c c.type.storage f = .ok v := by
  have hcells := mapM_eq_ok_iff.mp h
  obtain ⟨hlt, rfl⟩ := List.getElem?_eq_some_iff.mp hc
  have hlt' : i < row.length := hcells.length_eq ▸ hlt
  exact ⟨row[i], List.getElem?_eq_getElem hlt', hcells.get hlt hlt'⟩

/-- A row holds under the name of a column what the column reads. -/
theorem value?_of_rowOf {ev : Evaluation} (h : rowOf ev.table f = .ok row) {name : String}
    {c : Catalog.Column} (hc : ev.table.column? name = some c) :
    ∃ v, ev.value? row name = some v ∧ columnValue c c.type.storage f = .ok v :=
  exists_of_mapM h hc

theorem castTo_eq_ok {s v : Scalar} {t : DataType} :
    Operation.castTo s t = .ok v ↔ s.cast t = .ok v := by
  simp only [Operation.castTo, Scalar.castTo]
  cases s.cast t <;> simp [Except.mapError]

theorem nullOf_eq_ok {t : DataType} {v : Scalar} (h : nullOf t = .ok v) : v = .nullOf t := by
  unfold nullOf at h
  split at h
  · cases h
    rfl
  · cases h

theorem isPlain_of_isConvertible {t : DataType} (h : ColumnType.isConvertible t = true) :
    t.IsPlain := by
  cases t <;> trivial

section Fields

variable {ev : Evaluation} {layer : Layer.Definition}
  (hbound : ∀ c ∈ ev.table.columns, ∀ index field, c.binding = .field index field →
    BoundTo layer c index field)
  (hfits : f.Fits layer) (hrow : rowOf ev.table f = .ok row)

include hbound hfits hrow

/-- **The row of a feature shows the feature**: a column that is bound to a field has the value of
the field in its type. -/
theorem rowShows_of_rowOf : RowShows ev row f := by
  intro name c index field hcolumn harray hbinding
  have hmem := List.mem_of_find?_eq_some hcolumn
  have hboundTo := hbound c hmem index field hbinding
  obtain ⟨conversion, -, htype⟩ :=
    @Stands.conversion ⟨ev.table, .utf8, ev.bindings⟩ layer hbound _ _ _ _
      (@Stands.column _ name none _ _ _ hcolumn harray hbinding)
  have hplain : c.type.storage.IsPlain := by
    have hsupported := conversion.supported
    rw [htype, ColumnType.isSupported, hboundTo.plain] at hsupported
    exact isPlain_of_isConvertible hsupported
  obtain ⟨v, hv, hvalue⟩ := value?_of_rowOf hrow hcolumn
  refine ⟨hplain, v, hv, ?_⟩
  rw [columnValue, hbinding] at hvalue
  dsimp only at hvalue
  cases hx : f.fields[index]? with
  | none =>
    rw [hx] at hvalue
    rw [nullOf_eq_ok hvalue]
    exact .missing
  | some x =>
    rw [hx] at hvalue
    exact .value (hfits index x field hx hboundTo.getElem) (castTo_eq_ok.mp hvalue)

end Fields

/-! ## Geometries -/

theorem conversion_of_boundToGeometry {layer : Layer.Definition} {c : Catalog.Column} {index : Nat}
    (hbound : BoundToGeometry layer c index) :
    ∃ storage, c.type.storage = .binary storage ∧ c.conversion = some (.ofGeometry storage) := by
  obtain ⟨conversion, hconversion, htype⟩ := hbound.conversion
  obtain ⟨storage, hstorage⟩ := storage_of_conversion (by rw [htype]; exact hbound.isGeometry)
  rw [htype] at hstorage
  have hof : conversion = .ofGeometry storage := by
    refine Conversion.eq_of_type (htype.trans ?_)
    show (⟨c.type.isGeometry, c.type.storage⟩ : ColumnType) = _
    rw [hbound.isGeometry, hstorage]
    rfl
  exact ⟨storage, hstorage, hof ▸ hconversion⟩

/-- The value of a geometry column is the extended form of the geometry, under the tag of the column
if it has one. -/
theorem geometryValue_eq {c : Catalog.Column} {storage : Storage}
    (hconversion : c.conversion = some (.ofGeometry storage)) (g : Geometry) :
    geometryValue c g =
      .ok (.of (.binary storage) (g.withSrid ((columnSrid c).or g.srid)).extended) := by
  simp only [geometryValue, conversionOf, hconversion, bind, Except.bind, g.toScalar_ofGeometry,
    Except.mapError]
  cases columnSrid c with
  | none => rfl
  | some srid =>
    have hread := Geometry.Wkb.Node.ofBytes_encode g.node_eq .extended g.srid
    have hbytes : (Scalar.of (.binary storage) g.extended).bytes? = some g.extended := rfl
    have hextended : Geometry.Wkb.toExtended g.extended (some srid) =
        .ok (g.withSrid (some srid)).extended := by
      rw [Geometry.Wkb.toExtended, Geometry.extended, hread]
      rfl
    have htagged : (Scalar.of (.binary storage) g.extended).withSrid (some srid) =
        .ok (.of (.binary storage) (g.withSrid (some srid)).extended) := by
      rw [Scalar.withSrid, hbytes]
      simp only [hextended]
      rfl
    simp only [htagged]
    rfl

/-- A geometry column reads a null or the extended form of the geometry of a feature, under the tag
of the column if it has one. -/
theorem columnValue_geometry {c : Catalog.Column} {index : Nat} {kind : Geometry.Kind}
    {storage : Storage} (hbinding : c.binding = .geometry index kind)
    (hstorage : c.type.storage = .binary storage)
    (hconversion : c.conversion = some (.ofGeometry storage)) (f : Feature) :
    columnValue c c.type.storage f = .ok (match f.geometry with
      | some g => .of (.binary storage) (g.withSrid ((columnSrid c).or g.srid)).extended
      | none => .nullOf (.binary storage)) := by
  rw [columnValue, hbinding, hstorage]
  cases f.geometry with
  | some g => exact geometryValue_eq hconversion g
  | none => rfl

/-- A null is written as no geometry, and bytes as the geometry that they hold, under their own tag
or else the one of the column. -/
theorem geometryOf_eq_ok {c : Catalog.Column} {storage : Storage}
    (hconversion : c.conversion = some (.ofGeometry storage)) {v : Scalar}
    {stored : Option Geometry} (h : geometryOf c v = .ok stored) :
    (v.isNull = true ∧ stored = none) ∨ ∃ bytes g tag, v.bytes? = some bytes ∧
      Geometry.Wkb.Node.ofBytes bytes = .ok (g.node, tag) ∧ stored = some g ∧
        g.srid = tag.or (columnSrid c) := by
  obtain ⟨conversion, hfound, h⟩ := bind_eq_ok.mp h
  rw [conversionOf, hconversion] at hfound
  cases hfound
  obtain ⟨found, hfound, ⟨⟩⟩ := bind_eq_ok.mp h
  rw [mapError_eq_ok] at hfound
  cases found with
  | none =>
    refine .inl ⟨?_, rfl⟩
    by_contra hnull
    -- what is not null is refused or has a geometry
    simp only [Geometry.ofScalar?, hnull, if_false] at hfound
    split at hfound
    · cases hfound
    · obtain ⟨bytes, -, hfound⟩ := bind_eq_ok.mp hfound
      obtain ⟨g, -, ⟨⟩⟩ := bind_eq_ok.mp hfound
  | some g =>
    obtain ⟨bytes, hbytes, hread⟩ := Geometry.node_of_ofScalar? hfound
    refine .inr ⟨bytes, if g.srid.isSome then g else g.withSrid (columnSrid c), g.srid, hbytes, ?_,
      rfl, ?_⟩
    · rw [hread]
      split <;> rfl
    · cases hsrid : g.srid with
      | none => rfl
      | some srid => exact hsrid

/-- The geometry of a feature, as far as its bounds go, stands under the name of the geometry
column. -/
theorem geometry?_of_rowOf {ev : Evaluation} {layer : Layer.Definition} {c : Catalog.Column}
    {index : Nat} {kind : Geometry.Kind} (hbinding : c.binding = .geometry index kind)
    (hbound : BoundToGeometry layer c index) {name : String}
    (hcolumn : ev.table.column? name = some c) (h : rowOf ev.table f = .ok row)
    (relation : Option String) :
    ∃ g, ev.geometry? row (.column name relation) = some g ∧
      g.map Geometry.bounds = f.geometry.map Geometry.bounds := by
  obtain ⟨v, hv, hvalue⟩ := value?_of_rowOf h hcolumn
  rw [columnValue, hbinding] at hvalue
  dsimp only at hvalue
  cases hgeometry : f.geometry with
  | none =>
    rw [hgeometry] at hvalue
    cases nullOf_eq_ok hvalue
    refine ⟨none, ?_, rfl⟩
    simp only [Evaluation.geometry?, hv]
    rfl
  | some g =>
    rw [hgeometry] at hvalue
    obtain ⟨storage, -, hconversion⟩ := conversion_of_boundToGeometry hbound
    cases (geometryValue_eq hconversion g).symm.trans hvalue
    generalize (columnSrid c).or g.srid = tag at hv
    refine ⟨some (g.withSrid tag), ?_, rfl⟩
    have hread : Geometry.ofBytes (g.withSrid tag).extended = .ok (g.withSrid tag) :=
      g.ofBytes_encode .extended tag
    have hbytes : (Scalar.of (.binary storage) (g.withSrid tag).extended).bytes? =
        some (g.withSrid tag).extended := rfl
    simp only [Evaluation.geometry?, hv, Option.bind_eq_bind, Option.bind_some, hbytes, hread]
    rfl

end Operation

end ForeignLayer
