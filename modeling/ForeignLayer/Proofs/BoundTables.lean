import ForeignLayer.Proofs.TableColumns

/-!
# What a bound table is made of

A table that could be bound has one column for every field of its schema, and everything that is
read through a column afterwards is known to exist: the column of feature ids holds integers, the
column of geometries holds bytes and the layer has a geometry for it, and every other bound column
names a field of the layer by an index and by a name that lead to the same field. That a geometry
is never taken for an id, and never stored as anything but bytes, follows from the conversions,
which exist for every bound column and for none else.
-/

namespace ForeignLayer.Catalog

open Schema

/-- What is known of the column at a place of a bound table, and of the field it was bound from. -/
structure IsBoundColumn (layer : Layer.Definition) (place : Nat) (f : Schema.Field) (c : Column) :
    Prop where
  ordinal : c.ordinal = place
  name : c.name = f.name
  type : c.type = ColumnType.ofField f
  dropped : c.dropped = isDropped f
  /-- A dropped column stands for nothing. -/
  unmatched : c.dropped = true → c.binding = .unmatched
  /-- Feature ids are integers, and no geometries. -/
  fid : c.binding = .fid → c.type.storage.isInteger = true ∧ c.type.isGeometry = false
  /-- Geometries are bytes, and stand for the first geometry of the layer. -/
  geometry : ∀ index kind, c.binding = .geometry index kind →
    c.type.isGeometry = true ∧ (∃ storage, c.type.storage = .binary storage) ∧
      index = 0 ∧ ∃ field, layer.geometryFields.head? = some field ∧ kind = field.kind
  /-- The index and the name of a field lead to the same field. -/
  field : ∀ index field, c.binding = .field index field →
    layer.fields[index]? = some field ∧ layer.fieldIndex? field.name = some index
  /-- There are conversions for every bound column and for none else. -/
  conversion : c.conversion.isSome = true ↔ c.binding ≠ .unmatched
  /-- The conversions of a list are those of its elements. -/
  elements : ∀ conversion storage element metadata, c.conversion = some conversion →
    c.type.storage = .list storage element metadata →
      conversion.type = ColumnType.ofField ⟨"item", element, metadata⟩
  /-- All other conversions are those of the column. -/
  values : ∀ conversion, c.conversion = some conversion →
    (∀ storage element metadata, c.type.storage ≠ .list storage element metadata) →
      conversion.type = c.type

/-- What is known of a table that was bound from a schema to a layer. -/
structure IsBound (schema : Schema) (layer : Layer.Definition) (table : Table) : Prop where
  length : table.columns.length = schema.length
  column : ∀ (i : Nat) (c : Column), table.columns[i]? = some c →
    ∃ f, schema[i]? = some f ∧ IsBoundColumn layer i f c
  /-- At most one column holds feature ids. -/
  fid : ∀ (i j : Nat) (c c' : Column), table.columns[i]? = some c → table.columns[j]? = some c' →
    c.isFid = true → c'.isFid = true → i = j
  /-- At most one column holds geometries. -/
  geometry : ∀ (i j : Nat) (c c' : Column), table.columns[i]? = some c →
    table.columns[j]? = some c' → c.isGeometry = true → c'.isGeometry = true → i = j
  /-- Feature ids and geometries are different columns. -/
  apart : ∀ (i j : Nat) (c c' : Column), table.columns[i]? = some c →
    table.columns[j]? = some c' → c.isFid = true → c'.isGeometry = true → i ≠ j

/-! ## Conversions -/

section BoundFrom

variable {ctx : Context} {place : Nat} {f : Schema.Field} {c : Column}
  (h : Context.BoundFrom ctx place f c)

include h

theorem storage_of_boundFrom (hmatched : c.binding ≠ .unmatched)
    (hgeometry : c.type.isGeometry = true) : ∃ storage, c.type.storage = .binary storage := by
  obtain ⟨conversion, -, htype⟩ := h.exists_conversion hmatched
  rw [element?_of_isGeometry hgeometry, Option.getD_none] at htype
  rw [← htype]
  refine storage_of_conversion ?_
  rw [htype]
  exact hgeometry

theorem type_of_conversion {conversion : Conversion}
    (hconversion : c.conversion = some conversion) :
    c.binding ≠ .unmatched ∧ conversion.type = c.type.element?.getD c.type := by
  have htype := h.conversion
  rw [hconversion, Option.map_some] at htype
  split at htype
  · cases htype
  · next hmatched => exact ⟨hmatched, Option.some.inj htype⟩

end BoundFrom

/-! ## Tables -/

/-- A column is as its field, its layer and the places that were settled before make it. -/
theorem isBoundColumn_of_boundFrom {schema : Schema} {options : ColumnOptions}
    {layer : Layer.Definition} {settings : Settings.Table} {fid geometry : Option Nat}
    (hfid : findFid schema layer settings = .ok fid)
    (hgeometry : findGeometry schema layer settings = .ok geometry) {i : Nat} {f : Schema.Field}
    (hf : schema[i]? = some f) {c : Column}
    (h : Context.BoundFrom ⟨options, layer, fid, geometry⟩ i f c) : IsBoundColumn layer i f c where
  ordinal := h.ordinal
  name := h.name
  type := h.type
  dropped := h.dropped
  unmatched hdropped := by
    rw [h.binding, Context.binding, if_pos (h.dropped.symm.trans hdropped)]
  fid hbinding := by
    have hbinds := h.binds
    rw [hbinding] at hbinds
    cases hbinds with
    | fid hdropped hplace =>
      cases hplace
      have hinteger : c.type.storage.isInteger = true := by
        rw [h.type]
        exact isInteger_of_findFid hfid hf
      refine ⟨hinteger, ?_⟩
      rw [← Bool.not_eq_true]
      intro hisGeometry
      obtain ⟨storage, hstorage⟩ :=
        storage_of_boundFrom h (by rw [hbinding]; exact Binding.noConfusion) hisGeometry
      rw [hstorage] at hinteger
      cases hinteger
  geometry index kind hbinding := by
    have hbinds := h.binds
    rw [hbinding] at hbinds
    cases hbinds with
    | @geometry hdropped hplace field rest hfields =>
      cases hplace
      have hisGeometry : c.type.isGeometry = true := by
        rw [h.type]
        exact isGeometry_of_findGeometry hgeometry hf
      refine ⟨hisGeometry, ?_, rfl, field, ?_, rfl⟩
      · exact storage_of_boundFrom h (by rw [hbinding]; exact Binding.noConfusion) hisGeometry
      · rw [hfields, List.head?_cons]
  field index field hbinding := by
    have hbinds := h.binds
    rw [hbinding] at hbinds
    cases hbinds with
    | field hdropped hplain hmatch => exact matchField_eq_field hmatch
  conversion := by
    constructor
    · intro hsome
      obtain ⟨conversion, hconversion⟩ := Option.isSome_iff_exists.mp hsome
      exact (type_of_conversion h hconversion).1
    · intro hmatched
      obtain ⟨conversion, hconversion, -⟩ := h.exists_conversion hmatched
      rw [hconversion, Option.isSome_some]
  elements conversion storage element metadata hconversion hstorage := by
    obtain ⟨hmatched, htype⟩ := type_of_conversion h hconversion
    have hplain : c.type.isGeometry = false := by
      rw [← Bool.not_eq_true]
      intro hisGeometry
      obtain ⟨storage', hstorage'⟩ := storage_of_boundFrom h hmatched hisGeometry
      cases hstorage.symm.trans hstorage'
    have hc : c.type = ⟨false, .list storage element metadata⟩ := by
      rw [← hplain, ← hstorage]
    rw [htype, hc]
    rfl
  values conversion hconversion hstorage := by
    obtain ⟨-, htype⟩ := type_of_conversion h hconversion
    have helement : c.type.element? = none := by
      unfold ColumnType.element?
      split
      · next storage element metadata heq =>
        exact absurd (congrArg ColumnType.storage heq) (hstorage storage element metadata)
      · rfl
    rw [htype, helement, Option.getD_none]

/-- **A table that could be bound is bound throughout.** -/
theorem isBound_of_bind {name : String} {schema : Schema} {options : ColumnOptions}
    {layer : Layer.Definition} {settings : Settings.Table} {table : Table}
    (h : Table.bind name schema options layer settings = .ok table) :
    IsBound schema layer table := by
  obtain ⟨fid, geometry, hfid, hgeometry, hcolumns⟩ := exists_context h
  obtain ⟨hlength, hbind⟩ := Context.bindColumns_eq_ok hcolumns
  have hfrom (i : Nat) (c : Column) (hc : table.columns[i]? = some c) : ∃ f, schema[i]? = some f ∧
      Context.BoundFrom ⟨options, layer, fid, geometry⟩ i f c := by
    obtain ⟨f, hf, hfrom⟩ := hbind i c hc
    rw [Nat.zero_add] at hfrom
    exact ⟨f, hf, Context.boundFrom_of_bindColumn hfrom⟩
  -- both designations are places, so that each of them has one column at most
  have hfidPlace (i : Nat) (c : Column) (hc : table.columns[i]? = some c)
      (hisFid : c.isFid = true) : fid = some i := by
    obtain ⟨f, -, hf⟩ := hfrom i c hc
    have hbinds := hf.binds
    rw [binding_of_isFid hisFid] at hbinds
    cases hbinds with
    | fid hdropped hplace => exact hplace
  have hgeometryPlace (i : Nat) (c : Column) (hc : table.columns[i]? = some c)
      (hisGeometry : c.isGeometry = true) : geometry = some i := by
    obtain ⟨index, kind, hbinding⟩ := exists_of_isGeometry hisGeometry
    obtain ⟨f, -, hf⟩ := hfrom i c hc
    have hbinds := hf.binds
    rw [hbinding] at hbinds
    cases hbinds with
    | geometry hdropped hplace hfields => exact hplace
  refine ⟨hlength, fun i c hc ↦ ?_, fun i j c c' hc hc' hi hj ↦ ?_, fun i j c c' hc hc' hi hj ↦ ?_,
    fun i j c c' hc hc' hi hj hij ↦ ?_⟩
  · obtain ⟨f, hf, hfrom⟩ := hfrom i c hc
    exact ⟨f, hf, isBoundColumn_of_boundFrom hfid hgeometry hf hfrom⟩
  · exact Option.some.inj ((hfidPlace i c hc hi).symm.trans (hfidPlace j c' hc' hj))
  · exact Option.some.inj ((hgeometryPlace i c hc hi).symm.trans (hgeometryPlace j c' hc' hj))
  · subst hij
    cases hc.symm.trans hc'
    obtain ⟨index, kind, hbinding⟩ := exists_of_isGeometry hj
    cases hbinding.symm.trans (binding_of_isFid hi)

/-- A layer whose fields share a name but for the case of its letters. -/
private def harbourLayer : Layer.Definition :=
  ⟨"harbours", [⟨"NAME", .string⟩, ⟨"name", .string⟩, ⟨"NAME", .integer⟩, ⟨"Tags", .stringList⟩],
    [⟨"geom", .point⟩, ⟨"area", .polygon⟩], some "ID"⟩

private def harbourSchema : Schema :=
  [⟨"id", .int64, []⟩, ⟨"gone", .utf8, [(droppedKey, "TRUE")]⟩, ⟨"name", .utf8, []⟩,
    ⟨"alias", .utf8, []⟩, ⟨"tags", .list .regular .utf8 [], []⟩,
    ⟨"place", .bytes, [(extensionNameKey, geometryExtension)]⟩,
    ⟨"outline", .bytes, [(extensionNameKey, geometryExtension)]⟩]

private def harbourTable : Table where
  name := "harbours"
  layerName := "harbours"
  columns := [⟨0, "id", false, .plain .int64, -1, .fid,
      (Conversion.resolve (.plain .int64)).toOption⟩,
    ⟨1, "gone", true, .plain .utf8, -1, .unmatched, none⟩,
    ⟨2, "name", false, .plain .utf8, -1, .field 0 ⟨"NAME", .string⟩,
      (Conversion.resolve (.plain .utf8)).toOption⟩,
    ⟨3, "alias", false, .plain .utf8, -1, .field 1 ⟨"name", .string⟩,
      (Conversion.resolve (.plain .utf8)).toOption⟩,
    ⟨4, "tags", false, .plain (.list .regular .utf8 []), -1, .field 3 ⟨"Tags", .stringList⟩,
      (Conversion.resolve (.plain .utf8)).toOption⟩,
    ⟨5, "place", false, .geometry .bytes, 0, .geometry 0 .point,
      (Conversion.resolve (.geometry .bytes)).toOption⟩,
    ⟨6, "outline", false, .geometry .bytes, 0, .unmatched, none⟩]

theorem isBound_of_bind_harbours :
    Table.bind "harbours" harbourSchema [("alias", [(fieldNameOption, "name")])] harbourLayer {} =
        .ok harbourTable ∧
      IsBound harbourSchema harbourLayer harbourTable := by
  have hbind : Table.bind "harbours" harbourSchema [("alias", [(fieldNameOption, "name")])]
      harbourLayer {} = .ok harbourTable := by
    rfl
  exact ⟨hbind, isBound_of_bind hbind⟩

end ForeignLayer.Catalog
