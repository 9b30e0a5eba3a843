import ForeignLayer.Catalog.Table
import ForeignLayer.Proofs.Results

/-!
# The columns of a bound table

What is known of a column that is bound to a field: the index is the one that its layer gives for
the name of the field, whichever way the field was found, and the column has the conversions of its
own type. Every look-up of a field takes the first one that fits; a field before it with the same
name would have fitted as well.
-/

namespace ForeignLayer

/-- The field that is not dropped at a place. -/
def Schema.LiveAt (schema : Schema) (place : Nat) (f : Schema.Field) : Prop :=
  schema[place]? = some f ∧ Catalog.isDropped f = false

namespace Catalog

open Schema

/-- What is known of a column of a table for a layer that is bound to a field. -/
structure BoundTo (layer : Layer.Definition) (c : Column) (index : Nat) (field : Layer.Field) :
    Prop where
  binding : c.binding = .field index field
  fieldIndex : layer.fieldIndex? field.name = some index
  getElem : layer.fields[index]? = some field
  notDropped : c.dropped = false
  plain : c.type.isGeometry = false
  conversion : ∃ conversion, c.conversion = some conversion ∧
    conversion.type = c.type.element?.getD c.type

/-! ## Looking columns up -/

/-- Among columns of different names, dropped ones aside, each one is found by its name. -/
theorem column?_of_mem {table : Table}
    (hnames : ((table.columns.filter fun c ↦ !c.dropped).map Column.name).Nodup) {c : Column}
    (hc : c ∈ table.columns) (hdropped : c.dropped = false) : table.column? c.name = some c := by
  have hlive {c' : Column} (hc' : c' ∈ table.columns) (hdropped' : c'.dropped = false) :
      c' ∈ table.columns.filter fun c ↦ !c.dropped :=
    List.mem_filter.mpr ⟨hc', by rw [hdropped', Bool.not_false]⟩
  have hfound : (table.column? c.name).isSome = true := by
    rw [Table.column?, List.find?_isSome]
    exact ⟨c, hc, by rw [hdropped, beq_self_eq_true, Bool.not_false, Bool.and_self]⟩
  obtain ⟨c', hc'⟩ := Option.isSome_iff_exists.mp hfound
  have htest := List.find?_some hc'
  rw [Bool.and_eq_true, Bool.not_eq_true', beq_iff_eq] at htest
  have hmem := hlive (List.mem_of_find?_eq_some hc') htest.1
  rw [hc', List.inj_on_of_nodup_map hnames hmem (hlive hc hdropped) htest.2]

theorem binding_of_isFid {c : Column} (h : c.isFid = true) : c.binding = .fid := beq_iff_eq.mp h

theorem exists_of_isGeometry {c : Column} (h : c.isGeometry = true) :
    ∃ index kind, c.binding = .geometry index kind := by
  unfold Column.isGeometry at h
  split at h
  · next index kind hbinding => exact ⟨index, kind, hbinding⟩
  · cases h

theorem exists_geometry_of_geometry? {table : Table} {c : Column} (h : table.geometry? = some c) :
    ∃ index kind, c.binding = .geometry index kind :=
  exists_of_isGeometry (List.find?_some h)

/-! ## Looking places up -/

section Places

variable {schema : Schema} {layer : Layer.Definition} {settings : Settings.Table} {i : Nat}

theorem exists_of_findIdx? {p : Field → Bool}
    (h : schema.findIdx? (fun f ↦ !isDropped f && p f) = some i) :
    ∃ f, LiveAt schema i f ∧ p f = true := by
  rw [List.findIdx?_eq_some_iff_getElem] at h
  obtain ⟨hlt, htest, -⟩ := h
  rw [Bool.and_eq_true, Bool.not_eq_true'] at htest
  exact ⟨schema[i], ⟨List.getElem?_eq_getElem hlt, htest.1⟩, htest.2⟩

theorem exists_of_position? {name : String} (h : position? schema name = some i) :
    ∃ f, LiveAt schema i f := by
  obtain ⟨f, hf, -⟩ := exists_of_findIdx? h
  exact ⟨f, hf⟩

theorem exists_of_designatedFid (h : designatedFid schema layer settings = .ok (some i)) :
    ∃ f, LiveAt schema i f := by
  unfold designatedFid at h
  split at h
  · split at h
    · next hposition =>
      cases h
      exact exists_of_position? hposition
    · cases h
  · obtain ⟨name, -, hposition⟩ := Option.bind_eq_some_iff.mp (Except.ok.inj h)
    exact exists_of_position? hposition

/-- The place of feature ids has a field of integers. -/
theorem exists_of_findFid (h : findFid schema layer settings = .ok (some i)) :
    ∃ f, LiveAt schema i f ∧ f.type.isInteger = true := by
  obtain ⟨found, hdesignated, h⟩ := bind_eq_ok.mp h
  cases found with
  | none =>
    -- a column that only has the usual name is taken if it holds integers
    obtain ⟨hposition, hholds⟩ := Option.filter_eq_some_iff.mp (Except.ok.inj h)
    obtain ⟨f, hf⟩ := exists_of_position? hposition
    rw [holdsIntegers, hf.1, Option.map_some, Option.getD_some] at hholds
    exact ⟨f, hf, hholds⟩
  | some j =>
    obtain ⟨f, hf⟩ := exists_of_designatedFid hdesignated
    simp only [hf.1] at h
    by_cases hinteger : f.type.isInteger = true
    · rw [if_pos hinteger] at h
      cases h
      exact ⟨f, hf, hinteger⟩
    · rw [if_neg hinteger] at h
      cases h

theorem isInteger_of_findFid (h : findFid schema layer settings = .ok (some i)) {f : Field}
    (hf : schema[i]? = some f) : f.type.isInteger = true := by
  obtain ⟨g, hg, hinteger⟩ := exists_of_findFid h
  cases hg.1.symm.trans hf
  exact hinteger

/-- The place of geometries has a field of geometries. -/
theorem exists_of_findGeometry (h : findGeometry schema layer settings = .ok (some i)) :
    ∃ f, LiveAt schema i f ∧ f.isGeometry = true := by
  unfold findGeometry at h
  split at h
  · split at h
    · cases h
    · next j f hfound =>
      obtain ⟨k, hposition, hplace⟩ := Option.bind_eq_some_iff.mp hfound
      obtain ⟨g, hg, ⟨⟩⟩ := Option.map_eq_some_iff.mp hplace
      obtain ⟨g', hg'⟩ := exists_of_position? hposition
      cases hg.symm.trans hg'.1
      split at h
      · cases h
      · next hgeometry =>
        split at h
        · cases h
        · cases h
          exact ⟨_, hg', by simpa using hgeometry⟩
  · split at h
    · cases h
    · exact exists_of_findIdx? (Except.ok.inj h)

theorem isGeometry_of_findGeometry (h : findGeometry schema layer settings = .ok (some i))
    {f : Field} (hf : schema[i]? = some f) : f.isGeometry = true := by
  obtain ⟨g, hg, hgeometry⟩ := exists_of_findGeometry h
  cases hg.1.symm.trans hf
  exact hgeometry

end Places

/-! ## Looking fields up -/

/-- Where a first element passes a test that depends on its name only, the first one with its name
is itself. -/
theorem fieldIndex?_of_findIdx? {layer : Layer.Definition} {p : String → Bool} {i : Nat}
    (h : layer.fields.findIdx? (fun f ↦ p f.name) = some i) {field : Layer.Field}
    (hfield : layer.fields[i]? = some field) : layer.fieldIndex? field.name = some i := by
  rw [List.findIdx?_eq_some_iff_getElem] at h
  obtain ⟨hlt, hp, hfirst⟩ := h
  have hget : layer.fields[i] = field := by
    rw [List.getElem?_eq_getElem hlt] at hfield
    exact Option.some.inj hfield
  rw [Layer.Definition.fieldIndex?, List.findIdx?_eq_some_iff_getElem]
  refine ⟨hlt, by rw [hget, beq_self_eq_true], fun j hj ↦ ?_⟩
  intro heq
  rw [beq_iff_eq] at heq
  apply hfirst j hj
  rw [heq, ← hget]
  exact hp

theorem fieldIndex?_of_matchIndex? {options : ColumnOptions} {layer : Layer.Definition}
    {column : String} {i : Nat} (h : matchIndex? options layer column = some i)
    {field : Layer.Field} (hfield : layer.fields[i]? = some field) :
    layer.fieldIndex? field.name = some i := by
  unfold matchIndex? at h
  split at h
  · next name _ =>
    rcases Option.or_eq_some_iff.mp ((Option.orElse_eq_or ..).symm.trans h) with h | ⟨-, h⟩
    · exact fieldIndex?_of_findIdx? (p := (· == name)) h hfield
    · exact fieldIndex?_of_findIdx? (p := (Text.sameFolded · name)) h hfield
  · rcases Option.or_eq_some_iff.mp ((Option.orElse_eq_or ..).symm.trans h) with h | ⟨-, h⟩
    · exact fieldIndex?_of_findIdx? (p := (Text.sameFolded · column)) h hfield
    · exact fieldIndex?_of_findIdx? (p := fun n ↦ launder n == Text.lower column) h hfield

theorem matchField_eq_field {options : ColumnOptions} {layer : Layer.Definition}
    {column : String} {i : Nat} {field : Layer.Field}
    (h : matchField options layer column = .field i field) :
    layer.fields[i]? = some field ∧ layer.fieldIndex? field.name = some i := by
  unfold matchField at h
  split at h
  · cases h
  · next j hj =>
    split at h
    · next f hf =>
      cases h
      exact ⟨hf, fieldIndex?_of_matchIndex? hj hf⟩
    · cases h

theorem matchField_cases (options : ColumnOptions) (layer : Layer.Definition) (column : String) :
    matchField options layer column = .unmatched ∨
      ∃ i field, matchField options layer column = .field i field := by
  unfold matchField
  split
  · exact .inl rfl
  · split
    · exact .inr ⟨_, _, rfl⟩
    · exact .inl rfl

/-! ## Binding columns -/

theorem type_of_resolve {type : ColumnType} {conversion : Conversion}
    (h : Conversion.resolve type = .ok conversion) : conversion.type = type := by
  unfold Conversion.resolve at h
  split at h
  · cases h
    rfl
  · split at h <;> cases h

theorem storage_of_conversion {conversion : Conversion}
    (hgeometry : conversion.type.isGeometry = true) :
    ∃ storage, conversion.type.storage = .binary storage := by
  have hsupported := conversion.supported
  rw [ColumnType.isSupported, if_pos hgeometry] at hsupported
  cases ht : conversion.type.storage <;> rw [ht] at hsupported <;>
    first | exact ⟨_, rfl⟩ | cases hsupported

namespace Context

variable {ctx : Context}

/-- Every field of a schema is bound to one column, in its place. -/
theorem bindColumns_eq_ok {ordinal : Nat} {schema : Schema} {columns : List Column}
    (h : ctx.bindColumns ordinal schema = .ok columns) :
    columns.length = schema.length ∧ ∀ i c, columns[i]? = some c →
      ∃ f, schema[i]? = some f ∧ ctx.bindColumn (ordinal + i) f = .ok c := by
  induction schema generalizing ordinal columns with
  | nil =>
    cases h
    exact ⟨rfl, fun i c hc ↦ by cases hc⟩
  | cons f rest ih =>
    obtain ⟨first, hfirst, h⟩ := bind_eq_ok.mp h
    obtain ⟨others, hothers, ⟨⟩⟩ := bind_eq_ok.mp h
    obtain ⟨hlength, hcolumns⟩ := ih hothers
    refine ⟨congrArg (· + 1) hlength, fun i c hc ↦ ?_⟩
    cases i with
    | zero =>
      cases hc
      exact ⟨f, rfl, hfirst⟩
    | succ i =>
      obtain ⟨f', hf', hbind⟩ := hcolumns i c hc
      refine ⟨f', hf', ?_⟩
      rwa [Nat.add_right_comm, Nat.add_assoc] at hbind

/-- What a column takes from the field at its place. -/
structure BoundFrom (ctx : Context) (place : Nat) (f : Schema.Field) (c : Column) : Prop where
  ordinal : c.ordinal = place
  name : c.name = f.name
  dropped : c.dropped = isDropped f
  type : c.type = ColumnType.ofField f
  modifier : typeModifier f = .ok c.typeModifier
  binding : c.binding = ctx.binding place f
  conversion : c.conversion.map Conversion.type =
    if c.binding = .unmatched then none else some (c.type.element?.getD c.type)

theorem boundFrom_of_bindColumn {ordinal : Nat} {f : Schema.Field} {c : Column}
    (h : ctx.bindColumn ordinal f = .ok c) : BoundFrom ctx ordinal f c := by
  obtain ⟨modifier, hmodifier, h⟩ := bind_eq_ok.mp h
  by_cases hunmatched : ctx.binding ordinal f = .unmatched
  · simp only [if_pos hunmatched] at h
    cases h
    exact ⟨rfl, rfl, rfl, rfl, hmodifier, rfl, (if_pos hunmatched).symm⟩
  · simp only [if_neg hunmatched] at h
    obtain ⟨conversion, hconversion, ⟨⟩⟩ := bind_eq_ok.mp h
    obtain ⟨resolved, hresolved, rfl⟩ := map_eq_ok.mp hconversion
    refine ⟨rfl, rfl, rfl, rfl, hmodifier, rfl, ?_⟩
    rw [if_neg hunmatched, Option.map_some, type_of_resolve (mapError_eq_ok.mp hresolved)]

theorem BoundFrom.exists_conversion {ordinal : Nat} {f : Schema.Field} {c : Column}
    (h : BoundFrom ctx ordinal f c) (hmatched : c.binding ≠ .unmatched) :
    ∃ conversion, c.conversion = some conversion ∧
      conversion.type = c.type.element?.getD c.type := by
  have hconversion := h.conversion
  rw [if_neg hmatched] at hconversion
  exact Option.map_eq_some_iff.mp hconversion

/-- What a column can be bound to. -/
inductive Binds (ctx : Context) (place : Nat) (f : Schema.Field) : Binding → Prop
  | unmatched : Binds ctx place f .unmatched
  | fid (hdropped : isDropped f = false) (hplace : ctx.fid = some place) : Binds ctx place f .fid
  | geometry (hdropped : isDropped f = false) (hplace : ctx.geometry = some place)
      {field : Layer.GeometryField} {rest : List Layer.GeometryField}
      (hfields : ctx.layer.geometryFields = field :: rest) :
      Binds ctx place f (.geometry 0 field.kind)
  | field (hdropped : isDropped f = false) (hplain : f.isGeometry = false) {index : Nat}
      {field : Layer.Field}
      (hmatch : matchField ctx.options ctx.layer f.name = .field index field) :
      Binds ctx place f (.field index field)

theorem binds_binding (ctx : Context) (place : Nat) (f : Schema.Field) :
    Binds ctx place f (ctx.binding place f) := by
  by_cases hdropped : isDropped f = true
  · rw [binding, if_pos hdropped]
    exact .unmatched
  have hlive : isDropped f = false := by simpa using hdropped
  rw [binding, if_neg hdropped]
  by_cases hfid : ctx.fid = some place
  · rw [if_pos hfid]
    exact .fid hlive hfid
  rw [if_neg hfid]
  by_cases hgeometry : ctx.geometry = some place
  · rw [if_pos hgeometry]
    split
    · next hfields => exact .geometry hlive hgeometry hfields
    · exact .unmatched
  rw [if_neg hgeometry]
  by_cases hplain : f.isGeometry = true
  · rw [if_pos hplain]
    exact .unmatched
  rw [if_neg hplain]
  rcases matchField_cases ctx.options ctx.layer f.name with hmatch | ⟨index, field, hmatch⟩
  · rw [hmatch]
    exact .unmatched
  · rw [hmatch]
    exact .field hlive (by simpa using hplain) hmatch

theorem BoundFrom.binds {place : Nat} {f : Schema.Field} {c : Column}
    (h : BoundFrom ctx place f c) : Binds ctx place f c.binding :=
  h.binding ▸ binds_binding ctx place f

end Context

theorem exists_context {name : String} {schema : Schema} {options : ColumnOptions}
    {layer : Layer.Definition} {settings : Settings.Table} {table : Table}
    (h : Table.bind name schema options layer settings = .ok table) :
    ∃ fid geometry, findFid schema layer settings = .ok fid ∧
      findGeometry schema layer settings = .ok geometry ∧
      Context.bindColumns ⟨options, layer, fid, geometry⟩ 0 schema = .ok table.columns := by
  obtain ⟨fid, hfid, h⟩ := bind_eq_ok.mp h
  obtain ⟨geometry, hgeometry, h⟩ := bind_eq_ok.mp h
  obtain ⟨columns, hcolumns, ⟨⟩⟩ := bind_eq_ok.mp h
  exact ⟨fid, geometry, hfid, hgeometry, hcolumns⟩

theorem exists_boundFrom {name : String} {schema : Schema} {options : ColumnOptions}
    {layer : Layer.Definition} {settings : Settings.Table} {table : Table}
    (h : Table.bind name schema options layer settings = .ok table) {i : Nat} {c : Column}
    (hc : table.columns[i]? = some c) :
    ∃ fid geometry f, schema[i]? = some f ∧ findFid schema layer settings = .ok fid ∧
      findGeometry schema layer settings = .ok geometry ∧
      Context.BoundFrom ⟨options, layer, fid, geometry⟩ i f c := by
  obtain ⟨fid, geometry, hfid, hgeometry, hcolumns⟩ := exists_context h
  obtain ⟨f, hf, hbind⟩ := (Context.bindColumns_eq_ok hcolumns).2 i c hc
  rw [Nat.zero_add] at hbind
  exact ⟨fid, geometry, f, hf, hfid, hgeometry, Context.boundFrom_of_bindColumn hbind⟩

theorem element?_of_isGeometry {type : ColumnType} (h : type.isGeometry = true) :
    type.element? = none := by
  obtain ⟨isGeometry, storage⟩ := type
  cases h
  rfl

/-- **A column that is bound to a field is bound as its layer knows the field.** -/
theorem boundTo_of_bind {name : String} {schema : Schema} {options : ColumnOptions}
    {layer : Layer.Definition} {settings : Settings.Table} {table : Table}
    (h : Table.bind name schema options layer settings = .ok table) {c : Column}
    (hc : c ∈ table.columns) {index : Nat} {field : Layer.Field}
    (hbinding : c.binding = .field index field) : BoundTo layer c index field := by
  obtain ⟨i, hi⟩ := List.mem_iff_getElem?.mp hc
  obtain ⟨fid, geometry, f, -, -, -, hfrom⟩ := exists_boundFrom h hi
  have hbinds := hfrom.binds
  rw [hbinding] at hbinds
  cases hbinds with
  | field hdropped hplain hmatch =>
    obtain ⟨hfield, hindex⟩ := matchField_eq_field hmatch
    refine ⟨hbinding, hindex, hfield, hfrom.dropped.trans hdropped, ?_, hfrom.exists_conversion ?_⟩
    · rw [hfrom.type]
      exact hplain
    · rw [hbinding]
      exact Binding.noConfusion

/-- What is known of a column of a table for a layer that is bound to a geometry field. -/
structure BoundToGeometry (layer : Layer.Definition) (c : Column) (index : Nat) : Prop where
  fieldIndex : c.fieldIndex? = some index
  lt_length : index < layer.geometryFields.length
  notDropped : c.dropped = false
  isGeometry : c.type.isGeometry = true
  conversion : ∃ conversion, c.conversion = some conversion ∧ conversion.type = c.type

/-- **A column that is bound to a geometry field holds geometries**, and the layer has the field. -/
theorem boundToGeometry_of_bind {name : String} {schema : Schema} {options : ColumnOptions}
    {layer : Layer.Definition} {settings : Settings.Table} {table : Table}
    (h : Table.bind name schema options layer settings = .ok table) {c : Column}
    (hc : c ∈ table.columns) {index : Nat} {kind : Geometry.Kind}
    (hbinding : c.binding = .geometry index kind) : BoundToGeometry layer c index := by
  obtain ⟨i, hi⟩ := List.mem_iff_getElem?.mp hc
  obtain ⟨fid, geometry, f, hf, -, hgeometry, hfrom⟩ := exists_boundFrom h hi
  have hbinds := hfrom.binds
  rw [hbinding] at hbinds
  cases hbinds with
  | geometry hdropped hplace hfields =>
    cases hplace
    have hisGeometry : c.type.isGeometry = true := by
      rw [hfrom.type]
      exact isGeometry_of_findGeometry hgeometry hf
    refine ⟨?_, ?_, hfrom.dropped.trans hdropped, hisGeometry, ?_⟩
    · rw [Column.fieldIndex?, hbinding]
    · rw [hfields]
      exact Nat.succ_pos _
    · have hconversion := hfrom.exists_conversion (by rw [hbinding]; exact Binding.noConfusion)
      rwa [element?_of_isGeometry hisGeometry] at hconversion

end Catalog

end ForeignLayer
