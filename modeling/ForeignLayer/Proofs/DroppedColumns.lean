import ForeignLayer.Proofs.TableColumns

/-!
# Dropped columns

A dropped column keeps its place in a schema, and nothing else of it should matter: no search stops
at it, it is bound to nothing, and no conversions are looked for. So a table should be the one that
is bound from the schema without its dropped fields, up to the places of its columns. This is so
wherever the type modifiers of the dropped fields can be made. They are made of every field, before
it is asked whether the field is dropped, and the metadata of a dropped geometry that cannot be read
keep the whole table from being bound.

The places are the work here. Each search finds in the shorter schema what it finds in the longer
one, at the place that the field has among those that are left, and a column is bound by comparing
its own place with the ones that were found.
-/

namespace ForeignLayer

/-! ## Places among the elements that are left -/

section Places

variable {α : Type} {p q : α → Bool}

/-- What is searched for and never left out is found at its place among what is left. -/
theorem findIdx?_filter (h : ∀ x, p x = true → q x = true) (xs : List α) :
    (xs.filter q).findIdx? p = (xs.findIdx? p).map fun i ↦ (xs.take i).countP q := by
  induction xs with
  | nil => rfl
  | cons x xs ih =>
    by_cases hq : q x = true
    · rw [List.filter_cons_of_pos hq, List.findIdx?_cons, List.findIdx?_cons]
      by_cases hp : p x = true
      · rw [if_pos hp, if_pos hp]
        rfl
      · rw [if_neg hp, if_neg hp, ih, Option.map_map, Option.map_map]
        have hstep : ∀ i, (xs.take i).countP q + 1 = ((x :: xs).take (i + 1)).countP q := by
          intro i
          rw [List.take_succ_cons, List.countP_cons_of_pos hq]
        exact congrArg (Option.map · _) (funext hstep)
    · have hp : ¬ p x = true := fun hp ↦ hq (h x hp)
      rw [List.filter_cons_of_neg hq, List.findIdx?_cons, if_neg hp, ih, Option.map_map]
      have hstep : ∀ i, (xs.take i).countP q = ((x :: xs).take (i + 1)).countP q := by
        intro i
        rw [List.take_succ_cons, List.countP_cons_of_neg hq]
      exact congrArg (Option.map · _) (funext hstep)

theorem getElem?_filter {xs : List α} {i : Nat} {x : α} (hx : xs[i]? = some x) (hq : q x = true) :
    (xs.filter q)[(xs.take i).countP q]? = some x := by
  induction xs generalizing i with
  | nil => cases hx
  | cons y xs ih =>
    cases i with
    | zero =>
      cases hx
      rw [List.filter_cons_of_pos hq]
      rfl
    | succ i =>
      rw [List.getElem?_cons_succ] at hx
      rw [List.take_succ_cons]
      by_cases hy : q y = true
      · rw [List.filter_cons_of_pos hy, List.countP_cons_of_pos hy, List.getElem?_cons_succ]
        exact ih hx
      · rw [List.filter_cons_of_neg hy, List.countP_cons_of_neg hy]
        exact ih hx

theorem countP_take_lt {xs : List α} {i j : Nat} {x : α} (hx : xs[i]? = some x) (hq : q x = true)
    (hij : i < j) : (xs.take i).countP q < (xs.take j).countP q := by
  have hlt : i < xs.length := (List.getElem?_eq_some_iff.mp hx).1
  have hnext : xs.take (i + 1) = xs.take i ++ [x] := by
    rw [List.take_add_one, hx, Option.toList_some]
  have hsublist : (xs.take (i + 1)).Sublist (xs.take j) := List.take_sublist_take_left hij
  have hcount := hsublist.countP_le (p := q)
  rw [hnext, List.countP_append, List.countP_singleton, if_pos hq] at hcount
  exact hcount

end Places

namespace Schema

/-- A schema without its dropped fields. -/
def live (schema : Schema) : Schema := schema.filter fun f ↦ !Catalog.isDropped f

/-- The number of fields before a place that are not dropped. -/
def liveBefore (schema : Schema) (place : Nat) : Nat :=
  (schema.take place).countP fun f ↦ !Catalog.isDropped f

variable {schema : Schema} {i j : Nat} {f : Schema.Field}

theorem live_cons_of_dropped (hdropped : Catalog.isDropped f = true) (rest : Schema) :
    live (f :: rest) = rest.live :=
  List.filter_cons_of_neg (by rw [hdropped]; decide)

theorem live_cons_of_live (hlive : Catalog.isDropped f = false) (rest : Schema) :
    live (f :: rest) = f :: rest.live :=
  List.filter_cons_of_pos (by rw [hlive]; decide)

/-- A field counts for the places behind it unless it is dropped. -/
theorem liveBefore_succ (h : schema[i]? = some f) :
    schema.liveBefore (i + 1) = schema.liveBefore i + if Catalog.isDropped f then 0 else 1 := by
  have htake : schema.take (i + 1) = schema.take i ++ [f] := by
    rw [List.take_add_one, h, Option.toList_some]
  rw [liveBefore, htake, List.countP_append, List.countP_singleton, ← liveBefore]
  cases Catalog.isDropped f <;> rfl

theorem LiveAt.getElem?_live (h : LiveAt schema i f) : schema.live[schema.liveBefore i]? = some f :=
  getElem?_filter h.1 (by rw [h.2, Bool.not_false])

/-- Fields that are not dropped do not fall together. -/
theorem LiveAt.liveBefore_inj {g : Schema.Field} (hi : LiveAt schema i f) (hj : LiveAt schema j g)
    (h : schema.liveBefore i = schema.liveBefore j) : i = j := by
  rcases Nat.lt_trichotomy i j with hlt | heq | hlt
  · exact absurd h (countP_take_lt hi.1 (by rw [hi.2, Bool.not_false]) hlt).ne
  · exact heq
  · exact absurd h (countP_take_lt hj.1 (by rw [hj.2, Bool.not_false]) hlt).ne'

end Schema

namespace Catalog

open Schema

variable {schema : Schema} {layer : Layer.Definition} {settings : Settings.Table}

/-! ## Searches -/

theorem position?_live (schema : Schema) (name : String) :
    position? schema.live name = (position? schema name).map schema.liveBefore := by
  refine findIdx?_filter (fun f hf ↦ ?_) schema
  rw [Bool.and_eq_true] at hf
  exact hf.1

theorem designatedFid_live (schema : Schema) (layer : Layer.Definition)
    (settings : Settings.Table) : designatedFid schema.live layer settings =
      (designatedFid schema layer settings).map (Option.map schema.liveBefore) := by
  unfold designatedFid
  cases settings.fidColumn with
  | some name =>
    dsimp only
    rw [position?_live]
    cases position? schema name <;> rfl
  | none =>
    cases layer.fidColumn with
    | none => rfl
    | some name => exact congrArg Except.ok (position?_live schema name)

theorem findFid_live (schema : Schema) (layer : Layer.Definition) (settings : Settings.Table) :
    findFid schema.live layer settings =
      (findFid schema layer settings).map (Option.map schema.liveBefore) := by
  simp only [findFid, designatedFid_live]
  cases hdesignated : designatedFid schema layer settings with
  | error fault => rfl
  | ok found =>
    cases found with
    | none =>
      -- without a designation, the usual name is looked for among integers
      refine congrArg Except.ok ?_
      rw [position?_live]
      cases hposition : position? schema "fid" with
      | none => rfl
      | some i =>
        obtain ⟨f, hf⟩ := exists_of_position? hposition
        have hholds : holdsIntegers schema.live (schema.liveBefore i) = holdsIntegers schema i := by
          rw [holdsIntegers, holdsIntegers, hf.getElem?_live, hf.1]
        rw [Option.map_some, Option.filter_some, Option.filter_some, hholds]
        cases holdsIntegers schema i <;> rfl
    | some i =>
      obtain ⟨f, hf⟩ := exists_of_designatedFid hdesignated
      simp only [Except.map, Option.map_some, bind, Except.bind, hf.getElem?_live, hf.1]
      split <;> rfl

theorem findGeometry_live (schema : Schema) (layer : Layer.Definition)
    (settings : Settings.Table) : findGeometry schema.live layer settings =
      (findGeometry schema layer settings).map (Option.map schema.liveBefore) := by
  unfold findGeometry
  cases settings.geometryColumn with
  | some name =>
    dsimp only
    rw [position?_live]
    cases hposition : position? schema name with
    | none => rfl
    | some i =>
      obtain ⟨f, hf⟩ := exists_of_position? hposition
      simp only [Option.map_some, Option.bind_some, hf.getElem?_live, hf.1]
      split
      · rfl
      · split <;> rfl
  | none =>
    dsimp only
    by_cases hempty : layer.geometryFields.isEmpty = true
    · rw [if_pos hempty, if_pos hempty]
      rfl
    · rw [if_neg hempty, if_neg hempty]
      refine congrArg Except.ok (findIdx?_filter (fun f hf ↦ ?_) schema)
      rw [Bool.and_eq_true] at hf
      exact hf.1

/-! ## Binding -/

/-- A column at the place of its field among those that are not dropped. -/
def moved (schema : Schema) (c : Column) : Column :=
  { c with ordinal := schema.liveBefore c.ordinal }

/-- What is left of the columns of a schema without the dropped ones. -/
def liveColumns (schema : Schema) (columns : List Column) : List Column :=
  (columns.filter fun c ↦ !c.dropped).map (moved schema)

theorem liveColumns_cons_of_dropped {schema : Schema} {c : Column} (hdropped : c.dropped = true)
    (others : List Column) : liveColumns schema (c :: others) = liveColumns schema others := by
  rw [liveColumns, List.filter_cons_of_neg (by rw [hdropped]; decide), liveColumns]

theorem liveColumns_cons_of_live {schema : Schema} {c : Column} (hlive : c.dropped = false)
    (others : List Column) :
    liveColumns schema (c :: others) = moved schema c :: liveColumns schema others := by
  rw [liveColumns, List.filter_cons_of_pos (by rw [hlive]; decide), List.map_cons, liveColumns]

/-- A table without its dropped columns. -/
def Table.live (schema : Schema) (t : Table) : Table :=
  { t with columns := liveColumns schema t.columns }

/-- Whether a field is no geometry or its reference system can be read. -/
def IsReadable (f : Schema.Field) : Prop := f.isGeometry = true → ∃ srid, f.srid = .ok srid

/-- The reference system is all that a type modifier needs. -/
theorem isReadable_iff {f : Schema.Field} :
    IsReadable f ↔ ∃ modifier, typeModifier f = .ok modifier := by
  unfold IsReadable typeModifier
  cases f.isGeometry with
  | false =>
    rw [if_neg Bool.false_ne_true]
    exact iff_of_true (fun h ↦ absurd h Bool.false_ne_true) ⟨-1, rfl⟩
  | true =>
    rw [if_pos rfl]
    cases f.srid with
    | error fault =>
      refine iff_of_false (fun h ↦ ?_) (fun ⟨modifier, h⟩ ↦ by cases h)
      obtain ⟨srid, hsrid⟩ := h rfl
      cases hsrid
    | ok srid => exact iff_of_true (fun _ ↦ ⟨srid, rfl⟩) ⟨_, rfl⟩

theorem Context.binding_of_dropped (ctx : Context) (place : Nat) {f : Schema.Field}
    (hdropped : isDropped f = true) : ctx.binding place f = .unmatched :=
  if_pos hdropped

/-- A place that was found among the fields that are not dropped is the one of a field exactly if
both are the same in the longer schema. -/
theorem map_liveBefore_eq_some {found : Option Nat} {i : Nat} {f : Schema.Field}
    (hfound : ∀ j, found = some j → ∃ g, LiveAt schema j g) (hf : LiveAt schema i f) :
    found.map schema.liveBefore = some (schema.liveBefore i) ↔ found = some i := by
  constructor
  · intro h
    obtain ⟨j, rfl, hj⟩ := Option.map_eq_some_iff.mp h
    obtain ⟨g, hg⟩ := hfound j rfl
    rw [hg.liveBefore_inj hf hj]
  · rintro rfl
    rfl

namespace Context

/-- A context with its places counted without the dropped fields. -/
def live (schema : Schema) (ctx : Context) : Context :=
  { ctx with
    fid := ctx.fid.map schema.liveBefore
    geometry := ctx.geometry.map schema.liveBefore }

variable {ctx : Context} (hfid : ∀ i, ctx.fid = some i → ∃ f, LiveAt schema i f)
  (hgeometry : ∀ i, ctx.geometry = some i → ∃ f, LiveAt schema i f)

include hfid hgeometry

theorem binding_live {i : Nat} {f : Schema.Field} (hf : LiveAt schema i f) :
    (ctx.live schema).binding (schema.liveBefore i) f = ctx.binding i f := by
  unfold binding
  have hfidPlace : (ctx.live schema).fid = some (schema.liveBefore i) ↔ ctx.fid = some i :=
    map_liveBefore_eq_some hfid hf
  have hgeometryPlace :
      (ctx.live schema).geometry = some (schema.liveBefore i) ↔ ctx.geometry = some i :=
    map_liveBefore_eq_some hgeometry hf
  simp only [hfidPlace, hgeometryPlace]
  rfl

theorem bindColumn_live {i : Nat} {f : Schema.Field} (hf : LiveAt schema i f) :
    (ctx.live schema).bindColumn (schema.liveBefore i) f =
      (ctx.bindColumn i f).map (moved schema) := by
  simp only [bindColumn, binding_live hfid hgeometry hf]
  cases typeModifier f with
  | error fault => rfl
  | ok modifier =>
    simp only [bind, Except.bind]
    split
    · rfl
    · cases Conversion.resolve ((ColumnType.ofField f).element?.getD (.ofField f)) <;> rfl

omit hfid hgeometry in
theorem exists_bindColumn_of_dropped (ctx : Context) (i : Nat) {f : Schema.Field}
    (hdropped : isDropped f = true) (hreadable : IsReadable f) :
    ∃ c, ctx.bindColumn i f = .ok c ∧ c.dropped = true := by
  obtain ⟨modifier, hmodifier⟩ := isReadable_iff.mp hreadable
  refine ⟨⟨i, f.name, isDropped f, .ofField f, modifier, .unmatched, none⟩, ?_, hdropped⟩
  simp only [bindColumn, hmodifier, binding_of_dropped ctx i hdropped]
  rfl

theorem bindColumns_live (place : Nat) {rest : Schema} (hrest : schema.drop place = rest)
    (hreadable : ∀ f ∈ rest, isDropped f = true → IsReadable f) :
    (ctx.live schema).bindColumns (schema.liveBefore place) rest.live =
      (ctx.bindColumns place rest).map (liveColumns schema) := by
  induction rest generalizing place with
  | nil => rfl
  | cons f rest ih =>
    rw [List.forall_mem_cons] at hreadable
    have hget : schema[place]? = some f := by
      rw [← Nat.add_zero place, ← List.getElem?_drop, hrest, List.getElem?_cons_zero]
    have hnext : schema.drop (place + 1) = rest := by
      rw [← List.drop_drop, hrest, List.drop_one, List.tail_cons]
    have hothers := ih (place + 1) hnext hreadable.2
    rw [Schema.liveBefore_succ hget] at hothers
    cases hdropped : isDropped f with
    | true =>
      -- the shorter schema goes on without the field, at the same place
      obtain ⟨c, hc, hgone⟩ :=
        exists_bindColumn_of_dropped ctx place hdropped (hreadable.1 hdropped)
      rw [hdropped, if_pos rfl, Nat.add_zero] at hothers
      rw [Schema.live_cons_of_dropped hdropped, hothers, bindColumns, hc]
      cases ctx.bindColumns (place + 1) rest with
      | error fault => rfl
      | ok others => exact congrArg Except.ok (liveColumns_cons_of_dropped hgone others).symm
    | false =>
      rw [hdropped, if_neg Bool.false_ne_true] at hothers
      rw [Schema.live_cons_of_live hdropped, bindColumns, bindColumns, hothers,
        bindColumn_live hfid hgeometry ⟨hget, hdropped⟩]
      cases hc : ctx.bindColumn place f with
      | error fault => rfl
      | ok c =>
        have hkept : c.dropped = false := (boundFrom_of_bindColumn hc).dropped.trans hdropped
        cases ctx.bindColumns (place + 1) rest with
        | error fault => rfl
        | ok others => exact congrArg Except.ok (liveColumns_cons_of_live hkept others).symm

end Context

/-- **Binding passes over dropped fields**, if they can be read. -/
theorem bind_live (name : String) (options : ColumnOptions) (layer : Layer.Definition)
    (settings : Settings.Table)
    (hreadable : ∀ f ∈ schema, isDropped f = true → IsReadable f) :
    Table.bind name schema.live options layer settings =
      (Table.bind name schema options layer settings).map (Table.live schema) := by
  simp only [Table.bind, findFid_live, findGeometry_live]
  cases hfid : findFid schema layer settings with
  | error fault => rfl
  | ok fid =>
    cases hgeometry : findGeometry schema layer settings with
    | error fault => rfl
    | ok geometry =>
      let ctx : Context := ⟨options, layer, fid, geometry⟩
      have hcolumns : (ctx.live schema).bindColumns 0 schema.live =
          (ctx.bindColumns 0 schema).map (liveColumns schema) :=
        Context.bindColumns_live
          (fun i hi ↦ (exists_of_findFid (hfid.trans (congrArg Except.ok hi))).imp
            fun _ ↦ And.left)
          (fun i hi ↦ (exists_of_findGeometry (hgeometry.trans (congrArg Except.ok hi))).imp
            fun _ ↦ And.left)
          0 List.drop_zero hreadable
      simp only [Context.live, ctx] at hcolumns
      simp only [Except.map, bind, Except.bind, hcolumns]
      cases ctx.bindColumns 0 schema <;> rfl

/-! ## Tables -/

section Tables

variable {name : String} {options : ColumnOptions} {table : Table}

/-- No field of a table that could be bound is unreadable. -/
theorem isReadable_of_bind (h : Table.bind name schema options layer settings = .ok table)
    {f : Schema.Field} (hf : f ∈ schema) : IsReadable f := by
  obtain ⟨fid, geometry, -, -, hcolumns⟩ := exists_context h
  obtain ⟨hlength, hbind⟩ := Context.bindColumns_eq_ok hcolumns
  obtain ⟨i, hi⟩ := List.mem_iff_getElem?.mp hf
  have hlt : i < table.columns.length := hlength ▸ (List.getElem?_eq_some_iff.mp hi).1
  obtain ⟨g, hg, hfrom⟩ := hbind i _ (List.getElem?_eq_getElem hlt)
  cases hi.symm.trans hg
  exact isReadable_iff.mpr ⟨_, (Context.boundFrom_of_bindColumn hfrom).modifier⟩

theorem isUnmatched_of_dropped (h : Table.bind name schema options layer settings = .ok table)
    {c : Column} (hc : c ∈ table.columns) (hdropped : c.dropped = true) :
    c.binding = .unmatched := by
  obtain ⟨i, hi⟩ := List.mem_iff_getElem?.mp hc
  obtain ⟨fid, geometry, f, -, -, -, hfrom⟩ := exists_boundFrom h hi
  rw [hfrom.binding]
  exact Context.binding_of_dropped _ _ (hfrom.dropped.symm.trans hdropped)

/-- What is looked for by anything but its place, and is never dropped, is found among the columns
that are left. -/
theorem find?_liveColumns {p : Column → Bool} {columns : List Column}
    (hmoved : ∀ c, p (moved schema c) = p c)
    (hlive : ∀ c ∈ columns, p c = true → c.dropped = false) :
    (liveColumns schema columns).find? p = (columns.find? p).map (moved schema) := by
  have hsame : p ∘ moved schema = p := funext hmoved
  rw [liveColumns, List.find?_map, hsame, List.find?_filter]
  refine congrArg (Option.map _) (List.find?_congr fun c hc ↦ ?_)
  cases hp : p c with
  | false => simp only [Bool.false_eq_true, and_false, decide_false]
  | true => simp only [hlive c hc hp, Bool.not_false, and_self, decide_true]

/-- What a table and the one that is bound without the dropped fields have to do with each other. -/
structure IsLiveOf (schema : Schema) (shorter table : Table) : Prop where
  name : shorter.name = table.name
  layerName : shorter.layerName = table.layerName
  /-- The columns are those that are not dropped, and differ in nothing but their places. -/
  columns : shorter.columns = liveColumns schema table.columns
  column : ∀ name, shorter.column? name = (table.column? name).map (moved schema)
  geometry : shorter.geometry? = table.geometry?.map (moved schema)
  fid : shorter.fid? = table.fid?.map (moved schema)

theorem isLiveOf_live (h : Table.bind name schema options layer settings = .ok table) :
    IsLiveOf schema (table.live schema) table := by
  have hunmatched : ∀ c ∈ table.columns, c.binding ≠ .unmatched → c.dropped = false := by
    intro c hc hmatched
    rw [← Bool.not_eq_true]
    intro hdropped
    exact hmatched (isUnmatched_of_dropped h hc hdropped)
  refine ⟨rfl, rfl, rfl, fun n ↦ ?_, ?_, ?_⟩
  · refine find?_liveColumns (fun _ ↦ rfl) fun c _ hc ↦ ?_
    rw [Bool.and_eq_true, Bool.not_eq_true'] at hc
    exact hc.1
  · refine find?_liveColumns (fun _ ↦ rfl) fun c hc hgeometry ↦ hunmatched c hc ?_
    obtain ⟨index, kind, hbinding⟩ := exists_of_isGeometry hgeometry
    rw [hbinding]
    exact Binding.noConfusion
  · refine find?_liveColumns (fun _ ↦ rfl) fun c hc hfid ↦ hunmatched c hc ?_
    rw [binding_of_isFid hfid]
    exact Binding.noConfusion

end Tables

/-- Whether a table could do without the dropped fields of its schema. -/
structure AreInert (name : String) (schema : Schema) (options : ColumnOptions)
    (layer : Layer.Definition) (settings : Settings.Table) : Prop where
  bound_iff : (∃ table, Table.bind name schema options layer settings = .ok table) ↔
    ∃ shorter, Table.bind name schema.live options layer settings = .ok shorter
  same : ∀ table shorter, Table.bind name schema options layer settings = .ok table →
    Table.bind name schema.live options layer settings = .ok shorter → IsLiveOf schema shorter table

/-- **Dropped columns matter exactly where one of them cannot be read** and nothing else keeps the
table from being bound. -/
theorem areInert_iff (name : String) (schema : Schema) (options : ColumnOptions)
    (layer : Layer.Definition) (settings : Settings.Table) :
    AreInert name schema options layer settings ↔
      ((∃ shorter, Table.bind name schema.live options layer settings = .ok shorter) →
        ∀ f ∈ schema, isDropped f = true → IsReadable f) := by
  constructor
  · intro h hshorter f hf _
    obtain ⟨table, htable⟩ := h.bound_iff.mpr hshorter
    exact isReadable_of_bind htable hf
  · intro h
    by_cases hreadable : ∀ f ∈ schema, isDropped f = true → IsReadable f
    · have hlive := bind_live name options layer settings hreadable
      cases htable : Table.bind name schema options layer settings with
      | error fault =>
        rw [htable] at hlive
        refine ⟨?_, fun table shorter hbound ↦ by rw [htable] at hbound; cases hbound⟩
        rw [htable, hlive]
        exact iff_of_false (fun ⟨table, h⟩ ↦ by cases h) (fun ⟨shorter, h⟩ ↦ by cases h)
      | ok table =>
        rw [htable] at hlive
        refine ⟨iff_of_true ⟨table, htable⟩ ⟨_, hlive⟩, fun table' shorter htable' hshorter ↦ ?_⟩
        cases htable.symm.trans htable'
        cases hlive.symm.trans hshorter
        exact isLiveOf_live htable
    · -- neither schema can be bound
      have hshort : ¬ ∃ shorter, Table.bind name schema.live options layer settings = .ok shorter :=
        fun hshorter ↦ hreadable (h hshorter)
      have hlong : ¬ ∃ table, Table.bind name schema options layer settings = .ok table :=
        fun ⟨table, htable⟩ ↦ hreadable fun f hf _ ↦ isReadable_of_bind htable hf
      exact ⟨iff_of_false hlong hshort, fun table _ htable ↦ absurd ⟨table, htable⟩ hlong⟩

/-- A schema with a geometry that was dropped long ago. -/
private def wharfSchema : Schema :=
  [⟨"outline", .bytes, [(extensionNameKey, geometryExtension), (extensionMetadataKey, "not JSON"),
      (droppedKey, "true")]⟩,
    ⟨"name", .utf8, []⟩]

private def wharfLayer : Layer.Definition := ⟨"wharfs", [⟨"name", .string⟩], [], none⟩

private def wharfTable : Table where
  name := "wharfs"
  layerName := "wharfs"
  columns := [⟨0, "name", false, .plain .utf8, -1, .field 0 ⟨"name", .string⟩,
    (Conversion.resolve (.plain .utf8)).toOption⟩]

/-- A dropped geometry with metadata that are no JSON text keeps a table from being bound. -/
theorem not_areInert_wharfs :
    ¬ AreInert "wharfs" wharfSchema [] wharfLayer { layer := "wharfs" } := by
  intro h
  have hshorter : ∃ shorter, Table.bind "wharfs" wharfSchema.live [] wharfLayer
      { layer := "wharfs" } = .ok shorter := ⟨wharfTable, rfl⟩
  obtain ⟨table, htable⟩ := h.bound_iff.mpr hshorter
  have hfault : (Table.bind "wharfs" wharfSchema [] wharfLayer { layer := "wharfs" }).toOption =
      none := by
    decide +kernel
  rw [htable] at hfault
  cases hfault

end Catalog

end ForeignLayer
