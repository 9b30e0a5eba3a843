import ForeignLayer.Proofs.Events
import ForeignLayer.Proofs.TableColumns

/-!
# What an update writes

A row is written as a whole: its feature starts with null everywhere, every bound column fills its
own slot, and an update puts the feature in the place of the one that has its id. So the columns of
the table say all there is to the new feature. What no column is bound to does not stay as it was:
it becomes null, and a table without a column for geometries leaves no geometry. All other features
stay.

A column fills one slot and leaves the others alone, so a slot holds what the last column for it
says, or is as it was in the beginning.
-/

namespace ForeignLayer

open Catalog

/-! ## Slots -/

/-- The parts of a feature. -/
inductive Slot where
  | fid
  | geometry
  | field (index : Nat)
deriving DecidableEq, Repr

/-- The part of a feature that a column is bound to. -/
def Catalog.Column.slot? (c : Column) : Option Slot :=
  match c.binding with
  | .unmatched => none
  | .fid => some .fid
  | .geometry .. => some .geometry
  | .field index _ => some (.field index)

theorem Catalog.binding_of_slot?_fid {c : Column} (h : c.slot? = some .fid) : c.binding = .fid := by
  unfold Column.slot? at h
  cases hbinding : c.binding with
  | fid => rfl
  | unmatched => rw [hbinding] at h; cases h
  | geometry _ _ => rw [hbinding] at h; cases h
  | field _ _ => rw [hbinding] at h; cases h

theorem Catalog.slot?_eq_geometry {c : Column} :
    c.slot? = some .geometry ↔ c.isGeometry = true := by
  unfold Column.slot? Column.isGeometry
  cases c.binding <;> simp

theorem Catalog.slot?_eq_field {c : Column} {index : Nat} :
    c.slot? = some (.field index) ↔ ∃ field, c.binding = .field index field := by
  unfold Column.slot?
  cases c.binding <;> simp

namespace Operation

/-- The last column for a slot, with its value. -/
def lastFor? (slot : Slot) (cells : List (Column × Scalar)) : Option (Column × Scalar) :=
  cells.reverse.find? fun cell ↦ cell.1.slot? == some slot

theorem lastFor?_append {slot : Slot} {cells : List (Column × Scalar)} {c : Column} {v : Scalar} :
    lastFor? slot (cells ++ [(c, v)]) =
      if c.slot? = some slot then some (c, v) else lastFor? slot cells := by
  rw [lastFor?, List.reverse_append, List.reverse_singleton, List.singleton_append,
    List.find?_cons]
  by_cases h : c.slot? = some slot
  · rw [if_pos h, h, beq_self_eq_true]
  · rw [if_neg h, beq_eq_false_iff_ne.mpr h]
    rfl

theorem slot?_of_lastFor? {slot : Slot} {cells : List (Column × Scalar)} {c : Column} {v : Scalar}
    (h : lastFor? slot cells = some (c, v)) : c.slot? = some slot :=
  beq_iff_eq.mp (List.find?_some (p := fun cell : Column × Scalar ↦ cell.1.slot? == some slot) h)

theorem lastFor?_of_unique {slot : Slot} {columns : List Column} {row : Row} {i : Nat} {c : Column}
    {v : Scalar} (hc : columns[i]? = some c) (hv : row[i]? = some v) (hslot : c.slot? = some slot)
    (hunique : ∀ (j : Nat) (c' : Column), columns[j]? = some c' → c'.slot? = some slot → j = i) :
    lastFor? slot (columns.zip row) = some (c, v) := by
  have hcell : (columns.zip row)[i]? = some (c, v) := List.getElem?_zip_eq_some.mpr ⟨hc, hv⟩
  cases hlast : lastFor? slot (columns.zip row) with
  | none =>
    rw [lastFor?, List.find?_eq_none] at hlast
    have hnot := hlast (c, v) (List.mem_reverse.mpr (List.mem_of_getElem? hcell))
    exact absurd (beq_iff_eq.mpr hslot) hnot
  | some cell =>
    have hmem : cell ∈ columns.zip row := List.mem_reverse.mp (List.mem_of_find?_eq_some hlast)
    obtain ⟨j, hj⟩ := List.mem_iff_getElem?.mp hmem
    have hplace := hunique j cell.1 (List.getElem?_zip_eq_some.mp hj).1 (slot?_of_lastFor? hlast)
    rw [hplace, hcell] at hj
    exact hj.symm

theorem lastFor?_eq_none {slot : Slot} {columns : List Column}
    (h : ∀ c ∈ columns, c.slot? ≠ some slot) (row : Row) :
    lastFor? slot (columns.zip row) = none := by
  rw [lastFor?, List.find?_eq_none]
  intro cell hcell
  rw [List.mem_reverse] at hcell
  rw [beq_iff_eq]
  exact h cell.1 (List.of_mem_zip hcell).1

end Operation

namespace Feature

open Operation

/-- Whether a slot holds the same in two features. -/
def SameIn (slot : Slot) (f f' : Feature) : Prop :=
  match slot with
  | .fid => f'.fid = f.fid
  | .geometry => f'.geometry = f.geometry
  | .field index => f'.fields[index]? = f.fields[index]?

/-- Whether the slot of a column holds what the column makes of a value. -/
def Holds (f : Feature) (c : Column) (v : Scalar) : Prop :=
  match c.binding with
  | .unmatched => True
  | .fid => fidOf v = .ok f.fid
  | .geometry .. => geometryOf c v = .ok f.geometry
  | .field index field => ∃ x, castTo v field.type.native = .ok x ∧ f.fields[index]? = some x

theorem SameIn.refl (slot : Slot) (f : Feature) : SameIn slot f f := by
  cases slot <;> rfl

theorem SameIn.trans {slot : Slot} {f f' f'' : Feature} (h : SameIn slot f f')
    (h' : SameIn slot f' f'') : SameIn slot f f'' := by
  cases slot <;> exact Eq.trans h' h

theorem Holds.sameIn {slot : Slot} {c : Column} (hslot : c.slot? = some slot) {v : Scalar}
    {f f' : Feature} (h : f.Holds c v) (hsame : SameIn slot f f') : f'.Holds c v := by
  unfold Column.slot? at hslot
  unfold Holds at h ⊢
  cases hbinding : c.binding with
  | unmatched => trivial
  | fid =>
    rw [hbinding] at hslot h
    cases hslot
    exact h.trans (congrArg Except.ok hsame.symm)
  | geometry index kind =>
    rw [hbinding] at hslot h
    cases hslot
    exact h.trans (congrArg Except.ok hsame.symm)
  | field index field =>
    rw [hbinding] at hslot h
    cases hslot
    obtain ⟨x, hx, hheld⟩ := h
    exact ⟨x, hx, Eq.trans hsame hheld⟩

end Feature

namespace Operation

open Feature Layer

/-- A column fills its slot and leaves the others alone. -/
theorem setColumn_eq_ok {c : Column} {v : Scalar} {f f' : Feature} (h : setColumn c v f = .ok f') :
    f'.Holds c v ∧ f'.fields.length = f.fields.length ∧
      ∀ slot, c.slot? ≠ some slot → SameIn slot f f' := by
  unfold setColumn at h
  unfold Column.slot? Holds
  cases hbinding : c.binding with
  | unmatched =>
    rw [hbinding] at h
    cases h
    exact ⟨trivial, rfl, fun slot _ ↦ .refl slot f⟩
  | fid =>
    rw [hbinding] at h
    obtain ⟨fid, hfid, ⟨⟩⟩ := bind_eq_ok.mp h
    refine ⟨hfid, rfl, fun slot hslot ↦ ?_⟩
    cases slot with
    | fid => exact absurd rfl hslot
    | geometry => rfl
    | field index => rfl
  | geometry index kind =>
    rw [hbinding] at h
    obtain ⟨geometry, hgeometry, ⟨⟩⟩ := bind_eq_ok.mp h
    refine ⟨hgeometry, rfl, fun slot hslot ↦ ?_⟩
    cases slot with
    | fid => rfl
    | geometry => exact absurd rfl hslot
    | field index => rfl
  | field index field =>
    rw [hbinding] at h
    dsimp only at h
    split at h
    · next hlt =>
      obtain ⟨x, hcast, ⟨⟩⟩ := bind_eq_ok.mp h
      refine ⟨⟨x, hcast, List.getElem?_set_self hlt⟩, List.length_set, fun slot hslot ↦ ?_⟩
      cases slot with
      | fid => rfl
      | geometry => rfl
      | field other =>
        have hne : index ≠ other := fun heq ↦ hslot (by rw [heq])
        exact List.getElem?_set_ne hne
    · cases h

/-- Every slot holds what the last column for it makes of its value, or what it held at first. -/
theorem foldlM_setColumn {cells : List (Column × Scalar)} {f f' : Feature}
    (h : cells.foldlM (fun f (c, v) ↦ setColumn c v f) f = .ok f') :
    f'.fields.length = f.fields.length ∧
    ∀ slot, (∀ c v, lastFor? slot cells = some (c, v) → f'.Holds c v) ∧
      (lastFor? slot cells = none → SameIn slot f f') := by
  -- from the last cell on, since that is the one that counts
  induction cells using List.reverseRecOn generalizing f' with
  | nil =>
    cases h
    exact ⟨rfl, fun slot ↦ ⟨fun c v hlast ↦ (by cases hlast), fun _ ↦ .refl slot f⟩⟩
  | append_singleton cells cell ih =>
    obtain ⟨c, v⟩ := cell
    rw [List.foldlM_append] at h
    obtain ⟨g, hbefore, h⟩ := bind_eq_ok.mp h
    obtain ⟨_, hset, ⟨⟩⟩ := bind_eq_ok.mp h
    obtain ⟨hlength, hslots⟩ := ih hbefore
    obtain ⟨hholds, hlength', hothers⟩ := setColumn_eq_ok hset
    refine ⟨hlength'.trans hlength, fun slot ↦ ?_⟩
    rw [lastFor?_append]
    by_cases hslot : c.slot? = some slot
    · rw [if_pos hslot]
      refine ⟨fun c' v' hlast ↦ ?_, fun hlast ↦ (by cases hlast)⟩
      cases hlast
      exact hholds
    · rw [if_neg hslot]
      refine ⟨fun c' v' hlast ↦ ?_, fun hlast ↦ ?_⟩
      · have hslot' : c'.slot? = some slot := slot?_of_lastFor? hlast
        exact ((hslots slot).1 c' v' hlast).sameIn hslot' (hothers slot hslot)
      · exact ((hslots slot).2 hlast).trans (hothers slot hslot)

/-- What the feature of a row is made of. -/
structure MadeOf (table : Table) (layer : Layer.Definition) (row : Row) (f : Feature) : Prop where
  length : f.fields.length = layer.fields.length
  /-- A slot with columns for it holds what the last one makes of its value. -/
  bound : ∀ slot c v, lastFor? slot (table.columns.zip row) = some (c, v) → f.Holds c v
  /-- A field that no column is bound to is null. -/
  unbound : ∀ index field, layer.fields[index]? = some field →
    (∀ c ∈ table.columns, c.slot? ≠ some (.field index)) →
      f.fields[index]? = some (.nullOf field.type.native)
  /-- Without a column for it there is no geometry. -/
  noGeometry : (∀ c ∈ table.columns, c.slot? ≠ some .geometry) → f.geometry = none
  /-- An id comes from a column for it. -/
  fid : ∀ id, f.fid = some id →
    ∃ c v, lastFor? .fid (table.columns.zip row) = some (c, v) ∧ fidOf v = .ok (some id)

theorem madeOf_of_featureOf {table : Table} {layer : Layer.Definition} {row : Row} {f : Feature}
    (h : featureOf table layer row = .ok f) : MadeOf table layer row f := by
  obtain ⟨hlength, hslots⟩ := foldlM_setColumn h
  refine ⟨?_, fun slot c v ↦ (hslots slot).1 c v, fun index field hfield hnone ↦ ?_, fun hnone ↦ ?_,
    fun id hid ↦ ?_⟩
  · rw [hlength, blank, List.length_map]
  · have hsame := (hslots (.field index)).2 (lastFor?_eq_none hnone row)
    refine Eq.trans hsame ?_
    rw [blank, List.getElem?_map, hfield]
    rfl
  · exact (hslots .geometry).2 (lastFor?_eq_none hnone row)
  · cases hlast : lastFor? .fid (table.columns.zip row) with
    | none =>
      have hsame : f.fid = none := (hslots .fid).2 hlast
      rw [hid] at hsame
      cases hsame
    | some cell =>
      have hholds := (hslots .fid).1 cell.1 cell.2 hlast
      rw [Holds, binding_of_slot?_fid (slot?_of_lastFor? hlast), hid] at hholds
      exact ⟨cell.1, cell.2, rfl, hholds⟩

section Places

variable {table : Table} {layer : Layer.Definition} {row : Row} {f : Feature}
  (h : MadeOf table layer row f) {i : Nat} {c : Column} (hc : table.columns[i]? = some c)
  {v : Scalar} (hv : row[i]? = some v)

include h hc hv

theorem MadeOf.geometry (hgeometry : c.isGeometry = true)
    (hunique : ∀ (j : Nat) (c' : Column), table.columns[j]? = some c' → c'.isGeometry = true →
      j = i) : geometryOf c v = .ok f.geometry := by
  have hlast : lastFor? .geometry (table.columns.zip row) = some (c, v) :=
    lastFor?_of_unique hc hv (slot?_eq_geometry.mpr hgeometry) fun j c' hc' hslot ↦
      hunique j c' hc' (slot?_eq_geometry.mp hslot)
  have hholds := h.bound .geometry c v hlast
  obtain ⟨index, kind, hbinding⟩ := exists_of_isGeometry hgeometry
  rwa [Holds, hbinding] at hholds

theorem MadeOf.field {index : Nat} {field : Layer.Field} (hbinding : c.binding = .field index field)
    (hunique : ∀ (j : Nat) (c' : Column) field', table.columns[j]? = some c' →
      c'.binding = .field index field' → j = i) :
    ∃ x, castTo v field.type.native = .ok x ∧ f.fields[index]? = some x := by
  have hlast : lastFor? (.field index) (table.columns.zip row) = some (c, v) := by
    refine lastFor?_of_unique hc hv (slot?_eq_field.mpr ⟨field, hbinding⟩) fun j c' hc' hslot ↦ ?_
    obtain ⟨field', hbinding'⟩ := slot?_eq_field.mp hslot
    exact hunique j c' field' hc' hbinding'
  have hholds := h.bound (.field index) c v hlast
  rwa [Holds, hbinding] at hholds

end Places

/-! ## Updates -/

/-- A write that succeeds leaves what it makes of the layer. -/
theorem write_eq_ok {α : Type} {f : Layer → Except Layer.Fault (α × Layer)} {s s' : Session} {a : α}
    (h : (write f).run s = (.ok a, s')) : f s.layer = .ok (a, s'.layer) := by
  rw [run_write] at h
  dsimp only at h
  split at h
  · split at h
    · cases h
    · split at h
      · next hwritten =>
        cases h
        exact hwritten
      · cases h
  · cases h

/-- What is written of a row that is written at all: the feature of the row, in a modification. -/
theorem featureToWrite_eq_ok {α : Type} {k : Feature → Step α} {s s' : Session} {row : Row} {a : α}
    (h : (featureToWrite row >>= k).run s = (.ok a, s')) :
    s.operation.phase = .modify ∧ row.length = s.operation.table.columns.length ∧
      ∃ f, featureOf s.operation.table s.layer.definition row = .ok f ∧
        (k f).run s = (.ok a, s') := by
  have hphase : s.operation.phase = .modify := by
    by_contra hne
    rw [run_featureToWrite_of_ne row hne] at h
    cases h
  obtain ⟨r, hrun, -, hmade⟩ := run_featureToWrite row hphase
  obtain ⟨f, s₁, hf, h⟩ := run_bind_eq_ok.mp h
  cases hrun.symm.trans hf
  obtain ⟨hlength, hfeature⟩ := hmade f rfl
  exact ⟨hphase, hlength, f, hfeature, h⟩

/-- An update that succeeds puts the feature of its row into the layer. -/
theorem update_eq_ok {s s' : Session} {row : Row} (h : (update row).run s = (.ok (), s')) :
    s.operation.phase = .modify ∧ row.length = s.operation.table.columns.length ∧
      ∃ f, featureOf s.operation.table s.layer.definition row = .ok f ∧
        s.layer.set f = .ok s'.layer := by
  obtain ⟨hphase, hlength, f, hfeature, hrest⟩ := featureToWrite_eq_ok h
  refine ⟨hphase, hlength, f, hfeature, ?_⟩
  by_cases hfid : f.fid.isNone = true
  · rw [if_pos hfid] at hrest
    cases hrest
  · rw [if_neg hfid] at hrest
    obtain ⟨l, hlayer, hsame⟩ := map_eq_ok.mp (write_eq_ok hrest)
    cases hsame
    exact hlayer

theorem insert_eq_ok {s s' : Session} {row : Row} {id : Int}
    (h : (insert row).run s = (.ok id, s')) :
    s.operation.phase = .modify ∧ row.length = s.operation.table.columns.length ∧
      ∃ f, featureOf s.operation.table s.layer.definition row = .ok f ∧
        s'.layer = s.layer.append f id ∧
        (f.fid = some id ∨ f.fid = none ∧ id = s.layer.nextFid) := by
  obtain ⟨hphase, hlength, f, hfeature, hrest⟩ := featureToWrite_eq_ok h
  obtain ⟨hlayer, hid⟩ := create_eq_ok (write_eq_ok hrest)
  exact ⟨hphase, hlength, f, hfeature, hlayer, hid.imp_left And.left⟩

/-- What an update does to the layer, at the place of a feature. -/
structure Replaces (table : Table) (row : Row) (l : Layer) (i : Nat) (old new : Feature)
    (l' : Layer) : Prop where
  /-- The feature is the first one with the id in the row, and it keeps that id. -/
  place : ∃ c v id, lastFor? .fid (table.columns.zip row) = some (c, v) ∧
    fidOf v = .ok (some id) ∧ l.place? id = some i ∧ old.fid = some id ∧ new.fid = some id
  /-- It was this one before. -/
  old : l.features[i]? = some old
  /-- It is made of the row alone. -/
  made : MadeOf table l.definition row new
  /-- Nothing else in the layer changes. -/
  layer : l' = { l with features := l.features.set i new }

/-- **An update replaces one feature by one that is made of the row alone.** -/
theorem update_replaces {s s' : Session} {row : Row} (h : (update row).run s = (.ok (), s')) :
    s.operation.phase = .modify ∧ row.length = s.operation.table.columns.length ∧
      ∃ i old new, Replaces s.operation.table row s.layer i old new s'.layer := by
  obtain ⟨hphase, hlength, new, hfeature, hset⟩ := update_eq_ok h
  obtain ⟨id, i, hfid, hplace, hlayer⟩ := set_eq_ok hset
  obtain ⟨old, hold, holdFid⟩ := getElem?_of_place? hplace
  have hmade := madeOf_of_featureOf hfeature
  obtain ⟨c, v, hlast, hid⟩ := hmade.fid id hfid
  exact ⟨hphase, hlength, i, old, new, ⟨c, v, id, hlast, hid, hplace, holdFid, hfid⟩, hold, hmade,
    hlayer⟩

/-- A layer of ports with their names and the number of their berths. -/
private def portLayer : Layer where
  definition := ⟨"ports", [⟨"name", .string⟩, ⟨"berths", .integer⟩], [⟨"geom", .point⟩], none⟩
  features := [⟨some 1, [.ofText "Ayr", .of .int32 4], some {
    node := .point .little .xy [0, 0, 0, 0, 0, 0, 0xf0, 0x3f, 0, 0, 0, 0, 0, 0, 0, 0x40]
    shape := .point .xy (some ⟨⟨0x3ff0000000000000⟩, ⟨0x4000000000000000⟩, []⟩)
    srid := none
    node_eq := by cbv
    shape_eq := by cbv
    valid := rfl }⟩]
  capabilities := ["RandomWrite"]
  nextFid := 2

/-- A table of the ids and names of the ports. -/
private def portNames : Table where
  name := "port_names"
  layerName := "ports"
  columns := [⟨0, "fid", false, .plain .int64, -1, .fid, some ⟨.plain .int64, rfl⟩⟩,
    ⟨1, "name", false, .plain .utf8, -1, .field 0 ⟨"name", .string⟩, some ⟨.plain .utf8, rfl⟩⟩]

/-- The table is being modified. -/
private def portSession : Session where
  operation := ⟨7, ⟨{ datasource := "ports.gpkg" }, "ports", .yes, .yes, .utf8,
    some { layers := [portLayer] }⟩, portNames, .modify⟩
  layer := portLayer

/-- The layer after the port got a new name. -/
private def renamedLayer : Layer :=
  { portLayer with features := [⟨some 1, [.ofText "Oban", .nullOf .int32], none⟩] }

private theorem update_portSession :
    (update [.of .int64 1, .ofText "Oban"]).run portSession =
      (.ok (), { portSession with layer := renamedLayer }) := by
  cbv

theorem update_replaces_port :
    (update [.of .int64 1, .ofText "Oban"]).run portSession =
      (.ok (), { portSession with layer := renamedLayer }) ∧
    ∃ i old new, Replaces portNames [.of .int64 1, .ofText "Oban"] portLayer i old new
      renamedLayer :=
  ⟨update_portSession, (update_replaces update_portSession).2.2⟩

/-- A table that has no columns for them makes its updates lose the berths and the place of a
port. -/
theorem update_loses_unbound :
    Table.bind "port_names" [{ name := "fid", type := .int64 }, { name := "name", type := .utf8 }]
      [] portLayer.definition { layer := "ports" } = .ok portNames ∧
    (∀ c ∈ portNames.columns, c.slot? ≠ some (.field 1) ∧ c.slot? ≠ some .geometry) ∧
    (update [.of .int64 1, .ofText "Oban"]).run portSession =
      (.ok (), { portSession with layer := renamedLayer }) ∧
    ∃ old new, portLayer.features = [old] ∧ renamedLayer.features = [new] ∧
      ¬ SameIn (.field 1) old new ∧ ¬ SameIn .geometry old new := by
  refine ⟨by cbv, by decide, update_portSession, _, _, rfl, rfl, fun h ↦ ?_, fun h ↦ ?_⟩
  · have hvalue : some (Scalar.nullOf .int32) = some (.of .int32 4) := h
    exact absurd hvalue (by decide)
  · cases h

end Operation

end ForeignLayer
