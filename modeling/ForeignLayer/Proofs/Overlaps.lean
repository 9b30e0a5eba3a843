import ForeignLayer.Proofs.PlanMarks
import ForeignLayer.Proofs.RowValues

/-!
# Overlaps and boxes

A layer answers an overlap with a constant geometry by its box alone. That is all there is to the
predicate as well: it is true of two geometries if their boxes share a point. So a feature overlaps
the box that was taken from a predicate exactly if the predicate is true of the row of the feature,
on whichever side the geometry column stands.
-/

namespace ForeignLayer

open Catalog Predicate Operation

/-! ## Boxes -/

theorem Box.intersects_comm (b other : Box) : b.intersects other = other.intersects b := by
  simp only [Box.intersects]
  ac_rfl

theorem Feature.overlaps_eq (f : Feature) (box : Box) :
    f.overlaps box = (f.geometry.map Geometry.bounds).any (·.intersects box) := by
  rw [Feature.overlaps]
  cases f.geometry with
  | none => rfl
  | some g =>
    show (!g.bounds.isEmpty && g.bounds.intersects box) = g.bounds.intersects box
    rw [Box.intersects]
    cases g.bounds.isEmpty <;> rfl

namespace Predicate

/-! ## Overlaps -/

theorem constantBox?_eq_some {bindings : Bindings} {e : Expr} {box : Box}
    (h : constantBox? bindings e = some box) :
    ∃ g, e.geometry? bindings = .ok (some g) ∧ g.bounds = box := by
  unfold constantBox? at h
  split at h
  · next g hg =>
    split at h
    · cases h
    · cases h
      exact ⟨g, hg, rfl⟩
  · cases h

theorem geometry?_of_constant {ev : Evaluation} {row : Row} {e : Expr} {g : Geometry}
    (h : e.geometry? ev.bindings = .ok (some g)) : ev.geometry? row e = some (some g) := by
  cases e with
  | column name relation => cases h
  | _ => simp only [Evaluation.geometry?, h]

theorem overlap?_eq_some {column : Catalog.Column} {bindings : Bindings} {e : Expr}
    {spatial : SpatialFilter} (h : overlap? column bindings e = some spatial) :
    column.fieldIndex? = some spatial.field ∧ ∃ name volatility left right operand,
      e = .call name volatility [left, right] ∧ overlapNames.contains (Text.lower name) = true ∧
      opposite? column left right = some operand ∧
      constantBox? bindings operand = some spatial.box := by
  unfold overlap? at h
  split at h
  · next name volatility left right =>
    split at h
    · next hname =>
      simp only [Option.bind_eq_bind, Option.bind_eq_some_iff, Option.pure_def] at h
      obtain ⟨operand, hoperand, box, hbox, index, hindex, hsome⟩ := h
      cases hsome
      exact ⟨hindex, name, volatility, left, right, operand, rfl, hname, hoperand, hbox⟩
    · cases h
  · cases h

/-- An overlap has no clause. -/
theorem clause?_eq_none_of_overlap? {ctx : Context} {column : Catalog.Column} {bindings : Bindings}
    {e : Expr} {spatial : SpatialFilter} (h : overlap? column bindings e = some spatial) :
    ctx.clause? e = none := by
  obtain ⟨-, name, volatility, left, right, operand, rfl, -⟩ := overlap?_eq_some h
  rfl

theorem isColumn_eq_true {column : Catalog.Column} {e : Expr} (h : isColumn column e = true) :
    ∃ relation, e = .column column.name relation := by
  cases e with
  | column name relation => exact ⟨relation, by rw [← beq_iff_eq.mp h]⟩
  | _ => cases h

section Overlap

variable {ev : Evaluation} {row : Row} {f : Feature}

/-- An overlap is true of a row where its box overlaps the feature. -/
theorem truth_of_overlap? {layer : Layer.Definition} {column : Catalog.Column} {index : Nat}
    {kind : Geometry.Kind} (hbinding : column.binding = .geometry index kind)
    (hbound : BoundToGeometry layer column index)
    (hcolumn : ev.table.column? column.name = some column) (hrow : rowOf ev.table f = .ok row)
    {e : Expr} {spatial : SpatialFilter} (h : overlap? column ev.bindings e = some spatial) :
    ev.truth row e = some true ↔ f.overlaps spatial.box = true := by
  obtain ⟨-, name, volatility, left, right, operand, rfl, hname, hopposite, hbox⟩ :=
    overlap?_eq_some h
  obtain ⟨g, hg, hbounds⟩ := constantBox?_eq_some hbox
  have hconstant := @geometry?_of_constant ev row operand g hg
  rw [Feature.overlaps_eq, Evaluation.truth, if_pos hname]
  unfold opposite? at hopposite
  split at hopposite
  · next hleft =>
    cases hopposite
    obtain ⟨relation, rfl⟩ := isColumn_eq_true hleft
    obtain ⟨g', hg', hsame⟩ := geometry?_of_rowOf hbinding hbound hcolumn hrow relation
    rw [← hsame, Evaluation.overlap?, hg', hconstant, ← hbounds]
    cases g' with
    | none => exact ⟨fun h ↦ (by cases h), fun h ↦ (by cases h)⟩
    | some g' => exact Option.some_inj
  · split at hopposite
    · next hright =>
      cases hopposite
      -- the boxes have changed places, and overlap none the less
      obtain ⟨relation, rfl⟩ := isColumn_eq_true hright
      obtain ⟨g', hg', hsame⟩ := geometry?_of_rowOf hbinding hbound hcolumn hrow relation
      rw [← hsame, Evaluation.overlap?, hg', hconstant, ← hbounds]
      cases g' with
      | none => exact ⟨fun h ↦ (by cases h), fun h ↦ (by cases h)⟩
      | some g' =>
        rw [Option.map_some, Option.any_some, Box.intersects_comm]
        exact Option.some_inj
    · cases hopposite

variable {layer : Layer.Definition}
  (hbound : ∀ c ∈ ev.table.columns, ∀ index kind, c.binding = .geometry index kind →
    BoundToGeometry layer c index)
  {predicates : List Expr} {i : Nat} {spatial : SpatialFilter}

include hbound

theorem field_lt_of_found
    (h : (extract ev.table ev.bindings predicates).found = some (i, spatial)) :
    spatial.field < layer.geometryFields.length := by
  obtain ⟨column, e, hcolumn, -, hoverlap⟩ := firstOverlap?_eq_some h
  obtain ⟨index, kind, hbinding⟩ := exists_geometry_of_geometry? hcolumn
  have hboundTo := hbound column (List.mem_of_find?_eq_some hcolumn) index kind hbinding
  obtain ⟨hindex, -⟩ := overlap?_eq_some hoverlap
  cases hboundTo.fieldIndex.symm.trans hindex
  exact hboundTo.lt_length

/-- **A box lets a feature through where its predicate is true of the row.** -/
theorem truth_of_found
    (hnames : ((ev.table.columns.filter fun c ↦ !c.dropped).map Catalog.Column.name).Nodup)
    (hrow : rowOf ev.table f = .ok row)
    (h : (extract ev.table ev.bindings predicates).found = some (i, spatial)) :
    ∃ e, predicates[i]? = some e ∧
      (ev.truth row e = some true ↔ f.overlaps spatial.box = true) := by
  obtain ⟨column, e, hcolumn, he, hoverlap⟩ := firstOverlap?_eq_some h
  obtain ⟨index, kind, hbinding⟩ := exists_geometry_of_geometry? hcolumn
  have hmem := List.mem_of_find?_eq_some hcolumn
  have hboundTo := hbound column hmem index kind hbinding
  exact ⟨e, he, truth_of_overlap? hbinding hboundTo
    (column?_of_mem hnames hmem hboundTo.notDropped) hrow hoverlap⟩

end Overlap

/-! ## A table of places -/

/-- A schema of nothing but geometries. -/
def placesSchema : Schema :=
  [⟨"geom", .binary .regular, [("ARROW:extension:name", "geoarrow.wkb")]⟩]

/-- A layer of nothing but geometries. -/
def placesLayer : Layer.Definition := ⟨"places", [], [⟨"geom", .geometry⟩], none⟩

/-- The table of the schema for the layer. -/
def placesTable : Table where
  name := "places"
  layerName := "places"
  columns := [⟨0, "geom", false, .geometry (.binary .regular), 0, .geometry 0 .geometry,
    some ⟨.geometry (.binary .regular), rfl⟩⟩]

theorem bind_places :
    Table.bind "places" placesSchema [] placesLayer { layer := "places" } = .ok placesTable := rfl

/-- A value of its column, a point. -/
def placeValue : Scalar := .of (.binary .regular)
  [1, 1, 0, 0, 0, 0, 0, 0, 0, 0, 0, 0xf0, 0x3f, 0, 0, 0, 0, 0, 0, 0, 0x40]

end Predicate

end ForeignLayer
