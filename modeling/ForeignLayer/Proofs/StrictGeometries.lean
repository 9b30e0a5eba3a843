import ForeignLayer.Proofs.GeometryExchange
import ForeignLayer.Proofs.HeldShapes
import ForeignLayer.Proofs.NumberOrder

/-!
# What strict reading asks of a geometry

A geometry is accepted by its line strings and its rings: no line string may be a single coordinate,
and every ring needs four coordinates and an end that meets its start. Where they stand does not
matter. A line string or a ring that is a member of a multi geometry, or lies in a collection at any
depth, is held to the same as one that stands alone, and nothing else is asked.

The check goes through a shape once and stops at the first fault. So it passes exactly if none of
the parts has a fault, which is shown by going through the shape along with it. The bytes of a
column are brought into normal form before they are checked; this changes neither the tree nor what
it holds, and a column accepts what the bytes alone would be accepted for.
-/

namespace ForeignLayer.Geometry

open Number

namespace Shape

/-! ## The parts of a shape -/

/-- Whether a line string is somewhere in a shape. -/
inductive HasLine : Shape → List Coord → Prop
  | lineString (dims : Dimensions) (coords : List Coord) : HasLine (.lineString dims coords) coords
  | multiLineString (dims : Dimensions) {lines : List (List Coord)} {coords : List Coord}
    (h : coords ∈ lines) : HasLine (.multiLineString dims lines) coords
  | collection (dims : Dimensions) {members : List Shape} {member : Shape} {coords : List Coord}
    (hmember : member ∈ members) (h : HasLine member coords) :
    HasLine (.collection dims members) coords

/-- Whether a ring is somewhere in a shape, exterior or interior. -/
inductive HasRing : Shape → List Coord → Prop
  | polygon (dims : Dimensions) {rings : List (List Coord)} {ring : List Coord}
    (h : ring ∈ rings) : HasRing (.polygon dims rings) ring
  | multiPolygon (dims : Dimensions) {polygons : List (List (List Coord))}
    {rings : List (List Coord)} {ring : List Coord} (hrings : rings ∈ polygons) (h : ring ∈ rings) :
    HasRing (.multiPolygon dims polygons) ring
  | collection (dims : Dimensions) {members : List Shape} {member : Shape} {ring : List Coord}
    (hmember : member ∈ members) (h : HasRing member ring) : HasRing (.collection dims members) ring

/-- Whether coordinates make up a line string: none, or two at least. -/
def IsLine (coords : List Coord) : Prop := coords.length = 0 ∨ 2 ≤ coords.length

/-- Whether two numbers are equal, which a NaN is to none. -/
def SameNumber (x y : Double) : Prop := x.isNaN = false ∧ y.isNaN = false ∧ x.key = y.key

/-- Whether coordinates are those of a ring: four at least, the last one where the first one is. -/
def IsClosedRing (ring : List Coord) : Prop :=
  4 ≤ ring.length ∧ ∃ first last, ring.head? = some first ∧ ring.getLast? = some last ∧
    SameNumber first.x last.x ∧ SameNumber first.y last.y

/-- Whether all line strings and rings of a shape are what they should be. -/
structure IsStrict (s : Shape) : Prop where
  lines : ∀ coords, s.HasLine coords → IsLine coords
  rings : ∀ ring, s.HasRing ring → IsClosedRing ring

section Parts

variable {dims : Dimensions}

theorem isStrict_lineString {coords : List Coord} :
    (lineString dims coords).IsStrict ↔ IsLine coords := by
  constructor
  · intro h
    exact h.lines coords (.lineString dims coords)
  · intro h
    refine ⟨fun coords hcoords ↦ ?_, nofun⟩
    cases hcoords
    exact h

theorem isStrict_polygon {rings : List (List Coord)} :
    (polygon dims rings).IsStrict ↔ ∀ ring ∈ rings, IsClosedRing ring := by
  constructor
  · intro h ring hring
    exact h.rings ring (.polygon dims hring)
  · intro h
    refine ⟨nofun, fun ring hring ↦ ?_⟩
    cases hring with
    | polygon _ hmem => exact h ring hmem

theorem isStrict_multiLineString {lines : List (List Coord)} :
    (multiLineString dims lines).IsStrict ↔ ∀ coords ∈ lines, IsLine coords := by
  constructor
  · intro h coords hcoords
    exact h.lines coords (.multiLineString dims hcoords)
  · intro h
    refine ⟨fun coords hcoords ↦ ?_, nofun⟩
    cases hcoords with
    | multiLineString _ hmem => exact h coords hmem

theorem isStrict_multiPolygon {polygons : List (List (List Coord))} :
    (multiPolygon dims polygons).IsStrict ↔
      ∀ rings ∈ polygons, ∀ ring ∈ rings, IsClosedRing ring := by
  constructor
  · intro h rings hrings ring hring
    exact h.rings ring (.multiPolygon dims hrings hring)
  · intro h
    refine ⟨nofun, fun ring hring ↦ ?_⟩
    cases hring with
    | multiPolygon _ hrings hmem => exact h _ hrings ring hmem

theorem isStrict_collection {members : List Shape} :
    (collection dims members).IsStrict ↔ ∀ m ∈ members, m.IsStrict := by
  constructor
  · intro h m hm
    refine ⟨fun coords hcoords ↦ ?_, fun ring hring ↦ ?_⟩
    · exact h.lines coords (.collection dims hm hcoords)
    · exact h.rings ring (.collection dims hm hring)
  · intro h
    refine ⟨fun coords hcoords ↦ ?_, fun ring hring ↦ ?_⟩
    · cases hcoords with
      | collection _ hmember hline => exact (h _ hmember).lines coords hline
    · cases hring with
      | collection _ hmember hring' => exact (h _ hmember).rings ring hring'

end Parts

/-! ## The check -/

theorem checkLine_eq_ok {coords : List Coord} : checkLine coords = .ok () ↔ IsLine coords := by
  unfold checkLine IsLine
  split
  · next hone => simp [hone, throw, throwThe, MonadExceptOf.throw]
  · next hone =>
    simp only [Pure.pure, Except.pure, true_iff]
    omega

theorem checkRing_eq_ok {ring : List Coord} : checkRing ring = .ok () ↔ IsClosedRing ring := by
  unfold checkRing IsClosedRing
  by_cases hshort : ring.length < 4
  · rw [if_pos hshort]
    constructor
    · nofun
    · rintro ⟨hlength, -⟩
      omega
  · rw [if_neg hshort]
    have hlength : 4 ≤ ring.length := by omega
    cases hfirst : ring.head? with
    | none => simp [throw, throwThe, MonadExceptOf.throw]
    | some first =>
      cases hlast : ring.getLast? with
      | none => simp [throw, throwThe, MonadExceptOf.throw]
      | some last =>
        by_cases hmeets : (first.x.equal last.x && first.y.equal last.y) = true
        · simp only [hmeets, if_true, hlength, true_and]
          rw [Bool.and_eq_true, Floating.equal_iff, Floating.equal_iff] at hmeets
          exact iff_of_true rfl ⟨first, last, rfl, rfl, hmeets⟩
        · simp only [hmeets]
          rw [Bool.and_eq_true, Floating.equal_iff, Floating.equal_iff] at hmeets
          refine iff_of_false nofun ?_
          rintro ⟨-, first, last, ⟨⟩, ⟨⟩, hsame⟩
          exact hmeets hsame

theorem checkAll_eq (members : List Shape) : check.checkAll members = members.forM check := by
  induction members with
  | nil => rfl
  | cons member members ih =>
    rw [check.checkAll, ih]
    rfl

/-- **The check passes exactly the strict shapes.** -/
theorem check_eq_ok (s : Shape) : s.check = .ok () ↔ s.IsStrict := by
  cases s with
  | point dims c => exact iff_of_true rfl ⟨nofun, nofun⟩
  | multiPoint dims points => exact iff_of_true rfl ⟨nofun, nofun⟩
  | lineString dims coords => rw [check, isStrict_lineString, checkLine_eq_ok]
  | polygon dims rings => simp only [check, isStrict_polygon, forM_eq_ok, checkRing_eq_ok]
  | multiLineString dims lines =>
    simp only [check, isStrict_multiLineString, forM_eq_ok, checkLine_eq_ok]
  | multiPolygon dims polygons =>
    simp only [check, isStrict_multiPolygon, forM_eq_ok, checkRing_eq_ok]
  | collection dims members =>
    -- every member is checked as it would be if it stood alone
    have ih : ∀ m ∈ members, m.check = .ok () ↔ m.IsStrict := fun m hm ↦ check_eq_ok m
    rw [check, checkAll_eq, forM_eq_ok, isStrict_collection]
    exact forall₂_congr ih
termination_by sizeOf s
decreasing_by
  have := List.sizeOf_lt_of_mem hm
  simp only [collection.sizeOf_spec]
  omega

end Shape

/-! ## Acceptance -/

open ForeignLayer.Geometry.Wkb

/-- The bytes of a tree are accepted if the shape that is read off its plain form passes the
check. -/
theorem exists_ofBytes_iff {b : List UInt8} {node : Node} {tag : Option Srid} {shape : Shape}
    (hread : Node.ofBytes b = .ok (node, tag)) (hshape : shapeOfBytes node.bytes = .ok shape) :
    (∃ g, ofBytes b = .ok g) ↔ shape.check = .ok () := by
  constructor
  · rintro ⟨g, hg⟩
    have hnode := hread.symm.trans (node_of_ofBytes hg)
    rw [Except.ok.injEq, Prod.mk.injEq] at hnode
    have hsame := hshape.symm.trans (hnode.1 ▸ g.shape_eq)
    cases hsame
    exact g.valid
  · intro hvalid
    exact ⟨_, ofBytes_of_node
      ⟨node, shape, tag, Node.ofBytes_encode hread .iso none, hshape, hvalid⟩ hread⟩

section Columns

variable {v : Scalar} {b : List UInt8}

theorem exists_ofScalar?_iff (hv : v.bytes? = some b) (storage : Storage) :
    (∃ g, ofScalar? (.ofGeometry storage) v = .ok (some g)) ↔ ∃ g, ofBytes b = .ok g := by
  constructor
  · rintro ⟨g, hg⟩
    obtain ⟨bytes, hbytes, hread⟩ := node_of_ofScalar? hg
    cases hv.symm.trans hbytes
    exact ⟨_, g.ofBytes_of_node hread⟩
  · rintro ⟨g, hg⟩
    exact ⟨g, (ofScalar?_of_node hv (node_of_ofBytes hg) storage).2⟩

/-- A scalar that holds bytes is a geometry or refused. -/
theorem ofScalar?_ne_none (hv : v.bytes? = some b) (c : Conversion) :
    ofScalar? c v ≠ .ok none := by
  rw [ofScalar?_of_bytes hv]
  intro hnone
  obtain ⟨bytes, -, hread⟩ := bind_eq_ok.mp hnone
  obtain ⟨g, -, ⟨⟩⟩ := bind_eq_ok.mp hread

end Columns

/-- What it means that bytes are accepted as a geometry under a condition, alone and from a
column. -/
structure AcceptedIff (b : List UInt8) (p : Prop) : Prop where
  ofBytes_iff : (∃ g, ofBytes b = .ok g) ↔ p
  ofScalar?_iff : ∀ storage v, v.bytes? = some b →
    ((∃ g, ofScalar? (.ofGeometry storage) v = .ok (some g)) ↔ p)
  refused : ¬p → (∃ fault, ofBytes b = .error fault) ∧
    ∀ storage v, v.bytes? = some b → ∃ fault, ofScalar? (.ofGeometry storage) v = .error fault

theorem acceptedIff_of_ofBytes {b : List UInt8} {p : Prop} (h : (∃ g, ofBytes b = .ok g) ↔ p) :
    AcceptedIff b p where
  ofBytes_iff := h
  ofScalar?_iff storage v hv := (exists_ofScalar?_iff hv storage).trans h
  refused hp := by
    constructor
    · cases hread : ofBytes b with
      | error fault => exact ⟨fault, rfl⟩
      | ok g => exact absurd (h.mp ⟨g, hread⟩) hp
    · intro storage v hv
      cases hread : ofScalar? (.ofGeometry storage) v with
      | error fault => exact ⟨fault, rfl⟩
      | ok g =>
        cases g with
        | none => exact absurd hread (ofScalar?_ne_none hv _)
        | some g => exact absurd (h.mp ((exists_ofScalar?_iff hv storage).mp ⟨g, hread⟩)) hp

/-- **A geometry is accepted if all its line strings and rings are what they should be.** The tree
holds a shape, and whatever it holds decides, provided that its coordinates are decoded
faithfully. -/
theorem acceptedIff_isStrict {node : Node} {tag : Option Srid} {b : List UInt8}
    (hwritten : Wkb.Written Heading.Free node tag b) (hdepth : node.depth ≤ 64)
    (hproper : node.IsProper) (hfaithful : node.IsReadFaithfully) :
    (∃ shape, node.Holds shape) ∧
      ∀ shape, node.Holds shape → AcceptedIff b shape.IsStrict := by
  refine ⟨hproper.exists_holds hwritten, fun shape hholds ↦ acceptedIff_of_ofBytes ?_⟩
  have hread := ofBytes_eq_ok_iff_written.mpr ⟨hwritten, hdepth⟩
  rw [exists_ofBytes_iff hread (hfaithful shape hholds), Shape.check_eq_ok]

/-- The bytes of a collection, little end first, of a collection, big end first, of a multi line
string, little end first, whose only member has a single coordinate. -/
private def loneCoordinate : List UInt8 :=
  [1, 7, 0, 0, 0, 1, 0, 0, 0,
    0, 0, 0, 0, 7, 0, 0, 0, 1,
      1, 5, 0, 0, 0, 1, 0, 0, 0,
        1, 2, 0, 0, 0, 1, 0, 0, 0,
          0, 0, 0, 0, 0, 0, 0xf0, 0x3f, 0, 0, 0, 0, 0, 0, 0, 0x40]

theorem acceptedIff_isStrict_loneCoordinate :
    (∃ fault, ofBytes loneCoordinate = .error fault) ∧
      ∀ storage, ∃ fault, ofScalar? (.ofGeometry storage) (.of .bytes loneCoordinate) =
        .error fault := by
  let coords : List Coord := [⟨⟨0x3ff0000000000000⟩, ⟨0x4000000000000000⟩, []⟩]
  let line : Node := .lineString .little .xy (.inOrder .little coords)
  let lines : Node := .collection .little .xy .multiLineString [line]
  let inner : Node := .collection .big .xy .geometryCollection [lines]
  let node : Node := .collection .little .xy .geometryCollection [inner]
  have hread : Node.ofBytes loneCoordinate = .ok (node, none) := by cbv
  obtain ⟨hwritten, hdepth⟩ := ofBytes_eq_ok_iff_written.mp hread
  have hproper : node.IsProper :=
    .collection _ _ _ _ (fun _ hpart ↦ (by cases hpart)) <| List.forall_mem_singleton.mpr <|
      .collection _ _ _ _ (fun _ hpart ↦ (by cases hpart)) <| List.forall_mem_singleton.mpr <|
        .collection _ _ _ _ (fun part hpart ↦ List.forall_mem_singleton.mpr (Option.some.inj hpart))
          (List.forall_mem_singleton.mpr (.lineString _ _ _))
  have heven : node.IsEven :=
    .collection _ _ _ _ (absurd rfl) <| List.forall_mem_singleton.mpr <|
      .collection _ _ _ _ (absurd rfl) <| List.forall_mem_singleton.mpr <|
        .collection _ _ _ _ (fun _ ↦ List.forall_mem_singleton.mpr ⟨rfl, rfl⟩)
          (List.forall_mem_singleton.mpr (.lineString _ _ _))
  obtain ⟨-, hdecides⟩ :=
    acceptedIff_isStrict hwritten hdepth hproper (heven.isReadFaithfully hdepth hwritten)
  let shape : Shape := .collection .xy [.collection .xy [.multiLineString .xy [coords]]]
  have hholds : node.Holds shape :=
    .collection .little .xy [(inner, _)] <| List.forall_mem_singleton.mpr <|
      .collection .big .xy [(lines, _)] <| List.forall_mem_singleton.mpr <|
        .multiLineString .little .xy [(line, .xy, coords)] <| List.forall_mem_singleton.mpr <|
          .lineString .little .xy coords (List.forall_mem_singleton.mpr rfl)
  have hlone : ¬shape.IsStrict := by
    intro hstrict
    have hline : shape.HasLine coords :=
      .collection _ (List.mem_singleton_self _) <| .collection _ (List.mem_singleton_self _) <|
        .multiLineString _ (List.mem_singleton_self _)
    rcases hstrict.lines coords hline with hzero | htwo
    · cases hzero
    · exact absurd htwo (by decide)
  have hrefused := (hdecides shape hholds).refused hlone
  exact ⟨hrefused.1, fun storage ↦ hrefused.2 storage (.of .bytes loneCoordinate) rfl⟩

end ForeignLayer.Geometry
