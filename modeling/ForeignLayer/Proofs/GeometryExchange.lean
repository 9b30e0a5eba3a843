import ForeignLayer.Column.Geometry
import ForeignLayer.Proofs.Results

/-!
# Geometries survive the exchange with columns

A geometry crosses between a layer and a column in the extended form. Sending and receiving bring
bytes into that form under the tag they already have, which changes nothing about bytes in normal
form. So a geometry that is put into a column is found there again, and bytes of a column that hold
a geometry come back in normal form.
-/

namespace ForeignLayer

open ForeignLayer.Geometry Column

open ForeignLayer.Geometry.Wkb

/-- The normal form of bytes is the extended form of the tree they hold, under its own tag. -/
theorem normalForm_eq {bytes : List UInt8} {node : Node} {tag : Option Srid}
    (h : Node.ofBytes bytes = .ok (node, tag)) :
    normalForm bytes = .ok (node.encode .extended tag) := by
  simp only [normalForm, Node.header_of_ofBytes h, toExtended, h, Bind.bind, Except.bind,
    Pure.pure, Except.pure]
  rfl

/-- Only the bytes of a tree have a normal form. -/
theorem exists_of_normalForm {bytes normal : List UInt8} (h : normalForm bytes = .ok normal) :
    ∃ node tag, Node.ofBytes bytes = .ok (node, tag) ∧ normal = node.encode .extended tag := by
  obtain ⟨header, -, hextended⟩ := bind_eq_ok.mp h
  obtain ⟨⟨node, tag⟩, hread, -⟩ := bind_eq_ok.mp hextended
  rw [normalForm_eq hread] at h
  exact ⟨node, tag, hread, (Except.ok.inj h).symm⟩

/-- A column of geometries in a storage, with its conversions. -/
def Conversion.ofGeometry (storage : Storage) : Conversion := ⟨.geometry (.binary storage), rfl⟩

theorem Conversion.eq_of_type {c c' : Conversion} (h : c.type = c'.type) : c = c' := by
  obtain ⟨type, supported⟩ := c
  obtain ⟨type', supported'⟩ := c'
  cases h
  rfl

namespace Geometry

theorem toScalar_ofGeometry (g : Geometry) (storage : Storage) :
    g.toScalar (.ofGeometry storage) none = .ok (.of (.binary storage) g.extended) := by
  have hnormal : normalForm g.extended = .ok g.extended :=
    normalForm_eq (Node.ofBytes_encode g.node_eq .extended g.srid)
  show receiveGeometry g.extended (.binary storage) = _
  rw [receiveGeometry, hnormal]
  rfl

theorem ofScalar?_of_bytes {v : Scalar} {bytes : List UInt8} (hv : v.bytes? = some bytes)
    (c : Conversion) : ofScalar? c v = (do
      return some (← (ofBytes (← c.send v)).mapError .geometry)) := by
  have hnull : v.isNull = false := by
    obtain ⟨t, value⟩ := v
    cases value with
    | none => cases t <;> cases hv
    | some => rfl
  simp only [ofScalar?, hnull, hv, Option.isNone_some, Bool.false_eq_true, if_false]

theorem send_ofGeometry {v : Scalar} {bytes : List UInt8} (hv : v.bytes? = some bytes)
    (storage : Storage) :
    (Conversion.ofGeometry storage).send v = (normalForm bytes).mapError .geometry := by
  show sendGeometry v = _
  rw [sendGeometry, hv]

/-- A scalar whose bytes hold a tree is accepted as the value of the tree, and sent in normal
form. -/
theorem ofScalar?_of_node {v : Scalar} {bytes : List UInt8} (hv : v.bytes? = some bytes)
    {g : Geometry} (hread : Node.ofBytes bytes = .ok (g.node, g.srid)) (storage : Storage) :
    (Conversion.ofGeometry storage).send v = .ok g.extended ∧
      ofScalar? (.ofGeometry storage) v = .ok (some g) := by
  have hsend : (Conversion.ofGeometry storage).send v = .ok g.extended := by
    rw [send_ofGeometry hv, normalForm_eq hread]
    rfl
  refine ⟨hsend, ?_⟩
  rw [ofScalar?_of_bytes hv, hsend]
  have hback : ofBytes g.extended = .ok g := g.ofBytes_encode .extended g.srid
  simp only [hback, Except.mapError, Bind.bind, Except.bind, Pure.pure, Except.pure]

theorem node_of_ofScalar? {storage : Storage} {v : Scalar} {g : Geometry}
    (h : ofScalar? (.ofGeometry storage) v = .ok (some g)) :
    ∃ bytes, v.bytes? = some bytes ∧ Node.ofBytes bytes = .ok (g.node, g.srid) := by
  cases hv : v.bytes? with
  | none =>
    cases hnull : v.isNull <;>
      simp [ofScalar?, hv, hnull, Bind.bind, Except.bind, Pure.pure, Except.pure, throw,
        throwThe, MonadExceptOf.throw] at h
  | some bytes =>
    rw [ofScalar?_of_bytes hv, send_ofGeometry hv] at h
    obtain ⟨normal, hnormal, h⟩ := bind_eq_ok.mp h
    obtain ⟨node, tag, hread, rfl⟩ := exists_of_normalForm (mapError_eq_ok.mp hnormal)
    obtain ⟨_, hof, ⟨⟩⟩ := bind_eq_ok.mp h
    -- the extended form is read as the tree that the bytes were read as
    have hback := (Node.ofBytes_encode hread .extended tag).symm.trans
      (node_of_ofBytes (mapError_eq_ok.mp hof))
    exact ⟨bytes, rfl, hread.trans hback⟩

/-- **The exchange of geometries loses nothing but the spelling.** Reading the extended form of a
value gives the value; putting a value into a column and reading it there gives the value. A scalar
that is accepted comes back with the bytes that it is sent in, which are its own if these are in
normal form. -/
theorem exchange_bijective :
    (∀ g : Geometry, ofBytes g.extended = .ok g) ∧
    (∀ (g : Geometry) (storage storage' : Storage), ∃ bytes,
      g.toScalar (.ofGeometry storage) none = .ok (.of (.binary storage) bytes) ∧
      ofScalar? (.ofGeometry storage') (.of (.binary storage) bytes) = .ok (some g)) ∧
    ∀ (v : Scalar) (g : Geometry) (storage storage' : Storage),
      ofScalar? (.ofGeometry storage') v = .ok (some g) →
      ∃ bytes sent, v.bytes? = some bytes ∧ (Conversion.ofGeometry storage').send v = .ok sent ∧
        g.toScalar (.ofGeometry storage) none = .ok (.of (.binary storage) sent) ∧
        (IsNormal bytes → sent = bytes) := by
  refine ⟨fun g ↦ g.ofBytes_encode .extended g.srid, fun g storage storage' ↦ ?_, ?_⟩
  · refine ⟨g.extended, g.toScalar_ofGeometry storage, ?_⟩
    exact (ofScalar?_of_node rfl (Node.ofBytes_encode g.node_eq .extended g.srid) storage').2
  · intro v g storage storage' h
    obtain ⟨bytes, hv, hread⟩ := node_of_ofScalar? h
    exact ⟨bytes, g.extended, hv, (ofScalar?_of_node hv hread storage').1,
      g.toScalar_ofGeometry storage, fun hnormal ↦ hnormal.encode_eq hread⟩

/-- The bytes of a point in normal form, big end first and tagged. -/
private def taggedPoint : List UInt8 :=
  [0, 0x20, 0, 0, 1, 0, 0, 0x10, 0xe6, 0x3f, 0xf0, 0, 0, 0, 0, 0, 0, 0x40, 0, 0, 0, 0, 0, 0, 0]

theorem exchange_bijective_tagged_point :
    ∃ g : Geometry,
      ofScalar? (.ofGeometry .regular) (.of (.binary .large) taggedPoint) = .ok (some g) ∧
      g.toScalar (.ofGeometry .view) none = .ok (.of (.binary .view) taggedPoint) := by
  let g : Geometry := {
    node := .point .big .xy [0x3f, 0xf0, 0, 0, 0, 0, 0, 0, 0x40, 0, 0, 0, 0, 0, 0, 0]
    shape := .point .xy (some ⟨⟨0x3ff0000000000000⟩, ⟨0x4000000000000000⟩, []⟩)
    srid := some ⟨4326, by decide⟩
    node_eq := by cbv
    shape_eq := by cbv
    valid := rfl }
  have hread : Node.ofBytes taggedPoint = .ok (g.node, g.srid) := by cbv
  have hextended : g.node.encode .extended g.srid = taggedPoint := by cbv
  have hnormal : IsNormal taggedPoint := by
    rw [← hextended]
    exact Node.isNormal_encode hread g.srid
  have haccepted := (ofScalar?_of_node (v := .of (.binary .large) _) rfl hread .regular).2
  obtain ⟨bytes, sent, hbytes, -, hscalar, hsame⟩ :=
    exchange_bijective.2.2 _ g .view .regular haccepted
  cases hbytes
  rw [hsame hnormal] at hscalar
  exact ⟨g, haccepted, hscalar⟩

end Geometry

end ForeignLayer
