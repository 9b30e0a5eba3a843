import ForeignLayer.Geometry.Wkb.Flavors
import ForeignLayer.Proofs.Results

/-!
# The two rewrites of binary geometries are inverse

Bringing bytes into the plain flavor and bringing them into the extended flavor both read one tree
and encode it. So they fail on the same bytes and for the same reason, and where they do not fail
either one can be undone by the other, up to the tag, which the extended rewrite sets and the plain
one takes away.
-/

namespace ForeignLayer.Geometry.Wkb

theorem toIso_eq (b : List UInt8) :
    toIso b = (Node.ofBytes b).map fun p ↦ (p.1.encode .iso none, p.2) := by
  cases h : Node.ofBytes b <;> simp [toIso, h, Bind.bind, Except.bind, Except.map, Pure.pure,
    Except.pure]

theorem toExtended_eq (b : List UInt8) (tag : Option Srid) :
    toExtended b tag = (Node.ofBytes b).map fun p ↦ p.1.encode .extended tag := by
  cases h : Node.ofBytes b <;> simp [toExtended, h, Bind.bind, Except.bind, Except.map, Pure.pure,
    Except.pure]

/-- What the plain rewrite accepts is a tree, and its result is the plain form of the tree. -/
theorem exists_of_toIso {b iso : List UInt8} {t : Option Srid} (h : toIso b = .ok (iso, t)) :
    ∃ node, Node.ofBytes b = .ok (node, t) ∧ iso = node.encode .iso none := by
  rw [toIso_eq] at h
  obtain ⟨⟨node, tag⟩, hread, ⟨⟩⟩ := map_eq_ok.mp h
  exact ⟨node, hread, rfl⟩

variable {b : List UInt8} {node : Node} {t : Option Srid}

theorem toIso_encode (h : Node.ofBytes b = .ok (node, t)) (flavor : Flavor) (s : Option Srid) :
    toIso (node.encode flavor s) = .ok (node.encode .iso none, flavor.keep s) := by
  rw [toIso_eq, Node.ofBytes_encode h]
  rfl

theorem toExtended_encode (h : Node.ofBytes b = .ok (node, t)) (flavor : Flavor)
    (s u : Option Srid) :
    toExtended (node.encode flavor s) u = .ok (node.encode .extended u) := by
  rw [toExtended_eq, Node.ofBytes_encode h]
  rfl

/-- **The rewrites are inverse.** They fail together and alike; where they succeed, each undoes the
other, the plain rewrite is idempotent, and the extended one depends neither on the flavor nor on
the tag of what it is given. A code of zero is no tag. -/
theorem toIso_toExtended_inverse (b : List UInt8) :
    (∀ (s : Option (BitVec 32)) (fault : Fault),
      toIso b = .error fault ↔ toExtended b (s.bind Srid.ofCode?) = .error fault) ∧
    ∀ (iso : List UInt8) (t : Option Srid), toIso b = .ok (iso, t) →
      ∀ s u : Option (BitVec 32), ∃ extended : List UInt8,
        toExtended b (s.bind Srid.ofCode?) = .ok extended ∧
        toIso extended = .ok (iso, s.bind Srid.ofCode?) ∧
        toIso iso = .ok (iso, none) ∧
        toExtended iso (s.bind Srid.ofCode?) = .ok extended ∧
        ∃ other : List UInt8, toExtended extended (u.bind Srid.ofCode?) = .ok other ∧
          toExtended b (u.bind Srid.ofCode?) = .ok other := by
  constructor
  · intro s fault
    rw [toIso_eq, toExtended_eq]
    cases Node.ofBytes b with
    | error fault' => simp only [Except.map, Except.error.injEq]
    | ok p => simp only [Except.map, reduceCtorEq]
  · intro iso t hiso s u
    obtain ⟨node, hread, rfl⟩ := exists_of_toIso hiso
    have hextended (tag : Option Srid) : toExtended b tag = .ok (node.encode .extended tag) := by
      rw [toExtended_eq, hread]
      rfl
    refine ⟨_, hextended _, ?_, ?_, ?_, _, ?_, hextended _⟩
    · exact toIso_encode hread .extended _
    · exact toIso_encode hread .iso none
    · exact toExtended_encode hread .iso none _
    · exact toExtended_encode hread .extended _ _

/-- A multi point, big end first and with ordinates by thousands, whose member is little end first,
has ordinates by a high bit and a tag of its own. -/
theorem toIso_toExtended_inverse_mixed :
    ∃ extended : List UInt8,
      toExtended
        [0, 0, 0, 3, 0xec, 0, 0, 0, 1, 1, 1, 0, 0, 0xa0, 7, 0, 0, 0,
          0, 0, 0, 0, 0, 0, 0xf0, 0x3f, 0, 0, 0, 0, 0, 0, 0, 0x40, 0, 0, 0, 0, 0, 0, 8, 0x40]
        (Srid.ofCode? 4326) = .ok extended ∧
      toIso extended = .ok
        ([0, 0, 0, 3, 0xec, 0, 0, 0, 1, 1, 0xe9, 3, 0, 0,
          0, 0, 0, 0, 0, 0, 0xf0, 0x3f, 0, 0, 0, 0, 0, 0, 0, 0x40, 0, 0, 0, 0, 0, 0, 8, 0x40],
        Srid.ofCode? 4326) := by
  have hiso : toIso
      [0, 0, 0, 3, 0xec, 0, 0, 0, 1, 1, 1, 0, 0, 0xa0, 7, 0, 0, 0,
        0, 0, 0, 0, 0, 0, 0xf0, 0x3f, 0, 0, 0, 0, 0, 0, 0, 0x40, 0, 0, 0, 0, 0, 0, 8, 0x40] = .ok
      ([0, 0, 0, 3, 0xec, 0, 0, 0, 1, 1, 0xe9, 3, 0, 0,
        0, 0, 0, 0, 0, 0, 0xf0, 0x3f, 0, 0, 0, 0, 0, 0, 0, 0x40, 0, 0, 0, 0, 0, 0, 8, 0x40],
      none) := by cbv
  obtain ⟨extended, hb, hback, -⟩ :=
    (toIso_toExtended_inverse _).2 _ none hiso (some 4326#32) none
  exact ⟨extended, hb, hback⟩

end ForeignLayer.Geometry.Wkb
