import ForeignLayer.Proofs.WkbFraming

/-!
# Headers tell of whole geometries

A header is read without looking at the body behind it, and the tag of a geometry, its kind and its
dimensions are taken from there, while its bytes are taken from a rewrite that goes through the
whole tree. The two are never at odds. The header of an accepted geometry is the one of its tree
under the tag that was read, and so is the header of every encoding of that tree, under the tag that
was written. Bytes whose header is at fault are at fault in the same way as a whole.

Nothing here is said about bytes with a good header and a bad body: the header cannot tell them.
-/

namespace ForeignLayer.Geometry.Wkb

variable {b : List UInt8} {node : Node} {tag : Option Srid}

theorem header_encode (h : Node.ofBytes b = .ok (node, tag)) (flavor : Flavor) (s : Option Srid) :
    Header.ofBytes (node.encode flavor s) = .ok (node.header (flavor.keep s)) :=
  Node.header_of_ofBytes (Node.ofBytes_encode h flavor s)

/-- A tree is read after its header, so that it cannot be read where the header is at fault. -/
theorem ofBytes_eq_error_of_header {fault : Fault} (h : Header.ofBytes b = .error fault) :
    Node.ofBytes b = .error fault := by
  have hheader : Header.read ⟨0, b⟩ = .error fault := by
    rcases hread : Header.read ⟨0, b⟩ with fault' | result
    · rw [Header.ofBytes, StateT.run, hread] at h
      obtain rfl : fault' = fault := Except.error.inj h
      rfl
    · rw [Header.ofBytes, StateT.run, hread] at h
      cases h
  have hlevels : Node.readLevels (maxDepth + 1) ⟨0, b⟩ = .error fault :=
    bind_eq_error.mpr (Or.inl hheader)
  rw [Node.ofBytes, StateT.run, hlevels]
  rfl

/-- What the header of some bytes has to do with the rewrites of all of them. -/
structure HeaderAgrees (b : List UInt8) : Prop where
  /-- Accepted bytes have a header with the tag that the plain rewrite gives. The plain form has the
  same header without tag, and every extended form has it under the tag that was asked for; a code
  of zero asks for none. -/
  of_accepted : ∀ iso t, toIso b = .ok (iso, t) → ∃ h : Header, Header.ofBytes b = .ok h ∧
    h.srid = t ∧ Header.ofBytes iso = .ok { h with srid := none } ∧
    ∀ s : Option (BitVec 32), ∃ extended, toExtended b (s.bind Srid.ofCode?) = .ok extended ∧
      Header.ofBytes extended = .ok { h with srid := s.bind Srid.ofCode? }
  /-- A fault of the header is the fault of the rewrites. -/
  of_fault : ∀ fault, Header.ofBytes b = .error fault → toIso b = .error fault ∧
    ∀ s, toExtended b s = .error fault

/-- **Headers agree with the rewrites of whole geometries**, on accepted and on refused bytes. -/
theorem headerAgrees (b : List UInt8) : HeaderAgrees b where
  of_accepted iso t h := by
    obtain ⟨node, hread, rfl⟩ := exists_of_toIso h
    refine ⟨node.header t, Node.header_of_ofBytes hread, rfl, header_encode hread .iso none, ?_⟩
    intro s
    refine ⟨node.encode .extended (s.bind Srid.ofCode?), ?_, header_encode hread .extended _⟩
    rw [toExtended_eq, hread]
    rfl
  of_fault fault h := by
    have hfault := ofBytes_eq_error_of_header h
    exact ⟨toIso_eq_error.mpr hfault, fun s ↦ toExtended_eq_error.mpr hfault⟩

end ForeignLayer.Geometry.Wkb
