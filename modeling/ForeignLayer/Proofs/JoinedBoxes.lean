import ForeignLayer.Proofs.BoxTexts
import ForeignLayer.Proofs.ExtendedLine
import ForeignLayer.Proofs.FoldedEnvelopes
import ForeignLayer.Proofs.Overlaps

/-!
# Joined boxes

The boxes of lists of coordinates form a join semilattice. What is joined are the coordinates: it
makes no difference in which order they come, how often, or in how many boxes before these are
merged. A box contains another one if it does not grow by it, and two boxes intersect if their
rectangles share a point of the plane.

A box is known by its two corners. These are points of the extended plane, where the lower corner
counts downwards, so that the corners grow with the box, and the corners of the empty box are the
least ones. The corners of a box are the least upper bound of its coordinates, and from this all
laws follow. A coordinate with a NaN has no place, and does not count; one that is infinite is like
any other.
-/

namespace ForeignLayer

open Number ForeignLayer.Geometry
open OrderDual (toDual)

namespace Box

/-! ## Corners -/

/-- A lower and an upper corner, in the order of the rectangles between them. -/
abbrev Corners := (EReal × EReal)ᵒᵈ × (EReal × EReal)

/-- The corners of a box. -/
noncomputable def corners (b : Box) : Corners :=
  (toDual (b.minX.toEReal, b.minY.toEReal), (b.maxX.toEReal, b.maxY.toEReal))

/-- The closed rectangle of a box in the extended plane. -/
noncomputable def region (b : Box) : Set (EReal × EReal) :=
  Set.Icc (b.minX.toEReal, b.minY.toEReal) (b.maxX.toEReal, b.maxY.toEReal)

/-- The box of a single coordinate. -/
def single (c : Coord) : Box := ⟨c.x, c.y, c.x, c.y⟩

variable {b other : Box} {c d : Coord} {P Q : Coord → Prop}

theorem isNumeric_empty : empty.IsNumeric :=
  ⟨by decide +kernel, by decide +kernel, by decide +kernel, by decide +kernel⟩

theorem isNumeric_single (hc : c.IsPlaced) : (single c).IsNumeric := ⟨hc.1, hc.2, hc.1, hc.2⟩

theorem Spans.isNumeric (h : b.Spans P) : b.IsNumeric :=
  have ⟨hminX, hmaxX, hminY, hmaxY⟩ := h.isNaN_eq_false
  ⟨hminX, hminY, hmaxX, hmaxY⟩

theorem corners_empty : empty.corners = ⊥ := by
  rw [corners, empty, Floating.toEReal_infinity, Floating.toEReal_infinity]
  rfl

theorem region_subset (h : b.corners ≤ other.corners) : b.region ⊆ other.region :=
  Set.Icc_subset_Icc h.1 h.2

section Comparisons

variable (hb : b.IsNumeric) (hother : other.IsNumeric)
include hb hother

theorem IsNumeric.corners_le_iff : other.corners ≤ b.corners ↔
    b.minX.key ≤ other.minX.key ∧ b.minY.key ≤ other.minY.key ∧
      other.maxX.key ≤ b.maxX.key ∧ other.maxY.key ≤ b.maxY.key := by
  simp only [corners, Prod.mk_le_mk, OrderDual.toDual_le_toDual,
    Floating.toEReal_le_iff hb.minX hother.minX, Floating.toEReal_le_iff hb.minY hother.minY,
    Floating.toEReal_le_iff hother.maxX hb.maxX, Floating.toEReal_le_iff hother.maxY hb.maxY,
    and_assoc]

theorem IsNumeric.equal_iff : b.equal other = true ↔ b.corners = other.corners := by
  rw [@le_antisymm_iff Corners, hb.corners_le_iff hother, hother.corners_le_iff hb]
  simp only [Box.equal, Bool.and_eq_true, Floating.equal_iff, hb.minX, hb.minY, hb.maxX, hb.maxY,
    hother.minX, hother.minY, hother.maxX, hother.maxY, true_and]
  omega

theorem IsNumeric.contains_iff : b.contains other = true ↔
    b.isEmpty = false ∧ other.isEmpty = false ∧ other.corners ≤ b.corners := by
  simp only [Box.contains, Bool.and_eq_true, Bool.not_eq_true', Floating.le_iff, hb.minX, hb.minY,
    hb.maxX, hb.maxY, hother.minX, hother.minY, hother.maxX, hother.maxY, true_and,
    hb.isEmpty_eq_false_iff, hother.isEmpty_eq_false_iff, hb.corners_le_iff hother]
  omega

theorem IsNumeric.intersects_iff_key : b.intersects other = true ↔
    ((b.minX.key ≤ b.maxX.key ∧ b.minY.key ≤ b.maxY.key) ∧
      b.minX.key ≤ other.maxX.key ∧ b.minY.key ≤ other.maxY.key) ∧
    (other.minX.key ≤ b.maxX.key ∧ other.minY.key ≤ b.maxY.key) ∧
      other.minX.key ≤ other.maxX.key ∧ other.minY.key ≤ other.maxY.key := by
  simp only [Box.intersects, Bool.and_eq_true, Bool.not_eq_true', hb.isEmpty_eq_false_iff,
    hother.isEmpty_eq_false_iff, Floating.le_iff, hb.minX, hb.minY, hb.maxX, hb.maxY, hother.minX,
    hother.minY, hother.maxX, hother.maxY, true_and]
  omega

/-- **Boxes intersect if their rectangles share a point.** -/
theorem IsNumeric.intersects_iff_region :
    b.intersects other = true ↔ (b.region ∩ other.region).Nonempty := by
  rw [hb.intersects_iff_key hother, region, region, Set.Icc_inter_Icc, Set.nonempty_Icc,
    sup_le_iff, le_inf_iff, le_inf_iff]
  simp only [Prod.mk_le_mk, Floating.toEReal_le_iff hb.minX hb.maxX,
    Floating.toEReal_le_iff hb.minY hb.maxY, Floating.toEReal_le_iff hb.minX hother.maxX,
    Floating.toEReal_le_iff hb.minY hother.maxY, Floating.toEReal_le_iff hother.minX hb.maxX,
    Floating.toEReal_le_iff hother.minY hb.maxY, Floating.toEReal_le_iff hother.minX hother.maxX,
    Floating.toEReal_le_iff hother.minY hother.maxY]

/-- The point that boxes share can be the greater one of their lower corners, so it has numbers for
its ordinates. -/
theorem IsNumeric.intersects_iff_covers :
    b.intersects other = true ↔ ∃ c, b.Covers c ∧ other.Covers c := by
  rw [hb.intersects_iff_key hother]
  constructor
  · intro h
    obtain ⟨hx, hxKey⟩ := Floating.key_max hb.minX hother.minX
    obtain ⟨hy, hyKey⟩ := Floating.key_max hb.minY hother.minY
    have hplaced : Coord.IsPlaced ⟨b.minX.max other.minX, b.minY.max other.minY, []⟩ := ⟨hx, hy⟩
    refine ⟨_, (covers_iff hplaced).mpr ⟨⟨hb.minX, hb.maxX, hb.minY, hb.maxY⟩, ?_⟩,
      (covers_iff hplaced).mpr ⟨⟨hother.minX, hother.maxX, hother.minY, hother.maxY⟩, ?_⟩⟩
    · dsimp only
      omega
    · dsimp only
      omega
  · rintro ⟨c, hc, hc'⟩
    have hplaced : c.IsPlaced :=
      ⟨(Floating.le_iff.mp hc.1).2.1, (Floating.le_iff.mp hc.2.2.1).2.1⟩
    obtain ⟨-, hkeys⟩ := (covers_iff hplaced).mp hc
    obtain ⟨-, hkeys'⟩ := (covers_iff hplaced).mp hc'
    omega

end Comparisons

/-! ## Least upper bounds -/

theorem IsNumeric.covers_iff_corners (hb : b.IsNumeric) (hc : c.IsPlaced) :
    b.Covers c ↔ (single c).corners ≤ b.corners := by
  rw [covers_iff hc, hb.corners_le_iff (isNumeric_single hc), single]
  simp only [hb.minX, hb.maxX, hb.minY, hb.maxY, true_and]
  omega

theorem corners_single_of_samePlace (h : c.SamePlace d) :
    (single c).corners = (single d).corners := by
  obtain ⟨hc, hd⟩ := h.isPlaced
  refine ((isNumeric_single hc).equal_iff (isNumeric_single hd)).mp ?_
  rw [single, single, Box.equal, h.1, h.2]
  rfl

/-- The corners of those coordinates that have a place. -/
def cornersOf (P : Coord → Prop) : Set Corners :=
  {e | ∃ c, P c ∧ c.IsPlaced ∧ (single c).corners = e}

theorem cornersOf_subset (h : ∀ c, P c → c.IsPlaced → ∃ d, Q d ∧ d.SamePlace c) :
    cornersOf P ⊆ cornersOf Q := by
  rintro _ ⟨c, hc, hplaced, rfl⟩
  obtain ⟨d, hd, hsame⟩ := h c hc hplaced
  exact ⟨d, hd, hsame.isPlaced.1, corners_single_of_samePlace hsame⟩

/-- A box that goes around coordinates and has one on each side is their least upper bound. -/
theorem Spans.isLUB_corners (h : b.Spans P) : IsLUB (cornersOf P) b.corners := by
  constructor
  · rintro _ ⟨c, hc, hplaced, rfl⟩
    exact (h.isNumeric.covers_iff_corners hplaced).mp (h.covers c hc hplaced)
  · intro e he
    obtain ⟨left, hleft, hleftPlaced, hminX⟩ := h.left
    obtain ⟨right, hright, hrightPlaced, hmaxX⟩ := h.right
    obtain ⟨bottom, hbottom, hbottomPlaced, hminY⟩ := h.bottom
    obtain ⟨top, htop, htopPlaced, hmaxY⟩ := h.top
    have hleftLe := he ⟨left, hleft, hleftPlaced, rfl⟩
    have hrightLe := he ⟨right, hright, hrightPlaced, rfl⟩
    have hbottomLe := he ⟨bottom, hbottom, hbottomPlaced, rfl⟩
    have htopLe := he ⟨top, htop, htopPlaced, rfl⟩
    rw [corners, ← hminX, ← hmaxX, ← hminY, ← hmaxY]
    exact ⟨⟨hleftLe.1.1, hbottomLe.1.2⟩, hrightLe.2.1, htopLe.2.2⟩

theorem isNumeric_around (cs : List Coord) : (around cs).IsNumeric := by
  rcases around_cases cs with ⟨-, hempty⟩ | hspans
  · rw [hempty]
    exact isNumeric_empty
  · exact hspans.isNumeric

/-- **The box of some coordinates is their least upper bound.** -/
theorem isLUB_corners_around (cs : List Coord) :
    IsLUB (cornersOf (· ∈ cs)) (around cs).corners := by
  rcases around_cases cs with ⟨hnone, hempty⟩ | hspans
  · have hnothing : cornersOf (· ∈ cs) = ∅ := by
      refine Set.eq_empty_of_forall_notMem ?_
      rintro _ ⟨c, hc, hplaced, -⟩
      exact hnone c hc hplaced
    rw [hempty, corners_empty, hnothing]
    exact isLUB_empty
  · exact hspans.isLUB_corners

/-! ## Joins -/

section Around

variable {A B : List Coord}

/-- Boxes of the same places have the same corners. -/
theorem corners_around_of_samePlaces (h : SamePlaces (· ∈ A) (· ∈ B)) :
    (around A).corners = (around B).corners := by
  have hsame : cornersOf (· ∈ A) = cornersOf (· ∈ B) :=
    (cornersOf_subset h.forth).antisymm (cornersOf_subset h.back)
  exact (isLUB_corners_around A).unique (hsame ▸ isLUB_corners_around B)

theorem corners_around_mono (h : A ⊆ B) : (around A).corners ≤ (around B).corners := by
  refine (isLUB_corners_around A).mono (isLUB_corners_around B) ?_
  rintro _ ⟨c, hc, hplaced, rfl⟩
  exact ⟨c, h hc, hplaced, rfl⟩

theorem corners_around_append (A B : List Coord) :
    (around (A ++ B)).corners = (around A).corners ⊔ (around B).corners := by
  have hunion : cornersOf (· ∈ A ++ B) = cornersOf (· ∈ A) ∪ cornersOf (· ∈ B) := by
    ext e
    simp only [cornersOf, List.mem_append, Set.mem_union, Set.mem_ofPred_eq, or_and_right,
      exists_or]
  have hjoin := (isLUB_corners_around A).union (isLUB_corners_around B)
  rw [← hunion] at hjoin
  exact (isLUB_corners_around (A ++ B)).unique hjoin

end Around

theorem IsNumeric.spans_coords (hb : b.IsNumeric) (hempty : b.isEmpty = false) :
    b.Spans (· ∈ (Update.box b).coords) := by
  obtain ⟨hx, hy⟩ := hb.isEmpty_eq_false_iff.mp hempty
  rw [Update.coords, hempty, if_neg Bool.false_ne_true]
  refine hb.spans List.mem_cons_self (List.mem_cons_of_mem _ List.mem_cons_self) ?_
  intro c hc hplaced
  refine (covers_iff hplaced).mpr ⟨⟨hb.minX, hb.maxX, hb.minY, hb.maxY⟩, ?_⟩
  simp only [List.mem_cons, List.not_mem_nil, or_false] at hc
  rcases hc with rfl | rfl
  · exact ⟨le_rfl, hx, le_rfl, hy⟩
  · exact ⟨hx, le_rfl, hy, le_rfl⟩

/-- Whether a box is one of coordinates. -/
def IsAround (b : Box) : Prop := ∃ cs, around cs = b

theorem isAround_around (cs : List Coord) : (around cs).IsAround := ⟨cs, rfl⟩

section IsAround

theorem IsAround.isNumeric (hb : b.IsAround) : b.IsNumeric := by
  obtain ⟨cs, rfl⟩ := hb
  exact isNumeric_around cs

/-- To merge a box is to extend by coordinates. -/
theorem merge_around (cs : List Coord) (b : Box) :
    (around cs).merge b = around (cs ++ (Update.box b).coords) := by
  rw [around_append, ← Update.apply_eq_foldl]
  rfl

variable (hb : b.IsAround) (hother : other.IsAround)
include hb

theorem IsAround.merge (other : Box) : (b.merge other).IsAround := by
  obtain ⟨cs, rfl⟩ := hb
  exact ⟨_, (merge_around cs other).symm⟩

include hother

/-- **Boxes are merged as their corners are joined.** -/
theorem IsAround.corners_merge : (b.merge other).corners = b.corners ⊔ other.corners := by
  obtain ⟨A, rfl⟩ := hb
  obtain ⟨B, rfl⟩ := hother
  have hcoords : (around (Update.box (around B)).coords).corners = (around B).corners := by
    rcases around_cases B with ⟨-, hempty⟩ | hspans
    · rw [hempty]
      rfl
    · have hcorners := (isNumeric_around B).spans_coords hspans.isEmpty_eq_false
      exact (isLUB_corners_around _).unique hcorners.isLUB_corners
  rw [merge_around, corners_around_append, hcoords]

theorem IsAround.equal_iff : b.equal other = true ↔ b.corners = other.corners :=
  hb.isNumeric.equal_iff hother.isNumeric

end IsAround

/-! ## The semilattice -/

/-- What it means that boxes of coordinates form a join semilattice and match the plane. -/
structure FormsSemilattice (box : List Coord → Box) : Prop where
  /-- The box of some coordinates is the least one around them. -/
  isLeast : ∀ A, (box A).IsLeast (· ∈ A)
  /-- Neither the order of the coordinates nor how often they come makes a difference. -/
  equal_of_samePlaces : ∀ A B, SamePlaces (· ∈ A) (· ∈ B) → (box A).equal (box B) = true
  /-- Boxes are joined as their coordinates are. -/
  merge_equal : ∀ A B, ((box A).merge (box B)).equal (box (A ++ B)) = true
  merge_self : ∀ A, ((box A).merge (box A)).equal (box A) = true
  merge_comm : ∀ A B, ((box A).merge (box B)).equal ((box B).merge (box A)) = true
  merge_assoc : ∀ A B C, (((box A).merge (box B)).merge (box C)).equal
    ((box A).merge ((box B).merge (box C))) = true
  /-- A box contains another one if both hold something and it does not grow by the other one. -/
  contains_iff : ∀ A B, (box A).contains (box B) = true ↔ (box A).isEmpty = false ∧
    (box B).isEmpty = false ∧ ((box A).merge (box B)).equal (box A) = true
  intersects_comm : ∀ A B, (box A).intersects (box B) = (box B).intersects (box A)
  /-- Boxes intersect if their rectangles share a point of the extended plane. -/
  intersects_iff_region : ∀ A B,
    (box A).intersects (box B) = true ↔ ((box A).region ∩ (box B).region).Nonempty
  /-- The point that they share can be a coordinate. -/
  intersects_iff_covers : ∀ A B,
    (box A).intersects (box B) = true ↔ ∃ c, (box A).Covers c ∧ (box B).Covers c
  /-- Boxes that intersect still do when coordinates are added to either. -/
  intersects_of_subset : ∀ A B A' B', A ⊆ A' → B ⊆ B' → (box A).intersects (box B) = true →
    (box A').intersects (box B') = true

/-- **The boxes of coordinates form a join semilattice that matches the plane.** -/
theorem formsSemilattice_around : FormsSemilattice around where
  isLeast := isLeast_around
  equal_of_samePlaces A B h :=
    ((isAround_around A).equal_iff (isAround_around B)).mpr (corners_around_of_samePlaces h)
  merge_equal A B := by
    have hA := isAround_around A
    have hB := isAround_around B
    rw [(hA.merge _).equal_iff (isAround_around _), hA.corners_merge hB, corners_around_append]
  merge_self A := by
    have hA := isAround_around A
    rw [(hA.merge _).equal_iff hA, hA.corners_merge hA, sup_idem]
  merge_comm A B := by
    have hA := isAround_around A
    have hB := isAround_around B
    rw [(hA.merge _).equal_iff (hB.merge _), hA.corners_merge hB, hB.corners_merge hA, sup_comm]
  merge_assoc A B C := by
    have hA := isAround_around A
    have hB := isAround_around B
    have hC := isAround_around C
    rw [((hA.merge _).merge _).equal_iff (hA.merge _), (hA.merge _).corners_merge hC,
      hA.corners_merge hB, hA.corners_merge (hB.merge _), hB.corners_merge hC, sup_assoc]
  contains_iff A B := by
    have hA := isAround_around A
    have hB := isAround_around B
    rw [hA.isNumeric.contains_iff hB.isNumeric, (hA.merge _).equal_iff hA, hA.corners_merge hB,
      sup_eq_left]
  intersects_comm A B := Box.intersects_comm _ _
  intersects_iff_region A B := (isNumeric_around A).intersects_iff_region (isNumeric_around B)
  intersects_iff_covers A B := (isNumeric_around A).intersects_iff_covers (isNumeric_around B)
  intersects_of_subset A B A' B' hA hB h := by
    rw [(isNumeric_around A).intersects_iff_region (isNumeric_around B)] at h
    rw [(isNumeric_around A').intersects_iff_region (isNumeric_around B')]
    have hregionA := region_subset (corners_around_mono hA)
    have hregionB := region_subset (corners_around_mono hB)
    exact h.mono (Set.inter_subset_inter hregionA hregionB)

/-- Places of which one is none, one is without end, and one has a negative zero. -/
private def breakers : List Coord :=
  [⟨⟨0x7ff8000000000000⟩, ⟨0⟩, []⟩, ⟨⟨0x3ff0000000000000⟩, ⟨0x7ff0000000000000⟩, []⟩,
    ⟨⟨0x8000000000000000⟩, ⟨0x4000000000000000⟩, []⟩]

/-- The same places the other way round, the one without end twice. -/
private def breakersAgain : List Coord :=
  [⟨⟨0⟩, ⟨0x4000000000000000⟩, []⟩, ⟨⟨0x3ff0000000000000⟩, ⟨0x7ff0000000000000⟩, []⟩,
    ⟨⟨0x3ff0000000000000⟩, ⟨0x7ff0000000000000⟩, []⟩]

theorem formsSemilattice_around_breakers : SamePlaces (· ∈ breakers) (· ∈ breakersAgain) ∧
    (around breakers).equal (around breakersAgain) = true ∧
    (around breakers).intersects (around (breakersAgain.drop 1)) = true ∧
    (around (breakers ++ [⟨⟨0⟩, ⟨0⟩, []⟩])).intersects (around breakersAgain) = true := by
  have hsame : SamePlaces (· ∈ breakers) (· ∈ breakersAgain) := by
    constructor
    · intro c hc hplaced
      have hcounted : c ∈ breakers.drop 1 := by
        rcases List.mem_cons.mp hc with rfl | hc
        · exact absurd hplaced.1 (by decide +kernel)
        · exact hc
      exact (by decide +kernel : ∀ c ∈ breakers.drop 1, ∃ d ∈ breakersAgain, d.SamePlace c) c
        hcounted
    · intro d hd _
      exact (by decide +kernel : ∀ d ∈ breakersAgain, ∃ c ∈ breakers, c.SamePlace d) d hd
  have hmeet : (around breakers).intersects (around (breakersAgain.drop 1)) = true := by
    decide +kernel
  exact ⟨hsame, formsSemilattice_around.equal_of_samePlaces _ _ hsame, hmeet,
    formsSemilattice_around.intersects_of_subset _ _ _ _ (List.subset_append_left _ _)
      (List.drop_subset _ _) hmeet⟩

end Box

end ForeignLayer
