import ForeignLayer.Proofs.HeldShapes
import ForeignLayer.Proofs.NumberOrder

/-!
# Bounds are least boxes

The bounds of a geometry are the least box around it. A coordinate counts as soon as X and Y are
numbers, wherever it stands: in an exterior or an interior ring, in a part of a multi geometry, in a
collection of collections. What else a coordinate has, how the parts are nested and in which order
they come makes no difference. If no coordinate counts, the box is empty.

The box is built by extending the empty box by one coordinate after the other. So long as no
coordinate counts it stays the empty box; from the first one on that does, each of its sides goes
through a coordinate, which is what makes it the least one.
-/

namespace ForeignLayer

namespace Geometry

open Number

/-! ## Coordinates in shapes -/

/-- Whether a coordinate has a place in the plane. -/
def Coord.IsPlaced (c : Coord) : Prop := c.x.isNaN = false ∧ c.y.isNaN = false

/-- Whether two coordinates have the same place in the plane. -/
def Coord.SamePlace (c d : Coord) : Prop := c.x.equal d.x = true ∧ c.y.equal d.y = true

instance (c d : Coord) : Decidable (c.SamePlace d) := inferInstanceAs (Decidable (_ ∧ _))

/-- A coordinate where functions take its place. -/
def Coord.map (f g : Double → Double) (c : Coord) : Coord := ⟨f c.x, g c.y, c.more⟩

section Places

variable {c d : Coord} {f g : Double → Double}

theorem Coord.SamePlace.isPlaced (h : c.SamePlace d) : c.IsPlaced ∧ d.IsPlaced :=
  have hx := Floating.equal_iff.mp h.1
  have hy := Floating.equal_iff.mp h.2
  ⟨⟨hx.1, hy.1⟩, ⟨hx.2.1, hy.2.1⟩⟩

theorem Coord.isPlaced_map (hf : Floating.KeepsOrder f) (hg : Floating.KeepsOrder g) :
    (c.map f g).IsPlaced ↔ c.IsPlaced := by
  rw [IsPlaced, IsPlaced, map, hf.isNaN, hg.isNaN]

end Places

/-- Whether some coordinates have the places of others, in whatever order and number. -/
structure SamePlaces (P Q : Coord → Prop) : Prop where
  forth : ∀ c, P c → c.IsPlaced → ∃ d, Q d ∧ d.SamePlace c
  back : ∀ d, Q d → d.IsPlaced → ∃ c, P c ∧ c.SamePlace d

section SamePlaces

variable {P Q : Coord → Prop}

theorem SamePlaces.refl (P : Coord → Prop) : SamePlaces P P := by
  have hself (c : Coord) (hc : c.IsPlaced) : c.SamePlace c :=
    ⟨Floating.equal_self hc.1, Floating.equal_self hc.2⟩
  exact ⟨fun c hc hplaced ↦ ⟨c, hc, hself c hplaced⟩, fun c hc hplaced ↦ ⟨c, hc, hself c hplaced⟩⟩

theorem SamePlaces.symm (h : SamePlaces P Q) : SamePlaces Q P := ⟨h.back, h.forth⟩

theorem SamePlaces.not_isPlaced (h : SamePlaces P Q) (hP : ∀ c, P c → ¬c.IsPlaced) :
    ∀ d, Q d → ¬d.IsPlaced := fun d hd hplaced ↦
  have ⟨c, hc, hplace⟩ := h.back d hd hplaced
  hP c hc hplace.isPlaced.1

end SamePlaces

/-- Whether a coordinate is somewhere in a shape. -/
inductive Shape.Has : Shape → Coord → Prop
  | point (dims : Dimensions) (c : Coord) : Has (.point dims (some c)) c
  | lineString (dims : Dimensions) {coords : List Coord} {c : Coord} (h : c ∈ coords) :
    Has (.lineString dims coords) c
  | polygon (dims : Dimensions) {rings : List (List Coord)} {ring : List Coord} {c : Coord}
    (hring : ring ∈ rings) (h : c ∈ ring) : Has (.polygon dims rings) c
  | multiPoint (dims : Dimensions) {points : List (Option Coord)} {c : Coord}
    (h : some c ∈ points) : Has (.multiPoint dims points) c
  | multiLineString (dims : Dimensions) {lines : List (List Coord)} {line : List Coord} {c : Coord}
    (hline : line ∈ lines) (h : c ∈ line) : Has (.multiLineString dims lines) c
  | multiPolygon (dims : Dimensions) {polygons : List (List (List Coord))}
    {rings : List (List Coord)} {ring : List Coord} {c : Coord} (hrings : rings ∈ polygons)
    (hring : ring ∈ rings) (h : c ∈ ring) : Has (.multiPolygon dims polygons) c
  | collection (dims : Dimensions) {members : List Shape} {member : Shape} {c : Coord}
    (hmember : member ∈ members) (h : Has member c) : Has (.collection dims members) c

namespace Shape

theorem mem_coordsOfAll {members : List Shape} {c : Coord} :
    c ∈ coords.coordsOfAll members ↔ ∃ m ∈ members, c ∈ m.coords := by
  induction members with
  | nil => simp [coords.coordsOfAll]
  | cons member members ih => simp [coords.coordsOfAll, ih]

/-- **The walk through a shape reaches every coordinate, and no others.** -/
theorem mem_coords {s : Shape} {c : Coord} : c ∈ s.coords ↔ s.Has c := by
  cases s with
  | point dims coord =>
    rw [coords, Option.mem_toList]
    constructor
    · rintro rfl
      exact .point dims c
    · rintro ⟨⟩
      rfl
  | lineString dims coords =>
    constructor
    · exact .lineString dims
    · rintro ⟨⟩
      assumption
  | polygon dims rings =>
    rw [coords, List.mem_flatten]
    constructor
    · rintro ⟨ring, hring, h⟩
      exact .polygon dims hring h
    · rintro ⟨⟩
      exact ⟨_, ‹_›, ‹_›⟩
  | multiPoint dims points =>
    simp only [coords, List.mem_flatMap, Option.mem_toList]
    constructor
    · rintro ⟨point, hpoint, rfl⟩
      exact .multiPoint dims hpoint
    · rintro ⟨⟩
      exact ⟨_, ‹_›, rfl⟩
  | multiLineString dims lines =>
    rw [coords, List.mem_flatten]
    constructor
    · rintro ⟨line, hline, h⟩
      exact .multiLineString dims hline h
    · rintro ⟨⟩
      exact ⟨_, ‹_›, ‹_›⟩
  | multiPolygon dims polygons =>
    simp only [coords, List.mem_flatten]
    constructor
    · rintro ⟨ring, ⟨rings, hrings, hring⟩, h⟩
      exact .multiPolygon dims hrings hring h
    · rintro ⟨⟩
      exact ⟨_, ⟨_, ‹_›, ‹_›⟩, ‹_›⟩
  | collection dims members =>
    -- a member has the coordinates that it would have if it stood alone
    have ih : ∀ m ∈ members, c ∈ m.coords ↔ m.Has c := fun m hm ↦ mem_coords
    rw [coords, mem_coordsOfAll]
    constructor
    · rintro ⟨m, hm, h⟩
      exact .collection dims hm ((ih m hm).mp h)
    · rintro ⟨⟩
      rename_i m hm h
      exact ⟨m, hm, (ih m hm).mpr h⟩
termination_by sizeOf s
decreasing_by
  have := List.sizeOf_lt_of_mem hm
  simp only [collection.sizeOf_spec]
  omega

end Shape

end Geometry

/-! ## Boxes around coordinates -/

namespace Box

open Number ForeignLayer.Geometry

/-- Whether a coordinate lies in a box or on its sides. -/
def Covers (b : Box) (c : Coord) : Prop :=
  b.minX.le c.x = true ∧ c.x.le b.maxX = true ∧ b.minY.le c.y = true ∧ c.y.le b.maxY = true

/-- What it means that a box is the least one around some coordinates: it is empty if none of them
has a place, and otherwise goes around all that have one, lies within every box that does, and each
of its sides is given by one of them. -/
structure IsLeast (b : Box) (P : Coord → Prop) : Prop where
  isEmpty_iff : b.isEmpty = true ↔ ∀ c, P c → ¬c.IsPlaced
  covers : ∀ c, P c → c.IsPlaced → b.Covers c
  least : b.isEmpty = false → ∀ other : Box,
    (∀ c, P c → c.IsPlaced → other.Covers c) → other.contains b = true
  sides : b.isEmpty = false → ∃ left right bottom top, (∀ c ∈ [left, right, bottom, top], P c) ∧
    b = ⟨left.x, bottom.y, right.x, top.y⟩

/-- Whether a box goes around some coordinates and each of its sides goes through one of them. -/
structure Spans (b : Box) (P : Coord → Prop) : Prop where
  covers : ∀ c, P c → c.IsPlaced → b.Covers c
  left : ∃ c, P c ∧ c.IsPlaced ∧ c.x = b.minX
  right : ∃ c, P c ∧ c.IsPlaced ∧ c.x = b.maxX
  bottom : ∃ c, P c ∧ c.IsPlaced ∧ c.y = b.minY
  top : ∃ c, P c ∧ c.IsPlaced ∧ c.y = b.maxY

/-! ## Extending boxes -/

section Extend

variable {b : Box} {c : Coord} {P : Coord → Prop}

theorem extend_of_not_isPlaced (h : ¬c.IsPlaced) : b.extend c.x c.y = b := by
  rw [extend, if_pos]
  simpa [Coord.IsPlaced, Classical.or_iff_not_imp_left] using h

theorem extend_of_isPlaced (h : c.IsPlaced) : b.extend c.x c.y =
    ⟨b.minX.min c.x, b.minY.min c.y, b.maxX.max c.x, b.maxY.max c.y⟩ := by
  rw [extend, h.1, h.2, Bool.or_false, if_neg Bool.false_ne_true]

theorem extend_empty (h : c.IsPlaced) : empty.extend c.x c.y = ⟨c.x, c.y, c.x, c.y⟩ := by
  rw [extend_of_isPlaced h]
  simp only [empty, Floating.infinity_min h.1, Floating.infinity_min h.2,
    Floating.infinity_max h.1, Floating.infinity_max h.2]

theorem covers_iff (hc : c.IsPlaced) : b.Covers c ↔
    (b.minX.isNaN = false ∧ b.maxX.isNaN = false ∧ b.minY.isNaN = false ∧ b.maxY.isNaN = false) ∧
      b.minX.key ≤ c.x.key ∧ c.x.key ≤ b.maxX.key ∧ b.minY.key ≤ c.y.key ∧
      c.y.key ≤ b.maxY.key := by
  simp only [Covers, Floating.le_iff, hc.1, hc.2]
  tauto

theorem spans_point (h : c.IsPlaced) : Spans ⟨c.x, c.y, c.x, c.y⟩ (· = c) where
  covers d hd _ := by
    subst hd
    exact (covers_iff h).mpr ⟨⟨h.1, h.1, h.2, h.2⟩, le_rfl, le_rfl, le_rfl, le_rfl⟩
  left := ⟨c, rfl, h, rfl⟩
  right := ⟨c, rfl, h, rfl⟩
  bottom := ⟨c, rfl, h, rfl⟩
  top := ⟨c, rfl, h, rfl⟩

/-- The coordinates that a box spans are not needed to say that its sides are numbers. -/
theorem Spans.isNaN_eq_false (h : b.Spans P) :
    b.minX.isNaN = false ∧ b.maxX.isNaN = false ∧ b.minY.isNaN = false ∧ b.maxY.isNaN = false := by
  obtain ⟨c, hc, hplaced, -⟩ := h.left
  exact ((covers_iff hplaced).mp (h.covers c hc hplaced)).1

theorem Spans.congr (h : b.Spans P) {Q : Coord → Prop} (hiff : ∀ c, c.IsPlaced → (P c ↔ Q c)) :
    b.Spans Q where
  covers c hc hplaced := h.covers c ((hiff c hplaced).mpr hc) hplaced
  left := have ⟨c, hc, hplaced, hside⟩ := h.left; ⟨c, (hiff c hplaced).mp hc, hplaced, hside⟩
  right := have ⟨c, hc, hplaced, hside⟩ := h.right; ⟨c, (hiff c hplaced).mp hc, hplaced, hside⟩
  bottom := have ⟨c, hc, hplaced, hside⟩ := h.bottom; ⟨c, (hiff c hplaced).mp hc, hplaced, hside⟩
  top := have ⟨c, hc, hplaced, hside⟩ := h.top; ⟨c, (hiff c hplaced).mp hc, hplaced, hside⟩

/-- **Extending a box by a coordinate keeps it as tight as it was.** -/
theorem Spans.extend (h : b.Spans P) (hc : c.IsPlaced) :
    (b.extend c.x c.y).Spans fun d ↦ P d ∨ d = c := by
  obtain ⟨hminX, hmaxX, hminY, hmaxY⟩ := h.isNaN_eq_false
  obtain ⟨hleft, hleftKey⟩ := Floating.key_min hminX hc.1
  obtain ⟨hright, hrightKey⟩ := Floating.key_max hmaxX hc.1
  obtain ⟨hbottom, hbottomKey⟩ := Floating.key_min hminY hc.2
  obtain ⟨htop, htopKey⟩ := Floating.key_max hmaxY hc.2
  rw [extend_of_isPlaced hc]
  -- a side stays where it was, or goes to the new coordinate
  have keep {f : Coord → Double} {x : Double} (hside : ∃ d, P d ∧ d.IsPlaced ∧ f d = x) {y : Double}
      (hy : y = x ∨ y = f c) : ∃ d, (P d ∨ d = c) ∧ d.IsPlaced ∧ f d = y := by
    rcases hy with rfl | rfl
    · obtain ⟨d, hd, hplaced, hx⟩ := hside
      exact ⟨d, Or.inl hd, hplaced, hx⟩
    · exact ⟨c, Or.inr rfl, hc, rfl⟩
  refine ⟨fun d hd hplaced ↦ (covers_iff hplaced).mpr ⟨⟨hleft, hright, hbottom, htop⟩, ?_⟩, ?_, ?_,
    ?_, ?_⟩
  · dsimp only
    rw [hleftKey, hrightKey, hbottomKey, htopKey]
    rcases hd with hd | rfl
    · have hcovered := ((covers_iff hplaced).mp (h.covers d hd hplaced)).2
      omega
    · omega
  · exact keep h.left ((Floating.min_cases hminX hc.1).imp And.left And.left)
  · exact keep h.right ((Floating.max_cases hmaxX hc.1).imp And.left And.left)
  · exact keep h.bottom ((Floating.min_cases hminY hc.2).imp And.left And.left)
  · exact keep h.top ((Floating.max_cases hmaxY hc.2).imp And.left And.left)

/-- The box of some coordinates: the empty one, extended by one after the other. -/
def around (cs : List Coord) : Box := cs.foldl (fun b c ↦ b.extend c.x c.y) empty

theorem around_append (cs ds : List Coord) :
    around (cs ++ ds) = ds.foldl (fun b c ↦ b.extend c.x c.y) (around cs) := List.foldl_append

/-- **What the box of some coordinates is**: the empty one for as long as no coordinate counts, and
then one with a coordinate on each side. -/
theorem around_cases (cs : List Coord) :
    ((∀ c ∈ cs, ¬c.IsPlaced) ∧ around cs = empty) ∨ (around cs).Spans (· ∈ cs) := by
  induction cs using List.reverseRecOn with
  | nil => exact Or.inl ⟨fun c hc ↦ absurd hc List.not_mem_nil, rfl⟩
  | append_singleton cs c ih =>
    simp only [around_append, List.foldl_cons, List.foldl_nil, List.mem_append,
      List.mem_singleton]
    by_cases hc : c.IsPlaced
    · refine Or.inr ?_
      rcases ih with ⟨hnone, hempty⟩ | hspans
      · rw [hempty, extend_empty hc]
        exact (spans_point hc).congr fun d hplaced ↦
          ⟨Or.inr, Or.rec (fun hd ↦ absurd hplaced (hnone d hd)) id⟩
      · exact hspans.extend hc
    · rw [extend_of_not_isPlaced hc]
      rcases ih with ⟨hnone, hempty⟩ | hspans
      · exact Or.inl ⟨fun d hd ↦ hd.elim (hnone d) (· ▸ hc), hempty⟩
      · exact Or.inr (hspans.congr fun d hplaced ↦
          ⟨Or.inl, Or.rec id fun hd ↦ absurd hplaced (hd ▸ hc)⟩)

end Extend

/-! ## Least boxes -/

section Least

variable {b other : Box} {P Q : Coord → Prop}

theorem isEmpty_iff : b.isEmpty = true ↔ b.maxX.lt b.minX = true ∨ b.maxY.lt b.minY = true := by
  rw [isEmpty, Bool.or_eq_true]

theorem Covers.isEmpty_eq_false {c : Coord} (h : b.Covers c) (hc : c.IsPlaced) :
    b.isEmpty = false := by
  obtain ⟨-, hkeys⟩ := (covers_iff hc).mp h
  rw [Bool.eq_false_iff, Ne, isEmpty_iff, Floating.lt_iff, Floating.lt_iff]
  omega

theorem Spans.isEmpty_eq_false (h : b.Spans P) : b.isEmpty = false :=
  have ⟨c, hc, hplaced, _⟩ := h.left
  (h.covers c hc hplaced).isEmpty_eq_false hplaced

/-- A box with sides through coordinates has no side outside a box around them. -/
theorem Spans.within (h : b.Spans P) (hother : ∀ c, P c → c.IsPlaced → other.Covers c) :
    other.minX.le b.minX = true ∧ b.maxX.le other.maxX = true ∧
      other.minY.le b.minY = true ∧ b.maxY.le other.maxY = true := by
  obtain ⟨left, hleft, hleftPlaced, hminX⟩ := h.left
  obtain ⟨right, hright, hrightPlaced, hmaxX⟩ := h.right
  obtain ⟨bottom, hbottom, hbottomPlaced, hminY⟩ := h.bottom
  obtain ⟨top, htop, htopPlaced, hmaxY⟩ := h.top
  rw [← hminX, ← hmaxX, ← hminY, ← hmaxY]
  exact ⟨(hother left hleft hleftPlaced).1, (hother right hright hrightPlaced).2.1,
    (hother bottom hbottom hbottomPlaced).2.2.1, (hother top htop htopPlaced).2.2.2⟩

theorem Spans.contains (h : b.Spans P) (hother : ∀ c, P c → c.IsPlaced → other.Covers c) :
    other.contains b = true := by
  obtain ⟨hminX, hmaxX, hminY, hmaxY⟩ := h.within hother
  obtain ⟨c, hc, hplaced, -⟩ := h.left
  have hnonempty := (hother c hc hplaced).isEmpty_eq_false hplaced
  simp only [Box.contains, hnonempty, h.isEmpty_eq_false, hminX, hmaxX, hminY, hmaxY,
    Bool.not_false, Bool.and_true]

theorem Spans.isLeast (h : b.Spans P) : b.IsLeast P where
  isEmpty_iff := by
    obtain ⟨c, hc, hplaced, -⟩ := h.left
    rw [h.isEmpty_eq_false]
    exact iff_of_false Bool.false_ne_true fun hnone ↦ hnone c hc hplaced
  covers := h.covers
  least _ _ := h.contains
  sides _ := by
    obtain ⟨left, hleft, -, hminX⟩ := h.left
    obtain ⟨right, hright, -, hmaxX⟩ := h.right
    obtain ⟨bottom, hbottom, -, hminY⟩ := h.bottom
    obtain ⟨top, htop, -, hmaxY⟩ := h.top
    refine ⟨left, right, bottom, top, by simp [hleft, hright, hbottom, htop], ?_⟩
    rw [hminX, hmaxX, hminY, hmaxY]

theorem isLeast_empty (h : ∀ c, P c → ¬c.IsPlaced) : empty.IsLeast P where
  isEmpty_iff := iff_of_true (by decide +kernel) h
  covers c hc hplaced := absurd hplaced (h c hc)
  least hempty := absurd hempty (by decide +kernel)
  sides hempty := absurd hempty (by decide +kernel)

/-- **The box of some coordinates is the least one around them.** -/
theorem isLeast_around (cs : List Coord) : (around cs).IsLeast (· ∈ cs) := by
  rcases around_cases cs with ⟨hnone, hempty⟩ | hspans
  · rw [hempty]
    exact isLeast_empty hnone
  · exact hspans.isLeast

end Least

/-! ## The same places -/

section Places

variable {b other : Box} {P Q : Coord → Prop} {f g : Double → Double}

theorem covers_of_samePlaces (h : SamePlaces P Q) (hb : ∀ c, P c → c.IsPlaced → b.Covers c) :
    ∀ d, Q d → d.IsPlaced → b.Covers d := by
  intro d hd hplaced
  obtain ⟨c, hc, hplace⟩ := h.back d hd hplaced
  have hcPlaced := hplace.isPlaced.1
  have hcovers := (covers_iff hcPlaced).mp (hb c hc hcPlaced)
  rw [(Floating.equal_iff.mp hplace.1).2.2, (Floating.equal_iff.mp hplace.2).2.2] at hcovers
  exact (covers_iff hplaced).mpr hcovers

/-- **Boxes with sides through the same places have the same sides.** -/
theorem Spans.equal (h : b.Spans P) (hother : other.Spans Q) (hsame : SamePlaces P Q) :
    b.equal other = true := by
  obtain ⟨hminX, hmaxX, hminY, hmaxY⟩ := h.within (covers_of_samePlaces hsame.symm hother.covers)
  obtain ⟨hminX', hmaxX', hminY', hmaxY'⟩ := hother.within (covers_of_samePlaces hsame h.covers)
  simp only [Box.equal, Floating.equal_of_le_of_le hminX' hminX,
    Floating.equal_of_le_of_le hmaxX hmaxX', Floating.equal_of_le_of_le hminY' hminY,
    Floating.equal_of_le_of_le hmaxY hmaxY', Bool.and_self]

/-- The sides of a box where functions take them. -/
def map (f g : Double → Double) (b : Box) : Box := ⟨f b.minX, g b.minY, f b.maxX, g b.maxY⟩

/-- **Boxes move with their coordinates** under all functions that keep the order of numbers. -/
theorem Spans.map (h : b.Spans P) (hf : Floating.KeepsOrder f) (hg : Floating.KeepsOrder g) :
    (b.map f g).Spans fun d ↦ ∃ c, P c ∧ c.map f g = d where
  covers := by
    rintro _ ⟨c, hc, rfl⟩ hplaced
    obtain ⟨hleft, hright, hbottom, htop⟩ := h.covers c hc ((Coord.isPlaced_map hf hg).mp hplaced)
    exact ⟨(hf _ _).trans hleft, (hf _ _).trans hright, (hg _ _).trans hbottom,
      (hg _ _).trans htop⟩
  left :=
    have ⟨c, hc, hplaced, hside⟩ := h.left
    ⟨_, ⟨c, hc, rfl⟩, (Coord.isPlaced_map hf hg).mpr hplaced, congrArg f hside⟩
  right :=
    have ⟨c, hc, hplaced, hside⟩ := h.right
    ⟨_, ⟨c, hc, rfl⟩, (Coord.isPlaced_map hf hg).mpr hplaced, congrArg f hside⟩
  bottom :=
    have ⟨c, hc, hplaced, hside⟩ := h.bottom
    ⟨_, ⟨c, hc, rfl⟩, (Coord.isPlaced_map hf hg).mpr hplaced, congrArg g hside⟩
  top :=
    have ⟨c, hc, hplaced, hside⟩ := h.top
    ⟨_, ⟨c, hc, rfl⟩, (Coord.isPlaced_map hf hg).mpr hplaced, congrArg g hside⟩

end Places

end Box

/-! ## Bounds -/

namespace Geometry

open Number

section Bounds

/-- What the bounds of a shape are: the empty box, or one with a coordinate on each side. -/
theorem Shape.bounds_cases (s : Shape) :
    ((∀ c, s.Has c → ¬c.IsPlaced) ∧ s.bounds = .empty) ∨ s.bounds.Spans s.Has := by
  have h := Box.around_cases s.coords
  simp only [mem_coords] at h
  exact h

theorem Shape.bounds_equal {s : Shape} {b : Box} (h : b.Spans s.Has) :
    s.bounds.equal b = true := by
  rcases s.bounds_cases with ⟨hnone, -⟩ | hspans
  · obtain ⟨c, hc, hplaced, -⟩ := h.left
    exact absurd hplaced (hnone c hc)
  · exact hspans.equal h (.refl _)

/-- **The bounds of a shape are the least box around its coordinates.** -/
theorem Shape.isLeast_bounds (s : Shape) : s.bounds.IsLeast s.Has := by
  have h := Box.isLeast_around s.coords
  simp only [mem_coords] at h
  exact h

/-- **Bounds depend on the order of ordinates alone**: where functions that keep the order take the
places of a shape, they take its bounds, whatever else the other shape is like. -/
theorem Shape.bounds_map {s t : Shape} {f g : Double → Double} (hf : Floating.KeepsOrder f)
    (hg : Floating.KeepsOrder g) (hsame : SamePlaces (fun d ↦ ∃ c, s.Has c ∧ c.map f g = d) t.Has) :
    (s.bounds = .empty ∧ t.bounds = .empty) ∨ (s.bounds.map f g).equal t.bounds = true := by
  rcases s.bounds_cases with ⟨hnone, hempty⟩ | hspans
  · have hnone' := hsame.not_isPlaced fun d ⟨c, hc, hd⟩ hplaced ↦
      hnone c hc ((Coord.isPlaced_map hf hg).mp (hd ▸ hplaced))
    rcases t.bounds_cases with ⟨-, hempty'⟩ | hspans'
    · exact Or.inl ⟨hempty, hempty'⟩
    · obtain ⟨d, hd, hplaced, -⟩ := hspans'.left
      exact absurd hplaced (hnone' d hd)
  · refine Or.inr ?_
    rcases t.bounds_cases with ⟨hnone, -⟩ | hspans'
    · obtain ⟨d, hd, hplaced, -⟩ := (hspans.map hf hg).left
      exact absurd hplaced (hsame.symm.not_isPlaced hnone d hd)
    · exact (hspans.map hf hg).equal hspans' hsame

end Bounds

section Trees

open Wkb

/-- **The bounds of a tree are the least box around its coordinates.** The tree holds a shape, and
provided that this is what is read from its bytes, the box that comes out is the least one around
the coordinates of that shape. Geometries whose coordinates have the same places have the same
bounds, and where all places move and keep their order, the bounds move with them. -/
theorem bounds_isLeast {node : Node} {tag : Option Srid} {bs : List UInt8}
    (hwritten : Written Heading.Free node tag bs) (hproper : node.IsProper)
    (hfaithful : ∀ shape, node.Holds shape → shapeOfBytes bs = .ok shape) :
    (∃ shape, node.Holds shape) ∧ ∀ shape, node.Holds shape → ∃ b : Box,
      (shapeOfBytes bs).map Shape.bounds = .ok b ∧ b.IsLeast shape.Has ∧
      ∀ (bs' : List UInt8) (other : Shape) (f g : Double → Double),
        shapeOfBytes bs' = .ok other → Floating.KeepsOrder f → Floating.KeepsOrder g →
        SamePlaces (fun d ↦ ∃ c, shape.Has c ∧ c.map f g = d) other.Has →
        ∃ b' : Box, (shapeOfBytes bs').map Shape.bounds = .ok b' ∧
          ((b = .empty ∧ b' = .empty) ∨ (b.map f g).equal b' = true) := by
  refine ⟨hproper.exists_holds hwritten, fun shape hholds ↦ ⟨shape.bounds, ?_, shape.isLeast_bounds,
    fun bs' other f g hread hf hg hsame ↦ ⟨other.bounds, ?_, Shape.bounds_map hf hg hsame⟩⟩⟩
  · rw [hfaithful shape hholds]
    rfl
  · rw [hread]
    rfl

/-- The bytes of a collection, little end first, of a point that has no place, since its X is NaN,
and of a collection, big end first, of a line string with heights that reaches to infinity. -/
private def endlessLine : List UInt8 :=
  [1, 7, 0, 0, 0, 2, 0, 0, 0,
    1, 1, 0, 0, 0, 0, 0, 0, 0, 0, 0, 0xf8, 0x7f, 0, 0, 0, 0, 0, 0, 0xf0, 0xbf,
    0, 0, 0, 0, 7, 0, 0, 0, 1,
      0, 0, 0, 3, 0xea, 0, 0, 0, 2,
        0x3f, 0xf0, 0, 0, 0, 0, 0, 0, 0x7f, 0xf0, 0, 0, 0, 0, 0, 0, 0, 0, 0, 0, 0, 0, 0, 0,
        0, 0, 0, 0, 0, 0, 0, 0, 0x40, 0, 0, 0, 0, 0, 0, 0, 0, 0, 0, 0, 0, 0, 0, 0]

/-- The bytes of a multi point of the ends of the line string, the other way round. -/
private def endlessLineEnds : List UInt8 :=
  [1, 4, 0, 0, 0, 2, 0, 0, 0,
    1, 1, 0, 0, 0, 0, 0, 0, 0, 0, 0, 0, 0, 0, 0, 0, 0, 0, 0, 0, 0x40,
    1, 1, 0, 0, 0, 0, 0, 0, 0, 0, 0, 0xf0, 0x3f, 0, 0, 0, 0, 0, 0, 0xf0, 0x7f]

theorem bounds_isLeast_endlessLine : ∃ (shape : Shape) (b : Box),
    (shapeOfBytes endlessLine).map Shape.bounds = .ok b ∧ b.IsLeast shape.Has ∧
      ∃ b', (shapeOfBytes endlessLineEnds).map Shape.bounds = .ok b' ∧ b.equal b' = true := by
  let nowhere : Coord := ⟨⟨0x7ff8000000000000⟩, ⟨0xbff0000000000000⟩, []⟩
  let coords : List Coord := [⟨⟨0x3ff0000000000000⟩, ⟨0x7ff0000000000000⟩, [⟨0⟩]⟩,
    ⟨⟨0⟩, ⟨0x4000000000000000⟩, [⟨0⟩]⟩]
  let point : Node := .point .little .xy (ordinateBytes .little nowhere)
  let line : Node := .lineString .big .xyz (.inOrder .big coords)
  let inner : Node := .collection .big .xy .geometryCollection [line]
  let node : Node := .collection .little .xy .geometryCollection [point, inner]
  have hread : Node.ofBytes endlessLine = .ok (node, none) := by
    simp only [node, point, inner, line, coords, nowhere]
    cbv
  obtain ⟨hwritten, hdepth⟩ := ofBytes_eq_ok_iff_written.mp hread
  have hproper : node.IsProper :=
    .collection _ _ _ _ (fun _ hpart ↦ (by cases hpart)) <| List.forall_mem_cons.mpr
      ⟨.point _ _ _, List.forall_mem_singleton.mpr <|
        .collection _ _ _ _ (fun _ hpart ↦ (by cases hpart)) <| List.forall_mem_singleton.mpr <|
          .lineString _ _ _⟩
  have heven : node.IsEven :=
    .collection _ _ _ _ (absurd rfl) <| List.forall_mem_cons.mpr
      ⟨.point _ _ _, List.forall_mem_singleton.mpr <|
        .collection _ _ _ _ (absurd rfl) <| List.forall_mem_singleton.mpr <| .lineString _ _ _⟩
  have hbytes : node.bytes = endlessLine := by decide +kernel
  obtain ⟨-, hbounds⟩ := bounds_isLeast hwritten hproper
    (hbytes ▸ heven.isReadFaithfully hdepth hwritten)
  let shape : Shape := .collection .xy [.point .xy (pointOf nowhere),
    .collection .xy [.lineString .xyz coords]]
  have hholds : node.Holds shape :=
    .collection .little .xy [(point, _), (inner, _)] <| List.forall_mem_cons.mpr
      ⟨.point .little .xy nowhere rfl, List.forall_mem_singleton.mpr <|
        .collection .big .xy [(line, _)] <| List.forall_mem_singleton.mpr <|
          .lineString .big .xyz coords (List.forall_mem_cons.mpr
            ⟨rfl, List.forall_mem_singleton.mpr rfl⟩)⟩
  obtain ⟨b, hb, hleast, hmoves⟩ := hbounds shape hholds
  let ends : List Coord := [⟨⟨0⟩, ⟨0x4000000000000000⟩, []⟩,
    ⟨⟨0x3ff0000000000000⟩, ⟨0x7ff0000000000000⟩, []⟩]
  have hends : shapeOfBytes endlessLineEnds = .ok (.multiPoint .xy (ends.map some)) := by
    cbv
  have hcoords : ∀ c, shape.Has c ↔ c = nowhere ∨ c ∈ coords := fun c ↦ by
    rw [← Shape.mem_coords, ← List.mem_cons, show shape.coords = nowhere :: coords by
      decide +kernel]
  have hsame : SamePlaces (fun d ↦ ∃ c, shape.Has c ∧ c.map id id = d)
      (Shape.Has (.multiPoint .xy (ends.map some))) := by
    have hhas (d : Coord) : (Shape.multiPoint .xy (ends.map some)).Has d ↔ d ∈ ends := by
      rw [← Shape.mem_coords]
      rfl
    constructor
    · rintro _ ⟨c, hc, rfl⟩ hplaced
      rcases (hcoords c).mp hc with rfl | hc
      · exact absurd hplaced.1 (by decide +kernel)
      · obtain ⟨d, hd, hplace⟩ :=
          (by decide +kernel : ∀ c ∈ coords, ∃ d ∈ ends, d.SamePlace c) c hc
        exact ⟨d, (hhas d).mpr hd, hplace⟩
    · intro d hd _
      obtain ⟨c, hc, hplace⟩ :=
        (by decide +kernel : ∀ d ∈ ends, ∃ c ∈ coords, c.SamePlace d) d ((hhas d).mp hd)
      exact ⟨c, ⟨c, (hcoords c).mpr (Or.inr hc), rfl⟩, hplace⟩
  obtain ⟨b', hb', hcases⟩ :=
    hmoves _ _ id id hends Floating.keepsOrder_id Floating.keepsOrder_id hsame
  refine ⟨shape, b, hb, hleast, b', hb', hcases.resolve_left ?_⟩
  rintro ⟨rfl, -⟩
  exact hleast.isEmpty_iff.mp (by decide +kernel) ⟨⟨0⟩, ⟨0x4000000000000000⟩, [⟨0⟩]⟩
    ((hcoords _).mpr (by decide +kernel)) ⟨by decide +kernel, by decide +kernel⟩

end Trees

end Geometry

end ForeignLayer
