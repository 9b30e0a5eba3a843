import ForeignLayer.Predicate.Fold
import ForeignLayer.Proofs.Casts
import ForeignLayer.Proofs.LeastBoxes
import ForeignLayer.Proofs.StrictGeometries

/-!
# Constant envelopes are their boxes

An envelope is spelled out by two opposite corners, any two. It is made as a polygon with one ring
around the box of the corners, or as a point if the box is one, and both are valid: the ring has
five coordinates, and the last one is the first one again, however thin the box is. The bounds of
what was made are the box.

Around that go the constants. Every ordinate is a constant number of any type, read as a number of
64 bits; the tag is a constant integer of any type, and tags around others replace them.
-/

namespace ForeignLayer

open Number ForeignLayer.Geometry ForeignLayer.Geometry.Wkb

/-! ## Envelopes of boxes -/

namespace Box

/-- Whether all sides of a box are numbers. -/
structure IsNumeric (b : Box) : Prop where
  minX : b.minX.isNaN = false
  minY : b.minY.isNaN = false
  maxX : b.maxX.isNaN = false
  maxY : b.maxY.isNaN = false

variable {b : Box}

theorem IsNumeric.isEmpty_eq_false_iff (hb : b.IsNumeric) :
    b.isEmpty = false ↔ b.minX.key ≤ b.maxX.key ∧ b.minY.key ≤ b.maxY.key := by
  rw [Bool.eq_false_iff, Ne, isEmpty_iff, Floating.lt_iff, Floating.lt_iff]
  simp only [hb.minX, hb.maxX, hb.minY, hb.maxY, true_and]
  omega

theorem IsNumeric.spans (hb : b.IsNumeric) {P : Coord → Prop} (hlower : P ⟨b.minX, b.minY, []⟩)
    (hupper : P ⟨b.maxX, b.maxY, []⟩) (hcovers : ∀ c, P c → c.IsPlaced → b.Covers c) :
    b.Spans P where
  covers := hcovers
  left := ⟨_, hlower, ⟨hb.minX, hb.minY⟩, rfl⟩
  right := ⟨_, hupper, ⟨hb.maxX, hb.maxY⟩, rfl⟩
  bottom := ⟨_, hlower, ⟨hb.minX, hb.minY⟩, rfl⟩
  top := ⟨_, hupper, ⟨hb.maxX, hb.maxY⟩, rfl⟩

/-- The ring around a box. -/
def ring (b : Box) : List Coord :=
  [⟨b.minX, b.minY, []⟩, ⟨b.maxX, b.minY, []⟩, ⟨b.maxX, b.maxY, []⟩, ⟨b.minX, b.maxY, []⟩,
    ⟨b.minX, b.minY, []⟩]

theorem length_ring_lt (b : Box) : b.ring.length < 4294967296 := by
  simp only [ring, List.length_cons, List.length_nil]
  decide

theorem fits_ring (b : Box) : ∀ c ∈ b.ring, c.Fits .xy := by
  simp [ring, Coord.Fits, Dimensions.ordinates]

theorem IsNumeric.spans_ring (hb : b.IsNumeric) (hempty : b.isEmpty = false) :
    b.Spans (· ∈ b.ring) := by
  obtain ⟨hx, hy⟩ := hb.isEmpty_eq_false_iff.mp hempty
  have hlower : (⟨b.minX, b.minY, []⟩ : Coord) ∈ b.ring := List.mem_cons_self
  have hupper : (⟨b.maxX, b.maxY, []⟩ : Coord) ∈ b.ring :=
    List.mem_cons_of_mem _ (List.mem_cons_of_mem _ List.mem_cons_self)
  refine hb.spans hlower hupper fun c hc hplaced ↦ (covers_iff hplaced).mpr
    ⟨⟨hb.minX, hb.maxX, hb.minY, hb.maxY⟩, ?_⟩
  simp only [ring, List.mem_cons, List.not_mem_nil, or_false] at hc
  rcases hc with rfl | rfl | rfl | rfl | rfl <;> simp [hx, hy]

/-- The ring around a box is closed, and long enough for the thinnest one. -/
theorem IsNumeric.isClosedRing (hb : b.IsNumeric) : Shape.IsClosedRing b.ring :=
  ⟨Nat.le_succ 4, ⟨b.minX, b.minY, []⟩, ⟨b.minX, b.minY, []⟩, rfl, rfl, ⟨hb.minX, hb.minX, rfl⟩,
    ⟨hb.minY, hb.minY, rfl⟩⟩

end Box

namespace Geometry

variable {node : Node} {shape : Shape}

/-- What is written with headings of one style is written with headings of a freer one. -/
theorem written_mono {style style' : Heading.Style} (hstyles : ∀ h, style h → style' h)
    {tag : Option Srid} {bs : List UInt8} (h : Wkb.Written style node tag bs) :
    Wkb.Written style' node tag bs := by
  induction h with
  | point h ordinates hstyle hkind hordinates =>
    exact .point h ordinates (hstyles h hstyle) hkind hordinates
  | lineString h run hstyle hkind hrun => exact .lineString h run (hstyles h hstyle) hkind hrun
  | polygon h rings hstyle hkind hcount hrings =>
    exact .polygon h rings (hstyles h hstyle) hkind hcount hrings
  | collection h kind members hstyle hkind hcount _ ih =>
    exact .collection h kind members (hstyles h hstyle) hkind hcount ih

/-- What holds a strict shape is accepted as it. -/
theorem exists_ofBytes_of_holds {bs : List UInt8}
    (hwritten : Wkb.Written Heading.Plain node none bs) (hdepth : node.depth ≤ 64)
    (heven : node.IsEven) (hholds : node.Holds shape) (hstrict : shape.IsStrict) :
    ∃ g, ofBytes node.bytes = .ok g ∧ g.srid = none ∧ g.bounds = shape.bounds := by
  have hfree : Wkb.Written Heading.Free node none node.bytes := by
    have h : Wkb.Written Heading.Free node none bs := written_mono (fun _ _ ↦ trivial) hwritten
    rwa [hwritten.eq_encode] at h
  have hread := ofBytes_eq_ok_iff_written.mpr ⟨hfree, hdepth⟩
  have hshape := heven.isReadFaithfully hdepth hfree shape hholds
  let g : Geometry := ⟨node, shape, none, hread, hshape, (Shape.check_eq_ok shape).mpr hstrict⟩
  exact ⟨g.withSrid none, g.ofBytes_of_node hread, rfl, rfl⟩

/-- The heading of a plain geometry in the plane. -/
def planeHeading (kind : Kind) : Heading := ⟨.little, kind, .xy, .xy, none⟩

theorem exists_ofBytes_planePoint {x y : Double} (hx : x.isNaN = false) (hy : y.isNaN = false) :
    ∃ g, ofBytes (Node.planePoint x y).bytes = .ok g ∧ g.srid = none ∧
      g.bounds = ⟨x, y, x, y⟩ := by
  let c : Coord := ⟨x, y, []⟩
  have hcoord : pointOf c = some c := by
    rw [pointOf, hx, Bool.false_and, Bool.false_and, if_neg Bool.false_ne_true]
  have hholds : (Node.planePoint x y).Holds (.point .xy (some c)) :=
    hcoord ▸ .point .little .xy c rfl
  have hwritten : Wkb.Written Heading.Plain (Node.planePoint x y) none _ :=
    .point (planeHeading .point) (ordinateBytes .little c) ⟨rfl, rfl⟩ rfl
      (length_ordinateBytes (show c.Fits .xy from rfl))
  obtain ⟨g, hg, hsrid, hbounds⟩ := exists_ofBytes_of_holds hwritten (Nat.zero_le 64)
    (.point _ _ _) hholds ((Shape.check_eq_ok _).mp rfl)
  have hplaced : c.IsPlaced := ⟨hx, hy⟩
  exact ⟨g, hg, hsrid, hbounds.trans (Box.extend_empty hplaced)⟩

/-- A polygon in the plane is accepted if its rings are closed. -/
theorem exists_ofBytes_ofRings (rings : List (List Coord)) (hcount : rings.length < 4294967296)
    (hlengths : ∀ ring ∈ rings, ring.length < 4294967296)
    (hfits : ∀ ring ∈ rings, ∀ c ∈ ring, c.Fits .xy)
    (hclosed : ∀ ring ∈ rings, Shape.IsClosedRing ring) :
    ∃ g, ofBytes (Node.ofRings .xy rings).bytes = .ok g ∧ g.srid = none ∧
      g.bounds = (Shape.polygon .xy rings).bounds := by
  have hruns : ∀ r ∈ rings.map (Run.inOrder .little), r.Fits .xy := by
    intro r hr
    obtain ⟨ring, hring, rfl⟩ := List.mem_map.mp hr
    refine ⟨hlengths ring hring, ?_⟩
    rw [Run.inOrder, List.length_flatMap, List.map_congr_left fun c hc ↦
      length_ordinateBytes (hfits ring hring c hc), List.map_const', List.sum_replicate_nat]
  have hwritten : Wkb.Written Heading.Plain (Node.ofRings .xy rings) none _ :=
    .polygon (planeHeading .polygon) (rings.map (Run.inOrder .little)) ⟨rfl, rfl⟩ rfl
      (by rwa [List.length_map]) hruns
  exact exists_ofBytes_of_holds hwritten (Nat.zero_le 64) (.polygon _ _ _)
    (.polygon .little .xy rings hfits) (Shape.isStrict_polygon.mpr hclosed)

/-- What it means that a geometry without a tag is the envelope of a box. -/
structure IsEnvelopeOf (g : Geometry) (b : Box) : Prop where
  srid : g.srid = none
  bounds : b.isEmpty = false → g.bounds.equal b = true
  isEmpty : b.isEmpty = true → g.bounds.isEmpty = true

/-- **The envelope of every box is accepted, and the box is its bounds.** -/
theorem exists_ofBytes_ofBox {b : Box} (hb : b.IsNumeric) :
    ∃ g, ofBytes (Node.ofBox b).bytes = .ok g ∧ g.IsEnvelopeOf b := by
  unfold Node.ofBox
  by_cases hempty : b.isEmpty = true
  · rw [if_pos hempty]
    obtain ⟨g, hg, hsrid, hbounds⟩ := exists_ofBytes_ofRings [] (by decide) nofun nofun
      nofun
    refine ⟨g, hg, hsrid, fun h ↦ absurd hempty (h ▸ Bool.false_ne_true), fun _ ↦ ?_⟩
    rw [hbounds]
    decide +kernel
  rw [if_neg hempty]
  rw [Bool.not_eq_true] at hempty
  by_cases hpoint : (b.minX.equal b.maxX && b.minY.equal b.maxY) = true
  · rw [if_pos hpoint]
    obtain ⟨hx, hy⟩ := Bool.and_eq_true_iff.mp hpoint
    obtain ⟨g, hg, hsrid, hbounds⟩ := exists_ofBytes_planePoint hb.minX hb.minY
    refine ⟨g, hg, hsrid, fun _ ↦ ?_, fun h ↦ absurd h (hempty ▸ Bool.false_ne_true)⟩
    simp only [hbounds, Box.equal, hx, hy, Floating.equal_self hb.minX,
      Floating.equal_self hb.minY, Bool.and_self]
  · rw [if_neg hpoint]
    obtain ⟨g, hg, hsrid, hbounds⟩ := exists_ofBytes_ofRings [b.ring]
      (Nat.one_lt_succ_succ _) (List.forall_mem_singleton.mpr b.length_ring_lt)
      (List.forall_mem_singleton.mpr b.fits_ring) (List.forall_mem_singleton.mpr hb.isClosedRing)
    refine ⟨g, hg, hsrid, fun _ ↦ ?_, fun h ↦ absurd h (hempty ▸ Bool.false_ne_true)⟩
    have hcoords : (Shape.polygon .xy [b.ring]).Has = (· ∈ b.ring) := by
      funext c
      rw [← Shape.mem_coords, Shape.coords, List.flatten_singleton]
    rw [hbounds]
    exact Shape.bounds_equal (hcoords ▸ hb.spans_ring hempty)

end Geometry

/-! ## Constants -/

namespace Expr

/-- Whether an expression is a constant of a value: a literal, a bound placeholder, or a cast of
one. -/
inductive Denotes (bindings : Bindings) : Expr → Scalar → Prop
  | literal (value : Scalar) : Denotes bindings (.literal value) value
  | placeholder {id : String} {value : Scalar} (h : bindings.lookup id = some value) :
    Denotes bindings (.placeholder id) value
  | cast {e : Expr} {type : DataType} {value there : Scalar} (he : Denotes bindings e value)
    (h : value.cast type = .ok there) : Denotes bindings (.cast e type) there

variable {bindings : Bindings} {e : Expr} {value : Scalar}

theorem Denotes.exists_constant? (h : e.Denotes bindings value) :
    ∃ placeholder, e.constant? bindings = some ⟨value, placeholder⟩ := by
  induction h with
  | literal value => exact ⟨none, rfl⟩
  | placeholder h => exact ⟨some _, by rw [constant?, h, Option.map_some]⟩
  | cast he h ih =>
    obtain ⟨placeholder, hconstant⟩ := ih
    exact ⟨placeholder, by simp [constant?, hconstant, h, Except.toOption]⟩

/-- Whether an expression is a constant number, which is finite when it is read as one of 64
bits. -/
def IsNumber (bindings : Bindings) (e : Expr) (x : Double) : Prop :=
  ∃ value, e.Denotes bindings value ∧ value.type.isNumeric = true ∧
    value.cast .float64 = .ok (.of .float64 x) ∧ x.isFinite = true

/-- Whether an expression is a constant integer that fits into 32 bits. -/
def IsCode (bindings : Bindings) (e : Expr) (n : Int) : Prop :=
  ∃ value, e.Denotes bindings value ∧ value.integer? = some n ∧ -2147483648 ≤ n ∧ n ≤ 2147483647

theorem IsNumber.finite? {x : Double} (h : e.IsNumber bindings x) :
    e.finite? bindings = some x := by
  obtain ⟨value, hvalue, hnumeric, hcast, hfinite⟩ := h
  obtain ⟨placeholder, hconstant⟩ := hvalue.exists_constant?
  simp [Expr.finite?, hconstant, hnumeric, hcast, Except.toOption, Scalar.double?, Scalar.of,
    hfinite]

theorem IsCode.range {n : Int} (h : e.IsCode bindings n) : -2147483648 ≤ n ∧ n ≤ 2147483647 :=
  have ⟨_, _, _, hrange⟩ := h
  hrange

theorem IsNumber.isNaN {x : Double} (h : e.IsNumber bindings x) : x.isNaN = false :=
  have ⟨_, _, _, _, hfinite⟩ := h
  Floating.isNaN_of_isFinite hfinite

theorem IsCode.int32? {n : Int} (h : e.IsCode bindings n) : e.int32? bindings = some n := by
  obtain ⟨⟨type, word⟩, hvalue, hinteger, hlow, hhigh⟩ := h
  obtain ⟨placeholder, hconstant⟩ := hvalue.exists_constant?
  cases type with
  | integer signed width =>
    obtain ⟨v, rfl, rfl⟩ := Option.map_eq_some_iff.mp hinteger
    obtain ⟨w, hw, hwn⟩ := @Convert.exists_toWord true .w32 _ hlow hhigh
    have hcast := @Scalar.cast_word signed true width .w32 v
    rw [hw, Scalar.of] at hcast
    simp [Expr.int32?, hconstant, DataType.isInteger, hcast, Except.map, Except.toOption,
      Scalar.integer?, Scalar.of, hwn]
  | _ => cases hinteger

/-! ## Envelope expressions -/

/-- Whether an expression makes an envelope of two corners, and tags it last with a code, which is
zero if it does not tag it at all. -/
inductive IsEnvelope (bindings : Bindings) (x₀ y₀ x₁ y₁ : Double) : Expr → Int → Prop
  | plain {name : String} {volatility : Volatility} {a b c d : Expr}
    (hname : Text.lower name = "st_makeenvelope") (hvolatility : volatility ≠ .volatile)
    (ha : a.IsNumber bindings x₀) (hb : b.IsNumber bindings y₀) (hc : c.IsNumber bindings x₁)
    (hd : d.IsNumber bindings y₁) :
    IsEnvelope bindings x₀ y₀ x₁ y₁ (.call name volatility [a, b, c, d]) 0
  | tagged {name : String} {volatility : Volatility} {a b c d code : Expr} {n : Int}
    (hname : Text.lower name = "st_makeenvelope") (hvolatility : volatility ≠ .volatile)
    (ha : a.IsNumber bindings x₀) (hb : b.IsNumber bindings y₀) (hc : c.IsNumber bindings x₁)
    (hd : d.IsNumber bindings y₁) (hcode : code.IsCode bindings n) :
    IsEnvelope bindings x₀ y₀ x₁ y₁ (.call name volatility [a, b, c, d, code]) n
  | retagged {name : String} {volatility : Volatility} {e code : Expr} {m n : Int}
    (hname : Text.lower name = "st_setsrid") (hvolatility : volatility ≠ .volatile)
    (he : IsEnvelope bindings x₀ y₀ x₁ y₁ e m) (hcode : code.IsCode bindings n) :
    IsEnvelope bindings x₀ y₀ x₁ y₁ (.call name volatility [e, code]) n

end Expr

theorem isNumeric_ofCorners {x₀ y₀ x₁ y₁ : Double} (hx₀ : x₀.isNaN = false)
    (hy₀ : y₀.isNaN = false) (hx₁ : x₁.isNaN = false) (hy₁ : y₁.isNaN = false) :
    Box.IsNumeric ⟨x₀.min x₁, y₀.min y₁, x₀.max x₁, y₀.max y₁⟩ ∧
      Box.isEmpty ⟨x₀.min x₁, y₀.min y₁, x₀.max x₁, y₀.max y₁⟩ = false := by
  obtain ⟨hminX, hminXKey⟩ := Floating.key_min hx₀ hx₁
  obtain ⟨hmaxX, hmaxXKey⟩ := Floating.key_max hx₀ hx₁
  obtain ⟨hminY, hminYKey⟩ := Floating.key_min hy₀ hy₁
  obtain ⟨hmaxY, hmaxYKey⟩ := Floating.key_max hy₀ hy₁
  have hnumeric : Box.IsNumeric ⟨x₀.min x₁, y₀.min y₁, x₀.max x₁, y₀.max y₁⟩ :=
    ⟨hminX, hminY, hmaxX, hmaxY⟩
  refine ⟨hnumeric, hnumeric.isEmpty_eq_false_iff.mpr ?_⟩
  dsimp only
  omega

namespace GeometryMaker

/-- The tag of a code is the code, unless it is zero. -/
theorem toInt_tagOf {n : Int} (hlow : -2147483648 ≤ n) (hhigh : n ≤ 2147483647) :
    (tagOf n).map Srid.toInt = if n = 0 then none else some n := by
  have hn : (BitVec.ofInt 32 n).toInt = n :=
    BitVec.toInt_ofInt_eq_self (by decide) (by omega) (by omega)
  by_cases h : n = 0
  · subst h
    rfl
  · have hcode : BitVec.ofInt 32 n ≠ 0#32 := by
      intro hzero
      rw [hzero] at hn
      exact h hn.symm
    rw [if_neg h, tagOf, Srid.ofCode?, dif_neg hcode, Option.map_some, Srid.toInt, hn]

variable {bindings : Bindings} {a b c d : Expr} {x₀ y₀ x₁ y₁ : Double}

theorem exists_make?_envelope (ha : a.IsNumber bindings x₀) (hb : b.IsNumber bindings y₀)
    (hc : c.IsNumber bindings x₁) (hd : d.IsNumber bindings y₁) (rest : List Expr) :
    ∃ g, envelope.make? bindings (a :: b :: c :: d :: rest) = .ok (some g) ∧ g.srid = none ∧
      g.bounds.equal ⟨x₀.min x₁, y₀.min y₁, x₀.max x₁, y₀.max y₁⟩ = true := by
  obtain ⟨hnumeric, hnonempty⟩ := isNumeric_ofCorners ha.isNaN hb.isNaN hc.isNaN hd.isNaN
  obtain ⟨g, hg, henvelope⟩ := Geometry.exists_ofBytes_ofBox hnumeric
  refine ⟨g, ?_, henvelope.srid, henvelope.bounds hnonempty⟩
  simp only [make?, ha.finite?, hb.finite?, hc.finite?, hd.finite?, hg]
  rfl

end GeometryMaker

namespace Expr

variable {bindings : Bindings} {e : Expr} {x₀ y₀ x₁ y₁ : Double} {n : Int}

/-- **A constant envelope is the box of its corners**, and its tag is the outermost one. -/
theorem IsEnvelope.exists_geometry? (h : e.IsEnvelope bindings x₀ y₀ x₁ y₁ n) :
    ∃ g, e.geometry? bindings = .ok (some g) ∧
      g.bounds.equal ⟨x₀.min x₁, y₀.min y₁, x₀.max x₁, y₀.max y₁⟩ = true ∧
      g.srid = GeometryMaker.tagOf n ∧ -2147483648 ≤ n ∧ n ≤ 2147483647 := by
  have hmaker {name : String} (hname : Text.lower name = "st_makeenvelope") :
      Text.lower name ≠ tagFunction ∧ GeometryMaker.ofName? name = some .envelope := by
    rw [GeometryMaker.ofName?, hname]
    exact ⟨by decide, rfl⟩
  induction h with
  | plain hname hvolatility ha hb hc hd =>
    obtain ⟨hne, hofName⟩ := hmaker hname
    obtain ⟨g, hg, hsrid, hbounds⟩ := GeometryMaker.exists_make?_envelope ha hb hc hd []
    refine ⟨g, ?_, hbounds, hsrid, by decide, by decide⟩
    rw [Expr.geometry?, if_neg hvolatility, if_neg hne]
    simp only [hofName, GeometryMaker.makeTagged?, hg]
    rfl
  | @tagged _ _ _ _ _ _ code n hname hvolatility ha hb hc hd hcode =>
    obtain ⟨hne, hofName⟩ := hmaker hname
    obtain ⟨g, hg, hsrid, hbounds⟩ := GeometryMaker.exists_make?_envelope ha hb hc hd [code]
    refine ⟨g.withSrid (GeometryMaker.tagOf n), ?_, hbounds, rfl, hcode.range⟩
    rw [Expr.geometry?, if_neg hvolatility, if_neg hne]
    have harg {a b c d : Expr} :
        [a, b, c, d, code][GeometryMaker.envelope.arity]? = some code := rfl
    simp only [hofName, GeometryMaker.makeTagged?, hg, harg, hcode.int32?, bind, Except.bind]
    rfl
  | @retagged _ _ _ _ _ n hname hvolatility he hcode ih =>
    obtain ⟨g, hg, hbounds, -⟩ := ih
    refine ⟨g.withSrid (GeometryMaker.tagOf n), ?_, hbounds, rfl, hcode.range⟩
    rw [Expr.geometry?, if_neg hvolatility, tagFunction, if_pos hname]
    simp only [hcode.int32?, hg]
    rfl

/-- **Constant envelopes are their boxes.** Whatever two opposite corners are given, by whatever
constants, the geometry has the box of the corners for bounds, and its tag is the outermost code.
That is because the envelope of every box of numbers is accepted with that box for bounds. -/
theorem envelope_bounds :
    (∀ (bindings : Bindings) (e : Expr) (x₀ y₀ x₁ y₁ : Double) (n : Int),
      e.IsEnvelope bindings x₀ y₀ x₁ y₁ n → ∃ g, e.geometry? bindings = .ok (some g) ∧
        g.bounds.equal ⟨x₀.min x₁, y₀.min y₁, x₀.max x₁, y₀.max y₁⟩ = true ∧
        g.srid.map Srid.toInt = if n = 0 then none else some n) ∧
    ∀ b : Box, b.IsNumeric →
      ∃ g, Geometry.ofBytes (Node.ofBox b).bytes = .ok g ∧ g.IsEnvelopeOf b := by
  refine ⟨fun bindings e x₀ y₀ x₁ y₁ n h ↦ ?_, fun b ↦ Geometry.exists_ofBytes_ofBox⟩
  obtain ⟨g, hg, hbounds, hsrid, hlow, hhigh⟩ := h.exists_geometry?
  exact ⟨g, hg, hbounds, hsrid ▸ GeometryMaker.toInt_tagOf hlow hhigh⟩

theorem envelope_bounds_thin :
    let bindings : Bindings := [("1", .of .int64 3)]
    let three : Expr := .cast (.placeholder "1") .float64
    let envelope : Expr := .call "ST_MakeEnvelope" .immutable
      [three, .literal (.of (.integer false .w8) 5), .literal (.of .float32 ⟨0x40400000⟩),
        .literal (.of .int32 1), .literal (.of .int64 4326)]
    let tagged : Expr := .call "st_setsrid" .stable [envelope, .literal (.of .int32 (-7))]
    (∃ g, tagged.geometry? bindings = .ok (some g) ∧
      g.bounds.equal ⟨.ofInt 3, .ofInt 1, .ofInt 3, .ofInt 5⟩ = true ∧
      g.srid.map Srid.toInt = some (-7)) ∧
    ∃ g, Geometry.ofBytes (Node.ofBox .empty).bytes = .ok g ∧ g.bounds.isEmpty = true := by
  intro bindings three envelope tagged
  have hcast : (Scalar.of .int64 3).cast .float64 = .ok (.of .float64 (.ofInt 3)) := by rfl
  have hthree : three.IsNumber bindings (.ofInt 3) :=
    ⟨_, .cast (.placeholder rfl) hcast, rfl, by rfl, by decide +kernel⟩
  have hfive : (literal (.of (.integer false .w8) 5)).IsNumber bindings (.ofInt 5) :=
    ⟨_, .literal _, rfl, by rfl, by decide +kernel⟩
  have hsingle : (literal (.of .float32 ⟨0x40400000⟩)).IsNumber bindings (.ofInt 3) :=
    ⟨_, .literal _, rfl, by rfl, by decide +kernel⟩
  have hone : (literal (.of .int32 1)).IsNumber bindings (.ofInt 1) :=
    ⟨_, .literal _, rfl, by rfl, by decide +kernel⟩
  have hcode : (literal (.of .int64 4326)).IsCode bindings 4326 :=
    ⟨_, .literal _, rfl, by decide, by decide⟩
  have houter : (literal (.of .int32 (-7))).IsCode bindings (-7) :=
    ⟨_, .literal _, rfl, by decide, by decide⟩
  have henvelope : envelope.IsEnvelope bindings (.ofInt 3) (.ofInt 5) (.ofInt 3) (.ofInt 1) 4326 :=
    .tagged (by decide +kernel) nofun hthree hfive hsingle hone hcode
  have hcorners : (⟨Floating.min (.ofInt 3) (.ofInt 3), Floating.min (.ofInt 5) (.ofInt 1),
      Floating.max (.ofInt 3) (.ofInt 3), Floating.max (.ofInt 5) (.ofInt 1)⟩ : Box) =
      ⟨.ofInt 3, .ofInt 1, .ofInt 3, .ofInt 5⟩ := by decide +kernel
  have htagged : tagged.IsEnvelope bindings (.ofInt 3) (.ofInt 5) (.ofInt 3) (.ofInt 1) (-7) :=
    .retagged (by decide +kernel) nofun henvelope houter
  obtain ⟨g, hg, hbounds, hsrid⟩ := envelope_bounds.1 bindings _ _ _ _ _ _ htagged
  have hempty : Box.empty.IsNumeric :=
    ⟨by decide +kernel, by decide +kernel, by decide +kernel, by decide +kernel⟩
  obtain ⟨nothing, hnothing, hnone⟩ := envelope_bounds.2 .empty hempty
  exact ⟨⟨g, hg, hcorners ▸ hbounds, hsrid⟩, nothing, hnothing,
    hnone.isEmpty (by decide +kernel)⟩

end Expr

end ForeignLayer
