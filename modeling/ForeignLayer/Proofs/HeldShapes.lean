import ForeignLayer.Geometry.Value
import ForeignLayer.Proofs.WkbFraming

/-!
# The shapes that trees hold

A tree leaves the ordinates as they are written, in the byte order of the geometry they belong to.
Here is what they say: the shape that a tree holds, with one rule for every kind of geometry. Every
tree whose multi geometries have members of the one kind that they are named for holds a shape.

Coordinates are read by another reader than trees, one that lays the members of a multi geometry
out by the outer header alone. It decodes a tree faithfully if it reads the shape that the tree
holds, and it does so whenever the members of every multi geometry are written in the byte order and
the dimensions of the whole. Collections may mix both, since their members are read by their own
headers.
-/

namespace ForeignLayer.Geometry

/-- Whether a coordinate has the ordinates that dimensions name. -/
def Coord.Fits (dims : Dimensions) (c : Coord) : Prop := c.more.length + 2 = dims.ordinates

theorem Dimensions.two_le_ordinates (dims : Dimensions) : 2 ≤ dims.ordinates := by
  cases dims <;> decide

namespace Wkb

open Bytes Number

-- Powers are the core library's, whichever other instances are in scope.
attribute [local instance (high)] instPowNat

/-! ## Ordinates -/

/-- The bytes of numbers in a byte order. -/
def numberBytes (order : Order) (xs : List Double) : List UInt8 :=
  xs.flatMap fun x ↦ order.encode 8 x.bits.toNat

/-- The bytes of a coordinate in a byte order. -/
def ordinateBytes (order : Order) (c : Coord) : List UInt8 :=
  numberBytes order (c.x :: c.y :: c.more)

/-- The run of some coordinates in a byte order. -/
def Run.inOrder (order : Order) (cs : List Coord) : Run :=
  ⟨cs.length, cs.flatMap (ordinateBytes order)⟩

theorem length_numberBytes (order : Order) (xs : List Double) :
    (numberBytes order xs).length = 8 * xs.length := by
  induction xs with
  | nil => rfl
  | cons x xs ih =>
    rw [numberBytes, List.flatMap_cons, List.length_append, Order.length_encode, List.length_cons]
    rw [numberBytes] at ih
    omega

theorem length_ordinateBytes {order : Order} {dims : Dimensions} {c : Coord}
    (hc : c.Fits dims) : (ordinateBytes order c).length = 8 * dims.ordinates := by
  rw [ordinateBytes, length_numberBytes, List.length_cons, List.length_cons, ← hc]

/-- The number that a word stands for. -/
def numberOf (word : Nat) : Double := ⟨BitVec.ofNat 64 word⟩

theorem toNat_numberOf {word : Nat} (h : word < 256 ^ 8) : (numberOf word).bits.toNat = word :=
  Nat.mod_eq_of_lt h

theorem numberOf_toNat (x : Double) : numberOf x.bits.toNat = x :=
  congrArg Floating.mk (BitVec.eq_of_toNat_eq (Nat.mod_eq_of_lt x.bits.isLt))

theorem exists_numberBytes (order : Order) {n : Nat} {bs : List UInt8} (h : bs.length = 8 * n) :
    ∃ xs, xs.length = n ∧ bs = numberBytes order xs := by
  induction n generalizing bs with
  | zero => exact ⟨[], rfl, List.eq_nil_of_length_eq_zero h⟩
  | succ n ih =>
    have hothers : (bs.drop 8).length = 8 * n := by rw [List.length_drop]; omega
    have hlength : (bs.take 8).length = 8 := by rw [List.length_take]; omega
    obtain ⟨xs, hxs, hrest⟩ := ih hothers
    have hlt := order.decode_lt (bs.take 8)
    have hword := order.encode_decode (bs.take 8)
    rw [hlength] at hlt hword
    refine ⟨numberOf (order.decode (bs.take 8)) :: xs, congrArg (· + 1) hxs, ?_⟩
    rw [numberBytes, List.flatMap_cons, toNat_numberOf hlt, hword, ← numberBytes, ← hrest,
      List.take_append_drop]

theorem exists_ordinateBytes (order : Order) {dims : Dimensions} {bs : List UInt8}
    (h : bs.length = 8 * dims.ordinates) :
    ∃ c, c.Fits dims ∧ bs = ordinateBytes order c := by
  obtain ⟨xs, hxs, rfl⟩ := exists_numberBytes order h
  have htwo := dims.two_le_ordinates
  match xs, hxs with
  | [], hxs | [_], hxs =>
    simp only [List.length_nil, List.length_cons] at hxs
    omega
  | x :: y :: more, hxs => exact ⟨⟨x, y, more⟩, hxs, rfl⟩

/-- A run of the right length is one of coordinates. -/
theorem Run.Fits.exists_inOrder (order : Order) {dims : Dimensions} {r : Run} (h : r.Fits dims) :
    ∃ cs, (∀ c ∈ cs, c.Fits dims) ∧ r = Run.inOrder order cs := by
  obtain ⟨count, ordinates⟩ := r
  have hlength : ordinates.length = count * (8 * dims.ordinates) := h.ordinates
  clear h
  induction count generalizing ordinates with
  | zero =>
    rw [Nat.zero_mul] at hlength
    obtain rfl := List.eq_nil_of_length_eq_zero hlength
    exact ⟨[], fun c hc ↦ absurd hc List.not_mem_nil, rfl⟩
  | succ count ih =>
    rw [Nat.add_mul, Nat.one_mul] at hlength
    have hlength' : (ordinates.take (8 * dims.ordinates)).length = 8 * dims.ordinates := by
      rw [List.length_take]
      omega
    obtain ⟨c, hc, hfirst⟩ := exists_ordinateBytes order hlength'
    obtain ⟨cs, hcs, hrest⟩ := ih (ordinates.drop (8 * dims.ordinates))
      (by rw [List.length_drop]; omega)
    obtain ⟨rfl, hordinates⟩ := Run.mk.inj hrest
    refine ⟨c :: cs, List.forall_mem_cons.mpr ⟨hc, hcs⟩, ?_⟩
    rw [Run.inOrder, List.flatMap_cons, ← hfirst, ← hordinates, List.take_append_drop]
    rfl

/-! ## What trees hold -/

/-- Whether a tree holds a shape. -/
inductive Node.Holds : Node → Shape → Prop
  | point (order : Order) (dims : Dimensions) (c : Coord) (hc : c.Fits dims) :
    Holds (.point order dims (ordinateBytes order c)) (.point dims (pointOf c))
  | lineString (order : Order) (dims : Dimensions) (cs : List Coord)
    (hcs : ∀ c ∈ cs, c.Fits dims) :
    Holds (.lineString order dims (.inOrder order cs)) (.lineString dims cs)
  | polygon (order : Order) (dims : Dimensions) (rings : List (List Coord))
    (hrings : ∀ ring ∈ rings, ∀ c ∈ ring, c.Fits dims) :
    Holds (.polygon order dims (rings.map (Run.inOrder order))) (.polygon dims rings)
  | multiPoint (order : Order) (dims : Dimensions)
    (members : List (Node × Dimensions × Option Coord))
    (hmembers : ∀ m ∈ members, Holds m.1 (.point m.2.1 m.2.2)) :
    Holds (.collection order dims .multiPoint (members.map fun m ↦ m.1))
      (.multiPoint dims (members.map fun m ↦ m.2.2))
  | multiLineString (order : Order) (dims : Dimensions)
    (members : List (Node × Dimensions × List Coord))
    (hmembers : ∀ m ∈ members, Holds m.1 (.lineString m.2.1 m.2.2)) :
    Holds (.collection order dims .multiLineString (members.map fun m ↦ m.1))
      (.multiLineString dims (members.map fun m ↦ m.2.2))
  | multiPolygon (order : Order) (dims : Dimensions)
    (members : List (Node × Dimensions × List (List Coord)))
    (hmembers : ∀ m ∈ members, Holds m.1 (.polygon m.2.1 m.2.2)) :
    Holds (.collection order dims .multiPolygon (members.map fun m ↦ m.1))
      (.multiPolygon dims (members.map fun m ↦ m.2.2))
  | collection (order : Order) (dims : Dimensions) (members : List (Node × Shape))
    (hmembers : ∀ m ∈ members, Holds m.1 m.2) :
    Holds (.collection order dims .geometryCollection (members.map fun m ↦ m.1))
      (.collection dims (members.map fun m ↦ m.2))

/-- The one kind of the members of a multi geometry. -/
def CollectionKind.part? : CollectionKind → Option Kind
  | multiPoint => some .point
  | multiLineString => some .lineString
  | multiPolygon => some .polygon
  | geometryCollection => none

/-- Whether all multi geometries of a tree have members of their own kind. -/
inductive Node.IsProper : Node → Prop
  | point (order : Order) (dims : Dimensions) (ordinates : List UInt8) :
    IsProper (.point order dims ordinates)
  | lineString (order : Order) (dims : Dimensions) (run : Run) :
    IsProper (.lineString order dims run)
  | polygon (order : Order) (dims : Dimensions) (rings : List Run) :
    IsProper (.polygon order dims rings)
  | collection (order : Order) (dims : Dimensions) (kind : CollectionKind) (members : List Node)
    (hkind : ∀ part, kind.part? = some part → ∀ m ∈ members, m.kind = part)
    (hmembers : ∀ m ∈ members, IsProper m) : IsProper (.collection order dims kind members)

section Pieces

variable {α β γ : Type}

/-- Things that each have a counterpart, as a list with the counterparts. -/
theorem exists_pieces {P : α → β → Prop} {xs : List α} (h : ∀ x ∈ xs, ∃ y, P x y) :
    ∃ pieces : List (α × β), xs = pieces.map (fun p ↦ p.1) ∧ ∀ p ∈ pieces, P p.1 p.2 := by
  induction xs with
  | nil => exact ⟨[], rfl, fun p hp ↦ absurd hp List.not_mem_nil⟩
  | cons x xs ih =>
    obtain ⟨⟨y, hxy⟩, hothers⟩ := List.forall_mem_cons.mp h
    obtain ⟨pieces, rfl, hpieces⟩ := ih hothers
    exact ⟨(x, y) :: pieces, rfl, List.forall_mem_cons.mpr ⟨hxy, hpieces⟩⟩

end Pieces

namespace Node.Holds

variable {node : Node} {shape : Shape}

theorem exists_point (h : node.Holds shape) (hkind : node.kind = .point) :
    ∃ p : Dimensions × Option Coord, node.Holds (.point p.1 p.2) := by
  cases h with
  | point order dims c hc => exact ⟨⟨_, _⟩, .point order dims c hc⟩
  | _ => cases hkind

theorem exists_lineString (h : node.Holds shape) (hkind : node.kind = .lineString) :
    ∃ p : Dimensions × List Coord, node.Holds (.lineString p.1 p.2) := by
  cases h with
  | lineString order dims cs hcs => exact ⟨⟨_, _⟩, .lineString order dims cs hcs⟩
  | _ => cases hkind

theorem exists_polygon (h : node.Holds shape) (hkind : node.kind = .polygon) :
    ∃ p : Dimensions × List (List Coord), node.Holds (.polygon p.1 p.2) := by
  cases h with
  | polygon order dims rings hrings => exact ⟨⟨_, _⟩, .polygon order dims rings hrings⟩
  | _ => cases hkind

end Node.Holds

/-- **Every proper tree holds a shape.** -/
theorem Node.IsProper.exists_holds {node : Node} (hproper : node.IsProper) {style : Heading.Style}
    {tag : Option Srid} {bs : List UInt8} (h : Written style node tag bs) :
    ∃ shape, node.Holds shape := by
  induction h with
  | point h ordinates hstyle hkind hordinates =>
    obtain ⟨c, hc, rfl⟩ := exists_ordinateBytes h.order hordinates
    exact ⟨_, .point _ _ c hc⟩
  | lineString h run hstyle hkind hrun =>
    obtain ⟨cs, hcs, rfl⟩ := hrun.exists_inOrder h.order
    exact ⟨_, .lineString _ _ cs hcs⟩
  | polygon h rings hstyle hkind hcount hrings =>
    obtain ⟨pieces, rfl, hpieces⟩ := exists_pieces fun r hr ↦ (hrings r hr).exists_inOrder h.order
    have hruns : pieces.map (fun p ↦ p.1) = (pieces.map fun p ↦ p.2).map (Run.inOrder h.order) := by
      rw [List.map_map]
      exact List.map_congr_left fun p hp ↦ (hpieces p hp).2
    rw [hruns]
    refine ⟨_, .polygon _ _ _ fun ring hring ↦ ?_⟩
    obtain ⟨p, hp, rfl⟩ := List.mem_map.mp hring
    exact (hpieces p hp).1
  | collection h kind members hstyle hkind hcount hmembers ih =>
    cases hproper with
    | collection order dims kind nodes hparts hproper =>
    have hheld : ∀ node ∈ members.map fun m ↦ m.1, ∃ shape, node.Holds shape := by
      intro node hnode
      obtain ⟨m, hm, rfl⟩ := List.mem_map.mp hnode
      exact ih m hm (hproper _ hnode)
    cases kind with
    | multiPoint =>
      obtain ⟨pieces, hpieces, hholds⟩ := exists_pieces fun node hnode ↦
        (hheld node hnode).choose_spec.exists_point (hparts _ rfl node hnode)
      rw [hpieces]
      exact ⟨_, .multiPoint _ _ pieces hholds⟩
    | multiLineString =>
      obtain ⟨pieces, hpieces, hholds⟩ := exists_pieces fun node hnode ↦
        (hheld node hnode).choose_spec.exists_lineString (hparts _ rfl node hnode)
      rw [hpieces]
      exact ⟨_, .multiLineString _ _ pieces hholds⟩
    | multiPolygon =>
      obtain ⟨pieces, hpieces, hholds⟩ := exists_pieces fun node hnode ↦
        (hheld node hnode).choose_spec.exists_polygon (hparts _ rfl node hnode)
      rw [hpieces]
      exact ⟨_, .multiPolygon _ _ pieces hholds⟩
    | geometryCollection =>
      obtain ⟨pieces, hpieces, hholds⟩ := exists_pieces hheld
      rw [hpieces]
      exact ⟨_, .collection _ _ pieces hholds⟩

/-! ## Reading over bytes -/

section Reads

variable {α β : Type}

/-- Whether a reader reads a value over bytes, whatever follows them. -/
def Reads (r : Reader α) (a : α) (bs : List UInt8) : Prop :=
  ∀ offset rest, r ⟨offset, bs ++ rest⟩ = .ok (a, ⟨offset + bs.length, rest⟩)

theorem Recognizes.reads {r : Reader α} {P : α → List UInt8 → Prop} (hr : Recognizes r P) {a : α}
    {bs : List UInt8} (h : P a bs) : Reads r a bs :=
  fun _ _ ↦ (hr _ _ _).mpr ⟨bs, h, rfl, rfl⟩

namespace Reads

variable {r : Reader α} {a : α} {b : β} {bs bs' : List UInt8}

theorem pure (a : α) : Reads (Pure.pure a : Reader α) a [] := fun _ _ ↦ rfl

theorem bind {f : α → Reader β} (hr : Reads r a bs) (hf : Reads (f a) b bs') :
    Reads (r >>= f) b (bs ++ bs') := by
  intro offset rest
  have hrun : (r >>= f) ⟨offset, bs ++ bs' ++ rest⟩ =
      (r ⟨offset, bs ++ bs' ++ rest⟩).bind fun p ↦ f p.1 p.2 := rfl
  rw [hrun, List.append_assoc, hr offset (bs' ++ rest), Except.bind, hf, List.length_append,
    Nat.add_assoc]

theorem map (f : α → β) (hr : Reads r a bs) : Reads (f <$> r) (f a) bs := by
  have h := hr.bind (f := fun a ↦ (Pure.pure (f a) : Reader β)) (pure (f a))
  rwa [List.append_nil] at h

theorem seqRight {r' : Reader β} (hr : Reads r a bs) (hr' : Reads r' b bs') :
    Reads (r *> r') b (bs ++ bs') :=
  hr.bind (f := fun _ ↦ r') hr'

theorem takeMany {γ : Type} {part : Reader α} (value : γ → α) {bytes : γ → List UInt8}
    {items : List γ} (h : ∀ item ∈ items, Reads part (value item) (bytes item)) :
    Reads (takeMany part items.length) (items.map value) (items.flatMap bytes) := by
  induction items with
  | nil => exact pure []
  | cons item items ih =>
    obtain ⟨hfirst, hothers⟩ := List.forall_mem_cons.mp h
    rw [List.flatMap_cons, ← List.append_nil (items.flatMap bytes)]
    exact hfirst.bind ((ih hothers).bind (pure _))

theorem counted {γ : Type} {part : Reader α} (value : γ → α) {bytes : γ → List UInt8}
    {items : List γ} (order : Order) (hcount : items.length < 4294967296)
    (h : ∀ item ∈ items, Reads part (value item) (bytes item)) :
    Reads (readCounted order part) (items.map value)
      (order.encode 4 items.length ++ items.flatMap bytes) :=
  ((recognizes_takeWord order 4).reads ⟨hcount, rfl⟩).bind (takeMany value h)

end Reads

end Reads

/-! ## Coordinates -/

theorem reads_coord (order : Order) {dims : Dimensions} {c : Coord} (hc : c.Fits dims) :
    Reads (readCoord order dims) c (ordinateBytes order c) := by
  have hnumber : ∀ x : Double, Reads (numberOf <$> takeWord order 8) x
      (order.encode 8 x.bits.toNat) := by
    intro x
    have hword := (recognizes_takeWord order 8).reads (a := x.bits.toNat) ⟨x.bits.isLt, rfl⟩
    have hread := hword.map numberOf
    rwa [numberOf_toNat] at hread
  have hmore : Reads (takeMany (numberOf <$> takeWord order 8) c.more.length) (c.more.map id)
      (c.more.flatMap fun x ↦ order.encode 8 x.bits.toNat) :=
    Reads.takeMany id fun x _ ↦ hnumber x
  rw [List.map_id, show c.more.length = dims.ordinates - 2 by rw [← hc]; omega] at hmore
  rw [ordinateBytes, numberBytes, List.flatMap_cons, List.flatMap_cons,
    ← List.append_nil (c.more.flatMap _)]
  exact (hnumber c.x).bind ((hnumber c.y).bind (hmore.bind (Reads.pure c)))

theorem reads_coords (order : Order) {dims : Dimensions} {cs : List Coord}
    (hcount : cs.length < 4294967296) (hcs : ∀ c ∈ cs, c.Fits dims) :
    Reads (readCoords order dims) cs ((Run.inOrder order cs).encode order) := by
  have hread := Reads.counted id order hcount fun c hc ↦ reads_coord order (hcs c hc)
  rwa [List.map_id] at hread

theorem reads_rings (order : Order) {dims : Dimensions} {rings : List (List Coord)}
    (hcount : rings.length < 4294967296)
    (hrings : ∀ ring ∈ rings, ring.length < 4294967296 ∧ ∀ c ∈ ring, c.Fits dims) :
    Reads (readRings order dims) rings
      (order.encode 4 rings.length ++
        rings.flatMap fun ring ↦ (Run.inOrder order ring).encode order) := by
  have hread := Reads.counted id order hcount fun ring hring ↦
    reads_coords order (hrings ring hring).1 (hrings ring hring).2
  rwa [List.map_id] at hread

/-! ## Headers without high bits -/

/-- The code of a header without high bits. -/
def isoCode (kind : Kind) (dims : Dimensions) : Nat := TypeCode.encode .iso ⟨kind, dims, false⟩

/-- What the reader of coordinates takes from a code without high bits. -/
theorem layout_isoCode (kind : Kind) (dims : Dimensions) :
    isoCode kind dims < 256 ^ 4 ∧ isoCode kind dims % 8 = kind.code ∧
      Layout.dimsOfCode (isoCode kind dims) = dims ∧
      Layout.hasTag (isoCode kind dims) = false := by
  cases kind <;> cases dims <;> decide

theorem encode_iso (h : Header) : Header.encode .iso h =
    [h.order.mark] ++ (h.order.encode 4 (isoCode h.kind h.dims) ++ []) := rfl

/-- A header without high bits is read as what it says. -/
theorem reads_layout (h : Header) :
    Reads Layout.read ⟨h.order, h.kind.code, h.dims⟩ (Header.encode .iso h) := by
  obtain ⟨hlt, hkind, hdims, htag⟩ := layout_isoCode h.kind h.dims
  rw [encode_iso]
  refine (recognizes_takeOrder.reads rfl).bind
    (((recognizes_takeWord h.order 4).reads ⟨hlt, rfl⟩).bind ?_)
  simp only [htag, hkind, hdims, Bool.false_eq_true, if_false]
  exact Reads.pure _

/-- A header without high bits is stepped over by those who know its byte order. -/
theorem reads_skipMemberHeader (h : Header) :
    Reads (skipMemberHeader h.order) () (Header.encode .iso h) := by
  obtain ⟨hlt, -, -, htag⟩ := layout_isoCode h.kind h.dims
  rw [encode_iso]
  refine (recognizes_takeByte.reads rfl).map (fun _ ↦ ()) |>.bind
    (((recognizes_takeWord h.order 4).reads ⟨hlt, rfl⟩).bind ?_)
  simp only [htag, Bool.false_eq_true, if_false]
  exact Reads.pure ()

/-- A point of a multi point, of which it has the byte order. -/
theorem reads_memberPoint (h : Header) {dims : Dimensions} {c : Coord} (hc : c.Fits dims) :
    Reads (readMemberPoint h.order dims) (pointOf c)
      (Header.encode .iso h ++ ordinateBytes h.order c) := by
  intro offset rest
  have hread := (reads_skipMemberHeader h).seqRight (reads_coord h.order hc) offset rest
  have hlength : (Header.encode .iso h ++ ordinateBytes h.order c).length =
      5 + 8 * dims.ordinates := by
    rw [List.length_append, Header.length_encode, length_ordinateBytes hc]
    rfl
  -- the next point is looked for where the bytes of this one end
  have hskip := (recognizes_take _).reads ⟨hlength, rfl⟩ offset rest
  have hrun : readMemberPoint h.order dims
      ⟨offset, Header.encode .iso h ++ ordinateBytes h.order c ++ rest⟩ =
      ((skipMemberHeader h.order *> readCoord h.order dims)
        ⟨offset, Header.encode .iso h ++ ordinateBytes h.order c ++ rest⟩).bind fun p ↦
      (take (5 + 8 * dims.ordinates)
        ⟨offset, Header.encode .iso h ++ ordinateBytes h.order c ++ rest⟩).bind fun q ↦
      .ok (pointOf p.1, q.2) := rfl
  rw [hrun, hread, Except.bind, hskip, Except.bind]

/-! ## Shapes -/

/-- A shape is read by the kind that its header says. -/
theorem Node.reads_shape {collection : Layout → Reader Shape} {node : Node} {shape : Shape}
    (hbody : Reads (match node.kind.code with
      | 1 => (.point node.dims ∘ pointOf) <$> readCoord node.order node.dims
      | 2 => .lineString node.dims <$> readCoords node.order node.dims
      | 3 => .polygon node.dims <$> readRings node.order node.dims
      | 4 => .multiPoint node.dims <$> readCounted node.order (readMemberPoint node.order node.dims)
      | 5 => .multiLineString node.dims <$>
          readCounted node.order (skipMemberHeader node.order *> readCoords node.order node.dims)
      | 6 => .multiPolygon node.dims <$>
          readCounted node.order (skipMemberHeader node.order *> readRings node.order node.dims)
      | 7 => collection ⟨node.order, node.kind.code, node.dims⟩
      | _ => throw .unreadable) shape (node.encodeBody .iso)) :
    Reads (readShape collection) shape node.bytes := by
  rw [bytes, encode_eq]
  exact (reads_layout (node.header none)).bind hbody

/-- Whether the members of all multi geometries of a tree are written in the byte order and the
dimensions of the whole. -/
inductive Node.IsEven : Node → Prop
  | point (order : Order) (dims : Dimensions) (ordinates : List UInt8) :
    IsEven (.point order dims ordinates)
  | lineString (order : Order) (dims : Dimensions) (run : Run) :
    IsEven (.lineString order dims run)
  | polygon (order : Order) (dims : Dimensions) (rings : List Run) :
    IsEven (.polygon order dims rings)
  | collection (order : Order) (dims : Dimensions) (kind : CollectionKind) (members : List Node)
    (hkind : kind.part? ≠ none → ∀ m ∈ members, m.order = order ∧ m.dims = dims)
    (hmembers : ∀ m ∈ members, IsEven m) : IsEven (.collection order dims kind members)

section Counts

variable {style : Heading.Style} {tag : Option Srid} {bs : List UInt8} {order : Order}
  {dims : Dimensions}

theorem Written.of_lineString {run : Run} (h : Written style (.lineString order dims run) tag bs) :
    run.Fits dims := by
  cases h with
  | lineString h run hstyle hkind hrun => exact hrun

theorem Written.of_polygon {rings : List Run}
    (h : Written style (.polygon order dims rings) tag bs) :
    rings.length < 4294967296 ∧ ∀ r ∈ rings, r.Fits dims := by
  cases h with
  | polygon h rings hstyle hkind hcount hrings => exact ⟨hcount, hrings⟩

theorem Written.of_collection {kind : CollectionKind} {members : List Node}
    (h : Written style (.collection order dims kind members) tag bs) :
    members.length < 4294967296 ∧ ∀ m ∈ members, ∃ t part, Written style m t part := by
  cases h with
  | collection h kind members hstyle hkind hcount hmembers =>
    refine ⟨by rwa [List.length_map], fun node hnode ↦ ?_⟩
    obtain ⟨m, hm, rfl⟩ := List.mem_map.mp hnode
    exact ⟨_, _, hmembers m hm⟩

end Counts

theorem reads_ringsOf {style : Heading.Style} {tag : Option Srid} {bs : List UInt8} {order : Order}
    {dims : Dimensions} {rings : List (List Coord)}
    (h : Written style (.polygon order dims (rings.map (Run.inOrder order))) tag bs)
    (hrings : ∀ ring ∈ rings, ∀ c ∈ ring, c.Fits dims) :
    Reads (readRings order dims) rings
      (Node.encodeBody .iso (.polygon order dims (rings.map (Run.inOrder order)))) := by
  obtain ⟨hcount, hfits⟩ := h.of_polygon
  rw [List.length_map] at hcount
  rw [Node.encodeBody, List.length_map, List.flatMap_map]
  refine reads_rings order hcount fun ring hring ↦ ⟨?_, hrings ring hring⟩
  exact (hfits _ (List.mem_map_of_mem hring)).count

theorem reads_members {β γ : Type} {part : Reader β} (value : γ → β) {order : Order}
    {dims : Dimensions} {kind : CollectionKind} {members : List (Node × γ)}
    (hcount : members.length < 4294967296)
    (h : ∀ m ∈ members, Reads part (value m.2) m.1.bytes) :
    Reads (readCounted order part) (members.map fun m ↦ value m.2)
      (Node.encodeBody .iso (.collection order dims kind (members.map fun m ↦ m.1))) := by
  rw [Node.encodeBody, List.length_map, List.flatMap_map]
  exact Reads.counted (fun m ↦ value m.2) order hcount h

section Members

variable {style : Heading.Style} {order : Order} {dims : Dimensions} {node : Node}

theorem Node.Holds.reads_memberPoint {d : Dimensions} {c : Option Coord}
    (h : node.Holds (.point d c)) (heven : node.order = order ∧ node.dims = dims) :
    Reads (readMemberPoint order dims) c node.bytes := by
  cases h with
  | point order' _ c hc =>
    obtain rfl : order' = order := heven.1
    obtain rfl : d = dims := heven.2
    rw [bytes, encode_eq]
    have hread := Wkb.reads_memberPoint (⟨order', .point, d, none⟩ : Header) hc
    exact hread

theorem Node.Holds.reads_memberLine {d : Dimensions} {cs : List Coord}
    (h : node.Holds (.lineString d cs)) (heven : node.order = order ∧ node.dims = dims)
    {tag : Option Srid} {bs : List UInt8} (hwritten : Written style node tag bs) :
    Reads (skipMemberHeader order *> readCoords order dims) cs node.bytes := by
  cases h with
  | lineString order' _ cs hcs =>
    obtain rfl : order' = order := heven.1
    obtain rfl : d = dims := heven.2
    rw [bytes, encode_eq]
    have hskip := reads_skipMemberHeader (⟨order', .lineString, d, none⟩ : Header)
    have hread := hskip.seqRight (reads_coords order' hwritten.of_lineString.count hcs)
    exact hread

theorem Node.Holds.reads_memberPolygon {d : Dimensions} {rings : List (List Coord)}
    (h : node.Holds (.polygon d rings)) (heven : node.order = order ∧ node.dims = dims)
    {tag : Option Srid} {bs : List UInt8} (hwritten : Written style node tag bs) :
    Reads (skipMemberHeader order *> readRings order dims) rings node.bytes := by
  cases h with
  | polygon order' _ rings hrings =>
    obtain rfl : order' = order := heven.1
    obtain rfl : d = dims := heven.2
    rw [bytes, encode_eq]
    have hskip := reads_skipMemberHeader (⟨order', .polygon, d, none⟩ : Header)
    have hread := hskip.seqRight (reads_ringsOf hwritten hrings)
    exact hread

end Members

theorem Node.IsEven.of_collection {order : Order} {dims : Dimensions} {kind : CollectionKind}
    {members : List Node} (h : Node.IsEven (.collection order dims kind members)) :
    (kind.part? ≠ none → ∀ m ∈ members, m.order = order ∧ m.dims = dims) ∧
      ∀ m ∈ members, m.IsEven := by
  cases h with
  | collection _ _ _ _ hkind hmembers => exact ⟨hkind, hmembers⟩

/-- **The reader of coordinates decodes even trees faithfully.** -/
theorem Node.Holds.reads {node : Node} {shape : Shape} (h : node.Holds shape)
    (heven : node.IsEven) {levels : Nat} (hdepth : node.depth ≤ levels) {style : Heading.Style}
    {tag : Option Srid} {bs : List UInt8} (hwritten : Written style node tag bs) :
    Reads (readShapeLevels (levels + 1)) shape node.bytes := by
  induction h generalizing levels tag bs with
  | point order dims c hc => exact Node.reads_shape ((reads_coord order hc).map _)
  | lineString order dims cs hcs =>
    exact Node.reads_shape ((reads_coords order hwritten.of_lineString.count hcs).map _)
  | polygon order dims rings hrings =>
    exact Node.reads_shape ((reads_ringsOf hwritten hrings).map _)
  | multiPoint order dims members hmembers _ =>
    obtain ⟨hcount, hparts⟩ := hwritten.of_collection
    rw [List.length_map] at hcount
    refine Node.reads_shape ((reads_members Prod.snd hcount fun m hm ↦ ?_).map _)
    exact (hmembers m hm).reads_memberPoint
      (heven.of_collection.1 nofun m.1 (List.mem_map_of_mem hm))
  | multiLineString order dims members hmembers _ =>
    obtain ⟨hcount, hparts⟩ := hwritten.of_collection
    rw [List.length_map] at hcount
    refine Node.reads_shape ((reads_members Prod.snd hcount fun m hm ↦ ?_).map _)
    obtain ⟨t, part, hpart⟩ := hparts m.1 (List.mem_map_of_mem hm)
    exact (hmembers m hm).reads_memberLine
      (heven.of_collection.1 nofun m.1 (List.mem_map_of_mem hm)) hpart
  | multiPolygon order dims members hmembers _ =>
    obtain ⟨hcount, hparts⟩ := hwritten.of_collection
    rw [List.length_map] at hcount
    refine Node.reads_shape ((reads_members Prod.snd hcount fun m hm ↦ ?_).map _)
    obtain ⟨t, part, hpart⟩ := hparts m.1 (List.mem_map_of_mem hm)
    exact (hmembers m hm).reads_memberPolygon
      (heven.of_collection.1 nofun m.1 (List.mem_map_of_mem hm)) hpart
  | collection order dims members hmembers ih =>
    obtain ⟨hcount, hparts⟩ := hwritten.of_collection
    rw [List.length_map] at hcount
    refine Node.reads_shape ((reads_members id hcount fun m hm ↦ ?_).map _)
    have hmem := List.mem_map_of_mem (f := fun m : Node × Shape ↦ m.1) hm
    obtain ⟨t, part, hpart⟩ := hparts m.1 hmem
    have hshallow := Node.depthOfMembers_le.mp hdepth m.1 hmem
    obtain ⟨below, rfl⟩ := Nat.exists_eq_add_one_of_ne_zero (Nat.ne_zero_of_lt hshallow)
    exact ih m hm (heven.of_collection.2 m.1 hmem) (Nat.le_of_lt_succ hshallow) hpart

/-- Whether the reader of coordinates decodes a tree faithfully. -/
def Node.IsReadFaithfully (node : Node) : Prop :=
  ∀ shape, node.Holds shape → shapeOfBytes node.bytes = .ok shape

/-- Even trees that are not nested too deep are decoded faithfully. -/
theorem Node.IsEven.isReadFaithfully {node : Node} (heven : node.IsEven) (hdepth : node.depth ≤ 64)
    {style : Heading.Style} {tag : Option Srid} {bs : List UInt8}
    (hwritten : Written style node tag bs) : node.IsReadFaithfully := by
  intro shape hholds
  have hbelow : node.depth ≤ 127 := by omega
  have hread : readShapeLevels maxCollections ⟨0, node.bytes ++ []⟩ = .ok (shape, _) :=
    hholds.reads heven hbelow hwritten 0 []
  rw [List.append_nil] at hread
  simp only [shapeOfBytes, StateT.run, hread]

end Wkb

end ForeignLayer.Geometry
