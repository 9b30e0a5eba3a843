import ForeignLayer.Box.Json
import ForeignLayer.Proofs.JsonMembers
import ForeignLayer.Proofs.LeastBoxes

/-!
# Boxes and their JSON texts

A box is read from its JSON text if each of its bounds is read from the text of the bound, and a
bound that is not finite has no text that is read. So the empty box, whose bounds are infinite, is
written but never read, and so is a box that was extended by an infinite ordinate. Every other box
that updates lead to is read as far as its bounds are.
-/

namespace ForeignLayer

open Number Json

-- Powers are the core library's, whichever other instances are in scope.
attribute [local instance (high)] instPowNat

/-! ## Texts of numbers -/

namespace Number

theorem isNumeralChar_of_isDigit {c : Char} (h : c.isDigit = true) : isNumeralChar c = true :=
  Bool.or_eq_true_iff.mpr (Or.inl h)

theorem isNumeralChar_of_mem_decimalDigits {n : Nat} {c : Char} (h : c ∈ decimalDigits n) :
    isNumeralChar c = true :=
  isNumeralChar_of_isDigit (Nat.isDigit_of_mem_toDigits (by decide) (by decide) h)

/-- Whether a text could be one of a number, by its characters. -/
def HasNumeralChars (cs : List Char) : Prop := cs ≠ [] ∧ ∀ c ∈ cs, isNumeralChar c = true

theorem hasNumeralChars_positional (d : Decimal) : HasNumeralChars d.positional := by
  have hdigits : ∀ c ∈ decimalDigits d.digits, isNumeralChar c = true := fun _ ↦
    isNumeralChar_of_mem_decimalDigits
  have hzeros (k : Nat) : ∀ c ∈ List.replicate k '0', isNumeralChar c = true := fun c hc ↦ by
    rw [List.eq_of_mem_replicate hc]
    rfl
  unfold Decimal.positional
  dsimp only
  split
  · refine ⟨List.append_ne_nil_of_left_ne_nil Nat.toDigits_ne_nil _, ?_⟩
    exact List.forall_mem_append.mpr ⟨hdigits, hzeros _⟩
  · refine ⟨List.append_ne_nil_of_right_ne_nil _ (List.cons_ne_nil _ _), ?_⟩
    have hall := List.forall_mem_append.mpr ⟨hzeros ((-d.exponent).toNat + 1 -
      (decimalDigits d.digits).length), hdigits⟩
    refine List.forall_mem_append.mpr ⟨fun c hc ↦ hall c (List.mem_of_mem_take hc), ?_⟩
    exact List.forall_mem_cons.mpr ⟨rfl, fun c hc ↦ hall c (List.mem_of_mem_drop hc)⟩

theorem hasNumeralChars_scientific (d : Decimal) : HasNumeralChars (d.scientific ['+']) := by
  have hdigits {n : Nat} : ∀ c ∈ decimalDigits n, isNumeralChar c = true := fun _ ↦
    isNumeralChar_of_mem_decimalDigits
  have hsign (e : Int) : ∀ c ∈ if e < 0 then ['-'] else ['+'], isNumeralChar c = true := by
    split <;> exact List.forall_mem_singleton.mpr rfl
  unfold Decimal.scientific
  dsimp only
  refine ⟨List.append_ne_nil_of_right_ne_nil _ Nat.toDigits_ne_nil, ?_⟩
  refine List.forall_mem_append.mpr ⟨List.forall_mem_append.mpr ⟨?mantissa, ?marks⟩, hdigits⟩
  case mantissa =>
    have hds := hdigits (n := d.digits)
    split
    · next heq => exact heq ▸ hds
    · next heq =>
      rw [heq, List.forall_mem_cons] at hds
      exact List.forall_mem_cons.mpr ⟨hds.1, List.forall_mem_cons.mpr ⟨rfl, hds.2⟩⟩
    · exact List.forall_mem_nil _
  case marks => exact List.forall_mem_cons.mpr ⟨rfl, hsign _⟩

theorem hasNumeralChars_marked (d : Decimal) : HasNumeralChars (d.marked .json) := by
  obtain ⟨hne, hchars⟩ := hasNumeralChars_positional d
  have hzero : ∀ c ∈ ['.', '0'], isNumeralChar c = true :=
    List.forall_mem_cons.mpr ⟨rfl, List.forall_mem_singleton.mpr rfl⟩
  have hpointed : HasNumeralChars (d.positional ++ ['.', '0']) :=
    ⟨List.append_ne_nil_of_left_ne_nil hne _, List.forall_mem_append.mpr ⟨hchars, hzero⟩⟩
  unfold Decimal.marked Decimal.pointed
  split
  · split
    · exact hpointed
    · exact ⟨hne, hchars⟩
  · exact hasNumeralChars_scientific d

/-- The text of every number stands alone: it is a number, or null. -/
theorem standsAlone_jsonText (x : Double) : StandsAlone x.jsonText.toList := by
  unfold Floating.jsonText
  split
  · next s m q _ =>
    obtain ⟨hne, hchars⟩ := hasNumeralChars_marked (Layout.double.shortest m q)
    rw [Floating.signed, String.toList_ofList]
    split
    · exact standsAlone_numeral (List.cons_ne_nil _ _) (List.forall_mem_cons.mpr ⟨rfl, hchars⟩)
    · exact standsAlone_numeral hne hchars
  · exact standsAlone_null

/-- The number that the text of a number is read as. -/
def readBack? (x : Double) : Option Double := (Tree.read? x.jsonText).bind Box.bound?

/-- Whether the text of a number is read as an equal number. -/
def ComesBack (x : Double) : Prop := ∃ y, readBack? x = some y ∧ x.equal y = true

/-- What is not finite does not come back: its text is null. -/
theorem ComesBack.isFinite {x : Double} (h : ComesBack x) : x.isFinite = true := by
  by_contra hx
  rw [Floating.isFinite, decide_eq_true_iff, Nat.not_lt] at hx
  have htext : x.jsonText = "null" := by
    rw [Floating.jsonText, Floating.datum, Layout.datum]
    rcases hx.lt_or_eq with hlt | heq
    · rw [if_pos hlt]
    · rw [if_neg (Nat.not_lt.mpr heq.ge), if_pos heq.symm]
  obtain ⟨y, hy, -⟩ := h
  have hnull : Tree.read? "null" = some .null := rfl
  rw [readBack?, htext, hnull] at hy
  cases hy

end Number

namespace Box

open ForeignLayer.Geometry (Coord)

/-! ## Texts of boxes -/

theorem text?_key (key : String) : text? (key.toList.map .char) = some key := by
  have hchars (cs : List Char) : characters? (cs.map .char) = some cs := by
    induction cs with
    | nil => rfl
    | cons c cs ih => rw [List.map_cons, characters?, ih]; rfl
  rw [text?, hchars]
  exact congrArg some String.ofList_toList

theorem uniqueBound?_eq {members : List (String × Tree)} (hnodup : (members.map Prod.fst).Nodup)
    {name : String} {t : Tree} (h : (name, t) ∈ members) :
    uniqueBound? members name = bound? t := by
  have hfilter : members.filter (fun m ↦ decide (m.1 = name)) = [(name, t)] := by
    induction members with
    | nil => cases h
    | cons m members ih =>
      rw [List.map_cons, List.nodup_cons] at hnodup
      rcases List.mem_cons.mp h with rfl | h
      · have hnone : members.filter (fun m ↦ decide (m.1 = name)) = [] := by
          refine List.filter_eq_nil_iff.mpr fun m hm hname ↦ hnodup.1 ?_
          exact List.mem_map.mpr ⟨m, hm, of_decide_eq_true hname⟩
        rw [List.filter_cons, if_pos (decide_eq_true rfl), hnone]
      · have hne : m.1 ≠ name := fun hname ↦ hnodup.1 (List.mem_map.mpr ⟨_, h, hname.symm⟩)
        rw [List.filter_cons_of_neg (by simpa using hne), ih hnodup.2 h]
  rw [uniqueBound?, hfilter]

theorem bounds_of_members {a b c d : String} (h : [a, b, c, d].Nodup) (t u v w : Tree) : (do
    let members ← [(a.toList.map Piece.char, t), (b.toList.map .char, u), (c.toList.map .char, v),
      (d.toList.map .char, w)].mapM fun (m : List Piece × Tree) ↦ return (← text? m.1, m.2)
    let bound := uniqueBound? members
    return (⟨← bound a, ← bound b, ← bound c, ← bound d⟩ : Box)) =
      (do return ⟨← bound? t, ← bound? u, ← bound? v, ← bound? w⟩) := by
  have hbound {name : String} {tree : Tree}
      (hmem : (name, tree) ∈ [(a, t), (b, u), (c, v), (d, w)]) :
      uniqueBound? [(a, t), (b, u), (c, v), (d, w)] name = bound? tree := by
    refine uniqueBound?_eq ?_ hmem
    exact h
  have ha : uniqueBound? [(a, t), (b, u), (c, v), (d, w)] a = bound? t := hbound (by simp)
  have hb : uniqueBound? [(a, t), (b, u), (c, v), (d, w)] b = bound? u := hbound (by simp)
  have hc : uniqueBound? [(a, t), (b, u), (c, v), (d, w)] c = bound? v := hbound (by simp)
  have hd : uniqueBound? [(a, t), (b, u), (c, v), (d, w)] d = bound? w := hbound (by simp)
  simp only [List.mapM_cons, List.mapM_nil, text?_key, Option.pure_def, Option.bind_eq_bind,
    Option.bind_some, ha, hb, hc, hd]

/-- The text of a box is an object of four members. -/
theorem jsonText_eq (b : Box) : b.jsonText = String.ofList ('\x7b' :: membersChars
    ("min_x".toList, b.minX.jsonText.toList) [("min_y".toList, b.minY.jsonText.toList),
      ("max_x".toList, b.maxX.jsonText.toList), ("max_y".toList, b.maxY.jsonText.toList)]) := by
  have hminX : "\x7b\"min_x\":".toList = '\x7b' :: '"' :: ("min_x".toList ++ ['"', ':']) := rfl
  have hminY : ",\"min_y\":".toList = ',' :: '"' :: ("min_y".toList ++ ['"', ':']) := rfl
  have hmaxX : ",\"max_x\":".toList = ',' :: '"' :: ("max_x".toList ++ ['"', ':']) := rfl
  have hmaxY : ",\"max_y\":".toList = ',' :: '"' :: ("max_y".toList ++ ['"', ':']) := rfl
  have hclosing : "\x7d".toList = ['\x7d'] := rfl
  refine String.toList_inj.mp ?_
  unfold jsonText
  simp only [String.toList_ofList, String.toList_append, hminX, hminY, hmaxX, hmaxY, hclosing,
    membersChars, memberChars, List.append_assoc, List.cons_append, List.nil_append]

/-- **A box is read as its bounds are read alone.** -/
theorem ofJson?_jsonText (b : Box) : ofJson? b.jsonText = (do
    return ⟨← readBack? b.minX, ← readBack? b.minY, ← readBack? b.maxX, ← readBack? b.maxY⟩) := by
  have hmember {key : String} (hkey : key.toList.all isPlainChar = true) (x : Double) :
      IsPlainMember (key.toList, x.jsonText.toList) := ⟨hkey, standsAlone_jsonText x⟩
  rw [jsonText_eq, ofJson?, read?_object ?plain]
  case plain =>
    simp only [List.forall_mem_cons]
    exact ⟨hmember rfl _, hmember rfl _, hmember rfl _, hmember rfl _, List.forall_mem_nil _⟩
  simp only [List.mapM_cons, List.mapM_nil, readMember?, String.ofList_toList, readBack?]
  rcases Tree.read? b.minX.jsonText with - | t <;> rcases Tree.read? b.minY.jsonText with - | u <;>
    rcases Tree.read? b.maxX.jsonText with - | v <;> rcases Tree.read? b.maxY.jsonText with - | w
  case some.some.some.some =>
    have hnames : ["min_x", "min_y", "max_x", "max_y"].Nodup := by decide
    exact bounds_of_members hnames t u v w
  -- a bound without a tree is the end of both readings
  all_goals
    simp only [Option.map_some, Option.map_none, Option.bind_eq_bind, Option.bind_some,
      Option.bind_none, Option.bind_fun_none]

/-- Whether a box that is written is read as an equal box. -/
def SurvivesJson (b : Box) : Prop := ∃ b', ofJson? b.jsonText = some b' ∧ b.equal b' = true

/-- The four bounds of a box. -/
def bounds (b : Box) : List Double := [b.minX, b.minY, b.maxX, b.maxY]

/-- **A box survives if its bounds do.** -/
theorem survivesJson_iff {b : Box} : b.SurvivesJson ↔ ∀ x ∈ b.bounds, ComesBack x := by
  rw [SurvivesJson, ofJson?_jsonText, bounds]
  simp only [List.forall_mem_cons, Option.bind_eq_bind, Option.pure_def, Option.bind_eq_some_iff,
    Option.some_inj]
  constructor
  · rintro ⟨b', ⟨minX, hminX, minY, hminY, maxX, hmaxX, maxY, hmaxY, rfl⟩, hequal⟩
    rw [equal, Bool.and_eq_true, Bool.and_eq_true, Bool.and_eq_true] at hequal
    obtain ⟨⟨⟨hminX', hminY'⟩, hmaxX'⟩, hmaxY'⟩ := hequal
    exact ⟨⟨_, hminX, hminX'⟩, ⟨_, hminY, hminY'⟩, ⟨_, hmaxX, hmaxX'⟩, ⟨_, hmaxY, hmaxY'⟩,
      List.forall_mem_nil _⟩
  · rintro ⟨⟨minX, hminX, hminX'⟩, ⟨minY, hminY, hminY'⟩, ⟨maxX, hmaxX, hmaxX'⟩,
      ⟨maxY, hmaxY, hmaxY'⟩, -⟩
    refine ⟨_, ⟨minX, hminX, minY, hminY, maxX, hmaxX, maxY, hmaxY, rfl⟩, ?_⟩
    rw [equal, hminX', hminY', hmaxX', hmaxY']
    rfl

example : (ofRanges (0, 10) (0, 10)).SurvivesJson :=
  ⟨ofRanges (0, 10) (0, 10), by decide +kernel, by decide +kernel⟩

/-! ## Boxes that updates lead to -/

/-- An update of a box: by a coordinate, or by another box. -/
inductive Update where
  | coordinate (x y : Double)
  | box (other : Box)

namespace Update

/-- The box after an update. -/
def apply (b : Box) : Update → Box
  | coordinate x y => b.extend x y
  | box other => b.merge other

/-- The coordinates that an update brings: those of another box are two of its corners, if it is not
empty. -/
def coords : Update → List Coord
  | coordinate x y => [⟨x, y, []⟩]
  | box other =>
    if other.isEmpty then [] else [⟨other.minX, other.minY, []⟩, ⟨other.maxX, other.maxY, []⟩]

theorem apply_eq_foldl (b : Box) (u : Update) :
    u.apply b = u.coords.foldl (fun b c ↦ b.extend c.x c.y) b := by
  cases u with
  | coordinate => rfl
  | box other =>
    rw [apply, merge, coords]
    split <;> rfl

end Update

/-- The box that updates lead to from the empty one. -/
def reached (updates : List Update) : Box := updates.foldl Update.apply empty

variable {updates : List Update}

theorem reached_eq_around (updates : List Update) :
    reached updates = around (updates.flatMap Update.coords) := by
  rw [reached, around, List.foldl_flatMap]
  exact congrArg (fun f ↦ updates.foldl f empty) (funext₂ Update.apply_eq_foldl)

/-- Whether a coordinate comes with some updates, and counts there. -/
def Counts (updates : List Update) (c : Coord) : Prop :=
  c ∈ updates.flatMap Update.coords ∧ c.IsPlaced

theorem isFinite_of_between {x y z : Double} (hx : x.isFinite = true) (hz : z.isFinite = true)
    (hxy : x.key ≤ y.key) (hyz : y.key ≤ z.key) : y.isFinite = true := by
  have habs (w : Double) : w.key.natAbs = w.magnitude := by
    rw [Floating.key]
    split <;> omega
  rw [Floating.isFinite, decide_eq_true_iff, ← habs] at hx hz ⊢
  omega

/-- The bounds of a box are finite if there are coordinates that count, and all of them are. -/
theorem isFinite_bounds_reached : (∀ x ∈ (reached updates).bounds, x.isFinite = true) ↔
    (∃ c, Counts updates c) ∧
      ∀ c, Counts updates c → c.x.isFinite = true ∧ c.y.isFinite = true := by
  rw [reached_eq_around]
  rcases around_cases (updates.flatMap Update.coords) with ⟨hnone, hempty⟩ | hspans
  · rw [hempty]
    refine iff_of_false (fun h ↦ ?_) fun h ↦ ?_
    · exact absurd (h (.infinity false) List.mem_cons_self) (by decide +kernel)
    · obtain ⟨⟨c, hc, hplaced⟩, -⟩ := h
      exact hnone c hc hplaced
  · simp only [bounds, List.forall_mem_cons]
    constructor
    · rintro ⟨hminX, hminY, hmaxX, hmaxY, -⟩
      obtain ⟨c, hc, hplaced, -⟩ := hspans.left
      refine ⟨⟨c, hc, hplaced⟩, fun d ⟨hd, hplaced⟩ ↦ ?_⟩
      obtain ⟨-, hleft, hright, hbottom, htop⟩ :=
        (covers_iff hplaced).mp (hspans.covers d hd hplaced)
      exact ⟨isFinite_of_between hminX hmaxX hleft hright,
        isFinite_of_between hminY hmaxY hbottom htop⟩
    · rintro ⟨-, hfinite⟩
      obtain ⟨left, hleft, hleftPlaced, hminX⟩ := hspans.left
      obtain ⟨right, hright, hrightPlaced, hmaxX⟩ := hspans.right
      obtain ⟨bottom, hbottom, hbottomPlaced, hminY⟩ := hspans.bottom
      obtain ⟨top, htop, htopPlaced, hmaxY⟩ := hspans.top
      rw [← hminX, ← hminY, ← hmaxX, ← hmaxY]
      exact ⟨(hfinite left ⟨hleft, hleftPlaced⟩).1, (hfinite bottom ⟨hbottom, hbottomPlaced⟩).2,
        (hfinite right ⟨hright, hrightPlaced⟩).1, (hfinite top ⟨htop, htopPlaced⟩).2,
        List.forall_mem_nil _⟩

/-- **A box that updates lead to survives if coordinates counted, and all that did are finite**, as
far as finite numbers survive themselves. -/
theorem survivesJson_reached_iff (updates : List Update) : (reached updates).SurvivesJson ↔
    ((∃ c, Counts updates c) ∧
      ∀ c, Counts updates c → c.x.isFinite = true ∧ c.y.isFinite = true) ∧
      ∀ x ∈ (reached updates).bounds, x.isFinite = true → ComesBack x := by
  rw [survivesJson_iff, ← isFinite_bounds_reached]
  constructor
  · intro h
    exact ⟨fun x hx ↦ (h x hx).isFinite, fun x hx _ ↦ h x hx⟩
  · rintro ⟨hfinite, h⟩ x hx
    exact h x hx (hfinite x hx)

/-- The empty box does not survive. -/
theorem not_survivesJson_reached_nil : ¬(reached []).SurvivesJson := by
  intro h
  have hfinite := (survivesJson_iff.mp h (.infinity false) List.mem_cons_self).isFinite
  exact absurd hfinite (by decide +kernel)

end Box

end ForeignLayer
