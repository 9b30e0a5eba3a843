import ForeignLayer.Json.Value
import ForeignLayer.Proofs.DecimalDigits

/-!
# Members of JSON objects

An object is read as the texts of its values are read alone, if these are numbers or null. A number
is read up to the first character that has no place in one, so that a comma or a bracket behind it
makes no difference; and if its text holds more than a number, what is left over is no end of a
member either.

That a reader makes no use of what follows goes through binds, and with it from the steps of a
number to the whole of it.
-/

namespace ForeignLayer.Json

open Number

variable {α β : Type} {rest cs : List Char}

/-! ## Readers that stop -/

/-- Whether a reader does on a text what it does with more behind it, and leaves a part of the text
as it stands. -/
structure StopsAt (rest : List Char) (r : Reader α) : Prop where
  run_append : ∀ cs, r.run (cs ++ rest) = (r.run cs).map fun p ↦ (p.1, p.2 ++ rest)
  suffix : ∀ cs a left, r.run cs = some (a, left) → left <:+ cs

namespace StopsAt

theorem pure (a : α) : StopsAt rest (Pure.pure a : Reader α) where
  run_append _ := rfl
  suffix cs b left h := by
    cases h
    exact List.suffix_rfl

theorem failure : StopsAt rest (Alternative.failure : Reader α) where
  run_append _ := rfl
  suffix cs b left h := by cases h

theorem bind {r : Reader α} {f : α → Reader β} (hr : StopsAt rest r)
    (hf : ∀ a, StopsAt rest (f a)) : StopsAt rest (r >>= f) where
  run_append cs := by
    rw [StateT.run_bind, StateT.run_bind, hr.run_append]
    cases r.run cs with
    | none => rfl
    | some p => exact (hf p.1).run_append p.2
  suffix cs b left h := by
    rw [StateT.run_bind] at h
    obtain ⟨⟨a, mid⟩, hmid, hleft⟩ := Option.bind_eq_some_iff.mp h
    exact ((hf a).suffix _ _ _ hleft).trans (hr.suffix _ _ _ hmid)

theorem map {r : Reader α} (f : α → β) (hr : StopsAt rest r) : StopsAt rest (f <$> r) := by
  rw [map_eq_pure_bind]
  exact hr.bind fun a ↦ pure (f a)

theorem seq {f : Reader (α → β)} {r : Reader α} (hf : StopsAt rest f) (hr : StopsAt rest r) :
    StopsAt rest (f <*> r) := by
  rw [seq_eq_bind_map]
  exact hf.bind fun g ↦ hr.map g

theorem ite {c : Prop} [Decidable c] {r s : Reader α} (hr : StopsAt rest r)
    (hs : StopsAt rest s) : StopsAt rest (if c then r else s) := by
  split
  · exact hr
  · exact hs

end StopsAt

/-! ## Numbers -/

/-- Whether a character has a place in a number. -/
def isNumeralChar (c : Char) : Bool := c.isDigit || ['-', '+', '.', 'e', 'E'].contains c

theorem ne_of_isNumeralChar {c d : Char} (hc : isNumeralChar c = true)
    (hd : isNumeralChar d = false) : c ≠ d := by
  rintro rfl
  rw [hc] at hd
  cases hd

theorem isSpace_of_isNumeralChar {c : Char} (h : isNumeralChar c = true) :
    Reader.isSpace c = false := by
  simp only [Reader.isSpace, Bool.or_eq_false_iff, beq_eq_false_iff_ne]
  exact ⟨⟨⟨ne_of_isNumeralChar h rfl, ne_of_isNumeralChar h rfl⟩, ne_of_isNumeralChar h rfl⟩,
    ne_of_isNumeralChar h rfl⟩

/-- Whether a number that stands in front of some characters ends there. -/
def EndsNumeral (rest : List Char) : Prop := ∀ c ∈ rest.head?, isNumeralChar c = false

theorem endsNumeral_nil : EndsNumeral [] := fun c hc ↦ by cases hc

theorem endsNumeral_cons {c : Char} (h : isNumeralChar c = false) : EndsNumeral (c :: rest) := by
  rintro d ⟨⟩
  exact h

theorem run_accept (c : Char) (cs : List Char) : (Reader.accept c).run cs =
    some (if cs.head? = some c then (true, cs.tail) else (false, cs)) := by
  change (if cs.head? = some c then _ else _ : Reader Bool).run cs = _
  cases cs with
  | nil => rfl
  | cons d cs => split <;> rfl

theorem stopsAt_accept {c : Char} (h : rest.head? ≠ some c) : StopsAt rest (Reader.accept c) where
  run_append cs := by
    rw [run_accept, run_accept, Option.map_some]
    cases cs with
    | nil => exact congrArg some (if_neg h)
    | cons d cs =>
      have hhead : (d :: cs ++ rest).head? = (d :: cs).head? := rfl
      rw [hhead]
      split <;> rfl
  suffix cs a left h := by
    rw [run_accept] at h
    split at h <;> cases h
    · exact List.tail_suffix cs
    · exact List.suffix_rfl

theorem exists_digits_append (cs : List Char) : ∃ ds tail, cs = ds ++ tail ∧
    (∀ d ∈ ds, d.isDigit = true) ∧ ∀ c ∈ tail.head?, c.isDigit = false := by
  refine ⟨cs.takeWhile Char.isDigit, cs.dropWhile Char.isDigit,
    (List.takeWhile_append_dropWhile ..).symm, fun d hd ↦ List.mem_takeWhile_imp hd, ?_⟩
  intro c hc
  have hnot := List.head?_dropWhile_not Char.isDigit cs
  rw [Option.mem_def.mp hc] at hnot
  exact hnot

theorem stopsAt_digits (h : ∀ c ∈ rest.head?, c.isDigit = false) :
    StopsAt rest Reader.digits where
  run_append cs := by
    obtain ⟨ds, tail, rfl, hds, htail⟩ := exists_digits_append cs
    have hmore : ∀ c ∈ (tail ++ rest).head?, c.isDigit = false := by
      cases tail with
      | nil => exact h
      | cons c tail => exact htail
    refine congrArg some ?_
    rw [List.append_assoc, spanDigits_append hds hmore, spanDigits_append hds htail]
  suffix cs ds left h := by
    have hleft : (spanDigits cs).2 = left := congrArg Prod.snd (Option.some_inj.mp h)
    rw [← hleft, spanDigits, List.span_eq_takeWhile_dropWhile]
    exact List.dropWhile_suffix _

theorem stopsAt_someDigits (h : ∀ c ∈ rest.head?, c.isDigit = false) :
    StopsAt rest Reader.someDigits :=
  (stopsAt_digits h).bind fun _ ↦ .ite .failure (.pure _)

theorem stopsAt_numeral (h : EndsNumeral rest) : StopsAt rest numeral := by
  have haccept {c : Char} (hc : isNumeralChar c = true) : StopsAt rest (Reader.accept c) :=
    stopsAt_accept fun hhead ↦ by rw [h c hhead] at hc; cases hc
  have hdigits : StopsAt rest Reader.someDigits := by
    refine stopsAt_someDigits fun c hc ↦ ?_
    exact (Bool.or_eq_false_iff.mp (h c hc)).1
  unfold numeral
  -- what comes after a branch stands once for each way through it
  refine (haccept rfl).bind fun negative ↦ hdigits.bind fun whole ↦ ?_
  refine .ite (.bind .failure ?number) (?number ())
  intro _
  refine (haccept rfl).bind fun point ↦
    .ite (.bind (hdigits.map some) ?exponent) (.bind (.pure none) ?exponent)
  intro fraction
  refine ((haccept rfl).map _ |>.seq (haccept rfl)).bind fun marked ↦ .ite ?_ (.pure _)
  refine (haccept rfl).bind fun negativeExponent ↦
    .ite (?digits ()) (.bind ((haccept rfl).map _) ?digits)
  intro _
  exact hdigits.bind fun ds ↦ .pure _

/-! ## Values -/

theorem run_spaces {c : Char} (h : Reader.isSpace c = false) :
    Reader.spaces.run (c :: cs) = some ((), c :: cs) := by
  have hdrop := List.dropWhile_cons_of_neg (l := cs) (Bool.not_eq_true _ ▸ h)
  exact congrArg (fun left ↦ some ((), left)) hdrop

theorem run_treeWithin_numeral {c : Char} (h : isNumeralChar c = true) (fuel : Nat)
    (cs : List Char) :
    (treeWithin (fuel + 1)).run (c :: cs) = (Tree.number <$> numeral).run (c :: cs) := by
  have hpeek : Reader.peek?.run (c :: cs) = some (some c, c :: cs) := rfl
  have hother {d : Char} (hd : isNumeralChar d = false) : some c ≠ some d :=
    mt Option.some_inj.mp (ne_of_isNumeralChar h hd)
  rw [treeWithin, StateT.run_bind, run_spaces (isSpace_of_isNumeralChar h), Option.bind_eq_bind,
    Option.bind_some, StateT.run_bind, hpeek, Option.bind_eq_bind, Option.bind_some]
  dsimp only
  split
  case h_7 => rfl
  all_goals
    next heq => exact absurd heq (hother rfl)

/-- Whether a text is read as it would be alone when more follows it, up to a rest that is left
either way and could stand in a number. -/
structure StandsAlone (cs : List Char) : Prop where
  run_append : ∀ fuel rest, EndsNumeral rest → (treeWithin (fuel + 1)).run (cs ++ rest) =
    ((treeWithin 1).run cs).map fun p ↦ (p.1, p.2 ++ rest)
  left : ∀ tree left, (treeWithin 1).run cs = some (tree, left) →
    ∀ c ∈ left, isNumeralChar c = true

theorem standsAlone_numeral (hne : cs ≠ []) (hchars : ∀ c ∈ cs, isNumeralChar c = true) :
    StandsAlone cs where
  run_append fuel rest hrest := by
    obtain ⟨c, cs, rfl⟩ := List.exists_cons_of_ne_nil hne
    have hc := hchars c List.mem_cons_self
    rw [List.cons_append, run_treeWithin_numeral hc, run_treeWithin_numeral hc]
    exact ((stopsAt_numeral hrest).map Tree.number).run_append (c :: cs)
  left tree left h := by
    obtain ⟨c, cs, rfl⟩ := List.exists_cons_of_ne_nil hne
    rw [run_treeWithin_numeral (hchars c List.mem_cons_self)] at h
    have hsuffix := ((stopsAt_numeral endsNumeral_nil).map Tree.number).suffix _ _ _ h
    exact fun d hd ↦ hchars d (hsuffix.subset hd)

theorem standsAlone_null : StandsAlone ['n', 'u', 'l', 'l'] where
  run_append _ _ _ := rfl
  left tree left h := by
    cases h
    exact List.forall_mem_nil _

theorem StandsAlone.read?_eq (h : StandsAlone cs) : Tree.read? (String.ofList cs) =
    ((treeWithin 1).run cs).bind fun p ↦ if p.2 = [] then some p.1 else none := by
  have hrun := h.run_append cs.length [] endsNumeral_nil
  simp only [List.append_nil, Option.map_id'] at hrun
  rw [Tree.read?, String.toList_ofList, hrun]
  cases hread : (treeWithin 1).run cs with
  | none => rfl
  | some p =>
    obtain ⟨tree, left⟩ := p
    have hblank : left.all Reader.isSpace = true ↔ left = [] := by
      rcases left with - | ⟨c, left⟩
      · exact iff_of_true rfl rfl
      · refine iff_of_false (fun hall ↦ ?_) (List.cons_ne_nil _ _)
        have hspace := List.all_eq_true.mp hall c List.mem_cons_self
        rw [isSpace_of_isNumeralChar (h.left tree _ hread c List.mem_cons_self)] at hspace
        cases hspace
    simp only [hblank, Option.bind_some]

/-! ## Members -/

/-- Takes a member of an object. -/
def member (value : Reader Tree) : Reader (List Piece × Tree) := do
  Reader.spaces
  let key ← pieces
  Reader.spaces
  Reader.expect ':'
  let value ← value
  return (key, value)

/-- Whether a character stands for itself in a string. -/
def isPlainChar (c : Char) : Bool := c != '"' && c != '\\' && decide (32 ≤ c.toNat)

theorem run_piecesWithin {key : List Char} (h : key.all isPlainChar = true) {fuel : Nat}
    (hfuel : key.length < fuel) (rest : List Char) :
    (piecesWithin fuel).run (key ++ '"' :: rest) = some (key.map .char, rest) := by
  induction key generalizing fuel with
  | nil =>
    obtain ⟨fuel, rfl⟩ := Nat.exists_eq_add_one_of_ne_zero (Nat.ne_of_gt hfuel)
    rfl
  | cons c key ih =>
    obtain ⟨fuel, rfl⟩ := Nat.exists_eq_add_one_of_ne_zero (Nat.ne_of_gt (Nat.zero_lt_of_lt hfuel))
    rw [List.all_cons, Bool.and_eq_true, isPlainChar, Bool.and_eq_true, Bool.and_eq_true,
      bne_iff_ne, bne_iff_ne, decide_eq_true_eq] at h
    obtain ⟨⟨⟨hquote, hslash⟩, hlow⟩, h⟩ := h
    have hothers := ih h (Nat.lt_of_succ_lt_succ hfuel)
    have hnext : Reader.next.run (c :: (key ++ '"' :: rest)) = some (c, key ++ '"' :: rest) := rfl
    rw [List.cons_append, piecesWithin, StateT.run_bind, hnext, Option.bind_eq_bind,
      Option.bind_some]
    simp only [hquote, hslash, Nat.not_lt.mpr hlow, if_false]
    simp [hothers]

theorem run_pieces {key : List Char} (h : key.all isPlainChar = true) (rest : List Char) :
    pieces.run ('"' :: (key ++ '"' :: rest)) = some (key.map .char, rest) := by
  have hlength : key.length < (key ++ '"' :: rest).length + 1 := by
    rw [List.length_append]
    omega
  exact run_piecesWithin h hlength rest

/-- The characters of a member: a key in quotes, a colon and the text of a value. -/
def memberChars (m : List Char × List Char) : List Char := '"' :: (m.1 ++ '"' :: ':' :: m.2)

/-- Whether a member has a key of plain characters, and a value that stands alone. -/
structure IsPlainMember (m : List Char × List Char) : Prop where
  key : m.1.all isPlainChar = true
  value : StandsAlone m.2

section Members

variable {m : List Char × List Char} {ms : List (List Char × List Char)}

theorem run_member (h : IsPlainMember m) (fuel : Nat) (hrest : EndsNumeral rest) :
    (member (treeWithin (fuel + 1))).run (memberChars m ++ rest) =
      ((treeWithin 1).run m.2).map fun p ↦ ((m.1.map .char, p.1), p.2 ++ rest) := by
  obtain ⟨key, cs⟩ := m
  have hchars : memberChars (key, cs) ++ rest = '"' :: (key ++ '"' :: (':' :: (cs ++ rest))) := by
    simp [memberChars]
  have hquote (left : List Char) : Reader.spaces.run ('"' :: left) = some ((), '"' :: left) :=
    run_spaces rfl
  have hcolon (left : List Char) : Reader.spaces.run (':' :: left) = some ((), ':' :: left) :=
    run_spaces rfl
  have hexpect : (Reader.expect ':').run (':' :: (cs ++ rest)) = some ((), cs ++ rest) := rfl
  rw [hchars, member]
  simp only [StateT.run_bind, hquote, run_pieces h.key, hcolon, hexpect,
    h.value.run_append fuel rest hrest, Option.bind_eq_bind, Option.bind_some]
  cases (treeWithin 1).run cs <;> rfl

/-- The characters of one member or more, with commas between them, and the closing bracket. -/
def membersChars (m : List Char × List Char) : List (List Char × List Char) → List Char
  | [] => memberChars m ++ ['\x7d']
  | m' :: ms => memberChars m ++ ',' :: membersChars m' ms

/-- What is read of a member, if its value is read to its end. -/
def readMember? (m : List Char × List Char) : Option (List Piece × Tree) :=
  (Tree.read? (String.ofList m.2)).map fun tree ↦ (m.1.map .char, tree)

/-- What comes after the first of several parts. -/
def moreParts {α : Type} (closing : Char) (part : Reader α) (count : Nat) (first : α) :
    Reader (List α) := do
  Reader.spaces
  if ← Reader.accept closing then return [first]
  Reader.expect ','
  let others ← partsWithin closing part count
  return first :: others

theorem partsWithin_succ {closing : Char} {part : Reader α} {count : Nat} :
    partsWithin closing part (count + 1) = part >>= moreParts closing part count := rfl

/-- A part of a number that is left over cannot come after a member. -/
theorem run_moreParts_eq_none {part : Reader α} {count : Nat} {first : α} {c : Char}
    (h : isNumeralChar c = true) (cs : List Char) :
    (moreParts '\x7d' part count first).run (c :: cs) = none := by
  have hclosing : (Reader.accept '\x7d').run (c :: cs) = some (false, c :: cs) := by
    have hne : some c ≠ some '\x7d' := mt Option.some_inj.mp (ne_of_isNumeralChar h rfl)
    rw [run_accept, List.head?_cons, if_neg hne]
  have hcomma : (Reader.expect ',').run (c :: cs) = none := by
    change (if c = ',' then _ else _ : Reader Unit).run cs = none
    rw [if_neg (ne_of_isNumeralChar h rfl)]
    rfl
  rw [moreParts, StateT.run_bind, run_spaces (isSpace_of_isNumeralChar h), Option.bind_eq_bind,
    Option.bind_some, StateT.run_bind, hclosing, Option.bind_eq_bind, Option.bind_some,
    if_neg Bool.false_ne_true, StateT.run_bind, hcomma]
  rfl

theorem run_moreParts_comma {part : Reader α} {count : Nat} {first : α} (cs : List Char) :
    (moreParts '\x7d' part count first).run (',' :: cs) =
      ((partsWithin '\x7d' part count).run cs).map fun p ↦ (first :: p.1, p.2) := by
  change ((partsWithin '\x7d' part count).run cs).bind _ = _
  cases (partsWithin '\x7d' part count).run cs <;> rfl

theorem run_member_moreParts (h : IsPlainMember m) (fuel count : Nat) (hrest : EndsNumeral rest) :
    (member (treeWithin (fuel + 1)) >>=
        moreParts '\x7d' (member (treeWithin (fuel + 1))) count).run (memberChars m ++ rest) =
      (readMember? m).bind fun first ↦
        (moreParts '\x7d' (member (treeWithin (fuel + 1))) count first).run rest := by
  rw [StateT.run_bind, run_member h fuel hrest, readMember?, h.value.read?_eq]
  cases hread : (treeWithin 1).run m.2 with
  | none => rfl
  | some p =>
    obtain ⟨tree, left⟩ := p
    rcases left with - | ⟨c, left⟩
    · rfl
    · exact run_moreParts_eq_none (h.value.left tree _ hread c List.mem_cons_self) _

theorem run_partsWithin (h : ∀ m' ∈ m :: ms, IsPlainMember m') (fuel : Nat) {count : Nat}
    (hcount : ms.length < count) :
    (partsWithin '\x7d' (member (treeWithin (fuel + 1))) count).run (membersChars m ms) =
      ((m :: ms).mapM readMember?).map fun members ↦ (members, []) := by
  induction ms generalizing m count with
  | nil =>
    obtain ⟨count, rfl⟩ := Nat.exists_eq_add_one_of_ne_zero (Nat.ne_of_gt hcount)
    have hclosing : EndsNumeral ['\x7d'] := endsNumeral_cons rfl
    rw [membersChars, partsWithin_succ,
      run_member_moreParts (h m List.mem_cons_self) fuel count hclosing, List.mapM_cons,
      List.mapM_nil]
    cases readMember? m <;> rfl
  | cons m' ms ih =>
    obtain ⟨count, rfl⟩ :=
      Nat.exists_eq_add_one_of_ne_zero (Nat.ne_of_gt (Nat.zero_lt_of_lt hcount))
    have hcomma : EndsNumeral (',' :: membersChars m' ms) := endsNumeral_cons rfl
    have hmore := ih (fun d hd ↦ h d (List.mem_cons_of_mem _ hd)) (Nat.lt_of_succ_lt_succ hcount)
    rw [membersChars, partsWithin_succ,
      run_member_moreParts (h m List.mem_cons_self) fuel count hcomma, List.mapM_cons]
    cases readMember? m with
    | none => rfl
    | some first =>
      rw [Option.bind_some, run_moreParts_comma, hmore]
      cases (m' :: ms).mapM readMember? <;> rfl

theorem length_le_length_membersChars (m : List Char × List Char)
    (ms : List (List Char × List Char)) : ms.length ≤ (membersChars m ms).length := by
  induction ms generalizing m with
  | nil => exact Nat.zero_le _
  | cons m' ms ih =>
    have hlength := ih m'
    rw [membersChars, List.length_append, List.length_cons, List.length_cons]
    omega

/-- **An object is read as its members are read alone**, if their keys are plain and their values
are numbers or null. -/
theorem read?_object (h : ∀ m' ∈ m :: ms, IsPlainMember m') :
    Tree.read? (String.ofList ('\x7b' :: membersChars m ms)) =
      ((m :: ms).mapM readMember?).map .object := by
  have hlength := Nat.lt_succ_of_le (length_le_length_membersChars m ms)
  have hparts := run_partsWithin h (membersChars m ms).length hlength
  obtain ⟨left, hleft⟩ : ∃ left, membersChars m ms = '"' :: left := by
    cases ms <;> exact ⟨_, rfl⟩
  have hrun : (treeWithin ((membersChars m ms).length + 1 + 1)).run ('\x7b' :: membersChars m ms) =
      ((m :: ms).mapM readMember?).map fun members ↦ (Tree.object members, []) := by
    rw [hleft] at hparts ⊢
    change ((partsWithin '\x7d' (member (treeWithin _)) ('"' :: left).length.succ).run
      ('"' :: left)).bind _ = _
    rw [hparts]
    cases (m :: ms).mapM readMember? <;> rfl
  rw [Tree.read?, String.toList_ofList, List.length_cons, hrun]
  cases (m :: ms).mapM readMember? <;> rfl

end Members

end ForeignLayer.Json
