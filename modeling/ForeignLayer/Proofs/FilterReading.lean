import ForeignLayer.Filter.Reader
import ForeignLayer.Proofs.FilterTokens

/-!
# Clauses are read back

`Means` says what a clause stands for in a layer: the same tree, with the index of each field for
its name and the value of each literal for its text. Reading the tokens of a clause gives just that,
because every combination has its own brackets: an operand is read the same whatever follows it, and
a chain of operands ends where its word does not go on.
-/

namespace ForeignLayer.Filter

/-- What a clause stands for in a layer. -/
inductive Means (layer : Layer.Definition) : Clause → Condition → Prop
  | compare {name : String} {index : Nat} {field : Layer.Field} {op : Comparison}
      {literal : Literal} {value : Scalar} (hindex : layer.fieldIndex? name = some index)
      (hfield : layer.fields[index]? = some field)
      (hvalue : literalValue field.type literal.token = .ok value) :
      Means layer (.compare name op literal) (.compare index op value)
  | isNull {name : String} {index : Nat} {field : Layer.Field}
      (hindex : layer.fieldIndex? name = some index)
      (hfield : layer.fields[index]? = some field) :
      Means layer (.isNull name) (.isNull index false)
  | isNotNull {name : String} {index : Nat} {field : Layer.Field}
      (hindex : layer.fieldIndex? name = some index)
      (hfield : layer.fields[index]? = some field) :
      Means layer (.isNotNull name) (.isNull index true)
  | not {clause : Clause} {c : Condition} (h : Means layer clause c) :
      Means layer (.not clause) (.not c)
  | and {left right : Clause} {l r : Condition} (hl : Means layer left l)
      (hr : Means layer right r) : Means layer (.and left right) (.and l r)
  | or {left right : Clause} {l r : Condition} (hl : Means layer left l)
      (hr : Means layer right r) : Means layer (.or left right) (.or l r)

/-! ## Chains of operands -/

/-- Whether a reader reads a condition off tokens and leaves what follows them. -/
def ReadsAs (r : Reader Condition) (ts : List Token) (c : Condition) (rest : List Token) : Prop :=
  r (ts ++ rest) = .ok (c, rest)

/-- Whether tokens do not go on with a word. -/
def StopsAt (word : String) (rest : List Token) : Prop := rest.head? ≠ some (.word word)

namespace Reader

theorem accept_word (word : String) (rest : List Token) :
    accept word (.word word :: rest) = .ok (true, rest) := by
  simp [accept]

theorem accept_stop {word : String} {ts : List Token} (h : StopsAt word ts) :
    accept word ts = .ok (false, ts) := by
  unfold accept
  split
  · next w rest =>
    rw [if_neg]
    rintro rfl
    exact h rfl
  · rfl

theorem next_cons (t : Token) (rest : List Token) : next (t :: rest) = .ok (some t, rest) := rfl

theorem bind_ok {α β : Type} {r : Reader α} {f : α → Reader β} {ts rest : List Token} {a : α}
    (h : r ts = .ok (a, rest)) : (r >>= f) ts = f a rest := by
  show (r ts).bind (fun p ↦ f p.1 p.2) = _
  rw [h]
  rfl

end Reader

open Reader

variable {word : String} {join : Condition → Condition → Condition} {operand : Reader Condition}

/-- The tokens of operands, each after a word. -/
def chainTokens (word : String) (operands : List (List Token × Condition)) : List Token :=
  operands.flatMap fun o ↦ .word word :: o.1

theorem readChain_stop {rest : List Token} (hstop : StopsAt word rest) (count : Nat)
    (left : Condition) : readChain word join operand count left rest = .ok (left, rest) := by
  cases count with
  | zero => rfl
  | succ count =>
    rw [readChain, bind_ok (accept_stop hstop)]
    rfl

/-- Operands that are read in front of whatever `follows` are read one after the other. -/
theorem readChain_operands (follows : List Token → Prop)
    (hfollows : ∀ tail, follows (.word word :: tail))
    {operands : List (List Token × Condition)}
    (hoperands : ∀ o ∈ operands, ∀ rest, follows rest → ReadsAs operand o.1 o.2 rest)
    {rest : List Token} (hrest : follows rest) (hstop : StopsAt word rest) {count : Nat}
    (hcount : operands.length ≤ count) (left : Condition) :
    ReadsAs (readChain word join operand count left) (chainTokens word operands)
      ((operands.map Prod.snd).foldl join left) rest := by
  induction operands generalizing count left with
  | nil => exact readChain_stop hstop count left
  | cons o operands ih =>
    cases count with
    | zero => cases hcount
    | succ count =>
      rw [List.forall_mem_cons] at hoperands
      -- an operand is followed by the connective of the next one, or by what follows the chain
      have hgo : follows (chainTokens word operands ++ rest) := by
        cases operands with
        | nil => exact hrest
        | cons => exact hfollows _
      have hfirst := hoperands.1 _ hgo
      have hothers := ih hoperands.2 (Nat.le_of_succ_le_succ hcount) (join left o.2)
      unfold ReadsAs at hfirst hothers ⊢
      have hcons : chainTokens word (o :: operands) ++ rest =
          .word word :: (o.1 ++ (chainTokens word operands ++ rest)) := by
        rw [chainTokens, List.flatMap_cons, List.cons_append, List.cons_append, List.append_assoc]
        rfl
      rw [hcons, readChain, bind_ok (accept_word word _), if_pos rfl, bind_ok hfirst, hothers]
      rfl

theorem length_le_chainTokens (word : String) (operands : List (List Token × Condition)) :
    operands.length ≤ (chainTokens word operands).length := by
  induction operands with
  | nil => exact Nat.le_refl _
  | cons o operands ih =>
    rw [chainTokens] at ih ⊢
    rw [List.flatMap_cons, List.length_append, List.length_cons, List.length_cons]
    omega

theorem readOperands_operands (follows : List Token → Prop)
    (hfollows : ∀ tail, follows (.word word :: tail)) {first : List Token × Condition}
    {operands : List (List Token × Condition)}
    (hoperands : ∀ o ∈ first :: operands, ∀ rest, follows rest → ReadsAs operand o.1 o.2 rest)
    {rest : List Token} (hrest : follows rest) (hstop : StopsAt word rest) :
    ReadsAs (readOperands word join operand) (first.1 ++ chainTokens word operands)
      ((operands.map Prod.snd).foldl join first.2) rest := by
  rw [List.forall_mem_cons] at hoperands
  have hgo : follows (chainTokens word operands ++ rest) := by
    cases operands with
    | nil => exact hrest
    | cons => exact hfollows _
  have hfirst := hoperands.1 _ hgo
  have hcount : operands.length ≤ (chainTokens word operands ++ rest).length := by
    rw [List.length_append]
    exact Nat.le_trans (length_le_chainTokens word operands) (Nat.le_add_right _ _)
  have hchain : ReadsAs (readChain word join operand _ first.2) _ _ rest :=
    readChain_operands follows hfollows hoperands.2 hrest hstop hcount first.2
  unfold ReadsAs at hfirst hchain ⊢
  rw [List.append_assoc, readOperands, bind_ok hfirst]
  exact hchain

theorem readOperands_single {ts : List Token} {c : Condition} {rest : List Token}
    (h : ReadsAs operand ts c rest) (hstop : StopsAt word rest) :
    ReadsAs (readOperands word join operand) ts c rest := by
  unfold ReadsAs at h ⊢
  rw [readOperands, bind_ok h]
  exact readChain_stop hstop rest.length c

/-! ## Disjunctions -/

section Disjunction

variable {ts : List Token} {c : Condition} {rest : List Token}

theorem readDisjunction_single (h : ReadsAs operand ts c rest) (hand : StopsAt "AND" rest)
    (hor : StopsAt "OR" rest) : ReadsAs (readDisjunction operand) ts c rest :=
  readOperands_single (readOperands_single h hand) hor

theorem readDisjunction_and {first : List Token × Condition}
    {operands : List (List Token × Condition)}
    (hoperands : ∀ o ∈ first :: operands, ∀ rest, ReadsAs operand o.1 o.2 rest)
    (hand : StopsAt "AND" rest) (hor : StopsAt "OR" rest) :
    ReadsAs (readDisjunction operand) (first.1 ++ chainTokens "AND" operands)
      ((operands.map Prod.snd).foldl .and first.2) rest :=
  readOperands_single (readOperands_operands (fun _ ↦ True) (fun _ ↦ trivial)
    (fun o ho rest _ ↦ hoperands o ho rest) trivial hand) hor

theorem readDisjunction_or {first : List Token × Condition}
    {operands : List (List Token × Condition)}
    (hoperands : ∀ o ∈ first :: operands, ∀ rest, ReadsAs operand o.1 o.2 rest)
    (hand : StopsAt "AND" rest) (hor : StopsAt "OR" rest) :
    ReadsAs (readDisjunction operand) (first.1 ++ chainTokens "OR" operands)
      ((operands.map Prod.snd).foldl .or first.2) rest := by
  have hnext (tail : List Token) : StopsAt "AND" (.word "OR" :: tail) := by simp [StopsAt]
  exact readOperands_operands (StopsAt "AND") hnext
    (fun o ho rest hrest ↦ readOperands_single (hoperands o ho rest) hrest) hand hor

end Disjunction

/-! ## Clauses -/

theorem stopsAt_closing (word : String) (rest : List Token) : StopsAt word (.closing :: rest) := by
  simp [StopsAt]

theorem stopsAt_opening (word : String) (rest : List Token) : StopsAt word (.opening :: rest) := by
  simp [StopsAt]

theorem stopsAt_name (word name : String) (rest : List Token) :
    StopsAt word (.name name :: rest) := by
  simp [StopsAt]

theorem stopsAt_nil (word : String) : StopsAt word [] := nofun

variable {layer : Layer.Definition}

/-- What is read within brackets is read as an operand with them. -/
theorem readOperand_brackets {levels : Nat} {ts : List Token} {c : Condition} (rest : List Token)
    (h : ReadsAs (readDisjunction (readOperand layer levels)) ts c (.closing :: rest)) :
    ReadsAs (readOperand layer (levels + 1)) (.opening :: ts ++ [.closing]) c rest := by
  unfold ReadsAs at h ⊢
  rw [List.cons_append, List.cons_append, List.append_assoc, List.singleton_append, readOperand,
    bind_ok (accept_stop (stopsAt_opening _ _)), if_neg Bool.false_ne_true,
    bind_ok (next_cons _ _)]
  dsimp only
  rw [bind_ok h, bind_ok (next_cons _ _)]
  rfl

theorem readOperand_name (levels : Nat) (name : String) (ts : List Token) :
    readOperand layer (levels + 1) (.name name :: ts) = readPredicate layer name ts := by
  rw [readOperand, bind_ok (accept_stop (stopsAt_name _ _ _)), if_neg Bool.false_ne_true,
    bind_ok (next_cons _ _)]

theorem readOperand_not {levels : Nat} {ts : List Token} {c : Condition} {rest : List Token}
    (h : ReadsAs (readOperand layer levels) ts c rest) :
    ReadsAs (readOperand layer (levels + 1)) (.word "NOT" :: ts) (.not c) rest := by
  unfold ReadsAs at h ⊢
  rw [List.cons_append, readOperand, bind_ok (accept_word _ _), if_pos rfl, bind_ok h]
  rfl

section Predicate

variable {name : String} {index : Nat} {field : Layer.Field}

theorem readPredicate_compare (hindex : layer.fieldIndex? name = some index)
    (hfield : layer.fields[index]? = some field) (op : Comparison) {t : Token} {value : Scalar}
    (hvalue : literalValue field.type t = .ok value) (rest : List Token) :
    readPredicate layer name (.op op :: t :: rest) = .ok (.compare index op value, rest) := by
  have hstop : StopsAt "IS" (.op op :: t :: rest) := by simp [StopsAt]
  rw [readPredicate, hindex]
  simp only [hfield]
  rw [bind_ok (accept_stop hstop), if_neg Bool.false_ne_true, bind_ok (next_cons _ _)]
  dsimp only
  rw [bind_ok (next_cons _ _)]
  dsimp only
  rw [hvalue]
  rfl

theorem readPredicate_isNull (hindex : layer.fieldIndex? name = some index)
    (hfield : layer.fields[index]? = some field) (rest : List Token) :
    readPredicate layer name (.word "IS" :: .word "NULL" :: rest) =
      .ok (.isNull index false, rest) := by
  have hstop : StopsAt "NOT" (.word "NULL" :: rest) := by simp [StopsAt]
  rw [readPredicate, hindex]
  simp only [hfield]
  rw [bind_ok (accept_word _ _), if_pos rfl, bind_ok (accept_stop hstop),
    bind_ok (accept_word _ _), if_pos rfl]
  rfl

theorem readPredicate_isNotNull (hindex : layer.fieldIndex? name = some index)
    (hfield : layer.fields[index]? = some field) (rest : List Token) :
    readPredicate layer name (.word "IS" :: .word "NOT" :: .word "NULL" :: rest) =
      .ok (.isNull index true, rest) := by
  rw [readPredicate, hindex]
  simp only [hfield]
  rw [bind_ok (accept_word _ _), if_pos rfl, bind_ok (accept_word _ _),
    bind_ok (accept_word _ _), if_pos rfl]
  rfl

end Predicate

theorem readsAs_pair {operand : Reader Condition} {ts us : List Token} {l r : Condition}
    (hl : ∀ rest, ReadsAs operand ts l rest) (hr : ∀ rest, ReadsAs operand us r rest) :
    ∀ o ∈ [(ts, l), (us, r)], ∀ rest, ReadsAs operand o.1 o.2 rest := by
  simp only [List.forall_mem_cons]
  exact ⟨hl, hr, List.forall_mem_nil _⟩

/-- **The tokens of a clause are read as what it stands for**, whatever follows them. -/
theorem readOperand_clause {clause : Clause} {c : Condition} (h : Means layer clause c)
    {levels : Nat} (hlevels : clause.tokens.length ≤ levels) (rest : List Token) :
    ReadsAs (readOperand layer levels) clause.tokens c rest := by
  -- a level is spent on every bracket, and there are no more of them than tokens
  induction h generalizing levels rest with
  | @compare name index field op literal value hindex hfield hvalue =>
    cases levels with
    | zero => cases hlevels
    | succ levels =>
      exact (readOperand_name levels name _).trans
        (readPredicate_compare hindex hfield op hvalue rest)
  | @isNull name index field hindex hfield =>
    cases levels with
    | zero => cases hlevels
    | succ levels =>
      exact (readOperand_name levels name _).trans (readPredicate_isNull hindex hfield rest)
  | @isNotNull name index field hindex hfield =>
    cases levels with
    | zero => cases hlevels
    | succ levels =>
      exact (readOperand_name levels name _).trans (readPredicate_isNotNull hindex hfield rest)
  | @not clause c h ih =>
    rw [Clause.tokens, List.cons_append, List.length_cons, List.cons_append, List.length_cons,
      List.length_append, List.length_singleton] at hlevels
    obtain ⟨levels, rfl⟩ : ∃ n, levels = n + 2 := ⟨levels - 2, by omega⟩
    refine readOperand_not (readOperand_brackets _ (readDisjunction_single (ih ?_ _) ?_ ?_))
    · omega
    · exact stopsAt_closing _ _
    · exact stopsAt_closing _ _
  | @and left right l r hl hr ihl ihr =>
    simp only [Clause.tokens, List.cons_append, List.length_cons, List.length_append,
      List.length_nil] at hlevels
    obtain ⟨levels, rfl⟩ : ∃ n, levels = n + 1 := ⟨levels - 1, by omega⟩
    have hl : left.tokens.length ≤ levels := by omega
    have hr : right.tokens.length ≤ levels := by omega
    have hoperands := readsAs_pair (ihl hl) (ihr hr)
    have hread := readOperand_brackets rest (readDisjunction_and hoperands
      (stopsAt_closing _ _) (stopsAt_closing _ _))
    simpa [chainTokens, Clause.tokens] using hread
  | @or left right l r hl hr ihl ihr =>
    simp only [Clause.tokens, List.cons_append, List.length_cons, List.length_append,
      List.length_nil] at hlevels
    obtain ⟨levels, rfl⟩ : ∃ n, levels = n + 1 := ⟨levels - 1, by omega⟩
    have hl : left.tokens.length ≤ levels := by omega
    have hr : right.tokens.length ≤ levels := by omega
    have hoperands := readsAs_pair (ihl hl) (ihr hr)
    have hread := readOperand_brackets rest (readDisjunction_or hoperands
      (stopsAt_closing _ _) (stopsAt_closing _ _))
    simpa [chainTokens, Clause.tokens] using hread

/-! ## Texts -/

theorem readOperand_bracketed {clause : Clause} {c : Condition} (h : Means layer clause c)
    {levels : Nat} (hlevels : clause.tokens.length < levels) (rest : List Token) :
    ReadsAs (readOperand layer levels) (.opening :: clause.tokens ++ [.closing]) c rest := by
  obtain ⟨levels, rfl⟩ := Nat.exists_eq_add_one_of_ne_zero (Nat.ne_zero_of_lt hlevels)
  exact readOperand_brackets _ (readDisjunction_single
    (readOperand_clause h (Nat.le_of_lt_succ hlevels) _) (stopsAt_closing _ _)
    (stopsAt_closing _ _))

/-- A clause in brackets, as an operand. -/
private def bracketed (p : Clause × Condition) : List Token × Condition :=
  (.opening :: p.1.tokens ++ [.closing], p.2)

private theorem chainTokens_bracketed (ps : List (Clause × Condition)) :
    chainTokens "AND" (ps.map bracketed) = Clause.furtherTokens (ps.map Prod.fst) := by
  rw [chainTokens, Clause.furtherTokens, List.flatMap_map, List.flatMap_map]
  rfl

private theorem length_le_chainTokens_of_mem (word : String) {o : List Token × Condition}
    {operands : List (List Token × Condition)} (h : o ∈ operands) :
    o.1.length ≤ (chainTokens word operands).length := by
  induction operands with
  | nil => cases h
  | cons first operands ih =>
    rw [chainTokens, List.flatMap_cons, List.length_append, List.length_cons]
    rcases List.mem_cons.mp h with rfl | h
    · omega
    · have hlength := ih h
      rw [chainTokens] at hlength
      omega

/-- The tokens of some clauses are read as what they stand for, joined to the left. -/
theorem readDisjunction_joined {first : Clause × Condition} {others : List (Clause × Condition)}
    (hmeans : ∀ p ∈ first :: others, Means layer p.1 p.2) {levels : Nat}
    (hlevels : (Clause.joinedTokens ((first :: others).map Prod.fst)).length < levels) :
    readDisjunction (readOperand layer levels)
        (Clause.joinedTokens ((first :: others).map Prod.fst)) =
      .ok ((others.map Prod.snd).foldl .and first.2, []) := by
  cases others with
  | nil =>
    have hread : ReadsAs _ _ _ [] := readDisjunction_single
      (readOperand_clause (hmeans first List.mem_cons_self) (Nat.le_of_lt hlevels) [])
      (stopsAt_nil _) (stopsAt_nil _)
    rw [ReadsAs, List.append_nil] at hread
    exact hread
  | cons second others =>
    have htokens : Clause.joinedTokens ((first :: second :: others).map Prod.fst) =
        (bracketed first).1 ++ chainTokens "AND" ((second :: others).map bracketed) := by
      rw [chainTokens_bracketed]
      simp [Clause.joinedTokens, bracketed]
    rw [htokens, List.length_append] at hlevels
    have hoperands : ∀ o ∈ bracketed first :: (second :: others).map bracketed, ∀ rest,
        ReadsAs (readOperand layer levels) o.1 o.2 rest := by
      intro o ho rest
      rw [← List.map_cons, List.mem_map] at ho
      obtain ⟨p, hp, rfl⟩ := ho
      refine readOperand_bracketed (hmeans p hp) ?_ rest
      have hlength : p.1.tokens.length < (bracketed p).1.length := by
        rw [bracketed, List.length_append, List.length_cons]
        omega
      rcases List.mem_cons.mp hp with rfl | hp
      · omega
      · have hle := length_le_chainTokens_of_mem "AND"
          (List.mem_map_of_mem (f := bracketed) hp)
        omega
    have hread := readDisjunction_and hoperands (stopsAt_nil _) (stopsAt_nil _)
    rw [ReadsAs, List.append_nil, ← htokens, List.map_map] at hread
    exact hread

/-- **The text of some clauses is read as what they stand for, joined to the left.** -/
theorem read_joined {first : Clause × Condition} {others : List (Clause × Condition)}
    (hmeans : ∀ p ∈ first :: others, Means layer p.1 p.2)
    (hwritten : ∀ p ∈ first :: others, p.1.IsWritten) {text : String}
    (htext : Clause.joined ((first :: others).map Prod.fst) = some text) :
    Condition.read layer text = .ok ((others.map Prod.snd).foldl .and first.2) := by
  have hwritten' : ∀ c ∈ (first :: others).map Prod.fst, c.IsWritten := by
    intro c hc
    obtain ⟨p, hp, rfl⟩ := List.mem_map.mp hc
    exact hwritten p hp
  have htokens := Token.all_joined hwritten' htext
  have hread := readDisjunction_joined hmeans (Nat.lt_succ_self _)
  simp only [Condition.read, htokens, Except.mapError, bind, Except.bind, StateT.run, hread,
    List.isEmpty_nil, if_true, pure, Except.pure]

end ForeignLayer.Filter
