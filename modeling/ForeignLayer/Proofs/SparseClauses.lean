import ForeignLayer.Proofs.FilterLayout
import ForeignLayer.Proofs.FilterReading

/-!
# Clauses without needless brackets

A clause can be written with fewer brackets than one around every combination: `NOT` binds tighter
than `AND`, `AND` tighter than `OR`, and both connectives group to the left. Only a clause that
binds weaker than its place asks for is put in brackets there.

The tokens of such a clause are still read as what it stands for. What is read at a place of a
strength is described by `Reads`: an operand is read whatever follows it, a conjunction is a chain
of operands and a disjunction a chain of conjunctions. A clause that binds tighter than its place is
a chain of one.
-/

namespace ForeignLayer.Filter

/-! ## Brackets where they are needed -/

/-- How tightly a clause binds, or has to bind at a place. -/
inductive Strength where
  | disjunction
  | conjunction
  | operand
deriving DecidableEq, Repr

/-- The place of a strength among the strengths, the weakest first. -/
def Strength.rank : Strength → Nat
  | disjunction => 0
  | conjunction => 1
  | operand => 2

namespace Clause

/-- How tightly a clause binds. -/
def strength : Clause → Strength
  | or .. => .disjunction
  | and .. => .conjunction
  | _ => .operand

/-- The tokens of a clause of one strength at a place that asks for another one: in brackets if the
clause binds weaker. -/
def placed (needed own : Strength) (ts : List Token) : List Token :=
  if needed.rank ≤ own.rank then ts else .opening :: ts ++ [.closing]

/-- The tokens of a clause, with the brackets that it needs and no others. -/
def sparse : Clause → List Token
  | compare field op value => [.name field, .op op, value.token]
  | isNull field => [.name field, .word "IS", .word "NULL"]
  | isNotNull field => [.name field, .word "IS", .word "NOT", .word "NULL"]
  | not c => .word "NOT" :: placed .operand c.strength c.sparse
  | and left right =>
    placed .conjunction left.strength left.sparse ++
      .word "AND" :: placed .operand right.strength right.sparse
  | or left right =>
    placed .disjunction left.strength left.sparse ++
      .word "OR" :: placed .conjunction right.strength right.sparse

end Clause

/-! ## Tokens side by side -/

/-- Whether tokens may follow each other, and may follow any token. -/
def AreApart (ts : List Token) : Prop :=
  ts.IsChain Token.Adjoins ∧ ∀ t ∈ ts.head?, ∀ u : Token, u.Adjoins t

theorem AreApart.append {ts us : List Token} (hts : AreApart ts) (hus : AreApart us) :
    AreApart (ts ++ us) := by
  refine ⟨List.isChain_append.mpr ⟨hts.1, hus.1, fun t _ u hu ↦ hus.2 u hu t⟩, ?_⟩
  intro t ht
  cases ts with
  | nil => exact hus.2 t ht
  | cons => exact hts.2 t ht

theorem areApart_singleton {t : Token} (h : ∀ u : Token, u.Adjoins t) : AreApart [t] := by
  refine ⟨List.isChain_singleton t, ?_⟩
  intro first hfirst
  obtain rfl := Option.some.inj hfirst
  exact h

theorem areApart_word (w : String) : AreApart [.word w] :=
  areApart_singleton fun u ↦ by cases u <;> trivial

theorem areApart_name (name : String) : AreApart [.name name] :=
  areApart_singleton fun u ↦ by cases u <;> trivial

theorem AreApart.placed {ts : List Token} (h : AreApart ts) (needed own : Strength) :
    AreApart (Clause.placed needed own ts) := by
  have hopening : AreApart [.opening] := areApart_singleton fun u ↦ by cases u <;> trivial
  have hclosing : AreApart [.closing] := areApart_singleton fun u ↦ by cases u <;> trivial
  unfold Clause.placed
  split
  · exact h
  · exact (hopening.append h).append hclosing

/-- No token of a clause runs into the one behind it. -/
theorem areApart_sparse (clause : Clause) : AreApart clause.sparse := by
  induction clause with
  | compare field op value =>
    refine ⟨List.isChain_cons_cons.mpr ⟨trivial, List.isChain_cons_cons.mpr ⟨?_, ?_⟩⟩,
      (areApart_name field).2⟩
    · cases value <;> trivial
    · exact List.isChain_singleton _
  | isNull field => exact ((areApart_name field).append (areApart_word _)).append (areApart_word _)
  | isNotNull field =>
    exact (((areApart_name field).append (areApart_word _)).append (areApart_word _)).append
      (areApart_word _)
  | not c ih => exact (areApart_word _).append (ih.placed _ _)
  | and left right ihl ihr =>
    exact (ihl.placed _ _).append ((areApart_word _).append (ihr.placed _ _))
  | or left right ihl ihr =>
    exact (ihl.placed _ _).append ((areApart_word _).append (ihr.placed _ _))

/-! ## Chains of clauses -/

/-- A chain of what is read in one way, with a word between any two and joined to the left. -/
inductive Joins (word : String) (join : Condition → Condition → Condition)
    (P : List Token → Condition → Prop) : List Token → Condition → Prop
  | single {ts : List Token} {c : Condition} (h : P ts c) : Joins word join P ts c
  | further {ts us : List Token} {left right : Condition} (h : Joins word join P ts left)
    (hright : P us right) : Joins word join P (ts ++ .word word :: us) (join left right)

section Joins

variable {word : String} {join : Condition → Condition → Condition}
  {P : List Token → Condition → Prop} {ts : List Token} {c : Condition}

theorem Joins.exists_operands (h : Joins word join P ts c) :
    ∃ (first : List Token × Condition) (others : List (List Token × Condition)),
      ts = first.1 ++ chainTokens word others ∧ c = (others.map Prod.snd).foldl join first.2 ∧
        ∀ o ∈ first :: others, P o.1 o.2 := by
  induction h with
  | @single ts c h =>
    refine ⟨(ts, c), [], ?_, rfl, List.forall_mem_singleton.mpr h⟩
    exact (List.append_nil ts).symm
  | @further ts us left right h hright ih =>
    obtain ⟨first, others, rfl, rfl, hothers⟩ := ih
    refine ⟨first, others ++ [(us, right)], ?_, ?_, ?_⟩
    · simp [chainTokens]
    · simp
    · intro o ho
      rw [← List.cons_append, List.mem_append, List.mem_singleton] at ho
      rcases ho with ho | rfl
      · exact hothers o ho
      · exact hright

/-- A chain is read to its end, if what it is made of is read in front of whatever `follows`. -/
theorem Joins.readsAs (h : Joins word join P ts c) {operand : Reader Condition}
    (follows : List Token → Prop) (hfollows : ∀ tail, follows (.word word :: tail))
    (hoperand : ∀ ts c, P ts c → ∀ rest, follows rest → ReadsAs operand ts c rest)
    {rest : List Token} (hrest : follows rest) (hstop : StopsAt word rest) :
    ReadsAs (readOperands word join operand) ts c rest := by
  obtain ⟨first, others, rfl, rfl, hothers⟩ := h.exists_operands
  exact readOperands_operands follows hfollows
    (fun o ho rest hrest ↦ hoperand o.1 o.2 (hothers o ho) rest hrest) hrest hstop

end Joins

/-! ## Places -/

variable {layer : Layer.Definition} {levels : Nat} {ts : List Token} {c : Condition}

/-- Whether tokens are read as a condition, nested in no more than a number of levels, at a place
that asks for a strength. -/
def Reads (layer : Layer.Definition) (levels : Nat) : Strength → List Token → Condition → Prop
  | .operand => fun ts c ↦ ∀ rest, ReadsAs (readOperand layer levels) ts c rest
  | .conjunction => Joins "AND" .and fun ts c ↦ ∀ rest, ReadsAs (readOperand layer levels) ts c rest
  | .disjunction => Joins "OR" .or (Joins "AND" .and fun ts c ↦
    ∀ rest, ReadsAs (readOperand layer levels) ts c rest)

/-- What binds tighter than its place asks for is read there. -/
theorem Reads.weaken {own needed : Strength} (h : Reads layer levels own ts c)
    (hle : needed.rank ≤ own.rank) : Reads layer levels needed ts c := by
  match own, needed with
  | .operand, .operand | .conjunction, .conjunction | .disjunction, .disjunction => exact h
  | .operand, .conjunction => exact .single h
  | .operand, .disjunction => exact .single (.single h)
  | .conjunction, .disjunction => exact .single h
  | .conjunction, .operand | .disjunction, .operand | .disjunction, .conjunction =>
    exact absurd hle (by decide)

theorem Reads.readsAs (h : Reads layer levels .disjunction ts c) {rest : List Token}
    (hand : StopsAt "AND" rest) (hor : StopsAt "OR" rest) :
    ReadsAs (readDisjunction (readOperand layer levels)) ts c rest := by
  have hnext (tail : List Token) : StopsAt "AND" (.word "OR" :: tail) := by simp [StopsAt]
  refine Joins.readsAs h (StopsAt "AND") hnext ?_ hand hor
  intro ts c hconjunction rest hrest
  exact hconjunction.readsAs (fun _ ↦ True) (fun _ ↦ trivial)
    (fun ts c hoperand rest _ ↦ hoperand rest) trivial hrest

theorem Reads.brackets (h : Reads layer levels .disjunction ts c) :
    Reads layer (levels + 1) .operand (.opening :: ts ++ [.closing]) c := by
  intro rest
  exact readOperand_brackets rest (h.readsAs (stopsAt_closing _ _) (stopsAt_closing _ _))

/-- What is read wherever its own strength is asked for is read at every other place, in brackets if
it needs them. -/
theorem reads_placed {own : Strength}
    (h : ∀ levels, ts.length ≤ levels → Reads layer levels own ts c) (needed : Strength)
    (hlevels : (Clause.placed needed own ts).length ≤ levels) :
    Reads layer levels needed (Clause.placed needed own ts) c := by
  unfold Clause.placed at hlevels ⊢
  split
  · next hle =>
    rw [if_pos hle] at hlevels
    exact (h levels hlevels).weaken hle
  · next hnot =>
    rw [if_neg hnot, List.length_append, List.length_cons, List.length_singleton] at hlevels
    obtain ⟨levels, rfl⟩ : ∃ n, levels = n + 1 := ⟨levels - 1, by omega⟩
    have hinner : Reads layer levels .disjunction ts c :=
      (h levels (by omega)).weaken (Nat.zero_le _)
    exact hinner.brackets.weaken (by cases needed <;> decide)

/-- **The sparse tokens of a clause are read as what it stands for.** -/
theorem reads_sparse {clause : Clause} (h : Means layer clause c)
    (hlevels : clause.sparse.length ≤ levels) :
    Reads layer levels clause.strength clause.sparse c := by
  -- a level is spent on every bracket and every negation, and each of them is a token
  induction h generalizing levels with
  | @compare name index field op literal value hindex hfield hvalue =>
    obtain ⟨levels, rfl⟩ := Nat.exists_eq_add_one_of_ne_zero (Nat.ne_zero_of_lt hlevels)
    intro rest
    exact (readOperand_name levels name _).trans
      (readPredicate_compare hindex hfield op hvalue rest)
  | @isNull name index field hindex hfield =>
    obtain ⟨levels, rfl⟩ := Nat.exists_eq_add_one_of_ne_zero (Nat.ne_zero_of_lt hlevels)
    intro rest
    exact (readOperand_name levels name _).trans (readPredicate_isNull hindex hfield rest)
  | @isNotNull name index field hindex hfield =>
    obtain ⟨levels, rfl⟩ := Nat.exists_eq_add_one_of_ne_zero (Nat.ne_zero_of_lt hlevels)
    intro rest
    exact (readOperand_name levels name _).trans (readPredicate_isNotNull hindex hfield rest)
  | @not clause c h ih =>
    rw [Clause.sparse, List.length_cons] at hlevels
    obtain ⟨levels, rfl⟩ := Nat.exists_eq_add_one_of_ne_zero (Nat.ne_zero_of_lt hlevels)
    have hoperand : Reads layer levels .operand _ c :=
      reads_placed (fun _ ↦ ih) .operand (Nat.le_of_succ_le_succ hlevels)
    intro rest
    exact readOperand_not (hoperand rest)
  | @and left right l r hl hr ihl ihr =>
    rw [Clause.sparse, List.length_append, List.length_cons] at hlevels
    have hleft : Reads layer levels .conjunction _ l :=
      reads_placed (fun _ ↦ ihl) .conjunction (by omega)
    have hright : Reads layer levels .operand _ r :=
      reads_placed (fun _ ↦ ihr) .operand (by omega)
    exact Joins.further hleft hright
  | @or left right l r hl hr ihl ihr =>
    rw [Clause.sparse, List.length_append, List.length_cons] at hlevels
    have hleft : Reads layer levels .disjunction _ l :=
      reads_placed (fun _ ↦ ihl) .disjunction (by omega)
    have hright : Reads layer levels .conjunction _ r :=
      reads_placed (fun _ ↦ ihr) .conjunction (by omega)
    exact Joins.further hleft hright

/-- **Every layout of the sparse tokens of a clause is read as what the clause stands for.** -/
theorem read_isLaidOut {clause : Clause} (h : Means layer clause c) {text : String}
    (htext : Token.IsLaidOut clause.sparse text.toList) : Condition.read layer text = .ok c := by
  have htokens : Token.all text = .ok clause.sparse :=
    Token.scan_isLaidOut htext (areApart_sparse clause).1
  have hreads : Reads layer (clause.sparse.length + 1) .disjunction clause.sparse c :=
    (reads_sparse h (Nat.le_succ _)).weaken (Nat.zero_le _)
  have hread := hreads.readsAs (stopsAt_nil _) (stopsAt_nil _)
  rw [ReadsAs, List.append_nil] at hread
  simp only [Condition.read, htokens, Except.mapError, bind, Except.bind, StateT.run, hread,
    List.isEmpty_nil, if_true, pure, Except.pure]

end ForeignLayer.Filter
