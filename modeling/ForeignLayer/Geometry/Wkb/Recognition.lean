import ForeignLayer.Geometry.Wkb.Spelling

/-!
# What readers of bytes accept

A reader *recognizes* a relation between values and bytes if it reads a value off exactly the bytes
that are related to it, whatever follows them. The relation of a composed reader is composed of the
relations of its parts, so that going through the definition of a reader gives its grammar. The last
statement is the one for whole trees: `Node.ofBytes` recognizes the spellings of trees, no deeper
than geometries may be nested.
-/

namespace ForeignLayer.Geometry.Wkb

open Bytes

-- Powers are the core library's, whichever other instances are in scope.
attribute [local instance (high)] instPowNat

variable {α β : Type}

/-! ## Readers in general -/

/-- Whether a reader reads a value off exactly the bytes that are related to it. -/
def Recognizes (r : Reader α) (P : α → List UInt8 → Prop) : Prop :=
  ∀ c a c', r c = .ok (a, c') ↔
    ∃ bs, P a bs ∧ c.rest = bs ++ c'.rest ∧ c'.offset = c.offset + bs.length

namespace Recognizes

variable {r : Reader α} {P : α → List UInt8 → Prop}

theorem congr {Q : α → List UInt8 → Prop} (hr : Recognizes r P) (h : ∀ a bs, P a bs ↔ Q a bs) :
    Recognizes r Q := by
  intro c a c'
  simp only [hr c a c', h]

theorem pure (a : α) : Recognizes (Pure.pure a : Reader α) fun b bs ↦ b = a ∧ bs = [] := by
  intro c b c'
  have hrun : (Pure.pure a : Reader α) c = .ok (a, c) := rfl
  rw [hrun, Except.ok.injEq, Prod.mk.injEq]
  constructor
  · rintro ⟨rfl, rfl⟩
    exact ⟨[], ⟨rfl, rfl⟩, rfl, rfl⟩
  · rintro ⟨bs, ⟨rfl, rfl⟩, hrest, hoffset⟩
    cases c
    cases c'
    simp_all

theorem throw (fault : Fault) :
    Recognizes (MonadExcept.throw fault : Reader α) fun _ _ ↦ False := by
  intro c b c'
  have hrun : (MonadExcept.throw fault : Reader α) c = .error fault := rfl
  simp [hrun]

theorem lift (e : Except Fault α) :
    Recognizes (liftM e : Reader α) fun a bs ↦ e = .ok a ∧ bs = [] := by
  cases e with
  | error fault => exact (throw fault).congr fun a bs ↦ by simp
  | ok a => exact (pure a).congr fun b bs ↦ by simp [eq_comm]

theorem bind {f : α → Reader β} {Q : α → β → List UInt8 → Prop} (hr : Recognizes r P)
    (hf : ∀ a bs, P a bs → Recognizes (f a) (Q a)) :
    Recognizes (r >>= f) fun b bs ↦
      ∃ a first rest, P a first ∧ Q a b rest ∧ bs = first ++ rest := by
  intro c b c''
  have hrun : (r >>= f) c = (r c).bind fun p ↦ f p.1 p.2 := rfl
  rw [hrun]
  constructor
  · intro h
    cases hc : r c with
    | error fault => rw [hc] at h; cases h
    | ok p =>
      rw [hc] at h
      obtain ⟨first, hP, hrest, hoffset⟩ := (hr c p.1 p.2).mp hc
      obtain ⟨rest, hQ, hrest', hoffset'⟩ := (hf p.1 first hP p.2 b c'').mp h
      refine ⟨first ++ rest, ⟨p.1, first, rest, hP, hQ, rfl⟩, ?_, ?_⟩
      · rw [hrest, hrest', List.append_assoc]
      · rw [hoffset', hoffset, List.length_append, Nat.add_assoc]
  · rintro ⟨bs, ⟨a, first, rest, hP, hQ, rfl⟩, hrest, hoffset⟩
    have hc : r c = .ok (a, ⟨c.offset + first.length, rest ++ c''.rest⟩) :=
      (hr c a _).mpr ⟨first, hP, by rw [hrest, List.append_assoc], rfl⟩
    rw [hc]
    refine (hf a first hP _ b c'').mpr ⟨rest, hQ, rfl, ?_⟩
    rw [hoffset, List.length_append, Nat.add_assoc]

theorem map {f : α → β} (hr : Recognizes r P) :
    Recognizes (f <$> r) fun b bs ↦ ∃ a, P a bs ∧ b = f a := by
  have h := hr.bind (f := fun a ↦ (Pure.pure (f a) : Reader β)) fun a _ _ ↦ pure (f a)
  refine h.congr fun b bs ↦ ?_
  constructor
  · rintro ⟨a, first, rest, hP, ⟨rfl, rfl⟩, rfl⟩
    exact ⟨a, by rwa [List.append_nil], rfl⟩
  · rintro ⟨a, hP, rfl⟩
    exact ⟨a, bs, [], hP, ⟨rfl, rfl⟩, (List.append_nil bs).symm⟩

/-- A reader that recognizes a relation takes at most one value off one list of bytes. -/
theorem unique {a b : α} {bs : List UInt8} (hr : Recognizes r P) (ha : P a bs) (hb : P b bs) :
    a = b := by
  have h : ∀ x, P x bs → r ⟨0, bs⟩ = .ok (x, ⟨bs.length, []⟩) := fun x hx ↦
    (hr ⟨0, bs⟩ x _).mpr ⟨bs, hx, (List.append_nil bs).symm, (Nat.zero_add _).symm⟩
  have hab := (h a ha).symm.trans (h b hb)
  rw [Except.ok.injEq, Prod.mk.injEq] at hab
  exact hab.1

end Recognizes

/-! ## Bytes and words -/

theorem recognizes_take (n : Nat) :
    Recognizes (take n) fun taken bs ↦ taken.length = n ∧ bs = taken := by
  intro c taken c'
  unfold take
  split
  · next hlt =>
    refine ⟨fun h ↦ (by cases h), ?_⟩
    rintro ⟨bs, ⟨hlen, rfl⟩, hrest, -⟩
    have : c.rest.length = bs.length + c'.rest.length := by rw [hrest, List.length_append]
    omega
  · next hlt =>
    rw [Except.ok.injEq, Prod.mk.injEq]
    constructor
    · rintro ⟨rfl, rfl⟩
      have hlen : (c.rest.take n).length = n := by rw [List.length_take]; omega
      exact ⟨_, ⟨hlen, rfl⟩, (List.take_append_drop n c.rest).symm, by rw [hlen]⟩
    · rintro ⟨bs, ⟨hlen, rfl⟩, hrest, hoffset⟩
      refine ⟨by rw [hrest, ← hlen, List.take_left], ?_⟩
      rw [← hlen, hrest, List.drop_left, ← hoffset]

theorem recognizes_takeByte : Recognizes takeByte fun b bs ↦ bs = [b] := by
  intro c b c'
  unfold takeByte
  split
  · next hnil =>
    refine ⟨fun h ↦ (by cases h), ?_⟩
    rintro ⟨bs, rfl, hrest, -⟩
    rw [hnil] at hrest
    cases hrest
  · next b' rest hcons =>
    rw [Except.ok.injEq, Prod.mk.injEq]
    constructor
    · rintro ⟨rfl, rfl⟩
      exact ⟨[b'], rfl, hcons, rfl⟩
    · rintro ⟨bs, rfl, hrest, hoffset⟩
      rw [hcons, List.singleton_append, List.cons.injEq] at hrest
      refine ⟨hrest.1, ?_⟩
      rw [hrest.2]
      exact congrArg (Cursor.mk · c'.rest) hoffset.symm

theorem recognizes_takeWord (order : Order) (w : Nat) :
    Recognizes (takeWord order w) fun n bs ↦ n < 256 ^ w ∧ bs = order.encode w n := by
  refine (recognizes_take w).map.congr fun n bs ↦ ?_
  constructor
  · rintro ⟨taken, ⟨rfl, rfl⟩, rfl⟩
    exact ⟨order.decode_lt bs, (order.encode_decode bs).symm⟩
  · rintro ⟨hlt, rfl⟩
    exact ⟨_, ⟨order.length_encode w n, rfl⟩, (order.decode_encode hlt).symm⟩

theorem recognizes_takeOrder : Recognizes takeOrder fun order bs ↦ bs = [order.mark] := by
  refine (recognizes_takeByte.bind
    (Q := fun mark order bs ↦ Order.ofMark? mark = some order ∧ bs = []) ?_).congr ?_
  rotate_left
  · intro order bs
    constructor
    · rintro ⟨mark, first, rest, rfl, ⟨hmark, rfl⟩, rfl⟩
      rw [Order.mark_of_ofMark? hmark, List.append_nil]
    · rintro rfl
      exact ⟨_, _, [], rfl, ⟨order.ofMark?_mark, rfl⟩, rfl⟩
  · intro mark _ _
    cases hmark : Order.ofMark? mark with
    | none =>
      dsimp only
      exact (Recognizes.throw _).congr fun order bs ↦ by simp
    | some order =>
      dsimp only
      exact (Recognizes.pure order).congr fun order' bs ↦ by simp [eq_comm]

theorem recognizes_takeMany {part : Reader α} {P : α → List UInt8 → Prop}
    (hpart : Recognizes part P) (count : Nat) :
    Recognizes (takeMany part count) fun parts bs ↦
      parts.length = count ∧ Sequence P parts bs := by
  induction count with
  | zero =>
    refine (Recognizes.pure []).congr fun parts bs ↦ ?_
    constructor
    · rintro ⟨rfl, rfl⟩
      exact ⟨rfl, rfl⟩
    · rintro ⟨hlen, hseq⟩
      cases List.eq_nil_of_length_eq_zero hlen
      exact ⟨rfl, hseq⟩
  | succ count ih =>
    refine (hpart.bind fun first _ _ ↦ ih.bind fun others _ _ ↦
      Recognizes.pure (first :: others)).congr fun parts bs ↦ ?_
    constructor
    · rintro ⟨first, b₁, -, hfirst, ⟨others, b₂, -, ⟨hlen, hseq⟩, ⟨rfl, rfl⟩, rfl⟩, rfl⟩
      refine ⟨congrArg (· + 1) hlen, b₁, b₂, hfirst, hseq, ?_⟩
      rw [List.append_nil]
    · rintro ⟨hlen, hseq⟩
      cases parts with
      | nil => cases hlen
      | cons first others =>
        obtain ⟨b₁, b₂, hfirst, hothers, rfl⟩ := hseq
        refine ⟨first, b₁, b₂, hfirst, ⟨others, b₂, [], ⟨?_, hothers⟩, ⟨rfl, rfl⟩, ?_⟩, rfl⟩
        · exact Nat.succ.inj hlen
        · rw [List.append_nil]

theorem recognizes_counted {part : Reader α} {P : α → List UInt8 → Prop}
    (hpart : Recognizes part P) (order : Order) (f : List α → β) :
    Recognizes (do let count ← takeWord order 4; f <$> takeMany part count) fun b bs ↦
      ∃ parts, Counted order P parts bs ∧ f parts = b := by
  refine ((recognizes_takeWord order 4).bind fun count _ _ ↦
    (recognizes_takeMany hpart count).map).congr fun b bs ↦ ?_
  constructor
  · rintro ⟨count, first, rest, ⟨hlt, rfl⟩, ⟨parts, ⟨rfl, hseq⟩, rfl⟩, rfl⟩
    exact ⟨parts, ⟨hlt, rest, hseq, rfl⟩, rfl⟩
  · rintro ⟨parts, ⟨hlt, rest, hseq, rfl⟩, rfl⟩
    exact ⟨_, _, rest, ⟨hlt, rfl⟩, ⟨parts, ⟨rfl, hseq⟩, rfl⟩, rfl⟩

/-! ## Headers -/

namespace Heading

/-- What the code of a heading says. -/
def typeCode (h : Heading) : TypeCode := ⟨h.kind, h.dims, h.tag.isSome⟩

/-- The dimensions that a number of thousands announces. -/
private def dimsOfThousands : Nat → Dimensions
  | 0 => .xy
  | 1 => .xyz
  | 2 => .xym
  | _ => .xyzm

private theorem thousandsOf_lt (d : Dimensions) : thousandsOf d < 4 := by cases d <;> decide

private theorem thousandsOf_dimsOfThousands {n : Nat} (h : n < 4) :
    thousandsOf (dimsOfThousands n) = n := by
  match n, h with
  | 0, _ | 1, _ | 2, _ | 3, _ => rfl

private theorem Kind.code_lt (k : Kind) : k.code < 8 := by cases k <;> decide

private theorem code_eq (h : Heading) :
    h.code = h.kind.code + 1000 * thousandsOf h.thousands + 2147483648 * h.flags.hasZ.toNat +
      1073741824 * h.flags.hasM.toNat + 536870912 * h.tag.isSome.toNat := rfl

private theorem parts_lt (h : Heading) :
    h.kind.code < 8 ∧ thousandsOf h.thousands < 4 ∧ h.flags.hasZ.toNat ≤ 1 ∧
      h.flags.hasM.toNat ≤ 1 ∧ h.tag.isSome.toNat ≤ 1 :=
  ⟨Kind.code_lt _, thousandsOf_lt _, Bool.toNat_le _, Bool.toNat_le _, Bool.toNat_le _⟩

theorem code_lt (h : Heading) : h.code < 4294967296 := by
  have hparts := h.parts_lt
  rw [code_eq]
  omega

private theorem code_mod (h : Heading) :
    h.code % 536870912 = h.kind.code + 1000 * thousandsOf h.thousands := by
  have hparts := h.parts_lt
  rw [code_eq]
  omega

private theorem code_div (h : Heading) :
    h.code / 536870912 =
      4 * h.flags.hasZ.toNat + 2 * h.flags.hasM.toNat + h.tag.isSome.toNat := by
  have hparts := h.parts_lt
  rw [code_eq]
  omega

theorem decode_code (h : Heading) : TypeCode.decode h.code = .ok h.typeCode := by
  obtain ⟨hkind, hthousands, hz, hm, htag⟩ := h.parts_lt
  have hmod := h.code_mod
  have hdiv := h.code_div
  have h₁ : h.code / TypeCode.zFlag % 2 = h.flags.hasZ.toNat := by
    rw [show TypeCode.zFlag = 536870912 * 4 from rfl, ← Nat.div_div_eq_div_mul, hdiv]
    omega
  have h₂ : h.code / TypeCode.mFlag % 2 = h.flags.hasM.toNat := by
    rw [show TypeCode.mFlag = 536870912 * 2 from rfl, ← Nat.div_div_eq_div_mul, hdiv]
    omega
  have h₃ : h.code / TypeCode.tagFlag % 2 = h.tag.isSome.toNat := by
    rw [show TypeCode.tagFlag = 536870912 from rfl, hdiv]
    omega
  have h₄ : h.code % TypeCode.tagFlag / 1000 = thousandsOf h.thousands := by
    rw [show TypeCode.tagFlag = 536870912 from rfl, hmod]
    omega
  have h₅ : h.code % TypeCode.tagFlag % 1000 = h.kind.code := by
    rw [show TypeCode.tagFlag = 536870912 from rfl, hmod]
    omega
  have hbit (b : Bool) : (b.toNat == 1) = b := by cases b <;> rfl
  simp only [TypeCode.decode, h₁, h₂, h₃, h₄, h₅, hbit, Kind.ofCode?_code]
  cases hd : h.thousands <;> simp [thousandsOf, typeCode, dims, hd, Dimensions.hasZ,
    Dimensions.hasM, Bind.bind, Except.bind, Pure.pure, Except.pure]

private theorem decode_inv {code : Nat} {t : TypeCode} (h : TypeCode.decode code = .ok t) :
    code % 536870912 / 1000 < 4 ∧ t.kind.code = code % 536870912 % 1000 ∧
      t.tagged = (code / 536870912 % 2 == 1) ∧
      t.dims = .of ((code / 2147483648 % 2 == 1) ||
          (dimsOfThousands (code % 536870912 / 1000)).hasZ)
        ((code / 1073741824 % 2 == 1) || (dimsOfThousands (code % 536870912 / 1000)).hasM) := by
  simp only [TypeCode.decode, TypeCode.zFlag, TypeCode.mFlag, TypeCode.tagFlag] at h
  generalize code % 536870912 / 1000 = thousands at h ⊢
  cases hkind : Kind.ofCode? (code % 536870912 % 1000) with
  | none =>
    rw [hkind] at h
    split at h <;> simp [Bind.bind, Except.bind, Pure.pure, Except.pure, MonadExcept.throw] at h
  | some kind =>
    rw [hkind] at h
    have hcode := Kind.code_of_ofCode? hkind
    split at h <;>
      simp [Bind.bind, Except.bind, Pure.pure, Except.pure, MonadExcept.throw] at h
    all_goals
      subst h
      simp [hcode, dimsOfThousands, Dimensions.hasZ, Dimensions.hasM]

/-- A code that can be read is the one of a heading, with any tag in its place. -/
theorem exists_of_decode {code : Nat} {t : TypeCode} (hlt : code < 4294967296)
    (h : TypeCode.decode code = .ok t) (order : Order) (tag : Option (BitVec 32))
    (htag : tag.isSome = t.tagged) :
    ∃ heading : Heading, heading.order = order ∧ heading.tag = tag ∧ heading.code = code ∧
      heading.kind = t.kind ∧ heading.dims = t.dims := by
  obtain ⟨hthousands, hkind, htagged, hdims⟩ := decode_inv h
  refine ⟨⟨order, t.kind, dimsOfThousands (code % 536870912 / 1000),
    .of (code / 2147483648 % 2 == 1) (code / 1073741824 % 2 == 1), tag⟩, rfl, rfl, ?_, rfl, ?_⟩
  · have hbit (n : Nat) : (n % 2 == 1).toNat = n % 2 := by
      rcases Nat.mod_two_eq_zero_or_one n with h | h <;> rw [h] <;> rfl
    have hz : code / 2147483648 = code / 536870912 / 4 := by rw [Nat.div_div_eq_div_mul]
    have hm : code / 1073741824 = code / 536870912 / 2 := by rw [Nat.div_div_eq_div_mul]
    have hhigh : code / 536870912 < 8 := by omega
    have hsum : 4 * (code / 536870912 / 4 % 2) + 2 * (code / 536870912 / 2 % 2) +
        code / 536870912 % 2 = code / 536870912 := by
      generalize code / 536870912 = high at hhigh ⊢
      match high, hhigh with
      | 0, _ | 1, _ | 2, _ | 3, _ | 4, _ | 5, _ | 6, _ | 7, _ => rfl
    simp only [code_eq, hkind, thousandsOf_dimsOfThousands hthousands, Dimensions.hasZ_of,
      Dimensions.hasM_of, htag, htagged, hbit, hz, hm]
    omega
  · simp only [dims, Dimensions.hasZ_of, Dimensions.hasM_of, hdims]

end Heading

theorem recognizes_header :
    Recognizes Header.read fun header bs ↦ ∃ h : Heading, h.header = header ∧ h.bytes = bs := by
  -- behind the type code stands a tag, if the code says so
  have htail : ∀ (order : Order) (t : TypeCode),
      Recognizes (if t.tagged then do
          let tag ← takeWord order 4
          return (⟨order, t.kind, t.dims, Srid.ofCode? (BitVec.ofNat 32 tag)⟩ : Header)
        else return ⟨order, t.kind, t.dims, none⟩)
        fun header bs ↦ ∃ tag : Option (BitVec 32), tag.isSome = t.tagged ∧
          header = ⟨order, t.kind, t.dims, tag.bind Srid.ofCode?⟩ ∧
          bs = Heading.tagBytes order tag := by
    intro order t
    split
    · next htagged =>
      refine ((recognizes_takeWord order 4).bind fun _ _ _ ↦ Recognizes.pure _).congr
        fun header bs ↦ ?_
      constructor
      · rintro ⟨n, first, rest, ⟨hlt, rfl⟩, ⟨rfl, rfl⟩, rfl⟩
        refine ⟨some (BitVec.ofNat 32 n), htagged.symm, rfl, ?_⟩
        have hword : (BitVec.ofNat 32 n).toNat = n := Nat.mod_eq_of_lt hlt
        rw [List.append_nil, Heading.tagBytes, hword]
      · rintro ⟨tag, hsome, rfl, rfl⟩
        cases tag with
        | none => rw [← hsome] at htagged; cases htagged
        | some word =>
          refine ⟨word.toNat, _, [], ⟨word.isLt, rfl⟩, ⟨?_, rfl⟩, (List.append_nil _).symm⟩
          rw [BitVec.ofNat_toNat, BitVec.setWidth_eq]
          rfl
    · next htagged =>
      refine (Recognizes.pure _).congr fun header bs ↦ ?_
      constructor
      · rintro ⟨rfl, rfl⟩
        exact ⟨none, by simpa using htagged, rfl, rfl⟩
      · rintro ⟨tag, hsome, rfl, rfl⟩
        cases tag with
        | none => exact ⟨rfl, rfl⟩
        | some word => exact absurd hsome.symm htagged
  refine (recognizes_takeOrder.bind fun order _ _ ↦
    (recognizes_takeWord order 4).bind fun code _ _ ↦
      (Recognizes.lift (TypeCode.decode code)).bind fun t _ _ ↦ htail order t).congr
    fun header bs ↦ ?_
  constructor
  · rintro ⟨order, -, -, rfl, ⟨code, -, -, ⟨hlt, rfl⟩, ⟨t, -, -, ⟨hcode, rfl⟩,
      ⟨tag, hsome, rfl, rfl⟩, rfl⟩, rfl⟩, rfl⟩
    -- whatever code was read, some heading is spelled with it
    obtain ⟨h, rfl, rfl, rfl, hkind, hdims⟩ := Heading.exists_of_decode hlt hcode order tag hsome
    refine ⟨h, ?_, rfl⟩
    rw [Heading.header, hkind, hdims]
  · rintro ⟨h, rfl, rfl⟩
    exact ⟨h.order, _, _, rfl, ⟨h.code, _, _, ⟨h.code_lt, rfl⟩, ⟨h.typeCode, [], _,
      ⟨h.decode_code, rfl⟩, ⟨h.tag, rfl, rfl, rfl⟩, rfl⟩, rfl⟩, rfl⟩

/-- **A header is read off exactly the bytes that some heading of it starts.** -/
theorem Header.ofBytes_eq_ok {b : List UInt8} {h : Header} :
    Header.ofBytes b = .ok h ↔ ∃ heading rest, Heading.header heading = h ∧
      b = heading.bytes ++ rest := by
  have hrun : Header.ofBytes b = (Header.read ⟨0, b⟩).map Prod.fst := rfl
  rw [hrun]
  constructor
  · intro hread
    rcases hheader : Header.read ⟨0, b⟩ with fault | ⟨h', c⟩
    · rw [hheader] at hread
      cases hread
    · rw [hheader] at hread
      obtain rfl : h' = h := Except.ok.inj hread
      obtain ⟨_, ⟨heading, hheading, rfl⟩, hrest, -⟩ := (recognizes_header _ _ _).mp hheader
      exact ⟨heading, c.rest, hheading, hrest⟩
  · rintro ⟨heading, rest, hheading, rfl⟩
    have hread : Header.read ⟨0, heading.bytes ++ rest⟩ = .ok (h, ⟨heading.bytes.length, rest⟩) :=
      (recognizes_header _ _ _).mpr ⟨_, ⟨heading, hheading, rfl⟩, rfl, (Nat.zero_add _).symm⟩
    rw [hread]
    rfl

/-! ## Trees -/

theorem recognizes_run (order : Order) (dims : Dimensions) :
    Recognizes (Run.read order dims) (Run.Spelled order dims) := by
  refine ((recognizes_takeWord order 4).bind fun count _ _ ↦
    (recognizes_take (count * (8 * dims.ordinates))).bind fun ordinates _ _ ↦
      Recognizes.pure (⟨count, ordinates⟩ : Run)).congr fun r bs ↦ ?_
  constructor
  · rintro ⟨count, _, _, ⟨hlt, rfl⟩, ⟨ordinates, _, _, ⟨hlen, rfl⟩, ⟨rfl, rfl⟩, rfl⟩, rfl⟩
    refine ⟨hlt, hlen, ?_⟩
    rw [List.append_nil, Run.encode]
  · rintro ⟨hlt, hlen, rfl⟩
    refine ⟨_, _, _, ⟨hlt, rfl⟩, ⟨_, _, [], ⟨hlen, rfl⟩, ⟨rfl, rfl⟩, rfl⟩, ?_⟩
    rw [List.append_nil, Run.encode]

section Members

variable {member : Reader (Node × Option Srid)} {P : Node × Option Srid → List UInt8 → Prop}
  (hmember : Recognizes member P)

include hmember

/-- Members are read with their tags, which are dropped. -/
theorem recognizes_untagged :
    Recognizes (Prod.fst <$> member) fun m part ↦ ∃ t, P (m, t) part := by
  refine hmember.map.congr fun m part ↦ ?_
  constructor
  · rintro ⟨⟨m, t⟩, hP, rfl⟩
    exact ⟨t, hP⟩
  · rintro ⟨t, hP⟩
    exact ⟨_, hP, rfl⟩

theorem recognizes_collection (order : Order) (k : CollectionKind) (dims : Dimensions)
    (srid : Option Srid) :
    Recognizes (Node.readBody.collection member ⟨order, k.kind, dims, srid⟩ k) fun node bs ↦
      node.header srid = ⟨order, k.kind, dims, srid⟩ ∧
        node.BodySpelled (fun m part ↦ ∃ t, P (m, t) part) bs := by
  refine (recognizes_counted (recognizes_untagged hmember) order _).congr fun node bs ↦ ?_
  constructor
  · rintro ⟨members, hcounted, rfl⟩
    exact ⟨rfl, hcounted⟩
  · rintro ⟨hheader, hbody⟩
    cases node with
    | collection order' dims' k' members =>
      simp only [Node.header, Node.order, Node.dims, Node.kind, Header.mk.injEq] at hheader
      obtain ⟨rfl, hkind, rfl, -⟩ := hheader
      cases CollectionKind.kind_injective hkind
      exact ⟨members, hbody, rfl⟩
    | _ =>
      simp only [Node.header, Node.kind, Header.mk.injEq] at hheader
      cases k <;> simp [CollectionKind.kind] at hheader

theorem recognizes_body (h : Header) :
    Recognizes (Node.readBody member h) fun node bs ↦
      node.header h.srid = h ∧ node.BodySpelled (fun m part ↦ ∃ t, P (m, t) part) bs := by
  obtain ⟨order, kind, dims, srid⟩ := h
  -- the kinds with members differ only in the members that they allow
  have hcollection (k : CollectionKind) := recognizes_collection hmember order k dims srid
  cases kind with
  | geometry =>
    refine (Recognizes.throw _).congr fun node bs ↦ ⟨False.elim, fun h ↦ ?_⟩
    exact node.kind_ne_geometry (congrArg Header.kind h.1)
  | point =>
    refine (recognizes_take _).map.congr fun node bs ↦ ?_
    constructor
    · rintro ⟨ordinates, ⟨hlen, rfl⟩, rfl⟩
      exact ⟨rfl, hlen, rfl⟩
    · rintro ⟨hheader, hbody⟩
      obtain ⟨ordinates, rfl⟩ := Node.eq_point hheader
      exact ⟨ordinates, hbody, rfl⟩
  | lineString =>
    refine (recognizes_run _ _).map.congr fun node bs ↦ ?_
    constructor
    · rintro ⟨run, hrun, rfl⟩
      exact ⟨rfl, hrun⟩
    · rintro ⟨hheader, hbody⟩
      obtain ⟨run, rfl⟩ := Node.eq_lineString hheader
      exact ⟨run, hbody, rfl⟩
  | polygon =>
    refine (recognizes_counted (recognizes_run order dims) order _).congr fun node bs ↦ ?_
    constructor
    · rintro ⟨rings, hcounted, rfl⟩
      exact ⟨rfl, hcounted⟩
    · rintro ⟨hheader, hbody⟩
      obtain ⟨rings, rfl⟩ := Node.eq_polygon hheader
      exact ⟨rings, hbody, rfl⟩
  | multiPoint => exact hcollection .multiPoint
  | multiLineString => exact hcollection .multiLineString
  | multiPolygon => exact hcollection .multiPolygon
  | geometryCollection => exact hcollection .geometryCollection

end Members

/-- **Reading a tree takes every spelling of it**, with members on no more levels than given. -/
theorem recognizes_levels (levels : Nat) :
    Recognizes (Node.readLevels levels) fun p bs ↦
      Node.Spelled Heading.Free levels Heading.Free p.1 p.2 bs := by
  -- a tree without levels has no spelling, and its reader gives up
  induction levels with
  | zero => exact Recognizes.throw _
  | succ levels ih =>
    refine (recognizes_header.bind fun h _ _ ↦
      (recognizes_body ih h).bind fun node _ _ ↦
        Recognizes.pure (node, h.srid)).congr fun p bs ↦ ?_
    constructor
    · rintro ⟨_, _, _, ⟨h, rfl, rfl⟩, ⟨node, body, _, ⟨hheader, hbody⟩, ⟨rfl, rfl⟩, rfl⟩, rfl⟩
      refine ⟨h, body, trivial, hheader.symm, hbody, ?_⟩
      rw [List.append_nil]
    · rintro ⟨h, body, -, hheader, hbody, rfl⟩
      refine ⟨_, _, _, ⟨h, rfl, rfl⟩, ⟨p.1, body, [], ⟨?_, hbody⟩, ⟨?_, rfl⟩, ?_⟩, rfl⟩
      · rw [hheader]
        rfl
      · rw [hheader]
        rfl
      · rw [List.append_nil]

/-- **Bytes are read as a tree and a tag exactly if they spell them.** -/
theorem Node.ofBytes_eq_ok {bytes : List UInt8} {node : Node} {tag : Option Srid} :
    Node.ofBytes bytes = .ok (node, tag) ↔
      Node.Spelled Heading.Free (maxDepth + 1) Heading.Free node tag bytes := by
  have hread := recognizes_levels (maxDepth + 1) ⟨0, bytes⟩ (node, tag)
  constructor
  · intro h
    cases hrun : Node.readLevels (maxDepth + 1) ⟨0, bytes⟩ with
    | error fault =>
      simp [Node.ofBytes, StateT.run, hrun, Bind.bind, Except.bind] at h
    | ok p =>
      obtain ⟨result, c⟩ := p
      simp only [Node.ofBytes, StateT.run, hrun, Bind.bind, Except.bind] at h
      split at h
      · next hempty =>
        cases h
        obtain ⟨bs, hbs, hrest, -⟩ := (hread c).mp hrun
        rw [List.isEmpty_iff.mp hempty, List.append_nil] at hrest
        rw [show bytes = bs from hrest]
        exact hbs
      · cases h
  · intro h
    have hrun := (hread ⟨bytes.length, []⟩).mpr
      ⟨bytes, h, (List.append_nil bytes).symm, (Nat.zero_add _).symm⟩
    simp [Node.ofBytes, StateT.run, hrun, Bind.bind, Except.bind, Pure.pure, Except.pure]

theorem Node.header_of_ofBytes {bytes : List UInt8} {node : Node} {tag : Option Srid}
    (h : Node.ofBytes bytes = .ok (node, tag)) : Header.ofBytes bytes = .ok (node.header tag) := by
  obtain ⟨heading, body, -, hheader, -, rfl⟩ := Node.ofBytes_eq_ok.mp h
  exact Header.ofBytes_eq_ok.mpr ⟨heading, body, hheader, rfl⟩

end ForeignLayer.Geometry.Wkb
