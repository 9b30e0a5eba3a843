import ForeignLayer.Number.Floating

/-!
# The fewest digits that read back

A finite word stands for an interval of reals: those that round to it. `shortest` looks for a
decimal in that interval on coarser grids first (one digit, two digits, …), so that the first hit
has the fewest digits; of two hits on one grid the nearer one is taken. On each grid only the two
neighbours of the value have to be tried, because the interval contains the value: if it holds any
point of the grid it holds one of them.

All comparisons are made in `Nat`, on quarters of the unit in the last place.
-/

namespace ForeignLayer.Number

-- Powers are the core library's, whichever other instances are in scope.
attribute [local instance (high)] instPowNat

/-- A decimal `digits · 10 ^ exponent`. -/
structure Decimal where
  digits : Nat
  exponent : Int
deriving DecidableEq, Repr

/-- The reals that round to a finite word, scaled so that its ends are naturals over `den`. -/
structure RoundingInterval where
  /-- The lower end, times `den`. -/
  low : Nat
  /-- The value of the word, times `den`. -/
  value : Nat
  /-- The upper end, times `den`. -/
  high : Nat
  /-- The common denominator. -/
  den : Nat
  /-- Whether the ends themselves round to the word. -/
  closed : Bool

/-- The interval of the finite value `m · 2 ^ q`: half a unit to each side, but a quarter below a
power of two, where the words lie twice as dense. The ends belong to it iff `m` is even. -/
def Layout.roundingInterval (L : Layout) (m : Nat) (q : Int) : RoundingInterval :=
  let below := if m = L.unit ∧ L.minExponent < q then 1 else 2
  let up := 2 ^ (q - 2).toNat
  { low := (4 * m - below) * up, value := 4 * m * up, high := (4 * m + 2) * up
    den := 2 ^ (2 - q).toNat, closed := m % 2 == 0 }

namespace RoundingInterval

/-- The least `k` with `value < 10 ^ k`, searched from an estimate that is one off at most. -/
def decimalExponent (i : RoundingInterval) : Int :=
  let guess : Int := Layout.binaryExponent i.value i.den * 30103 / 100000 - 1
  let fits (k : Int) : Bool :=
    if 0 ≤ k then decide (i.value < i.den * 10 ^ k.toNat)
    else decide (i.value * 10 ^ (-k).toNat < i.den)
  if fits guess then guess
  else if fits (guess + 1) then guess + 1
  else if fits (guess + 2) then guess + 2
  else guess + 3

/-- The decimal on the grid of `10 ^ t` that lies in the interval nearest to its value. -/
def onGrid? (i : RoundingInterval) (t : Int) : Option Decimal :=
  let scale := 10 ^ (-t).toNat
  let step := i.den * 10 ^ t.toNat
  let inside (d : Nat) : Bool :=
    if i.closed then i.low * scale ≤ d * step && d * step ≤ i.high * scale
    else i.low * scale < d * step && d * step < i.high * scale
  let d := i.value * scale / step
  let rest := i.value * scale % step
  match inside d, inside (d + 1) with
  | true, true =>
    if step < 2 * rest ∨ (step = 2 * rest ∧ d % 2 = 1) then some ⟨d + 1, t⟩ else some ⟨d, t⟩
  | true, false => some ⟨d, t⟩
  | false, true => some ⟨d + 1, t⟩
  | false, false => none

/-- The first hit among the grids from `10 ^ t` down, at most `count` of them. -/
def firstHit (i : RoundingInterval) : Nat → Int → Decimal
  | 0, t => ⟨i.value * 10 ^ (-t).toNat / (i.den * 10 ^ t.toNat), t⟩
  | count + 1, t => (i.onGrid? t).getD (firstHit i count (t - 1))

end RoundingInterval

/-- The decimal without the zeros at the end of its digits. -/
def Decimal.trim (d : Decimal) : Decimal :=
  go d.digits d.digits d.exponent
where
  /-- Drops one zero a step; a natural has fewer digits than its own size. -/
  go : Nat → Nat → Int → Decimal
    | 0, n, e => ⟨n, e⟩
    | fuel + 1, n, e => if n ≠ 0 ∧ n % 10 = 0 then go fuel (n / 10) (e + 1) else ⟨n, e⟩

/-- The decimal with the fewest digits that rounds to the positive finite value `m · 2 ^ q`. -/
def Layout.shortest (L : Layout) (m : Nat) (q : Int) : Decimal :=
  if m = 0 then ⟨0, 0⟩ else
    let i := L.roundingInterval m q
    (i.firstHit 17 (i.decimalExponent - 1)).trim

end ForeignLayer.Number
