import LineCommands.Binary64.SignedDyadic

/-!
# Shortest decimals

The decimals that round to a given floating-point value fill an interval around it, from halfway to
the neighbour below to halfway to the neighbour above; the ends belong to it when the last bit of
the value is zero. Written out is the decimal with the fewest digits in that interval, the one
closest to the value if there are several, and the one with an even last digit if two are equally
close.

With `e = min q 0`, both `m · 2 ^ q` and the ends of the interval are whole multiples of
`10 ^ e / 4`, so the search compares natural numbers only: for `n = 1, 2, …` digits it looks at the
two neighbours of the value among the multiples of one power of ten.
-/

namespace LineCommands

/-- The decimal `digits · 10 ^ exponent`. -/
structure Decimal where
  /-- The digits, as a number. -/
  digits : Nat
  /-- The exponent of ten. -/
  exponent : Int
deriving DecidableEq, Repr

namespace Decimal

/-- Moves the zeros at the end of the digits into the exponent; `fuel` bounds their number. -/
def stripZeros : (fuel : Nat) → Decimal → Decimal
  | 0, d => d
  | fuel + 1, d =>
    if d.digits ≠ 0 ∧ d.digits % 10 = 0 then stripZeros fuel ⟨d.digits / 10, d.exponent + 1⟩ else d

end Decimal

namespace SignedDyadic

/-- One unit in the last place of `x`, in multiples of `10 ^ min q 0`. -/
def unit (x : SignedDyadic) : Nat := Nat.pow 5 (-x.q).toNat <<< x.q.toNat

/-- The value is a power of two at which the spacing changes, so that its neighbour below is only
half as far away as its neighbour above. -/
def isBoundary (x : SignedDyadic) : Bool := x.m == 1 <<< 52 && decide (-1074 < x.q)

/-- The decimal `c · 10 ^ min q 0` rounds to the magnitude of `x`. -/
def readsBack (x : SignedDyadic) (c : Nat) : Bool :=
  let low := (4 * x.m - if x.isBoundary then 1 else 2) * x.unit
  let high := (4 * x.m + 2) * x.unit
  if x.m % 2 = 0 then low ≤ 4 * c && 4 * c ≤ high else low < 4 * c && 4 * c < high

/-- The multiple of `grid` nearest to the magnitude of `x` among those next to it that round to
it. -/
def onGrid? (x : SignedDyadic) (grid : Nat) : Option Nat :=
  let value := x.m * x.unit
  let below := value / grid
  let above := below + 1
  match x.readsBack (below * grid), x.readsBack (above * grid) with
  | false, false => none
  | true, false => some below
  | false, true => some above
  | true, true =>
    let middle := (below + above) * grid
    if 2 * value < middle ∨ (2 * value = middle ∧ below % 2 = 0) then some below else some above

/-- The shortest decimal that rounds to the magnitude of `x`. Seventeen digits always suffice; past
them the exact value stands. -/
def shortest (x : SignedDyadic) : Decimal :=
  let value := x.m * x.unit
  let places := (Nat.toDigits 10 value).length
  let exponent : Int := min x.q 0
  let found := (List.range 17).findSome? fun i ↦
    let dropped := places - (i + 1)
    (x.onGrid? (Nat.pow 10 dropped)).map fun c ↦ (⟨c, exponent + dropped⟩ : Decimal)
  let d := found.getD ⟨value, exponent⟩
  d.stripZeros (Nat.toDigits 10 d.digits).length

end SignedDyadic

end LineCommands
