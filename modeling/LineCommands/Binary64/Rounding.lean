import LineCommands.Binary64.SignedDyadic

/-!
# Rounding to binary floating point

One rule serves all conversions: a quotient of two natural numbers goes to the nearest representable
value, and from halfway between two of them to the one whose last bit is zero. Halfway between the
largest finite value and the next power of two is `2 ^ 1024 - 2 ^ 970`; from there on a quotient
rounds to infinity. Whole numbers, quotients of whole numbers and decimal literals are instances.

The rule is written on bit patterns. A pattern without its sign is a number, and rounding up from
the largest value with one exponent gives the pattern of the smallest with the next, so the carry
needs no case of its own.
-/

namespace LineCommands.Binary64

/-- The least magnitude that rounds to infinity. -/
def overflowBound : Nat := (1 <<< 1024) - (1 <<< 970)

/-- The bit pattern of infinity. -/
def infinityBits : Nat := 0x7FF <<< 52

/-- The quotient of `n` by `d`, rounded to the nearest whole number and to the even one if there
are two. -/
def divToEven (n d : Nat) : Nat :=
  let quotient := n / d
  let rest := n % d
  if d < 2 * rest ∨ (d = 2 * rest ∧ quotient % 2 = 1) then quotient + 1 else quotient

/-- The exponent `l` of the leading bit of `n / d`, the one with `2 ^ l ≤ n / d < 2 ^ (l + 1)`. -/
def leadingExponent (n d : Nat) : Int :=
  let l : Int := n.log2 - d.log2
  if d <<< l.toNat ≤ n <<< (-l).toNat then l else l - 1

/-- The bit pattern, sign apart, of the value nearest to `n / d`. -/
def nearestBits (n d : Nat) : Nat :=
  if n = 0 then 0
  else if overflowBound * d ≤ n then infinityBits
  else
    let q : Int := max (leadingExponent n d - 52) (-1074)
    ((q + 1074).toNat <<< 52) + divToEven (n <<< (-q).toNat) (d <<< q.toNat)

/-- The value nearest to `± n / d`. -/
def ofRatio (negative : Bool) (n d : Nat) : Float :=
  Float.ofBits (.ofNat (nearestBits n d + if negative then 1 <<< 63 else 0))

/-- The value nearest to a whole number, unless that is infinite. -/
def ofInt? (n : Int) : Option Float :=
  if n.natAbs < overflowBound then some (ofRatio (n < 0) n.natAbs 1) else none

/-- The value of a dyadic number, rounded if it has too many bits. -/
def ofDyadic (x : SignedDyadic) : Float :=
  ofRatio x.negative (x.m <<< x.q.toNat) (1 <<< (-x.q).toNat)

/-! ## Decimals -/

/-- The number of decimal digits of `n`; zero has none. -/
def digitCount (n : Nat) : Nat := if n = 0 then 0 else (Nat.toDigits 10 n).length

/-- The exact quotient that a decimal `digits · 10 ^ exponent` stands for. Exponents far outside the
range of the format are cut down, which changes neither the infinities nor the zeros that such
decimals round to, and keeps the numbers small. -/
def decimalRatio (digits : Nat) (exponent : Int) : Nat × Nat :=
  let leading : Int := exponent + digitCount digits
  if digits = 0 then (0, 1)
  else if 400 < leading then (overflowBound, 1)
  else if leading < -400 then (0, 1)
  else (digits * Nat.pow 10 exponent.toNat, Nat.pow 10 (-exponent).toNat)

/-- The value nearest to `± digits · 10 ^ exponent`. -/
def ofDecimal (negative : Bool) (digits : Nat) (exponent : Int) : Float :=
  let r := decimalRatio digits exponent
  ofRatio negative r.1 r.2

/-! ## Remainder -/

/-- The not a number value. -/
def notANumber : Float := Float.ofBits 0x7FF8000000000000

/-- A zero with the sign of `y`. -/
def zeroLike (y : Float) : Float := ofRatio (SignedDyadic.signBit y) 0 1

/-- The exact remainder of `x` by `y ≠ 0` when the quotient is cut off toward zero; it has the sign
of `x`. -/
def truncatedRem (x y : SignedDyadic) : SignedDyadic :=
  let q := min x.q y.q
  ⟨x.negative, (x.m <<< (x.q - q).toNat) % (y.m <<< (y.q - q).toNat), q⟩

/-- Moves a truncated remainder `r` to the side of the divisor `y`: a zero takes the sign of `y`,
and a remainder of the other sign is `y` short. -/
def towardDivisor (r : Float) (y : Float) : Float :=
  if r == 0.0 then zeroLike y
  else if SignedDyadic.signBit r != SignedDyadic.signBit y then r + y
  else r

/-- The remainder of the floored quotient, whose sign is that of the divisor `y`, for `y` not
zero. A finite number is its own remainder by an infinite one. -/
def flooredRem (x y : Float) : Float :=
  match SignedDyadic.ofFloat? x, SignedDyadic.ofFloat? y with
  | some dx, some dy => towardDivisor (ofDyadic (truncatedRem dx dy)) y
  | some _, none => if y.isNaN then notANumber else towardDivisor x y
  | none, _ => notANumber

end LineCommands.Binary64
