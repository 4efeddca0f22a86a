/-!
# Binary floating-point values as dyadic numbers

A finite value is `± m · 2 ^ q` with natural `m` and integer `q`. Everything that has to be exact —
reading a decimal, writing one, remainders, cutting off a fraction — is done on that form with
whole numbers; only addition, multiplication and powers are left to the machine. Multiplying by a
power of two is shifting to the left.
-/

namespace LineCommands

/-- The number `± m · 2 ^ q`. The sign is kept apart so that a zero has one too. -/
structure SignedDyadic where
  /-- The sign is minus. -/
  negative : Bool
  /-- The whole multiple. -/
  m : Nat
  /-- The exponent of two. -/
  q : Int
deriving DecidableEq, Repr

namespace SignedDyadic

/-- The sign bit of a floating-point value. -/
def signBit (x : Float) : Bool := x.toBits.toNat >>> 63 == 1

/-- The dyadic number of a finite value, with `m < 2 ^ 53`; infinities and NaN have none. -/
def ofFloat? (x : Float) : Option SignedDyadic :=
  let bits := x.toBits.toNat
  let exponent := (bits >>> 52) % 2048
  let fraction := bits % (1 <<< 52)
  if exponent = 2047 then none
  else if exponent = 0 then some ⟨signBit x, fraction, -1074⟩
  else some ⟨signBit x, (1 <<< 52) + fraction, (exponent : Int) - 1075⟩

/-- The whole part, cut off toward zero. -/
def truncate (x : SignedDyadic) : Int :=
  let magnitude := (x.m <<< x.q.toNat) >>> (-x.q).toNat
  if x.negative then -(magnitude : Int) else magnitude

end SignedDyadic

end LineCommands
