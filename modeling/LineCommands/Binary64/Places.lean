import LineCommands.Binary64.Rounding

/-!
# Floating-point values with a number of places

A finite value is written with a given number of digits. In *fixed* notation the number counts the
digits after the point; in *scientific* notation it counts those after the point of a decimal with
one digit before it and an exponent of at least two digits; in *general* notation it counts the
significant digits, and the exponent decides which of the other two forms is taken. The digits are
those of the nearest such decimal, and of two that are equally near the one with an even last digit.

A point without digits after it is left out, and so are zeros at the end in general notation, unless
the text is to be *full*.
-/

namespace LineCommands.SignedDyadic

/-- The numerator of the magnitude. -/
def numerator (x : SignedDyadic) : Nat := x.m <<< x.q.toNat

/-- The denominator of the magnitude, a power of two. -/
def denominator (x : SignedDyadic) : Nat := 1 <<< (-x.q).toNat

/-- The number of units of `10 ^ -places` that is nearest to the magnitude. -/
def unitsOf (x : SignedDyadic) (places : Int) : Nat :=
  Binary64.divToEven (x.numerator * Nat.pow 10 places.toNat)
    (x.denominator * Nat.pow 10 (-places).toNat)

/-- The exponent of ten of the leading digit of the magnitude; zero has the exponent zero. -/
def decimalExponent (x : SignedDyadic) : Int :=
  if x.m = 0 then 0
  else
    let e : Int := Binary64.digitCount x.numerator - Binary64.digitCount x.denominator
    if x.denominator * Nat.pow 10 e.toNat ≤ x.numerator * Nat.pow 10 (-e).toNat then e else e - 1

/-- The digits of the nearest decimal with one digit before its point and `places` after it, and its
exponent. -/
def significant (x : SignedDyadic) (places : Nat) : List Char × Int :=
  let e := x.decimalExponent
  let ds := Nat.toDigits 10 (x.unitsOf (places - e))
  if ds.length ≤ places + 1 then (List.replicate (places + 1 - ds.length) '0' ++ ds, e)
  else (ds.take (places + 1), e + 1)

/-- Digits after a point. -/
def pointed (full : Bool) (ds : List Char) : List Char :=
  if ds.isEmpty && !full then [] else '.' :: ds

/-- The magnitude with `places` digits after the point. -/
def fixed (full : Bool) (places : Nat) (x : SignedDyadic) : List Char :=
  let ds := Nat.toDigits 10 (x.unitsOf places)
  let ds := List.replicate (places + 1 - ds.length) '0' ++ ds
  ds.take (ds.length - places) ++ pointed full (ds.drop (ds.length - places))

/-- Digits with the point after the first of them, and an exponent. -/
def withExponent (full : Bool) (digits : List Char) (exponent : Int) : List Char :=
  let es := Nat.toDigits 10 exponent.natAbs
  digits.take 1 ++ pointed full (digits.drop 1) ++ 'e' :: (if exponent < 0 then '-' else '+')
    :: List.replicate (2 - es.length) '0' ++ es

/-- The magnitude with one digit before the point, `places` after it, and an exponent. -/
def scientific (full : Bool) (places : Nat) (x : SignedDyadic) : List Char :=
  let (ds, e) := x.significant places
  withExponent full ds e

/-- Digits without the zeros at their end. -/
def withoutZeros (ds : List Char) : List Char := (ds.reverse.dropWhile (· == '0')).reverse

/-- The magnitude with `count` significant digits, which are at least one. -/
def general (full : Bool) (count : Nat) (x : SignedDyadic) : List Char :=
  let count := max count 1
  let (ds, e) := x.significant (count - 1)
  let kept (tail : List Char) := if full then tail else withoutZeros tail
  if e < -4 ∨ count ≤ e then withExponent full (ds.take 1 ++ kept (ds.drop 1)) e
  else if e < 0 then
    '0' :: pointed full (List.replicate (-e - 1).toNat '0' ++ kept ds)
  else ds.take (e.toNat + 1) ++ pointed full (kept (ds.drop (e.toNat + 1)))

end LineCommands.SignedDyadic
