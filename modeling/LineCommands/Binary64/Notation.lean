import LineCommands.Binary64.Shortest

/-!
# Writing floating-point values

A format for floating-point values decides how the digits of the shortest decimal are laid out: up
to which exponents the point is set among them, how an exponent is written beyond that, and what
stands for the values that are no numbers. A `Layout` holds these decisions; which digits there are
does not depend on it.
-/

namespace LineCommands

/-- How floating-point values are written. A whole number written positionally keeps one zero after
its point, an exponent always has a sign, and negative zero keeps its own. -/
structure Layout where
  /-- The least exponent of the leading digit that is written positionally. -/
  plainFrom : Int
  /-- The least exponent above `plainFrom` that is no longer written positionally. -/
  plainBelow : Int
  /-- The least number of digits of an exponent. -/
  exponentWidth : Nat
  /-- The text of NaN. -/
  nan : String
  /-- The text of infinity. -/
  infinity : String
  /-- The text of minus infinity. -/
  minusInfinity : String

namespace Layout

/-- The digits `ds` with the point after the first `whole` of them. -/
def positional (ds : List Char) (whole : Int) : List Char :=
  if whole ≤ 0 then '0' :: '.' :: List.replicate (-whole).toNat '0' ++ ds
  else
    let n := whole.toNat
    let padded := ds ++ List.replicate (n - ds.length) '0'
    padded.take n ++ '.' :: (if padded.length = n then ['0'] else padded.drop n)

/-- The digits `ds` with the point after the first of them, and an exponent. -/
def scientific (l : Layout) (ds : List Char) (exponent : Int) : List Char :=
  let tail := ds.drop 1
  let es := Nat.toDigits 10 exponent.natAbs
  ds.take 1 ++ (if tail.isEmpty then [] else '.' :: tail)
    ++ 'e' :: (if exponent < 0 then '-' else '+')
    :: List.replicate (l.exponentWidth - es.length) '0' ++ es

/-- A decimal with at least one digit. -/
def writeDecimal (l : Layout) (d : Decimal) : List Char :=
  let ds := Nat.toDigits 10 d.digits
  let leading : Int := d.exponent + ds.length - 1
  if l.plainFrom ≤ leading ∧ leading < l.plainBelow then positional ds (leading + 1)
  else l.scientific ds leading

/-- A floating-point value. -/
def write (l : Layout) (x : Float) : String :=
  match SignedDyadic.ofFloat? x with
  | none =>
    if x.isNaN then l.nan else if SignedDyadic.signBit x then l.minusInfinity else l.infinity
  | some d =>
    let magnitude := if d.m = 0 then ['0', '.', '0'] else l.writeDecimal d.shortest
    String.ofList (if d.negative then '-' :: magnitude else magnitude)

end Layout

end LineCommands
