import LineCommands.Expression.Error
import LineCommands.Binary64.Rounding

/-!
# Arithmetic on numbers of both kinds

Whole numbers are unbounded and their sums, differences, products and remainders exact. Where a
floating-point number takes part both operands become one, which fails for a whole number beyond
their range. Division always gives a floating-point number: for whole numbers the one nearest to the
exact quotient. Remainders have the sign of the divisor. Powers are computed in floating point, so
that a huge exponent ends in an error and not in a huge number, and are whole again when both
operands are whole and the exponent is not negative.
-/

namespace LineCommands

namespace Number

/-- The number as a floating-point value. -/
def toFloat : Number → Except ArithmeticError Float
  | .float x => .ok x
  | .int n =>
    match Binary64.ofInt? n with
    | some x => .ok x
    | none => .error .tooLarge

/-- Applies an operation on floating-point values to numbers of any kind. -/
def viaFloat (f : Float → Float → Except ArithmeticError Float) (a b : Number) :
    Except ArithmeticError Number := do
  let x ← a.toFloat
  let y ← b.toFloat
  return .float (← f x y)

/-- The number with the other sign. -/
def negate : Number → Number
  | .int n => .int (-n)
  | .float x => .float (-x)

/-- The number is neither infinite nor NaN, nor a whole number that rounds to infinity. -/
def isFinite : Number → Bool
  | .int n => n.natAbs < Binary64.overflowBound
  | .float x => (SignedDyadic.ofFloat? x).isSome

/-- The whole part of a number, cut off toward zero. -/
def truncate : Number → Int
  | .int n => n
  | .float x => ((SignedDyadic.ofFloat? x).map SignedDyadic.truncate).getD 0

end Number

namespace Arithmetic

/-- Sum. -/
def add : Number → Number → Except ArithmeticError Number
  | .int a, .int b => .ok (.int (a + b))
  | a, b => Number.viaFloat (fun x y ↦ .ok (x + y)) a b

/-- Difference. -/
def sub : Number → Number → Except ArithmeticError Number
  | .int a, .int b => .ok (.int (a - b))
  | a, b => Number.viaFloat (fun x y ↦ .ok (x - y)) a b

/-- Product. -/
def mul : Number → Number → Except ArithmeticError Number
  | .int a, .int b => .ok (.int (a * b))
  | a, b => Number.viaFloat (fun x y ↦ .ok (x * y)) a b

/-- Quotient. -/
def div : Number → Number → Except ArithmeticError Number
  | .int a, .int b =>
    if b = 0 then .error .divisionByZero
    else if Binary64.overflowBound * b.natAbs ≤ a.natAbs then .error .quotientTooLarge
    else .ok (.float (Binary64.ofRatio ((a < 0) != (b < 0)) a.natAbs b.natAbs))
  | a, b => Number.viaFloat (fun x y ↦ if y == 0.0 then .error .divisionByZero else .ok (x / y)) a b

/-- Remainder of the floored quotient. -/
def rem : Number → Number → Except ArithmeticError Number
  | .int a, .int b => if b = 0 then .error .divisionByZero else .ok (.int (a.fmod b))
  | a, b =>
    Number.viaFloat
      (fun x y ↦ if y == 0.0 then .error .divisionByZero else .ok (Binary64.flooredRem x y)) a b

/-- The value is an odd whole number. -/
def isOdd (x : Float) : Bool :=
  (SignedDyadic.ofFloat? x).isSome && Binary64.flooredRem x.abs 2.0 == 1.0

/-- The power of floating-point values, where one of them is infinite or NaN. -/
def powNonFinite (x y : Float) : Float :=
  if x.isNaN then if y == 0.0 then 1.0 else x
  else if y.isNaN then if x == 1.0 then 1.0 else y
  else if x.isInf then
    if y > 0.0 then if isOdd y then x else x.abs
    else if y == 0.0 then 1.0
    else if isOdd y then Binary64.zeroLike x else 0.0
  else if x.abs == 1.0 then 1.0
  else if y > 0.0 && x.abs > 1.0 then y
  else if y < 0.0 && x.abs < 1.0 then -y
  else 0.0

/-- The power of floating-point values. Finite operands have a finite power or none. -/
def powFloat (x y : Float) : Except ArithmeticError Float :=
  if (SignedDyadic.ofFloat? x).isSome && (SignedDyadic.ofFloat? y).isSome then
    let r := x.pow y
    if r.isNaN then .error .outOfDomain
    else if r.isInf then .error (if x == 0.0 then .outOfDomain else .outOfRange)
    else .ok r
  else .ok (powNonFinite x y)

/-- Power. -/
def pow (a b : Number) : Except ArithmeticError Number := do
  let r ← Number.viaFloat powFloat a b
  match a, b with
  | .int _, .int e => return if 0 ≤ e then .int r.truncate else r
  | _, _ => return r

/-- The result of an operator. -/
def apply : BinaryOp → Number → Number → Except ArithmeticError Number
  | .add => add
  | .sub => sub
  | .mul => mul
  | .div => div
  | .rem => rem
  | .pow => pow

end Arithmetic

end LineCommands
