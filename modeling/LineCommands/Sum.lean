import LineCommands.Convert
import LineCommands.Expression.Arithmetic

/-!
# Sums

Numbers of both kinds are added up from the left. Whole numbers add up exactly, at first in a word
of 64 bits. The first floating-point number that meets this word turns the sum into a compensated
one: what rounding takes off when a floating-point number is added is kept apart, and given back
when the sum is done. Whole numbers of 64 bits join a compensated sum without such care.

A whole number that does not fit, by itself or in the word that it is added to, ends both ways of
adding for good. From there on each number is added by itself, as an expression would add it.
-/

namespace LineCommands

/-- A sum on its way. -/
inductive RunningSum where
  /-- A sum of whole numbers that fits into 64 bits. -/
  | word (n : Int)
  /-- A sum of floating-point values, and what rounding has taken off it. -/
  | compensated (sum lost : Float)
  /-- A sum that is not looked after any more. -/
  | plain (n : Number)

namespace RunningSum

/-- What rounding takes off the sum of two floating-point values. The larger one is taken away
first, which leaves no other rounding error. -/
def roundingError (x y : Float) : Float :=
  let sum := x + y
  if y.abs ≤ x.abs then (x - sum) + y else (y - sum) + x

/-- The sum with what was lost, unless that is infinite or NaN. -/
def settle (sum lost : Float) : Float :=
  if lost == 0.0 || !lost.isFinite then sum else sum + lost

/-- The number that the sum has come to. -/
def value : RunningSum → Number
  | word n => .int n
  | compensated sum lost => .float (settle sum lost)
  | plain n => n

/-- The sum with one number more, added by itself. -/
def addPlainly (s : RunningSum) (n : Number) : Except ArithmeticError RunningSum :=
  (Arithmetic.add s.value n).map plain

/-- The sum with one number more. -/
def add : RunningSum → Number → Except ArithmeticError RunningSum
  | word m, .int n =>
    if isInt64 n && isInt64 (m + n) then .ok (word (m + n)) else addPlainly (word m) (.int n)
  | word m, .float x => do
    let first ← (Number.int m).toFloat
    return compensated (first + x) 0.0
  | compensated sum lost, .int n =>
    if isInt64 n then do
      let x ← (Number.int n).toFloat
      return compensated (sum + x) lost
    else addPlainly (compensated sum lost) (.int n)
  | compensated sum lost, .float x =>
    .ok (compensated (sum + x) (lost + roundingError sum x))
  | plain m, n => addPlainly (plain m) n

end RunningSum

end LineCommands
