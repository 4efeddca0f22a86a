import LineCommands.Expression.Parser
import LineCommands.Expression.Evaluate
import LineCommands.Fault
import LineCommands.Log

/-!
# Sizes of arrays

The size of an array is given by a text. A whole number with an optional sign stands for itself; any
other text is evaluated as an expression over the numbers bound so far, and the fraction of its
value is cut off. Strings, characters, truth values and arrays are never offered as variables.
-/

namespace LineCommands

namespace Size

/-- The variables that bindings offer to an expression. -/
def assignment (bound : Bindings) (name : String) : Option Number :=
  (bound.get? name).bind Value.number?

/-- The value of a size that is not a plain whole number, not yet cut off. -/
def evaluateExpr (source : String) (bound : Bindings) : Except ExprError Number := do
  (← Expr.parse source).evaluate (assignment bound)

/-- The size that a text stands for, before its sign is looked at. -/
def value (size : String) (bound : Bindings) (argument : String) : Except Fault Int :=
  let source := Text.trim size.toList
  if Text.isIntNumeral source then
    match Text.readInt? source with
    | some n => .ok n
    | none => .error (.notFinite size argument)
  else
    match evaluateExpr (String.ofList source) bound with
    | .error cause => .error (.sizeError size argument cause)
    | .ok v => if v.isFinite then .ok v.truncate else .error (.notFinite size argument)

/-- The number of elements of the array `argument`. -/
def evaluate (size : String) (bound : Bindings) (argument : String) : Except Fault Nat :=
  match value size bound argument with
  | .error f => .error f
  | .ok (.ofNat n) => .ok n
  | .ok n => .error (.negativeSize argument n)

/-- What is logged on the way: a size that had to be evaluated, even if it is negative. -/
def records (size : String) (bound : Bindings) (argument : String) : List Log.Record :=
  if Text.isIntNumeral (Text.trim size.toList) then []
  else
    match value size bound argument with
    | .error _ => []
    | .ok n =>
      [⟨.debug, .expression, s!"Evaluated size {Text.quoted size} for {argument} -> {n}"⟩]

end Size

end LineCommands
