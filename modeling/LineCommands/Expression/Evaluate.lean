import LineCommands.Expression.Operation

/-!
# Values of expressions

The value of an expression under an assignment of numbers to names. Operands are evaluated from left
to right and the first failure is the one that is told.

An expression also has a value under an assignment of values of any kind. A plus sign in front of an
operand changes nothing, so that whatever a name stands for can be the value.
-/

namespace LineCommands

/-- The value of an expression. -/
def Expr.evaluate (assignment : String → Option Number) : Expr → Except ExprError Number
  | number v => .ok v
  | name n =>
    match assignment n with
    | some v => .ok v
    | none => .error (.unknownVariable n)
  | signed s e => do
    let v ← e.evaluate assignment
    return match s with
      | .plus => v
      | .minus => v.negate
  | binary op l r => do
    let a ← l.evaluate assignment
    let b ← r.evaluate assignment
    (Arithmetic.apply op a b).mapError (.arithmetic op)

/-- The value of an expression where names stand for values of any kind. -/
def Expr.value (assignment : String → Option Value) : Expr → Except EvaluationError Value
  | number v => .ok v.toValue
  | name n =>
    match assignment n with
    | some v => .ok v
    | none => .error (.expression (.unknownVariable n))
  | signed s e => do
    let v ← e.value assignment
    match s with
    | .plus => .ok v
    | .minus => v.negate
  | binary op l r => do
    let a ← l.value assignment
    let b ← r.value assignment
    Value.apply op a b

/-- Where all names stand for numbers the two values are the same, and so are the failures. -/
theorem Expr.value_eq_evaluate (assignment : String → Option Number) (e : Expr) :
    e.value (fun n ↦ (assignment n).map Number.toValue)
      = ((e.evaluate assignment).map Number.toValue).mapError .expression := by
  induction e with
  | number v => rfl
  | name n =>
    simp only [value, evaluate]
    cases assignment n <;> rfl
  | signed s e ih =>
    simp only [value, evaluate, ih]
    cases e.evaluate assignment with
    | error _ => rfl
    | ok v =>
      cases s with
      | plus => rfl
      | minus => exact Value.negate_toValue v
  | binary op l r ihl ihr =>
    simp only [value, evaluate, ihl, ihr]
    cases l.evaluate assignment with
    | error _ => rfl
    | ok a =>
      cases r.evaluate assignment with
      | error _ => rfl
      | ok b =>
        have h := Value.apply_toValue op a b
        refine h.trans ?_
        show _ = (((Arithmetic.apply op a b).mapError (ExprError.arithmetic op)).map
          Number.toValue).mapError EvaluationError.expression
        cases Arithmetic.apply op a b <;> rfl

end LineCommands
