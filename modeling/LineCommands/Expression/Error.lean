import LineCommands.Expression.Basic
import LineCommands.Text.Quoted

/-!
# Errors of expressions

An expression can fail to be read or to be evaluated. Positions count characters from the start of
the text, beginning with zero.
-/

namespace LineCommands

/-- Why an operator has no result for its operands. -/
inductive ArithmeticError where
  /-- The divisor is zero. -/
  | divisionByZero
  /-- A whole number is too large for a floating-point value. -/
  | tooLarge
  /-- The quotient of two whole numbers is too large for a floating-point value. -/
  | quotientTooLarge
  /-- A power is too large for a floating-point value. -/
  | outOfRange
  /-- A power is not a real number. -/
  | outOfDomain
deriving DecidableEq, Repr

/-- Why an expression cannot be read or evaluated. -/
inductive ExprError where
  /-- No token begins with this character. -/
  | badCharacter (c : Char) (position : Nat)
  /-- There are no tokens at all. -/
  | empty
  /-- The text ends where an operand is due. -/
  | endOfText
  /-- This token cannot stand here. -/
  | unexpected (token : String) (position : Nat)
  /-- The parenthesis opened at this position is not closed where its expression ends. -/
  | unclosed (position : Nat)
  /-- The whole number at this position has too many digits. -/
  | numberTooLong (position : Nat)
  /-- No number is bound under this name. -/
  | unknownVariable (name : String)
  /-- The operands of this operator have no result. -/
  | arithmetic (op : BinaryOp) (cause : ArithmeticError)
deriving DecidableEq

/-- How the failure of an operator is told. -/
def ArithmeticError.message (op : BinaryOp) : ArithmeticError → String
  | divisionByZero => "division by zero in '" ++ op.symbol ++ "'"
  | tooLarge => failure ++ "int too large to convert to float"
  | quotientTooLarge => failure ++ "integer division result too large for a float"
  | outOfRange => failure ++ "math range error"
  | outOfDomain => failure ++ "math domain error"
where
  /-- The words before the cause. -/
  failure := "arithmetic error in '" ++ op.symbol ++ "': "

/-- How an error is told. -/
def ExprError.message : ExprError → String
  | badCharacter c p =>
    "unexpected character " ++ Text.quoted c.toString ++ " at position " ++ toString p
  | empty => "empty expression"
  | endOfText => "unexpected end of expression"
  | unexpected t p => "unexpected " ++ Text.quoted t ++ " at position " ++ toString p
  | unclosed p => "missing ')' for '(' at position " ++ toString p
  | numberTooLong p => "number literal at position " ++ toString p ++ " is too long"
  | unknownVariable n => "unknown numeric variable '" ++ n ++ "'"
  | arithmetic op cause => cause.message op

end LineCommands
