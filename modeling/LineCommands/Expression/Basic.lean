import LineCommands.Value.Basic

/-!
# Arithmetic expressions

The size of an array argument is an expression over the numbers bound before it. An expression is a
tree; the parentheses of its text leave no node of their own, and a sign in front of an operand is a
node even when it is a plus.
-/

namespace LineCommands

/-- The operators between two operands. -/
inductive BinaryOp where
  | add | sub | mul | div | rem | pow
deriving DecidableEq, Repr

/-- The signs in front of an operand. -/
inductive Sign where
  | plus | minus
deriving DecidableEq, Repr

/-- How an operator is written. -/
def BinaryOp.symbol : BinaryOp → String
  | add => "+" | sub => "-" | mul => "*" | div => "/" | rem => "%" | pow => "**"

/-- How a sign is written. -/
def Sign.symbol : Sign → String
  | plus => "+" | minus => "-"

/-- An arithmetic expression. -/
inductive Expr where
  | number (value : Number)
  | name (name : String)
  | signed (sign : Sign) (operand : Expr)
  | binary (op : BinaryOp) (left right : Expr)
deriving DecidableEq

/-- The names in an expression, from left to right and as often as they occur. -/
def Expr.names : Expr → List String
  | number _ => []
  | name n => [n]
  | signed _ e => e.names
  | binary _ l r => l.names ++ r.names

end LineCommands
