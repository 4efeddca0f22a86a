import LineCommands.Expression.Token
import LineCommands.Binary64.Rounding

/-!
# Reading expressions

From the loosest to the tightest binding, an expression is

* a chain of products joined by `+` and `-`,
* where a product is a chain of signed operands joined by `*`, `/` and `%`,
* a signed operand is a sign before a signed operand, or a power,
* a power is an atom, or an atom `**` a signed operand,
* and an atom is a number, a name, or an expression in parentheses.

Chains group to the left. Both kinds of chain are read by the same functions, told apart by a
`ChainLevel`; the recursion is on the number of tokens left, and among calls on the same tokens on
how tightly the form binds. Operands may be nested as deeply as they like: that a runtime may limit
the depth of its recursion is left aside, in reading as well as in evaluating.
-/

namespace LineCommands

/-- The two kinds of chain. -/
inductive ChainLevel where
  | sum | product
deriving DecidableEq, Repr

/-- The operator that a lexeme is in a chain. -/
def ChainLevel.op? : ChainLevel → Lexeme → Option BinaryOp
  | sum, .sign .plus => some .add
  | sum, .sign .minus => some .sub
  | product, .times => some .mul
  | product, .slash => some .div
  | product, .modulo => some .rem
  | _, _ => none

/-- How loosely the operators of a chain bind. -/
def ChainLevel.looseness : ChainLevel → Nat
  | sum => 2
  | product => 1

namespace Expr

/-- The number that the text of a number token stands for: a whole number if it has neither point
nor exponent. Only a whole number can be too long. -/
def readNumber? (text : String) : Option Number :=
  let cs := text.toList
  if cs.any fun c ↦ c == '.' || c == 'e' || c == 'E' then
    (Text.readDecimal? cs).map fun d ↦
      .float (Binary64.ofDecimal false (Text.natOfDigits d.digits) d.exponent)
  else (Text.readInt? cs).map .int

/-- An expression read from the front of `ts`, and the tokens that remain, which are fewer. -/
abbrev Read (ts : List Token) := {p : Expr × List Token // p.2.length < ts.length}

mutual

/-- Reads a chain. -/
def readChain (level : ChainLevel) (ts : List Token) : Except ExprError (Read ts) :=
  match readOperand level ts with
  | .error e => .error e
  | .ok ⟨(first, rest), h⟩ =>
    match readTail level first rest with
    | .error e => .error e
    | .ok ⟨(whole, rest'), h'⟩ => .ok ⟨(whole, rest'), by simp at h h' ⊢; omega⟩
termination_by (ts.length, 2 * level.looseness + 2)

/-- Reads one operand of a chain. -/
def readOperand (level : ChainLevel) (ts : List Token) : Except ExprError (Read ts) :=
  match level with
  | .sum => readChain .product ts
  | .product => readSigned ts
termination_by (ts.length, 2 * level.looseness + 1)
decreasing_by all_goals simp [Prod.lex_def, ChainLevel.looseness]

/-- Continues a chain of which `left` has been read. -/
def readTail (level : ChainLevel) (left : Expr) (ts : List Token) :
    Except ExprError {p : Expr × List Token // p.2.length ≤ ts.length} :=
  match ts with
  | [] => .ok ⟨(left, []), by simp⟩
  | t :: rest =>
    match level.op? t.lexeme with
    | none => .ok ⟨(left, t :: rest), by simp⟩
    | some op =>
      match readOperand level rest with
      | .error e => .error e
      | .ok ⟨(right, rest'), h⟩ =>
        match readTail level (.binary op left right) rest' with
        | .error e => .error e
        | .ok ⟨(whole, rest''), h'⟩ => .ok ⟨(whole, rest''), by simp at h h' ⊢; omega⟩
termination_by (ts.length, 0)
decreasing_by
  · simp [Prod.lex_def]
  · simp only at h; simp [Prod.lex_def]; omega

/-- Reads an operand with any signs before it. -/
def readSigned (ts : List Token) : Except ExprError (Read ts) :=
  match ts with
  | ⟨.sign s, _⟩ :: rest =>
    match readSigned rest with
    | .error e => .error e
    | .ok ⟨(operand, rest'), h⟩ => .ok ⟨(.signed s operand, rest'), by simp at h ⊢; omega⟩
  | ts => readPower ts
termination_by (ts.length, 2)

/-- Reads an atom, or a power with an atom as its base. -/
def readPower (ts : List Token) : Except ExprError (Read ts) :=
  match readAtom ts with
  | .error e => .error e
  | .ok ⟨(base, rest), h⟩ =>
    match rest with
    | ⟨.power, _⟩ :: rest' =>
      match readSigned rest' with
      | .error e => .error e
      | .ok ⟨(exponent, rest''), h'⟩ =>
        .ok ⟨(.binary .pow base exponent, rest''), by simp at h h' ⊢; omega⟩
    | other => .ok ⟨(base, other), h⟩
termination_by (ts.length, 1)
decreasing_by
  · simp [Prod.lex_def]
  · simp at h; simp [Prod.lex_def]; omega

/-- Reads a number, a name or an expression in parentheses. -/
def readAtom (ts : List Token) : Except ExprError (Read ts) :=
  match ts with
  | [] => .error .endOfText
  | ⟨.number text, position⟩ :: rest =>
    match readNumber? text with
    | some v => .ok ⟨(.number v, rest), by simp⟩
    | none => .error (.numberTooLong position)
  | ⟨.name n, _⟩ :: rest => .ok ⟨(.name n, rest), by simp⟩
  | ⟨.opening, position⟩ :: rest =>
    match readChain .sum rest with
    | .error e => .error e
    | .ok ⟨(inner, rest'), h⟩ =>
      match rest' with
      | ⟨.closing, _⟩ :: rest'' => .ok ⟨(inner, rest''), by simp at h ⊢; omega⟩
      | _ => .error (.unclosed position)
  | t :: _ => .error (.unexpected t.lexeme.text t.position)
termination_by (ts.length, 0)

end

/-- The expression that all of the tokens make up. -/
def ofTokens (ts : List Token) : Except ExprError Expr :=
  if ts.isEmpty then .error .empty
  else
    match readChain .sum ts with
    | .error e => .error e
    | .ok ⟨(e, []), _⟩ => .ok e
    | .ok ⟨(_, t :: _), _⟩ => .error (.unexpected t.lexeme.text t.position)

/-- The expression that a text makes up. -/
def parse (source : String) : Except ExprError Expr := do ofTokens (← tokenize source)

/-- The names that a size refers to. A text that is no expression refers to nothing. -/
def referencedNames (source : String) : List String :=
  let cs := Text.trim source.toList
  if Text.isIntNumeral cs then []
  else
    match parse (String.ofList cs) with
    | .ok e => e.names
    | .error _ => []

end Expr

end LineCommands
