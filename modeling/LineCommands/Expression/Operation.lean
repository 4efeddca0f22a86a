import LineCommands.Expression.Arithmetic
import LineCommands.Value.Filling

/-!
# Operators on values of any kind

A truth value counts as one or zero where it is an operand. Numbers are calculated with. Of other
values, two texts or two lists are joined by a sum, a text or list is repeated by a product with a
whole number on either side, and the remainder of a text is the text with its directives filled. A
character counts as a text here; alone it has no room for a directive and is its own remainder.
Nothing else has a result.
-/

namespace LineCommands

/-- Why an expression over values of any kind has no value. -/
inductive EvaluationError where
  /-- It fails as one over numbers does. -/
  | expression (e : ExprError)
  /-- A value of this kind cannot have the minus sign in front of it. -/
  | sign (kind : String)
  /-- The operator has no rule for these kinds of operands. -/
  | operands (op : BinaryOp) (left right : String)
  /-- Values of these kinds cannot be joined. -/
  | join (kind other : String)
  /-- A text or list is to be repeated by a value of this kind. -/
  | repetition (kind : String)
  /-- The number of repetitions is out of range. -/
  | tooManyTimes
  /-- A repeated text is too long. -/
  | tooLong
  /-- A value of this kind has no power and is no exponent. -/
  | power (kind : String)
  | filling (e : FillingError)
deriving DecidableEq

namespace EvaluationError

/-- The words for a failure of an operator on operands of the right kind. -/
def failure (op : BinaryOp) (cause : String) : String :=
  "arithmetic error in '" ++ op.symbol ++ "': " ++ cause

/-- The kind of an error. -/
def name : EvaluationError → String
  | expression _ | tooManyTimes | tooLong => "ExpressionError"
  | sign _ | operands .. | join .. | repetition _ | power _ => "TypeError"
  | filling e =>
    match e with
    | .missingKey _ => "KeyError"
    | e => if e.isMisuse then "TypeError" else "ExpressionError"

/-- How an error is told. -/
def message : EvaluationError → String
  | expression e => e.message
  | sign kind => s!"bad operand type for unary -: '{kind}'"
  | operands op left right =>
    s!"unsupported operand type(s) for {op.symbol}: '{left}' and '{right}'"
  | join kind other => s!"can only concatenate {kind} (not \"{other}\") to {kind}"
  | repetition kind => s!"can't multiply sequence by non-int of type '{kind}'"
  | tooManyTimes => failure .mul "cannot fit 'int' into an index-sized integer"
  | tooLong => failure .mul "repeated string is too long"
  | power kind => s!"must be real number, not {kind}"
  | filling e =>
    match e with
    | .missingKey key => key
    | e => if e.isMisuse then e.message else failure .rem e.message

end EvaluationError

namespace Value

/-- The number that a value counts as where it is an operand. -/
def operand? : Value → Option Number
  | .bool b => some (.int (if b then 1 else 0))
  | v => v.number?

/-- The text that a value is; a character is one too. -/
def text? : Value → Option String
  | .text s => some s
  | .char c => some c.toString
  | _ => none

/-- The whole number that a value counts as. -/
def count? (v : Value) : Option Int :=
  match v.operand? with
  | some (.int n) => some n
  | _ => none

/-- A list that is repeated. -/
def repeated {α : Type} (n : Nat) (items : List α) : List α := (List.replicate n items).flatten

/-- The bound of numbers of repetitions. -/
def repetitionBound : Int := 9223372036854775808

/-- A text or list, repeated as often as a value says; no value if it is neither. -/
def repeat? (v count : Value) : Option (Except EvaluationError Value) :=
  match v with
  | .text s => some (times fun n ↦ ofText s n)
  | .char c => some (times fun n ↦ ofText c.toString n)
  | .list items => some (times fun n ↦ .ok (.list (repeated n items)))
  | _ => none
where
  /-- A number of repetitions. -/
  times (f : Nat → Except EvaluationError Value) : Except EvaluationError Value :=
    match count.count? with
    | none => .error (.repetition count.kind)
    | some n =>
      if -repetitionBound ≤ n ∧ n < repetitionBound then f n.toNat else .error .tooManyTimes
  /-- A text that is repeated. -/
  ofText (s : String) (n : Nat) : Except EvaluationError Value :=
    if s.isEmpty then .ok (.text "")
    else if (s.length * n : Nat) < repetitionBound then
      .ok (.text (String.ofList (repeated n s.toList)))
    else .error .tooLong

/-- A text or list with another after it. -/
def join (a b : Value) : Except EvaluationError Value :=
  match a.text?, b.text?, a, b with
  | some s, some t, _, _ => .ok (.text (s ++ t))
  | some _, none, _, b => .error (.join "str" b.kind)
  | none, _, .list items, .list others => .ok (.list (items ++ others))
  | none, _, .list _, b => .error (.join "list" b.kind)
  | none, _, a, b => .error (.operands .add a.kind b.kind)

/-- The error of a power of which an operand is no number. A base that is too large counts first. -/
def powerError (a b : Value) : EvaluationError :=
  match a.operand? with
  | none => .power a.kind
  | some n =>
    match n.toFloat with
    | .error e => .expression (.arithmetic .pow e)
    | .ok _ => .power b.kind

/-- The result of an operator on two values of which one is no number. -/
def applyOther (op : BinaryOp) (a b : Value) : Except EvaluationError Value :=
  match op with
  | .add => join a b
  | .mul => ((repeat? a b).or (repeat? b a)).getD (.error (.operands op a.kind b.kind))
  | .rem =>
    match a with
    | .text s => ((fill s b).map Value.text).mapError .filling
    | .char c => ((fill c.toString b).map fun _ ↦ .char c).mapError .filling
    | a => .error (.operands op a.kind b.kind)
  | .pow => .error (powerError a b)
  | .sub | .div => .error (.operands op a.kind b.kind)

/-- The result of an operator on two values. -/
def apply (op : BinaryOp) (a b : Value) : Except EvaluationError Value :=
  match a.operand?, b.operand? with
  | some m, some n =>
    ((Arithmetic.apply op m n).map Number.toValue).mapError
      fun e ↦ .expression (.arithmetic op e)
  | _, _ => applyOther op a b

/-- The value with the other sign. -/
def negate (v : Value) : Except EvaluationError Value :=
  match v.operand? with
  | some n => .ok n.negate.toValue
  | none => .error (.sign v.kind)

end Value

@[simp] theorem Number.operand?_toValue (n : Number) : n.toValue.operand? = some n := by
  cases n <;> rfl

@[simp] theorem Value.negate_toValue (n : Number) : n.toValue.negate = .ok n.negate.toValue := by
  simp [Value.negate]

@[simp] theorem Value.apply_toValue (op : BinaryOp) (m n : Number) :
    Value.apply op m.toValue n.toValue
      = ((Arithmetic.apply op m n).map Number.toValue).mapError
          fun e ↦ .expression (.arithmetic op e) := by
  simp [Value.apply]

end LineCommands
