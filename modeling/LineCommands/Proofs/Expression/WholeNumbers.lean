import LineCommands.Proofs.Binary64.Overflow
import LineCommands.Proofs.Expression.Literal
import LineCommands.Proofs.Expression.Lookup

/-!
# Exact sizes

Sums, differences, products and remainders of whole numbers are whole numbers. A size that is made
of nothing else has the value that it has over the unbounded whole numbers, however large the values
on the way are: only the value of the whole size has to be finite as a floating-point number. A
remainder has the sign of its divisor, and one by zero is all that can go wrong on the way.

Such sizes are trees of their own (`WholeExpr`), each of which is an expression.
-/

namespace LineCommands

open Text

/-! ## Operators -/

/-- The operators that give whole numbers for whole numbers. -/
inductive WholeOp where
  | add | sub | mul | rem
deriving DecidableEq, Repr

namespace WholeOp

/-- The operator on numbers of all kinds. -/
def toBinaryOp : WholeOp → BinaryOp
  | add => .add
  | sub => .sub
  | mul => .mul
  | rem => .rem

/-- The result on whole numbers. A remainder is that of the floored quotient. -/
def result : WholeOp → Int → Int → Int
  | add, a, b => a + b
  | sub, a, b => a - b
  | mul, a, b => a * b
  | rem, a, b => a.fmod b

/-- The result is exact, and there is none only of a remainder by zero. -/
theorem apply_toBinaryOp (op : WholeOp) (a b : Int) :
    Arithmetic.apply op.toBinaryOp (.int a) (.int b)
      = if op = rem ∧ b = 0 then .error .divisionByZero else .ok (.int (op.result a b)) := by
  cases op with
  | add => rfl
  | sub => rfl
  | mul => rfl
  | rem =>
    by_cases hb : b = 0
    · rw [if_pos ⟨rfl, hb⟩, toBinaryOp, Arithmetic.apply, Arithmetic.rem, if_pos hb]
    · rw [if_neg fun h ↦ hb h.2, toBinaryOp, Arithmetic.apply, Arithmetic.rem, if_neg hb, result]

end WholeOp

/-! ## Trees -/

/-- An expression over whole numbers. -/
inductive WholeExpr where
  | number (n : Int)
  | name (x : String)
  | signed (sign : Sign) (operand : WholeExpr)
  | binary (op : WholeOp) (left right : WholeExpr)
deriving DecidableEq, Repr

namespace WholeExpr

/-- The tree as an expression over numbers of all kinds. -/
def toExpr : WholeExpr → Expr
  | number n => .number (.int n)
  | name x => .name x
  | signed s w => .signed s w.toExpr
  | binary op l r => .binary op.toBinaryOp l.toExpr r.toExpr

variable (ints : String → Int)

/-- The value over the whole numbers. -/
def value : WholeExpr → Int
  | number n => n
  | name x => ints x
  | signed .plus w => w.value
  | signed .minus w => -w.value
  | binary op l r => op.result l.value r.value

/-- A remainder in the tree has a right operand with the value zero. -/
def dividesByZero : WholeExpr → Bool
  | number _ => false
  | name _ => false
  | signed _ w => w.dividesByZero
  | binary op l r => l.dividesByZero || r.dividesByZero || (op = .rem && r.value ints = 0)

variable {ints : String → Int} {f : String → Option Number}

theorem evaluate_toExpr : ∀ {w : WholeExpr}, (∀ x ∈ w.toExpr.names, f x = some (.int (ints x))) →
    w.toExpr.evaluate f
      = if w.dividesByZero ints then .error (.arithmetic .rem .divisionByZero)
        else .ok (.int (w.value ints)) := by
  intro w
  induction w with
  | number n =>
    intro _
    rfl
  | name x =>
    intro h
    rw [toExpr, Expr.evaluate, h x (List.mem_singleton_self x)]
    rfl
  | signed s w ih =>
    intro h
    rw [toExpr, Expr.evaluate, ih h, dividesByZero]
    by_cases hzero : w.dividesByZero ints = true
    · rw [if_pos hzero, if_pos hzero]
      rfl
    · rw [if_neg hzero, if_neg hzero]
      cases s with
      | plus => rfl
      | minus => rfl
  | binary op l r ihl ihr =>
    intro h
    have hl := ihl fun x hx ↦ h x (List.mem_append_left _ hx)
    have hr := ihr fun x hx ↦ h x (List.mem_append_right _ hx)
    rw [toExpr, Expr.evaluate, hl, hr, dividesByZero]
    -- The operands are evaluated from left to right, and what fails fails in the same way.
    rcases hleft : l.dividesByZero ints with _ | _
    · rcases hright : r.dividesByZero ints with _ | _
      · show (Arithmetic.apply op.toBinaryOp (.int (l.value ints)) (.int (r.value ints))).mapError
          (ExprError.arithmetic op.toBinaryOp) = _
        rw [WholeOp.apply_toBinaryOp]
        by_cases hzero : op = .rem ∧ r.value ints = 0
        · obtain ⟨rfl, hzero⟩ := hzero
          rw [if_pos ⟨rfl, hzero⟩, hzero]
          rfl
        · rw [if_neg hzero, if_neg (by simpa using hzero)]
          rfl
      · rw [Bool.or_true, Bool.true_or]
        rfl
    · rw [Bool.true_or, Bool.true_or]
      rfl

end WholeExpr

/-! ## Sizes -/

namespace Size

variable {size argument : String} {bound : Bindings} {w : WholeExpr} {ints : String → Int}

theorem value_of_evaluateExpr {n : Int} (hliteral : isIntNumeral (trim size.toList) = false)
    (h : evaluateExpr (trimmed size) bound = .ok (.int n)) :
    value size bound argument
      = if n.natAbs < Binary64.overflowBound then .ok n else .error (.notFinite size argument) := by
  rw [value_of_not_isIntNumeral hliteral, h]
  simp only [Number.isFinite, Number.truncate, decide_eq_true_eq]

theorem evaluateExpr_toExpr (hparse : Expr.parse (trimmed size) = .ok w.toExpr)
    (hints : ∀ x ∈ Expr.referencedNames size, bound.get? x = some (.int (ints x))) :
    evaluateExpr (trimmed size) bound
      = if w.dividesByZero ints then .error (.arithmetic .rem .divisionByZero)
        else .ok (.int (w.value ints)) := by
  have hassignment : ∀ x ∈ w.toExpr.names, assignment bound x = some (.int (ints x)) := by
    intro x hx
    rw [assignment, hints x (Expr.mem_referencedNames_iff.mpr ⟨_, hparse, hx⟩)]
    rfl
  rw [evaluateExpr, hparse]
  exact WholeExpr.evaluate_toExpr hassignment

/-- **Exact sizes.** A size over whole numbers is refused if it divides by zero. If not, its value
over the unbounded whole numbers is the number of elements, is refused as negative, or is refused
because it rounds to no finite floating-point number, which is asked first. -/
theorem evaluate_whole_is_exact {size argument : String} {bound : Bindings} {w : WholeExpr}
    {ints : String → Int} (hliteral : isIntNumeral (trim size.toList) = false)
    (hparse : Expr.parse (trimmed size) = .ok w.toExpr)
    (hints : ∀ x ∈ Expr.referencedNames size, bound.get? x = some (.int (ints x))) :
    (w.dividesByZero ints = true →
      ∃ f, evaluate size bound argument = .error f ∧ f.kind = .invalidExpression) ∧
    (w.dividesByZero ints = false →
      (0 ≤ w.value ints → w.value ints < 2 ^ 1024 - 2 ^ 970 →
        evaluate size bound argument = .ok (w.value ints).toNat) ∧
      (w.value ints < 0 → -(2 ^ 1024 - 2 ^ 970) < w.value ints →
        ∃ f, evaluate size bound argument = .error f ∧ f.kind = .argumentMismatch ∧
          f.context.get? "size" = some (.int (w.value ints))) ∧
      (2 ^ 1024 - 2 ^ 970 ≤ |w.value ints| →
        ∃ f, evaluate size bound argument = .error f ∧ f.kind = .invalidExpression)) := by
  have hexpr := evaluateExpr_toExpr hparse hints
  refine ⟨fun hzero ↦ ?_, fun hnonzero ↦ ?_⟩
  · rw [if_pos hzero] at hexpr
    refine ⟨.sizeError size argument (.arithmetic .rem .divisionByZero), ?_, rfl⟩
    exact evaluate_of_value_eq_error (by rw [value_of_not_isIntNumeral hliteral, hexpr])
  · rw [hnonzero, if_neg Bool.false_ne_true] at hexpr
    have hvalue : value size bound argument = _ := value_of_evaluateExpr hliteral hexpr
    have hbound := Binary64.overflowBound_eq (R := Int)
    refine ⟨fun hsign hlt ↦ ?_, fun hsign hlt ↦ ?_, fun hle ↦ ?_⟩
    · rw [if_pos (by omega)] at hvalue
      rw [evaluate_of_value hvalue, if_pos hsign]
    · rw [if_pos (by omega)] at hvalue
      refine ⟨.negativeSize argument (w.value ints), ?_, rfl, rfl⟩
      rw [evaluate_of_value hvalue, if_neg (Int.not_le.mpr hsign)]
    · rw [Int.abs_eq_natAbs] at hle
      rw [if_neg (by omega)] at hvalue
      exact ⟨.notFinite size argument, evaluate_of_value_eq_error hvalue, rfl⟩

theorem evaluate_whole_is_exact_cancelled :
    evaluate "n-n+3" [("n", .int (2 ^ 2000))] "xs" = .ok 3 ∧
      (∃ f, evaluate "1%-n" [("n", .int 3)] "xs" = .error f ∧ f.kind = .argumentMismatch ∧
        f.context.get? "size" = some (.int (-2))) ∧
      (∃ f, evaluate "1-n" [("n", .int (2 ^ 2000))] "xs" = .error f ∧
        f.kind = .invalidExpression) ∧
      ∃ f, evaluate "1%(n-n)" [("n", .int 3)] "xs" = .error f ∧ f.kind = .invalidExpression := by
  -- All four sizes refer to `n` alone.
  have hints : ∀ {size : String} {e : Expr} {n : Int}, Expr.parse (trimmed size) = .ok e →
      (∀ x ∈ e.names, x = "n") → ∀ x ∈ Expr.referencedNames size,
        Fields.get? x [("n", Value.int n)] = some (.int ((fun _ ↦ n) x)) := by
    intro size e n hparse hnames x hx
    obtain ⟨e', hparse', hx⟩ := Expr.mem_referencedNames_iff.mp hx
    obtain rfl := Except.ok.inj (hparse.symm.trans hparse')
    rw [hnames x hx]
    rfl
  have hcancelled : Expr.parse (trimmed "n-n+3") = .ok (WholeExpr.binary .add
      (.binary .sub (.name "n") (.name "n")) (.number 3)).toExpr := by cbv
  have hnegative : Expr.parse (trimmed "1%-n") = .ok (WholeExpr.binary .rem (.number 1)
      (.signed .minus (.name "n"))).toExpr := by cbv
  have hlarge : Expr.parse (trimmed "1-n") = .ok (WholeExpr.binary .sub (.number 1)
      (.name "n")).toExpr := by cbv
  have hzero : Expr.parse (trimmed "1%(n-n)") = .ok (WholeExpr.binary .rem (.number 1)
      (.binary .sub (.name "n") (.name "n"))).toExpr := by cbv
  refine ⟨?_, ?_, ?_, ?_⟩
  · refine (((evaluate_whole_is_exact rfl hcancelled (hints hcancelled (by decide))).2
      (by decide +kernel)).1 (by decide +kernel) (by decide +kernel)).trans (congrArg Except.ok ?_)
    decide +kernel
  · exact ((evaluate_whole_is_exact rfl hnegative (hints hnegative (by decide))).2
      (by decide +kernel)).2.1 (by decide +kernel) (by decide +kernel)
  · exact ((evaluate_whole_is_exact rfl hlarge (hints hlarge (by decide))).2
      (by decide +kernel)).2.2 (by decide +kernel)
  · exact (evaluate_whole_is_exact rfl hzero (hints hzero (by decide))).1 (by decide +kernel)

end Size

end LineCommands
