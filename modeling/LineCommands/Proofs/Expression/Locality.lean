import LineCommands.Proofs.Expression.Literal
import LineCommands.Proofs.Expression.Lookup

/-!
# What a size depends on

A size is evaluated under everything that was bound before it, and little of that matters: of each
name it refers to the number, or that it has none. Bindings that agree on this give one outcome, the
same size or the same fault in all its parts. A text that is no expression refers to nothing, so
that its fault is the same under all bindings.

Nothing that a size refers to is idle either: it has a number of elements only if all its names have
numbers.
-/

namespace LineCommands

open Text

/-! ## Expressions -/

namespace Expr

variable {f g : String → Option Number}

theorem evaluate_congr : ∀ {e : Expr}, (∀ x ∈ e.names, f x = g x) →
    e.evaluate f = e.evaluate g := by
  intro e
  induction e with
  | number v =>
    intro _
    rfl
  | name n =>
    intro h
    rw [evaluate, evaluate, h n (List.mem_singleton_self n)]
  | signed s e ih =>
    intro h
    rw [evaluate, evaluate, ih h]
  | binary op l r ihl ihr =>
    intro h
    have hl : l.evaluate f = l.evaluate g := ihl fun x hx ↦ h x (List.mem_append_left _ hx)
    have hr : r.evaluate f = r.evaluate g := ihr fun x hx ↦ h x (List.mem_append_right _ hx)
    rw [evaluate, evaluate, hl, hr]

theorem exists_number_of_evaluate : ∀ {e : Expr} {v : Number}, e.evaluate f = .ok v →
    ∀ x ∈ e.names, ∃ n, f x = some n := by
  intro e
  induction e with
  | number v =>
    intro _ _ x hx
    exact absurd hx List.not_mem_nil
  | name n =>
    intro v h x hx
    rw [List.mem_singleton.mp hx]
    rw [evaluate] at h
    split at h
    · next w hw => exact ⟨w, hw⟩
    · cases h
  | signed s e ih =>
    intro v h
    obtain ⟨w, hw, -⟩ := bind_eq_ok.mp h
    exact ih hw
  | binary op l r ihl ihr =>
    intro v h x hx
    obtain ⟨a, ha, h⟩ := bind_eq_ok.mp h
    obtain ⟨b, hb, -⟩ := bind_eq_ok.mp h
    rcases List.mem_append.mp hx with hx | hx
    · exact ihl ha x hx
    · exact ihr hb x hx

end Expr

/-! ## Sizes -/

/-- Each of the names has one number in both bindings, or a number in neither. -/
def AgreeOn (names : List String) (bound other : Bindings) : Prop :=
  ∀ x ∈ names, (bound.get? x).bind Value.number? = (other.get? x).bind Value.number?

instance (names : List String) (bound other : Bindings) : Decidable (AgreeOn names bound other) :=
  inferInstanceAs (Decidable (∀ x ∈ names, _ = _))

namespace Size

variable {size argument : String} {bound other : Bindings}

theorem evaluateExpr_congr (h : AgreeOn (Expr.referencedNames size) bound other) :
    evaluateExpr (trimmed size) bound = evaluateExpr (trimmed size) other := by
  rw [evaluateExpr, evaluateExpr]
  cases hparse : Expr.parse (trimmed size) with
  | error err => rfl
  | ok e =>
    exact Expr.evaluate_congr fun x hx ↦ h x (Expr.mem_referencedNames_iff.mpr ⟨e, hparse, hx⟩)

theorem value_congr (h : AgreeOn (Expr.referencedNames size) bound other) (argument : String) :
    value size bound argument = value size other argument := by
  by_cases hliteral : isIntNumeral (trim size.toList) = true
  · simp only [value, hliteral, if_true]
  · have hexpr := Bool.not_eq_true _ ▸ hliteral
    rw [value_of_not_isIntNumeral hexpr, value_of_not_isIntNumeral hexpr, evaluateExpr_congr h]

theorem evaluate_congr (h : AgreeOn (Expr.referencedNames size) bound other) (argument : String) :
    evaluate size bound argument = evaluate size other argument := by
  rw [evaluate, evaluate, value_congr h]

theorem exists_number_of_evaluate {n : Nat} (h : evaluate size bound argument = .ok n) :
    ∀ x ∈ Expr.referencedNames size, ∃ v, assignment bound x = some v := by
  intro x hx
  obtain ⟨e, hparse, hxe⟩ := Expr.mem_referencedNames_iff.mp hx
  have hliteral : isIntNumeral (trim size.toList) = false := by
    rw [Bool.eq_false_iff]
    intro hliteral
    rw [Expr.referencedNames, if_pos hliteral] at hx
    exact List.not_mem_nil hx
  have hexpr : evaluateExpr (trimmed size) bound = e.evaluate (assignment bound) := by
    rw [evaluateExpr, hparse]
    rfl
  rcases hvalue : e.evaluate (assignment bound) with err | v
  · have hfault : value size bound argument = .error (.sizeError size argument err) := by
      rw [value_of_not_isIntNumeral hliteral, hexpr, hvalue]
    rw [evaluate_of_value_eq_error hfault] at h
    cases h
  · exact Expr.exists_number_of_evaluate hvalue x hxe

/-- What is no expression fails in one way, whatever is bound. -/
theorem exists_fault_of_parse {err : ExprError} (h : Expr.parse (trimmed size) = .error err)
    (argument : String) :
    ∃ f : Fault, f.kind = .invalidExpression ∧
      ∀ bound, evaluate size bound argument = .error f := by
  by_cases hliteral : isIntNumeral (trim size.toList) = true
  · obtain ⟨l, hl⟩ := IntLiteral.exists_chars_eq hliteral
    have hlong : ¬l.digits.length ≤ maxDigits := by
      intro hshort
      rw [trimmed, ← hl, IntLiteral.parse_chars hshort] at h
      cases h
    refine ⟨.notFinite size argument, rfl, fun bound ↦ evaluate_of_value_eq_error ?_⟩
    rw [value, ← hl]
    simp only [l.isIntNumeral_chars, if_true, l.readInt?_chars, if_neg hlong]
  · refine ⟨.sizeError size argument err, rfl, fun bound ↦ evaluate_of_value_eq_error ?_⟩
    have hexpr : evaluateExpr (trimmed size) bound = .error err := by
      rw [evaluateExpr, h]
      rfl
    rw [value_of_not_isIntNumeral (Bool.not_eq_true _ ▸ hliteral), hexpr]

/-- **Locality.** Bindings that agree on the names of a size give one outcome. All of these names
matter: a size has a number of elements only if each has a number. A size that is no expression has
none, and fails in one way under all bindings. -/
theorem evaluate_reads_referenced_names_only (size argument : String) :
    (∀ bound other, AgreeOn (Expr.referencedNames size) bound other →
      evaluate size bound argument = evaluate size other argument) ∧
    (∀ bound n, evaluate size bound argument = .ok n →
      ∀ x ∈ Expr.referencedNames size, ∃ v, assignment bound x = some v) ∧
    (∀ err, Expr.parse (trimmed size) = .error err →
      ∃ f : Fault, f.kind = .invalidExpression ∧
        ∀ bound, evaluate size bound argument = .error f) :=
  ⟨fun _ _ h ↦ evaluate_congr h argument, fun _ _ h ↦ exists_number_of_evaluate h,
    fun _ h ↦ exists_fault_of_parse h argument⟩

/-- The order of the arguments and what else is bound make no difference. A name that is bound to a
text has no number, as if it were not bound at all. -/
theorem evaluate_reads_referenced_names_only_product :
    evaluate "r*c" [("r", .int 2), ("c", .int 3)] "xs"
        = evaluate "r*c" [("title", .text "a"), ("c", .int 3), ("r", .int 2)] "xs" ∧
      evaluate "r*c" [("r", .text "2")] "xs" = evaluate "r*c" [] "xs" ∧
      ∃ f : Fault, f.kind = .invalidExpression ∧ ∀ bound, evaluate "r**" bound "xs" = .error f := by
  have hread : Expr.parse (trimmed "r*c") = .ok (.binary .mul (.name "r") (.name "c")) := by cbv
  have hunread : Expr.parse (trimmed "r**") = .error .endOfText := by cbv
  have hagree : ∀ {bound other : Bindings}, AgreeOn ["r", "c"] bound other →
      AgreeOn (Expr.referencedNames "r*c") bound other := by
    intro bound other h x hx
    obtain ⟨e, hparse, hx⟩ := Expr.mem_referencedNames_iff.mp hx
    obtain rfl := Except.ok.inj (hread.symm.trans hparse)
    exact h x hx
  have hlocal := (evaluate_reads_referenced_names_only "r*c" "xs").1
  exact ⟨hlocal _ _ (hagree (by decide +kernel)), hlocal _ _ (hagree (by decide +kernel)),
    (evaluate_reads_referenced_names_only "r**" "xs").2.2 _ hunread⟩

end Size

end LineCommands
