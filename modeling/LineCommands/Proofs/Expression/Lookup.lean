import LineCommands.Expression.Size
import LineCommands.Proofs.Expression.Names

/-!
# Names that are looked up

Evaluating an expression can miss a name, and reading one cannot: whatever is wrong with a text is
told before any name of it is looked up. So a size that misses a name is one that was read, the name
stands in its tree, and the bindings have no number under it. This is what a check of the names in a
size, made before anything is bound, can rule out.
-/

namespace LineCommands

/-! ## Errors of reading -/

/-- The error is one in the text of an expression and not in its evaluation. -/
def ExprError.OfReading : ExprError → Prop
  | .unknownVariable _ | .arithmetic .. => False
  | _ => True

namespace Form

theorem ofReading_of_read (f : Form) (ts : List Token) :
    ∀ {err : ExprError}, f.read ts = .error err → err.OfReading := by
  induction f, ts using induction_on_tokens with
  | step f ts shorter tighter =>
  intro err h
  cases f with
  | chain level =>
    rw [read_chain] at h
    obtain hfirst | ⟨⟨first, ts'⟩, hfirst, hrest⟩ := bind_eq_error.mp h
    · exact tighter _ (depth_operand level) hfirst
    · exact shorter _ ts' (length_lt_of_read_operand hfirst) hrest
  | rest level left =>
    cases ts with
    | nil => rw [read_rest_nil] at h; cases h
    | cons t ts =>
      cases hop : level.op? t.lexeme with
      | none => rw [read_rest_of_none hop] at h; cases h
      | some op =>
        rw [read_rest_of_some hop] at h
        obtain hright | ⟨⟨right, ts'⟩, hright, hrest⟩ := bind_eq_error.mp h
        · exact shorter _ ts (by simp) hright
        · have hlt := length_lt_of_read_operand hright
          exact shorter _ ts' (by rw [List.length_cons]; omega) hrest
  | signed =>
    rcases sign_or_head_ne ts with ⟨s, position, rest, rfl⟩ | hne
    · rw [read_signed_sign, map_eq_error] at h
      exact shorter _ rest (by simp) h
    · rw [read_signed_of_not_sign hne] at h
      exact tighter power (by decide) h
  | power =>
    rw [read_power] at h
    obtain hbase | ⟨⟨base, ts'⟩, hbase, hpower⟩ := bind_eq_error.mp h
    · exact tighter atom (by decide) hbase
    · have hlt := length_lt_of_read_atom hbase
      split at hpower
      · next position ts'' heq =>
        obtain rfl : ts' = ⟨.power, position⟩ :: ts'' := heq
        rw [List.length_cons] at hlt
        exact shorter signed ts'' (by omega) (map_eq_error.mp hpower)
      · cases hpower
  | atom =>
    cases ts with
    | nil =>
      rw [read_atom_nil] at h
      obtain rfl := Except.error.inj h
      trivial
    | cons t ts =>
      obtain ⟨l, position⟩ := t
      cases l with
      | number text =>
        rw [read_atom_number] at h
        split at h
        · cases h
        · obtain rfl := Except.error.inj h
          trivial
      | name n => rw [read_atom_name] at h; cases h
      | opening =>
        rw [read_atom_opening] at h
        obtain hinner | ⟨⟨inner, ts'⟩, -, hclosing⟩ := bind_eq_error.mp h
        · exact shorter _ ts (by simp) hinner
        · split at hclosing
          · cases hclosing
          · obtain rfl := Except.error.inj hclosing
            trivial
      | _ =>
        rw [read_atom_other _ (by simp) (by simp) (by simp)] at h
        obtain rfl := Except.error.inj h
        trivial

end Form

theorem ofReading_of_tokensFrom {position : Nat} {cs : List Char} {err : ExprError}
    (h : tokensFrom position cs = .error err) : err.OfReading := by
  fun_induction tokensFrom position cs with
  | case1 => cases h
  | case2 => cases h
  | case3 position c rest l after hscan err' hlater ih =>
    obtain rfl := Except.error.inj h
    exact ih hlater
  | case4 position c rest hscan hblank ih => exact ih h
  | case5 =>
    obtain rfl := Except.error.inj h
    trivial

namespace Expr

theorem ofReading_of_ofTokens {ts : List Token} {err : ExprError} (h : ofTokens ts = .error err) :
    err.OfReading := by
  cases ts with
  | nil =>
    obtain rfl := Except.error.inj h
    trivial
  | cons t ts =>
    rcases (ofTokens_eq_error_iff (List.cons_ne_nil t ts)).mp h with hread | ⟨e, t', after, -, rfl⟩
    · exact Form.ofReading_of_read _ _ hread
    · trivial

theorem ofReading_of_parse {source : String} {err : ExprError} (h : parse source = .error err) :
    err.OfReading := by
  rw [parse] at h
  obtain htokens | ⟨ts, -, hts⟩ := bind_eq_error.mp h
  · exact ofReading_of_tokensFrom htokens
  · exact ofReading_of_ofTokens hts

/-! ## Names without a number -/

theorem mem_names_of_evaluate {assignment : String → Option Number} {e : Expr} {x : String}
    (h : e.evaluate assignment = .error (.unknownVariable x)) :
    x ∈ e.names ∧ assignment x = none := by
  induction e with
  | number v => cases h
  | name n =>
    rw [evaluate] at h
    cases hn : assignment n with
    | some v => rw [hn] at h; cases h
    | none =>
      rw [hn] at h
      obtain rfl : n = x := by simpa using h
      exact ⟨List.mem_singleton_self n, hn⟩
  | signed s e ih =>
    rw [evaluate] at h
    obtain hoperand | ⟨v, -, hv⟩ := bind_eq_error.mp h
    · exact ih hoperand
    · cases hv
  | binary op l r ihl ihr =>
    rw [evaluate] at h
    obtain hleft | ⟨a, -, h⟩ := bind_eq_error.mp h
    · exact ⟨List.mem_append_left _ (ihl hleft).1, (ihl hleft).2⟩
    · obtain hright | ⟨b, -, hop⟩ := bind_eq_error.mp h
      · exact ⟨List.mem_append_right _ (ihr hright).1, (ihr hright).2⟩
      · -- What the operator itself fails with is no missing name.
        cases hresult : Arithmetic.apply op a b with
        | ok v => rw [hresult] at hop; cases hop
        | error cause => rw [hresult] at hop; cases hop

end Expr

/-! ## Sizes -/

namespace Size

/-- What keeps a size from being a number of elements. Each fault names the size or its array. -/
theorem fault_of_evaluate {size argument : String} {bound : Bindings} {f : Fault}
    (h : evaluate size bound argument = .error f) :
    (∃ cause, f = .sizeError size argument cause ∧
        evaluateExpr (Text.trimmed size) bound = .error cause) ∨
      f = .notFinite size argument ∨ ∃ n, f = .negativeSize argument n := by
  rw [evaluate] at h
  cases hvalue : value size bound argument with
  | ok n =>
    rw [hvalue] at h
    cases n with
    | ofNat n => cases h
    | negSucc n => exact Or.inr (Or.inr ⟨_, (Except.error.inj h).symm⟩)
  | error f' =>
    rw [hvalue] at h
    obtain rfl := Except.error.inj h
    simp only [value] at hvalue
    split at hvalue
    · split at hvalue
      · cases hvalue
      · exact Or.inr (Or.inl (Except.error.inj hvalue).symm)
    · split at hvalue
      · next cause hcause => exact Or.inl ⟨cause, (Except.error.inj hvalue).symm, hcause⟩
      · split at hvalue
        · cases hvalue
        · exact Or.inr (Or.inl (Except.error.inj hvalue).symm)

/-- **A missed name.** A size that misses a name refers to it, and no number is bound to it. -/
theorem mem_referencedNames_of_evaluate {size argument x : String} {bound : Bindings}
    (h : evaluate size bound argument = .error (.sizeError size argument (.unknownVariable x))) :
    x ∈ Expr.referencedNames size ∧ assignment bound x = none := by
  obtain ⟨cause, hf, hcause⟩ | hf | ⟨n, hf⟩ := fault_of_evaluate h
  · obtain ⟨-, -, rfl⟩ := Fault.sizeError.inj hf
    rw [evaluateExpr] at hcause
    obtain hparse | ⟨e, hparse, hevaluate⟩ := bind_eq_error.mp hcause
    · exact absurd (Expr.ofReading_of_parse hparse) id
    · obtain ⟨hmem, hnone⟩ := Expr.mem_names_of_evaluate hevaluate
      exact ⟨Expr.mem_referencedNames_iff.mpr ⟨e, hparse, hmem⟩, hnone⟩
  · cases hf
  · cases hf

end Size

end LineCommands
