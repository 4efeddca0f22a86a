import LineCommands.Proofs.Expression.Walk

/-!
# The names that a size refers to

A size that is a whole number is never read as an expression when the names in it are collected.
That is no exception to collecting them from its tree: a whole number has no name in it, read as an
expression or not (`mem_referencedNames_iff`). The reason is in the tokens. The names of a tree are
texts of name tokens, and a name token begins with a character that no whole number has.
-/

namespace LineCommands

/-! ## Whole numbers -/

theorem isNameStart_of_isDigit {c : Char} (h : c.isDigit = true) :
    Lexeme.isNameStart c = false := by
  have hne : c ≠ '_' := by
    rintro rfl
    exact absurd h (by decide)
  delta Char.isDigit at h
  delta Lexeme.isNameStart Char.isAlpha Char.isUpper Char.isLower
  simp only [Bool.and_eq_true, decide_eq_true_eq, ge_iff_le, UInt32.le_iff_toNat_le] at h
  have hbound : c.val.toNat ≤ 57 := h.2
  simp only [ge_iff_le, UInt32.le_iff_toNat_le, Bool.or_eq_false_iff, Bool.and_eq_false_iff,
    decide_eq_false_iff_not, beq_eq_false_iff_ne]
  -- Letters of both cases stand behind the digits.
  have hupper : ¬ 'A'.val.toNat ≤ c.val.toNat := fun hle ↦ absurd (hle.trans hbound) (by decide)
  have hlower : ¬ 'a'.val.toNat ≤ c.val.toNat := fun hle ↦ absurd (hle.trans hbound) (by decide)
  exact ⟨⟨fun hle ↦ hupper hle.1, Or.inl hlower⟩, hne⟩

theorem isNameStart_of_isIntNumeral {cs : List Char} (h : Text.isIntNumeral cs = true) {c : Char}
    (hc : c ∈ cs) : Lexeme.isNameStart c = false := by
  have hdigits : ∀ {ds : List Char}, Text.isDigits ds = true → ∀ d ∈ ds,
      Lexeme.isNameStart d = false :=
    fun hds d hd ↦ isNameStart_of_isDigit ((isDigits_iff.mp hds).2 d hd)
  rw [Text.isIntNumeral] at h
  unfold Text.splitSign at h
  split at h
  · rcases List.mem_cons.mp hc with rfl | hc
    · rfl
    · exact hdigits h c hc
  · rcases List.mem_cons.mp hc with rfl | hc
    · rfl
    · exact hdigits h c hc
  · exact hdigits h c hc

namespace Expr

theorem parse_eq_ok_iff {source : String} {e : Expr} :
    parse source = .ok e ↔ ∃ ts, tokenize source = .ok ts ∧ ofTokens ts = .ok e := bind_eq_ok

theorem exists_isNameStart_of_mem_names {source : String} {e : Expr} (h : parse source = .ok e)
    {n : String} (hn : n ∈ e.names) : ∃ c ∈ source.toList, Lexeme.isNameStart c = true := by
  obtain ⟨ts, hts, he⟩ := parse_eq_ok_iff.mp h
  exact exists_isNameStart_of_name_mem hts ((mem_names_of_ofTokens he).mp hn)

/-- A size refers to the names of its tree, if it has one. -/
theorem mem_referencedNames_iff {source n : String} :
    n ∈ referencedNames source ↔
      ∃ e, parse (Text.trimmed source) = .ok e ∧ n ∈ e.names := by
  rw [referencedNames, Text.trimmed]
  by_cases hint : Text.isIntNumeral (Text.trim source.toList) = true
  · rw [if_pos hint]
    constructor
    · intro h
      cases h
    · rintro ⟨e, he, hn⟩
      obtain ⟨c, hc, hstart⟩ := exists_isNameStart_of_mem_names he hn
      rw [String.toList_ofList] at hc
      rw [isNameStart_of_isIntNumeral hint hc] at hstart
      cases hstart
  · rw [if_neg hint]
    cases parse (String.ofList (Text.trim source.toList)) with
    | error err => simp
    | ok e => simp

end Expr

end LineCommands
