import LineCommands.Proofs.Expression.NumberText

/-!
# Where tokens come from

Every token of a text was scanned somewhere in it, so what the scanner can produce is all that a
token list can hold: number tokens have the text of a number, and the character that a name token
begins with stands in the text.
-/

namespace LineCommands

/-- Tokens of some text have this lexeme. -/
def Lexeme.Occurs (l : Lexeme) : Prop :=
  ∃ source ts, tokenize source = .ok ts ∧ ∃ t ∈ ts, t.lexeme = l

namespace Lexeme

/-- The three ways to scan a lexeme: a number, else a name, else a symbol. -/
theorem scan?_eq_some {cs after : List Char} {l : Lexeme} (h : scan? cs = some (l, after)) :
    (numberPart cs ≠ [] ∧ l = .number (String.ofList (numberPart cs)) ∧
        after = cs.drop (numberPart cs).length) ∨
    (namePart cs ≠ [] ∧ l = .name (String.ofList (namePart cs)) ∧
        after = cs.drop (namePart cs).length) ∨
    symbol? cs = some (l, after) := by
  rw [scan?] at h
  by_cases hnumber : numberPart cs = []
  · by_cases hname : namePart cs = []
    · simp only [hnumber, hname] at h
      exact Or.inr (Or.inr h)
    · simp only [hnumber, List.isEmpty_nil, Bool.not_true, Bool.false_eq_true, if_false,
        List.isEmpty_eq_false_iff.mpr hname, Bool.not_false, if_true, Option.some.injEq,
        Prod.mk.injEq] at h
      exact Or.inr (Or.inl ⟨hname, h.1.symm, h.2.symm⟩)
  · simp only [List.isEmpty_eq_false_iff.mpr hnumber, Bool.not_false, if_true, Option.some.injEq,
      Prod.mk.injEq] at h
    exact Or.inl ⟨hnumber, h.1.symm, h.2.symm⟩

theorem symbol?_eq_some {cs after : List Char} {l : Lexeme} (h : symbol? cs = some (l, after)) :
    after <:+ cs ∧ (∀ text, l ≠ .number text) ∧ ∀ text, l ≠ .name text := by
  unfold symbol? at h
  split at h <;> cases h <;> simp [List.suffix_cons_iff]

theorem suffix_of_scan? {cs after : List Char} {l : Lexeme} (h : scan? cs = some (l, after)) :
    after <:+ cs := by
  rcases scan?_eq_some h with ⟨-, -, rfl⟩ | ⟨-, -, rfl⟩ | hsymbol
  · exact List.drop_suffix _ _
  · exact List.drop_suffix _ _
  · exact (symbol?_eq_some hsymbol).1

theorem numberText_of_scan? {cs after : List Char} {text : String}
    (h : scan? cs = some (.number text, after)) : ∃ v, NumberText text.toList v := by
  rcases scan?_eq_some h with ⟨hne, hl, -⟩ | ⟨-, hl, -⟩ | hsymbol
  · obtain rfl := Lexeme.number.inj hl
    rw [String.toList_ofList]
    exact numberText_numberPart hne
  · cases hl
  · exact absurd rfl ((symbol?_eq_some hsymbol).2.1 text)

theorem isNameStart_of_scan? {cs after : List Char} {text : String}
    (h : scan? cs = some (.name text, after)) : ∃ c ∈ cs, isNameStart c = true := by
  rcases scan?_eq_some h with ⟨-, hl, -⟩ | ⟨hne, -, -⟩ | hsymbol
  · cases hl
  · cases cs with
    | nil => exact absurd rfl hne
    | cons c cs =>
      refine ⟨c, List.mem_cons_self, ?_⟩
      by_contra hc
      exact hne (by rw [namePart, if_neg hc])
  · exact absurd rfl ((symbol?_eq_some hsymbol).2.2 text)

end Lexeme

/-- Every token was scanned at some place of the text. -/
theorem exists_scan?_of_mem_tokensFrom {position : Nat} {cs : List Char} {ts : List Token}
    (h : tokensFrom position cs = .ok ts) {t : Token} (ht : t ∈ ts) :
    ∃ here after, here <:+ cs ∧ Lexeme.scan? here = some (t.lexeme, after) := by
  fun_induction tokensFrom position cs generalizing ts with
  | case1 =>
    obtain rfl := Except.ok.inj h
    cases ht
  | case2 position c rest l after hscan later hlater ih =>
    obtain rfl := Except.ok.inj h
    rcases List.mem_cons.mp ht with rfl | ht
    · exact ⟨c :: rest, after, List.suffix_refl _, hscan⟩
    · obtain ⟨here, there, hsuffix, hhere⟩ := ih hlater ht
      exact ⟨here, there, hsuffix.trans (Lexeme.suffix_of_scan? hscan), hhere⟩
  | case3 => cases h
  | case4 position c rest hscan hblank ih =>
    obtain ⟨here, there, hsuffix, hhere⟩ := ih h ht
    exact ⟨here, there, hsuffix.trans (List.suffix_cons c rest), hhere⟩
  | case5 => cases h

theorem Lexeme.Occurs.numberText {text : String} (h : (Lexeme.number text).Occurs) :
    ∃ v, NumberText text.toList v := by
  obtain ⟨source, ts, hts, t, ht, hl⟩ := h
  obtain ⟨here, after, -, hscan⟩ := exists_scan?_of_mem_tokensFrom hts ht
  exact Lexeme.numberText_of_scan? (hl ▸ hscan)

theorem exists_isNameStart_of_name_mem {source : String} {ts : List Token}
    (hts : tokenize source = .ok ts) {n : String} (hn : .name n ∈ ts.map (·.lexeme)) :
    ∃ c ∈ source.toList, Lexeme.isNameStart c = true := by
  obtain ⟨t, ht, hl⟩ := List.mem_map.mp hn
  obtain ⟨here, after, hsuffix, hscan⟩ := exists_scan?_of_mem_tokensFrom hts ht
  obtain ⟨c, hc, hstart⟩ := Lexeme.isNameStart_of_scan? (hl ▸ hscan)
  exact ⟨c, hsuffix.subset hc, hstart⟩

end LineCommands
