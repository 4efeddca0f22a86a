import LineCommands.Proofs.Text.Runs

/-!
# Trimmed texts

Trimming leaves a text that has no blank at either end, and every such text is what trimming leaves
of itself with any blanks around it. So where a part of a template is trimmed, the texts without
blanks at their ends are the ones that can be the result, and the blanks around them are the only
freedom there is in writing one (`Padded`).
-/

namespace LineCommands.Text

/-- The text neither begins nor ends with a blank. -/
def Tight (cs : List Char) : Prop := Ends isBlank cs ∧ Ends isBlank cs.reverse

variable {cs : List Char}

theorem dropWhile_of_ends {p : Char → Bool} (h : Ends p cs) : cs.dropWhile p = cs := by
  have hdrop : ([] ++ cs).dropWhile p = cs := dropWhile_run (by simp) h
  rwa [List.nil_append] at hdrop

theorem Ends.front {p : Char → Bool} {front : List Char} (h : Ends p cs)
    (hfront : front <+: cs) : Ends p front := by
  obtain ⟨back, rfl⟩ := hfront
  cases front with
  | nil => exact ends_nil
  | cons c front => exact ends_cons.mpr (ends_cons.mp h)

theorem tight_trim (cs : List Char) : Tight (trim cs) := by
  rw [trim, trimEnd]
  constructor
  · refine (ends_dropWhile isBlank cs).front ?_
    rw [← List.reverse_suffix, List.reverse_reverse]
    exact List.dropWhile_suffix _
  · rw [List.reverse_reverse]
    exact ends_dropWhile _ _

theorem trim_of_tight (h : Tight cs) : trim cs = cs := by
  rw [trim, trimEnd, dropWhile_of_ends h.1, dropWhile_of_ends h.2, List.reverse_reverse]

theorem tight_of_forall (h : ∀ c ∈ cs, isBlank c = false) : Tight cs :=
  ⟨fun c hc ↦ h c (List.mem_of_mem_head? hc),
    fun c hc ↦ h c (List.mem_reverse.mp (List.mem_of_mem_head? hc))⟩

theorem trim_trim (cs : List Char) : trim (trim cs) = trim cs := trim_of_tight (tight_trim cs)

/-- **Padding.** Blanks around a text without blanks at its ends are trimmed off, and no more. -/
theorem trim_pad {before after : List Char} (hne : cs ≠ []) (h : Tight cs)
    (hbefore : ∀ c ∈ before, isBlank c = true) (hafter : ∀ c ∈ after, isBlank c = true) :
    trim (before ++ (cs ++ after)) = cs := by
  have hfront : Ends isBlank (cs ++ after) := by
    cases cs with
    | nil => exact absurd rfl hne
    | cons c cs => exact ends_cons.mpr (ends_cons.mp h.1)
  rw [trim, trimEnd, dropWhile_run hbefore hfront, List.reverse_append,
    dropWhile_run (by simpa using hafter) h.2, List.reverse_reverse]

theorem mem_of_mem_trim {c : Char} (h : c ∈ trim cs) : c ∈ cs := by
  rw [trim, trimEnd, List.mem_reverse] at h
  exact (List.dropWhile_sublist _).subset
    (List.mem_reverse.mp ((List.dropWhile_sublist _).subset h))

theorem trim_eq_nil_iff : trim cs = [] ↔ ∀ c ∈ cs, isBlank c = true := by
  rw [trim, trimEnd, List.reverse_eq_nil_iff, List.dropWhile_eq_nil_iff]
  simp only [List.mem_reverse]
  constructor
  · intro h c hc
    rw [← List.takeWhile_append_dropWhile (p := isBlank) (l := cs)] at hc
    rcases List.mem_append.mp hc with hc | hc
    · exact List.mem_takeWhile_imp hc
    · exact h c hc
  · exact fun h c hc ↦ h c ((List.dropWhile_sublist _).subset hc)

end LineCommands.Text

namespace LineCommands

open Text

/-! ## Padded texts -/

/-- The text with blanks around it, or without. -/
def Padded (text padded : List Char) : Prop :=
  ∃ before after, (∀ c ∈ before, isBlank c = true) ∧ (∀ c ∈ after, isBlank c = true) ∧
    padded = before ++ (text ++ after)

theorem not_isBlank_of_mem {cs : List Char} (h : ∀ c ∈ cs, isBlank c = true) {c : Char}
    (hc : isBlank c = false) : c ∉ cs := by
  intro hmem
  rw [h c hmem] at hc
  cases hc

theorem Padded.notMem {text padded : List Char} (h : Padded text padded) {c : Char}
    (hblank : isBlank c = false) (htext : c ∉ text) : c ∉ padded := by
  obtain ⟨before, after, hbefore, hafter, rfl⟩ := h
  simp [not_isBlank_of_mem hbefore hblank, not_isBlank_of_mem hafter hblank, htext]

theorem Padded.ne_nil {text padded : List Char} (h : Padded text padded) (hne : text ≠ []) :
    padded ≠ [] := by
  obtain ⟨before, after, -, -, rfl⟩ := h
  simp [hne]

theorem Padded.trim_eq {text padded : List Char} (h : Padded text padded) (hne : text ≠ [])
    (htight : Tight text) : trim padded = text := by
  obtain ⟨before, after, hbefore, hafter, rfl⟩ := h
  exact trim_pad hne htight hbefore hafter

theorem padded_trim (cs : List Char) : Padded (trim cs) cs := by
  refine ⟨cs.takeWhile isBlank, ((cs.dropWhile isBlank).reverse.takeWhile isBlank).reverse,
    fun c hc ↦ List.mem_takeWhile_imp hc, fun c hc ↦ ?_, ?_⟩
  · exact List.mem_takeWhile_imp (List.mem_reverse.mp hc)
  · rw [trim, trimEnd, ← List.reverse_append, List.takeWhile_append_dropWhile, List.reverse_reverse,
      List.takeWhile_append_dropWhile]

theorem Padded.refl (text : List Char) : Padded text text :=
  ⟨[], [], by simp, by simp, by simp⟩

end LineCommands
