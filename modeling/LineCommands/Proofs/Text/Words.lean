import LineCommands.Proofs.Text.Runs

/-!
# Words of a text

The words of a text are its maximal runs of characters that are not blank. Written the other way
round, a text *spreads* a list of words when it is these words with blanks between them, and with or
without blanks at its ends. Every text spreads one list of words, the one that cutting finds
(`words_eq_iff`), so nothing but the blanks gets lost, and words can be written with any blanks to
be found again.
-/

namespace LineCommands.Text

/-- A text that is a single word. -/
def IsWord (w : List Char) : Prop := w ≠ [] ∧ ∀ c ∈ w, isBlank c = false

/-- The text is the words with blanks between, before and behind them. -/
inductive Spreads : List (List Char) → List Char → Prop
  | blank {cs : List Char} (hblank : ∀ c ∈ cs, isBlank c = true) : Spreads [] cs
  | word {before w rest : List Char} {ws : List (List Char)}
      (hbefore : ∀ c ∈ before, isBlank c = true) (hw : IsWord w)
      (hrest : Ends (!isBlank ·) rest) (hws : Spreads ws rest) :
      Spreads (w :: ws) (before ++ (w ++ rest))

theorem words_of_dropWhile_eq_nil {cs : List Char} (h : cs.dropWhile isBlank = []) :
    words cs = [] := by
  rw [words]
  split
  · rfl
  · next heq => rw [h] at heq; cases heq

theorem words_of_dropWhile_eq_cons {cs rest : List Char} {c : Char}
    (h : cs.dropWhile isBlank = c :: rest) :
    words cs = (c :: rest.takeWhile (!isBlank ·)) :: words (rest.dropWhile (!isBlank ·)) := by
  rw [words]
  split
  · next heq => rw [h] at heq; cases heq
  · next heq =>
    rw [h] at heq
    obtain ⟨rfl, rfl⟩ := List.cons.inj heq
    rfl

theorem words_of_spreads {ws : List (List Char)} {cs : List Char} (h : Spreads ws cs) :
    words cs = ws := by
  induction h with
  | blank hblank => exact words_of_dropWhile_eq_nil (List.dropWhile_eq_nil_iff.mpr hblank)
  | @word before w rest ws hbefore hw hrest hws ih =>
    obtain ⟨hne, hall⟩ := hw
    obtain ⟨c, w, rfl⟩ := List.exists_cons_of_ne_nil hne
    obtain ⟨hc, hw⟩ := List.forall_mem_cons.mp hall
    have hdrop : (before ++ (c :: w ++ rest)).dropWhile isBlank = c :: (w ++ rest) :=
      dropWhile_run hbefore (ends_cons.mpr hc)
    -- What follows the word does not go on with it, so the cut is where the word ends.
    have hrun : ∀ c ∈ w, (!isBlank c) = true := fun c hc ↦ by rw [hw c hc]; rfl
    rw [words_of_dropWhile_eq_cons hdrop, takeWhile_run hrun hrest, dropWhile_run hrun hrest, ih]

theorem spreads_words (cs : List Char) : Spreads (words cs) cs := by
  induction cs using words.induct with
  | case1 cs h =>
    rw [words_of_dropWhile_eq_nil h]
    exact .blank (List.dropWhile_eq_nil_iff.mp h)
  | case2 cs c rest h ih =>
    have hc : isBlank c = false := ends_cons.mp (h ▸ ends_dropWhile isBlank cs)
    have hword : IsWord (c :: rest.takeWhile (!isBlank ·)) := by
      refine ⟨List.cons_ne_nil _ _, List.forall_mem_cons.mpr ⟨hc, fun c' hc' ↦ ?_⟩⟩
      simpa using List.mem_takeWhile_imp hc'
    have hbefore : ∀ c' ∈ cs.takeWhile isBlank, isBlank c' = true :=
      fun c' hc' ↦ List.mem_takeWhile_imp hc'
    have hspread := Spreads.word hbefore hword (ends_dropWhile (!isBlank ·) rest) ih
    rwa [List.cons_append, List.takeWhile_append_dropWhile, ← h,
      List.takeWhile_append_dropWhile, ← words_of_dropWhile_eq_cons h] at hspread

/-- **Words.** The words of a text are the ones that it spreads. -/
theorem words_eq_iff {cs : List Char} {ws : List (List Char)} : words cs = ws ↔ Spreads ws cs := by
  constructor
  · rintro rfl
    exact spreads_words cs
  · exact words_of_spreads

theorem Spreads.isWord {cs w : List Char} {ws : List (List Char)} (h : Spreads ws cs)
    (hw : w ∈ ws) : IsWord w := by
  induction h with
  | blank => cases hw
  | word _ hfirst _ _ ih =>
    obtain rfl | hw := List.mem_cons.mp hw
    · exact hfirst
    · exact ih hw

theorem Spreads.flatten {cs : List Char} {ws : List (List Char)} (h : Spreads ws cs) :
    ws.flatten = cs.filter (!isBlank ·) := by
  induction h with
  | blank hblank =>
    rw [List.flatten_nil, eq_comm, List.filter_eq_nil_iff]
    exact fun c hc ↦ by simp [hblank c hc]
  | @word before w rest ws hbefore hw hrest hws ih =>
    have hblanks : before.filter (!isBlank ·) = [] :=
      List.filter_eq_nil_iff.mpr fun c hc ↦ by simp [hbefore c hc]
    have hword : w.filter (!isBlank ·) = w :=
      List.filter_eq_self.mpr fun c hc ↦ by simp [hw.2 c hc]
    rw [List.flatten_cons, List.filter_append, List.filter_append, hblanks, hword, ih,
      List.nil_append]

theorem Spreads.cons_blank {c : Char} {cs : List Char} {ws : List (List Char)}
    (h : Spreads ws cs) (hc : isBlank c = true) : Spreads ws (c :: cs) := by
  cases h with
  | blank hblank => exact .blank (List.forall_mem_cons.mpr ⟨hc, hblank⟩)
  | word hbefore hw hrest hws => exact .word (List.forall_mem_cons.mpr ⟨hc, hbefore⟩) hw hrest hws

/-- Words are spread by the text that has one blank between any two of them. -/
theorem spreads_intercalate {c : Char} (hc : isBlank c = true) {ws : List (List Char)}
    (hws : ∀ w ∈ ws, IsWord w) : Spreads ws ([c].intercalate ws) := by
  induction ws with
  | nil => exact .blank (by simp)
  | cons w ws ih =>
    obtain ⟨hw, hws⟩ := List.forall_mem_cons.mp hws
    cases ws with
    | nil =>
      have hlast : Spreads [w] ([] ++ (w ++ [])) :=
        .word (by simp) hw ends_nil (.blank (by simp))
      simpa using hlast
    | cons w' ws =>
      have hrest : Ends (!isBlank ·) (c :: [c].intercalate (w' :: ws)) :=
        ends_cons.mpr (by rw [hc]; rfl)
      -- The blank that ends the first word goes before the second.
      have hspread : Spreads (w :: w' :: ws) ([] ++ (w ++ c :: [c].intercalate (w' :: ws))) :=
        .word (by simp) hw hrest ((ih hws).cons_blank hc)
      rwa [List.nil_append, List.append_cons, ← List.intercalate_cons_cons] at hspread

/-! ## Strings -/

theorem isWord_of_mem_wordsOf {s t : String} (h : t ∈ wordsOf s) : IsWord t.toList := by
  obtain ⟨w, hw, rfl⟩ := List.mem_map.mp h
  rw [String.toList_ofList]
  exact (spreads_words s.toList).isWord hw

theorem wordsOf_intercalate {ts : List String} (h : ∀ t ∈ ts, IsWord t.toList) :
    wordsOf (" ".intercalate ts) = ts := by
  have hwords : words (" ".intercalate ts).toList = ts.map String.toList := by
    rw [String.toList_intercalate]
    exact words_of_spreads (spreads_intercalate (by decide) (by simpa using h))
  rw [wordsOf, hwords, List.map_map]
  simp

end LineCommands.Text
