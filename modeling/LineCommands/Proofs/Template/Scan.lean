import Mathlib.Data.List.TakeWhile
import LineCommands.Template.Entry
import LineCommands.Proofs.Text.Runs

/-!
# The scan of a template

The entries of a text are found by one walk from left to right: where an entry stands it is taken,
and anywhere else one character is passed over. This says so without the reader. `Entry.StandsAt`
is the shape of an entry at the front of a text, `Scan` is the walk, and the main result is that a
text has exactly one scan, the one that `entriesFrom` makes.

## Why reading does not branch

The shape asks for several runs of characters one behind the other and leaves open where each ends.
It determines them all the same: what follows a type is a bracket or a blank, which are no word
characters, what follows the blanks is a plain word character, and a clause ends at its first
closing bracket. These are facts about the classes of characters, and they come first.
-/

namespace LineCommands

/-! ## Classes that do not meet -/

namespace Text

/-- The blank characters, by their code points. -/
def blankPoints : List Nat := blankRanges.flatMap fun r ↦ List.range' r.1 (r.2 + 1 - r.1)

theorem toNat_mem_blankPoints {c : Char} (h : isBlank c = true) : c.toNat ∈ blankPoints := by
  obtain ⟨r, hr, hc⟩ := List.any_eq_true.mp h
  simp only [Bool.and_eq_true, decide_eq_true_eq] at hc
  refine List.mem_flatMap.mpr ⟨r, hr, List.mem_range'_1.mpr ⟨hc.1, ?_⟩⟩
  omega

theorem isWordChar_of_isBlank {c : Char} (h : isBlank c = true) : isWordChar c = false := by
  have hall : ∀ n ∈ blankPoints, isWordChar (Char.ofNat n) = false := by decide +kernel
  rw [← Char.ofNat_toNat c]
  exact hall _ (toNat_mem_blankPoints h)

theorem isBlank_of_isPlainWordChar {c : Char} (h : isPlainWordChar c = true) :
    isBlank c = false := by
  by_contra hc
  rw [Bool.not_eq_false] at hc
  have hword := isWordChar_of_isPlainWordChar h
  rw [isWordChar_of_isBlank hc] at hword
  cases hword

end Text

open Text

/-! ## Entries in a text -/

/-- A clause with its brackets, or nothing. -/
def clauseText : Option String → List Char
  | none => []
  | some detail => '<' :: (detail.toList ++ ['>'])

namespace Entry

/-- The parts are ones that an entry can have: a type of word characters, a clause that is not empty
and does not hold its own closing bracket, and a name of plain word characters. -/
structure WellFormed (e : Entry) : Prop where
  type_ne : e.type.toList ≠ []
  type_run : ∀ c ∈ e.type.toList, isWordChar c = true
  clause : ∀ detail ∈ e.clause, detail.toList ≠ [] ∧ '>' ∉ detail.toList
  name_ne : e.name.toList ≠ []
  name_run : ∀ c ∈ e.name.toList, isPlainWordChar c = true

/-- The entry stands at the front of `cs`, and `rest` follows it: an ampersand, the longest run of
word characters, the clause if there is one, blanks, and the longest run of plain word
characters. -/
structure StandsAt (e : Entry) (cs rest : List Char) : Prop where
  wellFormed : e.WellFormed
  text : ∃ gap, gap ≠ [] ∧ (∀ c ∈ gap, isBlank c = true) ∧
    cs = '&' :: (e.type.toList ++ (clauseText e.clause ++ (gap ++ (e.name.toList ++ rest)))) ∧
    Ends isWordChar (clauseText e.clause ++ (gap ++ (e.name.toList ++ rest)))
  ends : Ends isPlainWordChar rest

/-! ## Reading an entry -/

theorem clauseText_of_readClause? {cs rest : List Char} {clause : Option (List Char)}
    (h : readClause? cs = some (clause, rest)) :
    cs = clauseText (clause.map String.ofList) ++ rest ∧ ∀ d ∈ clause, d ≠ [] ∧ '>' ∉ d := by
  unfold readClause? at h
  split at h
  · next cs =>
    simp only at h
    split at h
    · next rest' hrest =>
      by_cases hne : cs.takeWhile (· != '>') = []
      · simp [hne] at h
      · simp only [List.isEmpty_eq_false_iff.mpr hne, Bool.false_eq_true, if_false,
          Option.some.injEq, Prod.mk.injEq] at h
        obtain ⟨rfl, rfl⟩ := h
        rw [drop_length_takeWhile] at hrest
        constructor
        · have hcs := List.takeWhile_append_dropWhile (p := (· != '>')) (l := cs)
          rw [hrest] at hcs
          simp only [Option.map_some, clauseText, String.toList_ofList, List.cons_append,
            List.append_assoc, List.nil_append]
          rw [hcs]
        · intro d hd
          obtain rfl := Option.mem_some.mp hd
          -- The run ended before the first closing bracket.
          refine ⟨hne, fun hmem ↦ ?_⟩
          have hneq := List.mem_takeWhile_imp hmem
          exact absurd hneq (by decide)
    · cases h
  · simp only [Option.some.injEq, Prod.mk.injEq] at h
    obtain ⟨rfl, rfl⟩ := h
    exact ⟨rfl, fun d hd ↦ by cases hd⟩

theorem readClause?_clauseText {rest : List Char} {clause : Option String}
    (hclause : ∀ detail ∈ clause, detail.toList ≠ [] ∧ '>' ∉ detail.toList)
    (hrest : Ends (· == '<') rest) :
    readClause? (clauseText clause ++ rest) = some (clause.map String.toList, rest) := by
  cases clause with
  | none =>
    rw [clauseText, List.nil_append]
    unfold readClause?
    split
    · exact absurd (ends_cons.mp hrest) (by decide)
    · rfl
  | some detail =>
    obtain ⟨hne, hmem⟩ := hclause detail rfl
    have hrun : ∀ c ∈ detail.toList, (c != '>') = true := by
      intro c hc
      rw [bne_iff_ne]
      rintro rfl
      exact hmem hc
    have hstop : Ends (· != '>') ('>' :: rest) := ends_cons.mpr (by decide)
    rw [clauseText, List.cons_append, List.append_assoc, List.singleton_append, readClause?]
    simp only [takeWhile_run hrun hstop, List.drop_left]
    rw [if_neg (by simpa using hne)]
    rfl

theorem standsAt_of_read? {cs rest : List Char} {e : Entry} (h : read? cs = some (e, rest)) :
    e.StandsAt ('&' :: cs) rest := by
  rw [read?] at h
  simp only [drop_length_takeWhile] at h
  split at h
  · cases h
  · next clause after hclause =>
    obtain ⟨htext, hclause⟩ := clauseText_of_readClause? hclause
    by_cases hempty : cs.takeWhile isWordChar = [] ∨ after.takeWhile isBlank = [] ∨
        (after.dropWhile isBlank).takeWhile isPlainWordChar = []
    · rw [if_pos (by simpa [or_assoc] using hempty)] at h
      cases h
    · rw [if_neg (by simpa [or_assoc] using hempty)] at h
      obtain ⟨rfl, rfl⟩ := Prod.mk.inj (Option.some.inj h)
      obtain ⟨htype, hgap, hname⟩ : cs.takeWhile isWordChar ≠ [] ∧ after.takeWhile isBlank ≠ [] ∧
          (after.dropWhile isBlank).takeWhile isPlainWordChar ≠ [] := by
        simpa only [not_or] using hempty
      have hafter : after = after.takeWhile isBlank
          ++ ((after.dropWhile isBlank).takeWhile isPlainWordChar
            ++ (after.dropWhile isBlank).dropWhile isPlainWordChar) := by
        rw [List.takeWhile_append_dropWhile, List.takeWhile_append_dropWhile]
      refine ⟨⟨?_, ?_, ?_, ?_, ?_⟩, ⟨after.takeWhile isBlank, hgap, ?_, ?_, ?_⟩,
        ends_dropWhile _ _⟩
      · rwa [String.toList_ofList]
      · rw [String.toList_ofList]
        exact fun c hc ↦ List.mem_takeWhile_imp hc
      · intro detail hdetail
        obtain ⟨d, hd, rfl⟩ := Option.map_eq_some_iff.mp hdetail
        rw [String.toList_ofList]
        exact hclause d hd
      · rwa [String.toList_ofList]
      · rw [String.toList_ofList]
        exact fun c hc ↦ List.mem_takeWhile_imp hc
      · exact fun c hc ↦ List.mem_takeWhile_imp hc
      · rw [String.toList_ofList, String.toList_ofList, ← hafter, ← htext,
          List.takeWhile_append_dropWhile]
      · rw [String.toList_ofList, ← hafter, ← htext]
        exact ends_dropWhile _ _

theorem read?_of_standsAt {cs rest : List Char} {e : Entry} (h : e.StandsAt ('&' :: cs) rest) :
    read? cs = some (e, rest) := by
  obtain ⟨⟨htype, htypeRun, hclause, hname, hnameRun⟩, ⟨gap, hgap, hgapRun, htext, hends⟩, hrest⟩ :=
    h
  obtain rfl := (List.cons.inj htext).2
  -- Each run ends where the next begins.
  have hbracket : Ends (· == '<') (gap ++ (e.name.toList ++ rest)) := by
    refine ends_append hgap fun c hc ↦ ?_
    rw [beq_eq_false_iff_ne]
    rintro rfl
    exact absurd (hgapRun _ hc) (by decide)
  have hblank : Ends isBlank (e.name.toList ++ rest) :=
    ends_append hname fun c hc ↦ isBlank_of_isPlainWordChar (hnameRun c hc)
  rw [read?]
  simp only [takeWhile_run htypeRun hends, List.drop_left,
    readClause?_clauseText hclause hbracket, takeWhile_run hgapRun hblank,
    takeWhile_run hnameRun hrest]
  rw [if_neg (by simp [htype, hgap, hname])]
  simp [Option.map_map, Function.comp_def]

/-- The reader finds what stands behind an ampersand. -/
theorem read?_eq_some_iff {cs rest : List Char} {e : Entry} :
    read? cs = some (e, rest) ↔ e.StandsAt ('&' :: cs) rest :=
  ⟨standsAt_of_read?, read?_of_standsAt⟩

theorem StandsAt.exists_cons {cs rest : List Char} {e : Entry} (h : e.StandsAt cs rest) :
    ∃ cs', cs = '&' :: cs' := by
  obtain ⟨gap, -, -, htext, -⟩ := h.text
  exact ⟨_, htext⟩

end Entry

/-! ## The walk -/

/-- The entries that are met from left to right: where an entry stands it is taken whole, and where
none stands one character is passed over. -/
inductive Scan : List Char → List Entry → Prop
  | nil : Scan [] []
  | entry {cs rest : List Char} {e : Entry} {es : List Entry} (h : e.StandsAt cs rest)
      (hrest : Scan rest es) : Scan cs (e :: es)
  | skip {c : Char} {cs : List Char} {es : List Entry}
      (h : ∀ (e : Entry) (rest : List Char), ¬e.StandsAt (c :: cs) rest)
      (hrest : Scan cs es) : Scan (c :: cs) es

theorem scan_entriesFrom (cs : List Char) : Scan cs (entriesFrom cs) := by
  fun_induction entriesFrom cs with
  | case1 => exact .nil
  | case2 rest e after hread ih => exact .entry (Entry.read?_eq_some_iff.mp hread) ih
  | case3 rest hread ih =>
    refine .skip (fun e after h ↦ ?_) ih
    rw [Entry.read?_eq_some_iff.mpr h] at hread
    cases hread
  | case4 c rest hc ih =>
    refine .skip (fun e after h ↦ ?_) ih
    obtain ⟨cs', hcs⟩ := h.exists_cons
    exact hc (List.cons.inj hcs).1

/-- **One scan.** A text is scanned in one way only, and that is the way the reader scans it. -/
theorem scan_iff {cs : List Char} {es : List Entry} : Scan cs es ↔ es = entriesFrom cs := by
  constructor
  · intro h
    induction h with
    | nil => rw [entriesFrom]
    | @entry cs rest e es h _ ih =>
      obtain ⟨cs', rfl⟩ := h.exists_cons
      rw [entriesFrom, if_pos rfl]
      split
      · next hread =>
        rw [Entry.read?_eq_some_iff.mpr h] at hread
        obtain ⟨rfl, rfl⟩ := Prod.mk.inj (Option.some.inj hread)
        rw [ih]
      · next hread =>
        rw [Entry.read?_eq_some_iff.mpr h] at hread
        cases hread
    | @skip c cs es h _ ih =>
      rw [entriesFrom]
      split
      · next hc =>
        subst hc
        split
        · next e after hread => exact absurd (Entry.read?_eq_some_iff.mp hread) (h e after)
        · exact ih
      · exact ih
  · rintro rfl
    exact scan_entriesFrom cs

end LineCommands
