import LineCommands.Dispatch
import LineCommands.Proofs.Text.Runs

/-!
# Splitting a line

A line with a colon is split at the first one, in one way only; a line without is not split. The
tokens are the words of what stands behind the colon.
-/

namespace LineCommands

open Text

/-- The line is the keyword, a colon, and a text whose words are the tokens. -/
def SplitsInto (line keyword : String) (tokens : List String) : Prop :=
  ':' ∉ keyword.toList ∧ ∃ rest, line = keyword ++ ":" ++ rest ∧ tokens = wordsOf rest

theorem bne_of_notMem {cs : List Char} {mark : Char} (h : mark ∉ cs) :
    ∀ c ∈ cs, (c != mark) = true := by
  intro c hc
  rw [bne_iff_ne]
  rintro rfl
  exact h hc

theorem splitLine_of_splitsInto {line keyword : String} {tokens : List String}
    (h : SplitsInto line keyword tokens) : splitLine line = .ok (keyword, tokens) := by
  obtain ⟨hkeyword, rest, rfl, rfl⟩ := h
  have hline : (keyword ++ ":" ++ rest).toList = keyword.toList ++ ':' :: rest.toList := by simp
  have htake : (keyword.toList ++ ':' :: rest.toList).takeWhile (· != ':') = keyword.toList :=
    takeWhile_run (bne_of_notMem hkeyword) (ends_cons.mpr (by decide))
  simp only [splitLine, hline, htake, List.drop_left, String.ofList_toList]
  rfl

theorem splitLine_of_notMem {line : String} (h : ':' ∉ line.toList) :
    splitLine line = .error (.missingSeparator line) := by
  have htake : line.toList.takeWhile (· != ':') = line.toList :=
    List.takeWhile_eq_self_iff.mpr (bne_of_notMem h)
  simp only [splitLine, htake, List.drop_length]

theorem exists_splitsInto {line : String} (h : ':' ∈ line.toList) :
    ∃ keyword tokens, SplitsInto line keyword tokens := by
  obtain ⟨before, after, hline, hbefore⟩ := List.eq_append_cons_of_mem h
  refine ⟨String.ofList before, _, by rwa [String.toList_ofList], String.ofList after, ?_, rfl⟩
  rw [← String.toList_inj, hline]
  simp

/-- There is one way to split a line. -/
theorem SplitsInto.unique {line keyword keyword' : String} {tokens tokens' : List String}
    (h : SplitsInto line keyword tokens) (h' : SplitsInto line keyword' tokens') :
    keyword = keyword' ∧ tokens = tokens' := by
  have heq := (splitLine_of_splitsInto h).symm.trans (splitLine_of_splitsInto h')
  exact Prod.mk.inj (Except.ok.inj heq)

theorem SplitsInto.mem {line keyword : String} {tokens : List String}
    (h : SplitsInto line keyword tokens) : ':' ∈ line.toList := by
  obtain ⟨-, rest, rfl, -⟩ := h
  simp

end LineCommands
