import Mathlib.Data.List.TakeWhile
import LineCommands.Text.Blank

/-!
# Maximal runs of characters

The scanners of the library take the longest run of characters of a class from the front of a text.
Seen from the other side, a text *written* as a run followed by something that does not go on with
the class is cut exactly there. `Ends` names that condition on what follows; with it the scanners
need no unfolding of `takeWhile` and `dropWhile`.
-/

namespace LineCommands.Text

variable {p : Char → Bool}

/-- The text does not begin with a character of the class. -/
def Ends (p : Char → Bool) (rest : List Char) : Prop := ∀ c ∈ rest.head?, p c = false

@[simp] theorem ends_nil : Ends p [] := by
  intro c hc
  cases hc

@[simp] theorem ends_cons {c : Char} {cs : List Char} : Ends p (c :: cs) ↔ p c = false := by
  simp [Ends]

theorem ends_dropWhile (p : Char → Bool) (cs : List Char) : Ends p (cs.dropWhile p) := by
  intro c hc
  have h := List.head?_dropWhile_not p cs
  rw [Option.mem_def.mp hc] at h
  simpa using h

/-- A nonempty run decides what its text begins with. -/
theorem ends_append {q : Char → Bool} {run rest : List Char} (hne : run ≠ [])
    (hrun : ∀ c ∈ run, q c = false) : Ends q (run ++ rest) := by
  cases run with
  | nil => exact absurd rfl hne
  | cons c run => exact ends_cons.mpr (hrun c List.mem_cons_self)

theorem takeWhile_run {run rest : List Char} (hrun : ∀ c ∈ run, p c = true) (hrest : Ends p rest) :
    (run ++ rest).takeWhile p = run := by
  rw [List.takeWhile_append_of_pos hrun]
  cases rest with
  | nil => rw [List.takeWhile_nil, List.append_nil]
  | cons c rest =>
    rw [List.takeWhile_cons_of_neg (by simpa using hrest), List.append_nil]

theorem dropWhile_run {run rest : List Char} (hrun : ∀ c ∈ run, p c = true) (hrest : Ends p rest) :
    (run ++ rest).dropWhile p = rest := by
  rw [List.dropWhile_append_of_pos hrun]
  cases rest with
  | nil => rfl
  | cons c rest => rw [List.dropWhile_cons_of_neg (by simpa using hrest)]

theorem drop_length_takeWhile (p : Char → Bool) (cs : List Char) :
    cs.drop (cs.takeWhile p).length = cs.dropWhile p := by
  have h : (cs.takeWhile p ++ cs.dropWhile p).drop (cs.takeWhile p).length = cs.dropWhile p :=
    List.drop_left
  rwa [List.takeWhile_append_dropWhile] at h

end LineCommands.Text
