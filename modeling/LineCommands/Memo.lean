/-!
# Memos

A memo remembers the results of a function on texts, up to a fixed number of them. The entries are
kept with the one used last in front; when there are too many, the one that has not been used for
the longest time is forgotten.
-/

namespace LineCommands

/-- Remembered results by text, the one used last in front. -/
structure Memo (α : Type) where
  entries : List (String × α)

namespace Memo

variable {α : Type}

/-- The number of results that a memo holds. -/
def capacity : Nat := 256

/-- The memo that remembers nothing. -/
def empty : Memo α := ⟨[]⟩

instance : Inhabited (Memo α) := ⟨empty⟩

/-- The result remembered for a text. -/
def find? (m : Memo α) (key : String) : Option α :=
  (m.entries.find? (·.1 == key)).map (·.2)

/-- Puts a result in front, forgetting the oldest if there are too many. -/
def remember (m : Memo α) (key : String) (value : α) : Memo α :=
  ⟨((key, value) :: m.entries.filter (·.1 != key)).take capacity⟩

/-- Every remembered result is the one that `f` has. -/
def Sound {ε : Type} (f : String → Except ε α) (m : Memo α) : Prop :=
  ∀ p ∈ m.entries, f p.1 = .ok p.2

theorem sound_empty {ε : Type} (f : String → Except ε α) : Sound f (empty : Memo α) := by
  simp [Sound, empty]

theorem Sound.remember {ε : Type} {f : String → Except ε α} {m : Memo α} (hm : Sound f m)
    {key : String} {value : α} (h : f key = .ok value) : Sound f (m.remember key value) := by
  intro p hp
  rcases List.mem_cons.1 (List.mem_of_mem_take hp) with rfl | hp
  · exact h
  · exact hm p (List.mem_filter.1 hp).1

theorem Sound.find? {ε : Type} {f : String → Except ε α} {m : Memo α} (hm : Sound f m)
    {key : String} {value : α} (h : m.find? key = some value) : f key = .ok value := by
  obtain ⟨p, hp, rfl⟩ := Option.map_eq_some_iff.1 h
  have hk : p.1 = key := by simpa using List.find?_some hp
  exact hk ▸ hm p (List.mem_of_find?_eq_some hp)

end Memo

end LineCommands
