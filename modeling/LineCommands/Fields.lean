/-!
# Fields

Named values in the order in which their names first appeared: the bindings of a run, the detail of
an error, a table of settings, the commands of a registry. Writing under a name that is already
present replaces the value and keeps the position, so the last write is the one that is read and the
first write is the one that decides the order.
-/

namespace LineCommands

/-- Named values, in order of first appearance. -/
abbrev Fields (α : Type) := List (String × α)

namespace Fields

variable {α : Type}

/-- The value under a name. -/
def get? (name : String) : Fields α → Option α
  | [] => none
  | (k, v) :: rest => if k = name then some v else get? name rest

/-- Writes a value under a name. -/
def set (name : String) (value : α) : Fields α → Fields α
  | [] => [(name, value)]
  | (k, v) :: rest => if k = name then (k, value) :: rest else (k, v) :: set name value rest

/-- The names, in order. -/
def names (fs : Fields α) : List String := fs.map (·.1)

/-- The values, in the order of their names. -/
def values (fs : Fields α) : List α := fs.map (·.2)

/-- Writes pairs one after the other into empty fields. -/
def ofPairs (pairs : List (String × α)) : Fields α := pairs.foldl (fun fs p ↦ fs.set p.1 p.2) []

/-! ## Reading after writing -/

@[simp] theorem get?_nil (name : String) : get? name ([] : Fields α) = none := rfl

theorem get?_set (fs : Fields α) (name other : String) (value : α) :
    (fs.set name value).get? other = if name = other then some value else fs.get? other := by
  induction fs with
  | nil => simp [set, get?]
  | cons p rest ih =>
    obtain ⟨k, v⟩ := p
    by_cases hk : k = name
    · subst hk; by_cases ho : k = other <;> simp [set, get?, ho]
    · by_cases ho : k = other
      · subst ho; simp [set, get?, hk, Ne.symm hk]
      · simp [set, get?, hk, ho, ih]

theorem names_set (fs : Fields α) (name : String) (value : α) :
    (fs.set name value).names = if name ∈ fs.names then fs.names else fs.names ++ [name] := by
  induction fs with
  | nil => simp [set, names]
  | cons p rest ih =>
    obtain ⟨k, v⟩ := p
    by_cases hk : k = name
    · simp [set, names, hk]
    · simp only [names] at ih
      by_cases hm : name ∈ rest.map (·.1) <;> simp [set, names, hk, Ne.symm hk, ih, hm]

theorem get?_isSome_iff (fs : Fields α) (name : String) :
    (fs.get? name).isSome = true ↔ name ∈ fs.names := by
  induction fs with
  | nil => simp [names]
  | cons p rest ih =>
    obtain ⟨k, v⟩ := p
    simp only [names] at ih
    by_cases hk : k = name
    · simp [get?, names, hk]
    · simp [get?, names, hk, Ne.symm hk, ih]

theorem nodup_names_set {fs : Fields α} (h : fs.names.Nodup) (name : String) (value : α) :
    (fs.set name value).names.Nodup := by
  rw [names_set]
  split
  · exact h
  · next hm =>
    rw [List.nodup_append]
    refine ⟨h, by simp, fun a ha b hb ↦ ?_⟩
    rw [List.mem_singleton] at hb
    subst hb
    exact fun e ↦ hm (e ▸ ha)

end Fields

end LineCommands
