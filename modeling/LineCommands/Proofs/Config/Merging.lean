import LineCommands.Config.Merge
import LineCommands.Proofs.Fields

/-!
# What stands in merged tables

Under a name that the stronger table has, a merged table has the stronger value laid over the weaker
one; under any other it has what the weaker has. Its names are those of the two.
-/

namespace LineCommands

variable {weak weak' fields fields' : Fields Value}

@[simp] theorem mergeFields_nil (weak : Fields Value) : mergeFields weak [] = weak := by
  rw [mergeFields]

theorem mergeFields_cons (weak : Fields Value) (name : String) (v : Value)
    (rest : List (String × Value)) :
    mergeFields weak ((name, v) :: rest)
      = mergeFields (weak.set name (mergeValue (weak.get? name) v)) rest := by
  rw [mergeFields]

theorem get?_mergeFields (hnodup : fields.names.Nodup) (weak : Fields Value) (name : String) :
    (mergeFields weak fields).get? name
      = match fields.get? name with
        | some v => some (mergeValue (weak.get? name) v)
        | none => weak.get? name := by
  induction fields generalizing weak with
  | nil => rw [mergeFields_nil, Fields.get?_nil]
  | cons p fields ih =>
    obtain ⟨other, v⟩ := p
    obtain ⟨hother, hnodup⟩ := List.nodup_cons.mp hnodup
    rw [mergeFields_cons, ih hnodup, Fields.get?_set, Fields.get?]
    by_cases hname : other = name
    · subst hname
      rw [Fields.get?_eq_none_of_notMem hother, if_pos rfl, if_pos rfl]
    · rw [if_neg hname, if_neg hname]

theorem mem_names_mergeFields {name : String} :
    name ∈ (mergeFields weak fields).names ↔ name ∈ weak.names ∨ name ∈ fields.names := by
  induction fields generalizing weak with
  | nil => rw [mergeFields_nil]; exact (or_iff_left List.not_mem_nil).symm
  | cons p fields ih =>
    obtain ⟨other, v⟩ := p
    have hset : name ∈ (weak.set other (mergeValue (weak.get? other) v)).names
        ↔ name ∈ weak.names ∨ name = other := by
      rw [Fields.names_set]
      split
      · next hmem => exact (or_iff_left_of_imp fun heq ↦ heq ▸ hmem).symm
      · rw [List.mem_append, List.mem_singleton]
    rw [mergeFields_cons, ih, hset, or_assoc]
    exact or_congr_right List.mem_cons.symm

/-- Of the names in question none is new if none stands in the stronger table. -/
theorem filter_names_mergeFields {p : String → Bool} (h : ∀ name ∈ fields.names, p name = false)
    (weak : Fields Value) : (mergeFields weak fields).names.filter p = weak.names.filter p := by
  induction fields generalizing weak with
  | nil => rw [mergeFields_nil]
  | cons q fields ih =>
    obtain ⟨name, v⟩ := q
    obtain ⟨hname, hfields⟩ := List.forall_mem_cons.mp h
    rw [mergeFields_cons, ih hfields, Fields.names_set]
    split
    · rfl
    · rw [List.filter_append, List.filter_cons_of_neg (Bool.not_eq_true _ ▸ hname), List.filter_nil,
        List.append_nil]

theorem nodup_names_mergeFields (h : weak.names.Nodup) (fields : Fields Value) :
    (mergeFields weak fields).names.Nodup := by
  induction fields generalizing weak with
  | nil => rwa [mergeFields_nil]
  | cons p fields ih =>
    rw [mergeFields_cons]
    exact ih (Fields.nodup_names_set h _ _)

end LineCommands
