import Mathlib.Data.List.Induction
import LineCommands.Proofs.Config.Merging

/-!
# Tables in layers

Several tables, the strongest first, are merged into one by laying what there is over the next
weaker table again and again. What stands under a name is decided by the strongest table that has
the name (`get?_layered`): if it has a leaf there, this is the leaf, and if it has a table there,
the tables that stand under this name are merged in turn, and leaves of weaker tables in the way
count for nothing.

This needs that no name stands twice in a table or in the tables in it (`NamesOnce`).
-/

namespace LineCommands

/-! ## Tables in tables -/

/-- The fields of a record; no other value has any. -/
def Value.fields : Value → Fields Value
  | .record fields => fields
  | _ => []

/-- The value is a record. -/
def Value.IsTable (v : Value) : Prop := ∃ fields, v = .record fields

theorem Value.not_isTable_text (s : String) : ¬(Value.text s).IsTable := by
  rintro ⟨fields, ⟨⟩⟩

namespace Fields

/-- The fields of what may stand somewhere; where nothing stands there are none. -/
def contents (v : Option Value) : Fields Value := (v.map Value.fields).getD []

/-- The table under a name, without fields if there is none. -/
def under (name : String) (t : Fields Value) : Fields Value := contents (t.get? name)

/-- The table at the end of a path. -/
def along (path : List String) (t : Fields Value) : Fields Value :=
  path.foldl (fun t name ↦ t.under name) t

/-- What stands under the name is a table, if anything. -/
def TableAt (name : String) (t : Fields Value) : Prop := ∀ v, t.get? name = some v → v.IsTable

/-- No name stands twice in the table nor in the tables in it. -/
def NamesOnce (t : Fields Value) : Prop := ∀ path, (t.along path).names.Nodup

variable {t : Fields Value} {name : String} {v : Value}

theorem under_of_get? (h : t.get? name = some v) : t.under name = v.fields := by
  rw [under, h]
  rfl

theorem under_of_get?_eq_none (h : t.get? name = none) : t.under name = [] := by
  rw [under, h]
  rfl

theorem namesOnce_nil : NamesOnce [] := by
  intro path
  induction path with
  | nil => exact List.nodup_nil
  | cons name path ih => exact ih

theorem NamesOnce.nodup (h : NamesOnce t) : t.names.Nodup := h []

theorem NamesOnce.under (h : NamesOnce t) (name : String) : NamesOnce (t.under name) :=
  fun path ↦ h (name :: path)

theorem NamesOnce.along (h : NamesOnce t) (path : List String) : NamesOnce (t.along path) := by
  intro more
  have hboth := h (path ++ more)
  rwa [Fields.along, List.foldl_append] at hboth

theorem NamesOnce.fields (h : NamesOnce t) (hget : t.get? name = some v) : NamesOnce v.fields := by
  rw [← under_of_get? hget]
  exact h.under name

theorem namesOnce_of (hnodup : t.names.Nodup)
    (hfields : ∀ name v, t.get? name = some v → NamesOnce v.fields) : NamesOnce t := by
  intro path
  cases path with
  | nil => exact hnodup
  | cons name path =>
    show ((t.under name).along path).names.Nodup
    cases hget : t.get? name with
    | none =>
      rw [under_of_get?_eq_none hget]
      exact namesOnce_nil path
    | some v =>
      rw [under_of_get? hget]
      exact hfields name v hget path

theorem NamesOnce.set (h : NamesOnce t) (hv : NamesOnce v.fields) (name : String) :
    NamesOnce (t.set name v) := by
  refine namesOnce_of (nodup_names_set h.nodup name v) fun other w hw ↦ ?_
  rw [get?_set] at hw
  split at hw
  · rwa [← Option.some.inj hw]
  · exact h.fields hw

theorem NamesOnce.set_record (h : NamesOnce t) {fields : Fields Value} (hfields : NamesOnce fields)
    (name : String) : NamesOnce (t.set name (.record fields)) :=
  NamesOnce.set (v := .record fields) h hfields name

theorem NamesOnce.set_list (h : NamesOnce t) (items : List Value) (name : String) :
    NamesOnce (t.set name (.list items)) :=
  NamesOnce.set (v := .list items) h namesOnce_nil name

theorem NamesOnce.keep (h : NamesOnce t) {p : String → Bool} : NamesOnce (t.keep p) := by
  refine namesOnce_of (h.nodup.sublist (List.filter_sublist.map _)) fun name v hget ↦ ?_
  exact h.fields (get?_of_mem h.nodup (List.mem_filter.mp (mem_of_get? hget)).1)

theorem namesOnce_ofPairs {pairs : List (String × Value)}
    (h : ∀ p ∈ pairs, NamesOnce p.2.fields) : NamesOnce (ofPairs pairs) := by
  rw [ofPairs]
  have hfrom : ∀ t : Fields Value, NamesOnce t →
      NamesOnce (pairs.foldl (fun fs p ↦ fs.set p.1 p.2) t) := by
    induction pairs with
    | nil => exact fun t ht ↦ ht
    | cons p pairs ih =>
      obtain ⟨hp, hpairs⟩ := List.forall_mem_cons.mp h
      exact fun t ht ↦ ih hpairs _ (ht.set hp p.1)
  exact hfrom [] namesOnce_nil

end Fields

open Fields

/-! ## One table over another -/

variable {weak fields : Fields Value} {name : String} {v : Value}

theorem mergeValue_of_not_isTable (h : ¬v.IsTable) (weak : Option Value) :
    mergeValue weak v = v := by
  cases v with
  | record fields => exact absurd ⟨fields, rfl⟩ h
  | _ => rw [mergeValue]; simp

theorem mergeFields_of_nodup {acc : Fields Value} (h : (acc ++ fields).names.Nodup) :
    mergeFields acc fields = acc ++ fields := by
  induction fields generalizing acc with
  | nil => rw [mergeFields_nil, List.append_nil]
  | cons p fields ih =>
    obtain ⟨name, v⟩ := p
    have hconcat : acc ++ (name, v) :: fields = (acc ++ [(name, v)]) ++ fields := by
      rw [List.append_assoc, List.singleton_append]
    have hnew : name ∉ acc.names := by
      intro hmem
      rw [names, List.map_append, List.nodup_append] at h
      exact h.2.2 name hmem name List.mem_cons_self rfl
    have hvalue : mergeValue none v = v := by cases v <;> simp [mergeValue]
    rw [mergeFields_cons, get?_eq_none_of_notMem hnew, hvalue, set_of_notMem hnew, hconcat]
    rw [hconcat] at h
    exact ih h

theorem mergeValue_record (h : fields.names.Nodup) (weak : Option Value) :
    mergeValue weak (.record fields)
      = .record (mergeFields (contents weak) fields) := by
  have hover : mergeFields [] fields = fields := mergeFields_of_nodup h
  cases weak with
  | none => simp [mergeValue, contents, hover]
  | some w =>
    cases w with
    | record below => simp [mergeValue, contents, Value.fields]
    | _ => simp [mergeValue, contents, Value.fields, hover]

theorem NamesOnce.mergeFields (hweak : NamesOnce weak) (h : NamesOnce fields) :
    NamesOnce (mergeFields weak fields) := by
  intro path
  induction path generalizing weak fields with
  | nil => exact nodup_names_mergeFields hweak.nodup fields
  | cons name path ih =>
    show (((LineCommands.mergeFields weak fields).under name).along path).names.Nodup
    have hget := get?_mergeFields h.nodup weak name
    cases hname : fields.get? name with
    | none =>
      rw [hname] at hget
      rw [under, hget]
      exact hweak.under name path
    | some v =>
      rw [hname] at hget
      rw [under_of_get? hget]
      by_cases hv : v.IsTable
      · obtain ⟨inner, rfl⟩ := hv
        have hinner : NamesOnce inner := h.fields hname
        rw [mergeValue_record hinner.nodup]
        exact ih (hweak.under name) hinner
      · rw [mergeValue_of_not_isTable hv]
        exact h.fields hname path

/-! ## Layers -/

/-- The tables merged into one, the strongest first. -/
def layered (layers : List (Fields Value)) : Fields Value :=
  layers.foldl (fun stronger weaker ↦ mergeFields weaker stronger) []

variable {layers : List (Fields Value)}

theorem namesOnce_along (h : ∀ t ∈ layers, NamesOnce t) (path : List String) :
    ∀ t ∈ layers.map (along path), NamesOnce t := by
  intro t ht
  obtain ⟨t, hmem, rfl⟩ := List.mem_map.mp ht
  exact (h t hmem).along path

theorem layered_concat (layers : List (Fields Value)) (weaker : Fields Value) :
    layered (layers ++ [weaker]) = mergeFields weaker (layered layers) := by
  rw [layered, List.foldl_append]
  rfl

theorem namesOnce_layered (h : ∀ t ∈ layers, NamesOnce t) : NamesOnce (layered layers) := by
  induction layers using List.reverseRecOn with
  | nil => exact namesOnce_nil
  | append_singleton layers weaker ih =>
    rw [List.forall_mem_append, List.forall_mem_singleton] at h
    rw [layered_concat]
    exact NamesOnce.mergeFields h.2 (ih h.1)

theorem mem_names_layered : name ∈ (layered layers).names ↔ ∃ t ∈ layers, name ∈ t.names := by
  induction layers using List.reverseRecOn with
  | nil => simp [layered, names]
  | append_singleton layers weaker ih =>
    rw [layered_concat, mem_names_mergeFields, ih]
    simp [or_comm]

theorem layered_eq_nil (h : ∀ t ∈ layers, t = []) : layered layers = [] := by
  rw [← List.map_eq_nil_iff (f := (·.1)), List.eq_nil_iff_forall_not_mem]
  intro name hname
  obtain ⟨t, ht, hname⟩ := mem_names_layered.mp hname
  rw [h t ht] at hname
  cases hname

/-- What the strongest table that has the name has under it. -/
def strongest (name : String) (layers : List (Fields Value)) : Option Value :=
  layers.findSome? (get? name)

theorem strongest_concat (name : String) (layers : List (Fields Value)) (weaker : Fields Value) :
    strongest name (layers ++ [weaker]) = (strongest name layers).or (weaker.get? name) := by
  rw [strongest, List.findSome?_append, List.findSome?_singleton]
  rfl

theorem strongest_eq_none_iff : strongest name layers = none ↔ ∀ t ∈ layers, t.get? name = none :=
  List.findSome?_eq_none_iff

/-- The value with other fields, if it has any. -/
def Value.withFields (fields : Fields Value) : Value → Value
  | .record _ => .record fields
  | v => v

theorem Value.withFields_of_not_isTable {v : Value} (h : ¬v.IsTable) (fields : Fields Value) :
    v.withFields fields = v := by
  cases v with
  | record fields => exact absurd ⟨fields, rfl⟩ h
  | _ => rfl

/-- **Layers.** Under a name the strongest table that has it decides: what is there has the fields
of all tables there, if it can have any. -/
theorem get?_layered (h : ∀ t ∈ layers, NamesOnce t) (name : String) :
    (layered layers).get? name
      = (strongest name layers).map (Value.withFields (layered (layers.map (under name)))) := by
  induction layers using List.reverseRecOn with
  | nil => rfl
  | append_singleton layers weaker ih =>
    rw [List.forall_mem_append, List.forall_mem_singleton] at h
    have hunder : ∀ t ∈ layers.map (under name), NamesOnce t := namesOnce_along h.1 [name]
    rw [layered_concat, get?_mergeFields (namesOnce_layered h.1).nodup, ih h.1, strongest_concat,
      List.map_append, List.map_singleton, layered_concat]
    cases hfirst : strongest name layers with
    | none =>
      have hnothing : layered (layers.map (under name)) = [] := by
        refine layered_eq_nil fun t ht ↦ ?_
        obtain ⟨t, hmem, rfl⟩ := List.mem_map.mp ht
        exact under_of_get?_eq_none (strongest_eq_none_iff.mp hfirst t hmem)
      rw [hnothing, mergeFields_nil, Option.none_or]
      cases hget : weaker.get? name with
      | none => rfl
      | some v =>
        rw [under_of_get? hget]
        cases v <;> rfl
    | some v =>
      by_cases hv : v.IsTable
      · obtain ⟨fields, rfl⟩ := hv
        exact congrArg some (mergeValue_record (namesOnce_layered hunder).nodup _)
      · simp only [Option.map_some, Option.some_or, Value.withFields_of_not_isTable hv,
          mergeValue_of_not_isTable hv]

/-- The table under a name has the layers under the name, if no leaf stands in the way. -/
theorem under_layered (h : ∀ t ∈ layers, NamesOnce t)
    (htable : ∀ v, strongest name layers = some v → v.IsTable) :
    (layered layers).under name = layered (layers.map (under name)) := by
  have hget := get?_layered h name
  cases hfirst : strongest name layers with
  | none =>
    rw [hfirst] at hget
    rw [under_of_get?_eq_none hget, layered_eq_nil]
    intro t ht
    obtain ⟨t, hmem, rfl⟩ := List.mem_map.mp ht
    exact under_of_get?_eq_none (strongest_eq_none_iff.mp hfirst t hmem)
  | some v =>
    obtain ⟨fields, rfl⟩ := htable v hfirst
    rw [hfirst] at hget
    rw [under_of_get? hget]
    rfl

end LineCommands
