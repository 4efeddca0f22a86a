import Mathlib.Data.List.Nodup
import Mathlib.Data.List.Induction
import LineCommands.Fields

/-!
# What a history of writes leaves in fields

Fields are determined by their names, if no name stands twice, and by what is read under each.
`Fields.latest` says what a history of writes amounts to without replaying it: each name stands
once, where it was first written, with the value that was written last. `latest_concat` is the step
that ties this to `Fields.set`, and whatever writes one field after the other goes through it.
-/

namespace LineCommands

/-! ## First occurrences -/

theorem eraseDups_concat (xs : List String) (x : String) :
    (xs ++ [x]).eraseDups = if x ∈ xs then xs.eraseDups else xs.eraseDups ++ [x] := by
  rw [List.eraseDups_append]
  by_cases hx : x ∈ xs
  · rw [if_pos hx]
    simp [List.removeAll, hx]
  · rw [if_neg hx]
    simp [List.removeAll, hx, List.eraseDups_cons]

theorem nodup_eraseDups (xs : List String) : xs.eraseDups.Nodup := by
  induction xs using List.reverseRecOn with
  | nil => exact List.nodup_nil
  | append_singleton xs x ih =>
    rw [eraseDups_concat]
    by_cases hx : x ∈ xs
    · rwa [if_pos hx]
    · rw [if_neg hx, ← List.concat_eq_append]
      exact List.Nodup.concat (by rwa [List.mem_eraseDups]) ih

namespace Fields

variable {α : Type}

/-! ## Fields are what is read from them -/

theorem get?_eq_none_of_notMem {fs : Fields α} {name : String} (h : name ∉ fs.names) :
    fs.get? name = none := by
  rw [← Option.not_isSome_iff_eq_none, get?_isSome_iff]
  exact h

theorem mem_of_get? {fs : Fields α} {name : String} {value : α} (h : fs.get? name = some value) :
    (name, value) ∈ fs := by
  induction fs with
  | nil => cases h
  | cons p fs ih =>
    obtain ⟨k, v⟩ := p
    rw [get?] at h
    split at h
    · next hk =>
      obtain rfl := Option.some.inj h
      exact hk ▸ List.mem_cons_self
    · exact List.mem_cons_of_mem _ (ih h)

theorem get?_of_mem {fs : Fields α} (hnodup : fs.names.Nodup) {name : String} {value : α}
    (h : (name, value) ∈ fs) : fs.get? name = some value := by
  induction fs with
  | nil => cases h
  | cons p fs ih =>
    obtain ⟨k, v⟩ := p
    obtain ⟨hk, hnodup⟩ := List.nodup_cons.mp hnodup
    obtain heq | hmem := List.mem_cons.mp h
    · obtain ⟨rfl, rfl⟩ := Prod.mk.inj heq
      exact if_pos rfl
    · have hname : k ≠ name := by
        rintro rfl
        exact hk (List.mem_map.mpr ⟨_, hmem, rfl⟩)
      rw [get?, if_neg hname]
      exact ih hnodup hmem

/-- Fields with the same names in the same order, none of them twice, are the same if every name
reads the same. -/
theorem ext_of_names_of_get? {fs gs : Fields α} (hnodup : fs.names.Nodup)
    (hnames : fs.names = gs.names) (hget : ∀ name, get? name fs = get? name gs) : fs = gs := by
  induction fs generalizing gs with
  | nil =>
    cases gs with
    | nil => rfl
    | cons q gs => exact absurd hnames (by simp [names])
  | cons p fs ih =>
    cases gs with
    | nil => exact absurd hnames (by simp [names])
    | cons q gs =>
      obtain ⟨k, v⟩ := p
      obtain ⟨l, w⟩ := q
      simp only [names, List.map_cons, List.cons.injEq, List.nodup_cons] at hnames hnodup
      obtain ⟨rfl, hnames⟩ := hnames
      have hvalue : v = w := by simpa [get?] using hget k
      subst hvalue
      refine congrArg _ (ih hnodup.2 hnames fun name ↦ ?_)
      by_cases hk : k = name
      · subst hk
        rw [get?_eq_none_of_notMem hnodup.1, get?_eq_none_of_notMem]
        rw [names, ← hnames]
        exact hnodup.1
      · simpa [get?, hk] using hget name

/-! ## Some of the fields -/

theorem get?_append (fs gs : Fields α) (name : String) :
    get? name (fs ++ gs) = (get? name fs).or (get? name gs) := by
  induction fs with
  | nil => rw [List.nil_append, get?_nil, Option.none_or]
  | cons p fs ih =>
    obtain ⟨k, v⟩ := p
    rw [List.cons_append, get?, get?]
    by_cases hk : k = name
    · rw [if_pos hk, if_pos hk, Option.some_or]
    · rw [if_neg hk, if_neg hk, ih]

theorem set_of_notMem {fs : Fields α} {name : String} (h : name ∉ fs.names) (value : α) :
    fs.set name value = fs ++ [(name, value)] := by
  induction fs with
  | nil => rfl
  | cons p fs ih =>
    obtain ⟨k, v⟩ := p
    obtain ⟨hk, hfs⟩ := not_or.mp (List.mem_cons.not.mp h)
    rw [set, if_neg (Ne.symm hk), ih hfs, List.cons_append]

/-- The fields whose names are kept. -/
def keep (p : String → Bool) (fs : Fields α) : Fields α := fs.filter fun field ↦ p field.1

variable {p : String → Bool}

@[simp] theorem keep_nil : keep p ([] : Fields α) = [] := rfl

theorem keep_cons (k : String) (v : α) (fs : Fields α) :
    keep p ((k, v) :: fs) = if p k then (k, v) :: keep p fs else keep p fs := List.filter_cons

theorem keep_append (fs gs : Fields α) : keep p (fs ++ gs) = keep p fs ++ keep p gs :=
  List.filter_append ..

theorem keep_eq_self {fs : Fields α} (h : ∀ name ∈ fs.names, p name = true) : keep p fs = fs :=
  List.filter_eq_self.mpr fun _ hfield ↦ h _ (List.mem_map_of_mem hfield)

theorem keep_eq_nil {fs : Fields α} (h : ∀ name ∈ fs.names, p name = false) : keep p fs = [] :=
  List.filter_eq_nil_iff.mpr fun _ hfield ↦ Bool.not_eq_true _ ▸ h _ (List.mem_map_of_mem hfield)

theorem get?_keep {name : String} (h : p name = true) (fs : Fields α) :
    get? name (keep p fs) = get? name fs := by
  induction fs with
  | nil => rfl
  | cons field fs ih =>
    obtain ⟨k, v⟩ := field
    rw [keep_cons, get?]
    by_cases hk : k = name
    · rw [if_pos (hk ▸ h), if_pos hk, get?, if_pos hk]
    · rw [if_neg hk]
      split
      · rw [get?, if_neg hk, ih]
      · exact ih

theorem find?_keep {name : String} (h : p name = true) (fs : Fields α) :
    (keep p fs).find? (·.1 == name) = fs.find? (·.1 == name) := by
  rw [keep, List.find?_filter]
  refine congrArg (fun q ↦ fs.find? q) (funext fun field ↦ ?_)
  by_cases hname : field.1 = name
  · simp [hname, h]
  · simp [hname]

theorem keep_ne_eq_self {fs : Fields α} {name : String} (h : name ∉ fs.names) :
    fs.keep (· != name) = fs :=
  keep_eq_self fun _ hother ↦ bne_iff_ne.mpr fun heq ↦ h (heq ▸ hother)

/-- What stands under a name divides the other fields into those before it and those after it. -/
theorem exists_append_of_mem_names {fs : Fields α} (hnodup : fs.names.Nodup) {name : String}
    (h : name ∈ fs.names) : ∃ before value after, fs = before ++ (name, value) :: after ∧
      name ∉ names before ∧ fs.keep (· != name) = before ++ after := by
  obtain ⟨⟨name, value⟩, hfield, rfl⟩ := List.mem_map.mp h
  obtain ⟨before, after, rfl⟩ := List.append_of_mem hfield
  rw [names, List.map_append, List.map_cons, List.nodup_append, List.nodup_cons] at hnodup
  obtain ⟨-, ⟨hafter, -⟩, hapart⟩ := hnodup
  have hbefore : name ∉ names before :=
    fun hmem ↦ hapart name hmem name List.mem_cons_self rfl
  refine ⟨before, value, after, rfl, hbefore, ?_⟩
  rw [keep_append, keep_cons, if_neg (by simp), keep_ne_eq_self hbefore, keep_ne_eq_self hafter]

theorem idxOf_names_append {before : Fields α} {name : String} (h : name ∉ before.names) (value : α)
    (after : Fields α) :
    (names (before ++ (name, value) :: after)).idxOf name = before.length := by
  have hbefore : name ∉ List.map (·.1) before := h
  rw [names, List.map_append, List.idxOf_append_of_notMem hbefore, List.map_cons,
    List.idxOf_cons_self, List.length_map, Nat.add_zero]

/-- A write under a name that is not kept leaves no trace. -/
theorem keep_set (fs : Fields α) (name : String) (value : α) :
    keep p (fs.set name value) = if p name then (keep p fs).set name value else keep p fs := by
  induction fs with
  | nil => rw [set, keep_cons, keep_nil]; rfl
  | cons field fs ih =>
    obtain ⟨k, v⟩ := field
    rw [set]
    by_cases hk : k = name
    · subst hk
      rw [if_pos rfl, keep_cons, keep_cons]
      by_cases hp : p k = true
      · rw [if_pos hp, if_pos hp, if_pos hp, set, if_pos rfl]
      · rw [if_neg hp, if_neg hp, if_neg hp]
    · rw [if_neg hk, keep_cons, keep_cons, ih]
      by_cases hp : p name = true
      · rw [if_pos hp, if_pos hp]
        split
        · rw [set, if_neg hk]
        · rfl
      · rw [if_neg hp, if_neg hp]

theorem keep_ofPairs (pairs : List (String × α)) :
    keep p (ofPairs pairs) = ofPairs (keep p pairs) := by
  suffices hinit : ∀ fs : Fields α, keep p (pairs.foldl (fun fs q ↦ fs.set q.1 q.2) fs)
      = (keep p pairs).foldl (fun fs q ↦ fs.set q.1 q.2) (keep p fs) from hinit []
  induction pairs with
  | nil => intro fs; rfl
  | cons field pairs ih =>
    intro fs
    obtain ⟨k, v⟩ := field
    rw [List.foldl_cons, ih, keep_set, keep_cons]
    split
    · rw [List.foldl_cons]
    · rfl

/-! ## Histories -/

/-- Each written name once, where it was first written, with the value that was written last. -/
def latest (pairs : List (String × α)) : Fields α :=
  (pairs.map (·.1)).eraseDups.filterMap fun name ↦ pairs.reverse.find? (·.1 == name)

theorem exists_find?_reverse {pairs : List (String × α)} {name : String}
    (h : name ∈ pairs.map (·.1)) : ∃ v, pairs.reverse.find? (·.1 == name) = some (name, v) := by
  obtain ⟨p, hp, rfl⟩ := List.mem_map.mp h
  have hsome : (pairs.reverse.find? (·.1 == p.1)).isSome := by
    rw [List.find?_isSome]
    exact ⟨p, List.mem_reverse.mpr hp, beq_self_eq_true _⟩
  obtain ⟨⟨k, v⟩, hq⟩ := Option.isSome_iff_exists.mp hsome
  have hk : k = p.1 := by simpa using List.find?_some hq
  exact ⟨v, by rw [hq, hk]⟩

/-- The names are the written ones, in the order of their first writes. -/
theorem names_latest (pairs : List (String × α)) :
    (latest pairs).names = (pairs.map (·.1)).eraseDups := by
  rw [latest, names, List.map_filterMap]
  have hname : ∀ name ∈ (pairs.map (·.1)).eraseDups,
      (pairs.reverse.find? (·.1 == name)).map (·.1) = some name := by
    intro name hmem
    obtain ⟨v, hv⟩ := exists_find?_reverse (List.mem_eraseDups.mp hmem)
    rw [hv]
    rfl
  rw [List.filterMap_congr hname, List.filterMap_some]

/-- Every name reads the value that was written last. -/
theorem get?_latest (pairs : List (String × α)) (name : String) :
    get? name (latest pairs) = (pairs.reverse.find? (·.1 == name)).map (·.2) := by
  -- Said of any names that were written, so that the induction can leave the first one out.
  have hread : ∀ ns : List String, (∀ n ∈ ns, n ∈ pairs.map (·.1)) →
      get? name (ns.filterMap fun n ↦ pairs.reverse.find? (·.1 == n))
        = if name ∈ ns then (pairs.reverse.find? (·.1 == name)).map (·.2) else none := by
    intro ns
    induction ns with
    | nil => intro _; rfl
    | cons n ns ih =>
      intro hns
      obtain ⟨v, hv⟩ := exists_find?_reverse (hns n List.mem_cons_self)
      rw [List.filterMap_cons, hv]
      simp only [get?]
      by_cases hn : n = name
      · subst hn
        rw [if_pos rfl, if_pos List.mem_cons_self, hv]
        rfl
      · rw [if_neg hn, ih fun m hm ↦ hns m (List.mem_cons_of_mem n hm)]
        simp [Ne.symm hn]
  rw [latest, hread _ fun n hn ↦ List.mem_eraseDups.mp hn]
  by_cases hname : name ∈ pairs.map (·.1)
  · rw [if_pos (List.mem_eraseDups.mpr hname)]
  · rw [if_neg (by rwa [List.mem_eraseDups]), eq_comm, Option.map_eq_none_iff, List.find?_eq_none]
    intro p hp hpname
    exact hname (List.mem_map.mpr ⟨p, List.mem_reverse.mp hp, by simpa using hpname⟩)

theorem nodup_names_latest (pairs : List (String × α)) : (latest pairs).names.Nodup := by
  rw [names_latest]
  exact nodup_eraseDups _

theorem latest_concat (pairs : List (String × α)) (name : String) (value : α) :
    latest (pairs ++ [(name, value)]) = (latest pairs).set name value := by
  refine ext_of_names_of_get? (nodup_names_latest _) ?_ fun other ↦ ?_
  · rw [names_set, names_latest, names_latest, List.map_append, List.map_singleton,
      eraseDups_concat]
    simp only [List.mem_eraseDups]
  · rw [get?_set, get?_latest, get?_latest, List.reverse_append, List.reverse_singleton,
      List.singleton_append, List.find?_cons]
    by_cases hname : name = other
    · simp [hname]
    · simp only [beq_eq_false_iff_ne.mpr hname, if_neg hname]

theorem ofPairs_eq_latest (pairs : List (String × α)) : ofPairs pairs = latest pairs := by
  induction pairs using List.reverseRecOn with
  | nil => rfl
  | append_singleton pairs p ih =>
    rw [latest_concat, ← ih, ofPairs, List.foldl_append]
    rfl

theorem names_ofPairs (pairs : List (String × α)) :
    (ofPairs pairs).names = (pairs.map (·.1)).eraseDups := by
  rw [ofPairs_eq_latest, names_latest]

theorem nodup_names_ofPairs (pairs : List (String × α)) : (ofPairs pairs).names.Nodup := by
  rw [names_ofPairs]
  exact nodup_eraseDups _

/-! ## Histories of records

What is written are often parts of records. What is left of the writes is then said of the records.
-/

section Records

variable {β : Type} (f : β → String × α) (xs : List β)

theorem find?_reverse_map (name : String) :
    (xs.map f).reverse.find? (·.1 == name) = (xs.reverse.find? fun x ↦ (f x).1 == name).map f := by
  rw [← List.map_reverse, List.find?_map]
  rfl

theorem names_latest_map : (latest (xs.map f)).names = (xs.map fun x ↦ (f x).1).eraseDups := by
  rw [names_latest, List.map_map]
  rfl

theorem get?_latest_map (name : String) :
    get? name (latest (xs.map f))
      = (xs.reverse.find? fun x ↦ (f x).1 == name).map fun x ↦ (f x).2 := by
  rw [get?_latest, find?_reverse_map, Option.map_map]
  rfl

theorem values_latest_map :
    (latest (xs.map f)).values = (xs.map fun x ↦ (f x).1).eraseDups.filterMap fun name ↦
      (xs.reverse.find? fun x ↦ (f x).1 == name).map fun x ↦ (f x).2 := by
  rw [latest, values, List.map_filterMap, List.map_map]
  refine List.filterMap_congr fun name _ ↦ ?_
  rw [find?_reverse_map, Option.map_map]
  rfl

end Records

end Fields

end LineCommands
