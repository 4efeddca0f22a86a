import LineCommands.Config.Environment
import LineCommands.Proofs.Config.Layers

/-!
# Tables that differ in one leaf

One table *adds a text* to another at the end of a path if both read the same under all names apart
from those on the path, and where they differ on the path the first has tables on the way and a text
at its end (`AddsText`). Planting the same value into both keeps this up, whatever the path of that
value is, and so does laying both over the same table.
-/

namespace LineCommands

open Fields Environment

/-- The second has the same as the first, or a text at the end of the path and tables on the way to
it. What these tables replace are tables if this is asked for. -/
def AddsText (strict : Prop) : List String → Option Value → Option Value → Prop
  | [], v, v' => v' = v ∨ ∃ text, v' = some (.text text)
  | name :: path, v, v' => v' = v ∨ ∃ fields : Fields Value, v' = some (.record fields) ∧
    (strict → ∀ w, v = some w → w.IsTable) ∧
    (∀ other, other ≠ name → fields.get? other = (contents v).get? other) ∧
    AddsText strict path ((contents v).get? name) (fields.get? name)

variable {strict : Prop} {path : List String} {v v' : Option Value}

theorem AddsText.refl (strict : Prop) (path : List String) (v : Option Value) :
    AddsText strict path v v := by
  cases path with
  | nil => exact Or.inl rfl
  | cons name path => exact Or.inl rfl

section

variable {name : String}

theorem AddsText.beside (h : AddsText strict (name :: path) v v') {other : String}
    (hother : other ≠ name) : (contents v').get? other = (contents v).get? other := by
  obtain rfl | ⟨fields, rfl, -, hbeside, -⟩ := h
  · rfl
  · exact hbeside other hother

theorem AddsText.below (h : AddsText strict (name :: path) v v') :
    AddsText strict path ((contents v).get? name) ((contents v').get? name) := by
  obtain rfl | ⟨fields, rfl, -, -, hrest⟩ := h
  · exact AddsText.refl _ _ _
  · exact hrest

theorem AddsText.isTable (h : AddsText strict (name :: path) v v') :
    v' = v ∨ ∃ w, v' = some w ∧ w.IsTable := by
  obtain rfl | ⟨fields, rfl, -⟩ := h
  · exact Or.inl rfl
  · exact Or.inr ⟨_, rfl, fields, rfl⟩

end

/-! ## Planting -/

/-- What stands somewhere after a value was planted there or below it. -/
def planted (v : Value) : List String → Option Value → Value
  | [], _ => v
  | path, none => .record (plant v path [])
  | path, some (.record fields) => .record (plant v path fields)
  | _, some w => w

theorem planted_of_isTable {w : Value} (name : String) (rest : List String)
    (h : ∀ u, v = some u → u.IsTable) :
    planted w (name :: rest) v = .record (plant w (name :: rest) (contents v)) := by
  cases v with
  | none => rfl
  | some u =>
    obtain ⟨fields, rfl⟩ := h u rfl
    rfl

theorem planted_of_not_isTable {w u : Value} (h : ¬u.IsTable) (name : String)
    (rest : List String) : planted w (name :: rest) (some u) = u := by
  cases u with
  | record fields => exact absurd ⟨fields, rfl⟩ h
  | _ => rfl

theorem set_of_get? {t : Fields Value} {name : String} {w : Value} (h : t.get? name = some w) :
    t.set name w = t := by
  induction t with
  | nil => cases h
  | cons p t ih =>
    obtain ⟨k, u⟩ := p
    rw [Fields.get?] at h
    rw [Fields.set]
    split
    · next hk =>
      rw [if_pos hk] at h
      rw [Option.some.inj h]
    · next hk =>
      rw [if_neg hk] at h
      rw [ih h]

/-- Planting changes what stands under the first name of the path. -/
theorem plant_cons (w : Value) (name : String) (rest : List String) (t : Fields Value) :
    plant w (name :: rest) t = t.set name (planted w rest (t.get? name)) := by
  cases rest with
  | nil => rfl
  | cons next rest =>
    rw [plant]
    · cases hget : t.get? name with
      | none => rfl
      | some u =>
        cases u with
        | record fields => rfl
        | _ => exact (set_of_get? hget).symm
    · exact List.cons_ne_nil _ _

theorem get?_plant_cons (w : Value) (name : String) (rest : List String) (t : Fields Value)
    (other : String) : (plant w (name :: rest) t).get? other
      = if name = other then some (planted w rest (t.get? name)) else t.get? other := by
  rw [plant_cons, get?_set]

theorem addsText_planted (text : String) (path : List String) (v : Option Value) :
    AddsText strict path v (some (planted (.text text) path v)) := by
  induction path generalizing v with
  | nil => exact Or.inr ⟨text, rfl⟩
  | cons name path ih =>
    by_cases hv : ∀ w, v = some w → w.IsTable
    · refine Or.inr ⟨_, congrArg some (planted_of_isTable name path hv), fun _ ↦ hv,
        fun other hother ↦ ?_, ?_⟩
      · rw [get?_plant_cons, if_neg hother.symm]
      · rw [get?_plant_cons, if_pos rfl]
        exact ih _
    · obtain ⟨w, rfl, hw⟩ : ∃ w, v = some w ∧ ¬w.IsTable := by simpa using hv
      rw [planted_of_not_isTable hw]
      exact Or.inl rfl

theorem addsText_planted_planted (text text' : String) (path : List String) (v : Option Value) :
    AddsText strict path (some (planted (.text text) path v))
      (some (planted (.text text') path v)) := by
  induction path generalizing v with
  | nil => exact Or.inr ⟨text', rfl⟩
  | cons name path ih =>
    by_cases hv : ∀ w, v = some w → w.IsTable
    · rw [planted_of_isTable name path hv]
      refine Or.inr ⟨_, congrArg some (planted_of_isTable name path hv), fun _ w hw ↦ ?_,
        fun other hother ↦ ?_, ?_⟩
      · rw [← Option.some.inj hw]
        exact ⟨_, rfl⟩
      · show _ = (plant (.text text) (name :: path) (contents v)).get? other
        rw [get?_plant_cons, get?_plant_cons, if_neg hother.symm, if_neg hother.symm]
      · show AddsText strict path ((plant (.text text) (name :: path) (contents v)).get? name) _
        rw [get?_plant_cons, get?_plant_cons, if_pos rfl, if_pos rfl]
        exact ih _
    · obtain ⟨w, rfl, hw⟩ : ∃ w, v = some w ∧ ¬w.IsTable := by simpa using hv
      rw [planted_of_not_isTable hw, planted_of_not_isTable hw]
      exact Or.inl rfl

/-- Planting the same value into both keeps what is added, unless it takes its place. -/
theorem AddsText.planted (h : AddsText True path v v') (w : Value) (other : List String) :
    AddsText True path (some (planted w other v)) (some (planted w other v')) := by
  induction path generalizing v v' other with
  | nil =>
    obtain rfl | ⟨text, rfl⟩ := h
    · exact Or.inl rfl
    · cases other with
      | nil => exact Or.inl rfl
      | cons m rest => exact Or.inr ⟨text, rfl⟩
  | cons name path ih =>
    obtain rfl | ⟨fields, rfl, hv, hbeside, hrest⟩ := h
    · exact Or.inl rfl
    cases other with
    | nil => exact Or.inl rfl
    | cons m rest =>
      rw [planted_of_isTable m rest (hv trivial)]
      refine Or.inr ⟨plant w (m :: rest) fields, rfl, fun _ u hu ↦ ?_, fun k hk ↦ ?_, ?_⟩
      · rw [← Option.some.inj hu]
        exact ⟨_, rfl⟩
      · show _ = (plant w (m :: rest) (contents v)).get? k
        rw [get?_plant_cons, get?_plant_cons, hbeside k hk]
        by_cases hm : m = k
        · rw [hm, hbeside k hk]
        · rw [if_neg hm, if_neg hm]
      · show AddsText True path ((plant w (m :: rest) (contents v)).get? name) _
        rw [get?_plant_cons, get?_plant_cons]
        by_cases hm : m = name
        · subst hm
          rw [if_pos rfl, if_pos rfl]
          exact ih hrest rest
        · rw [if_neg hm, if_neg hm]
          exact hrest

/-! ## Merging -/

/-- What stands somewhere after what may stand there was laid over what may have stood there. -/
def laid (w : Option Value) : Option Value → Option Value
  | some v => some (mergeValue w v)
  | none => w

theorem get?_mergeFields_eq_laid {weak fields : Fields Value} (h : fields.names.Nodup)
    (name : String) :
    (mergeFields weak fields).get? name = laid (weak.get? name) (fields.get? name) := by
  rw [get?_mergeFields h]
  rfl

theorem contents_laid (hnodup : (contents v).names.Nodup) (hv : ∀ u, v = some u → u.IsTable)
    (w : Option Value) : contents (laid w v) = mergeFields (contents w) (contents v) := by
  cases v with
  | none => exact (mergeFields_nil _).symm
  | some u =>
    obtain ⟨fields, rfl⟩ := hv u rfl
    have hfields : (names fields).Nodup := hnodup
    rw [laid, mergeValue_record hfields]
    rfl

/-- Laying both over the same keeps what is added. What was no table may now be in the way of the
first, so nothing is asked of it. -/
theorem AddsText.laid (h : AddsText True path v v') (hv : NamesOnce (contents v))
    (hv' : NamesOnce (contents v')) (w : Option Value) :
    AddsText False path (laid w v) (laid w v') := by
  induction path generalizing v v' w with
  | nil =>
    obtain rfl | ⟨text, rfl⟩ := h
    · exact Or.inl rfl
    · exact Or.inr ⟨text, congrArg some (mergeValue_of_not_isTable (Value.not_isTable_text text) w)⟩
  | cons name path ih =>
    obtain rfl | ⟨fields, rfl, htable, hbeside, hrest⟩ := h
    · exact Or.inl rfl
    have hfields : NamesOnce fields := hv'
    refine Or.inr ⟨mergeFields (contents w) fields,
      congrArg some (mergeValue_record hfields.nodup w), False.elim, fun other hother ↦ ?_, ?_⟩
    · rw [contents_laid hv.nodup (htable trivial), get?_mergeFields_eq_laid hfields.nodup,
        get?_mergeFields_eq_laid hv.nodup, hbeside other hother]
    · rw [contents_laid hv.nodup (htable trivial), get?_mergeFields_eq_laid hfields.nodup,
        get?_mergeFields_eq_laid hv.nodup]
      exact ih hrest (hv.under name) (hfields.under name) _

end LineCommands
