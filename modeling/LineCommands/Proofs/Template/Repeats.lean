import Mathlib.Data.List.Infix
import LineCommands.Proofs.Template.Validity

/-!
# Warnings about repeated names

Compiling a template warns about every entry whose name stands before it, as far as it comes: up to
the first entry that is not in order. Here this is said by the entries of the template and their
places alone. The *valid front* of a template are the entries that compiling gets to, and
`namesAgain` are the names in it that are used again, in order.
-/

namespace LineCommands.Template

open Log

/-- The names of the entries that come after another entry of their name, in order. -/
def namesAgain (es : List Entry) : List String :=
  ((es.inits.zip es).filter fun (before, e) ↦ e.name ∈ before.map (·.name)).map (·.2.name)

/-- The entries before the first that is not in order, or all of them if there is none. -/
structure IsValidFront (es front : List Entry) : Prop where
  isPrefix : front <+: es
  valid : EntriesValid front
  last : ∀ e, front ++ [e] <+: es → ¬e.Valid (front.map (·.name))

theorem exists_isValidFront (es : List Entry) : ∃ front, IsValidFront es front := by
  by_cases hvalid : EntriesValid es
  · refine ⟨es, List.prefix_refl es, hvalid, fun e he ↦ ?_⟩
    have hlength := he.length_le
    rw [List.length_append, List.length_singleton] at hlength
    omega
  · obtain ⟨before, e, after, rfl, hbefore, he⟩ := exists_first_not_of_not_eachAfter hvalid
    refine ⟨before, List.prefix_append _ _, hbefore, fun e' he' ↦ ?_⟩
    obtain ⟨rest, hrest⟩ := (List.prefix_append_right_inj before).mp he'
    obtain ⟨rfl, -⟩ := List.cons.inj hrest
    exact he

theorem IsValidFront.unique {es front front' : List Entry} (h : IsValidFront es front)
    (h' : IsValidFront es front') : front = front' := by
  -- The longer of two fronts would have to go past an entry that is not in order.
  have hlonger : ∀ {front front' : List Entry}, IsValidFront es front → IsValidFront es front' →
      front <+: front' → front = front' := by
    rintro front front' h h' ⟨rest, rfl⟩
    cases rest with
    | nil => exact (List.append_nil front).symm
    | cons e rest =>
      have hprefix : front ++ [e] <+: es := by
        refine List.IsPrefix.trans ⟨rest, ?_⟩ h'.isPrefix
        rw [List.append_assoc, List.singleton_append]
      exact absurd (h'.valid front e rest rfl) (h.last e hprefix)
  obtain hle | hle := List.prefix_or_prefix_of_prefix h.isPrefix h'.isPrefix
  · exact hlonger h h' hle
  · exact (hlonger h' h hle).symm

theorem repeatedNames_append (earlier : List String) {front after : List Entry}
    (hfront : EachAfter (fun before e ↦ e.Valid (earlier ++ before.map (·.name))) front)
    (hafter : ∀ e ∈ after.head?, ¬e.Valid (earlier ++ front.map (·.name))) :
    repeatedNames earlier (front ++ after)
      = ((front.inits.zip front).filter
          fun (before, e) ↦ e.name ∈ earlier ++ before.map (·.name)).map (·.2.name) := by
  induction front generalizing earlier with
  | nil =>
    cases after with
    | nil => rfl
    | cons e after =>
      have he : ¬e.Valid earlier := by simpa using hafter e rfl
      rw [List.nil_append, repeatedNames]
      cases hdefine : e.define earlier with
      | error f => rfl
      | ok d => exact absurd (Entry.define_eq_ok_iff.mp hdefine).1 he
  | cons e front ih =>
    obtain ⟨hvalid, hfront⟩ := eachAfter_map_cons.mp hfront
    obtain ⟨d, hd⟩ := Entry.exists_define_of_valid hvalid
    rw [List.map_cons, ← List.singleton_append, ← List.append_assoc] at hafter
    have hrest := ih (earlier ++ [e.name]) hfront hafter
    rw [List.cons_append, repeatedNames, hd]
    simp only [hrest, List.inits_cons, List.zip_cons_cons, List.zip_map_left, List.filter_cons,
      List.filter_map, List.map_nil, List.append_nil, List.contains_iff_mem, decide_eq_true_eq]
    -- For an entry of the rest the first one is among the entries before it.
    split <;>
      simp only [List.map_cons, List.map_map, Function.comp_def, Prod.map_fst, Prod.map_snd, id_eq,
        List.append_assoc, List.singleton_append]

/-- The records of a compilation are the warnings about the names used again in the valid front, and
a record for debugging if the template is in order. -/
theorem warnings_compileRecords {source : String} {es front : List Entry}
    (hscan : Scan source.toList es) (hfront : IsValidFront es front) :
    (compileRecords source).filter (·.level == .warning)
      = (namesAgain front).map (repeatedWarning source) := by
  obtain ⟨after, rfl⟩ := hfront.isPrefix
  have hnames : repeatedNames [] (front ++ after) = namesAgain front := by
    refine (repeatedNames_append [] hfront.valid fun e he ↦ ?_).trans rfl
    obtain ⟨rest, rfl⟩ := List.head?_eq_some_iff.mp he
    refine hfront.last e ⟨rest, ?_⟩
    rw [List.append_assoc, List.singleton_append]
  have hwarnings : ∀ names : List String,
      (names.map (repeatedWarning source)).filter (·.level == .warning)
        = names.map (repeatedWarning source) := by
    refine fun names ↦ List.filter_eq_self.mpr fun r hr ↦ ?_
    obtain ⟨name, -, rfl⟩ := List.mem_map.mp hr
    rfl
  rw [compileRecords, entries, ← scan_iff.mp hscan, hnames, List.filter_append, hwarnings]
  -- What is left is the record for debugging.
  refine (congrArg _ ?_).trans (List.append_nil _)
  cases compile source with
  | error f => rfl
  | ok ds => rfl

end LineCommands.Template
