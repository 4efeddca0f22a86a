import Mathlib.Algebra.BigOperators.Group.List.Basic
import Mathlib.Algebra.Order.Group.Int
import LineCommands.Proofs.Binding.Counting

/-!
# What is summed and counted

The built-in sum and count look at the leaves of the bound values, and only at what each leaf
weighs: its number in the one case, one in the other. The weight of values is put together along
their nesting (`Value.weigh`), and neither the nesting nor the order of the leaves matters to it. So
both actions add up where arguments are divided among two maps, and give the same when arguments are
reordered, lists are grouped in another way or empty lists are put in.

Lists are regrouped by putting elements into a list of their own or taking them out of it
(`Regroups`), at any depth. This reaches every nesting: two lists of values can be regrouped into
each other if and only if they have the same leaves in the same order.

Whole numbers add up without any error, also where the running sum does not fit into its word any
more (`RunningSum.IsExactly`). Where a floating-point number takes part the order of the leaves does
matter, so for sums these are kept out (`Value.IsWhole`).
-/

namespace LineCommands

namespace Value

/-! ## Weights -/

section Weight

variable {M : Type} [AddCommMonoid M] (weight : Value → M)

mutual

/-- The weight of a value whose leaves have weights. -/
def weigh : Value → M
  | .list items => weighAll items
  | v => weight v

/-- The weight of values together. -/
def weighAll : List Value → M
  | [] => 0
  | v :: rest => weigh v + weighAll rest

end

mutual

theorem weigh_eq_sum : ∀ v : Value, weigh weight v = (v.leaves.map weight).sum
  | .list items => by rw [weigh, leaves, weighAll_eq_sum items]
  | .absent | .bool _ | .int _ | .float _ | .text _ | .char _ | .record _ => by
    simp [weigh, leaves]

theorem weighAll_eq_sum : ∀ vs : List Value, weighAll weight vs = ((leavesOfAll vs).map weight).sum
  | [] => rfl
  | v :: rest => by
    rw [weighAll, leavesOfAll, weigh_eq_sum v, weighAll_eq_sum rest, List.map_append,
      List.sum_append]

end

theorem weighAll_append (vs ws : List Value) :
    weighAll weight (vs ++ ws) = weighAll weight vs + weighAll weight ws := by
  induction vs with
  | nil => rw [List.nil_append, weighAll, zero_add]
  | cons v vs ih => rw [List.cons_append, weighAll, ih, weighAll, add_assoc]

theorem weighAll_of_perm {vs ws : List Value} (h : (leavesOfAll vs).Perm (leavesOfAll ws)) :
    weighAll weight vs = weighAll weight ws := by
  rw [weighAll_eq_sum, weighAll_eq_sum]
  exact (h.map weight).sum_eq

end Weight

/-- What a leaf adds to a sum of whole numbers. -/
def wholePart : Value → Int
  | .int n => n
  | _ => 0

/-! ## Values without floating-point numbers -/

/-- No leaf of the value is a floating-point number. -/
inductive IsWhole : Value → Prop
  | absent : IsWhole .absent
  | bool (b : Bool) : IsWhole (.bool b)
  | int (n : Int) : IsWhole (.int n)
  | text (s : String) : IsWhole (.text s)
  | char (c : Char) : IsWhole (.char c)
  | list {items : List Value} (h : ∀ v ∈ items, IsWhole v) : IsWhole (.list items)
  | record (fields : List (String × Value)) : IsWhole (.record fields)

theorem IsWhole.ne_float {v : Value} (h : v.IsWhole) : ∀ l ∈ v.leaves, ∀ x, l ≠ .float x := by
  induction h with
  | @list items _ ih =>
    intro l hl
    rw [leaves, leavesOfAll_eq_flatMap] at hl
    obtain ⟨v, hv, hl⟩ := List.mem_flatMap.mp hl
    exact ih v hv l hl
  | _ =>
    intro l hl x
    obtain rfl := List.mem_singleton.mp hl
    exact Value.noConfusion

/-! ## Regrouping -/

/-- Elements of a list are put into a list of their own, or taken out of it, at any depth. -/
inductive Regroups : List Value → List Value → Prop
  | refl (vs : List Value) : Regroups vs vs
  | ungroup (before items after : List Value) :
      Regroups (before ++ .list items :: after) (before ++ (items ++ after))
  | inside (before after : List Value) {items items' : List Value} (h : Regroups items items') :
      Regroups (before ++ .list items :: after) (before ++ .list items' :: after)
  | symm {vs ws : List Value} (h : Regroups vs ws) : Regroups ws vs
  | trans {us vs ws : List Value} (h : Regroups us vs) (h' : Regroups vs ws) : Regroups us ws

namespace Regroups

variable {vs ws : List Value}

theorem leavesOfAll_eq (h : Regroups vs ws) : leavesOfAll vs = leavesOfAll ws := by
  induction h with
  | refl vs => rfl
  | ungroup before items after =>
    simp only [leavesOfAll_eq_flatMap, List.flatMap_append, List.flatMap_cons, leaves]
  | inside before after _ ih =>
    simp only [leavesOfAll_eq_flatMap, List.flatMap_append, List.flatMap_cons, leaves] at ih ⊢
    rw [ih]
  | symm _ ih => exact ih.symm
  | trans _ _ ih ih' => exact ih.trans ih'

theorem around (h : Regroups vs ws) (before after : List Value) :
    Regroups (before ++ (vs ++ after)) (before ++ (ws ++ after)) := by
  induction h with
  | refl vs => exact .refl _
  | ungroup before' items after' =>
    have h := ungroup (before ++ before') items (after' ++ after)
    simpa only [List.append_assoc, List.cons_append] using h
  | inside before' after' h _ =>
    have h := inside (before ++ before') (after' ++ after) h
    simpa only [List.append_assoc, List.cons_append] using h
  | symm _ ih => exact ih.symm
  | trans _ _ ih ih' => exact ih.trans ih'

end Regroups

mutual

theorem regroups_leaves : ∀ v : Value, Regroups [v] v.leaves
  | .list items => by
    rw [leaves]
    have hopen := Regroups.ungroup [] items []
    rw [List.append_nil] at hopen
    exact hopen.trans (regroups_leavesOfAll items)
  | .absent | .bool _ | .int _ | .float _ | .text _ | .char _ | .record _ => .refl _

theorem regroups_leavesOfAll : ∀ vs : List Value, Regroups vs (leavesOfAll vs)
  | [] => .refl _
  | v :: rest => by
    rw [leavesOfAll]
    have hfirst := (regroups_leaves v).around [] rest
    have hrest := (regroups_leavesOfAll rest).around v.leaves []
    rw [List.append_nil, List.append_nil] at hrest
    exact hfirst.trans hrest

end

/-- **Regrouping.** Two lists can be regrouped into each other if they have the same leaves in the
same order, and only then. -/
theorem regroups_iff {vs ws : List Value} : Regroups vs ws ↔ leavesOfAll vs = leavesOfAll ws := by
  constructor
  · exact Regroups.leavesOfAll_eq
  · intro h
    have hws := (regroups_leavesOfAll ws).symm
    rw [← h] at hws
    exact (regroups_leavesOfAll vs).trans hws

end Value

/-! ## Running sums -/

namespace RunningSum

open Value

/-- Only whole numbers were added so far, and this is their sum. -/
def IsExactly (s : RunningSum) (n : Int) : Prop := s = word n ∨ s = plain (.int n)

variable {s : RunningSum} {m : Int}

theorem IsExactly.value_eq (h : s.IsExactly m) : s.value = .int m := by
  rcases h with rfl | rfl
  · rfl
  · rfl

theorem IsExactly.exists_add (h : s.IsExactly m) (n : Int) :
    ∃ s', s.add (.int n) = .ok s' ∧ s'.IsExactly (m + n) := by
  rcases h with rfl | rfl
  · rw [add]
    split
    · exact ⟨_, rfl, Or.inl rfl⟩
    · exact ⟨_, rfl, Or.inr rfl⟩
  · exact ⟨_, rfl, Or.inr rfl⟩

/-- It does not matter to whole numbers where the sum leaves the word of 64 bits. -/
theorem IsExactly.exists_foldlM_add (h : s.IsExactly m) {vs : List Value}
    (hvs : ∀ v ∈ vs, ∀ x, v ≠ .float x) :
    ∃ s', (vs.filterMap number?).foldlM add s = .ok s' ∧
      s'.IsExactly (m + (vs.map wholePart).sum) := by
  induction vs generalizing s m with
  | nil =>
    rw [List.map_nil, List.sum_nil, Int.add_zero]
    exact ⟨s, rfl, h⟩
  | cons v vs ih =>
    obtain ⟨hv, hrest⟩ := List.forall_mem_cons.mp hvs
    rw [List.map_cons, List.sum_cons, ← Int.add_assoc]
    cases v with
    | int n =>
      obtain ⟨next, hnext, hwhole⟩ := h.exists_add n
      have hnumber : (Value.int n).number? = some (.int n) := rfl
      rw [List.filterMap_cons_some hnumber, List.foldlM_cons, hnext]
      exact ih hwhole hrest
    | float x => exact absurd rfl (hv x)
    | _ =>
      -- What is no number is passed over and weighs nothing.
      have hpassed := ih h hrest
      rw [← Int.add_zero m] at hpassed
      exact hpassed

end RunningSum

/-! ## Sums and counts -/

namespace Builtin

open Value

variable {args args' : Bindings}

theorem total_of_ne_float {vs : List Value} (h : ∀ v ∈ vs, ∀ x, v ≠ .float x) :
    total (vs.filterMap number?) = .ok (.int (vs.map wholePart).sum) := by
  have hzero : (RunningSum.word 0).IsExactly 0 := Or.inl rfl
  obtain ⟨s, hs, hwhole⟩ := hzero.exists_foldlM_add h
  rw [total, hs, ← zero_add (vs.map wholePart).sum]
  exact congrArg Except.ok hwhole.value_eq

/-- The sum depends on the leaves alone, and where these are no floating-point numbers not on their
order either. -/
theorem run_sum_of_ne_float (h : ∀ l ∈ leavesOfAll args.values, ∀ x, l ≠ .float x) :
    sum.run args = .ok (.int (weighAll wholePart args.values)) := by
  simp only [run, total_of_ne_float h, weighAll_eq_sum, Number.toValue]

theorem run_count (args : Bindings) :
    count.run args = .ok (.int (weighAll (fun _ ↦ (1 : Int)) args.values)) := by
  simp [run, weighAll_eq_sum]

theorem ne_float_of_isWhole (h : ∀ v ∈ args.values, v.IsWhole) :
    ∀ l ∈ leavesOfAll args.values, ∀ x, l ≠ .float x := by
  intro l hl
  rw [leavesOfAll_eq_flatMap] at hl
  obtain ⟨v, hv, hl⟩ := List.mem_flatMap.mp hl
  exact (h v hv).ne_float l hl

/-- Arguments are reordered, lists in them are regrouped, and empty lists are put among them. -/
inductive Rearranges : Bindings → Bindings → Prop
  | reorder {args args' : Bindings} (h : args.Perm args') : Rearranges args args'
  | regroup (before after : Bindings) (name : String) {items items' : List Value}
      (h : Regroups items items') :
      Rearranges (before ++ (name, .list items) :: after) (before ++ (name, .list items') :: after)
  | pad (before after : Bindings) (name : String) :
      Rearranges (before ++ after) (before ++ (name, .list []) :: after)
  | trans {args args' args'' : Bindings} (h : Rearranges args args')
      (h' : Rearranges args' args'') : Rearranges args args''

theorem Rearranges.leavesOfAll_perm (h : Rearranges args args') :
    (leavesOfAll args.values).Perm (leavesOfAll args'.values) := by
  have hvalues : ∀ (before after : Bindings) (name : String) (items : List Value),
      Fields.values (before ++ (name, .list items) :: after)
        = before.values ++ .list items :: after.values :=
    fun _ _ _ _ ↦ List.map_append
  induction h with
  | reorder h =>
    rw [leavesOfAll_eq_flatMap, leavesOfAll_eq_flatMap]
    exact (h.map (·.2)).flatMap_right leaves
  | regroup before after name h =>
    rw [hvalues, hvalues]
    exact .of_eq (Regroups.inside before.values after.values h).leavesOfAll_eq
  | pad before after name =>
    have hnothing := (Regroups.ungroup before.values [] after.values).leavesOfAll_eq
    rw [hvalues, Fields.values, List.map_append]
    exact .of_eq hnothing.symm
  | trans _ _ ih ih' => exact ih.trans ih'

/-- The action adds up: its value on the arguments is that on the two parts together. -/
def AddsUp (b : Builtin) (args left right : Bindings) : Prop :=
  ∃ m n : Int, b.run left = .ok (.int m) ∧ b.run right = .ok (.int n) ∧
    b.run args = .ok (.int (m + n))

theorem addsUp_of_perm {b : Builtin} {left right : Bindings} {weight : Value → Int}
    (hrun : ∀ part : Bindings, part ⊆ args → b.run part = .ok (.int (weighAll weight part.values)))
    (h : args.Perm (left ++ right)) : AddsUp b args left right := by
  have hleft : left ⊆ args := fun _ hfield ↦ h.mem_iff.mpr (List.mem_append_left _ hfield)
  have hright : right ⊆ args := fun _ hfield ↦ h.mem_iff.mpr (List.mem_append_right _ hfield)
  refine ⟨_, _, hrun left hleft, hrun right hright, ?_⟩
  have hleaves := (Rearranges.reorder h).leavesOfAll_perm
  rw [hrun args (List.Subset.refl args), weighAll_of_perm weight hleaves, Fields.values,
    List.map_append, weighAll_append]
  rfl

/-- **Sums and counts.** Without floating-point numbers the sum of arguments is that of the whole
numbers in them, at every depth; truth values and texts add nothing, digits or not. The count is
the number of everything that is no list. Where the arguments are divided among two maps both add
up, and both stay the same where arguments are reordered, elements of lists grouped in other ways,
and empty lists put in. -/
theorem sum_and_count_weigh_leaves (args : Bindings) (hwhole : ∀ v ∈ args.values, v.IsWhole) :
    sum.run args = .ok (.int (weighAll wholePart args.values)) ∧
    count.run args = .ok (.int (weighAll (fun _ ↦ (1 : Int)) args.values)) ∧
    (∀ left right, args.Perm (left ++ right) →
      AddsUp sum args left right ∧ AddsUp count args left right) ∧
    ∀ args', Rearranges args args' →
      sum.run args' = sum.run args ∧ count.run args' = count.run args := by
  have hsum : ∀ {part : Bindings}, (∀ v ∈ part.values, v.IsWhole) →
      sum.run part = .ok (.int (weighAll wholePart part.values)) :=
    fun h ↦ run_sum_of_ne_float (ne_float_of_isWhole h)
  refine ⟨hsum hwhole, run_count args, fun left right h ↦ ⟨?_, ?_⟩, fun args' h ↦ ⟨?_, ?_⟩⟩
  · exact addsUp_of_perm (fun _ hpart ↦ hsum fun v hv ↦ hwhole v (List.map_subset _ hpart hv)) h
  · exact addsUp_of_perm (fun part _ ↦ run_count part) h
  · have hperm := h.leavesOfAll_perm
    have hne : ∀ l ∈ leavesOfAll args'.values, ∀ x, l ≠ .float x :=
      fun l hl ↦ ne_float_of_isWhole hwhole l (hperm.mem_iff.mpr hl)
    rw [run_sum_of_ne_float hne, hsum hwhole, weighAll_of_perm wholePart hperm]
  · rw [run_count, run_count, weighAll_of_perm _ h.leavesOfAll_perm]

/-- Of a truth value, a digit as a character and one as a text nothing is added, and each is
counted. With the arguments in another order and the list taken apart and padded it is the same. -/
theorem sum_and_count_weigh_leaves_nested :
    ∃ args args' : Bindings,
      args = [("n", .int 2), ("on", .bool true), ("c", .char '7'), ("s", .text "9"),
        ("xs", .list [.int 3, .list [.list [.int (-10)], .absent]])] ∧
      args' = [("xs", .list [.int 3, .int (-10), .list [], .absent]), ("n", .int 2),
        ("on", .bool true), ("c", .char '7'), ("s", .text "9")] ∧
      (∀ v ∈ args.values, v.IsWhole) ∧
      sum.run args = .ok (.int (-5)) ∧ count.run args = .ok (.int 7) ∧
      Rearranges args args' ∧ sum.run args' = sum.run args ∧ count.run args' = count.run args := by
  obtain ⟨args, hargs⟩ : ∃ args : Bindings, args = [("n", .int 2), ("on", .bool true),
    ("c", .char '7'), ("s", .text "9"),
    ("xs", .list [.int 3, .list [.list [.int (-10)], .absent]])] := ⟨_, rfl⟩
  have hwhole : ∀ v ∈ args.values, v.IsWhole := by
    subst hargs
    simp only [Fields.values, List.map_cons, List.map_nil, List.forall_mem_cons]
    refine ⟨.int 2, .bool true, .char '7', .text "9", .list ?_, by simp⟩
    refine List.forall_mem_cons.mpr ⟨.int 3, List.forall_mem_singleton.mpr (.list ?_)⟩
    refine List.forall_mem_cons.mpr ⟨.list ?_, List.forall_mem_singleton.mpr .absent⟩
    exact List.forall_mem_singleton.mpr (.int _)
  obtain ⟨hsum, hcount, -, hsame⟩ := sum_and_count_weigh_leaves args hwhole
  have hregroup : Regroups [.int 3, .list [.list [.int (-10)], .absent]]
      [.int 3, .int (-10), .list [], .absent] := regroups_iff.mpr rfl
  have hrearranges : Rearranges args [("xs", .list [.int 3, .int (-10), .list [], .absent]),
      ("n", .int 2), ("on", .bool true), ("c", .char '7'), ("s", .text "9")] := by
    subst hargs
    refine (Rearranges.regroup [_, _, _, _] [] "xs" hregroup).trans (.reorder ?_)
    exact List.perm_append_singleton _ [_, _, _, _]
  subst hargs
  exact ⟨_, _, rfl, rfl, hwhole, hsum, hcount, hrearranges, hsame _ hrearranges⟩

end Builtin

end LineCommands
