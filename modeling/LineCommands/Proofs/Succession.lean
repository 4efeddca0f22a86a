/-!
# Lists in which every element answers for the ones before it

The definitions of a template, its entries and the blocks of a binding are lists in which what may
stand at a place depends on what stands before it, and on nothing after it. `EachAfter P` says of a
list that each of its elements is in the relation `P` to the part of the list before it. It is
stated by the places of the list, and taken apart from the front, where the elements already passed
move into the relation.
-/

namespace LineCommands

variable {α β : Type} {P : List α → α → Prop}

/-- Each element is in the relation `P` to the elements before it. -/
def EachAfter (P : List α → α → Prop) (xs : List α) : Prop :=
  ∀ before x after, xs = before ++ x :: after → P before x

@[simp] theorem eachAfter_nil : EachAfter P [] := by
  intro before x after h
  exact absurd h.symm (List.append_ne_nil_of_right_ne_nil _ (List.cons_ne_nil _ _))

theorem eachAfter_cons {x : α} {xs : List α} :
    EachAfter P (x :: xs) ↔ P [] x ∧ EachAfter (fun before ↦ P (x :: before)) xs := by
  constructor
  · intro h
    exact ⟨h [] x xs rfl, fun before y after hy ↦ h (x :: before) y after (by rw [hy]; rfl)⟩
  · rintro ⟨hx, h⟩ before y after hy
    cases before with
    | nil =>
      obtain ⟨rfl, -⟩ := List.cons.inj hy
      exact hx
    | cons z before =>
      obtain ⟨rfl, hxs⟩ := List.cons.inj hy
      exact h before y after hxs

/-- The relation may look at the elements before only through what `f` says of each, in a list that
goes on where another has said `earlier`. -/
theorem eachAfter_map_cons {Q : List β → α → Prop} {f : α → β} {earlier : List β} {x : α}
    {xs : List α} :
    EachAfter (fun before y ↦ Q (earlier ++ before.map f) y) (x :: xs) ↔
      Q earlier x ∧ EachAfter (fun before y ↦ Q (earlier ++ [f x] ++ before.map f) y) xs := by
  rw [eachAfter_cons]
  simp only [List.map_nil, List.append_nil, List.map_cons, List.append_assoc, List.singleton_append]

theorem eachAfter_map {P : List β → β → Prop} {f : α → β} {xs : List α} :
    EachAfter P (xs.map f) ↔ EachAfter (fun before x ↦ P (before.map f) (f x)) xs := by
  induction xs generalizing P with
  | nil => simp
  | cons x xs ih => rw [List.map_cons, eachAfter_cons, eachAfter_cons, ih, List.map_nil]; rfl

theorem EachAfter.front {front back : List α} (h : EachAfter P (front ++ back)) :
    EachAfter P front := by
  rintro before x after rfl
  exact h before x (after ++ back) (by simp)

/-- In a list that is not in order some element is the first that is not. -/
theorem exists_first_not_of_not_eachAfter {xs : List α} (h : ¬EachAfter P xs) :
    ∃ before x after, xs = before ++ x :: after ∧ EachAfter P before ∧ ¬P before x := by
  induction xs generalizing P with
  | nil => exact absurd eachAfter_nil h
  | cons x xs ih =>
    by_cases hx : P [] x
    · have hxs : ¬EachAfter (fun before ↦ P (x :: before)) xs :=
        fun hxs ↦ h (eachAfter_cons.mpr ⟨hx, hxs⟩)
      obtain ⟨before, y, after, rfl, hbefore, hy⟩ := ih hxs
      exact ⟨x :: before, y, after, rfl, eachAfter_cons.mpr ⟨hx, hbefore⟩, hy⟩
    · exact ⟨[], x, xs, rfl, eachAfter_nil, hx⟩

end LineCommands
