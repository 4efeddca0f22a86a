import Mathlib.Data.List.Perm.Basic
import LineCommands.Action
import LineCommands.Proofs.Binding.Typing

/-!
# Counting what is bound

Binding advances by blocks, and counting opens the lists that it finds in the bindings. The two walks
meet in the shares of a cut: the value of a share has as many leaves as its block has tokens. What
is counted are the shares that are still bound in the end. A share whose name is defined again later
has lost its value, and its tokens are what the count falls short of the tokens consumed.

The bindings list the lasting shares in another order, that of the first definitions of their names;
`Fields.latest_perm` says so for every history of writes.
-/

namespace LineCommands

/-! ## Lasting writes -/

section Lasting

variable {β : Type} (name : β → String)

/-- The elements whose name does not come again later. -/
def lasting : List β → List β
  | [] => []
  | x :: xs => if name x ∈ xs.map name then lasting xs else x :: lasting xs

/-- The elements whose name comes again later. -/
def overwritten : List β → List β
  | [] => []
  | x :: xs => if name x ∈ xs.map name then x :: overwritten xs else overwritten xs

/-- Every element lasts or is overwritten. -/
theorem lasting_append_overwritten_perm (xs : List β) :
    (lasting name xs ++ overwritten name xs).Perm xs := by
  induction xs with
  | nil => exact List.Perm.refl _
  | cons x xs ih =>
    rw [lasting, overwritten]
    split
    · exact List.perm_middle.trans (ih.cons x)
    · exact ih.cons x

theorem overwritten_of_nodup {xs : List β} (h : (xs.map name).Nodup) : overwritten name xs = [] := by
  induction xs with
  | nil => rfl
  | cons x xs ih =>
    obtain ⟨hx, hxs⟩ := List.nodup_cons.mp h
    rw [overwritten, if_neg hx, ih hxs]

theorem lasting_concat (xs : List β) (x : β) :
    lasting name (xs ++ [x]) = (lasting name xs).filter (name · ≠ name x) ++ [x] := by
  induction xs with
  | nil => rfl
  | cons y xs ih =>
    have hmem : name y ∈ (xs ++ [x]).map name ↔ name y ∈ xs.map name ∨ name y = name x := by
      rw [List.map_append, List.mem_append, List.map_singleton, List.mem_singleton]
    rw [List.cons_append, lasting, lasting, ih]
    by_cases hy : name y ∈ xs.map name
    · rw [if_pos hy, if_pos (hmem.mpr (Or.inl hy))]
    · rw [if_neg hy]
      by_cases hyx : name y = name x
      · rw [if_pos (hmem.mpr (Or.inr hyx)), List.filter_cons_of_neg (by simpa using hyx)]
      · rw [if_neg fun h ↦ (hmem.mp h).elim hy hyx, List.filter_cons_of_pos (by simpa using hyx)]
        rfl

theorem lasting_map {α : Type} (f : α → β) (xs : List α) :
    lasting name (xs.map f) = (lasting (fun x ↦ name (f x)) xs).map f := by
  induction xs with
  | nil => rfl
  | cons x xs ih =>
    rw [List.map_cons, lasting, lasting, ih, List.map_map]
    rw [apply_ite (List.map f)]
    rfl

end Lasting

namespace Fields

variable {α : Type}

/-- Up to the order, a write takes away what stands under its name and adds the new value. -/
theorem set_perm {fs : Fields α} (h : fs.names.Nodup) (name : String) (value : α) :
    (fs.set name value).Perm (fs.filter (·.1 ≠ name) ++ [(name, value)]) := by
  induction fs with
  | nil => exact List.Perm.refl _
  | cons field fs ih =>
    obtain ⟨k, v⟩ := field
    obtain ⟨hk, hfs⟩ := List.nodup_cons.mp h
    rw [set]
    by_cases hname : k = name
    · subst hname
      have hrest : fs.filter (·.1 ≠ k) = fs := by
        refine List.filter_eq_self.mpr fun field hfield ↦ ?_
        have hne : field.1 ≠ k := by
          rintro rfl
          exact hk (List.mem_map.mpr ⟨field, hfield, rfl⟩)
        simpa using hne
      rw [if_pos rfl, List.filter_cons_of_neg (by simp), hrest]
      exact (List.perm_append_singleton _ fs).symm
    · rw [if_neg hname, List.filter_cons_of_pos (by simpa using hname)]
      exact (ih hfs).cons (k, v)

theorem latest_perm (pairs : List (String × α)) : (latest pairs).Perm (lasting (·.1) pairs) := by
  induction pairs using List.reverseRecOn with
  | nil => exact List.Perm.refl _
  | append_singleton pairs p ih =>
    obtain ⟨name, value⟩ := p
    rw [latest_concat, lasting_concat]
    exact (set_perm (nodup_names_latest pairs) name value).trans ((ih.filter _).append_right _)

end Fields

/-! ## Leaves -/

namespace Value

theorem leavesOfAll_eq_flatMap (vs : List Value) : leavesOfAll vs = vs.flatMap leaves := by
  induction vs with
  | nil => rfl
  | cons v vs ih => rw [leavesOfAll, ih, List.flatMap_cons]

theorem IsOf.leaves {v : Value} {type : Primitive} (h : v.IsOf type) : v.leaves = [v] := by
  obtain ⟨htype, -⟩ := h
  cases v with
  | list items =>
    have hname : arrayTypeName = type.name := Except.ok.inj htype
    cases type <;> exact absurd hname (by decide)
  | _ => rfl

theorem length_leaves_list {vs : List Value} {type : Primitive} (h : ∀ v ∈ vs, v.IsOf type) :
    (list vs).leaves.length = vs.length := by
  rw [leaves, leavesOfAll_eq_flatMap]
  induction vs with
  | nil => rfl
  | cons v vs ih =>
    obtain ⟨hv, hvs⟩ := List.forall_mem_cons.mp h
    rw [List.flatMap_cons, List.length_append, ih hvs, hv.leaves, List.length_singleton,
      List.length_cons, Nat.add_comm]

end Value

theorem Definition.Fits.length_leaves {d : Definition} {before : Bindings} {block : List String}
    {v : Value} (h : d.Fits before block v) : v.leaves.length = block.length := by
  have htypes := h.types
  obtain ⟨name, kind⟩ := d
  cases kind with
  | simple type =>
    obtain ⟨token, rfl, -⟩ := h
    rw [Value.IsOf.leaves htypes]
    rfl
  | array size element =>
    obtain ⟨-, vs, rfl, hsize, hitems⟩ := htypes
    rw [Value.length_leaves_list hitems]
    -- Both are the size of the array.
    cases element with
    | none => exact Except.ok.inj (hsize.symm.trans h.1)
    | some type => exact Except.ok.inj (hsize.symm.trans h.1)

/-! ## Bindings -/

namespace Share

/-- The shares whose name is defined again later. -/
def replaced (shares : List Share) : List Share := overwritten (·.definition.name) shares

/-- The shares that are bound in the end. -/
def kept (shares : List Share) : List Share := lasting (·.definition.name) shares

theorem length_tokens (shares : List Share) :
    (tokens shares).length = (tokens (kept shares)).length + (tokens (replaced shares)).length := by
  have hperm := (lasting_append_overwritten_perm (·.definition.name) shares).flatMap_right (·.block)
  rw [tokens, ← hperm.length_eq, List.flatMap_append, List.length_append]
  rfl

theorem values_bindings_perm (shares : List Share) :
    (bindings shares).values.Perm ((kept shares).map (·.value)) := by
  have hperm := (Fields.latest_perm (shares.map fun s ↦ (s.definition.name, s.value))).map (·.2)
  rwa [lasting_map, List.map_map] at hperm

end Share

namespace Template

variable {ds : Template} {tokens : List String}

theorem IsCut.length_leaves {shares : List Share} (h : ds.IsCut tokens shares) :
    ∀ s ∈ shares, s.value.leaves.length = s.block.length := by
  intro s hs
  obtain ⟨before, after, hshares⟩ := List.append_of_mem hs
  exact (h.fits before s after hshares).length_leaves

theorem IsCut.length_leaves_bindings {shares : List Share} (h : ds.IsCut tokens shares) :
    (Value.leavesOfAll (Share.bindings shares).values).length
      = (Share.tokens (Share.kept shares)).length := by
  have hkept : ∀ s ∈ Share.kept shares, s.value.leaves.length = s.block.length := by
    intro s hs
    have hmem := (lasting_append_overwritten_perm (·.definition.name) shares).mem_iff.mp
      (List.mem_append_left _ hs)
    exact h.length_leaves s hmem
  have hperm := (Share.values_bindings_perm shares).flatMap_right Value.leaves
  rw [Value.leavesOfAll_eq_flatMap, hperm.length_eq, List.flatMap_map, Share.tokens,
    List.length_flatMap, List.length_flatMap]
  exact congrArg List.sum (List.map_congr_left hkept)

/-- **No token is lost.** Where binding succeeds there is a cut of the tokens into the blocks of the
definitions, and for every such cut the count of the bindings is the number of tokens consumed less
the tokens in the blocks of definitions whose name is defined again later. Where no name is defined
twice it is the number of tokens consumed. -/
theorem count_accounts_for_tokens (ds : Template) (tokens : List String) (b : Bound)
    (hbind : ds.bind tokens = .ok b) :
    (∃ shares, ds.IsCut tokens shares) ∧
    (∀ shares, ds.IsCut tokens shares →
      Builtin.count.run b.bindings
        = .ok (.int ((b.consumed : Int) - (Share.tokens (Share.replaced shares)).length))) ∧
    ((ds.map (·.name)).Nodup → Builtin.count.run b.bindings = .ok (.int b.consumed)) := by
  have hcount : ∀ shares, ds.IsCut tokens shares →
      Builtin.count.run b.bindings
        = .ok (.int ((b.consumed : Int) - (Share.tokens (Share.replaced shares)).length)) := by
    intro shares hcut
    obtain rfl : b = ⟨Share.bindings shares, _, _⟩ :=
      Except.ok.inj (hbind.symm.trans (bind_eq_ok_iff.mpr ⟨shares, hcut, rfl⟩))
    have hleaves := hcut.length_leaves_bindings
    have htotal := Share.length_tokens shares
    simp only [Builtin.run, hleaves]
    congr 2
    omega
  obtain ⟨shares, hcut, -⟩ := bind_eq_ok_iff.mp hbind
  refine ⟨⟨shares, hcut⟩, hcount, fun hnodup ↦ ?_⟩
  have hnone : Share.replaced shares = [] := by
    apply overwritten_of_nodup
    rw [← hcut.definitions, List.map_map] at hnodup
    exact hnodup
  rw [hcount shares hcut, hnone]
  simp

/-- The two tokens of an array are lost when its name is defined again, with one token less. An
array without elements and one whose elements are kept as they are lose none. -/
theorem count_accounts_for_tokens_repeated :
    ∃ b b' : Bound,
      bind [⟨"n", .simple .int⟩, ⟨"xs", .array "n" none⟩, ⟨"xs", .array "1" (some .int)⟩]
        ["2", "a", "b", "7", "z"] = .ok b ∧ b.consumed = 4 ∧
      (∀ shares, IsCut [⟨"n", .simple .int⟩, ⟨"xs", .array "n" none⟩,
          ⟨"xs", .array "1" (some .int)⟩] ["2", "a", "b", "7", "z"] shares →
        (Share.tokens (Share.replaced shares)).length = 2) ∧
      Builtin.count.run b.bindings = .ok (.int 2) ∧
      bind [⟨"n", .simple .int⟩, ⟨"ys", .array "0" (some .float)⟩, ⟨"xs", .array "n" none⟩]
        ["2", "a", "b"] = .ok b' ∧
      Builtin.count.run b'.bindings = .ok (.int 3) := by
  obtain ⟨b, hb⟩ : ∃ b : Bound, b = ⟨[("n", .int 2), ("xs", .list [.int 7])], 4, ["z"]⟩ := ⟨_, rfl⟩
  obtain ⟨b', hb'⟩ : ∃ b : Bound, b = ⟨[("n", .int 2), ("ys", .list []),
    ("xs", .list [.text "a", .text "b"])], 3, []⟩ := ⟨_, rfl⟩
  have hbind : bind [⟨"n", .simple .int⟩, ⟨"xs", .array "n" none⟩,
      ⟨"xs", .array "1" (some .int)⟩] ["2", "a", "b", "7", "z"] = .ok b := by
    rw [hb]
    cbv
  have hbind' : bind [⟨"n", .simple .int⟩, ⟨"ys", .array "0" (some .float)⟩,
      ⟨"xs", .array "n" none⟩] ["2", "a", "b"] = .ok b' := by
    rw [hb']
    cbv
  have hrun : Builtin.count.run b.bindings = .ok (.int 2) := by
    rw [hb]
    rfl
  obtain ⟨-, hcount, -⟩ := count_accounts_for_tokens _ _ b hbind
  obtain ⟨-, -, hall⟩ := count_accounts_for_tokens _ _ b' hbind'
  have hconsumed : b.consumed = 4 := by rw [hb]
  refine ⟨b, b', hbind, hconsumed, fun shares hcut ↦ ?_, hrun, hbind', ?_⟩
  · have hless := hrun.symm.trans (hcount shares hcut)
    rw [hconsumed] at hless
    have hint := Value.int.inj (Except.ok.inj hless)
    omega
  · rw [hall (by decide), hb']
    rfl

end Template

end LineCommands
