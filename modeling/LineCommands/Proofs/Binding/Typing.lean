import LineCommands.Proofs.Binding.Cut
import LineCommands.Proofs.Conversion.Typing

/-!
# The types of bound values

A name is bound to what its last definition made, and this has the type that the definition
declares: the primitive type of a simple definition, and for an array as many elements of its
element type as its size said when it was evaluated. Earlier definitions of the name leave no trace
in its value, whatever their types are.
-/

namespace LineCommands

/-! ## One definition -/

theorem isOf_of_convertAll {argument : String} {type : Primitive} {block : List String}
    {vs : List Value} (h : List.Forall₂ (fun token v ↦ convert token type argument = .ok v) block vs) :
    ∀ v ∈ vs, v.IsOf type := by
  induction h with
  | nil => exact fun v hv ↦ absurd hv List.not_mem_nil
  | cons hv _ ih => exact List.forall_mem_cons.mpr ⟨isOf_of_convert hv, ih⟩

/-- The value has the type that the definition declares, where its size is evaluated after the
bindings `before`. Without an element type the elements are strings. -/
def Definition.Types (d : Definition) (before : Bindings) (v : Value) : Prop :=
  match d.kind with
  | .simple type => v.IsOf type
  | .array size element =>
    v.typeName = .ok arrayTypeName ∧ ∃ vs, v = .list vs ∧
      Size.evaluate size before d.name = .ok vs.length ∧
      ∀ w ∈ vs, w.IsOf (element.getD .string)

theorem Definition.Fits.types {d : Definition} {before : Bindings} {block : List String} {v : Value}
    (h : d.Fits before block v) : d.Types before v := by
  obtain ⟨name, kind⟩ := d
  cases kind with
  | simple type =>
    obtain ⟨token, -, hv⟩ := h
    exact isOf_of_convert hv
  | array size element =>
    cases element with
    | none =>
      obtain ⟨hsize, rfl⟩ := h
      refine ⟨rfl, _, rfl, by rw [List.length_map]; exact hsize, fun w hw ↦ ?_⟩
      obtain ⟨token, -, rfl⟩ := List.mem_map.mp hw
      exact isOf_text token
    | some type =>
      obtain ⟨hsize, vs, rfl, hvs⟩ := h
      exact ⟨rfl, vs, rfl, hvs.length_eq ▸ hsize, isOf_of_convertAll hvs⟩

theorem Definition.Types.exists_typeName {d : Definition} {before : Bindings} {v : Value}
    (h : d.Types before v) : ∃ name, v.typeName = .ok name := by
  obtain ⟨name, kind⟩ := d
  cases kind with
  | simple type => exact ⟨_, h.1⟩
  | array size element => exact ⟨_, h.1⟩

/-! ## Whole bindings -/

namespace Template

theorem IsCut.front {tokens : List String} {before after : List Share}
    (h : IsCut ((before ++ after).map (·.definition)) tokens (before ++ after)) :
    IsCut (before.map (·.definition)) tokens before where
  definitions := rfl
  blocks := by
    have hprefix : Share.tokens before <+: Share.tokens (before ++ after) := by
      rw [Share.tokens, Share.tokens, List.flatMap_append]
      exact List.prefix_append _ _
    exact hprefix.trans h.blocks
  fits := h.fits.front

/-- What is bound under a name was made by the last definition of the name, after the bindings of
the definitions before it. -/
theorem exists_fits_of_mem_bindings {ds : Template} {tokens : List String} {b : Bound}
    (h : ds.bind tokens = .ok b) {name : String} {v : Value} (hmem : (name, v) ∈ b.bindings) :
    ∃ (before : Template) (d : Definition) (after : Template) (earlier : Bound) (block : List String),
      ds = before ++ d :: after ∧ d.name = name ∧
      name ∉ after.map (·.name) ∧ before.bind tokens = .ok earlier ∧
      d.Fits earlier.bindings block v := by
  obtain ⟨shares, hcut, rfl⟩ := bind_eq_ok_iff.mp h
  have hnodup : (Share.bindings shares).names.Nodup := Fields.nodup_names_latest _
  have hget := Fields.get?_of_mem hnodup hmem
  rw [Share.get?_bindings, Option.map_eq_some_iff] at hget
  obtain ⟨s, hfind, rfl⟩ := hget
  -- Looked at from the back, no share before this one has the name.
  obtain ⟨hname, later, earlier, hshares, hlater⟩ := List.find?_eq_some_iff_append.mp hfind
  obtain rfl : shares = earlier.reverse ++ s :: later.reverse := by
    rw [← List.reverse_reverse shares, hshares]
    simp
  obtain rfl := hcut.definitions
  have hfits : s.definition.Fits (Share.bindings earlier.reverse) s.block s.value :=
    hcut.fits earlier.reverse s later.reverse rfl
  obtain ⟨front, hfront, hbindings⟩ : ∃ front : Bound,
      bind (earlier.reverse.map (·.definition)) tokens = .ok front ∧
      front.bindings = Share.bindings earlier.reverse :=
    ⟨_, bind_eq_ok_iff.mpr ⟨earlier.reverse, hcut.front, rfl⟩, rfl⟩
  rw [← hbindings] at hfits
  have hsplit : (earlier.reverse ++ s :: later.reverse).map (·.definition) =
      earlier.reverse.map (·.definition) ++ s.definition :: later.reverse.map (·.definition) := by
    rw [List.map_append, List.map_cons]
  refine ⟨_, s.definition, _, front, s.block, hsplit, by simpa using hname, ?_, hfront, hfits⟩
  intro hmem
  obtain ⟨d, hd, hdname⟩ := List.mem_map.mp hmem
  obtain ⟨s', hs', rfl⟩ := List.mem_map.mp hd
  have hother := hlater s' (List.mem_reverse.mp hs')
  rw [hdname] at hother
  simp at hother

theorem exists_types_of_mem_bindings {ds : Template} {tokens : List String} {b : Bound}
    (h : ds.bind tokens = .ok b) {name : String} {v : Value} (hmem : (name, v) ∈ b.bindings) :
    ∃ (before : Template) (d : Definition) (after : Template) (earlier : Bound),
      ds = before ++ d :: after ∧ d.name = name ∧
      name ∉ after.map (·.name) ∧ before.bind tokens = .ok earlier ∧
      d.Types earlier.bindings v := by
  obtain ⟨before, d, after, earlier, block, hds, hname, hlast, hbefore, hfits⟩ :=
    exists_fits_of_mem_bindings h hmem
  exact ⟨before, d, after, earlier, hds, hname, hlast, hbefore, hfits.types⟩

end Template

end LineCommands
