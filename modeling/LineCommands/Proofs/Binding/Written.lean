import LineCommands.Proofs.Binding.Cut
import LineCommands.Proofs.Binding.Failure
import LineCommands.Proofs.Conversion.Writing

/-!
# Binding what was bound

The values that a binding makes, written as tokens in the order of the definitions, bind to the same
values again. The tokens need not be the ones that were bound: whole numbers are written in one way
only, and tokens that were left over are gone. But the blocks have the lengths that they had, because
the sizes are evaluated with the same values.

Floating-point numbers are left out, since they are not written here. Two definitions of one name
are left out, since the value of the first is not among the bindings.
-/

namespace LineCommands

open Text

/-! ## One definition -/

/-- The tokens of the value are a block for it, and as long as the one it was made of. -/
theorem Definition.Fits.written {d : Definition} {bound : Bindings} {block : List String} {v : Value}
    (h : d.Fits bound block v) (hfloat : d.tokenType? ≠ some .float)
    (hwords : ∀ t ∈ block, IsWord t.toList) :
    d.Fits bound v.tokens v ∧ ∀ t ∈ v.tokens, IsWord t.toList := by
  obtain ⟨name, kind⟩ := d
  cases kind with
  | simple type =>
    have htype : type ≠ .float := fun htype ↦ hfloat (congrArg some htype)
    obtain ⟨token, rfl, hv⟩ := h
    obtain ⟨t, ht, hword, hconvert⟩ :=
      exists_token_of_convert hv (hwords token (List.mem_singleton_self token)) htype
    rw [Value.tokens_of_token? ht]
    exact ⟨⟨t, rfl, hconvert⟩, by simpa using hword⟩
  | array size element =>
    cases element with
    | none =>
      obtain ⟨hsize, rfl⟩ := h
      rw [tokens_list_text]
      exact ⟨⟨hsize, rfl⟩, hwords⟩
    | some type =>
      have htype : type ≠ .float := fun htype ↦ hfloat (congrArg some htype)
      obtain ⟨hsize, vs, rfl, hvs⟩ := h
      obtain ⟨htokens, hwords⟩ := convert_tokens_of_convert hvs hwords htype
      -- One token for one value, as before, so the size is right again.
      have hlength : block.length = (Value.list vs).tokens.length :=
        hvs.length_eq.trans htokens.length_eq.symm
      exact ⟨⟨hlength ▸ hsize, vs, rfl, htokens⟩, hwords⟩

/-! ## Shares -/

namespace Share

/-- The share with its value written out for a block. -/
def written (s : Share) : Share := ⟨s.definition, s.value.tokens, s.value⟩

theorem bindings_map_written (shares : List Share) :
    bindings (shares.map written) = bindings shares := by
  rw [bindings, bindings, List.map_map]
  rfl

theorem get?_bindings_of_mem {shares : List Share} {s : Share} (hs : s ∈ shares)
    (hnames : (shares.map (·.definition.name)).Nodup) :
    Fields.get? s.definition.name (bindings shares) = some s.value := by
  rw [get?_bindings]
  have hfind : shares.reverse.find? (·.definition.name == s.definition.name) = some s := by
    cases hfind : shares.reverse.find? (·.definition.name == s.definition.name) with
    | none =>
      have hnone := List.find?_eq_none.mp hfind s (List.mem_reverse.mpr hs)
      exact absurd (beq_self_eq_true _) hnone
    | some s' =>
      have hname : s'.definition.name = s.definition.name := by simpa using List.find?_some hfind
      have hs' : s' ∈ shares := List.mem_reverse.mp (List.mem_of_find?_eq_some hfind)
      rw [List.inj_on_of_nodup_map hnames hs' hs hname]
  rw [hfind]
  rfl

end Share

/-! ## Whole bindings -/

namespace Template

/-- The values of the definitions, written as tokens one behind the other. -/
def written (ds : Template) (bindings : Bindings) : List String :=
  ds.flatMap fun d ↦ (Fields.get? d.name bindings).elim [] Value.tokens

theorem written_bindings {shares : List Share}
    (hnames : (shares.map (·.definition.name)).Nodup) :
    written (shares.map (·.definition)) (Share.bindings shares)
      = Share.tokens (shares.map Share.written) := by
  rw [written, Share.tokens, List.flatMap_map, List.flatMap_map]
  refine List.flatMap_congr fun s hs ↦ ?_
  rw [Share.get?_bindings_of_mem hs hnames]
  rfl

theorem IsCut.written {ds : Template} {tokens : List String} {shares : List Share}
    (h : ds.IsCut tokens shares) (hfloat : ∀ d ∈ ds, d.tokenType? ≠ some .float)
    (hwords : ∀ t ∈ tokens, IsWord t.toList) :
    ds.IsCut (Share.tokens (shares.map Share.written)) (shares.map Share.written) ∧
      ∀ t ∈ Share.tokens (shares.map Share.written), IsWord t.toList := by
  -- The bindings do not matter here, which keeps the shares before a share out of the way.
  have hshare : ∀ s ∈ shares, ∀ bound, s.definition.Fits bound s.block s.value →
      s.definition.Fits bound s.value.tokens s.value ∧ ∀ t ∈ s.value.tokens, IsWord t.toList := by
    intro s hs bound hfits
    refine hfits.written (hfloat s.definition ?_) fun t ht ↦ hwords t (h.blocks.subset ?_)
    · rw [← h.definitions]
      exact List.mem_map_of_mem hs
    · exact List.mem_flatMap.mpr ⟨s, hs, ht⟩
  refine ⟨⟨?_, List.prefix_rfl, eachAfter_map.mpr ?_⟩, ?_⟩
  · rw [List.map_map, ← h.definitions]
    rfl
  · intro before s after hshares
    have hs : s ∈ shares := by rw [hshares]; simp
    rw [Share.bindings_map_written]
    exact (hshare s hs _ (h.fits before s after hshares)).1
  · intro t ht
    rw [Share.tokens, List.flatMap_map] at ht
    obtain ⟨s, hs, ht⟩ := List.mem_flatMap.mp ht
    obtain ⟨before, after, hshares⟩ := List.append_of_mem hs
    exact (hshare s hs _ (h.fits before s after hshares)).2 t ht

/-- **Binding again.** Where all names are distinct and no floating-point number is asked for, the
tokens of the values bind to the values, and to the last token. -/
theorem bind_written {ds : Template} {tokens : List String} {b : Bound} (h : ds.bind tokens = .ok b)
    (hnames : (ds.map (·.name)).Nodup) (hfloat : ∀ d ∈ ds, d.tokenType? ≠ some .float)
    (hwords : ∀ t ∈ tokens, IsWord t.toList) :
    ds.bind (ds.written b.bindings) = .ok ⟨b.bindings, (ds.written b.bindings).length, []⟩ ∧
      ∀ t ∈ ds.written b.bindings, IsWord t.toList := by
  obtain ⟨shares, hcut, rfl⟩ := bind_eq_ok_iff.mp h
  obtain ⟨hwritten, hwrittenWords⟩ := hcut.written hfloat hwords
  have hnames' : (shares.map (·.definition.name)).Nodup := by
    rw [← hcut.definitions, List.map_map] at hnames
    exact hnames
  have htokens : ds.written (Share.bindings shares) = Share.tokens (shares.map Share.written) := by
    rw [← written_bindings hnames', hcut.definitions]
  rw [htokens]
  refine ⟨bind_eq_ok_iff.mpr ⟨_, hwritten, ?_⟩, hwrittenWords⟩
  rw [Share.bindings_map_written, List.drop_length]

end Template

end LineCommands
