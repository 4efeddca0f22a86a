import Mathlib
import LineCommands.Proofs.Binding.Cut
import LineCommands.Proofs.Binding.Failure

/-!
# Tokens behind the blocks

Binding looks at no token behind the blocks that it cuts. More tokens behind them, or fewer, change
nothing but what is left over: a cut of the tokens is a cut of everything that begins with the
blocks.

A binding that failed may succeed with more tokens only if it failed for want of them. All else that
a definition refuses its tokens for it sees in the tokens that are there: a size is evaluated before
the tokens are counted, and they are counted before the first of them is converted.
-/

namespace LineCommands

/-- There were not enough tokens. -/
def Failure.IsShortage : Failure → Prop
  | .fault (.missingArgument ..) | .fault (.tooFewTokens ..) => True
  | _ => False

theorem Definition.Refuses.append {d : Definition} {bound : Bindings} {consumed : Nat}
    {tokens : List String} {e : Failure} (h : d.Refuses bound consumed tokens e)
    (he : ¬e.IsShortage) (extra : List String) :
    d.Refuses bound consumed (tokens ++ extra) e := by
  cases h with
  | missing => exact absurd trivial he
  | tooFew => exact absurd trivial he
  | size hsize => exact .size hsize
  | @token n before after token type _ hsize hn htype hblock hbefore htoken =>
    have hmore : n ≤ (tokens ++ extra).length := by
      rw [List.length_append]
      exact Nat.le_add_right_of_le hn
    have hsame : (tokens ++ extra).take n = before ++ token :: after := by
      rw [List.take_append_of_le_length hn, hblock]
    exact .token hsize hmore htype hsame hbefore htoken

namespace Template

variable {ds : Template} {tokens : List String} {b : Bound} {e : Failure}

theorem IsCut.congr {shares : List Share} (h : ds.IsCut tokens shares) {tokens' : List String}
    (hblocks : Share.tokens shares <+: tokens') : ds.IsCut tokens' shares :=
  ⟨h.definitions, hblocks, h.fits⟩

theorem bind_append (h : ds.bind tokens = .ok b) (extra : List String) :
    ds.bind (tokens ++ extra) = .ok ⟨b.bindings, b.consumed, b.trailing ++ extra⟩ := by
  obtain ⟨shares, hcut, rfl⟩ := bind_eq_ok_iff.mp h
  refine bind_eq_ok_iff.mpr ⟨shares, hcut.congr ?_, ?_⟩
  · exact hcut.blocks.trans (List.prefix_append tokens extra)
  · rw [List.drop_append_of_le_length hcut.blocks.length_le]

theorem bind_take_consumed (h : ds.bind tokens = .ok b) :
    ds.bind (tokens.take b.consumed) = .ok ⟨b.bindings, b.consumed, []⟩ := by
  obtain ⟨shares, hcut, rfl⟩ := bind_eq_ok_iff.mp h
  rw [← List.prefix_iff_eq_take.mp hcut.blocks]
  refine bind_eq_ok_iff.mpr ⟨shares, hcut.congr (List.prefix_refl _), ?_⟩
  rw [List.drop_length]

/-- The definitions before the one that refuses bind with more tokens too, and it refuses them
again. -/
theorem bind_append_of_error (h : ds.bind tokens = .error e) (he : ¬e.IsShortage)
    (extra : List String) : ds.bind (tokens ++ extra) = .error e := by
  obtain ⟨before, d, after, b, hds, hbefore, htake⟩ := bind_eq_error_iff.mp h
  refine bind_eq_error_iff.mpr ⟨before, d, after, _, hds, bind_append hbefore extra, ?_⟩
  rw [Definition.take_eq_error_iff] at htake ⊢
  exact htake.append he extra

/-- **Surplus tokens.** Where binding succeeds, it succeeds with the same bindings when more tokens
follow, which are all left over, and when only the tokens consumed are there, with nothing left and
no warning. Where it fails otherwise than for want of tokens, it fails in the same way when more
tokens follow. -/
theorem bind_looks_at_no_surplus (ds : Template) (tokens extra : List String) :
    (∀ b, ds.bind tokens = .ok b →
      (∃ more, ds.bind (tokens ++ extra) = .ok more ∧ more.bindings = b.bindings ∧
        more.consumed = b.consumed ∧ more.trailing = b.trailing ++ extra ∧
        more.trailing.length = b.trailing.length + extra.length) ∧
      ∃ fewer, ds.bind (tokens.take b.consumed) = .ok fewer ∧ fewer.bindings = b.bindings ∧
        fewer.consumed = b.consumed ∧ fewer.trailing = [] ∧ fewer.warnings = []) ∧
    ∀ e, ds.bind tokens = .error e → ¬e.IsShortage → ds.bind (tokens ++ extra) = .error e := by
  refine ⟨fun b hb ↦ ⟨?_, ?_⟩, fun e he hshort ↦ bind_append_of_error he hshort extra⟩
  · exact ⟨_, bind_append hb extra, rfl, rfl, rfl, List.length_append⟩
  · exact ⟨_, bind_take_consumed hb, rfl, rfl, rfl, rfl⟩

theorem bind_looks_at_no_surplus_sized :
    (∃ more, bind [⟨"n", .simple .int⟩, ⟨"xs", .array "n" (some .char)⟩] ["2", "a", "b", "c", "d"]
      = .ok more ∧ more.bindings = [("n", .int 2), ("xs", .list [.char 'a', .char 'b'])] ∧
        more.trailing = ["c", "d"]) ∧
    bind [⟨"n", .simple .int⟩, ⟨"xs", .array "n" (some .char)⟩] ["two", "a"]
      = .error (.fault (.notConvertible "two" .int "n")) := by
  have hbind : bind [⟨"n", .simple .int⟩, ⟨"xs", .array "n" (some .char)⟩] ["2", "a", "b", "c"]
      = .ok ⟨[("n", .int 2), ("xs", .list [.char 'a', .char 'b'])], 3, ["c"]⟩ := by cbv
  have hfails : bind [⟨"n", .simple .int⟩, ⟨"xs", .array "n" (some .char)⟩] ["two"]
      = .error (.fault (.notConvertible "two" .int "n")) := by cbv
  obtain ⟨⟨more, hmore, hbindings, -, htrailing, -⟩, -⟩ :=
    (bind_looks_at_no_surplus _ _ ["d"]).1 _ hbind
  exact ⟨⟨more, hmore, hbindings, htrailing⟩,
    (bind_looks_at_no_surplus _ _ ["a"]).2 _ hfails fun h ↦ h⟩

end Template

end LineCommands
