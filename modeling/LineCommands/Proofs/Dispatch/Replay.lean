import Mathlib
import LineCommands.Proofs.Binding.Written
import LineCommands.Proofs.Dispatch.Verdict

/-!
# Running a line again

A line that succeeded can be written anew from what it was bound to: the keyword, a colon, and the
values in the order of the definitions with single spaces between their tokens. Running the new line
has the same data as running the old one, whatever was compiled in between, and the new line has no
token too many.
-/

namespace LineCommands

open Text

theorem SplitsInto.isWord {line keyword : String} {tokens : List String}
    (h : SplitsInto line keyword tokens) : ∀ t ∈ tokens, IsWord t.toList := by
  obtain ⟨-, rest, -, rfl⟩ := h
  exact fun t ht ↦ isWord_of_mem_wordsOf ht

theorem splitsInto_intercalate {keyword : String} {tokens : List String}
    (hkeyword : ':' ∉ keyword.toList) (htokens : ∀ t ∈ tokens, IsWord t.toList) :
    SplitsInto (keyword ++ ":" ++ " ".intercalate tokens) keyword tokens :=
  ⟨hkeyword, _, rfl, (wordsOf_intercalate htokens).symm⟩

namespace Dispatch

/-- The line that gives these bindings to the definitions. -/
def rewritten (keyword : String) (ds : Template) (bindings : Bindings) : String :=
  keyword ++ ":" ++ " ".intercalate (ds.written bindings)

variable {registry : Registry} {warnTrailing : Bool} {memo memo' : Memo Template} {line : String}

/-- **Replay.** For a template of distinct names without floating-point numbers, a line that
succeeded can be written anew from its bindings. The new line succeeds with the same data; its
tokens are the written ones, all of them consumed, and there is nothing to warn about. -/
theorem run_replays (hmemo : memo.Sound Template.compile) (hmemo' : memo'.Sound Template.compile)
    {c : Command} {tokens : List String} {ds : Template} {r : Result}
    (hline : Addresses registry line c tokens) (hcompile : Template.compile c.template = .ok ds)
    (hnames : (ds.map (·.name)).Nodup) (hfloat : ∀ d ∈ ds, d.tokenType? ≠ some .float)
    (hrun : (run registry warnTrailing memo line).outcome = .ok r) (hok : r.ok = true) :
    ∃ bindings r', Fields.get? "bindings" r.data = some (.record bindings) ∧
      (run registry warnTrailing memo' (rewritten c.keyword ds bindings)).outcome = .ok r' ∧
      r'.ok = true ∧ r'.data = r.data ∧ r'.warnings = [] ∧
      r'.info? "consumed" = some (.int (ds.written bindings).length) ∧
      r'.info? "tokens" = some (.int (ds.written bindings).length) := by
  have hends := ends_run hmemo registry warnTrailing line
  rw [hrun] at hends
  generalize (run registry warnTrailing memo line).calls = calls at hends
  cases hends with
  | @success c' tokens' ds' b output hline' hcompile' hbind haction =>
    obtain ⟨rfl, rfl⟩ := hline.unique hline'
    obtain rfl := Except.ok.inj (hcompile.symm.trans hcompile')
    obtain ⟨hwritten, hwords⟩ := Template.bind_written hbind hnames hfloat hline.split.isWord
    have hsplit := splitsInto_intercalate hline.split.1 hwords
    have hagain : Ends registry warnTrailing (rewritten c.keyword ds b.bindings) _ _ :=
      .success (hsplit.addresses hline.get) hcompile hwritten haction
    refine ⟨b.bindings, _, rfl, (run_of_ends hmemo' hagain).1, rfl, rfl, ?_, rfl, rfl⟩
    -- No token is left over, so the warnings are empty whether they are asked for or not.
    cases warnTrailing <;> rfl
  | _ => cases hok

theorem run_replays_count :
    ∃ r r', (run (Registry.empty.add ⟨"t", "", "&int n &array<n> xs", .builtin .echo⟩) true .empty
        "t:+02 a b c").outcome = .ok r ∧
      (run (Registry.empty.add ⟨"t", "", "&int n &array<n> xs", .builtin .echo⟩) true .empty
        "t:2 a b").outcome = .ok r' ∧
      r'.ok = true ∧ r'.data = r.data ∧ r'.warnings = [] ∧
      r'.info? "consumed" = some (.int 3) ∧ r'.info? "tokens" = some (.int 3) := by
  have hcompile : Template.compile "&int n &array<n> xs"
      = .ok [⟨"n", .simple .int⟩, ⟨"xs", .array "n" none⟩] := by cbv
  have hrun : ∃ r, (run (Registry.empty.add ⟨"t", "", "&int n &array<n> xs", .builtin .echo⟩) true
      .empty "t:+02 a b c").outcome = .ok r ∧ r.ok = true ∧
        Fields.get? "bindings" r.data
          = some (.record [("n", .int 2), ("xs", .list [.text "a", .text "b"])]) :=
    ⟨_, by cbv, rfl, rfl⟩
  have hline : Addresses (Registry.empty.add ⟨"t", "", "&int n &array<n> xs", .builtin .echo⟩)
      "t:+02 a b c" ⟨"t", "", "&int n &array<n> xs", .builtin .echo⟩ ["+02", "a", "b", "c"] :=
    ⟨⟨by decide, "+02 a b c", by decide, by cbv⟩, by cbv⟩
  obtain ⟨r, hr, hok, hbindings⟩ := hrun
  obtain ⟨bindings, r', hbindings', hr', hrest⟩ := run_replays (Memo.sound_empty _)
    (Memo.sound_empty _) hline hcompile (by decide) (by decide) hr hok
  obtain rfl : bindings = [("n", .int 2), ("xs", .list [.text "a", .text "b"])] := by
    rw [hbindings'] at hbindings
    exact Value.record.inj (Option.some.inj hbindings)
  have hline' : rewritten "t" [⟨"n", .simple .int⟩, ⟨"xs", .array "n" none⟩]
      [("n", .int 2), ("xs", .list [.text "a", .text "b"])] = "t:2 a b" := by cbv
  rw [hline'] at hr'
  exact ⟨r, r', hr, hr', hrest⟩

end Dispatch

end LineCommands
