import LineCommands.Session

/-!
# What a memo holds

A memo is sound when every template in it is the one that compiling gives. Compiling with a sound
memo is compiling, and leaves the memo sound; nothing else in a session touches it. So the memo of a
session is sound at every step, and a statement about sound memos is one about all sessions.
-/

namespace LineCommands

namespace Memo

variable {memo : Memo Template}

/-- With a sound memo a template is compiled as without. -/
theorem Sound.outcome_compile (hmemo : memo.Sound Template.compile) (source : String) :
    (memo.compile source).outcome = Template.compile source := by
  rw [Memo.compile]
  cases hfind : memo.find? source with
  | some ds => exact (hmemo.find? hfind).symm
  | none =>
    cases Template.compile source with
    | ok ds => rfl
    | error f => rfl

theorem Sound.memo_compile (hmemo : memo.Sound Template.compile) (source : String) :
    (memo.compile source).memo.Sound Template.compile := by
  rw [Memo.compile]
  cases hfind : memo.find? source with
  | some ds => exact hmemo.remember (hmemo.find? hfind)
  | none =>
    cases hcompile : Template.compile source with
    | ok ds => exact hmemo.remember hcompile
    | error f => exact hmemo

end Memo

namespace Dispatch

variable {memo : Memo Template}

theorem memo_runCommand (warnTrailing : Bool) (line : String) (tokens : List String) (c : Command)
    (memo : Memo Template) :
    (runCommand warnTrailing line tokens c memo).memo = (memo.compile c.template).memo := by
  simp only [runCommand]
  split
  · rfl
  · split
    · rfl
    · rfl
    · split
      · rfl
      · rfl

theorem sound_memo_run (hmemo : memo.Sound Template.compile) (registry : Registry)
    (warnTrailing : Bool) (line : String) :
    (run registry warnTrailing memo line).memo.Sound Template.compile := by
  rw [run]
  split
  · exact hmemo
  · split
    · exact hmemo
    · rw [memo_runCommand]
      exact hmemo.memo_compile _

end Dispatch

namespace Session

theorem sound_perform {s : Session} (hmemo : s.memo.Sound Template.compile) (step : Step) :
    (s.perform step).session.memo.Sound Template.compile := by
  cases step with
  | run line => exact Dispatch.sound_memo_run hmemo s.registry s.warnTrailing line
  | compile template => exact hmemo.memo_compile template
  | compileCommand keyword =>
    rw [perform]
    split
    · exact hmemo
    · exact hmemo.memo_compile _
  | _ => exact hmemo

/-- **Sessions.** At every step of a session the memo is sound. -/
theorem sound_performAll {s : Session} (hmemo : s.memo.Sound Template.compile) (steps : List Step) :
    ∀ p ∈ s.performAll steps, p.session.memo.Sound Template.compile := by
  induction steps generalizing s with
  | nil => exact fun p hp ↦ absurd hp List.not_mem_nil
  | cons step steps ih =>
    intro p hp
    have hstep := sound_perform hmemo step
    rcases List.mem_cons.mp hp with rfl | hp
    · exact hstep
    · exact ih hstep p hp

end Session

end LineCommands
