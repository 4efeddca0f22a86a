import LineCommands.Proofs.Dispatch.Line
import LineCommands.Proofs.Dispatch.Memory

/-!
# The course of a dispatch

A dispatch goes through its stages in order and ends at the first that fails, or with the result of
the action. `Ends` lists the ways it can end, each with all stages before it passed; every line ends
in one of them (`exists_ends`), and `run_of_ends` says that this is what the dispatch gives. What is
to be said of dispatches is said way by way, and the code of the dispatch is not opened again.
-/

namespace LineCommands

theorem Registry.keyword_of_get? {registry : Registry} {keyword : String} {c : Command}
    (h : registry.get? keyword = some c) : c.keyword = keyword := by
  simpa using List.find?_some h

/-- The line is one for the command, with these tokens. -/
structure Addresses (registry : Registry) (line : String) (c : Command) (tokens : List String) :
    Prop where
  split : SplitsInto line c.keyword tokens
  get : registry.get? c.keyword = some c

theorem SplitsInto.addresses {registry : Registry} {line keyword : String} {tokens : List String}
    {c : Command} (h : SplitsInto line keyword tokens) (hget : registry.get? keyword = some c) :
    Addresses registry line c tokens := by
  obtain rfl := Registry.keyword_of_get? hget
  exact ⟨h, hget⟩

theorem Addresses.unique {registry : Registry} {line : String} {c c' : Command}
    {tokens tokens' : List String} (h : Addresses registry line c tokens)
    (h' : Addresses registry line c' tokens') : c = c' ∧ tokens = tokens' := by
  obtain ⟨hkeyword, htokens⟩ := h.split.unique h'.split
  have hget := h.get
  rw [hkeyword, h'.get] at hget
  exact ⟨(Option.some.inj hget).symm, htokens⟩

namespace Dispatch

/-! ## Ways to end -/

/-- How the dispatch of a line ends, and what it calls on the way. -/
inductive Ends (registry : Registry) (warnTrailing : Bool) (line : String) :
    Except Escape Result → List Call → Prop
  /-- There is no colon. -/
  | format (hline : ':' ∉ line.toList) :
      Ends registry warnTrailing line
        (.ok (.failure "run" (.missingSeparator line) [("line", .text line)])) []
  /-- No command has the keyword. -/
  | command {keyword : String} {tokens : List String} (hline : SplitsInto line keyword tokens)
      (hget : registry.get? keyword = none) :
      Ends registry warnTrailing line
        (.ok (.failure "run" (.unknownCommand keyword) (metadata line keyword tokens))) []
  /-- The template of the command is not in order. -/
  | template {c : Command} {tokens : List String} {f : Fault}
      (hline : Addresses registry line c tokens) (hcompile : Template.compile c.template = .error f) :
      Ends registry warnTrailing line
        (.ok (.failure "run" f (metadata line c.keyword tokens))) []
  /-- The tokens do not bind. -/
  | binding {c : Command} {tokens : List String} {ds : Template} {f : Fault}
      (hline : Addresses registry line c tokens) (hcompile : Template.compile c.template = .ok ds)
      (hbind : ds.bind tokens = .error (.fault f)) :
      Ends registry warnTrailing line
        (.ok (.failure "run" f (metadata line c.keyword tokens))) []
  /-- Binding comes to a token that it cannot read. -/
  | unreadable {c : Command} {tokens : List String} {ds : Template} {t : String}
      (hline : Addresses registry line c tokens) (hcompile : Template.compile c.template = .ok ds)
      (hbind : ds.bind tokens = .error (.unreadableFloat t)) :
      Ends registry warnTrailing line (.error (.unreadableFloat t)) []
  /-- The action fails. -/
  | action {c : Command} {tokens : List String} {ds : Template} {b : Bound} {e : ActionError}
      (hline : Addresses registry line c tokens) (hcompile : Template.compile c.template = .ok ds)
      (hbind : ds.bind tokens = .ok b) (haction : c.action.run b.bindings = .error e) :
      Ends registry warnTrailing line (.error (.action e)) [⟨c.action, b.bindings⟩]
  /-- The action returns. -/
  | success {c : Command} {tokens : List String} {ds : Template} {b : Bound} {output : Value}
      (hline : Addresses registry line c tokens) (hcompile : Template.compile c.template = .ok ds)
      (hbind : ds.bind tokens = .ok b) (haction : c.action.run b.bindings = .ok output) :
      Ends registry warnTrailing line
        (.ok (success warnTrailing line c.keyword tokens b output)) [⟨c.action, b.bindings⟩]

variable {registry : Registry} {warnTrailing : Bool} {line : String}

/-- Every line ends in one of the ways. -/
theorem exists_ends (registry : Registry) (warnTrailing : Bool) (line : String) :
    ∃ outcome calls, Ends registry warnTrailing line outcome calls := by
  by_cases hcolon : ':' ∈ line.toList
  · obtain ⟨keyword, tokens, hline⟩ := exists_splitsInto hcolon
    cases hget : registry.get? keyword with
    | none => exact ⟨_, _, .command hline hget⟩
    | some c =>
      have haddress := hline.addresses hget
      cases hcompile : Template.compile c.template with
      | error f => exact ⟨_, _, .template haddress hcompile⟩
      | ok ds =>
        cases hbind : ds.bind tokens with
        | error e =>
          cases e with
          | fault f => exact ⟨_, _, .binding haddress hcompile hbind⟩
          | unreadableFloat t => exact ⟨_, _, .unreadable haddress hcompile hbind⟩
        | ok b =>
          cases haction : c.action.run b.bindings with
          | error e => exact ⟨_, _, .action haddress hcompile hbind haction⟩
          | ok output => exact ⟨_, _, .success haddress hcompile hbind haction⟩
  · exact ⟨_, _, .format hcolon⟩

/-! ## What the dispatch gives -/

theorem run_of_addresses {c : Command} {tokens : List String} (memo : Memo Template)
    (hline : Addresses registry line c tokens) :
    run registry warnTrailing memo line = runCommand warnTrailing line tokens c memo := by
  rw [run, splitLine_of_splitsInto hline.split]
  simp only [hline.get]

/-- **The dispatch ends as it must.** -/
theorem run_of_ends {memo : Memo Template} (hmemo : memo.Sound Template.compile)
    {outcome : Except Escape Result} {calls : List Call}
    (h : Ends registry warnTrailing line outcome calls) :
    (run registry warnTrailing memo line).outcome = outcome ∧
      (run registry warnTrailing memo line).calls = calls := by
  cases h with
  | format hline => rw [run, splitLine_of_notMem hline]; exact ⟨rfl, rfl⟩
  | command hline hget =>
    rw [run, splitLine_of_splitsInto hline]
    simp only [hget, and_self]
  | template hline hcompile =>
    rw [run_of_addresses memo hline]
    simp only [runCommand, hmemo.outcome_compile, hcompile, and_self]
  | binding hline hcompile hbind =>
    rw [run_of_addresses memo hline]
    simp only [runCommand, hmemo.outcome_compile, hcompile, hbind, and_self]
  | unreadable hline hcompile hbind =>
    rw [run_of_addresses memo hline]
    simp only [runCommand, hmemo.outcome_compile, hcompile, hbind, and_self]
  | action hline hcompile hbind haction =>
    rw [run_of_addresses memo hline]
    simp only [runCommand, hmemo.outcome_compile, hcompile, hbind, haction, and_self]
  | success hline hcompile hbind haction =>
    rw [run_of_addresses memo hline]
    simp only [runCommand, hmemo.outcome_compile, hcompile, hbind, haction, and_self]

theorem ends_run {memo : Memo Template} (hmemo : memo.Sound Template.compile)
    (registry : Registry) (warnTrailing : Bool) (line : String) :
    Ends registry warnTrailing line (run registry warnTrailing memo line).outcome
      (run registry warnTrailing memo line).calls := by
  obtain ⟨outcome, calls, h⟩ := exists_ends registry warnTrailing line
  obtain ⟨houtcome, hcalls⟩ := run_of_ends hmemo h
  rwa [houtcome, hcalls]

theorem Ends.unique {outcome outcome' : Except Escape Result} {calls calls' : List Call}
    (h : Ends registry warnTrailing line outcome calls)
    (h' : Ends registry warnTrailing line outcome' calls') :
    outcome = outcome' ∧ calls = calls' := by
  obtain ⟨houtcome, hcalls⟩ := run_of_ends (Memo.sound_empty Template.compile) h
  obtain ⟨houtcome', hcalls'⟩ := run_of_ends (Memo.sound_empty Template.compile) h'
  exact ⟨houtcome.symm.trans houtcome', hcalls.symm.trans hcalls'⟩

end Dispatch

end LineCommands
