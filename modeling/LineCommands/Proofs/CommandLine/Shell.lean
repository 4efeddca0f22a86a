import LineCommands.CommandLine.Program
import LineCommands.Proofs.Dispatch.Records
import LineCommands.Proofs.Output.Pages
import LineCommands.Proofs.Session.Statelessness

/-!
# The shell as a fold of single runs

The shell dispatches the lines of a text that are neither blank nor comments, and when it is to stop
at an error, those up to the first that fails. What it writes is what single runs of these lines
write, one after the other, and it counts those that fail. A single run begins with nothing
remembered and the shell goes on with what the lines before have left; that this makes no difference
is `Session.Alike`.
-/

namespace LineCommands.CommandLine

/-! ## Which lines -/

/-- The elements up to the first that has the property, which is included. -/
def upTo {α : Type} (p : α → Bool) : List α → List α
  | [] => []
  | x :: xs => if p x then [x] else x :: upTo p xs

theorem map_upTo {α β : Type} (f : α → β) (p : β → Bool) (xs : List α) :
    (upTo (fun x ↦ p (f x)) xs).map f = upTo p (xs.map f) := by
  induction xs with
  | nil => rfl
  | cons x xs ih =>
    rw [upTo, List.map_cons, upTo]
    split
    · rfl
    · exact congrArg (f x :: ·) ih

/-- The line is blank or a comment. -/
def isSkipped (line : List Char) : Bool := line.isEmpty || line.head? == some commentMark

/-- The lines of a text that are neither blank nor comments, without the blanks around them. -/
def commandLines (text : String) : List String :=
  (((Text.lines text.toList).map Text.trim).filter (!isSkipped ·)).map String.ofList

theorem map_dispatchedFrom (number : Nat) (lines : List (List Char)) :
    (dispatchedFrom number lines).map (·.2)
      = ((lines.map Text.trim).filter (!isSkipped ·)).map String.ofList := by
  induction lines generalizing number with
  | nil => rfl
  | cons raw lines ih =>
    have hskip : ((Text.trim raw).isEmpty || (Text.trim raw).head? == some commentMark)
      = isSkipped (Text.trim raw) := rfl
    simp only [dispatchedFrom, hskip, List.map_cons, List.filter_cons]
    cases isSkipped (Text.trim raw) with
    | true => exact ih (number + 1)
    | false => exact congrArg (String.ofList (Text.trim raw) :: ·) (ih (number + 1))

theorem map_dispatched (text : String) : (dispatched text).map (·.2) = commandLines text :=
  map_dispatchedFrom 1 _

/-! ## One line -/

/-- The dispatch of the line has this result. -/
def HasResult (s : Session) (line : String) (r : Result) : Prop :=
  (Dispatch.run s.registry s.warnTrailing .empty line).outcome = .ok r

/-- The dispatch of the line has a result, and fails. -/
def lineFails (s : Session) (line : String) : Bool :=
  match (Dispatch.run s.registry s.warnTrailing .empty line).outcome with
  | .ok r => !r.ok
  | .error _ => false

/-- What is written of a result with this text: the text of a success to the first stream and its
warnings to the second, unless they are in the text; and the text of a failure to the second. -/
def written (mode : OutputMode) (r : Result) (text : String) : Streams :=
  if r.ok then
    ⟨text ++ "\n",
      if mode.json then "" else "".intercalate (r.warnings.map fun w ↦ s!"WARNING: {w}\n")⟩
  else ⟨"", text ++ "\n"⟩

theorem emit_of_format {mode : OutputMode} {r : Result} {text : String}
    (h : r.format mode = .ok text) : emit mode r = .ok (written mode r text) := by
  simp only [emit, written, h]
  split
  · cases mode.json with
    | true => rfl
    | false => rfl
  · rfl

variable {mode : OutputMode} {stop : Bool} {session s : Session} {line : String} {r : Result}

theorem HasResult.ends (h : HasResult session line r) :
    ∃ calls, Dispatch.Ends session.registry session.warnTrailing line (.ok r) calls := by
  have hends := Dispatch.ends_run (Memo.sound_empty Template.compile) session.registry
    session.warnTrailing line
  rw [HasResult] at h
  rw [h] at hends
  exact ⟨_, hends⟩

theorem HasResult.lineFails (h : HasResult session line r) : lineFails session line = !r.ok := by
  rw [HasResult] at h
  rw [CommandLine.lineFails, h]

theorem HasResult.exists_format (h : HasResult session line r) (mode : OutputMode) :
    ∃ text, r.format mode = .ok text := by
  obtain ⟨calls, hends⟩ := h.ends
  rw [Result.format]
  split
  · exact ⟨_, rfl⟩
  · split
    · exact ⟨_, rfl⟩
    · exact Dispatch.exists_page_of_ends hends mode.verbose

theorem HasResult.runLine (h : HasResult session line r) {text : String}
    (htext : r.format mode = .ok text) (hs : s.Alike session) :
    (runLine mode s line).outcome = .ok (written mode r text, r.ok) := by
  obtain ⟨calls, hends⟩ := h.ends
  rw [← hs.registry, ← hs.warnTrailing] at hends
  simp only [CommandLine.runLine, (Dispatch.run_of_ends hs.sound hends).1, emit_of_format htext]

/-- After a line a session is still like the one that it was like before. -/
theorem alike_runLine (hs : s.Alike session) (mode : OutputMode) (line : String) :
    (runLine mode s line).session.Alike session where
  registry := hs.registry
  warnTrailing := hs.warnTrailing
  sound := Dispatch.sound_memo_run hs.sound s.registry s.warnTrailing line
  sound' := hs.sound'

/-- The dispatcher leaves one record of a line, and in every session like this one the same. -/
theorem HasResult.exists_ofDispatcher (h : HasResult session line r) (mode : OutputMode) :
    ∃ record, ∀ s : Session, s.Alike session →
      Log.ofDispatcher (CommandLine.runLine mode s line).records = [record] := by
  obtain ⟨calls, hends⟩ := h.ends
  obtain ⟨record, hrecord⟩ := Dispatch.exists_ofDispatcher_run hends
  refine ⟨record, fun s hs ↦ ?_⟩
  have hrun := hrecord s.memo hs.sound
  rwa [← hs.registry, ← hs.warnTrailing] at hrun

/-! ## Many lines -/

namespace Streams

/-- Streams one after the other. -/
def joined (parts : List Streams) : Streams := parts.foldr append none

theorem out_joined (parts : List Streams) : (joined parts).out = String.join (parts.map (·.out)) := by
  induction parts with
  | nil => rfl
  | cons a parts ih =>
    rw [List.map_cons, String.join_cons, ← ih]
    rfl

theorem err_joined (parts : List Streams) : (joined parts).err = String.join (parts.map (·.err)) := by
  induction parts with
  | nil => rfl
  | cons a parts ih =>
    rw [List.map_cons, String.join_cons, ← ih]
    rfl

theorem append_none (a : Streams) : a.append none = a := by
  rw [append, none, String.append_empty, String.append_empty]

end Streams

/-- The records that dispatches left, with the numbers of their lines. -/
def dispatches (records : List (Nat × Log.Record)) : List (Nat × Log.Record) :=
  records.filter (·.2.source == .dispatcher)

theorem dispatches_append (number : Nat) (records : List Log.Record)
    (more : List (Nat × Log.Record)) :
    dispatches (records.map (number, ·) ++ more)
      = (Log.ofDispatcher records).map (number, ·) ++ dispatches more := by
  rw [dispatches, List.filter_append, List.filter_map]
  rfl

/-- A shell that ran these lines, given with their numbers, and no others: each was dispatched once
and in order, and what was written and counted is what single runs of the lines write and count. -/
structure Folds (mode : OutputMode) (session : Session) (lines : List (Nat × String))
    (run : ShellRun) : Prop where
  streams : run.streams
    = Streams.joined (lines.map fun l ↦ (runCommand mode session l.2).streams)
  failures : run.failures = lines.countP (lineFails session ·.2)
  exception : run.exception = none
  dispatches : List.Forall₂
    (fun (l : Nat × String) (record : Nat × Log.Record) ↦ record.1 = l.1 ∧
      Log.ofDispatcher (runLine mode session l.2).records = [record.2])
    lines (dispatches run.records)

namespace Folds

theorem nil : Folds mode session [] ⟨.none, 0, [], none⟩ := ⟨rfl, rfl, rfl, .nil⟩

theorem cons (number : Nat) {lines : List (Nat × String)} {after : ShellRun} {text : String}
    (hs : s.Alike session) (hr : HasResult session line r) (htext : r.format mode = .ok text)
    (hafter : Folds mode session lines after) :
    Folds mode session ((number, line) :: lines)
      { streams := (written mode r text).append after.streams
        failures := after.failures + if r.ok then 0 else 1
        records := (runLine mode s line).records.map (number, ·) ++ after.records
        exception := after.exception } where
  streams := by
    rw [List.map_cons, runCommand, hr.runLine htext hs.right, hafter.streams]
    rfl
  failures := by
    rw [List.countP_cons, hafter.failures, hr.lineFails]
    cases r.ok with
    | true => rfl
    | false => rfl
  exception := hafter.exception
  dispatches := by
    obtain ⟨record, hrecord⟩ := hr.exists_ofDispatcher mode
    rw [dispatches_append, hrecord s hs]
    exact .cons ⟨rfl, hrecord session hs.right⟩ hafter.dispatches

end Folds

theorem shellFrom_cons {number : Nat} {streams : Streams} {ok : Bool}
    (h : (runLine mode s line).outcome = .ok (streams, ok)) (lines : List (Nat × String)) :
    shellFrom mode stop s ((number, line) :: lines) =
      let after := if stop && !ok then ⟨.none, 0, [], none⟩
        else shellFrom mode stop (runLine mode s line).session lines
      { streams := streams.append after.streams
        failures := after.failures + if ok then 0 else 1
        records := (runLine mode s line).records.map (number, ·) ++ after.records
        exception := after.exception } := by
  rw [shellFrom, h]
  cases ok with
  | true => simp
  | false =>
    cases stop with
    | true => simp [Streams.append_none]
    | false => simp

/-- The lines that a shell comes to: all of them, or those up to the first that fails. -/
def reached (session : Session) (stop : Bool) (lines : List (Nat × String)) : List (Nat × String) :=
  upTo (fun l ↦ stop && lineFails session l.2) lines

/-- The lines of a text that a shell comes to. -/
def shellLines (session : Session) (stop : Bool) (text : String) : List String :=
  upTo (fun line ↦ stop && lineFails session line) (commandLines text)

theorem map_reached (session : Session) (stop : Bool) (text : String) :
    (reached session stop (dispatched text)).map (·.2) = shellLines session stop text := by
  rw [shellLines, ← map_dispatched]
  exact map_upTo _ (fun line ↦ stop && lineFails session line) (dispatched text)

/-- **The shell.** Where the lines that it comes to have results, the shell folds their runs. -/
theorem folds_shellFrom (hs : s.Alike session) (lines : List (Nat × String))
    (hresults : ∀ l ∈ reached session stop lines, ∃ r, HasResult session l.2 r) :
    Folds mode session (reached session stop lines) (shellFrom mode stop s lines) := by
  induction lines generalizing s with
  | nil => exact .nil
  | cons l lines ih =>
    obtain ⟨number, line⟩ := l
    rw [reached, upTo] at hresults ⊢
    by_cases hstop : (stop && lineFails session line) = true
    · rw [if_pos hstop] at hresults ⊢
      obtain ⟨r, hr⟩ : ∃ r, HasResult session line r :=
        hresults (number, line) List.mem_cons_self
      obtain ⟨text, htext⟩ := hr.exists_format mode
      rw [hr.lineFails] at hstop
      rw [shellFrom_cons (hr.runLine htext hs), if_pos hstop]
      exact .cons number hs hr htext .nil
    · rw [if_neg hstop] at hresults ⊢
      obtain ⟨hfirst, hrest⟩ := List.forall_mem_cons.mp hresults
      obtain ⟨r, hr⟩ : ∃ r, HasResult session line r := hfirst
      obtain ⟨text, htext⟩ := hr.exists_format mode
      rw [hr.lineFails] at hstop
      rw [shellFrom_cons (hr.runLine htext hs), if_neg hstop]
      exact .cons number hs hr htext (ih (alike_runLine hs mode line) hrest)

end LineCommands.CommandLine
