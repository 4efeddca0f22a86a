import LineCommands.Output.Format
import LineCommands.Session

/-!
# The shell

The shell dispatches the lines of a text one after the other. Blank lines and lines that begin with
`#` are skipped; they still count where lines are numbered. The result of a line goes to one of two
streams: results of success and nothing else to the first; failures, and warnings unless the output
is JSON, to the second. A failing line does not stop the shell unless that is asked for.

`runLine` is the dispatch of one line with its output, which is also all that the command for a
single line does; `shellFrom` adds the outputs up.
-/

namespace LineCommands.CommandLine

/-- What is written to the two streams. -/
structure Streams where
  out : String
  err : String
deriving DecidableEq, Repr

namespace Streams

/-- Nothing. -/
def none : Streams := ⟨"", ""⟩

/-- One after the other. -/
def append (a b : Streams) : Streams := ⟨a.out ++ b.out, a.err ++ b.err⟩

end Streams

/-- What ends a program in place of an exit code. -/
inductive Exception where
  | escape (e : Escape)
  | page (e : PageError)

/-- Writes a result. -/
def emit (mode : OutputMode) (r : Result) : Except PageError Streams :=
  match r.format mode with
  | .error e => .error e
  | .ok text =>
    if r.ok then
      let warnings := if mode.json then [] else r.warnings.map fun w ↦ s!"WARNING: {w}\n"
      .ok ⟨text ++ "\n", "".intercalate warnings⟩
    else .ok ⟨"", text ++ "\n"⟩

/-! ## One line -/

/-- A line that was dispatched: what it wrote and whether it succeeded, or what it ended in; its
records; and the session after it. -/
structure LineRun where
  outcome : Except Exception (Streams × Bool)
  records : List Log.Record
  session : Session

/-- Dispatches a line and writes its result. -/
def runLine (mode : OutputMode) (s : Session) (line : String) : LineRun :=
  let r := Dispatch.run s.registry s.warnTrailing s.memo line
  let outcome := match r.outcome with
    | .error e => .error (.escape e)
    | .ok result =>
      match emit mode result with
      | .error e => .error (.page e)
      | .ok streams => .ok (streams, result.ok)
  ⟨outcome, r.records, { s with memo := r.memo }⟩

/-! ## Many lines -/

/-- The mark of a comment. -/
def commentMark : Char := '#'

/-- The lines of a text that are dispatched, without the blanks around them, each with its number
among all lines from one on. -/
def dispatchedFrom (number : Nat) : List (List Char) → List (Nat × String)
  | [] => []
  | raw :: rest =>
    let line := Text.trim raw
    if line.isEmpty || line.head? == some commentMark then dispatchedFrom (number + 1) rest
    else (number, String.ofList line) :: dispatchedFrom (number + 1) rest

/-- The lines of a text that are dispatched, with their numbers. -/
def dispatched (text : String) : List (Nat × String) := dispatchedFrom 1 (Text.lines text.toList)

/-- A shell that has ended: what it wrote, how many lines failed, the records with the number of
the line that each belongs to, and what it ended in if not by itself. -/
structure ShellRun where
  streams : Streams
  failures : Nat
  records : List (Nat × Log.Record)
  exception : Option Exception

/-- Dispatches numbered lines. -/
def shellFrom (mode : OutputMode) (stopOnError : Bool) (s : Session) :
    List (Nat × String) → ShellRun
  | [] => ⟨.none, 0, [], none⟩
  | (number, line) :: rest =>
    let r := runLine mode s line
    let records := r.records.map (number, ·)
    match r.outcome with
    | .error e => ⟨.none, 0, records, some e⟩
    | .ok (streams, true) =>
      let after := shellFrom mode stopOnError r.session rest
      { after with streams := streams.append after.streams, records := records ++ after.records }
    | .ok (streams, false) =>
      if stopOnError then ⟨streams, 1, records, none⟩
      else
        let after := shellFrom mode stopOnError r.session rest
        { streams := streams.append after.streams
          failures := after.failures + 1
          records := records ++ after.records
          exception := after.exception }

/-- Dispatches the lines of a text. -/
def shell (mode : OutputMode) (stopOnError : Bool) (s : Session) (text : String) : ShellRun :=
  shellFrom mode stopOnError s (dispatched text)

end LineCommands.CommandLine
