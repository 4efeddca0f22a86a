import LineCommands.Binding
import LineCommands.Memo
import LineCommands.Registry
import LineCommands.Result
import LineCommands.Template.Compile

/-!
# Dispatching input lines

An input line is a keyword, a colon and tokens. It is split, its command is looked up, the template
of the command is compiled, the tokens are bound, and the action is called with the bindings. The
first stage that fails decides the result, and the action is reached only when none has failed.

Compiled templates are remembered, so a dispatch takes a memo and gives one back. Two things can
leave a dispatch without a result: a token that is no number in spite of its form, and an action
that fails.
-/

namespace LineCommands

/-- What leaves a dispatch in place of a result. -/
inductive Escape where
  | unreadableFloat (token : String)
  | action (e : ActionError)
deriving DecidableEq

/-- How an escape is told. -/
def Escape.message : Escape → String
  | unreadableFloat t => (Failure.unreadableFloat t).message
  | action e => e.message

/-- The keyword and the tokens of an input line. Only the first colon separates, and the keyword is
taken as it stands. -/
def splitLine (line : String) : Except Fault (String × List String) :=
  let cs := line.toList
  let keyword := cs.takeWhile (· != ':')
  match cs.drop keyword.length with
  | [] => .error (.missingSeparator line)
  | _ :: rest => .ok (String.ofList keyword, (Text.words rest).map String.ofList)

/-! ## Remembered templates -/

/-- A compilation: its result, what it logs, and the memo after it. -/
structure Compilation where
  outcome : Except Fault Template
  records : List Log.Record
  memo : Memo Template

/-- Compiles a template unless it is remembered. A remembered template logs nothing, and a template
that is not in order is not remembered. -/
def Memo.compile (m : Memo Template) (source : String) : Compilation :=
  match m.find? source with
  | some ds => ⟨.ok ds, [], m.remember source ds⟩
  | none =>
    match Template.compile source with
    | .ok ds => ⟨.ok ds, Template.compileRecords source, m.remember source ds⟩
    | .error f => ⟨.error f, Template.compileRecords source, m⟩

/-! ## Running a line -/

/-- A call of an action. -/
structure Call where
  action : Action
  bindings : Bindings

/-- A dispatch: its result or what left it, the calls that it made, what it logs, and the memo
after it. -/
structure Run where
  outcome : Except Escape Result
  calls : List Call
  records : List Log.Record
  memo : Memo Template

namespace Dispatch

/-- The record of a dispatch that ended in a fault. -/
def failureRecord (line : String) (f : Fault) : Log.Record :=
  ⟨.debug, .dispatcher, s!"Dispatch failed for {Text.quoted line}: {f.message}"⟩

/-- The record of a dispatch that succeeded. -/
def successRecord (keyword : String) (bindings : Bindings) : Log.Record :=
  ⟨.debug, .dispatcher, s!"Ran {Text.quoted keyword} with {bindings.length} binding(s)"⟩

/-- The metadata of a line that could be split. -/
def metadata (line keyword : String) (tokens : List String) : Fields Value :=
  [("line", .text line), ("keyword", .text keyword), ("tokens", .int tokens.length)]

/-- The result of a command whose action returned `output`. -/
def success (warnTrailing : Bool) (line keyword : String) (tokens : List String) (b : Bound)
    (output : Value) : Result where
  ok := true
  op := "run"
  data :=
    [("keyword", .text keyword), ("bindings", .record b.bindings)]
      ++ match output with
        | .absent => []
        | v => [("output", v)]
  warnings := if warnTrailing then b.warnings else []
  error := none
  metadata := some (metadata line keyword tokens ++ [("consumed", .int b.consumed)])

/-- Runs a command on tokens: binds them and calls the action. -/
def runCommand (warnTrailing : Bool) (line : String) (tokens : List String) (c : Command)
    (memo : Memo Template) : Run :=
  let info := metadata line c.keyword tokens
  let compilation := memo.compile c.template
  match compilation.outcome with
  | .error f =>
    ⟨.ok (.failure "run" f info), [], compilation.records ++ [failureRecord line f],
      compilation.memo⟩
  | .ok ds =>
    let records := compilation.records ++ ds.bindRecords tokens
    match ds.bind tokens with
    | .error (.fault f) =>
      ⟨.ok (.failure "run" f info), [], records ++ [failureRecord line f], compilation.memo⟩
    | .error (.unreadableFloat t) => ⟨.error (.unreadableFloat t), [], records, compilation.memo⟩
    | .ok b =>
      let calls := [⟨c.action, b.bindings⟩]
      match c.action.run b.bindings with
      | .error e => ⟨.error (.action e), calls, records, compilation.memo⟩
      | .ok output =>
        ⟨.ok (success warnTrailing line c.keyword tokens b output), calls,
          records ++ [successRecord c.keyword b.bindings], compilation.memo⟩

/-- Runs an input line. -/
def run (registry : Registry) (warnTrailing : Bool) (memo : Memo Template) (line : String) : Run :=
  match splitLine line with
  | .error f =>
    ⟨.ok (.failure "run" f [("line", .text line)]), [], [failureRecord line f], memo⟩
  | .ok (keyword, tokens) =>
    match registry.get? keyword with
    | none =>
      let f := Fault.unknownCommand keyword
      ⟨.ok (.failure "run" f (metadata line keyword tokens)), [], [failureRecord line f], memo⟩
    | some c => runCommand warnTrailing line tokens c memo

/-! ## Describing a template -/

/-- The result of describing the definitions of a template. -/
def describe (source : String) (outcome : Except Fault Template) : Result :=
  match outcome with
  | .error f => .failure "compile" f [("template", .text source)]
  | .ok ds =>
    { ok := true
      op := "compile"
      data :=
        [("template", .text source), ("count", .int ds.length),
          ("definitions", .list (ds.map fun d ↦ .record d.describe))]
      warnings := []
      error := none
      metadata := none }

end Dispatch

end LineCommands
