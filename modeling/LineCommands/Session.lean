import LineCommands.Dispatch

/-!
# Sessions

A session is a registry in use: commands are registered and looked up, lines are run and templates
compiled, in any order. Its state is the registry, whether trailing tokens are warned about, and the
memo of compiled templates. `perform` does one step and says what it answers, what it calls and what
it logs.
-/

namespace LineCommands

/-- The state of a session. -/
structure Session where
  registry : Registry
  warnTrailing : Bool
  memo : Memo Template

namespace Session

/-- A session without commands. -/
def start (warnTrailing : Bool) : Session := ⟨.empty, warnTrailing, .empty⟩

/-- A step of a session. -/
inductive Step where
  | add (command : Command)
  | warnTrailing (on : Bool)
  | get (keyword : String)
  | contains (keyword : String)
  | keywords
  | size
  | list
  | run (line : String)
  | compile (template : String)
  /-- Compiles the template of a registered command. -/
  | compileCommand (keyword : String)

/-- What a step answers. -/
inductive Answer where
  | added (command : Command)
  | done
  | command (found : Option Command)
  | truth (b : Bool)
  | keywords (ks : List String)
  | number (n : Nat)
  | commands (cs : List Command)
  | result (r : Result)
  | escaped (e : Escape)
  | template (ds : Template)
  | fault (f : Fault)

/-- A step done: its answer, the calls that it made, what it logs, and the session after it. -/
structure Performed where
  answer : Answer
  calls : List Call
  records : List Log.Record
  session : Session

/-- A step that leaves the session as it is and logs nothing. -/
def lookUp (s : Session) (a : Answer) : Performed := ⟨a, [], [], s⟩

/-- Does one step. -/
def perform (s : Session) : Step → Performed
  | .add c => ⟨.added c, [], s.registry.addRecords c, { s with registry := s.registry.add c }⟩
  | .warnTrailing on => ⟨.done, [], [], { s with warnTrailing := on }⟩
  | .get k => s.lookUp (.command (s.registry.get? k))
  | .contains k => s.lookUp (.truth (s.registry.contains k))
  | .keywords => s.lookUp (.keywords s.registry.keywords)
  | .size => s.lookUp (.number s.registry.size)
  | .list => s.lookUp (.commands s.registry.commands)
  | .run line =>
    let r := Dispatch.run s.registry s.warnTrailing s.memo line
    let answer := match r.outcome with
      | .ok result => Answer.result result
      | .error e => .escaped e
    ⟨answer, r.calls, r.records, { s with memo := r.memo }⟩
  | .compile template =>
    let c := s.memo.compile template
    ⟨.result (Dispatch.describe template c.outcome), [], c.records, { s with memo := c.memo }⟩
  | .compileCommand k =>
    match s.registry.get? k with
    | none => s.lookUp (.fault (.unknownCommand k))
    | some command =>
      let c := s.memo.compile command.template
      let answer := match c.outcome with
        | .ok ds => Answer.template ds
        | .error f => .fault f
      ⟨answer, [], c.records, { s with memo := c.memo }⟩

/-- Does steps one after the other. -/
def performAll (s : Session) : List Step → List Performed
  | [] => []
  | step :: rest =>
    let p := s.perform step
    p :: performAll p.session rest

end Session

end LineCommands
