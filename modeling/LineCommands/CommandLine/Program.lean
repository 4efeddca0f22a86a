import LineCommands.CommandLine.Shell
import LineCommands.CommandLine.Usage
import LineCommands.Config.Settings

/-!
# The program

The program as a function of its arguments and its surroundings. It reads its own options, loads the
settings, and runs one of three commands. The registry is made from the settings when the command
needs it.

Options that are answered at once win over everything that comes after them: those of the program
over the settings, those of a command over its arguments. A command line that is not in order ends
the program with exit code 2.
-/

namespace LineCommands.CommandLine

/-- The surroundings of a program. -/
structure World where
  root : Node
  cwd : Path
  environment : Environment.Variables
  input : String

/-- How a program ends. -/
inductive Ending where
  | exit (code : Nat)
  | exception (e : Exception)
  /-- A whole number in the settings file has this number of digits, which are too many. -/
  | numberTooLong (digits : Nat)
  /-- The settings cannot be read from the environment. -/
  | notJson (e : Environment.NotJson)
  /-- The settings are not in order. -/
  | issues (is : List Issue)

/-- A program that has ended. The records carry the number of the input line that they belong to;
they are written as JSON if the settings say so. -/
structure Outcome where
  streams : Streams
  ending : Ending
  records : List (Option Nat × Log.Record)
  recordsAsJson : Bool := false

namespace Outcome

/-- A program that wrote something and ended well. -/
def print (text : String) : Outcome where
  streams := ⟨text, ""⟩
  ending := .exit 0
  records := []

/-- A program whose command line is not in order. -/
def usageError : Outcome where
  streams := ⟨"", usageHint⟩
  ending := .exit 2
  records := []

/-- A program that told an error and ended. -/
def failure (message : String) : Outcome where
  streams := ⟨"", s!"Error: {message}\n"⟩
  ending := .exit 1
  records := []

/-- A program that ended before it wrote anything. -/
def silent (ending : Ending) : Outcome where
  streams := .none
  ending := ending
  records := []

end Outcome

/-! ## Settings -/

/-- The flags of a call; each is given, as true or as false. -/
def flagFields (options : List RootOption) : Fields Value :=
  [("json_output", .bool (options.contains .json)), ("quiet", .bool (options.contains .quiet)),
    ("verbose", .bool (options.contains .verbose)), ("log_json", .bool (options.contains .logJson))]

/-- The settings file that the options name; of several the last counts. -/
def explicitConfig (options : List RootOption) : Option String :=
  options.reverse.findSome? fun
    | .config name => some name
    | _ => none

/-- Where a call takes its settings from. -/
def sources (w : World) (options : List RootOption) : Settings.Sources where
  root := w.root
  cwd := w.cwd
  environment := w.environment
  flags := flagFields options
  explicit := explicitConfig options
  start := none

/-- The form of output that settings ask for. -/
def outputMode (s : Settings) : OutputMode := ⟨s.jsonOutput, s.quiet, s.verbose⟩

/-- Adds declared commands to a registry. -/
def addCommands (r : Registry) : Fields CommandSpec → Except String Registry
  | [] => .ok r
  | (keyword, spec) :: rest =>
    match Builtin.ofName spec.action with
    | .error m => .error s!"[commands.{keyword}] {m}"
    | .ok b => addCommands (r.add ⟨keyword, spec.description, spec.template, .builtin b⟩) rest

/-- The session that settings describe. -/
def openSession (s : Settings) : Except String Session :=
  match addCommands .empty s.commands with
  | .error m => .error m
  | .ok registry => .ok ⟨registry, s.warnTrailing, .empty⟩

/-! ## Commands -/

/-- The outcome of an operation that wrote one result. -/
def single (records : List Log.Record) (outcome : Except Exception (Streams × Bool)) : Outcome :=
  let records := records.map ((none : Option Nat), ·)
  match outcome with
  | .error e => { Outcome.silent (.exception e) with records }
  | .ok (streams, ok) => { streams, records, ending := .exit (if ok then 0 else 1) }

/-- Runs a single line. -/
def runCommand (mode : OutputMode) (s : Session) (line : String) : Outcome :=
  let r := runLine mode s line
  single r.records r.outcome

/-- Describes a template. -/
def compileCommand (mode : OutputMode) (s : Session) (template : String) : Outcome :=
  let c := s.memo.compile template
  let result := Dispatch.describe template c.outcome
  single c.records <|
    match emit mode result with
    | .error e => .error (.page e)
    | .ok streams => .ok (streams, result.ok)

/-- Runs the lines of a text. -/
def shellCommand (mode : OutputMode) (stopOnError : Bool) (s : Session) (text : String) : Outcome :=
  let r := shell mode stopOnError s text
  let records := r.records.map fun (number, record) ↦ (some number, record)
  let ending := match r.exception with
    | some e => .exception e
    | none => .exit (if r.failures = 0 then 0 else 1)
  { streams := r.streams, ending, records }

/-- The text that the argument of the shell names: a file, or the input for a single hyphen. Both are
taken to be opened for universal newlines, so that a lone carriage return ends a line of the input
too. Where the input of a process ends lines at line feeds only, such a line goes on behind it. -/
def sourceText? (w : World) (name : String) : Option String :=
  if name = "-" then some w.input
  else if Location.namesDirectory name then none
  else ((Location.ofString name).locate? w.root w.cwd).bind w.root.textAt?

/-- Goes on with the session of the settings. -/
def withSession (s : Settings) (f : Session → Outcome) : Outcome :=
  match openSession s with
  | .error m => .failure m
  | .ok session => f session

/-- Runs a command on its own arguments. -/
def runSubcommand (w : World) (s : Settings) (c : Subcommand) (args : List String) : Outcome :=
  match parseArguments c.options true args with
  | none => .usageError
  | some (options, arguments) =>
    match options.find? CommandOption.isEager, c, arguments with
    | some .examples, c, _ => .print c.examples
    | some _, _, _ => .print usage
    | none, .run, [] => .usageError
    | none, .run, words =>
      withSession s fun session ↦ runCommand (outputMode s) session (" ".intercalate words)
    | none, .compile, [template] =>
      withSession s fun session ↦ compileCommand (outputMode s) session template
    | none, .compile, _ => .usageError
    | none, .shell, names =>
      if 1 < names.length then .usageError
      else
        match sourceText? w (names.headD "-") with
        | none => .usageError
        | some text =>
          withSession s fun session ↦
            shellCommand (outputMode s) (options.contains .stopOnError) session text

/-! ## The whole program -/

/-- Loads the settings and goes on with them. -/
def withSettings (w : World) (options : List RootOption) (f : Settings → Outcome) : Outcome :=
  match Settings.load (sources w options) with
  | .ok s => f s
  | .error .invalidFile => .failure Settings.invalidFileMessage
  | .error (.numberTooLong digits) => .silent (.numberTooLong digits)
  | .error (.notJson e) => .silent (.notJson e)
  | .error (.issues is) => .silent (.issues is)

/-- Keeps the records that the settings ask for, in the form that they ask for. -/
def keepRecords (s : Settings) (o : Outcome) : Outcome :=
  { o with
    records := o.records.filter fun r ↦ s.verbose || r.2.level == .warning
    recordsAsJson := s.logJson }

/-- Runs the program. -/
def run (w : World) (args : List String) : Outcome :=
  match parseArguments rootOptions false args with
  | none => .usageError
  | some (options, rest) =>
    match options.find? RootOption.isEager, rest with
    | some .version, _ => .print versionText
    | some .examples, _ => .print rootExamples
    | some _, _ => .print usage
    | none, [] => withSettings w options fun _ ↦ .print usage
    | none, name :: args =>
      match Subcommand.ofName? name with
      | none => .usageError
      | some c => withSettings w options fun s ↦ keepRecords s (runSubcommand w s c args)

end LineCommands.CommandLine
