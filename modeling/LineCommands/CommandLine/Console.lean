import LineCommands.CommandLine.Program

/-!
# What a call reads and leaves behind

The program is a function of its surroundings. Here stands which files a call can ask for, so that
the surroundings can be gathered beforehand, and what a program that has ended shows on the console:
its exit code, and what it writes beside its results.
-/

namespace LineCommands.CommandLine

/-! ## Before a call -/

/-- The names of the texts that the arguments give to the shell. -/
def shellSources : List String → List String
  | [] => []
  | name :: args =>
    match Subcommand.ofName? name with
    | some .shell =>
      match parseArguments Subcommand.shell.options true args with
      | none => []
      | some (_, []) => ["-"]
      | some (_, names) => names
    | _ => []

/-- The names of the texts that a call can ask for: a settings file and the texts for the shell. -/
def namedSources (args : List String) : List String :=
  match parseArguments rootOptions false args with
  | none => []
  | some (options, rest) => (explicitConfig options).toList ++ shellSources rest

/-- The name of an absolute path. -/
def absoluteName (p : Path) : String := "/" ++ "/".intercalate p

/-- The names of the settings files that a call can ask for without naming them. -/
def settingsSources (cwd : Path) (environment : Environment.Variables) : List String :=
  (environment.filter (·.1 == Discovery.variableName)).map (·.2)
    ++ (Discovery.candidates cwd).map absoluteName

/-- The variable that a text sets: a name, an equals sign and a value. -/
def readVariable? (s : String) : Option (String × String) :=
  match s.toList.span (· != '=') with
  | (_, []) => none
  | (name, _ :: value) => some (String.ofList name, String.ofList value)

/-! ## After a call -/

/-- The exit code of a program. -/
def Ending.exitCode : Ending → Nat
  | .exit code => code
  | _ => 1

/-- How an issue is told. -/
def issueText (i : Issue) : String := ".".intercalate i.location ++ ": " ++ i.kind.name

/-- What is told about an ending that is no exit. -/
def Ending.complaint : Ending → List String
  | .exit _ => []
  | .exception (.escape e) => [e.message]
  | .exception (.page e) => [e.message]
  | .numberTooLong digits => [Toml.numberTooLongMessage digits]
  | .notJson e => [e.message]
  | .issues is => is.map issueText

/-- A record as one line of JSON. -/
def recordAsJson (line : Option Nat) (r : Log.Record) : String :=
  let level := match r.level with
    | .debug => "debug"
    | .warning => "warning"
  let number := match line with
    | none => []
    | some n => ["\x22lineno\x22: " ++ toString n]
  let texts := [("event", r.text), ("level", level), ("logger", r.source.loggerName)].map
    fun (name, text) ↦ Json.string name ++ ": " ++ Json.string text
  "\x7b" ++ ", ".intercalate (texts ++ number) ++ "\x7d"

/-- The lines of a program that has ended that come before its second stream: its records. -/
def Outcome.recordLines (o : Outcome) : List String :=
  o.records.map fun (line, r) ↦
    if o.recordsAsJson then recordAsJson line r else r.source.loggerName ++ ": " ++ r.text

/-- All that a program writes beside its results. -/
def Outcome.sideText (o : Outcome) : String :=
  "".intercalate (o.recordLines.map (· ++ "\n")) ++ o.streams.err
    ++ "".intercalate (o.ending.complaint.map (· ++ "\n"))

end LineCommands.CommandLine
