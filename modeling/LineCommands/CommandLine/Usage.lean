import LineCommands.CommandLine.Options

/-!
# Commands, options and texts of the program

What the program accepts on its command line and what it says about itself.
-/

namespace LineCommands.CommandLine

/-- The name of the program. -/
def programName : String := "cmdcore"

/-- The version of the program. -/
def version : String := "0.1.0"

/-- The text for the version option. -/
def versionText : String := s!"{programName}, version {version}\n"

/-! ## Options -/

/-- The options of the program itself. -/
inductive RootOption where
  | json | quiet | verbose | logJson
  | config (name : String)
  | version | examples | help
deriving DecidableEq, Repr

/-- How the options of the program are written. -/
def rootOptions : OptionSpecs RootOption :=
  [⟨none, "json", .switch .json⟩, ⟨some 'q', "quiet", .switch .quiet⟩,
    ⟨some 'v', "verbose", .switch .verbose⟩, ⟨none, "log-json", .switch .logJson⟩,
    ⟨some 'c', "config", .valued .config⟩, ⟨none, "version", .switch .version⟩,
    ⟨none, "examples", .switch .examples⟩, ⟨none, "help", .switch .help⟩]

/-- The option is answered at once, whatever else is asked for. -/
def RootOption.isEager : RootOption → Bool
  | version | examples | help => true
  | _ => false

/-- The commands of the program. -/
inductive Subcommand where
  | run | shell | compile
deriving DecidableEq, Repr

namespace Subcommand

/-- The name of a command. -/
def name : Subcommand → String
  | run => "run"
  | shell => "shell"
  | compile => "compile"

/-- The command of this name. -/
def ofName? (s : String) : Option Subcommand := [run, shell, compile].find? (·.name == s)

end Subcommand

/-- The options of commands. -/
inductive CommandOption where
  | stopOnError | examples | help
deriving DecidableEq, Repr

/-- The option is answered at once, whatever else is asked for. -/
def CommandOption.isEager : CommandOption → Bool
  | examples | help => true
  | stopOnError => false

/-- How the options of a command are written. -/
def Subcommand.options (c : Subcommand) : OptionSpecs CommandOption :=
  (if c = .shell then [⟨none, "stop-on-error", .switch .stopOnError⟩] else [])
    ++ [⟨none, "examples", .switch .examples⟩, ⟨none, "help", .switch .help⟩]

/-! ## Texts -/

/-- The heading of examples and the examples below it. -/
def examplesText (command : String) (examples : List String) : String :=
  s!"Examples for '{command}':\n\n" ++ "\n".intercalate examples ++ "\n"

/-- The examples of the program. -/
def rootExamples : String :=
  examplesText programName
    ["  cmdcore compile '&int n &array<n,string> items'", "  cmdcore run list:2 a b",
      "  cmdcore -c ./cmdcore.toml shell session.txt"]

/-- The examples of a command. -/
def Subcommand.examples (c : Subcommand) : String :=
  examplesText s!"{programName} {c.name}" <|
    match c with
    | run =>
      ["  cmdcore run greet:30", "  cmdcore run 'list:2 apples pears'",
        "  cmdcore --json run sum:3 4", "  cmdcore -q run sum:3 4"]
    | shell =>
      ["  printf 'greet:30\\nsum:3 4\\n' | cmdcore shell", "  cmdcore shell session.txt",
        "  cmdcore --json shell < session.txt"]
    | compile =>
      ["  cmdcore compile '&string name &int age'",
        "  cmdcore compile '&int n &array<n*2,float> points'",
        "  cmdcore --json compile '&array<3> words'"]

/-- The summary of the program. -/
def usage : String :=
  s!"Usage: {programName} [OPTIONS] COMMAND [ARGS]...\n\n"
    ++ "  Typed command-line interpreter driven by argument templates.\n\n"
    ++ "Commands:\n  compile  Compile a template and list its argument definitions.\n"
    ++ "  run      Run a line against the configured commands.\n"
    ++ "  shell    Dispatch every line of a text.\n"

/-- What is told when a command line is not in order. -/
def usageHint : String := s!"Error: the arguments are not in order. Try {programName} --help.\n"

end LineCommands.CommandLine
