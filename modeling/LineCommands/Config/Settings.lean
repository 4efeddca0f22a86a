import LineCommands.Config.Discovery
import LineCommands.Config.Environment
import LineCommands.Toml.Reader

/-!
# Settings

The settings of the interpreter come from four sources. From the strongest to the weakest they are
the flags of the call, the environment, the settings file, and defaults. The first three are tables
that are merged leaf by leaf and then checked; a leaf that none of them has takes its default. Which
settings file is in use is always the outcome of the search for it.

The check goes through all of the table and collects everything that is not in order.
-/

namespace LineCommands

/-- A command as the settings declare it. -/
structure CommandSpec where
  description : String
  template : String
  action : String
deriving DecidableEq, Repr

/-- The settings. -/
structure Settings where
  configPath : Option Path
  jsonOutput : Bool
  quiet : Bool
  verbose : Bool
  logJson : Bool
  warnTrailing : Bool
  commands : Fields CommandSpec
deriving DecidableEq, Repr

/-- What can be wrong with a value of the settings. -/
inductive IssueKind where
  /-- A word or number that stands for neither truth value. -/
  | unreadableTruth
  /-- A value of a type that has no truth values. -/
  | notTruth
  | notText
  /-- No table where commands are declared. -/
  | notTable
  /-- No table where a section with fixed names is due. -/
  | notSection
  | unknownName
deriving DecidableEq, Repr

/-- The name of an issue. -/
def IssueKind.name : IssueKind → String
  | unreadableTruth => "bool_parsing"
  | notTruth => "bool_type"
  | notText => "string_type"
  | notTable => "dict_type"
  | notSection => "model_type"
  | unknownName => "extra_forbidden"

/-- Something that is not in order, and where. -/
structure Issue where
  location : List String
  kind : IssueKind
deriving DecidableEq, Repr

/-- A checked value, or all issues. -/
abbrev Checked (α : Type) := Except (List Issue) α

namespace Checked

/-- Checks two things and collects the issues of both. -/
def both {α β : Type} (a : Checked α) (b : Checked β) : Checked (α × β) :=
  match a, b with
  | .ok x, .ok y => .ok (x, y)
  | .ok _, .error js => .error js
  | .error is, .ok _ => .error is
  | .error is, .error js => .error (is ++ js)

/-- Checks a list and collects all issues. -/
def all {α β : Type} (check : α → Checked β) : List α → Checked (List β)
  | [] => .ok []
  | a :: rest => ((check a).both (all check rest)).map fun (b, bs) ↦ b :: bs

end Checked

namespace Settings

/-! ## Checking values -/

/-- The words for yes. -/
def trueWords : List String := ["1", "on", "t", "true", "y", "yes"]

/-- The words for no. -/
def falseWords : List String := ["0", "off", "f", "false", "n", "no"]

/-- The bound of whole numbers that are looked at: they have 64 bits and a sign. -/
def numberBound : Int := 9223372036854775808

/-- The truth value that a value stands for: itself, the numbers one and zero, or a word in any
case. A number with a fraction and one that is too large are of the wrong type. -/
def truth (location : List String) (v : Value) : Checked Bool :=
  match v with
  | .bool b => .ok b
  | .int n => if -numberBound ≤ n && n < numberBound then ofNumber n else wrongType
  | .text s =>
    let word := String.ofList (s.toList.map Char.toLower)
    if trueWords.contains word then .ok true
    else if falseWords.contains word then .ok false
    else unreadable
  | .float x =>
    match SignedDyadic.ofFloat? x with
    | some d =>
      let n := d.truncate
      if n.natAbs < numberBound && Binary64.ofDyadic ⟨d.negative, n.natAbs, 0⟩ == x then ofNumber n
      else wrongType
    | none => wrongType
  | _ => wrongType
where
  /-- A value of the right type that stands for neither. -/
  unreadable : Checked Bool := .error [⟨location, .unreadableTruth⟩]
  /-- A value that cannot stand for either. -/
  wrongType : Checked Bool := .error [⟨location, .notTruth⟩]
  /-- The truth value of a number. -/
  ofNumber (n : Int) : Checked Bool :=
    if n = 1 then .ok true else if n = 0 then .ok false else unreadable

/-- The text that a value is. -/
def text (location : List String) (v : Value) : Checked String :=
  match v with
  | .text s => .ok s
  | _ => .error [⟨location, .notText⟩]

/-- The value under a name, checked, or a default. -/
def leaf {α : Type} (check : List String → Value → Checked α) (default : α)
    (location : List String) (fields : Fields Value) (name : String) : Checked α :=
  match fields.get? name with
  | some v => check (location ++ [name]) v
  | none => .ok default

/-- A command. -/
def commandSpec (entry : String × Value) : Checked (String × CommandSpec) :=
  let (keyword, v) := entry
  let location := ["commands", keyword]
  match v with
  | .record fields =>
    ((leaf text "" location fields "description").both
      ((leaf text "" location fields "template").both
        (leaf text "echo" location fields "action"))).map
      fun (description, template, action) ↦ (keyword, ⟨description, template, action⟩)
  | _ => .error [⟨location, .notSection⟩]

/-- The commands. -/
def commandTable (fields : Fields Value) : Checked (Fields CommandSpec) :=
  match fields.get? "commands" with
  | none => .ok []
  | some (.record entries) => Checked.all commandSpec entries
  | some _ => .error [⟨["commands"], .notTable⟩]

/-- The only setting of the interpreter table. -/
def warnTrailingLeaf (fields : Fields Value) : Checked Bool :=
  match fields.get? "interpreter" with
  | none => .ok true
  | some (.record inner) => leaf truth true ["interpreter"] inner "warn_trailing"
  | some _ => .error [⟨["interpreter"], .notSection⟩]

/-- The names of all settings that a source may give. -/
def knownNames : List String := Environment.flagNames ++ ["interpreter", "commands"]

/-- The names that are no settings. -/
def extras (fields : Fields Value) : Checked Unit :=
  match fields.names.filter (!knownNames.contains ·) with
  | [] => .ok ()
  | names => .error (names.map fun name ↦ ⟨[name], .unknownName⟩)

/-- The settings of a merged table. -/
def ofFields (configPath : Option Path) (fields : Fields Value) : Checked Settings :=
  let flag := leaf truth false [] fields
  ((flag "json_output").both <| (flag "quiet").both <| (flag "verbose").both <|
    (flag "log_json").both <| (warnTrailingLeaf fields).both <| (commandTable fields).both <|
      extras fields).map
    fun (jsonOutput, quiet, verbose, logJson, warnTrailing, commands, _) ↦
      { configPath, jsonOutput, quiet, verbose, logJson, warnTrailing, commands }

/-! ## Flags -/

/-- The name of the setting that tells which settings file is in use. It cannot be set. -/
def fileSetting : String := "config_path"

/-- The setting that a flag is for. The case of its name does not matter. -/
def settingOfFlag (name : String) : String :=
  let lowered := Text.lower name
  if (fileSetting :: knownNames).contains lowered then lowered else name

/-- The table of flags by setting. Of several flags for one setting the first counts, and none
chooses the settings file. -/
def flagFields (flags : Fields Value) : Fields Value :=
  let table := flags.foldl
    (fun (table : Fields Value) (name, v) ↦
      let setting := settingOfFlag name
      if (table.get? setting).isSome then table else table.set setting v)
    []
  table.filter (·.1 != fileSetting)

/-! ## Loading -/

/-- Why there are no settings. -/
inductive LoadError where
  /-- The settings file is no TOML. -/
  | invalidFile
  /-- A whole number in the settings file has this number of digits, which are too many. -/
  | numberTooLong (digits : Nat)
  | notJson (e : Environment.NotJson)
  | issues (is : List Issue)
deriving DecidableEq

/-- What is told about a settings file that is no TOML. -/
def invalidFileMessage : String := "Invalid TOML in <config>"

/-- What the settings are loaded from. -/
structure Sources where
  root : Node
  cwd : Path
  environment : Environment.Variables
  /-- Where settings are given as flags. -/
  flags : Fields Value
  /-- An explicit settings file. -/
  explicit : Option String
  /-- Where the search for the settings file starts. -/
  start : Option String

namespace Sources

/-- The settings file in use. -/
def configPath (s : Sources) : Option Path :=
  Discovery.choose s.root s.cwd s.explicit
    ((s.environment.find? (·.1 == Discovery.variableName)).map (·.2)) s.start

/-- The table of the settings file; its name for a settings file has no effect. -/
def fileFields (s : Sources) : Except LoadError (Fields Value) :=
  match s.configPath.bind s.root.textAt? with
  | none => .ok []
  | some text =>
    match Toml.read text with
    | .ok fields => .ok (fields.filter (·.1 != fileSetting))
    | .error .malformed => .error .invalidFile
    | .error (.numberTooLong digits) => .error (.numberTooLong digits)

end Sources

/-- Loads the settings. -/
def load (s : Sources) : Except LoadError Settings :=
  match s.fileFields with
  | .error e => .error e
  | .ok file =>
    match Environment.settings s.environment with
    | .error e => .error (.notJson e)
    | .ok own =>
      match ofFields s.configPath (mergeFields file (mergeFields own (flagFields s.flags))) with
      | .error is => .error (.issues is)
      | .ok settings => .ok settings

end Settings

end LineCommands
