import LineCommands.Config.Merge
import LineCommands.Json.Reader
import LineCommands.Text.LowerCase

/-!
# Settings from the environment

A setting is read from the variable with its name after a prefix, without regard to case. The two
settings that are tables can be given in one variable as JSON, in several variables whose names go
on with two underscores and the name of a part, or both ways; the parts then stand above the JSON.

A variable for a whole command is taken as JSON if it can be read as such, and as a text otherwise.
A variable for a field of a command is a text, whatever it looks like.
-/

namespace LineCommands.Environment

/-- Variables with their values. -/
abbrev Variables := List (String × String)

/-- What the names of all variables begin with. -/
def namePrefix : String := "cmdcore_"

/-- The settings that are truth values. -/
def flagNames : List String := ["json_output", "quiet", "verbose", "log_json"]

/-- The variables by name in lower case. Of variables with one name the last counts. -/
def normalized (vars : Variables) : Fields String :=
  Fields.ofPairs (vars.map fun (name, v) ↦ (Text.lower name, v))

/-! ## Variables for parts -/

/-- The pieces of a text between pairs of underscores. -/
def splitPairs : List Char → List (List Char)
  | [] => [[]]
  | '_' :: '_' :: cs => [] :: splitPairs cs
  | c :: cs =>
    match splitPairs cs with
    | [] => [[c]]
    | piece :: rest => (c :: piece) :: rest

/-- The path of the part that a variable stands for, if its name goes on after `start`. -/
def partPath? (start name : String) : Option (List String) :=
  let front := (start ++ "__").toList
  let cs := name.toList
  if front.isPrefixOf cs then some ((splitPairs (cs.drop front.length)).map String.ofList)
  else none

/-- Writes a value at a path, making the tables that lead to it. A path through something else than
a table leads nowhere. -/
def plant (v : Value) : List String → Fields Value → Fields Value
  | [], table => table
  | [name], table => table.set name v
  | name :: rest, table =>
    match table.get? name with
    | none => table.set name (.record (plant v rest []))
    | some (.record inner) => table.set name (.record (plant v rest inner))
    | some _ => table

/-- The value of a variable for a part of the commands. -/
def commandPart (path : List String) (text : String) : Value :=
  match path with
  | [_] => (Json.read? text).getD (.text text)
  | _ => .text text

/-- The table of the parts of a setting. -/
def parts (setting : String) (value : List String → String → Value) (vars : Fields String) :
    Fields Value :=
  vars.foldl
    (fun table (name, text) ↦
      match partPath? (namePrefix ++ setting) name with
      | some path => plant (value path text) path table
      | none => table)
    []

/-! ## Whole settings -/

/-- Why the environment cannot be read: the variable of this setting is no JSON. -/
structure NotJson where
  setting : String
deriving DecidableEq, Repr

/-- How the error is told. -/
def NotJson.message (e : NotJson) : String :=
  s!"error parsing value for field \"{e.setting}\" from source \"EnvSettingsSource\""

/-- The value of a setting that is a table, from its own variable and those of its parts. -/
def table (setting : String) (value : List String → String → Value) (vars : Fields String) :
    Except NotJson (Option Value) :=
  let below := parts setting value vars
  match vars.get? (namePrefix ++ setting) with
  | none => .ok (if below.isEmpty then none else some (.record below))
  | some text =>
    match Json.read? text with
    | none => .error ⟨setting⟩
    | some (.record fields) => .ok (some (.record (mergeFields fields below)))
    | some .absent => .ok none
    | some v => .ok (some v)

/-- The fields of the interpreter table with their proper names, which are found without regard to
case. -/
def properNames (fields : Fields Value) : Fields Value :=
  Fields.ofPairs (fields.map fun (name, v) ↦
    (if Text.lower name = "warn_trailing" then "warn_trailing" else name, v))

/-- The settings that the environment gives. -/
def settings (vars : Variables) : Except NotJson (Fields Value) := do
  let vars := normalized vars
  let flags := flagNames.filterMap fun name ↦
    (vars.get? (namePrefix ++ name)).map fun text ↦ (name, Value.text text)
  let interpreter ← table "interpreter" (fun _ text ↦ .text text) vars
  let commands ← table "commands" commandPart vars
  let interpreter := interpreter.map fun
    | .record fields => .record (properNames fields)
    | v => v
  return flags ++ (interpreter.map (("interpreter", ·))).toList
    ++ (commands.map (("commands", ·))).toList

end LineCommands.Environment
