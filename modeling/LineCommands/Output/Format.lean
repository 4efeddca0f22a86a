import LineCommands.Json.Writer
import LineCommands.Output.Page

/-!
# Forms of output

A result is given out in one of three forms: as JSON for programs, as a single line for scripts, or
as a page for readers. JSON takes precedence over the single line, and that over the page.
-/

namespace LineCommands

/-- The form of output that is asked for. -/
structure OutputMode where
  json : Bool
  quiet : Bool
  verbose : Bool
deriving DecidableEq, Repr

/-- The styles of type names on a page. -/
def styledTypes : List String := Primitive.all.map Primitive.name ++ [arrayTypeName]

/-- The style of a type name; other names have none. -/
def styleOf (type : Option String) : String :=
  match type with
  | some t => if styledTypes.contains t then "cmd.type." ++ t else ""
  | none => ""

/-- A report as fields. -/
def Report.toFields (e : Report) : Fields Value :=
  [("code", .text e.code), ("message", .text e.message), ("detail", .record e.detail)]

namespace Result

/-- A result as fields. -/
def toFields (r : Result) : Fields Value :=
  [("ok", .bool r.ok), ("op", .text r.op), ("data", .record r.data),
    ("warnings", .list (r.warnings.map .text)),
    ("error", match r.error with
      | none => .absent
      | some e => .record e.toFields),
    ("meta", match r.metadata with
      | none => .absent
      | some fields => .record fields)]

/-- A result as JSON. -/
def json (r : Result) : String := Json.write 0 (.record r.toFields)

/-- A result as a single line. -/
def line (r : Result) : String :=
  if r.ok then
    match r.data.get? "output" with
    | some v => v.compact
    | none => s!"OK: {r.op}"
  else
    let message := match r.error with
      | some e => e.message
      | none => "Unknown error"
    s!"ERROR: {r.op} — {message}"

/-- A result in the form that is asked for. -/
def format (r : Result) (mode : OutputMode) : Except PageError String :=
  if mode.json then .ok r.json
  else if mode.quiet then .ok r.line
  else r.page mode.verbose

end Result

end LineCommands
