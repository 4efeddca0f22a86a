import LineCommands.Output.PageError
import LineCommands.Output.Table
import LineCommands.Result

/-!
# Results on a page

A result is shown to a reader as a line that says how the operation ended, and below it what depends
on the operation: the bindings of a run as a table and its output, the definitions of a template as
a table, and for other operations each field of the data on a line. A failure shows the message of
its report instead. With verbose output the detail of a report and the metadata follow.

Text is wrapped at the width of the page, and tables do not exceed it. The names in the tables are
markup; no other text is.
-/

namespace LineCommands

namespace Result

open Output

/-- The line that says how an operation ended. -/
def statusLine (word op detail : String) : Styled :=
  let front := ((Styled.plain word).followedBy (.plain " ")).followedBy (.plain ("  " ++ op))
  if detail.isEmpty then front else front.followedBy (.plain ("  " ++ detail))

/-- The lines of metadata. -/
def metadataLines (r : Result) : List Styled :=
  match r.metadata with
  | none | some [] => []
  | some fields => .plain "  meta:" :: fields.map fun (k, v) ↦ .plain s!"    {k}: {v.plain}"

/-- The text of a value where something may be missing. -/
def textOr (default : String) (v : Option Value) : String :=
  match v with
  | none => default
  | some v => if v.isEmpty then default else v.plain

/-- The texts that pieces of markup stand for. -/
def renderNames (names : List String) : Except PageError (List Styled) :=
  (names.mapM Markup.render).mapError .markup

/-! ## Bindings -/

/-- The rows of the table of bindings: name, type and value. -/
def bindingRows : Bindings → Except PageError (List (String × String × String))
  | [] => .ok []
  | (name, v) :: rest => do
    let type ← v.typeName.mapError .untyped
    let rows ← bindingRows rest
    return ("  " ++ name, type, v.compact) :: rows

/-- The table of bindings. -/
def bindingTable (bindings : Bindings) : Except PageError (List String) := do
  let rows ← bindingRows bindings
  let names ← renderNames (rows.map (·.1))
  return tableLines
    [⟨.left, "  argument", names⟩, ⟨.left, "type", rows.map fun row ↦ .plain row.2.1⟩,
      ⟨.left, "value", rows.map fun row ↦ .plain row.2.2⟩]

/-- The table for what stands for the bindings. Without any there is none. -/
def bindingLines (bindings : Value) : Except PageError (List String) :=
  if bindings.isEmpty then .ok []
  else
    match bindings with
    | .record fields => bindingTable fields
    | v => .error (.notBindings v)

/-! ## Definitions -/

/-- A field that a described definition must have. -/
def required (fields : Fields Value) (name : String) : Except PageError Value :=
  match fields.get? name with
  | some v => .ok v
  | none => .error (.missingField name)

/-- The type and the size of a described definition, as the table of definitions shows them. -/
def describedCells (fields : Fields Value) : Except PageError (String × String) := do
  match ← required fields "kind" with
  | .text "array" =>
    let size ← required fields "size"
    return ("array<" ++ textOr "string" (fields.get? "element_type") ++ ">", size.plain)
  | _ =>
    match ← required fields "type" with
    | .text s => return (s, "")
    | .char c => return (c.toString, "")
    | v => .error (.typeNotText v)

/-- The name of a described definition, which may be absent but not missing. -/
def describedName (fields : Fields Value) : Except PageError String := do
  match ← required fields "name" with
  | .text s => return s
  | .char c => return c.toString
  | .absent => return ""
  | v => .error (.nameNotText v)

/-- The rows of the table of definitions: name, type and size. -/
def definitionRows : List Value → Except PageError (List (String × String × String))
  | [] => .ok []
  | .record fields :: rest => do
    let cells ← describedCells fields
    let name ← describedName fields
    let rows ← definitionRows rest
    return (name, cells) :: rows
  | v :: _ => .error (.notDefinition v)

/-- The table of definitions. -/
def definitionTable (definitions : List Value) : Except PageError (List String) := do
  let rows ← definitionRows definitions
  let names ← renderNames (rows.map (·.1))
  return tableLines
    [⟨.right, "  #", (List.range rows.length).map fun i ↦ .plain s!"  {i + 1}"⟩,
      ⟨.left, "argument", names⟩, ⟨.left, "type", rows.map fun row ↦ .plain row.2.1⟩,
      ⟨.left, "size", rows.map fun row ↦ .plain row.2.2⟩]

/-- The table for what stands for the definitions. Without any there is none. A text or record is
gone through part by part, and none of its parts is a definition. -/
def definitionLines (definitions : Value) : Except PageError (List String) :=
  if definitions.isEmpty then .ok []
  else
    match definitions with
    | .list ds => definitionTable ds
    | .text _ | .char _ | .record _ => .error (.notDefinition (.text ""))
    | v => .error (.notDefinitions v)

/-! ## The kinds of pages -/

/-- The page of a run. -/
def runPage (r : Result) (verbose : Bool) : Except PageError (List String) := do
  let status := statusLine "OK" r.op (textOr "" (r.data.get? "keyword"))
  let table ← match r.data.get? "bindings" with
    | some v => bindingLines v
    | none => .ok []
  let output := match r.data.get? "output" with
    | some v => onPage ((Styled.plain "  output: ").followedBy (.plain v.compact))
    | none => []
  return onPage status ++ table ++ output
    ++ if verbose then r.metadataLines.flatMap onPage else []

/-- The page of a compiled template. -/
def compilePage (r : Result) : Except PageError (List String) := do
  let count := ((r.data.get? "count").map Value.plain).getD "0"
  let status := statusLine "OK" r.op s!"{count} argument(s)"
  let table ← match r.data.get? "definitions" with
    | some v => definitionLines v
    | none => .ok []
  return onPage status ++ table

/-- The page of any other operation. -/
def plainPage (r : Result) (verbose : Bool) : List String :=
  let fields := r.data.map fun (k, v) ↦
    (Styled.plain s!"  {k}: ").followedBy (.plain v.compact)
  (statusLine "OK" r.op "" :: fields ++ if verbose then r.metadataLines else []).flatMap onPage

/-- The page of a failure. -/
def failurePage (r : Result) (verbose : Bool) : List String :=
  let report := match r.error with
    | none => []
    | some e =>
      .plain s!"  {e.message}"
        :: if verbose then e.detail.map fun (k, v) ↦ .plain s!"    {k}: {v.plain}" else []
  (statusLine "ERROR" r.op "" :: report ++ if verbose then r.metadataLines else []).flatMap
    onPage

/-- The page of a result. -/
def pageLines (r : Result) (verbose : Bool) : Except PageError (List String) :=
  if !r.ok then .ok (r.failurePage verbose)
  else if r.op = "run" then r.runPage verbose
  else if r.op = "compile" then r.compilePage
  else .ok (r.plainPage verbose)

/-- The page of a result as one text, without line feeds at its end. -/
def page (r : Result) (verbose : Bool) : Except PageError String := do
  let text := "\n".intercalate (← r.pageLines verbose)
  return String.ofList ((text.toList.reverse.dropWhile (· == '\n')).reverse)

end Result

end LineCommands
