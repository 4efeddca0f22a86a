import LineCommands.Value.Basic

/-!
# Documents of TOML

A document is built from statements in order: headings, which open a table, and assignments below
them. Whether a statement is allowed depends on how the tables that it touches came about:

* a table is *declared* by its heading, or by the dotted key of an assignment once the next heading
  is reached, and is not declared again;
* what is written in brackets or braces is *closed*, and nothing is added below it.

Nothing is ever overwritten. A path that meets an array of tables goes on in its last table.
-/

namespace LineCommands.Toml

/-- A statement of a document. -/
inductive Statement where
  /-- Opens a table. -/
  | table (path : List String)
  /-- Opens a new table at the end of an array of tables. -/
  | tableItem (path : List String)
  | assign (key : List String) (value : Value)

/-- A document under construction. -/
structure Document where
  root : Fields Value
  /-- The table that assignments go to. -/
  current : List String
  /-- Tables that are declared. -/
  declared : List (List String)
  /-- Tables of dotted keys below the heading at hand, which the next heading declares. -/
  pending : List (List String)
  /-- Values below which nothing can be added. -/
  closed : List (List String)

namespace Document

/-- The empty document. -/
def empty : Document := ⟨[], [], [], [], []⟩

/-- The path lies at or below a closed value. -/
def isClosed (d : Document) (path : List String) : Bool := d.closed.any (·.isPrefixOf path)

/-- The path is that of a declared table. -/
def isDeclared (d : Document) (path : List String) : Bool := d.declared.contains path

/-- Changes the table at a path, making the tables that lead to it. -/
def modify (change : Fields Value → Option (Fields Value)) :
    List String → Fields Value → Option (Fields Value)
  | [], table => change table
  | name :: rest, table =>
    match table.get? name with
    | none => (modify change rest []).map fun t ↦ table.set name (.record t)
    | some (.record t) => (modify change rest t).map fun t ↦ table.set name (.record t)
    | some (.list items) =>
      match items.getLast? with
      | some (.record t) =>
        (modify change rest t).map fun t ↦ table.set name (.list (items.dropLast ++ [.record t]))
      | _ => none
    | some _ => none

/-- Writes a value under a name that is not taken. -/
def insertNew (name : String) (v : Value) (table : Fields Value) : Option (Fields Value) :=
  match table.get? name with
  | none => some (table.set name v)
  | some _ => none

/-- Adds an empty table to the end of an array of tables. -/
def appendTable (name : String) (table : Fields Value) : Option (Fields Value) :=
  match table.get? name with
  | none => some (table.set name (.list [.record []]))
  | some (.list items) => some (table.set name (.list (items ++ [.record []])))
  | some _ => none

/-- The path and the name that make up a key. -/
def splitKey (key : List String) : List String × String := (key.dropLast, key.getLastD "")

/-- The value is written in brackets or braces. -/
def isContainer : Value → Bool
  | .list _ | .record _ => true
  | _ => false

/-- Adds a statement, if it is allowed. -/
def add (d : Document) : Statement → Option Document
  | .table path =>
    let declared := d.pending ++ d.declared
    let d := { d with declared := declared, pending := [] }
    if d.isDeclared path || d.isClosed path then none
    else
      (modify some path d.root).map fun root ↦
        { d with root := root, current := path, declared := path :: declared }
  | .tableItem path =>
    let declared := (d.pending ++ d.declared).filter (!path.isPrefixOf ·)
    if d.isClosed path then none
    else
      let (parent, name) := splitKey path
      (modify (appendTable name) parent d.root).map fun root ↦
        { d with
          root := root
          current := path
          declared := path :: declared
          pending := []
          closed := d.closed.filter (!path.isPrefixOf ·) }
  | .assign key v =>
    let (inner, name) := splitKey key
    let opened := (List.range inner.length).map fun i ↦ d.current ++ inner.take (i + 1)
    let parent := d.current ++ inner
    if opened.any d.isDeclared || d.isClosed parent then none
    else
      (modify (insertNew name v) parent d.root).map fun root ↦
        { d with
          root := root
          pending := opened ++ d.pending
          closed := if isContainer v then (d.current ++ key) :: d.closed else d.closed }

/-- The table that statements build. -/
def ofStatements (ss : List Statement) : Option (Fields Value) :=
  (ss.foldlM add empty).map (·.root)

end Document

end LineCommands.Toml
