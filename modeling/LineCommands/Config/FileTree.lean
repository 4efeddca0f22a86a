/-!
# File trees

The part of the file system that the interpreter looks at is a tree of directories and text files,
without links. A path is the list of names from the root; a location is a path as it is written,
relative or absolute and with steps upward.

There are two ways to follow a location. `resolve` only computes, taking a name away for every step
upward. `locate?` goes through the tree, and a step upward needs a directory to step from.
-/

namespace LineCommands

/-- Names of directories from the root, and a last name. -/
abbrev Path := List String

/-- A file or directory. -/
inductive Node where
  | file (text : String)
  | directory (entries : List (String × Node))

namespace Node

/-- The node at a path. -/
def at? : Path → Node → Option Node
  | [], n => some n
  | name :: rest, .directory entries =>
    match entries.find? (·.1 == name) with
    | some (_, n) => at? rest n
    | none => none
  | _ :: _, .file _ => none

/-- The text of the file at a path. -/
def textAt? (root : Node) (p : Path) : Option String :=
  match root.at? p with
  | some (.file text) => some text
  | _ => none

/-- A file stands at the path. -/
def isFile (root : Node) (p : Path) : Bool := (root.textAt? p).isSome

/-- A directory stands at the path. -/
def isDirectory (root : Node) (p : Path) : Bool :=
  match root.at? p with
  | some (.directory _) => true
  | _ => false

/-- The tree with a node put at a path, and with the directories that lead to it. -/
def put (n : Node) : Path → Node → Node
  | [], _ => n
  | name :: rest, root =>
    let entries := match root with
      | .directory es => es
      | .file _ => []
    let child := match entries.find? (·.1 == name) with
      | some (_, c) => c
      | none => .directory []
    .directory ((name, put n rest child) :: entries.filter (·.1 != name))

/-- The tree with a directory at a path. -/
def enter (root : Node) (p : Path) : Node :=
  if root.isDirectory p then root else put (.directory []) p root

end Node

/-! ## Locations -/

/-- A path as it is written. -/
structure Location where
  absolute : Bool
  /-- The steps, of which `..` leads upward. -/
  steps : List String
deriving DecidableEq, Repr

namespace Location

/-- The location that a text writes. Empty steps and single points do not count. -/
def ofString (s : String) : Location where
  absolute := s.toList.head? == some '/'
  steps := ((s.toList.splitOn '/').map String.ofList).filter fun step ↦ step != "" && step != "."

/-- The text can only be the name of a directory: it ends in a slash or in a step that leads
nowhere. -/
def namesDirectory (s : String) : Bool :=
  match (s.toList.splitOn '/').getLast? with
  | some [] | some ['.'] => true
  | _ => false

/-- The path from which the steps begin, seen from the directory `cwd`. -/
def origin (l : Location) (cwd : Path) : Path := if l.absolute then [] else cwd

/-- One step on a path. -/
def step (p : Path) (name : String) : Path := if name = ".." then p.dropLast else p ++ [name]

/-- The path of a location, by computation alone. -/
def resolve (l : Location) (cwd : Path) : Path := l.steps.foldl step (l.origin cwd)

/-- The path that steps lead to in a tree; only directories can be left upward. -/
def walk? (root : Node) : Path → List String → Option Path
  | p, [] => some p
  | p, name :: rest =>
    if name = ".." ∧ !root.isDirectory p then none else walk? root (step p name) rest

/-- The path of the file at a location. -/
def locate? (l : Location) (root : Node) (cwd : Path) : Option Path :=
  (walk? root (l.origin cwd) l.steps).filter root.isFile

/-- The paths of the directories that steps lead through. -/
def passed : Path → List String → List Path
  | _, [] => []
  | p, name :: rest => p :: passed (step p name) rest

/-- The tree with a file put at a location, and with the directories that lead to it. -/
def plant (l : Location) (cwd : Path) (text : String) (root : Node) : Node :=
  Node.put (.file text) (l.resolve cwd) ((passed (l.origin cwd) l.steps).foldl Node.enter root)

end Location

end LineCommands
