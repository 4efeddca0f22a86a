import LineCommands.Config.FileTree

/-!
# Finding the settings file

The settings file is named by the environment, or else it is the one in the nearest directory at or
above the start. A name in the environment that leads to no file means that there are no settings;
nothing is searched then.
-/

namespace LineCommands.Discovery

/-- The name of settings files. -/
def fileName : String := "cmdcore.toml"

/-- The variable that names a settings file. -/
def variableName : String := "CMDCORE_CONFIG"

/-- A directory, given from its end, and the directories above it, the nearest first. -/
def ancestorsOfReverse : List String → List Path
  | [] => [[]]
  | name :: rest => (name :: rest).reverse :: ancestorsOfReverse rest

/-- A directory and the directories above it, the nearest first. -/
def ancestors (p : Path) : List Path := ancestorsOfReverse p.reverse

/-- The places where the settings file of a directory is looked for, in order. -/
def candidates (directory : Path) : List Path := (ancestors directory).map (· ++ [fileName])

/-- The settings file for a start directory, which is the current one unless another is given. -/
def find (root : Node) (cwd : Path) (override : Option String) (start : Option String) :
    Option Path :=
  match override with
  | some name =>
    if name.isEmpty then search else (Location.ofString name).locate? root cwd
  | none => search
where
  /-- The nearest settings file. -/
  search : Option Path :=
    (candidates ((Location.ofString (start.getD "")).resolve cwd)).find? root.isFile

/-- The settings file, where an explicit name takes precedence over all else. -/
def choose (root : Node) (cwd : Path) (explicit override start : Option String) : Option Path :=
  match explicit with
  | some name =>
    if name.isEmpty then find root cwd override start
    else (Location.ofString name).locate? root cwd
  | none => find root cwd override start

end LineCommands.Discovery
