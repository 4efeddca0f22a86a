import LineCommands.CommandLine.Console

/-!
# The executable

Gathers the surroundings of a call, runs the program on them, and writes what it leaves.
-/

namespace LineCommands.CommandLine

/-- The text of a file, if it can be read. -/
def readText? (name : String) : IO (Option String) := do
  try
    return some (← IO.FS.readFile name)
  catch _ =>
    return none

/-- All that is left of a stream. -/
partial def readAll (stream : IO.FS.Stream) (start : String) : IO String := do
  let line ← stream.getLine
  if line.isEmpty then return start else readAll stream (start ++ line)

/-- The variables of the environment, as far as they are texts. -/
def readVariables : IO Environment.Variables := do
  try
    let bytes ← IO.FS.readBinFile "/proc/self/environ"
    let entries := bytes.toList.splitOn 0
    return entries.filterMap fun entry ↦ (String.fromUTF8? ⟨entry.toArray⟩).bind readVariable?
  catch _ =>
    return []

/-- The surroundings of a call, with the files that it can ask for. -/
def gather (args : List String) : IO World := do
  let cwd := (Location.ofString (← IO.currentDir).toString).resolve []
  let environment ← readVariables
  let named := namedSources args
  let mut root := Node.enter (.directory []) cwd
  for name in named ++ settingsSources cwd environment do
    if let some text ← readText? name then
      root := (Location.ofString name).plant cwd text root
  let input ← if named.contains "-" then readAll (← IO.getStdin) "" else pure ""
  return ⟨root, cwd, environment, input⟩

end LineCommands.CommandLine

open LineCommands.CommandLine in
/-- Runs the program on the arguments of its call. -/
def main (args : List String) : IO UInt32 := do
  let outcome := run (← gather args) args
  IO.print outcome.streams.out
  IO.eprint outcome.sideText
  return UInt32.ofNat outcome.ending.exitCode
