/-!
# Options of a command line

An option has a long name after two hyphens and may have a letter after one. It is a switch or takes
a value: the next argument, what stands after an equals sign behind its long name, or what stands
behind its letter. Letters of switches may share one hyphen. A single hyphen is no option, and two
hyphens end the options.

Where options and other arguments may be mixed, all other arguments are collected; elsewhere the
first one ends the options.
-/

namespace LineCommands.CommandLine

/-- What an option means. -/
inductive OptionKind (α : Type) where
  | switch (meaning : α)
  | valued (meaning : String → α)

/-- An option. -/
structure OptionSpec (α : Type) where
  letter : Option Char
  /-- The long name, without its hyphens. -/
  long : String
  kind : OptionKind α

/-- The options of a command. -/
abbrev OptionSpecs (α : Type) := List (OptionSpec α)

variable {α : Type}

/-- Reads the letters behind a hyphen; `next` are the arguments after them. -/
def readLetters (specs : OptionSpecs α) (next : List String) :
    List Char → Option (List α × List String)
  | [] => some ([], next)
  | c :: cs =>
    match specs.find? (·.letter == some c) with
    | none => none
    | some ⟨_, _, .switch meaning⟩ =>
      (readLetters specs next cs).map fun (ms, left) ↦ (meaning :: ms, left)
    | some ⟨_, _, .valued meaning⟩ =>
      if cs.isEmpty then
        match next with
        | [] => none
        | v :: left => some ([meaning v], left)
      else some ([meaning (String.ofList cs)], next)

/-- Reads a long option; `next` are the arguments after it. -/
def readLong (specs : OptionSpecs α) (next : List String) (cs : List Char) :
    Option (List α × List String) :=
  let name := cs.takeWhile (· != '=')
  let attached := cs.drop name.length
  match specs.find? (·.long == String.ofList name) with
  | none => none
  | some ⟨_, _, .switch meaning⟩ => if attached.isEmpty then some ([meaning], next) else none
  | some ⟨_, _, .valued meaning⟩ =>
    match attached, next with
    | _ :: value, _ => some ([meaning (String.ofList value)], next)
    | [], v :: left => some ([meaning v], left)
    | [], [] => none

/-- Reads the options and the other arguments of a command, or finds that they are not in order.
`fuel` bounds the number of arguments. -/
def readArguments (specs : OptionSpecs α) (mixed : Bool) :
    (fuel : Nat) → List String → Option (List α × List String)
  | 0, _ | _, [] => some ([], [])
  | fuel + 1, arg :: next =>
    let goOn (r : Option (List α × List String)) : Option (List α × List String) :=
      match r with
      | none => none
      | some (meanings, left) =>
        (readArguments specs mixed fuel left).map fun (ms, others) ↦ (meanings ++ ms, others)
    match arg.toList with
    | ['-', '-'] => some ([], next)
    | '-' :: '-' :: cs => goOn (readLong specs next cs)
    | '-' :: c :: cs => goOn (readLetters specs next (c :: cs))
    | _ =>
      if mixed then
        (readArguments specs mixed fuel next).map fun (ms, others) ↦ (ms, arg :: others)
      else some ([], arg :: next)

/-- The meanings of the options in order, and the other arguments. -/
def parseArguments (specs : OptionSpecs α) (mixed : Bool) (args : List String) :
    Option (List α × List String) :=
  readArguments specs mixed args.length args

end LineCommands.CommandLine
