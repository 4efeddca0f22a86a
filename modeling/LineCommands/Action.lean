import LineCommands.Sum

/-!
# Actions

An action receives the bindings of a command and returns a value, the absent value standing for
nothing. Three actions are built in and can be named in a settings file; a host program brings its
own, which may fail with a text.

The built-in actions look at the *leaves* of the bound values: lists are opened at every depth,
everything else is one leaf.
-/

namespace LineCommands

namespace Value

mutual

/-- The leaves of a value. -/
def leaves : Value → List Value
  | .list items => leavesOfAll items
  | v => [v]

/-- The leaves of values, in order. -/
def leavesOfAll : List Value → List Value
  | [] => []
  | v :: rest => leaves v ++ leavesOfAll rest

end

end Value

/-- The built-in actions. -/
inductive Builtin where
  | echo | sum | count
deriving DecidableEq, Repr

namespace Builtin

/-- The name of an action. -/
def name : Builtin → String
  | echo => "echo"
  | sum => "sum"
  | count => "count"

/-- The actions, by alphabet. -/
def all : List Builtin := [count, echo, sum]

/-- What is told when no action has this name. -/
def unknownMessage (name : String) : String :=
  s!"Unknown action '{name}'. Choose from: " ++ ", ".intercalate (all.map Builtin.name)

/-- The action of this name. -/
def ofName (s : String) : Except String Builtin :=
  match all.find? (·.name == s) with
  | some b => .ok b
  | none => .error (unknownMessage s)

end Builtin

/-- Why an action fails. -/
inductive ActionError where
  /-- A whole number is too large to be added to a floating-point number. -/
  | tooLarge
  /-- An action of the host program failed with a text. -/
  | host (text : String)
deriving DecidableEq, Repr

namespace ActionError

/-- The kind of an error. -/
def name : ActionError → String
  | tooLarge => "OverflowError"
  | host _ => "RuntimeError"

/-- How an error is told. -/
def message : ActionError → String
  | tooLarge => "int too large to convert to float"
  | host text => text

end ActionError

namespace Builtin

/-- The sum of numbers, added up from the left. -/
def total (ns : List Number) : Except ArithmeticError Number :=
  (ns.foldlM RunningSum.add (.word 0)).map RunningSum.value

/-- What an action returns. A sum fails when a floating-point number meets a whole number beyond
their range. -/
def run (b : Builtin) (args : Bindings) : Except ActionError Value :=
  let leaves := Value.leavesOfAll args.values
  match b with
  | echo => .ok (.record args)
  | count => .ok (.int leaves.length)
  | sum =>
    match total (leaves.filterMap Value.number?) with
    | .ok n => .ok n.toValue
    | .error _ => .error .tooLarge

end Builtin

/-- An action. -/
inductive Action where
  | builtin (b : Builtin)
  /-- An action of the host program. -/
  | host (f : Bindings → Except String Value)

/-- What an action returns, or why it fails. -/
def Action.run : Action → Bindings → Except ActionError Value
  | builtin b, args => b.run args
  | host f, args => (f args).mapError .host

end LineCommands
