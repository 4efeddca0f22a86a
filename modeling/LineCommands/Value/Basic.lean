import LineCommands.Fields

/-!
# Values

What an argument is bound to, what an action returns and what a settings file holds are values of
one type. Only strings, whole numbers, floating-point numbers, single characters and lists of these
come out of a template; actions and settings files also bring truth values, absent values and
records.
-/

namespace LineCommands

/-- A value. -/
inductive Value where
  | absent
  | bool (b : Bool)
  | int (n : Int)
  | float (x : Float)
  | text (s : String)
  | char (c : Char)
  | list (items : List Value)
  | record (fields : List (String × Value))
deriving Inhabited

/-- What the arguments of a command are bound to. -/
abbrev Bindings := Fields Value

/-- A number of either kind. -/
inductive Number where
  | int (n : Int)
  | float (x : Float)
deriving DecidableEq, Inhabited

namespace Value

/-- The number that a value is; a truth value is none. -/
def number? : Value → Option Number
  | .int n => some (.int n)
  | .float x => some (.float x)
  | _ => none

/-- The value is a number. -/
def isNumeric (v : Value) : Bool := v.number?.isSome

/-- The value counts as missing where a default may stand in for it. -/
def isEmpty : Value → Bool
  | .absent => true
  | .bool b => !b
  | .int n => n == 0
  | .float x => x == 0.0
  | .text s => s.isEmpty
  | .char _ => false
  | .list items => items.isEmpty
  | .record fields => fields.isEmpty

/-- A string as a value, or the absent value. -/
def ofText? : Option String → Value
  | none => .absent
  | some s => .text s

end Value

/-- A number as a value. -/
def Number.toValue : Number → Value
  | .int n => .int n
  | .float x => .float x

@[simp] theorem Number.number?_toValue (n : Number) : n.toValue.number? = some n := by
  cases n <;> rfl

end LineCommands
