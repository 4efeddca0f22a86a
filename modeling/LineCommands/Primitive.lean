import LineCommands.Value.Text

/-!
# Primitive types

One token of input becomes one value of a primitive type. The names of the types are the ones that
templates use; `typeName` gives back the name of the type that a bound value has, with `array` for
lists of any element type.
-/

namespace LineCommands

/-- The types of single tokens. -/
inductive Primitive where
  | string | int | float | char
deriving DecidableEq, Repr

namespace Primitive

/-- The name of a type in templates. -/
def name : Primitive → String
  | string => "string"
  | int => "int"
  | float => "float"
  | char => "char"

/-- The name of a type in messages. -/
def label : Primitive → String
  | string => "String"
  | int => "Int"
  | float => "Float"
  | char => "Char"

/-- All types. -/
def all : List Primitive := [string, int, float, char]

/-- The type of this name. -/
def ofName? (s : String) : Option Primitive := all.find? (·.name == s)

theorem mem_all (p : Primitive) : p ∈ all := by cases p <;> decide

theorem ofName?_name (p : Primitive) : ofName? p.name = some p := by cases p <;> decide

theorem name_of_ofName? {s : String} {p : Primitive} (h : ofName? s = some p) : p.name = s := by
  simpa using List.find?_some h

end Primitive

/-- The name of the type of all arrays. -/
def arrayTypeName : String := "array"

/-- Why a value has no type name. -/
inductive TypeError where
  /-- A truth value is never bound. -/
  | truthValue
  /-- No value of this kind is ever bound. -/
  | unsupported (v : Value)

/-- How the error is told. -/
def TypeError.message : TypeError → String
  | truthValue => "bool is not a bindable value"
  | unsupported v => "Unsupported bound value: " ++ v.literal

/-- The name of the type of a bound value. -/
def Value.typeName : Value → Except TypeError String
  | .char _ => .ok Primitive.char.name
  | .text _ => .ok Primitive.string.name
  | .bool _ => .error .truthValue
  | .int _ => .ok Primitive.int.name
  | .float _ => .ok Primitive.float.name
  | .list _ => .ok arrayTypeName
  | v => .error (.unsupported v)

end LineCommands
