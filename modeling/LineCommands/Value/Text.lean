import LineCommands.Value.Basic
import LineCommands.Text.Numeral
import LineCommands.Text.Quoted
import LineCommands.Binary64.Notation

/-!
# Values as text

A value is written in three ways. `literal` shows strings in quotes and brackets lists and records,
so that different values are told apart. `plain` is the same, except that a string or character at
the top stands for itself. `compact` is the form for results: strings stand for themselves at every
depth, and a record is a list of `name=value` without brackets.
-/

namespace LineCommands

/-- Floating-point numbers in results and messages: positional from `0.0001` to below `10 ^ 16`. -/
def textLayout : Layout where
  plainFrom := -4
  plainBelow := 16
  exponentWidth := 2
  nan := "nan"
  infinity := "inf"
  minusInfinity := "-inf"

namespace Value

/-- What kind of value it is, as messages call it. -/
def kind : Value → String
  | .absent => "NoneType"
  | .bool _ => "bool"
  | .int _ => "int"
  | .float _ => "float"
  | .text _ => "str"
  | .char _ => "Char"
  | .list _ => "list"
  | .record _ => "dict"

/-- A value without parts, as it is written where strings stand for themselves. -/
def atom : Value → String
  | .absent => "None"
  | .bool b => if b then "True" else "False"
  | .int n => toString n
  | .float x => textLayout.write x
  | .text s => s
  | .char c => c.toString
  | .list _ | .record _ => ""

mutual

/-- A value with its strings in quotes. -/
def literal : Value → String
  | .text s => Text.quoted s
  | .char c => "Char(" ++ Text.quoted c.toString ++ ")"
  | .list items => "[" ++ ", ".intercalate (literalItems items) ++ "]"
  | .record fields => "\x7b" ++ ", ".intercalate (literalFields fields) ++ "\x7d"
  | v => v.atom

/-- The items of a list, each with its strings in quotes. -/
def literalItems : List Value → List String
  | [] => []
  | v :: rest => literal v :: literalItems rest

/-- The fields of a record, each as `'name': value`. -/
def literalFields : List (String × Value) → List String
  | [] => []
  | (k, v) :: rest => (Text.quoted k ++ ": " ++ literal v) :: literalFields rest

end

/-- A value with quotes around the strings inside it, but not around itself. -/
def plain : Value → String
  | .list items => literal (.list items)
  | .record fields => literal (.record fields)
  | v => v.atom

mutual

/-- A value as a result shows it. -/
def compact : Value → String
  | .list items => "[" ++ ", ".intercalate (compactItems items) ++ "]"
  | .record fields => ", ".intercalate (compactFields fields)
  | v => v.atom

/-- The items of a list, as a result shows them. -/
def compactItems : List Value → List String
  | [] => []
  | v :: rest => compact v :: compactItems rest

/-- The fields of a record, each as `name=value`. -/
def compactFields : List (String × Value) → List String
  | [] => []
  | (k, v) :: rest => (k ++ "=" ++ compact v) :: compactFields rest

end

/-! ## Long numbers -/

/-- The least whole number that has too many digits to be written. -/
def writableBound : Nat := Nat.pow 10 Text.maxDigits

mutual

/-- No whole number in the value has too many digits to be written. -/
def isWritable : Value → Bool
  | .int n => n.natAbs < writableBound
  | .list items => areWritable items
  | .record fields => areWritableFields fields
  | _ => true

/-- No whole number in the values has too many digits. -/
def areWritable : List Value → Bool
  | [] => true
  | v :: rest => isWritable v && areWritable rest

/-- No whole number in the fields has too many digits. -/
def areWritableFields : List (String × Value) → Bool
  | [] => true
  | (_, v) :: rest => isWritable v && areWritableFields rest

end

/-- What is told about a whole number that has too many digits to be written. -/
def tooManyDigitsMessage : String :=
  s!"Exceeds the limit ({Text.maxDigits} digits) for integer string conversion; "
    ++ "use sys.set_int_max_str_digits() to increase the limit"

/-- The character that a string of length one consists of. -/
def character (s : String) : Except String Char :=
  match s.toList with
  | [c] => .ok c
  | cs => .error s!"Char requires exactly one character, got {cs.length}"

end Value

end LineCommands
