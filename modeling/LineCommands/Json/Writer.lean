import LineCommands.Value.Basic
import LineCommands.Binary64.Notation
import LineCommands.Text.Quoted

/-!
# Writing JSON

Values are written over several lines, two spaces deeper for every level, with empty lists and
records on one line. Characters outside ASCII stand for themselves; the quote, the backslash and the
control characters below U+0020 are escaped. Infinities and NaN are no JSON numbers and become
`null`.
-/

namespace LineCommands

/-- Floating-point numbers in JSON: positional from `0.00001` to below `10 ^ 16`. -/
def jsonLayout : Layout where
  plainFrom := -5
  plainBelow := 16
  exponentWidth := 1
  nan := "null"
  infinity := "null"
  minusInfinity := "null"

namespace Json

/-- A character within a JSON string. -/
def escapeChar (c : Char) : List Char :=
  if c == '\x22' then ['\\', '\x22']
  else if c == '\\' then ['\\', '\\']
  else if c == '\x08' then ['\\', 'b']
  else if c == '\t' then ['\\', 't']
  else if c == '\n' then ['\\', 'n']
  else if c == '\x0c' then ['\\', 'f']
  else if c == '\r' then ['\\', 'r']
  else if c.toNat < 32 then '\\' :: 'u' :: Text.hexDigits 4 c.toNat
  else [c]

/-- A JSON string. -/
def string (s : String) : String :=
  String.ofList ('\x22' :: s.toList.flatMap escapeChar ++ ['\x22'])

/-- The start of a line at a depth. -/
def newline (depth : Nat) : String := String.ofList ('\n' :: List.replicate (2 * depth) ' ')

/-- The items of a list or record between its brackets, each on a line of its own. -/
def block (opening closing : String) (depth : Nat) (items : List String) : String :=
  if items.isEmpty then opening ++ closing
  else
    opening ++ newline (depth + 1) ++ ("," ++ newline (depth + 1)).intercalate items
      ++ newline depth ++ closing

mutual

/-- A value at a depth. -/
def write (depth : Nat) : Value → String
  | .absent => "null"
  | .bool b => if b then "true" else "false"
  | .int n => toString n
  | .float x => jsonLayout.write x
  | .text s => string s
  | .char c => string c.toString
  | .list items => block "[" "]" depth (writeItems (depth + 1) items)
  | .record fields => block "\x7b" "\x7d" depth (writeFields (depth + 1) fields)

/-- The items of a list. -/
def writeItems (depth : Nat) : List Value → List String
  | [] => []
  | v :: rest => write depth v :: writeItems depth rest

/-- The fields of a record. -/
def writeFields (depth : Nat) : List (String × Value) → List String
  | [] => []
  | (k, v) :: rest => (string k ++ ": " ++ write depth v) :: writeFields depth rest

end

end Json

end LineCommands
