import LineCommands.Primitive
import LineCommands.Expression.Error

/-!
# Faults

What the interpreter reports to its user instead of a result. Each fault is of one of six kinds and
tells its story three times: by its kind, in words, and as fields that a program can read.
-/

namespace LineCommands

/-- The kinds of faults. -/
inductive FaultKind where
  | invalidTemplate | argumentMismatch | typeConversionFailed | invalidExpression | commandNotFound
  | invalidInputFormat
deriving DecidableEq, Repr

namespace FaultKind

/-- The code of a kind. -/
def code : FaultKind → String
  | invalidTemplate => "InvalidTemplate"
  | argumentMismatch => "ArgumentMismatch"
  | typeConversionFailed => "TypeConversionFailed"
  | invalidExpression => "InvalidExpression"
  | commandNotFound => "CommandNotFound"
  | invalidInputFormat => "InvalidInputFormat"

/-- All kinds. -/
def all : List FaultKind :=
  [invalidTemplate, argumentMismatch, typeConversionFailed, invalidExpression, commandNotFound,
    invalidInputFormat]

/-- The kind of this code. -/
def ofCode? (s : String) : Option FaultKind := all.find? (·.code == s)

end FaultKind

/-- Why the interpreter has no result. -/
inductive Fault where
  /-- An entry of a template names no type. -/
  | unknownType (type argument : String)
  /-- An array entry has no clause. -/
  | missingClause (argument : String)
  /-- The size in the clause of an array is blank. -/
  | emptySize (argument : String)
  /-- The element type in the clause of an array is no primitive type. -/
  | unknownElementType (type argument : String)
  /-- The size of an array refers to arguments that do not come before it. -/
  | undefinedNames (size argument : String) (names : List String)
  /-- No token is left for a simple argument. -/
  | missingArgument (argument : String) (position : Nat)
  /-- Fewer tokens are left than an array needs. -/
  | tooFewTokens (argument : String) (expected found : Nat)
  /-- The size of an array is negative. -/
  | negativeSize (argument : String) (size : Int)
  /-- A token is no literal of its type. -/
  | notConvertible (token : String) (type : Primitive) (argument : String)
  /-- The size of an array cannot be evaluated. -/
  | sizeError (size argument : String) (cause : ExprError)
  /-- The size of an array is no finite number. -/
  | notFinite (size argument : String)
  /-- No command has this keyword. -/
  | unknownCommand (keyword : String)
  /-- The input line has no separator. -/
  | missingSeparator (line : String)
deriving DecidableEq

namespace Fault

/-- The kind of a fault. -/
def kind : Fault → FaultKind
  | unknownType .. | missingClause .. | emptySize .. | unknownElementType .. | undefinedNames .. =>
    .invalidTemplate
  | missingArgument .. | tooFewTokens .. | negativeSize .. => .argumentMismatch
  | notConvertible .. => .typeConversionFailed
  | sizeError .. | notFinite .. => .invalidExpression
  | unknownCommand .. => .commandNotFound
  | missingSeparator .. => .invalidInputFormat

/-- A fault in words. -/
def detail : Fault → String
  | unknownType t a => s!"Unknown data type '{t}' for argument '{a}'."
  | missingClause a => s!"Array '{a}' needs size details like <size> or <size, type>."
  | emptySize a => s!"Array '{a}' has an empty size expression."
  | unknownElementType t a => s!"Unknown array element type '{t}' for '{a}'."
  | undefinedNames s a ns =>
    let quotedNames := ", ".intercalate (ns.map Text.quoted)
    s!"Size expression '{s}' for array '{a}' refers to {quotedNames}, which must be defined "
      ++ "before it."
  | missingArgument a _ => s!"Missing argument for '{a}'."
  | tooFewTokens a e f => s!"Not enough arguments for array '{a}'. Expected {e}, found {f}."
  | negativeSize a n => s!"Calculated array size for '{a}' is negative ({n})."
  | notConvertible t p a =>
    let target := if a.isEmpty then "" else s!" for '{a}'"
    let hint := if p = .char then " Must be a single character." else ""
    s!"Cannot convert '{t}' to {p.label}{target}.{hint}"
  | sizeError s a cause =>
    s!"Could not evaluate array size '{s}' for '{a}'. Ensure all variables are numbers "
      ++ s!"({cause.message})."
  | notFinite s a => s!"Array size '{s}' for '{a}' is not a finite number."
  | unknownCommand k => s!"Command '{k}' not found."
  | missingSeparator _ => "Missing ':' separator. Use 'keyword:args'."

/-- A fault as fields. -/
def context : Fault → Fields Value
  | unknownType t a => [("type", .text t), ("argument", .text a)]
  | missingClause a => [("argument", .text a)]
  | emptySize a => [("argument", .text a)]
  | unknownElementType t a => [("type", .text t), ("argument", .text a)]
  | undefinedNames _ a ns => [("argument", .text a), ("names", .list (ns.map .text))]
  | missingArgument a p => [("argument", .text a), ("position", .int p)]
  | tooFewTokens a e f => [("argument", .text a), ("expected", .int e), ("found", .int f)]
  | negativeSize a n => [("argument", .text a), ("size", .int n)]
  | notConvertible t p a =>
    [("token", .text t), ("type", .text p.name), ("argument", .text a)]
  | sizeError s a _ => [("expression", .text s), ("argument", .text a)]
  | notFinite s a => [("expression", .text s), ("argument", .text a)]
  | unknownCommand k => [("keyword", .text k)]
  | missingSeparator l => [("line", .text l)]

end Fault

/-! ## Reports -/

/-- The report of a fault within a result. -/
structure Report where
  code : String
  message : String
  detail : Fields Value

/-- The text that names the kind of a fault before its words. -/
def FaultKind.announce (kind : FaultKind) (detail : String) : String := kind.code ++ ": " ++ detail

/-- The report of a fault given by its parts. -/
def FaultKind.report (kind : FaultKind) (detail : String) (context : Fields Value) : Report where
  code := kind.code
  message := kind.announce detail
  detail := context

/-- The whole text of a fault. -/
def Fault.message (f : Fault) : String := f.kind.announce f.detail

/-- The report of a fault. -/
def Fault.report (f : Fault) : Report := f.kind.report f.detail f.context

end LineCommands
