import LineCommands.Primitive

/-!
# Argument definitions

A compiled template is a list of argument definitions. A definition either takes one token and
converts it, or takes as many tokens as the value of a size expression says.
-/

namespace LineCommands

/-- How a definition turns tokens into a value. -/
inductive ArgumentKind where
  /-- One token of this type. -/
  | simple (type : Primitive)
  /-- As many tokens as the size says, kept as strings unless an element type is given. -/
  | array (size : String) (element : Option Primitive)
deriving DecidableEq, Repr

/-- A named slot of a template. -/
structure Definition where
  name : String
  kind : ArgumentKind
deriving DecidableEq, Repr

/-- A compiled template. -/
abbrev Template := List Definition

namespace Definition

/-- The definition is that of an array. -/
def isArray (d : Definition) : Bool :=
  match d.kind with
  | .simple _ => false
  | .array .. => true

/-- A definition as fields, for results. -/
def describe (d : Definition) : Fields Value :=
  match d.kind with
  | .simple type => [("name", .text d.name), ("kind", .text "simple"), ("type", .text type.name)]
  | .array size element =>
    [("name", .text d.name), ("kind", .text "array"), ("size", .text size),
      ("element_type", .ofText? (element.map Primitive.name))]

end Definition

end LineCommands
