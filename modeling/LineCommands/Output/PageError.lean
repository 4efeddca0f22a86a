import LineCommands.Output.Markup
import LineCommands.Primitive
import LineCommands.Value.Text

/-!
# Results without a page

A page asks more of a result than that it is a value: what was bound has a type, a definition is a
record with the fields that its table shows, and a name in a table is well-formed markup. The
results that the library makes are like this. Of one that is not, the first thing that is amiss is told.
-/

namespace LineCommands

/-- Why a result has no page. -/
inductive PageError where
  /-- A value among the bindings has no type. -/
  | untyped (e : TypeError)
  /-- What stands for the bindings is no record. -/
  | notBindings (v : Value)
  /-- What stands for the definitions is no list. -/
  | notDefinitions (v : Value)
  /-- A definition is no record. -/
  | notDefinition (v : Value)
  /-- A definition lacks a field. -/
  | missingField (name : String)
  /-- The type of a definition is no text. -/
  | typeNotText (v : Value)
  /-- The name of a definition is no text. -/
  | nameNotText (v : Value)
  /-- A name is not well-formed markup. -/
  | markup (e : Output.MarkupError)

namespace PageError

/-- The kind of an error. -/
def name : PageError → String
  | untyped _ | notDefinitions _ | notDefinition _ => "TypeError"
  | notBindings _ | typeNotText _ => "AttributeError"
  | missingField _ => "KeyError"
  | nameNotText _ => "NotRenderableError"
  | markup .missingComponent => "ValueError"
  | markup _ => "MarkupError"

/-- How an error is told. -/
def message : PageError → String
  | untyped e => e.message
  | notBindings v => s!"'{v.kind}' object has no attribute 'items'"
  | notDefinitions v => s!"'{v.kind}' object is not iterable"
  | notDefinition v =>
    match v with
    | .text _ | .char _ => "string indices must be integers, not 'str'"
    | .list _ => "list indices must be integers or slices, not str"
    | v => s!"'{v.kind}' object is not subscriptable"
  | missingField name => name
  | typeNotText v => s!"'{v.kind}' object has no attribute 'translate'"
  | nameNotText v =>
    s!"unable to render {v.kind}; a string or other renderable object is required"
  | markup e => e.message

end PageError

end LineCommands
