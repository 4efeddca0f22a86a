import LineCommands.Template.Definition
import LineCommands.Template.Entry
import LineCommands.Expression.Parser
import LineCommands.Fault
import LineCommands.Log

/-!
# Compiling templates

Each entry of a template becomes a definition. What an entry may say depends on the names of the
entries before it only through the sizes of arrays, which must not refer to anything else. The first
entry that is not in order decides the fault, and nothing after it is looked at.

An entry under a name that has been used before is in order; it is logged, because only the last
value of the name will be kept.
-/

namespace LineCommands

/-- The parts of a clause, which commas separate, without the blanks around them. -/
def clauseParts (clause : List Char) : List String :=
  (clause.splitOn ',').map fun part ↦ String.ofList (Text.trim part)

/-- The names that a size refers to beyond the `earlier` ones, in alphabetical order and once
each. -/
def undefinedNames (size : String) (earlier : List String) : List String :=
  (((Expr.referencedNames size).filter (!earlier.contains ·)).eraseDups).mergeSort (· ≤ ·)

/-- The kind of array that the clause of the entry `name` declares. -/
def arrayKind (name : String) (clause : Option String) (earlier : List String) :
    Except Fault ArgumentKind :=
  match clause with
  | none => .error (.missingClause name)
  | some clause =>
    let parts := clauseParts clause.toList
    let size := parts.headD ""
    if size.isEmpty then .error (.emptySize name)
    else
      let finish (element : Option Primitive) : Except Fault ArgumentKind :=
        match undefinedNames size earlier with
        | [] => .ok (.array size element)
        | missing => .error (.undefinedNames size name missing)
      match parts[1]? with
      | none => finish none
      | some part =>
        match Primitive.ofName? part with
        | some type => finish (some type)
        | none => .error (.unknownElementType part name)

namespace Entry

/-- The definition that an entry makes, after entries with the `earlier` names. -/
def define (e : Entry) (earlier : List String) : Except Fault Definition :=
  if e.type = arrayTypeName then (arrayKind e.name e.clause earlier).map (⟨e.name, ·⟩)
  else
    match Primitive.ofName? e.type with
    | some type => .ok ⟨e.name, .simple type⟩
    | none => .error (.unknownType e.type e.name)

end Entry

namespace Template

/-- The definitions of entries that come after entries with the `earlier` names. -/
def ofEntries (earlier : List String) : List Entry → Except Fault Template
  | [] => .ok []
  | e :: rest => do
    let d ← e.define earlier
    let ds ← ofEntries (earlier ++ [e.name]) rest
    return d :: ds

/-- The definitions that a template makes. -/
def compile (source : String) : Except Fault Template := ofEntries [] (entries source)

/-! ## Records -/

/-- The names, in order, under which an entry stands that is in order and comes after another of its
name, up to the first entry that is not in order. -/
def repeatedNames (earlier : List String) : List Entry → List String
  | [] => []
  | e :: rest =>
    match e.define earlier with
    | .error _ => []
    | .ok _ =>
      let later := repeatedNames (earlier ++ [e.name]) rest
      if earlier.contains e.name then e.name :: later else later

/-- The warning about a name that is used again. -/
def repeatedWarning (source name : String) : Log.Record :=
  ⟨.warning, .template,
    s!"Duplicate argument {Text.quoted name} in template {Text.quoted source}; last value wins"⟩

/-- What compiling a template logs. -/
def compileRecords (source : String) : List Log.Record :=
  (repeatedNames [] (entries source)).map (repeatedWarning source)
    ++ match compile source with
      | .ok ds =>
        [⟨.debug, .template,
          s!"Compiled template {Text.quoted source} into {ds.length} definition(s)"⟩]
      | .error _ => []

end Template

end LineCommands
