import LineCommands.Convert
import LineCommands.Expression.Size
import LineCommands.Template.Definition

/-!
# Binding tokens

The tokens of an input line are handed out to the definitions of a template in order. Each
definition takes a block from the front of what is left: one token, or as many as its size says
under the bindings made so far. This is what lets a count precede its array. A later definition of a
name replaces its value, for the sizes that follow too.

`Definition.take` says what one definition does with the tokens that are left; `bindFrom` carries
the bindings and the number of tokens consumed along the template.
-/

namespace LineCommands

/-- Converts all tokens of a block, stopping at the first that cannot be. -/
def convertAll (type : Primitive) (argument : String) : List String → Except Failure (List Value)
  | [] => .ok []
  | token :: rest => do
    let v ← convert token type argument
    let vs ← convertAll type argument rest
    return v :: vs

/-- The elements of an array from its block; without an element type they are strings. -/
def arrayElements (element : Option Primitive) (argument : String) (block : List String) :
    Except Failure (List Value) :=
  match element with
  | none => .ok (block.map .text)
  | some type => convertAll type argument block

namespace Definition

/-- The value that a definition makes from the tokens left, and how many it takes, where `consumed`
tokens have gone to the definitions before it. -/
def take (d : Definition) (bound : Bindings) (consumed : Nat) (tokens : List String) :
    Except Failure (Value × Nat) :=
  match d.kind with
  | .simple type =>
    match tokens with
    | [] => .error (.fault (.missingArgument d.name consumed))
    | token :: _ =>
      match convert token type d.name with
      | .ok v => .ok (v, 1)
      | .error e => .error e
  | .array size element =>
    match Size.evaluate size bound d.name with
    | .error f => .error (.fault f)
    | .ok n =>
      if tokens.length < n then .error (.fault (.tooFewTokens d.name n tokens.length))
      else
        match arrayElements element d.name (tokens.take n) with
        | .ok vs => .ok (.list vs, n)
        | .error e => .error e

/-- What is logged while the size of a definition is evaluated. -/
def takeRecords (d : Definition) (bound : Bindings) : List Log.Record :=
  match d.kind with
  | .simple _ => []
  | .array size _ => Size.records size bound d.name

end Definition

/-- A successful binding. -/
structure Bound where
  bindings : Bindings
  consumed : Nat
  /-- Tokens that no definition asked for. -/
  trailing : List String

namespace Bound

/-- The warnings that go with a binding. -/
def warnings (b : Bound) : List String :=
  if b.trailing.isEmpty then []
  else [s!"{b.trailing.length} trailing argument(s) were ignored."]

/-- The record of trailing tokens. -/
def trailingRecords (b : Bound) : List Log.Record :=
  if b.trailing.isEmpty then []
  else
    let shown := (Value.list (b.trailing.map .text)).literal
    [⟨.warning, .binder, s!"Ignored {b.trailing.length} trailing argument(s): {shown}"⟩]

end Bound

namespace Template

/-- Binds the tokens that are left to the definitions that are left. -/
def bindFrom (bound : Bindings) (consumed : Nat) :
    Template → List String → Except Failure Bound
  | [], tokens => .ok ⟨bound, consumed, tokens⟩
  | d :: ds, tokens =>
    match d.take bound consumed tokens with
    | .error e => .error e
    | .ok (v, n) => bindFrom (bound.set d.name v) (consumed + n) ds (tokens.drop n)

/-- Binds tokens to the definitions of a template. -/
def bind (ds : Template) (tokens : List String) : Except Failure Bound := bindFrom [] 0 ds tokens

/-- What is logged by `bindFrom`. -/
def bindRecordsFrom (bound : Bindings) (consumed : Nat) :
    Template → List String → List Log.Record
  | [], tokens => (Bound.mk bound consumed tokens).trailingRecords
  | d :: ds, tokens =>
    d.takeRecords bound
      ++ match d.take bound consumed tokens with
        | .error _ => []
        | .ok (v, n) => bindRecordsFrom (bound.set d.name v) (consumed + n) ds (tokens.drop n)

/-- What binding tokens to a template logs. -/
def bindRecords (ds : Template) (tokens : List String) : List Log.Record :=
  bindRecordsFrom [] 0 ds tokens

end Template

end LineCommands
