import LineCommands.Session

/-!
# Remembered expressions

In a session expressions are remembered besides templates. A text is parsed when a template that has
it as a size is compiled, and again when tokens are bound to the template; each time it is looked up
first. The functions on the way from the parser to the session are written here with the memo of
expressions handed on from each to the next. What they give is what the functions of the same names
give that parse every time, and this is all that is to be said of them.

The two memos are nested: compiling a template that is not remembered looks up its sizes, and when
the template is not in order after all, the sizes that were parsed stay remembered.
-/

namespace LineCommands

/-- A computation that may parse expressions on its way. -/
abbrev Recalling (α : Type) := StateM (Memo Expr) α

namespace Recall

/-- Parses an expression unless it is remembered. A text that is no expression is not remembered. -/
def parse (source : String) : Recalling (Except ExprError Expr) := fun memo ↦
  match memo.find? source with
  | some e => (.ok e, memo.remember source e)
  | none =>
    match Expr.parse source with
    | .ok e => (.ok e, memo.remember source e)
    | .error err => (.error err, memo)

/-! ## Compiling -/

/-- The names that a size refers to. -/
def referencedNames (source : String) : Recalling (List String) := do
  let cs := Text.trim source.toList
  if Text.isIntNumeral cs then return []
  else
    match ← parse (String.ofList cs) with
    | .ok e => return e.names
    | .error _ => return []

/-- The names that a size refers to beyond the `earlier` ones. -/
def undefinedNames (size : String) (earlier : List String) : Recalling (List String) := do
  let names ← referencedNames size
  return ((names.filter (!earlier.contains ·)).eraseDups).mergeSort (· ≤ ·)

/-- The array `name` with this size, which must not refer to anything else than `earlier` names. -/
def sizedArray (name size : String) (element : Option Primitive) (earlier : List String) :
    Recalling (Except Fault ArgumentKind) := do
  match ← undefinedNames size earlier with
  | [] => return .ok (.array size element)
  | missing => return .error (.undefinedNames size name missing)

/-- The kind of array that the clause of the entry `name` declares. The names of its size are looked
at last. -/
def arrayKind (name : String) (clause : Option String) (earlier : List String) :
    Recalling (Except Fault ArgumentKind) :=
  match clause with
  | none => return .error (.missingClause name)
  | some clause =>
    let parts := clauseParts clause.toList
    let size := parts.headD ""
    if size.isEmpty then return .error (.emptySize name)
    else
      match parts[1]? with
      | none => sizedArray name size none earlier
      | some part =>
        match Primitive.ofName? part with
        | some type => sizedArray name size (some type) earlier
        | none => return .error (.unknownElementType part name)

/-- The definition that an entry makes. -/
def define (e : Entry) (earlier : List String) : Recalling (Except Fault Definition) :=
  if e.type = arrayTypeName then do
    return (← arrayKind e.name e.clause earlier).map (⟨e.name, ·⟩)
  else
    match Primitive.ofName? e.type with
    | some type => return .ok ⟨e.name, .simple type⟩
    | none => return .error (.unknownType e.type e.name)

/-- The definitions of entries that come after entries with the `earlier` names. -/
def ofEntries (earlier : List String) : List Entry → Recalling (Except Fault Template)
  | [] => return .ok []
  | e :: rest => do
    match ← define e earlier with
    | .error f => return .error f
    | .ok d =>
      match ← ofEntries (earlier ++ [e.name]) rest with
      | .error f => return .error f
      | .ok ds => return .ok (d :: ds)

/-- The definitions that a template makes. -/
def compile (source : String) : Recalling (Except Fault Template) := ofEntries [] (entries source)

/-- Compiles a template unless it is remembered. -/
def compileIn (m : Memo Template) (source : String) : Recalling Compilation :=
  match m.find? source with
  | some ds => return ⟨.ok ds, [], m.remember source ds⟩
  | none => do
    match ← compile source with
    | .ok ds => return ⟨.ok ds, Template.compileRecords source, m.remember source ds⟩
    | .error f => return ⟨.error f, Template.compileRecords source, m⟩

/-! ## Binding -/

/-- The value of a size that is not a plain whole number, not yet cut off. -/
def evaluateExpr (source : String) (bound : Bindings) : Recalling (Except ExprError Number) := do
  match ← parse source with
  | .error err => return .error err
  | .ok e => return e.evaluate (Size.assignment bound)

/-- The size that a text stands for, before its sign is looked at. -/
def sizeValue (size : String) (bound : Bindings) (argument : String) :
    Recalling (Except Fault Int) := do
  let source := Text.trim size.toList
  if Text.isIntNumeral source then
    match Text.readInt? source with
    | some n => return .ok n
    | none => return .error (.notFinite size argument)
  else
    match ← evaluateExpr (String.ofList source) bound with
    | .error cause => return .error (.sizeError size argument cause)
    | .ok v => return if v.isFinite then .ok v.truncate else .error (.notFinite size argument)

/-- The number of elements of the array `argument`. -/
def evaluateSize (size : String) (bound : Bindings) (argument : String) :
    Recalling (Except Fault Nat) := do
  match ← sizeValue size bound argument with
  | .error f => return .error f
  | .ok (.ofNat n) => return .ok n
  | .ok n => return .error (.negativeSize argument n)

/-- The value that a definition makes from the tokens left, and how many it takes. -/
def take (d : Definition) (bound : Bindings) (consumed : Nat) (tokens : List String) :
    Recalling (Except Failure (Value × Nat)) :=
  match d.kind with
  | .simple type =>
    match tokens with
    | [] => return .error (.fault (.missingArgument d.name consumed))
    | token :: _ =>
      match convert token type d.name with
      | .ok v => return .ok (v, 1)
      | .error e => return .error e
  | .array size element => do
    match ← evaluateSize size bound d.name with
    | .error f => return .error (.fault f)
    | .ok n =>
      if tokens.length < n then return .error (.fault (.tooFewTokens d.name n tokens.length))
      else
        match arrayElements element d.name (tokens.take n) with
        | .ok vs => return .ok (.list vs, n)
        | .error e => return .error e

/-- Binds the tokens that are left to the definitions that are left. -/
def bindFrom (bound : Bindings) (consumed : Nat) :
    Template → List String → Recalling (Except Failure Bound)
  | [], tokens => return .ok ⟨bound, consumed, tokens⟩
  | d :: ds, tokens => do
    match ← take d bound consumed tokens with
    | .error e => return .error e
    | .ok (v, n) => bindFrom (bound.set d.name v) (consumed + n) ds (tokens.drop n)

/-- Binds tokens to the definitions of a template. -/
def bind (ds : Template) (tokens : List String) : Recalling (Except Failure Bound) :=
  bindFrom [] 0 ds tokens

/-! ## Running -/

open Dispatch in
/-- Runs a command on tokens: binds them and calls the action. -/
def runCommand (warnTrailing : Bool) (line : String) (tokens : List String) (c : Command)
    (memo : Memo Template) : Recalling Run := do
  let info := metadata line c.keyword tokens
  let compilation ← compileIn memo c.template
  match compilation.outcome with
  | .error f =>
    return ⟨.ok (.failure "run" f info), [], compilation.records ++ [failureRecord line f],
      compilation.memo⟩
  | .ok ds =>
    let records := compilation.records ++ ds.bindRecords tokens
    match ← bind ds tokens with
    | .error (.fault f) =>
      return ⟨.ok (.failure "run" f info), [], records ++ [failureRecord line f], compilation.memo⟩
    | .error (.unreadableFloat t) =>
      return ⟨.error (.unreadableFloat t), [], records, compilation.memo⟩
    | .ok b =>
      let calls := [⟨c.action, b.bindings⟩]
      match c.action.run b.bindings with
      | .error e => return ⟨.error (.action e), calls, records, compilation.memo⟩
      | .ok output =>
        return ⟨.ok (success warnTrailing line c.keyword tokens b output), calls,
          records ++ [successRecord c.keyword b.bindings], compilation.memo⟩

open Dispatch in
/-- Runs an input line. -/
def run (registry : Registry) (warnTrailing : Bool) (memo : Memo Template) (line : String) :
    Recalling Run :=
  match splitLine line with
  | .error f =>
    return ⟨.ok (.failure "run" f [("line", .text line)]), [], [failureRecord line f], memo⟩
  | .ok (keyword, tokens) =>
    match registry.get? keyword with
    | none =>
      let f := Fault.unknownCommand keyword
      return ⟨.ok (.failure "run" f (metadata line keyword tokens)), [], [failureRecord line f],
        memo⟩
    | some c => runCommand warnTrailing line tokens c memo

/-! ## Sessions -/

open Session in
/-- Does one step of a session. Only steps that run or compile come to expressions. -/
def perform (s : Session) (step : Step) : Recalling Performed :=
  match step with
  | .run line => do
    let r ← run s.registry s.warnTrailing s.memo line
    let answer := match r.outcome with
      | .ok result => Answer.result result
      | .error e => .escaped e
    return ⟨answer, r.calls, r.records, { s with memo := r.memo }⟩
  | .compile template => do
    let c ← compileIn s.memo template
    return ⟨.result (Dispatch.describe template c.outcome), [], c.records, { s with memo := c.memo }⟩
  | .compileCommand k =>
    match s.registry.get? k with
    | none => return s.lookUp (.fault (.unknownCommand k))
    | some command => do
      let c ← compileIn s.memo command.template
      let answer := match c.outcome with
        | .ok ds => Answer.template ds
        | .error f => .fault f
      return ⟨answer, [], c.records, { s with memo := c.memo }⟩
  | step => return s.perform step

/-- Does steps one after the other. -/
def performAll (s : Session) : List Session.Step → Recalling (List Session.Performed)
  | [] => return []
  | step :: rest => do
    let p ← perform s step
    return p :: (← performAll p.session rest)

end Recall

end LineCommands
