import LineCommands.Recall

/-!
# Remembered expressions are invisible

A computation that looks its expressions up *gives* a value when it has this value whatever is
remembered, as long as what is remembered was parsed, and when it leaves the memo like this. Parsing
gives the expression that the parser gives, computations one after the other give what their values
give (`Gives.bind`), and so on the way from the parser to sessions every function gives the value of
the one that remembers nothing.
-/

namespace LineCommands

/-- Whatever expressions are remembered, the value is this one, and those that are remembered
afterwards are again what parsing gives. -/
def Recalling.Gives {α : Type} (x : Recalling α) (a : α) : Prop :=
  ∀ memo : Memo Expr, memo.Sound Expr.parse →
    (x.run memo).1 = a ∧ (x.run memo).2.Sound Expr.parse

namespace Recalling

variable {α β : Type} {x : Recalling α} {f : α → Recalling β} {a : α} {b : β}

theorem gives_pure (a : α) : Gives (pure a) a := fun _ hmemo ↦ ⟨rfl, hmemo⟩

theorem Gives.bind (hx : Gives x a) (hf : Gives (f a) b) : Gives (x >>= f) b := by
  intro memo hmemo
  obtain ⟨hvalue, hsound⟩ := hx memo hmemo
  have hrun : (x >>= f).run memo = (f (x.run memo).1).run (x.run memo).2 := rfl
  rw [hrun, hvalue]
  exact hf _ hsound

end Recalling

namespace Recall

open Recalling

theorem gives_parse (source : String) : Gives (parse source) (Expr.parse source) := by
  intro memo hmemo
  change (parse source memo).1 = _ ∧ (parse source memo).2.Sound _
  rw [parse]
  cases hfind : memo.find? source with
  | some e => exact ⟨(hmemo.find? hfind).symm, hmemo.remember (hmemo.find? hfind)⟩
  | none =>
    cases hparse : Expr.parse source with
    | ok e => exact ⟨rfl, hmemo.remember hparse⟩
    | error err => exact ⟨rfl, hmemo⟩

/-! ## Compiling -/

theorem gives_referencedNames (source : String) :
    Gives (referencedNames source) (Expr.referencedNames source) := by
  rw [referencedNames, Expr.referencedNames]
  split
  · exact gives_pure _
  · refine (gives_parse _).bind ?_
    cases Expr.parse (String.ofList (Text.trim source.toList)) with
    | ok e => exact gives_pure _
    | error err => exact gives_pure _

theorem gives_undefinedNames (size : String) (earlier : List String) :
    Gives (undefinedNames size earlier) (LineCommands.undefinedNames size earlier) :=
  (gives_referencedNames size).bind (gives_pure _)

/-- Whatever the element type is, what is left in the end is to look at the names of the size. -/
theorem gives_sizedArray (name size : String) (element : Option Primitive)
    (earlier : List String) :
    Gives (sizedArray name size element earlier)
      (match LineCommands.undefinedNames size earlier with
        | [] => Except.ok (.array size element)
        | missing => Except.error (.undefinedNames size name missing)) := by
  refine (gives_undefinedNames size earlier).bind ?_
  cases LineCommands.undefinedNames size earlier with
  | nil => exact gives_pure _
  | cons missing others => exact gives_pure _

theorem gives_arrayKind (name : String) (clause : Option String) (earlier : List String) :
    Gives (arrayKind name clause earlier) (LineCommands.arrayKind name clause earlier) := by
  cases clause with
  | none => exact gives_pure _
  | some clause =>
    simp only [arrayKind, LineCommands.arrayKind]
    generalize (clauseParts clause.toList).headD "" = size
    split
    · exact gives_pure _
    · cases (clauseParts clause.toList)[1]? with
      | none => exact gives_sizedArray name size none earlier
      | some part =>
        simp only
        cases Primitive.ofName? part with
        | none => exact gives_pure _
        | some type => exact gives_sizedArray name size (some type) earlier

theorem gives_define (e : Entry) (earlier : List String) :
    Gives (define e earlier) (e.define earlier) := by
  rw [define, Entry.define]
  split
  · exact (gives_arrayKind e.name e.clause earlier).bind (gives_pure _)
  · cases Primitive.ofName? e.type with
    | none => exact gives_pure _
    | some type => exact gives_pure _

theorem gives_ofEntries (earlier : List String) (es : List Entry) :
    Gives (ofEntries earlier es) (Template.ofEntries earlier es) := by
  induction es generalizing earlier with
  | nil => exact gives_pure _
  | cons e es ih =>
    refine (gives_define e earlier).bind ?_
    rw [Template.ofEntries]
    cases e.define earlier with
    | error f => exact gives_pure _
    | ok d =>
      refine (ih (earlier ++ [e.name])).bind ?_
      cases Template.ofEntries (earlier ++ [e.name]) es with
      | error f => exact gives_pure _
      | ok ds => exact gives_pure _

theorem gives_compileIn (m : Memo Template) (source : String) :
    Gives (compileIn m source) (m.compile source) := by
  rw [compileIn, Memo.compile]
  cases m.find? source with
  | some ds => exact gives_pure _
  | none =>
    refine (gives_ofEntries [] (entries source)).bind ?_
    rw [Template.compile]
    cases Template.ofEntries [] (entries source) with
    | error f => exact gives_pure _
    | ok ds => exact gives_pure _

/-! ## Binding -/

theorem gives_evaluateExpr (source : String) (bound : Bindings) :
    Gives (evaluateExpr source bound) (Size.evaluateExpr source bound) := by
  refine (gives_parse source).bind ?_
  rw [Size.evaluateExpr]
  cases Expr.parse source with
  | error err => exact gives_pure _
  | ok e => exact gives_pure _

theorem gives_sizeValue (size : String) (bound : Bindings) (argument : String) :
    Gives (sizeValue size bound argument) (Size.value size bound argument) := by
  simp only [sizeValue, Size.value]
  split
  · cases Text.readInt? (Text.trim size.toList) with
    | none => exact gives_pure _
    | some n => exact gives_pure _
  · refine (gives_evaluateExpr _ bound).bind ?_
    cases Size.evaluateExpr (String.ofList (Text.trim size.toList)) bound with
    | error cause => exact gives_pure _
    | ok v => exact gives_pure _

theorem gives_evaluateSize (size : String) (bound : Bindings) (argument : String) :
    Gives (evaluateSize size bound argument) (Size.evaluate size bound argument) := by
  refine (gives_sizeValue size bound argument).bind ?_
  rw [Size.evaluate]
  cases Size.value size bound argument with
  | error f => exact gives_pure _
  | ok n =>
    cases n with
    | ofNat n => exact gives_pure _
    | negSucc n => exact gives_pure _

theorem gives_take (d : Definition) (bound : Bindings) (consumed : Nat) (tokens : List String) :
    Gives (take d bound consumed tokens) (d.take bound consumed tokens) := by
  obtain ⟨name, kind⟩ := d
  cases kind with
  | simple type =>
    cases tokens with
    | nil => exact gives_pure _
    | cons token tokens =>
      simp only [take, Definition.take]
      cases convert token type name with
      | error e => exact gives_pure _
      | ok v => exact gives_pure _
  | array size element =>
    refine (gives_evaluateSize size bound name).bind ?_
    simp only [Definition.take]
    cases Size.evaluate size bound name with
    | error f => exact gives_pure _
    | ok n =>
      simp only
      split
      · exact gives_pure _
      · cases arrayElements element name (tokens.take n) with
        | error e => exact gives_pure _
        | ok vs => exact gives_pure _

theorem gives_bindFrom (bound : Bindings) (consumed : Nat) (ds : Template) (tokens : List String) :
    Gives (bindFrom bound consumed ds tokens) (Template.bindFrom bound consumed ds tokens) := by
  induction ds generalizing bound consumed tokens with
  | nil => exact gives_pure _
  | cons d ds ih =>
    refine (gives_take d bound consumed tokens).bind ?_
    rw [Template.bindFrom]
    cases d.take bound consumed tokens with
    | error e => exact gives_pure _
    | ok taken => exact ih _ _ _

/-! ## Running -/

theorem gives_runCommand (warnTrailing : Bool) (line : String) (tokens : List String) (c : Command)
    (memo : Memo Template) :
    Gives (runCommand warnTrailing line tokens c memo)
      (Dispatch.runCommand warnTrailing line tokens c memo) := by
  refine (gives_compileIn memo c.template).bind ?_
  simp only [Dispatch.runCommand]
  generalize memo.compile c.template = compilation
  obtain ⟨outcome, records, memo⟩ := compilation
  cases outcome with
  | error f => exact gives_pure _
  | ok ds =>
    refine (gives_bindFrom [] 0 ds tokens).bind ?_
    simp only [Template.bind]
    cases Template.bindFrom [] 0 ds tokens with
    | error e =>
      cases e with
      | fault f => exact gives_pure _
      | unreadableFloat t => exact gives_pure _
    | ok b =>
      simp only
      cases c.action.run b.bindings with
      | error e => exact gives_pure _
      | ok output => exact gives_pure _

theorem gives_run (registry : Registry) (warnTrailing : Bool) (memo : Memo Template)
    (line : String) :
    Gives (run registry warnTrailing memo line) (Dispatch.run registry warnTrailing memo line) := by
  rw [run, Dispatch.run]
  cases splitLine line with
  | error f => exact gives_pure _
  | ok split =>
    simp only
    cases registry.get? split.1 with
    | none => exact gives_pure _
    | some c => exact gives_runCommand warnTrailing line split.2 c memo

/-! ## Sessions -/

theorem gives_perform (s : Session) (step : Session.Step) :
    Gives (perform s step) (s.perform step) := by
  cases step with
  | run line => exact (gives_run s.registry s.warnTrailing s.memo line).bind (gives_pure _)
  | compile template => exact (gives_compileIn s.memo template).bind (gives_pure _)
  | compileCommand keyword =>
    simp only [perform, Session.perform]
    cases s.registry.get? keyword with
    | none => exact gives_pure _
    | some command => exact (gives_compileIn s.memo command.template).bind (gives_pure _)
  | _ => exact gives_pure _

/-- **Sessions.** The steps of a session give what they give without remembered expressions. -/
theorem gives_performAll (s : Session) (steps : List Session.Step) :
    Gives (performAll s steps) (s.performAll steps) := by
  induction steps generalizing s with
  | nil => exact gives_pure _
  | cons step steps ih =>
    exact (gives_perform s step).bind ((ih (s.perform step).session).bind (gives_pure _))

end Recall

end LineCommands
