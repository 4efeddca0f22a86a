import Mathlib
import LineCommands.Proofs.Binding.Failure
import LineCommands.Proofs.Dispatch.Course
import LineCommands.Proofs.Template.Validity

/-!
# The verdict on a line

A dispatch that has a result has judged its line by the earliest stage that fails: the code of the
error says which stage it was, and there is no error when there was none. `Verdict` puts this as one
equivalence for each stage. `Account` says what else is in a result and how it goes with what was
called: a failure has called nothing and tells nothing but its error, and a success has called the
action once, with the bindings that it reports.

Between the two stands `FailsWith`, the fault of the earliest stage that fails. A line has at most
one, the result reports it, and its kind tells the stage.
-/

namespace LineCommands

theorem FaultKind.code_injective : Function.Injective FaultKind.code := by
  have hcode : ∀ kind : FaultKind, ofCode? kind.code = some kind := by
    intro kind
    cases kind <;> rfl
  intro a b h
  exact Option.some.inj ((hcode a).symm.trans (h ▸ hcode b))

namespace Result

/-- The code of the error of a result. -/
def code? (r : Result) : Option String := r.error.map (·.code)

/-- What the metadata of a result says under a name. -/
def info? (r : Result) (name : String) : Option Value := r.metadata.bind (Fields.get? name)

end Result

namespace Dispatch

variable {registry : Registry} {warnTrailing : Bool} {line : String} {r : Result}
  {calls : List Call}

/-! ## The fault of a line -/

/-- The earliest stage that fails on the line fails with this fault. -/
inductive FailsWith (registry : Registry) (line : String) : Fault → Prop
  | format (hline : ':' ∉ line.toList) : FailsWith registry line (.missingSeparator line)
  | command {keyword : String} {tokens : List String} (hline : SplitsInto line keyword tokens)
      (hget : registry.get? keyword = none) : FailsWith registry line (.unknownCommand keyword)
  | template {c : Command} {tokens : List String} {f : Fault}
      (hline : Addresses registry line c tokens) (hcompile : Template.compile c.template = .error f) :
      FailsWith registry line f
  | binding {c : Command} {tokens : List String} {ds : Template} {f : Fault}
      (hline : Addresses registry line c tokens) (hcompile : Template.compile c.template = .ok ds)
      (hbind : ds.bind tokens = .error (.fault f)) : FailsWith registry line f

theorem FailsWith.ends {f : Fault} (hf : FailsWith registry line f) :
    ∃ info, Ends registry warnTrailing line (.ok (.failure "run" f info)) [] := by
  cases hf with
  | format hline => exact ⟨_, .format hline⟩
  | command hline hget => exact ⟨_, .command hline hget⟩
  | template hline hcompile => exact ⟨_, .template hline hcompile⟩
  | binding hline hcompile hbind => exact ⟨_, .binding hline hcompile hbind⟩

theorem error_of_failsWith (h : Ends registry warnTrailing line (.ok r) calls) {f : Fault}
    (hf : FailsWith registry line f) : r.error = some f.report := by
  obtain ⟨info, hends⟩ := hf.ends
  obtain rfl := Except.ok.inj (h.unique hends).1
  rfl

/-- What fails has a fault and no calls. -/
theorem exists_failsWith_of_ok_eq_false (h : Ends registry warnTrailing line (.ok r) calls)
    (hok : r.ok = false) :
    calls = [] ∧ ∃ f info, FailsWith registry line f ∧ r = .failure "run" f info := by
  cases h with
  | format hline => exact ⟨rfl, _, _, .format hline, rfl⟩
  | command hline hget => exact ⟨rfl, _, _, .command hline hget, rfl⟩
  | template hline hcompile => exact ⟨rfl, _, _, .template hline hcompile, rfl⟩
  | binding hline hcompile hbind => exact ⟨rfl, _, _, .binding hline hcompile hbind, rfl⟩
  | success => cases hok

theorem error_of_ok (h : Ends registry warnTrailing line (.ok r) calls) (hok : r.ok = true) :
    r.error = none := by
  cases h with
  | success => rfl
  | _ => cases hok

/-- The code of a result is that of the fault of its line. -/
theorem code?_eq_some_iff (h : Ends registry warnTrailing line (.ok r) calls) {kind : FaultKind} :
    r.code? = some kind.code ↔ ∃ f, FailsWith registry line f ∧ f.kind = kind := by
  constructor
  · intro hcode
    cases hok : r.ok with
    | true =>
      rw [Result.code?, error_of_ok h hok] at hcode
      cases hcode
    | false =>
      obtain ⟨-, f, info, hf, rfl⟩ := exists_failsWith_of_ok_eq_false h hok
      exact ⟨f, hf, FaultKind.code_injective (Option.some.inj hcode)⟩
  · rintro ⟨f, hf, rfl⟩
    rw [Result.code?, error_of_failsWith h hf]
    rfl

/-! ## The stage of a fault -/

/-- What holds of a line when a fault of this kind is the fault of the line. -/
def FailsAt (registry : Registry) (line : String) (f : Fault) : FaultKind → Prop
  | .invalidInputFormat => ':' ∉ line.toList
  | .commandNotFound =>
    ∃ keyword tokens, SplitsInto line keyword tokens ∧ registry.get? keyword = none
  | .invalidTemplate =>
    ∃ c tokens, Addresses registry line c tokens ∧ Template.compile c.template = .error f
  | .argumentMismatch | .typeConversionFailed | .invalidExpression =>
    ∃ c tokens ds, Addresses registry line c tokens ∧ Template.compile c.template = .ok ds ∧
      ds.bind tokens = .error (.fault f)

/-- **Stages.** The kind of the fault tells at which stage the line fails. -/
theorem FailsWith.failsAt {f : Fault} (hf : FailsWith registry line f) :
    FailsAt registry line f f.kind := by
  cases hf with
  | format hline => exact hline
  | command hline hget => exact ⟨_, _, hline, hget⟩
  | template hline hcompile =>
    rw [Template.kind_of_compile hcompile]
    exact ⟨_, _, hline, hcompile⟩
  | binding hline hcompile hbind =>
    -- Binding has faults of three kinds, which stand for the same stage.
    obtain hkind | hkind | hkind := Template.kind_of_bind hbind
    all_goals
      rw [hkind]
      exact ⟨_, _, _, hline, hcompile, hbind⟩

theorem failsWith_invalidInputFormat_iff :
    (∃ f, FailsWith registry line f ∧ f.kind = .invalidInputFormat) ↔ ':' ∉ line.toList := by
  constructor
  · rintro ⟨f, hf, hkind⟩
    have hline := hf.failsAt
    rwa [hkind] at hline
  · exact fun hline ↦ ⟨_, .format hline, rfl⟩

theorem failsWith_commandNotFound_iff {keyword : String} {tokens : List String}
    (hsplit : SplitsInto line keyword tokens) :
    (∃ f, FailsWith registry line f ∧ f.kind = .commandNotFound) ↔
      registry.get? keyword = none := by
  constructor
  · rintro ⟨f, hf, hkind⟩
    have hstage := hf.failsAt
    rw [hkind] at hstage
    obtain ⟨keyword', tokens', hline, hget⟩ := hstage
    obtain ⟨rfl, -⟩ := hsplit.unique hline
    exact hget
  · exact fun hget ↦ ⟨_, .command hsplit hget, rfl⟩

theorem failsWith_invalidTemplate_iff {c : Command} {tokens : List String}
    (haddress : Addresses registry line c tokens) :
    (∃ f, FailsWith registry line f ∧ f.kind = .invalidTemplate) ↔
      ∃ f, Template.compile c.template = .error f := by
  constructor
  · rintro ⟨f, hf, hkind⟩
    have hstage := hf.failsAt
    rw [hkind] at hstage
    obtain ⟨c', tokens', hline, hcompile⟩ := hstage
    obtain ⟨rfl, -⟩ := haddress.unique hline
    exact ⟨f, hcompile⟩
  · rintro ⟨f, hcompile⟩
    exact ⟨f, .template haddress hcompile, Template.kind_of_compile hcompile⟩

theorem failsWith_iff_of_compile {c : Command} {tokens : List String} {ds : Template} {f : Fault}
    (haddress : Addresses registry line c tokens)
    (hcompile : Template.compile c.template = .ok ds) :
    FailsWith registry line f ↔ ds.bind tokens = .error (.fault f) := by
  constructor
  · intro hf
    cases hf with
    | format hline => exact absurd haddress.split.mem hline
    | command hline hget =>
      obtain ⟨rfl, -⟩ := haddress.split.unique hline
      rw [haddress.get] at hget
      cases hget
    | template hline hfault =>
      obtain ⟨rfl, -⟩ := haddress.unique hline
      rw [hcompile] at hfault
      cases hfault
    | binding hline hcompile' hbind =>
      obtain ⟨rfl, rfl⟩ := haddress.unique hline
      obtain rfl := Except.ok.inj (hcompile.symm.trans hcompile')
      exact hbind
  · exact fun hbind ↦ .binding haddress hcompile hbind

/-! ## The verdict -/

/-- The codes of the faults that binding ends in. -/
def bindingCodes : List String := ["ArgumentMismatch", "TypeConversionFailed", "InvalidExpression"]

/-- The result judges the line by the earliest stage that fails. -/
structure Verdict (registry : Registry) (line : String) (r : Result) : Prop where
  /-- The line has no colon. -/
  format : r.code? = some "InvalidInputFormat" ↔ ':' ∉ line.toList
  /-- The text before the first colon is the keyword of no command. -/
  command : ∀ keyword tokens, SplitsInto line keyword tokens →
    (r.code? = some "CommandNotFound" ↔ registry.get? keyword = none)
  /-- The template of the command cannot be described, and describing it fails with the same
  report. -/
  template : ∀ c tokens, Addresses registry line c tokens →
    ∀ memo : Memo Template, memo.Sound Template.compile →
      (r.code? = some "InvalidTemplate" ↔
        (describe c.template (memo.compile c.template).outcome).ok = false) ∧
      (r.code? = some "InvalidTemplate" →
        r.error = (describe c.template (memo.compile c.template).outcome).error)
  /-- The tokens do not bind to what the template makes. -/
  binding : ∀ c tokens ds, Addresses registry line c tokens →
    Template.compile c.template = .ok ds →
      (r.ok = false ↔ ∃ f, ds.bind tokens = .error (.fault f)) ∧
      ∀ f, ds.bind tokens = .error (.fault f) →
        r.error = some f.report ∧ f.report.code ∈ bindingCodes

theorem ok_describe_eq_false_iff {source : String} {outcome : Except Fault Template} :
    (describe source outcome).ok = false ↔ ∃ f, outcome = .error f := by
  cases outcome with
  | ok ds => simp [describe]
  | error f => simp [describe, Result.failure]

theorem code_mem_bindingCodes {ds : Template} {tokens : List String} {f : Fault}
    (h : ds.bind tokens = .error (.fault f)) : f.report.code ∈ bindingCodes := by
  have hcode : f.report.code = f.kind.code := rfl
  rw [hcode]
  obtain hkind | hkind | hkind := Template.kind_of_bind h <;> rw [hkind] <;> decide

theorem ok_eq_false_iff (h : Ends registry warnTrailing line (.ok r) calls) :
    r.ok = false ↔ ∃ f, FailsWith registry line f := by
  constructor
  · intro hok
    obtain ⟨-, f, -, hf, -⟩ := exists_failsWith_of_ok_eq_false h hok
    exact ⟨f, hf⟩
  · rintro ⟨f, hf⟩
    rw [← Bool.not_eq_true]
    intro hok
    have herror := error_of_ok h hok
    rw [error_of_failsWith h hf] at herror
    cases herror

theorem verdict_of_ends (h : Ends registry warnTrailing line (.ok r) calls) :
    Verdict registry line r where
  format := (code?_eq_some_iff h).trans failsWith_invalidInputFormat_iff
  command keyword tokens hsplit := (code?_eq_some_iff h).trans (failsWith_commandNotFound_iff hsplit)
  template c tokens haddress memo hmemo := by
    -- With a sound memo the template is described as it is compiled for the line.
    have hcode := (code?_eq_some_iff h).trans (failsWith_invalidTemplate_iff haddress)
    rw [hmemo.outcome_compile]
    refine ⟨hcode.trans ok_describe_eq_false_iff.symm, fun hcode' ↦ ?_⟩
    obtain ⟨f, hcompile⟩ := hcode.mp hcode'
    rw [hcompile, error_of_failsWith h (.template haddress hcompile)]
    rfl
  binding c tokens ds haddress hcompile := by
    refine ⟨(ok_eq_false_iff h).trans (exists_congr fun f ↦ failsWith_iff_of_compile haddress
      hcompile), fun f hbind ↦ ⟨?_, code_mem_bindingCodes hbind⟩⟩
    exact error_of_failsWith h (.binding haddress hcompile hbind)

/-! ## The account -/

/-- The result of calling the action of a command with the bindings `b`, which returned `output`. -/
structure Reports (warnTrailing : Bool) (r : Result) (calls : List Call) (c : Command) (b : Bound)
    (output : Value) : Prop where
  /-- The action was called once. -/
  calls : calls = [⟨c.action, b.bindings⟩]
  keyword : Fields.get? "keyword" r.data = some (.text c.keyword)
  /-- The bindings are those of the call. -/
  bindings : Fields.get? "bindings" r.data = some (.record b.bindings)
  output : Fields.get? "output" r.data = if output matches .absent then none else some output
  error : r.error = none
  warnings : r.warnings = if warnTrailing then b.warnings else []
  consumed : r.info? "consumed" = some (.int b.consumed)

/-- What a result holds, and what was called for it. -/
structure Account (registry : Registry) (warnTrailing : Bool) (line : String) (r : Result)
    (calls : List Call) : Prop where
  op : r.op = "run"
  /-- A failure has called nothing and holds nothing but its error. -/
  failure : r.ok = false →
    calls = [] ∧ r.data = [] ∧ r.warnings = [] ∧ r.error ≠ none ∧ r.info? "consumed" = none
  /-- A success reports a call of the action of the command with what the tokens bind to. -/
  success : r.ok = true → ∃ c tokens ds b output, Addresses registry line c tokens ∧
    Template.compile c.template = .ok ds ∧ ds.bind tokens = .ok b ∧
    c.action.run b.bindings = .ok output ∧ Reports warnTrailing r calls c b output
  text : r.info? "line" = some (.text line)
  /-- The keyword and the number of tokens are told where there is a colon. -/
  split : ∀ keyword tokens, SplitsInto line keyword tokens →
    r.info? "keyword" = some (.text keyword) ∧ r.info? "tokens" = some (.int tokens.length)
  bare : ':' ∉ line.toList → r.info? "keyword" = none ∧ r.info? "tokens" = none

theorem reports_success {c : Command} {tokens : List String} {b : Bound} {output : Value} :
    Reports warnTrailing (success warnTrailing line c.keyword tokens b output)
      [⟨c.action, b.bindings⟩] c b output where
  calls := rfl
  keyword := rfl
  bindings := rfl
  output := by cases output <;> rfl
  error := rfl
  warnings := rfl
  consumed := rfl

theorem info?_of_splitsInto {keyword : String} {tokens : List String}
    (h : Ends registry warnTrailing line (.ok r) calls) (hsplit : SplitsInto line keyword tokens) :
    r.info? "keyword" = some (.text keyword) ∧ r.info? "tokens" = some (.int tokens.length) := by
  cases h with
  | format hline => exact absurd hsplit.mem hline
  | command hline _ =>
    obtain ⟨rfl, rfl⟩ := hsplit.unique hline
    exact ⟨rfl, rfl⟩
  | template hline _ | binding hline _ _ | success hline _ _ _ =>
    obtain ⟨rfl, rfl⟩ := hsplit.unique hline.split
    exact ⟨rfl, rfl⟩

theorem account_of_ends (h : Ends registry warnTrailing line (.ok r) calls) :
    Account registry warnTrailing line r calls where
  op := by cases h <;> rfl
  failure hok := by
    cases h with
    | success => cases hok
    | _ => exact ⟨rfl, rfl, rfl, nofun, rfl⟩
  success hok := by
    cases h with
    | success hline hcompile hbind haction =>
      exact ⟨_, _, _, _, _, hline, hcompile, hbind, haction, reports_success⟩
    | _ => cases hok
  text := by cases h <;> rfl
  split keyword tokens hsplit := info?_of_splitsInto h hsplit
  bare hline := by
    cases h with
    | format => exact ⟨rfl, rfl⟩
    | command hsplit => exact absurd hsplit.mem hline
    | template haddress | binding haddress | success haddress =>
      exact absurd haddress.split.mem hline

/-- **The verdict of a dispatch.** A result judges its line by the earliest stage that fails, and the
action is called exactly when none does, with the bindings that the result reports. -/
theorem run_gives_verdict {memo : Memo Template} (hmemo : memo.Sound Template.compile)
    (h : (run registry warnTrailing memo line).outcome = .ok r) :
    Verdict registry line r ∧
      Account registry warnTrailing line r (run registry warnTrailing memo line).calls := by
  have hends := ends_run hmemo registry warnTrailing line
  rw [h] at hends
  exact ⟨verdict_of_ends hends, account_of_ends hends⟩

theorem run_gives_verdict_trailing :
    ∃ r, (run (Registry.empty.add ⟨"s", "", "&string x", .builtin .echo⟩) true .empty
        "s:a b").outcome = .ok r ∧
      r.ok = true ∧ r.warnings = ["1 trailing argument(s) were ignored."] ∧
      Verdict (Registry.empty.add ⟨"s", "", "&string x", .builtin .echo⟩) "s:a b" r ∧
      Account (Registry.empty.add ⟨"s", "", "&string x", .builtin .echo⟩) true "s:a b" r
        [⟨.builtin .echo, [("x", .text "a")]⟩] := by
  have hcalls : (run (Registry.empty.add ⟨"s", "", "&string x", .builtin .echo⟩) true .empty
      "s:a b").calls = [⟨.builtin .echo, [("x", .text "a")]⟩] := by cbv
  have hreturns : ∃ r, (run (Registry.empty.add ⟨"s", "", "&string x", .builtin .echo⟩) true .empty
      "s:a b").outcome = .ok r ∧ r.ok = true ∧
        r.warnings = ["1 trailing argument(s) were ignored."] := ⟨_, by cbv, rfl, rfl⟩
  obtain ⟨r, hr, hok, hwarnings⟩ := hreturns
  obtain ⟨hverdict, haccount⟩ := run_gives_verdict (Memo.sound_empty _) hr
  rw [hcalls] at haccount
  exact ⟨r, hr, hok, hwarnings, hverdict, haccount⟩

end Dispatch

end LineCommands
