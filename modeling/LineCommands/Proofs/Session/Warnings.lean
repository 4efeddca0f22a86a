import LineCommands.Proofs.Dispatch.Compilations
import LineCommands.Proofs.Session.Statelessness
import LineCommands.Proofs.Template.Repeats

/-!
# Sessions warn about a template until it compiles

Lines that are run, templates that are compiled and commands whose template is compiled all go
through one memo, so the compiler's records of a session are told by the templates compiled in it,
one after the other (`Session.sources`). A template that was in order is never warned about again. A
template that is not warns each time, about the names used again before its first entry that is out
of order.
-/

namespace LineCommands

open Log

/-- What the compiler logs about a template after others were compiled: nothing if it is one of
them and in order, and otherwise a warning for each name in its valid front that is used again. -/
structure Template.Warns (earlier : List String) (source : String) (records : List Record) :
    Prop where
  known : ∀ ds, source ∈ earlier → compile source = .ok ds → records = []
  unknown : (source ∈ earlier → ∃ f, compile source = .error f) →
    ∃ es front, Scan source.toList es ∧ IsValidFront es front ∧
      records.filter (·.level == .warning) = (namesAgain front).map (repeatedWarning source)

theorem Memo.Holds.warns {memo : Memo Template} {sources : List String}
    (h : memo.Holds sources) (source : String) :
    Template.Warns sources source (memo.compile source).records where
  known := by
    intro ds hmem hcompile
    rw [h.records_compile, if_pos ⟨hmem, Template.compiles_iff.mpr ⟨ds, hcompile⟩⟩]
  unknown := by
    intro hfailed
    have hnot : ¬(source ∈ sources ∧ Template.compiles source = true) := by
      rintro ⟨hmem, hgood⟩
      obtain ⟨f, hf⟩ := hfailed hmem
      obtain ⟨ds, hds⟩ := Template.compiles_iff.mp hgood
      cases hf.symm.trans hds
    have hscan := scan_entriesFrom source.toList
    obtain ⟨front, hfront⟩ := Template.exists_isValidFront (entriesFrom source.toList)
    refine ⟨_, front, hscan, hfront, ?_⟩
    rw [h.records_compile, if_neg hnot, Template.warnings_compileRecords hscan hfront]

namespace Session

/-! ## What a session has compiled -/

/-- The template that a step has compiled, given the commands that there are: for a line that is run
the template of its command. -/
def Step.source? (registry : Registry) : Step → Option String
  | .run line => Dispatch.source? registry line
  | .compile template => some template
  | .compileCommand keyword => (registry.get? keyword).map (·.template)
  | _ => none

/-- The templates that steps have compiled, in order. -/
def sources (registry : Registry) : List Step → List String
  | [] => []
  | step :: steps =>
    (step.source? registry).toList ++ sources (step.command?.elim registry registry.add) steps

theorem memo_perform (s : Session) (step : Step) :
    (s.perform step).session.memo
      = (step.source? s.registry).elim s.memo fun t ↦ (s.memo.compile t).memo := by
  cases step with
  | run line => exact Dispatch.memo_run s.registry s.warnTrailing s.memo line
  | compileCommand keyword =>
    rw [perform, Step.source?]
    cases s.registry.get? keyword with
    | none => rfl
    | some c => rfl
  | _ => rfl

theorem source_of_mem_addRecords {registry : Registry} {c : Command} {r : Record}
    (h : r ∈ registry.addRecords c) : r.source = .registry := by
  rw [Registry.addRecords] at h
  split at h
  · rw [List.mem_singleton.mp h]
  · cases h

theorem ofSource_template_perform (s : Session) (step : Step) :
    ofSource .template (s.perform step).records
      = (step.source? s.registry).elim [] fun t ↦ (s.memo.compile t).records := by
  cases step with
  | add c =>
    refine ofSource_eq_nil fun r hr ↦ ?_
    rw [source_of_mem_addRecords hr]
    decide
  | run line => exact Dispatch.ofSource_template_run s.registry s.warnTrailing s.memo line
  | compile template => exact ofSource_eq_self fun r hr ↦ Memo.source_of_mem_compile hr
  | compileCommand keyword =>
    rw [perform, Step.source?]
    cases s.registry.get? keyword with
    | none => rfl
    | some c => exact ofSource_eq_self fun r hr ↦ Memo.source_of_mem_compile hr
  | _ => rfl

theorem memo_afterAll (s : Session) (steps : List Step) :
    (s.afterAll steps).memo = s.memo.afterAll (sources s.registry steps) := by
  induction steps generalizing s with
  | nil => rfl
  | cons step steps ih =>
    refine (ih (s.perform step).session).trans ?_
    rw [memo_perform, registry_perform, sources]
    cases step.source? s.registry with
    | none => rfl
    | some t => rfl

/-- **Warnings.** If no more than 256 different templates in order are compiled before a step of a
session, the compiler logs nothing during the step unless the step has a template compiled; and
about a template that has been compiled before and was in order it logs nothing either. Otherwise
there is one warning for each entry whose name stands before it, in order, among the entries before
the first that is not in order. -/
theorem performAll_warns_until_compiled (warnTrailing : Bool) (before : List Step) (step : Step)
    (after : List Step)
    (hfew : Template.countCompiling (sources .empty before) ≤ Memo.capacity) :
    ∃ p, ((Recall.performAll (start warnTrailing) (before ++ step :: after)).run .empty).1[
          before.length]? = some p ∧
      (step.source? (registered before) = none → ofSource .template p.records = []) ∧
      ∀ t, step.source? (registered before) = some t →
        Template.Warns (sources .empty before) t (ofSource .template p.records) := by
  have hsteps := (Recall.gives_performAll (start warnTrailing) (before ++ step :: after)
    .empty (Memo.sound_empty _)).1
  have hregistry : ((start warnTrailing).afterAll before).registry = registered before :=
    registry_afterAll _ before
  have hholds : ((start warnTrailing).afterAll before).memo.Holds (sources .empty before) := by
    rw [memo_afterAll]
    exact Memo.holds_afterAll hfew
  rw [hsteps]
  refine ⟨_, getElem?_performAll _ before step after, ?_⟩
  rw [ofSource_template_perform, hregistry]
  constructor
  · intro hnone
    rw [hnone]
    rfl
  · intro t ht
    rw [ht]
    exact hholds.warns t

/-- The same names are used again in two templates, of which the second goes on with an entry that is
not in order. The first is compiled for a command of its own and is not warned about afterwards, the
second is warned about again. -/
theorem performAll_warns_until_compiled_twice :
    ∃ (good bad : String) (before : List Step) (p q : Performed),
      good = "&string x &string x" ∧ bad = "&string x &string x &nothing y &string x" ∧
      before = [.add ⟨"s", "", good, .builtin .echo⟩, .run "s:a b", .compile bad] ∧
      ((Recall.performAll (start true) (before ++ [.compileCommand "s"])).run .empty).1[3]?
        = some p ∧
      ofSource .template p.records = [] ∧
      ((Recall.performAll (start true) (before ++ [.compile bad])).run .empty).1[3]? = some q ∧
      (ofSource .template q.records).filter (·.level == .warning)
        = [Template.repeatedWarning bad "x"] := by
  obtain ⟨good, hgood⟩ : ∃ s, s = "&string x &string x" := ⟨_, rfl⟩
  obtain ⟨bad, hbad⟩ : ∃ s, s = "&string x &string x &nothing y &string x" := ⟨_, rfl⟩
  obtain ⟨before, hbefore⟩ : ∃ steps : List Step,
      steps = [.add ⟨"s", "", good, .builtin .echo⟩, .run "s:a b", .compile bad] := ⟨_, rfl⟩
  have hsources : sources .empty before = [good, bad] := by
    rw [hbefore, hgood, hbad]
    cbv
  have hfew : Template.countCompiling (sources .empty before) ≤ Memo.capacity := by
    rw [hsources]
    exact (Template.countCompiling_le_length _).trans (show 2 ≤ 256 by decide)
  obtain ⟨p, hp, -, hknown⟩ := performAll_warns_until_compiled true before (.compileCommand "s") []
    hfew
  obtain ⟨q, hq, -, hunknown⟩ := performAll_warns_until_compiled true before (.compile bad) [] hfew
  have hcommand : (Step.compileCommand "s").source? (registered before) = some good := by
    rw [hbefore]
    rfl
  obtain ⟨ds, hds⟩ : ∃ ds, Template.compile good = .ok ds := by
    rw [← Template.compiles_iff, hgood]
    cbv
  have hfailed : ∃ f, Template.compile bad = .error f := by
    have hnot : Template.compiles bad = false := by
      rw [hbad]
      cbv
    cases hcompile : Template.compile bad with
    | error f => exact ⟨f, rfl⟩
    | ok ds => cases hnot.symm.trans (Template.compiles_iff.mpr ⟨ds, hcompile⟩)
  have hlength : before.length = 3 := by rw [hbefore]; rfl
  rw [hlength] at hp hq
  obtain ⟨es, front, hscan, hfront, hwarnings⟩ := (hunknown bad rfl).unknown fun _ ↦ hfailed
  refine ⟨good, bad, before, p, q, hgood, hbad, hbefore, hp, ?_, hq, ?_⟩
  · exact (hknown good hcommand).known ds (by rw [hsources]; simp) hds
  · rw [hwarnings, ← Template.warnings_compileRecords hscan hfront, hbad]
    cbv

end Session

end LineCommands
