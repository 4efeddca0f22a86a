import Mathlib
import LineCommands.Proofs.Dispatch.Course
import LineCommands.Proofs.Session.Recall

/-!
# Sessions keep nothing but commands

A session has four things to remember: its commands, whether trailing tokens are warned about, the
templates that it compiled and the expressions that it parsed. The last two cannot be noticed. What
a step answers and calls is what it answers and calls in a new session with the same commands and
the same setting, and these come from the registrations and the settings among the steps before it,
whatever else was run, compiled or failed in between.
-/

namespace LineCommands.Session

/-! ## What steps leave behind -/

/-- The command that a step registers. -/
def Step.command? : Step → Option Command
  | .add c => some c
  | _ => none

/-- Whether trailing tokens are to be warned about after a step that says so. -/
def Step.setting? : Step → Option Bool
  | .warnTrailing on => some on
  | _ => none

/-- The registry with the commands that the steps register, and no others. -/
def registered (steps : List Step) : Registry :=
  (steps.filterMap Step.command?).foldl Registry.add .empty

/-- The last setting among the steps, or the one before them. -/
def lastSetting (warnTrailing : Bool) (steps : List Step) : Bool :=
  (steps.filterMap Step.setting?).getLast?.getD warnTrailing

/-- A new session with the commands and the setting that the steps leave behind. -/
def fresh (warnTrailing : Bool) (steps : List Step) : Session :=
  ⟨registered steps, lastSetting warnTrailing steps, .empty⟩

/-- The session after steps. -/
def afterAll (s : Session) (steps : List Step) : Session :=
  steps.foldl (fun s step ↦ (s.perform step).session) s

/-! ## One step -/

theorem registry_perform (s : Session) (step : Step) :
    (s.perform step).session.registry = step.command?.elim s.registry s.registry.add := by
  cases step with
  | compileCommand keyword =>
    rw [perform]
    cases s.registry.get? keyword with
    | none => rfl
    | some c => rfl
  | _ => rfl

theorem warnTrailing_perform (s : Session) (step : Step) :
    (s.perform step).session.warnTrailing = step.setting?.getD s.warnTrailing := by
  cases step with
  | compileCommand keyword =>
    rw [perform]
    cases s.registry.get? keyword with
    | none => rfl
    | some c => rfl
  | _ => rfl

/-- Two sessions with the same commands and setting, both with memos that are sound. -/
structure Alike (s s' : Session) : Prop where
  registry : s.registry = s'.registry
  warnTrailing : s.warnTrailing = s'.warnTrailing
  sound : s.memo.Sound Template.compile
  sound' : s'.memo.Sound Template.compile

theorem Alike.right {s s' : Session} (h : Alike s s') : Alike s' s' := ⟨rfl, rfl, h.sound', h.sound'⟩

theorem Alike.run {s s' : Session} (h : Alike s s') (line : String) :
    (Dispatch.run s.registry s.warnTrailing s.memo line).outcome
        = (Dispatch.run s'.registry s'.warnTrailing s'.memo line).outcome ∧
      (Dispatch.run s.registry s.warnTrailing s.memo line).calls
        = (Dispatch.run s'.registry s'.warnTrailing s'.memo line).calls := by
  have hends := Dispatch.ends_run h.sound' s'.registry s'.warnTrailing line
  rw [← h.registry, ← h.warnTrailing] at hends ⊢
  exact Dispatch.run_of_ends h.sound hends

/-- What a step answers and calls does not depend on what the memo holds. -/
theorem Alike.perform {s s' : Session} (h : Alike s s') (step : Step) :
    (s.perform step).answer = (s'.perform step).answer ∧
      (s.perform step).calls = (s'.perform step).calls := by
  cases step with
  | run line =>
    obtain ⟨houtcome, hcalls⟩ := h.run line
    simp only [Session.perform, houtcome, hcalls, and_self]
  | compile template =>
    simp only [Session.perform, h.sound.outcome_compile, h.sound'.outcome_compile, and_self]
  | compileCommand keyword =>
    simp only [Session.perform, h.registry]
    cases s'.registry.get? keyword with
    | none => exact ⟨rfl, rfl⟩
    | some c => simp only [h.sound.outcome_compile, h.sound'.outcome_compile, and_self]
  | _ => simp only [Session.perform, lookUp, h.registry, and_self]

/-! ## Whole sessions -/

theorem sound_afterAll {s : Session} (hmemo : s.memo.Sound Template.compile) (steps : List Step) :
    (s.afterAll steps).memo.Sound Template.compile := by
  induction steps generalizing s with
  | nil => exact hmemo
  | cons step steps ih => exact ih (sound_perform hmemo step)

theorem afterAll_concat (s : Session) (steps : List Step) (step : Step) :
    s.afterAll (steps ++ [step]) = ((s.afterAll steps).perform step).session := by
  rw [afterAll, List.foldl_append]
  rfl

theorem registry_afterAll (s : Session) (steps : List Step) :
    (s.afterAll steps).registry
      = (steps.filterMap Step.command?).foldl Registry.add s.registry := by
  induction steps generalizing s with
  | nil => rfl
  | cons step steps ih =>
    refine (ih (s.perform step).session).trans ?_
    rw [registry_perform]
    cases hstep : step.command? with
    | none => rw [List.filterMap_cons_none hstep]; rfl
    | some c => rw [List.filterMap_cons_some hstep]; rfl

theorem warnTrailing_afterAll (s : Session) (steps : List Step) :
    (s.afterAll steps).warnTrailing = lastSetting s.warnTrailing steps := by
  induction steps generalizing s with
  | nil => rfl
  | cons step steps ih =>
    refine (ih (s.perform step).session).trans ?_
    rw [warnTrailing_perform, lastSetting, lastSetting]
    cases hstep : step.setting? with
    | none => rw [List.filterMap_cons_none hstep]; rfl
    | some on => rw [List.filterMap_cons_some hstep, List.getLast?_cons]; rfl

theorem performAll_append_cons (s : Session) (before : List Step) (step : Step)
    (after : List Step) :
    s.performAll (before ++ step :: after) = s.performAll before ++
      (s.afterAll before).perform step ::
        performAll ((s.afterAll before).perform step).session after := by
  induction before generalizing s with
  | nil => rfl
  | cons first before ih => exact congrArg (s.perform first :: ·) (ih (s.perform first).session)

theorem length_performAll (s : Session) (steps : List Step) :
    (s.performAll steps).length = steps.length := by
  induction steps generalizing s with
  | nil => rfl
  | cons step steps ih => exact congrArg (· + 1) (ih (s.perform step).session)

theorem getElem?_performAll (s : Session) (before : List Step) (step : Step) (after : List Step) :
    (s.performAll (before ++ step :: after))[before.length]?
      = some ((s.afterAll before).perform step) := by
  rw [performAll_append_cons, ← length_performAll s before, List.getElem?_append_right (Nat.le_refl _),
    Nat.sub_self, List.getElem?_cons_zero]

/-- After steps a session is like a new one that has been given the same commands and setting and
nothing else. -/
theorem alike_afterAll (warnTrailing : Bool) (steps : List Step) :
    Alike ((start warnTrailing).afterAll steps) (fresh warnTrailing steps) where
  registry := registry_afterAll _ steps
  warnTrailing := warnTrailing_afterAll _ steps
  sound := sound_afterAll (Memo.sound_empty _) steps
  sound' := Memo.sound_empty _

theorem registry_recall_perform (s : Session) {step : Step} (h : step.command? = none)
    (expressions : Memo Expr) :
    ((Recall.perform s step).run expressions).1.session.registry = s.registry := by
  cases step with
  | add c => cases h
  | compileCommand keyword =>
    rw [Recall.perform]
    cases s.registry.get? keyword with
    | none => rfl
    | some c => rfl
  | _ => rfl

/-- **Memory.** Each step of a session answers and calls what it does in a new session, in which
nothing is remembered, with the commands that were registered before the step and the setting that
was made last. After it the commands are those that were registered, up to the step itself; no other
step changes the registry. -/
theorem performAll_remembers_only_commands :
    (∀ (warnTrailing : Bool) (before : List Step) (step : Step) (after : List Step),
      ∃ p, ((Recall.performAll (start warnTrailing) (before ++ step :: after)).run .empty).1[
            before.length]? = some p ∧
        p.answer = ((Recall.perform (fresh warnTrailing before) step).run .empty).1.answer ∧
        p.calls = ((Recall.perform (fresh warnTrailing before) step).run .empty).1.calls ∧
        p.session.registry = registered (before ++ [step]) ∧
        p.session.warnTrailing = lastSetting warnTrailing (before ++ [step])) ∧
    ∀ (s : Session) (step : Step) (expressions : Memo Expr), step.command? = none →
      ((Recall.perform s step).run expressions).1.session.registry = s.registry := by
  refine ⟨fun warnTrailing before step after ↦ ?_, fun s step expressions h ↦
    registry_recall_perform s h expressions⟩
  have hsteps := (Recall.gives_performAll (start warnTrailing) (before ++ step :: after)
    .empty (Memo.sound_empty _)).1
  have hfresh := (Recall.gives_perform (fresh warnTrailing before) step .empty
    (Memo.sound_empty _)).1
  obtain ⟨hanswer, hcalls⟩ := (alike_afterAll warnTrailing before).perform step
  rw [hsteps, hfresh]
  refine ⟨_, getElem?_performAll _ before step after, hanswer, hcalls, ?_, ?_⟩
  · rw [← afterAll_concat, registry_afterAll]
    rfl
  · rw [← afterAll_concat, warnTrailing_afterAll]
    rfl

/-- A command that takes the keyword of another one is called in its place, with its own template,
although the template of the other one is remembered. -/
theorem performAll_remembers_only_commands_replaced :
    ∃ (first second : Command) (p q : Performed),
      first = ⟨"s", "", "&string x", .builtin .echo⟩ ∧
      second = ⟨"s", "", "&string y", .builtin .echo⟩ ∧
      ((Recall.performAll (start true) [.add first, .run "s:a", .add second, .run "s:a"]).run
        .empty).1[3]? = some p ∧
      p.calls = [⟨.builtin .echo, [("y", .text "a")]⟩] ∧
      p.session.registry = .add (.add .empty first) second ∧
      ((Recall.perform p.session (.compile "&string z")).run .empty).1 = q ∧
      q.session.registry = p.session.registry := by
  obtain ⟨first, hfirst⟩ : ∃ c : Command, c = ⟨"s", "", "&string x", .builtin .echo⟩ := ⟨_, rfl⟩
  obtain ⟨second, hsecond⟩ : ∃ c : Command, c = ⟨"s", "", "&string y", .builtin .echo⟩ := ⟨_, rfl⟩
  obtain ⟨p, hp, -, hcalls, hregistry, -⟩ := performAll_remembers_only_commands.1 true
    [.add first, .run "s:a", .add second] (.run "s:a") []
  have hfresh : ((Recall.perform (fresh true [.add first, .run "s:a", .add second])
      (.run "s:a")).run .empty).1.calls = [⟨.builtin .echo, [("y", .text "a")]⟩] := by
    rw [hfirst, hsecond]
    cbv
  have hcompile := performAll_remembers_only_commands.2 p.session (.compile "&string z") .empty rfl
  exact ⟨first, second, p, _, hfirst, hsecond, hp, hcalls.trans hfresh, hregistry, rfl, hcompile⟩

end LineCommands.Session
