import Mathlib
import LineCommands.Proofs.Binding.Failure
import LineCommands.Proofs.Dispatch.Course

/-!
# What leaves a dispatch

Faults of every stage become results. Beside an action that fails, one thing leaves a dispatch in
place of a result: a lookalike where a floating-point number is due. `run_returns_iff` says that
there is nothing else, and `not_run_always_returns` that a lookalike does.

This is about what a dispatch computes. A runtime that limits the depth of its recursion can give up
on a size that is nested deeply enough, and this is left aside.
-/

namespace LineCommands

/-- Binding the tokens of the line for its command stumbles on the token `t`. -/
def MeetsLookalike (registry : Registry) (line t : String) : Prop :=
  ∃ c tokens ds, Addresses registry line c tokens ∧ Template.compile c.template = .ok ds ∧
    ds.StumblesOn tokens t

theorem MeetsLookalike.isLookalike {registry : Registry} {line t : String}
    (h : MeetsLookalike registry line t) :
    ∃ c tokens, Addresses registry line c tokens ∧ t ∈ tokens ∧ IsLookalike t := by
  obtain ⟨c, tokens, ds, hline, -, hstumbles⟩ := h
  obtain ⟨hmem, hlookalike, -⟩ := hstumbles.mem
  exact ⟨c, tokens, hline, hmem, hlookalike⟩

namespace Dispatch

variable {registry : Registry} {warnTrailing : Bool} {memo : Memo Template} {line : String}

theorem outcome_eq_unreadableFloat_iff (hmemo : memo.Sound Template.compile) {t : String} :
    (run registry warnTrailing memo line).outcome = .error (.unreadableFloat t) ↔
      MeetsLookalike registry line t := by
  constructor
  · intro h
    have hends := ends_run hmemo registry warnTrailing line
    rw [h] at hends
    generalize (run registry warnTrailing memo line).calls = calls at hends
    cases hends with
    | unreadable hline hcompile hbind =>
      exact ⟨_, _, _, hline, hcompile, Template.bind_eq_unreadableFloat_iff.mp hbind⟩
  · rintro ⟨c, tokens, ds, hline, hcompile, hstumbles⟩
    have hbind := Template.bind_eq_unreadableFloat_iff.mpr hstumbles
    exact (run_of_ends hmemo (.unreadable hline hcompile hbind)).1

theorem exists_call_of_outcome_eq_action (hmemo : memo.Sound Template.compile) {e : ActionError}
    (h : (run registry warnTrailing memo line).outcome = .error (.action e)) :
    ∃ call ∈ (run registry warnTrailing memo line).calls,
      call.action.run call.bindings = .error e := by
  have hends := ends_run hmemo registry warnTrailing line
  rw [h] at hends
  generalize (run registry warnTrailing memo line).calls = calls at hends ⊢
  cases hends with
  | action hline hcompile hbind haction => exact ⟨_, List.mem_singleton_self _, haction⟩

theorem action_returns_of_outcome_eq_ok (hmemo : memo.Sound Template.compile) {r : Result}
    (h : (run registry warnTrailing memo line).outcome = .ok r) :
    ∀ call ∈ (run registry warnTrailing memo line).calls,
      ∃ output, call.action.run call.bindings = .ok output := by
  have hends := ends_run hmemo registry warnTrailing line
  rw [h] at hends
  generalize (run registry warnTrailing memo line).calls = calls at hends ⊢
  intro call hcall
  cases hends with
  | success hline hcompile hbind haction =>
    obtain rfl := List.mem_singleton.mp hcall
    exact ⟨_, haction⟩
  | _ => cases hcall

/-- **Results.** A dispatch has a result exactly when its action does not fail, if it comes to it,
and binding does not stumble on a lookalike; and for that there must be one among the tokens. A
limit on the depth of recursion is left aside. -/
theorem run_returns_iff (hmemo : memo.Sound Template.compile) :
    ((∃ r, (run registry warnTrailing memo line).outcome = .ok r) ↔
      (∀ call ∈ (run registry warnTrailing memo line).calls,
        ∃ output, call.action.run call.bindings = .ok output) ∧
      ∀ t, ¬MeetsLookalike registry line t) ∧
    ∀ t, MeetsLookalike registry line t →
      ∃ c tokens, Addresses registry line c tokens ∧ t ∈ tokens ∧ IsLookalike t := by
  refine ⟨⟨?_, ?_⟩, fun t ↦ MeetsLookalike.isLookalike⟩
  · rintro ⟨r, hr⟩
    refine ⟨action_returns_of_outcome_eq_ok hmemo hr, fun t ht ↦ ?_⟩
    have hescape : (run registry warnTrailing memo line).outcome = .error (.unreadableFloat t) :=
      (outcome_eq_unreadableFloat_iff hmemo).mpr ht
    rw [hr] at hescape
    cases hescape
  · rintro ⟨hactions, hlookalikes⟩
    cases houtcome : (run registry warnTrailing memo line).outcome with
    | ok r => exact ⟨r, rfl⟩
    | error e =>
      -- Both ways to escape are ruled out by what is given.
      cases e with
      | unreadableFloat t =>
        exact absurd ((outcome_eq_unreadableFloat_iff hmemo).mp houtcome) (hlookalikes t)
      | action e =>
        obtain ⟨call, hcall, hfails⟩ := exists_call_of_outcome_eq_action hmemo houtcome
        obtain ⟨output, hreturns⟩ := hactions call hcall
        rw [hfails] at hreturns
        cases hreturns

theorem run_returns_iff_string :
    (∃ r, (run (Registry.empty.add ⟨"s", "", "&string x", .builtin .echo⟩) true .empty
      "s:\u0131nf").outcome = .ok r) ∧
    ∀ t, ¬MeetsLookalike (Registry.empty.add ⟨"s", "", "&string x", .builtin .echo⟩)
      "s:\u0131nf" t := by
  have hreturns : ∃ r, (run (Registry.empty.add ⟨"s", "", "&string x", .builtin .echo⟩) true .empty
      "s:\u0131nf").outcome = .ok r := ⟨_, by cbv⟩
  exact ⟨hreturns, ((run_returns_iff (Memo.sound_empty _)).1.mp hreturns).2⟩

/-- **Not every dispatch has a result.** A lookalike can leave one though no action fails. -/
theorem not_run_always_returns :
    ¬∀ (registry : Registry) (warnTrailing : Bool) (line : String),
      (∀ call ∈ (run registry warnTrailing .empty line).calls,
        ∃ output, call.action.run call.bindings = .ok output) →
      ∃ r, (run registry warnTrailing .empty line).outcome = .ok r := by
  intro h
  have houtcome : (run (Registry.empty.add ⟨"f", "", "&float x", .builtin .echo⟩) true .empty
      "f:\u0131nf").outcome = .error (.unreadableFloat "\u0131nf") := by cbv
  have hcalls : (run (Registry.empty.add ⟨"f", "", "&float x", .builtin .echo⟩) true .empty
      "f:\u0131nf").calls = [] := by cbv
  obtain ⟨r, hr⟩ := h _ _ _ fun call hcall ↦ absurd (hcalls ▸ hcall) List.not_mem_nil
  rw [houtcome] at hr
  cases hr

end Dispatch

end LineCommands
