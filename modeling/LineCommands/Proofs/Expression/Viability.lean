import LineCommands.Proofs.Expression.Completeness
import LineCommands.Proofs.Expression.Longest
import LineCommands.Proofs.Expression.Lookup

/-!
# Where syntax errors are reported

A list of tokens is viable if something can follow that makes an expression of it. The parser reads
from left to right and gives up at the first token with which the list is not viable any more; the
error tells this token, or the end of the tokens, or the parenthesis that is still open there.

## What can stand next

Whether a token can stand next does not depend on how tightly anything binds. All that counts is
whether an operand or an operator is due, and which parentheses are open: a `Standing`. Reading a
phrase of any form leads from its first standing to one in which an operator is due, with the same
parentheses open (`run_of_derives`), and where a reader gives up the next token leads nowhere
(`givesUpOn`). So the standings know what the parser knows, and from each of them there is a short
way to the end of an expression: an operand if one is due, and the parentheses.
-/

namespace LineCommands

/-! ## Standings -/

/-- What is due next. -/
inductive Due where
  | operand | operator
deriving DecidableEq

/-- What is due next in the tokens of an expression, and the positions of the parentheses that are
open, the innermost first. -/
structure Standing where
  due : Due
  groups : List Nat

namespace Standing

/-- The standing before the first token. -/
def start : Standing := ⟨.operand, []⟩

/-- The standing behind a token, if it can stand next. -/
def step (s : Standing) (t : Token) : Option Standing :=
  match s.due, t.lexeme, s.groups with
  | .operand, .number _, groups | .operand, .name _, groups => some ⟨.operator, groups⟩
  | .operand, .sign _, groups => some ⟨.operand, groups⟩
  | .operand, .opening, groups => some ⟨.operand, t.position :: groups⟩
  | .operator, .sign _, groups | .operator, .times, groups | .operator, .slash, groups
  | .operator, .modulo, groups | .operator, .power, groups => some ⟨.operand, groups⟩
  | .operator, .closing, _ :: groups => some ⟨.operator, groups⟩
  | _, _, _ => none

/-- The standing behind tokens, if each of them can stand next. -/
def run (s : Standing) (ts : List Token) : Option Standing := ts.foldlM step s

theorem run_cons (s : Standing) (t : Token) (ts : List Token) :
    s.run (t :: ts) = (s.step t).bind fun s' ↦ s'.run ts := rfl

theorem run_append (s : Standing) (ts us : List Token) :
    s.run (ts ++ us) = (s.run ts).bind fun s' ↦ s'.run us :=
  List.foldlM_append

theorem run_append_of_run {s s' : Standing} {ts : List Token} (h : s.run ts = some s')
    (us : List Token) : s.run (ts ++ us) = s'.run us := by
  rw [run_append, h]
  rfl

theorem run_cons_of_step {s s' : Standing} {t : Token} (h : s.step t = some s') (ts : List Token) :
    s.run (t :: ts) = s'.run ts := by
  rw [run_cons, h]
  rfl

theorem step_of_op? {level : ChainLevel} {op : BinaryOp} {t : Token}
    (h : level.op? t.lexeme = some op) (groups : List Nat) :
    step ⟨.operator, groups⟩ t = some ⟨.operand, groups⟩ := by
  obtain ⟨l, position⟩ := t
  cases level with
  | sum =>
    cases l with
    | sign s => rfl
    | _ => cases h
  | product =>
    cases l with
    | times | slash | modulo => rfl
    | _ => cases h

/-- Where an operator is due nothing can stand but operators and, in parentheses, a closing one. -/
theorem step_operator_eq_none {t : Token} {groups : List Nat}
    (hstop : (Form.chain .sum).goesOn t.lexeme = false)
    (hclosing : t.lexeme = .closing → groups = []) : step ⟨.operator, groups⟩ t = none := by
  obtain ⟨l, position⟩ := t
  cases l with
  | closing =>
    obtain rfl := hclosing rfl
    rfl
  | number | name | opening => rfl
  | sign s => cases s <;> cases hstop
  | _ => cases hstop

end Standing

open Standing

/-! ## Phrases -/

/-- What is due where a phrase of the form begins. -/
def Form.due : Form → Due
  | .rest .. => .operator
  | _ => .operand

theorem ChainLevel.due_operand (level : ChainLevel) : level.operand.due = .operand := by
  cases level <;> rfl

/-- **Phrases.** Behind a phrase an operator is due, and the parentheses that are open are those
before it. -/
theorem run_of_derives {f : Form} {ls : List Lexeme} {e : Expr} (h : Derives f ls e)
    {ts : List Token} (hts : ts.map (·.lexeme) = ls) (groups : List Nat) :
    run ⟨f.due, groups⟩ ts = some ⟨.operator, groups⟩ := by
  induction h generalizing ts groups with
  | @chain level ls ms first whole _ _ ihfirst ihrest =>
    obtain ⟨us, vs, rfl, rfl, rfl⟩ := List.map_eq_append_iff.mp hts
    have hus := ihfirst rfl groups
    rw [level.due_operand] at hus
    exact (run_append_of_run hus vs).trans (ihrest rfl groups)
  | done =>
    obtain rfl := List.map_eq_nil_iff.mp hts
    rfl
  | @link level left right whole l op ls ms hop _ _ ihright ihrest =>
    obtain ⟨t, ts, rfl, rfl, htail⟩ := List.map_eq_cons_iff.mp hts
    obtain ⟨us, vs, rfl, rfl, rfl⟩ := List.map_eq_append_iff.mp htail
    have hus := ihright rfl groups
    rw [level.due_operand] at hus
    exact (run_cons_of_step (step_of_op? hop groups) _).trans
      ((run_append_of_run hus vs).trans (ihrest rfl groups))
  | sign _ ih =>
    obtain ⟨⟨_, position⟩, ts, rfl, rfl, rfl⟩ := List.map_eq_cons_iff.mp hts
    exact ih rfl groups
  | unsigned _ ih => exact ih hts groups
  | base _ ih => exact ih hts groups
  | power _ _ ihbase ihexponent =>
    obtain ⟨us, vs, rfl, rfl, hvs⟩ := List.map_eq_append_iff.mp hts
    obtain ⟨⟨_, position⟩, vs, rfl, rfl, rfl⟩ := List.map_eq_cons_iff.mp hvs
    exact (run_append_of_run (ihbase rfl groups) _).trans (ihexponent rfl groups)
  | number _ =>
    obtain ⟨⟨_, position⟩, rfl, rfl⟩ := List.map_eq_singleton_iff.mp hts
    rfl
  | name =>
    obtain ⟨⟨_, position⟩, rfl, rfl⟩ := List.map_eq_singleton_iff.mp hts
    rfl
  | group _ ih =>
    obtain ⟨⟨_, position⟩, ts, rfl, rfl, htail⟩ := List.map_eq_cons_iff.mp hts
    obtain ⟨us, vs, rfl, rfl, hvs⟩ := List.map_eq_append_iff.mp htail
    obtain ⟨⟨_, q⟩, rfl, rfl⟩ := List.map_eq_singleton_iff.mp hvs
    exact run_append_of_run (ih rfl (position :: groups)) _

/-! ## The readers -/

/-- The number tokens can be read as numbers. -/
structure Readable (ts : List Token) : Prop where
  written : NumbersWritten ts
  short : NumbersShort (ts.map (·.lexeme))

theorem Readable.of_suffix {ts ts' : List Token} (h : Readable ts) (hts : ts' <:+ ts) :
    Readable ts' :=
  ⟨h.written.of_suffix hts, h.short.of_subset (List.map_subset _ hts.subset)⟩

theorem Readable.readNumber? {ts : List Token} (h : Readable ts) {text : String} {position : Nat}
    (ht : ⟨.number text, position⟩ ∈ ts) : ∃ v, Expr.readNumber? text = some v := by
  obtain ⟨v, hv⟩ := h.written _ ht text rfl
  have hread := readNumber?_of_numberText hv (h.short text (List.mem_map.mpr ⟨_, ht, rfl⟩))
  rw [String.ofList_toList] at hread
  exact ⟨v, hread⟩

namespace Form

/-- What is known of the tokens when the reader of the form is called: a part of a chain was read as
far as it goes, and the signs before a power were. -/
def Enters : Form → List Token → Prop
  | .rest level _, ts => level.operand.Stops (ts.map (·.lexeme))
  | .power, ts | .atom, ts => ∀ t ∈ ts.head?, ∀ s, t.lexeme ≠ .sign s
  | _, _ => True

theorem enters_operand (level : ChainLevel) (ts : List Token) : level.operand.Enters ts := by
  cases level <;> trivial

theorem goesOn_rest_eq_false {level : ChainLevel} {left : Expr} {l : Lexeme}
    (hoperand : level.operand.goesOn l = false) (hop : level.op? l = none) :
    (rest level left).goesOn l = false := by
  rw [goesOn, hop, Option.isSome_none, Bool.or_false]
  cases level with
  | sum => exact (Bool.or_eq_false_iff.mp hoperand).1
  | product => rw [hop, Option.isSome_none, Bool.or_false]; exact hoperand

/-- A reader of the form that succeeds on the tokens has read as far as it goes. -/
def StopsOn (f : Form) (ts : List Token) : Prop :=
  f.Enters ts → ∀ ⦃e : Expr⦄ ⦃after : List Token⦄, f.read ts = .ok (e, after) →
    f.Stops (after.map (·.lexeme))

theorem stopsOn_power {ts : List Token}
    (hexponent : ∀ ts', ts'.length < ts.length → signed.StopsOn ts') : power.StopsOn ts := by
  intro _ e after h
  have hread := h
  rw [read_power] at hread
  obtain ⟨⟨base, ts'⟩, hbase, -⟩ := bind_eq_ok.mp hread
  rcases cons_or_head_ne .power ts' with ⟨position, rest, rfl⟩ | hne
  · rw [read_power_of_power hbase] at h
    obtain ⟨⟨exponent, ts'⟩, hsigned, heq⟩ := map_eq_ok.mp h
    obtain ⟨-, rfl⟩ := Prod.mk.inj heq
    have hlt := length_lt_of_read_atom hbase
    rw [List.length_cons] at hlt
    exact hexponent rest (by omega) trivial hsigned
  · rw [read_power_of_not_power hbase hne] at h
    obtain ⟨-, rfl⟩ := Prod.mk.inj (Except.ok.inj h)
    intro l hl
    rw [List.head?_map] at hl
    obtain ⟨t, ht, rfl⟩ := Option.mem_map.mp hl
    exact beq_eq_false_iff_ne.mpr (hne t ht)

theorem stopsOn_rest {ts : List Token} {level : ChainLevel} {left : Expr}
    (shorter : ∀ f ts', ts'.length < ts.length → StopsOn f ts') : (rest level left).StopsOn ts := by
  intro henters e after h
  rcases ts with _ | ⟨t, ts⟩
  · rw [read_rest_nil] at h
    obtain ⟨-, rfl⟩ := Prod.mk.inj (Except.ok.inj h)
    exact stops_nil _
  · cases hop : level.op? t.lexeme with
    | none =>
      rw [read_rest_of_none hop] at h
      obtain ⟨-, rfl⟩ := Prod.mk.inj (Except.ok.inj h)
      exact stops_cons.mpr (goesOn_rest_eq_false (stops_cons.mp henters) hop)
    | some op =>
      rw [read_rest_of_some hop] at h
      obtain ⟨⟨right, ts'⟩, hright, hrest⟩ := bind_eq_ok.mp h
      have hstops := shorter _ ts (by simp) (enters_operand level ts) hright
      have hlt := length_lt_of_read_operand hright
      exact shorter (rest level (.binary op left right)) ts' (hlt.trans (by simp)) hstops hrest

theorem stopsOn (f : Form) (ts : List Token) : f.StopsOn ts := by
  induction f, ts using induction_on_tokens with
  | step f ts shorter tighter =>
  cases f with
  | chain level =>
    intro _ e after h
    rw [read_chain] at h
    obtain ⟨⟨first, ts'⟩, hfirst, hrest⟩ := bind_eq_ok.mp h
    have hstops := tighter _ (depth_operand level) (enters_operand level ts) hfirst
    exact shorter (rest level first) ts' (length_lt_of_read_operand hfirst) hstops hrest
  | rest level left => exact stopsOn_rest shorter
  | signed =>
    intro _ e after h
    rcases sign_or_head_ne ts with ⟨s, position, rest, rfl⟩ | hpower
    · rw [read_signed_sign] at h
      obtain ⟨⟨operand, ts'⟩, hsigned, heq⟩ := map_eq_ok.mp h
      obtain ⟨-, rfl⟩ := Prod.mk.inj heq
      exact shorter signed rest (by simp) trivial hsigned
    · rw [read_signed_of_not_sign hpower] at h
      exact tighter power (by decide) hpower h
  | power => exact stopsOn_power (shorter signed)
  | atom => exact fun _ _ _ _ ↦ stops_atom _

/-- Behind what a reader has read an operator is due. -/
theorem exists_run_of_read {f : Form} {ts after : List Token} {e : Expr} (hts : Readable ts)
    (h : f.read ts = .ok (e, after)) :
    ∃ used, ts = used ++ after ∧ ∀ groups, run ⟨f.due, groups⟩ used = some ⟨.operator, groups⟩ := by
  obtain ⟨used, hused, hderives⟩ := sound hts.written f h
  exact ⟨used, hused, run_of_derives hderives rfl⟩

end Form

/-! ## Giving up -/

/-- From the standing there is no way to go on with the tokens that are left, and this is the error
that tells so. -/
inductive Halts (s : Standing) : List Token → ExprError → Prop
  /-- The next token cannot stand there. -/
  | unexpected {t : Token} {after : List Token} (h : s.step t = none) :
      Halts s (t :: after) (.unexpected t.lexeme.text t.position)
  /-- The tokens end where an operand is due. -/
  | endOfText (h : s.due = .operand) : Halts s [] .endOfText
  /-- The expression in parentheses does not go on, and the parentheses are not closed. -/
  | unclosed {position : Nat} {groups : List Nat} {after : List Token}
      (hs : s = ⟨.operator, position :: groups⟩) (h : ∀ t ∈ after.head?, s.step t = none) :
      Halts s after (.unclosed position)

/-- Tokens at the front lead from the standing to one from which there is no way to go on. -/
def GivesUp (s : Standing) (ts : List Token) (err : ExprError) : Prop :=
  ∃ before after s', ts = before ++ after ∧ s.run before = some s' ∧ Halts s' after err

theorem Halts.givesUp {s : Standing} {ts : List Token} {err : ExprError} (h : Halts s ts err) :
    GivesUp s ts err :=
  ⟨[], ts, s, rfl, rfl, h⟩

theorem GivesUp.append {s s' : Standing} {used ts : List Token} {err : ExprError}
    (h : GivesUp s' ts err) (hused : s.run used = some s') : GivesUp s (used ++ ts) err := by
  obtain ⟨before, after, s'', rfl, hbefore, hhalts⟩ := h
  refine ⟨used ++ before, after, s'', (List.append_assoc _ _ _).symm, ?_, hhalts⟩
  rw [run_append_of_run hused, hbefore]

theorem GivesUp.cons {s s' : Standing} {t : Token} {ts : List Token} {err : ExprError}
    (h : GivesUp s' ts err) (ht : s.step t = some s') : GivesUp s (t :: ts) err := by
  have hrun : s.run [t] = some s' := run_cons_of_step ht []
  exact h.append hrun

namespace Form

/-- Where a reader of the form fails on the tokens, there is no way to go on. -/
def GivesUpOn (f : Form) (ts : List Token) : Prop :=
  Readable ts → f.Enters ts → ∀ ⦃err : ExprError⦄, f.read ts = .error err →
    ∀ groups, GivesUp ⟨f.due, groups⟩ ts err

variable {ts : List Token}

theorem givesUpOn_atom (hinner : ∀ ts', ts'.length < ts.length → (chain .sum).GivesUpOn ts') :
    atom.GivesUpOn ts := by
  intro hts henters err h groups
  rcases ts with _ | ⟨⟨l, position⟩, ts⟩
  · rw [read_atom_nil] at h
    obtain rfl := Except.error.inj h
    exact (Halts.endOfText rfl).givesUp
  · cases l with
    | number text =>
      obtain ⟨v, hv⟩ := hts.readNumber? List.mem_cons_self
      rw [read_atom_number, hv] at h
      cases h
    | name n =>
      rw [read_atom_name] at h
      cases h
    | opening =>
      have hts' : Readable ts := hts.of_suffix (List.suffix_cons _ _)
      have hstep : step ⟨.operand, groups⟩ ⟨.opening, position⟩
          = some ⟨.operand, position :: groups⟩ := rfl
      refine GivesUp.cons ?_ hstep
      have hread := h
      rw [read_atom_opening] at hread
      rcases bind_eq_error.mp hread with hgroup | ⟨⟨inner, ts'⟩, hgroup, -⟩
      · exact hinner ts (by simp) hts' trivial hgroup _
      · have hstops := stopsOn (chain .sum) ts trivial hgroup
        obtain ⟨used, rfl, hused⟩ := exists_run_of_read hts' hgroup
        rcases cons_or_head_ne .closing ts' with ⟨q, rest, rfl⟩ | hne
        · rw [read_atom_of_closing hgroup] at h
          cases h
        · -- What is in the parentheses does not go on, and they are not closed.
          rw [read_atom_of_not_closing hgroup hne] at h
          obtain rfl := Except.error.inj h
          refine ((Halts.unclosed rfl ?_).givesUp).append (hused (position :: groups))
          intro t ht
          refine step_operator_eq_none (hstops _ ?_) fun hclosing ↦ absurd hclosing (hne t ht)
          rw [List.head?_map]
          exact Option.mem_map_of_mem _ ht
    | sign s => exact absurd rfl (henters _ rfl s)
    | _ =>
      rw [read_atom_other _ (by simp) (by simp) (by simp)] at h
      obtain rfl := Except.error.inj h
      exact (Halts.unexpected rfl).givesUp

theorem givesUpOn_power (hbase : atom.GivesUpOn ts)
    (hexponent : ∀ ts', ts'.length < ts.length → signed.GivesUpOn ts') : power.GivesUpOn ts := by
  intro hts henters err h groups
  have hread := h
  rw [read_power] at hread
  rcases bind_eq_error.mp hread with hatom | ⟨⟨base, ts'⟩, hatom, -⟩
  · exact hbase hts henters hatom groups
  · have hlt := length_lt_of_read_atom hatom
    obtain ⟨used, rfl, hused⟩ := exists_run_of_read hts hatom
    rcases cons_or_head_ne .power ts' with ⟨position, rest, rfl⟩ | hne
    · rw [read_power_of_power hatom, map_eq_error] at h
      rw [List.length_cons] at hlt
      have hrest : Readable rest :=
        hts.of_suffix ((List.suffix_cons _ _).trans (List.suffix_append _ _))
      exact ((hexponent rest (by omega) hrest trivial h groups).cons rfl).append (hused groups)
    · rw [read_power_of_not_power hatom hne] at h
      cases h

theorem givesUpOn_signed (hpower : power.GivesUpOn ts)
    (hsigned : ∀ ts', ts'.length < ts.length → signed.GivesUpOn ts') : signed.GivesUpOn ts := by
  intro hts _ err h groups
  rcases sign_or_head_ne ts with ⟨s, position, rest, rfl⟩ | hne
  · rw [read_signed_sign, map_eq_error] at h
    have hrest : Readable rest := hts.of_suffix (List.suffix_cons _ _)
    exact (hsigned rest (by simp) hrest trivial h groups).cons rfl
  · rw [read_signed_of_not_sign hne] at h
    exact hpower hts hne h groups

/-- An operand fails, or it is read and the rest of the chain behind it fails. -/
theorem givesUp_of_bind {level : ChainLevel} (left : Expr → Expr)
    (hoperand : level.operand.GivesUpOn ts)
    (hrest : ∀ ts' e, ts'.length < ts.length → (rest level e).GivesUpOn ts') (hts : Readable ts)
    {err : ExprError}
    (h : ((level.operand.read ts).bind fun r ↦ (rest level (left r.1)).read r.2) = .error err)
    (groups : List Nat) : GivesUp ⟨.operand, groups⟩ ts err := by
  rcases bind_eq_error.mp h with hfirst | ⟨⟨first, ts'⟩, hfirst, hafter⟩
  · have hgives := hoperand hts (enters_operand level ts) hfirst groups
    rwa [level.due_operand] at hgives
  · have hstops := stopsOn _ ts (enters_operand level ts) hfirst
    have hlt := length_lt_of_read_operand hfirst
    obtain ⟨used, rfl, hused⟩ := exists_run_of_read hts hfirst
    rw [level.due_operand] at hused
    exact (hrest ts' _ hlt (hts.of_suffix (List.suffix_append _ _)) hstops hafter groups).append
      (hused groups)

theorem givesUpOn_rest {level : ChainLevel} {left : Expr}
    (shorter : ∀ f ts', ts'.length < ts.length → GivesUpOn f ts') :
    (rest level left).GivesUpOn ts := by
  intro hts _ err h groups
  rcases ts with _ | ⟨t, ts⟩
  · rw [read_rest_nil] at h
    cases h
  · cases hop : level.op? t.lexeme with
    | none =>
      rw [read_rest_of_none hop] at h
      cases h
    | some op =>
      rw [read_rest_of_some hop] at h
      refine GivesUp.cons ?_ (step_of_op? hop groups)
      refine givesUp_of_bind (.binary op left) (shorter _ ts (by simp)) (fun ts' e hlt ↦ ?_)
        (hts.of_suffix (List.suffix_cons t ts)) h groups
      exact shorter _ ts' (hlt.trans (by simp))

/-- **Giving up.** A reader that fails gives up where there is no way to go on. -/
theorem givesUpOn (f : Form) (ts : List Token) : f.GivesUpOn ts := by
  induction f, ts using induction_on_tokens with
  | step f ts shorter tighter =>
  cases f with
  | chain level =>
    intro hts _ err h
    rw [read_chain] at h
    exact givesUp_of_bind id (tighter _ (depth_operand level)) (fun ts' _ ↦ shorter _ ts') hts h
  | rest level left => exact givesUpOn_rest shorter
  | signed => exact givesUpOn_signed (tighter power (by decide)) (shorter signed)
  | power => exact givesUpOn_power (tighter atom (by decide)) (shorter signed)
  | atom => exact givesUpOn_atom (shorter (chain .sum))

end Form

theorem givesUp_of_ofTokens {ts : List Token} {err : ExprError} (hts : Readable ts) (hne : ts ≠ [])
    (h : Expr.ofTokens ts = .error err) : GivesUp start ts err := by
  rcases (Expr.ofTokens_eq_error_iff hne).mp h with hread | ⟨e, t, after, hread, rfl⟩
  · exact (Form.chain .sum).givesUpOn ts hts trivial hread []
  · have hstops := Form.stopsOn (.chain .sum) ts trivial hread
    obtain ⟨used, rfl, hused⟩ := Form.exists_run_of_read hts hread
    have hstep : step ⟨.operator, []⟩ t = none :=
      step_operator_eq_none (Form.stops_cons.mp hstops) fun _ ↦ rfl
    exact (Halts.unexpected hstep).givesUp.append (hused [])

theorem Halts.run_ne {s : Standing} {ts : List Token} {err : ExprError} (h : Halts s ts err) :
    s.run ts ≠ some ⟨.operator, []⟩ := by
  intro hrun
  cases h with
  | unexpected hstep =>
    rw [run_cons, hstep] at hrun
    cases hrun
  | endOfText hdue =>
    obtain rfl := Option.some.inj hrun
    cases hdue
  | unclosed hs hstep =>
    subst hs
    rcases ts with _ | ⟨t, ts⟩
    · cases hrun
    · rw [run_cons, hstep t rfl] at hrun
      cases hrun

/-! ## Viable tokens -/

/-- The lexemes are those of an expression. -/
def IsExpression (ls : List Lexeme) : Prop :=
  (∀ l ∈ ls, l.IsSpelled) ∧ ∃ e, Derives (.chain .sum) ls e

/-- The tokens can be completed to an expression. -/
def Viable (ts : List Token) : Prop := ∃ ls, IsExpression (ts.map (·.lexeme) ++ ls)

/-- What makes an expression of tokens that lead to the standing: an operand if one is due, and the
parentheses. -/
def Standing.completion (s : Standing) : List Lexeme :=
  match s.due with
  | .operand => .number "0" :: List.replicate s.groups.length .closing
  | .operator => List.replicate s.groups.length .closing

/-- Lexemes as tokens of no particular place. -/
def Lexeme.unplaced (ls : List Lexeme) : List Token := ls.map (⟨·, 0⟩)

theorem Lexeme.map_unplaced (ls : List Lexeme) : (Lexeme.unplaced ls).map (·.lexeme) = ls := by
  rw [Lexeme.unplaced, List.map_map]
  exact List.map_id ls

theorem Standing.run_completion (s : Standing) :
    s.run (Lexeme.unplaced s.completion) = some ⟨.operator, []⟩ := by
  have hclose : ∀ groups : List Nat, run ⟨.operator, groups⟩
      (Lexeme.unplaced (List.replicate groups.length .closing)) = some ⟨.operator, []⟩ := by
    intro groups
    induction groups with
    | nil => rfl
    | cons position groups ih => exact ih
  obtain ⟨due, groups⟩ := s
  cases due with
  | operand => exact hclose groups
  | operator => exact hclose groups

theorem Viable.exists_run {ts : List Token} (h : Viable ts) : ∃ s, start.run ts = some s := by
  obtain ⟨ls, -, e, hderives⟩ := h
  have hlexemes : (ts ++ Lexeme.unplaced ls).map (·.lexeme) = ts.map (·.lexeme) ++ ls := by
    rw [List.map_append, Lexeme.map_unplaced]
  have hrun := run_of_derives hderives hlexemes []
  rw [run_append] at hrun
  obtain ⟨s, hs, -⟩ := Option.bind_eq_some_iff.mp hrun
  exact ⟨s, hs⟩

theorem not_viable_of_step {before : List Token} {t : Token} {s : Standing}
    (hbefore : start.run before = some s) (ht : s.step t = none) (rest : List Token) :
    ¬Viable (before ++ t :: rest) := by
  intro h
  obtain ⟨s', hs'⟩ := h.exists_run
  rw [run_append_of_run hbefore, run_cons, ht] at hs'
  cases hs'

theorem Standing.eq_of_mem_completion {s : Standing} {l : Lexeme} (h : l ∈ s.completion) :
    l = .number "0" ∨ l = .closing := by
  obtain ⟨due, groups⟩ := s
  cases due with
  | operand => exact (List.mem_cons.mp h).imp_right List.eq_of_mem_replicate
  | operator => exact Or.inr (List.eq_of_mem_replicate h)

theorem Standing.isSpelled_of_mem_completion {s : Standing} {l : Lexeme} (h : l ∈ s.completion) :
    l.IsSpelled := by
  rcases s.eq_of_mem_completion h with rfl | rfl
  · exact ⟨_, .whole (by decide)⟩
  · trivial

theorem Standing.numbersShort_completion (s : Standing) : NumbersShort s.completion := by
  intro text htext _
  rcases s.eq_of_mem_completion htext with hl | hl
  · obtain rfl := Lexeme.number.inj hl
    decide
  · cases hl

theorem NumbersShort.append {ls ms : List Lexeme} (hls : NumbersShort ls) (hms : NumbersShort ms) :
    NumbersShort (ls ++ ms) :=
  fun text htext ↦ (List.mem_append.mp htext).elim (hls text) (hms text)

theorem readable_of_isSpelled {ts : List Token} (hspelled : ∀ t ∈ ts, t.lexeme.IsSpelled)
    (hshort : NumbersShort (ts.map (·.lexeme))) : Readable ts := by
  refine ⟨?_, hshort⟩
  rintro ⟨l, position⟩ ht text rfl
  exact hspelled _ ht

/-- **Completing.** Tokens that lead to a standing are completed to an expression by what the
standing says. The parser finds the expression: there is no place at which it could give up. -/
theorem isExpression_of_run {ts : List Token} {s : Standing} (h : start.run ts = some s)
    (hspelled : ∀ t ∈ ts, t.lexeme.IsSpelled) (hshort : NumbersShort (ts.map (·.lexeme))) :
    IsExpression (ts.map (·.lexeme) ++ s.completion) := by
  have hlexemes : (ts ++ Lexeme.unplaced s.completion).map (·.lexeme)
      = ts.map (·.lexeme) ++ s.completion := by
    rw [List.map_append, Lexeme.map_unplaced]
  have hall : ∀ l ∈ ts.map (·.lexeme) ++ s.completion, l.IsSpelled :=
    List.forall_mem_append.mpr
      ⟨List.forall_mem_map.mpr hspelled, fun l hl ↦ isSpelled_of_mem_completion hl⟩
  have hrun : start.run (ts ++ Lexeme.unplaced s.completion) = some ⟨.operator, []⟩ := by
    rw [run_append_of_run h, run_completion]
  have hreadable : Readable (ts ++ Lexeme.unplaced s.completion) := by
    refine readable_of_isSpelled (List.forall_mem_map.mp ?_) ?_
    · rwa [hlexemes]
    · rw [hlexemes]
      exact hshort.append s.numbersShort_completion
  have hne : ts ++ Lexeme.unplaced s.completion ≠ [] := by
    intro hnil
    rw [hnil] at hrun
    cases hrun
  refine ⟨hall, ?_⟩
  cases hresult : Expr.ofTokens (ts ++ Lexeme.unplaced s.completion) with
  | error err =>
    obtain ⟨before, after, s', heq, hbefore, hhalts⟩ := givesUp_of_ofTokens hreadable hne hresult
    rw [heq, run_append_of_run hbefore] at hrun
    exact absurd hrun hhalts.run_ne
  | ok e =>
    obtain ⟨used, heq, hderives⟩ :=
      Form.sound hreadable.written _ (Expr.ofTokens_eq_ok_iff.mp hresult)
    rw [List.append_nil] at heq
    rw [← hlexemes, heq]
    exact ⟨e, hderives⟩

/-! ## Open parentheses -/

/-- The positions of the open parentheses behind a token. -/
def groupsAfter (groups : List Nat) (t : Token) : List Nat :=
  match t.lexeme with
  | .opening => t.position :: groups
  | .closing => groups.tail
  | _ => groups

/-- The positions of the parentheses that are opened in the tokens and not closed, the innermost
first. -/
def openGroups (ts : List Token) : List Nat := ts.foldl groupsAfter []

theorem Standing.groups_of_step {s s' : Standing} {t : Token} (h : s.step t = some s') :
    s'.groups = groupsAfter s.groups t := by
  unfold step at h
  split at h <;> cases h <;> simp [groupsAfter, *]

theorem Standing.groups_of_run {s s' : Standing} {ts : List Token} (h : s.run ts = some s') :
    s'.groups = ts.foldl groupsAfter s.groups := by
  induction ts generalizing s with
  | nil =>
    obtain rfl := Option.some.inj h
    rfl
  | cons t ts ih =>
    rw [run_cons] at h
    obtain ⟨s₁, hstep, hrun⟩ := Option.bind_eq_some_iff.mp h
    rw [ih hrun, groups_of_step hstep, List.foldl_cons]

/-! ## The errors -/

/-- The longest part of the tokens, from the first on, that can be completed. -/
structure LongestViable (before ts : List Token) : Prop where
  front : before <+: ts
  viable : Viable before
  longest : ∀ us, us <+: ts → Viable us → us.length ≤ before.length

theorem longestViable_of_run {before after : List Token} {s : Standing}
    (hrun : start.run before = some s) (hviable : Viable before)
    (hstep : ∀ t ∈ after.head?, s.step t = none) : LongestViable before (before ++ after) := by
  refine ⟨List.prefix_append _ _, hviable, ?_⟩
  intro us hus hviable'
  by_contra hlonger
  -- Something longer would go on with the next token.
  obtain ⟨vs, rfl⟩ := List.prefix_of_prefix_length_le (List.prefix_append before after) hus
    (Nat.le_of_lt (Nat.lt_of_not_le hlonger))
  rcases vs with _ | ⟨t, vs⟩
  · rw [List.append_nil] at hlonger
    exact hlonger (Nat.le_refl _)
  · obtain ⟨rest, hrest⟩ := (List.prefix_append_right_inj before).mp hus
    refine not_viable_of_step hrun (hstep t ?_) vs hviable'
    rw [← hrest]
    rfl

/-- What the error says of the tokens. -/
def Pinpoints (ts : List Token) : ExprError → Prop
  -- The tokens before this one can be completed, and with it they cannot.
  | .unexpected text position => ∃ before t after, ts = before ++ t :: after ∧
      t.lexeme.text = text ∧ t.position = position ∧ Viable before ∧ ¬Viable (before ++ [t])
  -- The tokens are the beginning of an expression that is longer.
  | .endOfText => ∃ ls, ls ≠ [] ∧ IsExpression (ts.map (·.lexeme) ++ ls)
  -- It is the innermost parenthesis that is open where the tokens stop to be viable.
  | .unclosed position =>
    ∃ before, LongestViable before ts ∧ (openGroups before).head? = some position
  | _ => False

theorem Lexeme.Occurs.isSpelled {l : Lexeme} (h : l.Occurs) : l.IsSpelled := by
  obtain ⟨source, ts, hts, t, ht, rfl⟩ := h
  obtain ⟨here, after, -, hscan⟩ := exists_scan?_of_mem_tokensFrom hts ht
  exact (begins_of_scan? hscan).1.spelled

namespace Expr

/-- **Syntax errors.** The error that the parser reports is at the end of the longest part of the
tokens that can be completed to an expression: it tells the token that cannot stand there, or the
end of the tokens where an operand is due, or the innermost parenthesis that is open there. -/
theorem ofTokens_error_pinpoints {ts : List Token} (hne : ts ≠ [])
    (hoccurs : ∀ t ∈ ts, t.lexeme.Occurs) (hshort : NumbersShort (ts.map (·.lexeme)))
    {err : ExprError} (h : ofTokens ts = .error err) : Pinpoints ts err := by
  have hspelled : ∀ t ∈ ts, t.lexeme.IsSpelled := fun t ht ↦ (hoccurs t ht).isSpelled
  obtain ⟨before, after, s, rfl, hrun, hhalts⟩ :=
    givesUp_of_ofTokens (readable_of_isSpelled hspelled hshort) hne h
  rw [List.map_append] at hshort
  have hexpression := isExpression_of_run hrun (List.forall_mem_append.mp hspelled).1
    (hshort.of_subset (List.subset_append_left _ _))
  have hviable : Viable before := ⟨_, hexpression⟩
  cases hhalts with
  | @unexpected t after hstep =>
    exact ⟨before, t, after, rfl, rfl, rfl, hviable, not_viable_of_step hrun hstep []⟩
  | endOfText hdue =>
    refine ⟨s.completion, ?_, ?_⟩
    · rw [Standing.completion, hdue]
      exact List.cons_ne_nil _ _
    · rwa [List.append_nil]
  | unclosed hs hstep =>
    refine ⟨before, longestViable_of_run hrun hviable hstep, ?_⟩
    have hgroups : s.groups = openGroups before := groups_of_run hrun
    rw [← hgroups, hs]
    rfl

/-- In `(1 + (2 3` the inner parenthesis is the one that is not closed, since a number cannot follow
a number. -/
theorem ofTokens_error_pinpoints_unclosed :
    ∃ ts, tokenize "(1 + (2 3" = .ok ts ∧ ofTokens ts = .error (.unclosed 5) ∧
      ∃ before, LongestViable before ts ∧ (openGroups before).head? = some 5 := by
  have htokens : tokenize "(1 + (2 3" = .ok [⟨.opening, 0⟩, ⟨.number "1", 1⟩, ⟨.sign .plus, 3⟩,
      ⟨.opening, 5⟩, ⟨.number "2", 6⟩, ⟨.number "3", 8⟩] := by cbv
  have hshort : NumbersShort [.opening, .number "1", .sign .plus, .opening, .number "2",
      .number "3"] := by
    simp [NumbersShort, Text.isDigits, Text.maxDigits]
  have herror : ofTokens [⟨.opening, 0⟩, ⟨.number "1", 1⟩, ⟨.sign .plus, 3⟩, ⟨.opening, 5⟩,
      ⟨.number "2", 6⟩, ⟨.number "3", 8⟩] = .error (.unclosed 5) := by cbv
  have hpinpoints := ofTokens_error_pinpoints (List.cons_ne_nil _ _)
    (fun t ht ↦ ⟨_, _, htokens, t, ht, rfl⟩) hshort herror
  exact ⟨_, htokens, herror, hpinpoints⟩

end Expr

end LineCommands
