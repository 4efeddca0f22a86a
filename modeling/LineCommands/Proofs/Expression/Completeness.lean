import Mathlib
import LineCommands.Proofs.Expression.Grammar

/-!
# The parser decides the grammar

Greedy reading loses nothing: every phrase of the grammar is read, and read as the tree that the
grammar gives it. With soundness this makes the parser a decision of the grammar. That lexemes have
one tree at most is a fact about the grammar alone (`Derives.unique`), and holds without regard to
how many digits are read.

## Why greedy reading is enough

The readers never look back: a chain goes on as long as it can, and a power takes its exponent
whenever it can. What makes this complete is a condition on the lexeme that follows. `Form.goesOn`
says which lexemes a reader would take up instead of stopping; a phrase of the grammar is read in
front of every text whose first lexeme is not one of them (`read_of_derives`), and inside a phrase
what follows a part never is. The same condition keeps a phrase from being the beginning of another.

Whole numbers of too many digits are the one thing that the grammar has and the parser does not
read, so they are kept out by a condition of their own, `NumbersShort`.
-/

namespace LineCommands

/-! ## Where readers stop -/

/-- The reader of the form takes up a token of this lexeme instead of stopping before it. -/
def Form.goesOn : Form → Lexeme → Bool
  | .atom, _ => false
  | .power, l => l == .power
  | .signed, l => l == .power
  | .chain level, l | .rest level _, l =>
    l == .power || (ChainLevel.product.op? l).isSome || (level.op? l).isSome

/-- The reader of the form stops before these lexemes. -/
def Form.Stops (f : Form) (ls : List Lexeme) : Prop := ∀ l ∈ ls.head?, f.goesOn l = false

theorem Form.stops_nil (f : Form) : f.Stops [] := by
  intro l hl
  cases hl

theorem Form.stops_cons {f : Form} {l : Lexeme} {ls : List Lexeme} :
    f.Stops (l :: ls) ↔ f.goesOn l = false := by
  simp [Stops]

theorem Form.stops_atom (ls : List Lexeme) : Form.atom.Stops ls := fun _ _ ↦ rfl

namespace ChainLevel

variable {level : ChainLevel} {l : Lexeme}

theorem goesOn_operand_of_op? {op : BinaryOp} (h : level.op? l = some op) :
    level.operand.goesOn l = false := by
  cases level with
  | sum =>
    cases l with
    | sign s => rfl
    | _ => cases h
  | product =>
    cases l with
    | times | slash | modulo => rfl
    | _ => cases h

theorem goesOn_chain_eq_false (h : (Form.chain level).goesOn l = false) :
    level.operand.goesOn l = false ∧ level.op? l = none := by
  cases level with
  | sum => simpa [Form.goesOn, operand] using h
  | product => simpa [Form.goesOn, operand] using h

theorem stops_operand {ls : List Lexeme} (h : (Form.chain level).Stops ls) :
    level.operand.Stops ls :=
  fun l hl ↦ (goesOn_chain_eq_false (h l hl)).1

end ChainLevel

namespace Derives

variable {level : ChainLevel} {left e : Expr} {ls : List Lexeme}

theorem eq_nil_or_op?_of_rest (h : Derives (.rest level left) ls e) :
    ls = [] ∨ ∃ l ls' op, ls = l :: ls' ∧ level.op? l = some op := by
  cases h with
  | done => exact Or.inl rfl
  | link hop _ _ => exact Or.inr ⟨_, _, _, rfl, hop⟩

theorem exists_cons_of_atom (h : Derives .atom ls e) :
    ∃ l ls', ls = l :: ls' ∧ ∀ s, l ≠ .sign s := by
  cases h with
  | number _ => exact ⟨_, _, rfl, by simp⟩
  | name => exact ⟨_, _, rfl, by simp⟩
  | group _ => exact ⟨_, _, rfl, by simp⟩

theorem exists_cons_of_power (h : Derives .power ls e) :
    ∃ l ls', ls = l :: ls' ∧ ∀ s, l ≠ .sign s := by
  cases h with
  | base h => exact exists_cons_of_atom h
  | power hbase _ =>
    obtain ⟨l, ls', rfl, hl⟩ := exists_cons_of_atom hbase
    exact ⟨l, _, rfl, hl⟩

/-- Inside a chain an operand is over where the rest of the chain begins, and at the end of the
chain where the chain is. -/
theorem stops_operand_of_rest {after : List Lexeme} (h : Derives (.rest level left) ls e)
    (hafter : (Form.chain level).Stops after) : level.operand.Stops (ls ++ after) := by
  rcases h.eq_nil_or_op?_of_rest with rfl | ⟨l, ls, op, rfl, hop⟩
  · exact ChainLevel.stops_operand hafter
  · exact Form.stops_cons.mpr (ChainLevel.goesOn_operand_of_op? hop)

/-! ## Unambiguity -/

theorem ne_sign_of_power {ms : List Lexeme} {s : Sign} (h : Derives .power ls e)
    (r : List Lexeme) : ls ++ r ≠ .sign s :: ms := by
  obtain ⟨l, ls, rfl, hl⟩ := h.exists_cons_of_power
  intro heq
  exact hl s (List.cons.inj heq).1

/-- A phrase and its tree are determined by the lexemes that it begins, as long as its reader stops
behind it. -/
theorem eq_of_append_eq {f : Form} {ls ms r r' : List Lexeme} {a b : Expr} (h : Derives f ls a)
    (h' : Derives f ms b) (heq : ls ++ r = ms ++ r') (hr : f.Stops r) (hr' : f.Stops r') :
    ls = ms ∧ a = b := by
  induction h generalizing ms r r' b with
  | @chain level ls₁ ls₂ first whole _ hrest ihfirst ihrest =>
    cases h' with
    | chain hfirst' hrest' =>
      rw [List.append_assoc, List.append_assoc] at heq
      obtain ⟨rfl, rfl⟩ := ihfirst hfirst' heq (hrest.stops_operand_of_rest hr)
        (hrest'.stops_operand_of_rest hr')
      obtain ⟨rfl, rfl⟩ := ihrest hrest' (List.append_cancel_left heq) hr hr'
      exact ⟨rfl, rfl⟩
  | done =>
    cases h' with
    | done => exact ⟨rfl, rfl⟩
    | link hop' _ _ =>
      -- What follows the one phrase would go on with the chain of the other.
      rw [List.nil_append, List.cons_append] at heq
      rw [heq, Form.stops_cons] at hr
      rw [(ChainLevel.goesOn_chain_eq_false hr).2] at hop'
      cases hop'
  | @link level left right whole l op ls₁ ls₂ hop _ hrest ihright ihrest =>
    cases h' with
    | done =>
      rw [List.nil_append, List.cons_append] at heq
      rw [← heq, Form.stops_cons] at hr'
      rw [(ChainLevel.goesOn_chain_eq_false hr').2] at hop
      cases hop
    | link hop' hright' hrest' =>
      rw [List.cons_append, List.cons_append] at heq
      obtain ⟨rfl, htail⟩ := List.cons.inj heq
      obtain rfl := Option.some.inj (hop.symm.trans hop')
      rw [List.append_assoc, List.append_assoc] at htail
      obtain ⟨rfl, rfl⟩ := ihright hright' htail (hrest.stops_operand_of_rest hr)
        (hrest'.stops_operand_of_rest hr')
      obtain ⟨rfl, rfl⟩ := ihrest hrest' (List.append_cancel_left htail) hr hr'
      exact ⟨rfl, rfl⟩
  | @sign s ls operand _ ih =>
    cases h' with
    | sign h' =>
      obtain ⟨hs, htail⟩ := List.cons.inj heq
      obtain rfl := Lexeme.sign.inj hs
      obtain ⟨rfl, rfl⟩ := ih h' htail hr hr'
      exact ⟨rfl, rfl⟩
    | unsigned h' => exact absurd heq.symm (h'.ne_sign_of_power r')
  | unsigned h ih =>
    cases h' with
    | sign _ => exact absurd heq (h.ne_sign_of_power r)
    | unsigned h' => exact ih h' heq hr hr'
  | base _ ih =>
    cases h' with
    | base h' => exact ih h' heq (Form.stops_atom r) (Form.stops_atom r')
    | power hbase' _ =>
      rw [List.append_assoc] at heq
      obtain ⟨rfl, -⟩ := ih hbase' heq (Form.stops_atom _) (Form.stops_atom _)
      rw [List.append_cancel_left heq, List.cons_append, Form.stops_cons] at hr
      cases hr
  | power _ _ ihbase ihexponent =>
    cases h' with
    | base h' =>
      rw [List.append_assoc] at heq
      obtain ⟨rfl, -⟩ := ihbase h' heq (Form.stops_atom _) (Form.stops_atom _)
      rw [← List.append_cancel_left heq, List.cons_append, Form.stops_cons] at hr'
      cases hr'
    | power hbase' hexponent' =>
      rw [List.append_assoc, List.append_assoc] at heq
      obtain ⟨rfl, rfl⟩ := ihbase hbase' heq (Form.stops_atom _) (Form.stops_atom _)
      have htail := (List.cons.inj (List.append_cancel_left heq)).2
      obtain ⟨rfl, rfl⟩ := ihexponent hexponent' htail hr hr'
      exact ⟨rfl, rfl⟩
  | number hv =>
    cases h' with
    | number hv' =>
      obtain rfl := Lexeme.number.inj (List.cons.inj heq).1
      exact ⟨rfl, congrArg Expr.number (hv.unique hv')⟩
    | name => cases (List.cons.inj heq).1
    | group _ => cases (List.cons.inj heq).1
  | name =>
    cases h' with
    | number _ => cases (List.cons.inj heq).1
    | name =>
      obtain rfl := Lexeme.name.inj (List.cons.inj heq).1
      exact ⟨rfl, rfl⟩
    | group _ => cases (List.cons.inj heq).1
  | group _ ih =>
    cases h' with
    | number _ => cases (List.cons.inj heq).1
    | name => cases (List.cons.inj heq).1
    | group h' =>
      rw [List.cons_append, List.cons_append, List.append_assoc, List.append_assoc] at heq
      obtain ⟨rfl, rfl⟩ := ih h' (List.cons.inj heq).2 (Form.stops_cons.mpr rfl)
        (Form.stops_cons.mpr rfl)
      exact ⟨rfl, rfl⟩

/-- **The grammar is unambiguous.** -/
theorem unique {f : Form} {ls : List Lexeme} {a b : Expr} (h : Derives f ls a)
    (h' : Derives f ls b) : a = b :=
  (h.eq_of_append_eq h' rfl (Form.stops_nil f) (Form.stops_nil f)).2

end Derives

/-! ## Completeness -/

/-- No whole number among the lexemes has too many digits. -/
def NumbersShort (ls : List Lexeme) : Prop :=
  ∀ text, .number text ∈ ls →
    Text.isDigits text.toList = true → text.toList.length ≤ Text.maxDigits

theorem NumbersShort.of_subset {ls ms : List Lexeme} (h : NumbersShort ms) (hsubset : ls ⊆ ms) :
    NumbersShort ls :=
  fun text ht ↦ h text (hsubset ht)

/-- **Completeness.** A phrase of the form is read, whatever follows it, as long as the reader stops
there. -/
theorem read_of_derives {f : Form} {ls : List Lexeme} {e : Expr} (h : Derives f ls e)
    (hshort : NumbersShort ls) {ts after : List Token} (hts : ts.map (·.lexeme) = ls)
    (hafter : f.Stops (after.map (·.lexeme))) : f.read (ts ++ after) = .ok (e, after) := by
  induction h generalizing ts after with
  | @chain level ls ms first whole _ hrest ihfirst ihrest =>
    obtain ⟨us, vs, rfl, rfl, rfl⟩ := List.map_eq_append_iff.mp hts
    have hstop := hrest.stops_operand_of_rest hafter
    rw [← List.map_append] at hstop
    rw [Form.read_chain, List.append_assoc,
      ihfirst (hshort.of_subset (List.subset_append_left _ _)) rfl hstop]
    exact ihrest (hshort.of_subset (List.subset_append_right _ _)) rfl hafter
  | @done level left =>
    obtain rfl := List.map_eq_nil_iff.mp hts
    cases after with
    | nil => exact Form.read_rest_nil level left
    | cons t after =>
      have hstop := Form.stops_cons.mp hafter
      exact Form.read_rest_of_none (ChainLevel.goesOn_chain_eq_false hstop).2 left after
  | @link level left right whole l op ls ms hop _ hrest ihright ihrest =>
    obtain ⟨t, ts, rfl, rfl, htail⟩ := List.map_eq_cons_iff.mp hts
    obtain ⟨us, vs, rfl, rfl, rfl⟩ := List.map_eq_append_iff.mp htail
    have hshort' := hshort.of_subset (List.subset_cons_self _ _)
    have hstop := hrest.stops_operand_of_rest hafter
    rw [← List.map_append] at hstop
    rw [List.cons_append, Form.read_rest_of_some hop, List.append_assoc,
      ihright (hshort'.of_subset (List.subset_append_left _ _)) rfl hstop]
    exact ihrest (hshort'.of_subset (List.subset_append_right _ _)) rfl hafter
  | @sign s ls operand _ ih =>
    obtain ⟨⟨_, position⟩, ts, rfl, rfl, rfl⟩ := List.map_eq_cons_iff.mp hts
    rw [List.cons_append, Form.read_signed_sign,
      ih (hshort.of_subset (List.subset_cons_self _ _)) rfl hafter]
    rfl
  | @unsigned ls e hpower ih =>
    rw [Form.read_signed_of_not_sign]
    · exact ih hshort hts hafter
    · obtain ⟨l, ls', rfl, hl⟩ := hpower.exists_cons_of_power
      obtain ⟨t, ts, rfl, rfl, -⟩ := List.map_eq_cons_iff.mp hts
      intro t' ht'
      obtain rfl : t = t' := by simpa using ht'
      exact hl
  | @base ls e _ ih =>
    refine Form.read_power_of_not_power (ih hshort hts (Form.stops_atom _)) fun t ht ↦ ?_
    have hstop := hafter t.lexeme (by rw [List.head?_map]; exact Option.mem_map_of_mem _ ht)
    simpa [Form.goesOn] using hstop
  | @power ls ms base exponent _ _ ihbase ihexponent =>
    obtain ⟨us, vs, rfl, rfl, hvs⟩ := List.map_eq_append_iff.mp hts
    obtain ⟨⟨_, position⟩, vs, rfl, rfl, rfl⟩ := List.map_eq_cons_iff.mp hvs
    have hatom : Form.atom.read (us ++ ⟨.power, position⟩ :: (vs ++ after)) = .ok (base, _) :=
      ihbase (hshort.of_subset (List.subset_append_left _ _)) rfl (Form.stops_atom _)
    have hshort' := (hshort.of_subset (List.subset_append_right _ _)).of_subset
      (List.subset_cons_self _ _)
    rw [List.append_assoc, List.cons_append, Form.read_power_of_power hatom,
      ihexponent hshort' rfl hafter]
    rfl
  | @number text v hv =>
    obtain ⟨⟨_, position⟩, rfl, rfl⟩ := List.map_eq_singleton_iff.mp hts
    have hread := readNumber?_of_numberText hv (hshort text List.mem_cons_self)
    rw [String.ofList_toList] at hread
    rw [List.cons_append, Form.read_atom_number, hread]
    rfl
  | @name n =>
    obtain ⟨⟨_, position⟩, rfl, rfl⟩ := List.map_eq_singleton_iff.mp hts
    exact Form.read_atom_name n position after
  | @group ls e _ ih =>
    obtain ⟨⟨_, position⟩, ts, rfl, rfl, htail⟩ := List.map_eq_cons_iff.mp hts
    obtain ⟨us, vs, rfl, rfl, hvs⟩ := List.map_eq_append_iff.mp htail
    obtain ⟨⟨_, q⟩, rfl, rfl⟩ := List.map_eq_singleton_iff.mp hvs
    -- The sum inside stops before the parenthesis, which is no operator.
    have hinner : (Form.chain .sum).read (us ++ ⟨.closing, q⟩ :: after) = .ok (e, _) :=
      ih ((hshort.of_subset (List.subset_cons_self _ _)).of_subset (List.subset_append_left _ _))
        rfl (Form.stops_cons.mpr rfl)
    rw [List.cons_append, List.append_assoc]
    exact Form.read_atom_of_closing hinner

/-! ## Whole token lists -/

namespace Expr

/-- **The parser decides the grammar.** The grammar gives a list of tokens one tree at most. Of the
lists that texts can have, without whole numbers of too many digits, the parser gives that tree to
those that have one, and an error to all others. -/
theorem ofTokens_decides_grammar (ts : List Token) (hoccurs : ∀ t ∈ ts, t.lexeme.Occurs)
    (hshort : NumbersShort (ts.map (·.lexeme))) :
    (∀ e, ofTokens ts = .ok e ↔ Derives (.chain .sum) (ts.map (·.lexeme)) e) ∧
    (∀ ls e e', Derives (.chain .sum) ls e → Derives (.chain .sum) ls e' → e = e') ∧
    ((∃ err, ofTokens ts = .error err) ↔ ¬∃ e, Derives (.chain .sum) (ts.map (·.lexeme)) e) := by
  have hreads : ∀ e, ofTokens ts = .ok e ↔ Derives (.chain .sum) (ts.map (·.lexeme)) e := by
    intro e
    rw [ofTokens_eq_ok_iff]
    constructor
    · intro h
      have hnumbers : NumbersWritten ts :=
        fun t ht text hl ↦ Lexeme.Occurs.numberText (hl ▸ hoccurs t ht)
      obtain ⟨used, rfl, hderives⟩ := Form.sound hnumbers _ h
      rwa [List.append_nil]
    · intro h
      have hread : (Form.chain .sum).read (ts ++ []) = .ok (e, []) :=
        read_of_derives h hshort rfl (Form.stops_nil _)
      rwa [List.append_nil] at hread
  refine ⟨hreads, fun ls e e' he he' ↦ he.unique he', ?_⟩
  simp only [← hreads]
  cases ofTokens ts with
  | error err => simp
  | ok e => simp

theorem ofTokens_decides_grammar_signed_power :
    ∃ ts, tokenize "-(n + 1) ** 2 * 5" = .ok ts ∧ NumbersShort (ts.map (·.lexeme)) ∧
      Derives (.chain .sum) (ts.map (·.lexeme))
        (.binary .mul
          (.signed .minus
            (.binary .pow (.binary .add (.name "n") (.number (.int 1))) (.number (.int 2))))
          (.number (.int 5))) := by
  have htokens : tokenize "-(n + 1) ** 2 * 5" = .ok [⟨.sign .minus, 0⟩, ⟨.opening, 1⟩,
      ⟨.name "n", 2⟩, ⟨.sign .plus, 4⟩, ⟨.number "1", 6⟩, ⟨.closing, 7⟩, ⟨.power, 9⟩,
      ⟨.number "2", 12⟩, ⟨.times, 14⟩, ⟨.number "5", 16⟩] := by cbv
  refine ⟨_, htokens, ?_⟩
  have hshort : NumbersShort [.sign .minus, .opening, .name "n", .sign .plus, .number "1",
      .closing, .power, .number "2", .times, .number "5"] := by
    simp [NumbersShort, Text.isDigits, Text.maxDigits]
  refine ⟨hshort, ?_⟩
  have hdecides := ofTokens_decides_grammar _ (fun t ht ↦ ⟨_, _, htokens, t, ht, rfl⟩) hshort
  refine (hdecides.1 _).mp ?_
  cbv

end Expr

end LineCommands
