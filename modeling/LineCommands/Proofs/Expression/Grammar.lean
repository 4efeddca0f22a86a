import LineCommands.Proofs.Expression.Tokens
import LineCommands.Proofs.Outcome

/-!
# The grammar of expressions

Reading an expression is deciding a grammar. The grammar is stated here as a relation between
lexemes and trees, form by form:

```text
sum      :=  product (("+" | "-") product)*
product  :=  signed (("*" | "/" | "%") signed)*
signed   :=  ("+" | "-") signed  |  power
power    :=  atom ("**" signed)?
atom     :=  number  |  name  |  "(" sum ")"
```

Both kinds of chain are folded to the left, and parentheses leave no node. The part of a chain
behind its first operand is a form of its own, `rest`, which carries the tree of the chain so far;
this is the fold.

The readers are put in the same form, one function on forms with an equation for each way a form can
begin, and what they read is shown to be a phrase. That every phrase is read is the other half, and
needs an argument about what follows a phrase.

The readers call each other on fewer tokens, or on the same tokens for a form that binds tighter.
`Form.depth` counts how tight a form binds, and `Form.induction_on_tokens` is the induction on both.
-/

namespace LineCommands

/-! ## Forms and derivations -/

/-- The forms of the grammar. -/
inductive Form where
  /-- A sum or a product. -/
  | chain (level : ChainLevel)
  /-- What may come behind a part of a chain with the tree `left`. -/
  | rest (level : ChainLevel) (left : Expr)
  | signed
  | power
  | atom

/-- The form of the operands of a chain. -/
def ChainLevel.operand : ChainLevel → Form
  | sum => .chain .product
  | product => .signed

/-- The lexemes are a phrase of the form with this tree. -/
inductive Derives : Form → List Lexeme → Expr → Prop
  | chain {level : ChainLevel} {ls ms : List Lexeme} {first whole : Expr}
      (hfirst : Derives level.operand ls first) (hrest : Derives (.rest level first) ms whole) :
      Derives (.chain level) (ls ++ ms) whole
  | done {level : ChainLevel} {left : Expr} : Derives (.rest level left) [] left
  | link {level : ChainLevel} {left right whole : Expr} {l : Lexeme} {op : BinaryOp}
      {ls ms : List Lexeme} (hop : level.op? l = some op) (hright : Derives level.operand ls right)
      (hrest : Derives (.rest level (.binary op left right)) ms whole) :
      Derives (.rest level left) (l :: (ls ++ ms)) whole
  | sign {s : Sign} {ls : List Lexeme} {operand : Expr} (h : Derives .signed ls operand) :
      Derives .signed (.sign s :: ls) (.signed s operand)
  | unsigned {ls : List Lexeme} {e : Expr} (h : Derives .power ls e) : Derives .signed ls e
  | base {ls : List Lexeme} {e : Expr} (h : Derives .atom ls e) : Derives .power ls e
  | power {ls ms : List Lexeme} {base exponent : Expr} (hbase : Derives .atom ls base)
      (hexponent : Derives .signed ms exponent) :
      Derives .power (ls ++ .power :: ms) (.binary .pow base exponent)
  | number {text : String} {v : Number} (h : NumberText text.toList v) :
      Derives .atom [.number text] (.number v)
  | name {n : String} : Derives .atom [.name n] (.name n)
  | group {ls : List Lexeme} {e : Expr} (h : Derives (.chain .sum) ls e) :
      Derives .atom (.opening :: (ls ++ [.closing])) e

/-! ## The readers, form by form -/

theorem cons_or_head_ne (l : Lexeme) (ts : List Token) :
    (∃ position rest, ts = ⟨l, position⟩ :: rest) ∨ ∀ t ∈ ts.head?, t.lexeme ≠ l := by
  by_cases h : ∃ position rest, ts = ⟨l, position⟩ :: rest
  · exact Or.inl h
  · right
    rintro ⟨l, position⟩ ht rfl
    obtain ⟨rest, rfl⟩ := List.head?_eq_some_iff.mp ht
    exact h ⟨position, rest, rfl⟩

theorem sign_or_head_ne (ts : List Token) :
    (∃ s position rest, ts = ⟨.sign s, position⟩ :: rest) ∨
      ∀ t ∈ ts.head?, ∀ s, t.lexeme ≠ .sign s := by
  by_cases h : ∃ s position rest, ts = ⟨.sign s, position⟩ :: rest
  · exact Or.inl h
  · right
    rintro ⟨l, position⟩ ht s rfl
    obtain ⟨rest, rfl⟩ := List.head?_eq_some_iff.mp ht
    exact h ⟨s, position, rest, rfl⟩

namespace Form

open LineCommands.Expr

/-- Reads a phrase of the form from the front of the tokens. -/
def read (f : Form) (ts : List Token) : Except ExprError (Expr × List Token) :=
  match f with
  | chain level => (readChain level ts).map (·.val)
  | rest level left => (readTail level left ts).map (·.val)
  | signed => (readSigned ts).map (·.val)
  | power => (readPower ts).map (·.val)
  | atom => (readAtom ts).map (·.val)

theorem read_operand (level : ChainLevel) (ts : List Token) :
    level.operand.read ts = (readOperand level ts).map (·.val) := by
  cases level with
  | sum => rw [ChainLevel.operand, read, readOperand]
  | product => rw [ChainLevel.operand, read, readOperand]

theorem read_chain (level : ChainLevel) (ts : List Token) :
    (chain level).read ts
      = (level.operand.read ts).bind fun first ↦ (rest level first.1).read first.2 := by
  rw [read_operand, read, readChain]
  cases readOperand level ts with
  | error e => rfl
  | ok first =>
    obtain ⟨⟨first, ts'⟩, h⟩ := first
    simp only [Except.map, Except.bind, read]
    cases readTail level first ts' with
    | error e => rfl
    | ok whole => rfl

theorem read_rest_nil (level : ChainLevel) (left : Expr) :
    (rest level left).read [] = .ok (left, []) := by
  rw [read, readTail]
  rfl

theorem read_rest_of_none {level : ChainLevel} {t : Token} (h : level.op? t.lexeme = none)
    (left : Expr) (ts : List Token) :
    (rest level left).read (t :: ts) = .ok (left, t :: ts) := by
  rw [read, readTail]
  split
  · rfl
  · next op hop => rw [h] at hop; cases hop

theorem read_rest_of_some {level : ChainLevel} {t : Token} {op : BinaryOp}
    (h : level.op? t.lexeme = some op) (left : Expr) (ts : List Token) :
    (rest level left).read (t :: ts)
      = (level.operand.read ts).bind fun right ↦
          (rest level (.binary op left right.1)).read right.2 := by
  rw [read_operand, read, readTail]
  split
  · next hop => rw [h] at hop; cases hop
  · next op' hop =>
    obtain rfl : op = op' := by rw [h] at hop; exact Option.some.inj hop
    cases readOperand level ts with
    | error e => rfl
    | ok right =>
      obtain ⟨⟨right, ts'⟩, hlen⟩ := right
      simp only [Except.map, Except.bind, read]
      cases readTail level (.binary op left right) ts' with
      | error e => rfl
      | ok whole => rfl

theorem read_signed_sign (s : Sign) (position : Nat) (ts : List Token) :
    signed.read (⟨.sign s, position⟩ :: ts)
      = (signed.read ts).map fun operand ↦ (.signed s operand.1, operand.2) := by
  rw [read, readSigned, read]
  cases readSigned ts with
  | error e => rfl
  | ok operand => rfl

theorem read_signed_of_not_sign {ts : List Token}
    (h : ∀ t ∈ ts.head?, ∀ s, t.lexeme ≠ .sign s) : signed.read ts = power.read ts := by
  rw [read, readSigned, read]
  · rintro s position rest rfl
    exact h _ rfl s rfl

theorem read_power (ts : List Token) :
    power.read ts = (atom.read ts).bind fun base ↦
      match base.2 with
      | ⟨.power, _⟩ :: ts' =>
        (signed.read ts').map fun exponent ↦ (.binary .pow base.1 exponent.1, exponent.2)
      | _ => .ok base := by
  rw [read, readPower, read]
  cases readAtom ts with
  | error e => rfl
  | ok base =>
    obtain ⟨⟨base, ts'⟩, h⟩ := base
    simp only [Except.map, Except.bind, read]
    cases ts' with
    | nil => rfl
    | cons t ts' =>
      obtain ⟨l, position⟩ := t
      cases l with
      | power =>
        simp only
        cases readSigned ts' with
        | error e => rfl
        | ok exponent => rfl
      | _ => rfl

theorem read_power_of_power {ts ts' : List Token} {base : Expr} {position : Nat}
    (h : atom.read ts = .ok (base, ⟨.power, position⟩ :: ts')) :
    power.read ts
      = (signed.read ts').map fun exponent ↦ (.binary .pow base exponent.1, exponent.2) := by
  rw [read_power, h]
  rfl

theorem read_power_of_not_power {ts ts' : List Token} {base : Expr}
    (h : atom.read ts = .ok (base, ts')) (hts' : ∀ t ∈ ts'.head?, t.lexeme ≠ .power) :
    power.read ts = .ok (base, ts') := by
  rw [read_power, h]
  cases ts' with
  | nil => rfl
  | cons t ts' =>
    obtain ⟨l, position⟩ := t
    cases l with
    | power => exact absurd rfl (hts' _ rfl)
    | _ => rfl

theorem read_atom_nil : atom.read [] = .error .endOfText := by
  rw [read, readAtom]
  rfl

theorem read_atom_number (text : String) (position : Nat) (ts : List Token) :
    atom.read (⟨.number text, position⟩ :: ts) =
      match readNumber? text with
      | some v => .ok (.number v, ts)
      | none => .error (.numberTooLong position) := by
  rw [read, readAtom]
  cases readNumber? text with
  | some v => rfl
  | none => rfl

theorem read_atom_name (n : String) (position : Nat) (ts : List Token) :
    atom.read (⟨.name n, position⟩ :: ts) = .ok (.name n, ts) := by
  rw [read, readAtom]
  rfl

theorem read_atom_opening (position : Nat) (ts : List Token) :
    atom.read (⟨.opening, position⟩ :: ts) = ((chain .sum).read ts).bind fun inner ↦
      match inner.2 with
      | ⟨.closing, _⟩ :: ts' => .ok (inner.1, ts')
      | _ => .error (.unclosed position) := by
  rw [read, read, readAtom]
  cases readChain .sum ts with
  | error e => rfl
  | ok inner =>
    obtain ⟨⟨inner, ts'⟩, h⟩ := inner
    simp only [Except.map, Except.bind]
    cases ts' with
    | nil => rfl
    | cons t ts' =>
      obtain ⟨l, q⟩ := t
      cases l <;> rfl

theorem read_atom_of_closing {ts ts' : List Token} {inner : Expr} {position q : Nat}
    (h : (chain .sum).read ts = .ok (inner, ⟨.closing, q⟩ :: ts')) :
    atom.read (⟨.opening, position⟩ :: ts) = .ok (inner, ts') := by
  rw [read_atom_opening, h]
  rfl

theorem read_atom_of_not_closing {ts ts' : List Token} {inner : Expr} {position : Nat}
    (h : (chain .sum).read ts = .ok (inner, ts')) (hts' : ∀ t ∈ ts'.head?, t.lexeme ≠ .closing) :
    atom.read (⟨.opening, position⟩ :: ts) = .error (.unclosed position) := by
  rw [read_atom_opening, h]
  cases ts' with
  | nil => rfl
  | cons t ts' =>
    obtain ⟨l, q⟩ := t
    cases l with
    | closing => exact absurd rfl (hts' _ rfl)
    | _ => rfl

theorem read_atom_other {t : Token} (ts : List Token) (hnumber : ∀ text, t.lexeme ≠ .number text)
    (hname : ∀ n, t.lexeme ≠ .name n) (hopening : t.lexeme ≠ .opening) :
    atom.read (t :: ts) = .error (.unexpected t.lexeme.text t.position) := by
  rw [read, readAtom.eq_def]
  obtain ⟨l, position⟩ := t
  cases l with
  | number text => exact absurd rfl (hnumber text)
  | name n => exact absurd rfl (hname n)
  | opening => exact absurd rfl hopening
  | _ => rfl

end Form

/-! ## Induction on tokens -/

namespace Form

/-- How many forms a reader goes through on its way to an atom. -/
def depth : Form → Nat
  | .rest .. => 0
  | .atom => 0
  | .power => 1
  | .signed => 2
  | .chain .product => 3
  | .chain .sum => 4

theorem depth_operand (level : ChainLevel) : level.operand.depth < (chain level).depth := by
  cases level <;> decide

/-- What holds of a form on tokens if it holds of all forms on fewer tokens and of the tighter forms
on the same, holds of all forms. -/
theorem induction_on_tokens {P : Form → List Token → Prop}
    (step : ∀ f ts, (∀ g ts', ts'.length < ts.length → P g ts') →
      (∀ g, g.depth < f.depth → P g ts) → P f ts) (f : Form) (ts : List Token) : P f ts := by
  induction hlength : ts.length using Nat.strong_induction_on generalizing f ts with
  | _ n shorter =>
    subst hlength
    induction hdepth : f.depth using Nat.strong_induction_on generalizing f with
    | _ d tighter =>
      subst hdepth
      refine step f ts (fun g ts' hlt ↦ ?_) fun g hlt ↦ ?_
      · exact shorter ts'.length hlt g ts' rfl
      · exact tighter g.depth hlt g rfl

theorem length_lt_of_read_operand {level : ChainLevel} {ts after : List Token} {e : Expr}
    (h : level.operand.read ts = .ok (e, after)) : after.length < ts.length := by
  rw [read_operand] at h
  obtain ⟨⟨⟨e', after'⟩, hlt⟩, -, heq⟩ := map_eq_ok.mp h
  obtain ⟨rfl, rfl⟩ := Prod.mk.inj heq
  exact hlt

theorem length_lt_of_read_atom {ts after : List Token} {e : Expr}
    (h : atom.read ts = .ok (e, after)) : after.length < ts.length := by
  rw [read] at h
  obtain ⟨⟨⟨e', after'⟩, hlt⟩, -, heq⟩ := map_eq_ok.mp h
  obtain ⟨rfl, rfl⟩ := Prod.mk.inj heq
  exact hlt

end Form

/-! ## Soundness -/

/-- The number tokens have the texts of numbers. -/
def NumbersWritten (ts : List Token) : Prop :=
  ∀ t ∈ ts, ∀ text, t.lexeme = .number text → ∃ v, NumberText text.toList v

theorem NumbersWritten.of_suffix {ts ts' : List Token} (h : NumbersWritten ts) (hts : ts' <:+ ts) :
    NumbersWritten ts' :=
  fun t ht ↦ h t (hts.subset ht)

namespace Form

/-- What is read as the form from the front of the tokens is a phrase of the form, and the tokens
that are left stand behind it. -/
def Sound (f : Form) (ts : List Token) : Prop :=
  ∀ ⦃e : Expr⦄ ⦃after : List Token⦄, f.read ts = .ok (e, after) →
    ∃ used, ts = used ++ after ∧ Derives f (used.map (·.lexeme)) e

variable {ts : List Token}

theorem sound_atom (hnumbers : NumbersWritten ts)
    (hgroup : ∀ ts', ts' <:+ ts → ts'.length < ts.length → (chain .sum).Sound ts') :
    atom.Sound ts := by
  intro e after h
  cases ts with
  | nil => rw [read_atom_nil] at h; cases h
  | cons t ts =>
    obtain ⟨l, position⟩ := t
    cases l with
    | number text =>
      rw [read_atom_number] at h
      cases hv : Expr.readNumber? text with
      | none => rw [hv] at h; cases h
      | some v =>
        rw [hv] at h
        obtain ⟨rfl, rfl⟩ := Prod.mk.inj (Except.ok.inj h)
        have htext := hnumbers _ List.mem_cons_self text rfl
        exact ⟨[⟨.number text, position⟩], rfl, .number (numberText_of_readNumber? htext hv)⟩
    | name n =>
      rw [read_atom_name] at h
      obtain ⟨rfl, rfl⟩ := Prod.mk.inj (Except.ok.inj h)
      exact ⟨[⟨.name n, position⟩], rfl, .name⟩
    | opening =>
      have hread := h
      rw [read_atom_opening] at hread
      obtain ⟨⟨inner, ts'⟩, hinner, -⟩ := bind_eq_ok.mp hread
      obtain ⟨us, rfl, hus⟩ := hgroup _ (List.suffix_cons _ _) (by simp) hinner
      -- A group without its parenthesis is an error, whatever is in it.
      rcases cons_or_head_ne .closing ts' with ⟨q, rest, rfl⟩ | hne
      · rw [read_atom_of_closing hinner] at h
        obtain ⟨rfl, rfl⟩ := Prod.mk.inj (Except.ok.inj h)
        refine ⟨⟨.opening, position⟩ :: (us ++ [⟨.closing, q⟩]), by simp, ?_⟩
        rw [List.map_cons, List.map_append]
        exact .group hus
      · rw [read_atom_of_not_closing hinner hne] at h
        cases h
    | _ =>
      rw [read_atom_other _ (by simp) (by simp) (by simp)] at h
      cases h

theorem sound_power (hbase : atom.Sound ts)
    (hexponent : ∀ ts', ts' <:+ ts → ts'.length < ts.length → signed.Sound ts') :
    power.Sound ts := by
  intro e after h
  have hread := h
  rw [read_power] at hread
  obtain ⟨⟨base, ts'⟩, hatom, -⟩ := bind_eq_ok.mp hread
  obtain ⟨us, rfl, hus⟩ := hbase hatom
  -- The token behind the base alone decides whether there is an exponent.
  rcases cons_or_head_ne .power ts' with ⟨position, rest, rfl⟩ | hne
  · rw [read_power_of_power hatom] at h
    obtain ⟨⟨exponent, ts'⟩, hsigned, heq⟩ := map_eq_ok.mp h
    obtain ⟨rfl, rfl⟩ := Prod.mk.inj heq
    obtain ⟨vs, rfl, hvs⟩ := hexponent rest
      ((List.suffix_cons _ rest).trans (List.suffix_append us _))
      (by simp only [List.length_append, List.length_cons]; omega) hsigned
    refine ⟨us ++ ⟨.power, position⟩ :: vs, by simp, ?_⟩
    rw [List.map_append, List.map_cons]
    exact .power hus hvs
  · rw [read_power_of_not_power hatom hne] at h
    obtain ⟨rfl, rfl⟩ := Prod.mk.inj (Except.ok.inj h)
    exact ⟨us, rfl, .base hus⟩

theorem sound_signed (hpower : power.Sound ts)
    (hoperand : ∀ ts', ts' <:+ ts → ts'.length < ts.length → signed.Sound ts') :
    signed.Sound ts := by
  intro e after h
  rcases sign_or_head_ne ts with ⟨s, position, rest, rfl⟩ | hne
  · rw [read_signed_sign] at h
    obtain ⟨⟨operand, ts'⟩, hsigned, heq⟩ := map_eq_ok.mp h
    obtain ⟨rfl, rfl⟩ := Prod.mk.inj heq
    obtain ⟨us, rfl, hus⟩ := hoperand _ (List.suffix_cons _ _) (by simp) hsigned
    exact ⟨⟨.sign s, position⟩ :: us, rfl, .sign hus⟩
  · rw [read_signed_of_not_sign hne] at h
    obtain ⟨us, rfl, hus⟩ := hpower h
    exact ⟨us, rfl, .unsigned hus⟩

theorem sound_rest {level : ChainLevel} {left : Expr}
    (hoperand : ∀ ts', ts' <:+ ts → ts'.length < ts.length → level.operand.Sound ts')
    (hrest : ∀ left' ts', ts' <:+ ts → ts'.length < ts.length → (rest level left').Sound ts') :
    (rest level left).Sound ts := by
  intro e after h
  cases ts with
  | nil =>
    rw [read_rest_nil] at h
    obtain ⟨rfl, rfl⟩ := Prod.mk.inj (Except.ok.inj h)
    exact ⟨[], rfl, .done⟩
  | cons t ts =>
    cases hop : level.op? t.lexeme with
    | none =>
      rw [read_rest_of_none hop] at h
      obtain ⟨rfl, rfl⟩ := Prod.mk.inj (Except.ok.inj h)
      exact ⟨[], rfl, .done⟩
    | some op =>
      rw [read_rest_of_some hop] at h
      obtain ⟨⟨right, ts'⟩, hright, htail⟩ := bind_eq_ok.mp h
      obtain ⟨us, rfl, hus⟩ := hoperand _ (List.suffix_cons _ _) (by simp) hright
      obtain ⟨vs, rfl, hvs⟩ := hrest _ ts'
        ((List.suffix_append us ts').trans (List.suffix_cons t _))
        (by simp only [List.length_append, List.length_cons]; omega) htail
      refine ⟨t :: (us ++ vs), by simp, ?_⟩
      rw [List.map_cons, List.map_append]
      exact .link hop hus hvs

theorem sound_chain {level : ChainLevel} (hoperand : level.operand.Sound ts)
    (hrest : ∀ left ts', ts' <:+ ts → (rest level left).Sound ts') : (chain level).Sound ts := by
  intro e after h
  rw [read_chain] at h
  obtain ⟨⟨first, ts'⟩, hfirst, htail⟩ := bind_eq_ok.mp h
  obtain ⟨us, rfl, hus⟩ := hoperand hfirst
  obtain ⟨vs, rfl, hvs⟩ := hrest _ _ (List.suffix_append _ _) htail
  refine ⟨us ++ vs, (List.append_assoc us vs after).symm, ?_⟩
  rw [List.map_append]
  exact .chain hus hvs

/-- **Soundness.** On shorter tokens every reader is sound by induction, so on these tokens the
readers become sound in the order in which they call each other. -/
theorem sound (hnumbers : NumbersWritten ts) (f : Form) : f.Sound ts := by
  induction hn : ts.length using Nat.strong_induction_on generalizing ts f with
  | _ n ih =>
    subst hn
    have shorter : ∀ g : Form, ∀ ts', ts' <:+ ts → ts'.length < ts.length → g.Sound ts' :=
      fun g ts' hts hlt ↦ ih ts'.length hlt (hnumbers.of_suffix hts) g rfl
    have hatom : atom.Sound ts := sound_atom hnumbers (shorter (chain .sum))
    have hpower : power.Sound ts := sound_power hatom (shorter signed)
    have hsigned : signed.Sound ts := sound_signed hpower (shorter signed)
    -- A rest calls readers on shorter tokens only, so it is sound on every end of these.
    have hrest : ∀ level left ts', ts' <:+ ts → (rest level left).Sound ts' := by
      intro level left ts' hts
      refine sound_rest (fun us hus hlt ↦ ?_) fun left' us hus hlt ↦ ?_
      · exact shorter _ us (hus.trans hts) (hlt.trans_le hts.length_le)
      · exact shorter _ us (hus.trans hts) (hlt.trans_le hts.length_le)
    have hproduct : (chain .product).Sound ts := sound_chain hsigned (hrest .product)
    have hsum : (chain .sum).Sound ts := sound_chain hproduct (hrest .sum)
    cases f with
    | chain level =>
      cases level with
      | sum => exact hsum
      | product => exact hproduct
    | rest level left => exact hrest level left ts (List.suffix_refl _)
    | signed => exact hsigned
    | power => exact hpower
    | atom => exact hatom

end Form

/-! ## Whole token lists -/

namespace Expr

/-- All of the tokens are read as an expression when they are read as a sum and none is left. -/
theorem ofTokens_eq_ok_iff {ts : List Token} {e : Expr} :
    ofTokens ts = .ok e ↔ (Form.chain .sum).read ts = .ok (e, []) := by
  cases ts with
  | nil =>
    have hread : (Form.chain .sum).read [] = .error .endOfText := by
      rw [Form.read_chain, ChainLevel.operand, Form.read_chain, ChainLevel.operand,
        Form.read_signed_of_not_sign (by simp), Form.read_power, Form.read_atom_nil]
      rfl
    rw [hread]
    simp [ofTokens]
  | cons t ts =>
    rw [ofTokens, Form.read]
    cases readChain .sum (t :: ts) with
    | error err => simp [Except.map]
    | ok whole =>
      obtain ⟨⟨whole, rest⟩, h⟩ := whole
      cases rest with
      | nil => simp [Except.map]
      | cons t' rest => simp [Except.map]

/-- Tokens are no expression when they do not begin with a sum, or when a token is left behind it,
and that is the one told. -/
theorem ofTokens_eq_error_iff {ts : List Token} (hne : ts ≠ []) {err : ExprError} :
    ofTokens ts = .error err ↔ (Form.chain .sum).read ts = .error err ∨
      ∃ e t after, (Form.chain .sum).read ts = .ok (e, t :: after) ∧
        err = .unexpected t.lexeme.text t.position := by
  rw [ofTokens, if_neg (by simpa using hne), Form.read]
  cases readChain .sum ts with
  | error err' => simp [Except.map]
  | ok whole =>
    obtain ⟨⟨whole, rest⟩, h⟩ := whole
    cases rest with
    | nil => simp [Except.map]
    | cons t rest =>
      constructor
      · intro herror
        exact Or.inr ⟨whole, t, rest, rfl, (Except.error.inj herror).symm⟩
      · rintro (hread | ⟨e, t', after, hread, rfl⟩)
        · cases hread
        · obtain ⟨-, hrest⟩ := Prod.mk.inj (Except.ok.inj hread)
          obtain ⟨rfl, -⟩ := List.cons.inj hrest
          rfl

end Expr

end LineCommands
