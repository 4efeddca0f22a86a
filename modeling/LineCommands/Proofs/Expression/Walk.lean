import Mathlib.Data.List.Basic
import LineCommands.Proofs.Expression.Grammar

/-!
# Walking a tree

A tree is walked in order: the left operand, the operator, the right operand, and a sign before its
operand. What is met on the way through the tree of tokens are these tokens, all of them and in
their order, but for the parentheses. A number is met as its value, and every other token as it is
written.

The readers keep this up one call after the other (`Form.walks`): what a reader has taken from the
front of the tokens is what is met behind the tree that it started from, which is none for all forms
but the rest of a chain. So no reference to a name is lost between the tokens and the tree.
-/

namespace LineCommands

/-! ## The walk -/

/-- What is met on a walk: the value of a number, or another token. -/
inductive Item where
  | number (v : Number)
  | written (l : Lexeme)
deriving DecidableEq

/-- The operator as a token. -/
def BinaryOp.lexeme : BinaryOp → Lexeme
  | add => .sign .plus
  | sub => .sign .minus
  | mul => .times
  | div => .slash
  | rem => .modulo
  | pow => .power

/-- What is met on a walk through a tree, in order. -/
def Expr.walk : Expr → List Item
  | number v => [.number v]
  | name n => [.written (.name n)]
  | signed s e => .written (.sign s) :: e.walk
  | binary op l r => l.walk ++ .written op.lexeme :: r.walk

namespace Lexeme

/-- A parenthesis leaves no node in a tree. -/
def isParenthesis : Lexeme → Bool
  | opening | closing => true
  | _ => false

/-- What a lexeme is met as on a walk. A number that cannot be read is not met. -/
def item? : Lexeme → Option Item
  | number text => (Expr.readNumber? text).map .number
  | l => some (.written l)

/-- What the lexemes are met as, without the parentheses. -/
def items (ls : List Lexeme) : List (Option Item) := (ls.filter (!·.isParenthesis)).map item?

theorem items_append (ls ms : List Lexeme) : items (ls ++ ms) = items ls ++ items ms := by
  rw [items, List.filter_append, List.map_append, items, items]

theorem items_cons {l : Lexeme} (h : l.isParenthesis = false) (ls : List Lexeme) :
    items (l :: ls) = l.item? :: items ls := by
  rw [items, List.filter_cons_of_pos (by rw [h]; rfl), List.map_cons, items]

theorem items_cons_of_isParenthesis {l : Lexeme} (h : l.isParenthesis = true) (ls : List Lexeme) :
    items (l :: ls) = items ls := by
  rw [items, List.filter_cons_of_neg (by rw [h]; decide), items]

/-- The name that a lexeme is. -/
def name? : Lexeme → Option String
  | name n => some n
  | _ => none

theorem name?_eq_some_iff {l : Lexeme} {n : String} : l.name? = some n ↔ l = .name n := by
  cases l <;> simp [name?]

end Lexeme

theorem ChainLevel.eq_lexeme_of_op? {level : ChainLevel} {l : Lexeme} {op : BinaryOp}
    (h : level.op? l = some op) : l = op.lexeme := by
  cases level with
  | sum =>
    cases l with
    | sign s => cases s <;> (obtain rfl := Option.some.inj h; rfl)
    | _ => cases h
  | product =>
    cases l with
    | times | slash | modulo => obtain rfl := Option.some.inj h; rfl
    | _ => cases h

theorem BinaryOp.items_lexeme_cons (op : BinaryOp) (ls : List Lexeme) :
    Lexeme.items (op.lexeme :: ls) = some (.written op.lexeme) :: Lexeme.items ls := by
  cases op <;> rfl

/-! ## The readers keep up the walk -/

namespace Form

/-- What is met in the tree that a form starts from: that of the chain so far. -/
def walked : Form → List Item
  | rest _ left => left.walk
  | _ => []

theorem walked_operand (level : ChainLevel) : level.operand.walked = [] := by
  cases level <;> rfl

/-- What was taken from the tokens is met behind what was walked before. -/
def Walks (f : Form) (ts : List Token) : Prop :=
  ∀ ⦃e : Expr⦄ ⦃after : List Token⦄, f.read ts = .ok (e, after) →
    ∃ used, ts = used ++ after ∧
      e.walk.map some = f.walked.map some ++ Lexeme.items (used.map (·.lexeme))

variable {ts : List Token}

theorem walks_chain {level : ChainLevel} (hfirst : level.operand.Walks ts)
    (hrest : ∀ left ts', ts'.length < ts.length → (rest level left).Walks ts') :
    (chain level).Walks ts := by
  intro e after h
  rw [read_chain] at h
  obtain ⟨⟨first, ts'⟩, hread, htail⟩ := bind_eq_ok.mp h
  obtain ⟨us, rfl, hus⟩ := hfirst hread
  obtain ⟨vs, rfl, hvs⟩ := hrest first ts' (length_lt_of_read_operand hread) htail
  refine ⟨us ++ vs, (List.append_assoc us vs after).symm, ?_⟩
  rw [walked_operand] at hus
  rw [hvs, walked, hus, List.map_append, Lexeme.items_append]
  rfl

theorem walks_rest {level : ChainLevel} {left : Expr}
    (hoperand : ∀ ts', ts'.length < ts.length → level.operand.Walks ts')
    (hrest : ∀ left' ts', ts'.length < ts.length → (rest level left').Walks ts') :
    (rest level left).Walks ts := by
  intro e after h
  cases ts with
  | nil =>
    rw [read_rest_nil] at h
    obtain ⟨rfl, rfl⟩ := Prod.mk.inj (Except.ok.inj h)
    exact ⟨[], rfl, (List.append_nil _).symm⟩
  | cons t ts =>
    cases hop : level.op? t.lexeme with
    | none =>
      rw [read_rest_of_none hop] at h
      obtain ⟨rfl, rfl⟩ := Prod.mk.inj (Except.ok.inj h)
      exact ⟨[], rfl, (List.append_nil _).symm⟩
    | some op =>
      rw [read_rest_of_some hop] at h
      obtain ⟨⟨right, ts'⟩, hright, htail⟩ := bind_eq_ok.mp h
      have hlt := length_lt_of_read_operand hright
      obtain ⟨us, rfl, hus⟩ := hoperand ts (by simp) hright
      obtain ⟨vs, rfl, hvs⟩ := hrest _ ts' (by rw [List.length_cons]; omega) htail
      refine ⟨t :: (us ++ vs), by simp, ?_⟩
      rw [walked_operand] at hus
      have hboth : (Expr.binary op left right).walk.map some
          = left.walk.map some ++ some (.written op.lexeme) :: right.walk.map some := by
        rw [Expr.walk, List.map_append, List.map_cons]
      rw [hvs, walked, hboth, hus, walked, List.map_cons, ChainLevel.eq_lexeme_of_op? hop,
        op.items_lexeme_cons, List.map_append, Lexeme.items_append]
      simp

theorem walks_signed (hpower : power.Walks ts)
    (hoperand : ∀ ts', ts'.length < ts.length → signed.Walks ts') : signed.Walks ts := by
  intro e after h
  rcases sign_or_head_ne ts with ⟨s, position, rest, rfl⟩ | hne
  · rw [read_signed_sign] at h
    obtain ⟨⟨operand, ts'⟩, hsigned, heq⟩ := map_eq_ok.mp h
    obtain ⟨rfl, rfl⟩ := Prod.mk.inj heq
    obtain ⟨us, rfl, hus⟩ := hoperand rest (by simp) hsigned
    refine ⟨⟨.sign s, position⟩ :: us, rfl, ?_⟩
    rw [Expr.walk, List.map_cons, hus, List.map_cons, Lexeme.items_cons rfl]
    rfl
  · rw [read_signed_of_not_sign hne] at h
    exact hpower h

theorem walks_power (hbase : atom.Walks ts)
    (hexponent : ∀ ts', ts'.length < ts.length → signed.Walks ts') : power.Walks ts := by
  intro e after h
  have hread := h
  rw [read_power] at hread
  obtain ⟨⟨base, ts'⟩, hatom, -⟩ := bind_eq_ok.mp hread
  have hlt := length_lt_of_read_atom hatom
  obtain ⟨us, rfl, hus⟩ := hbase hatom
  rcases cons_or_head_ne .power ts' with ⟨position, rest, rfl⟩ | hne
  · rw [read_power_of_power hatom] at h
    obtain ⟨⟨exponent, ts'⟩, hsigned, heq⟩ := map_eq_ok.mp h
    obtain ⟨rfl, rfl⟩ := Prod.mk.inj heq
    rw [List.length_cons] at hlt
    obtain ⟨vs, rfl, hvs⟩ := hexponent rest (by omega) hsigned
    refine ⟨us ++ ⟨.power, position⟩ :: vs, by simp, ?_⟩
    rw [Expr.walk, List.map_append, List.map_cons, hus, hvs, List.map_append, List.map_cons,
      Lexeme.items_append, Lexeme.items_cons rfl]
    rfl
  · rw [read_power_of_not_power hatom hne] at h
    obtain ⟨rfl, rfl⟩ := Prod.mk.inj (Except.ok.inj h)
    exact ⟨us, rfl, hus⟩

theorem walks_atom (hgroup : ∀ ts', ts'.length < ts.length → (chain .sum).Walks ts') :
    atom.Walks ts := by
  intro e after h
  cases ts with
  | nil => rw [read_atom_nil] at h; cases h
  | cons t ts =>
    obtain ⟨l, position⟩ := t
    cases l with
    | number text =>
      rw [read_atom_number] at h
      split at h
      · next v hv =>
        obtain ⟨rfl, rfl⟩ := Prod.mk.inj (Except.ok.inj h)
        refine ⟨[⟨.number text, position⟩], rfl, ?_⟩
        rw [List.map_singleton, Lexeme.items_cons rfl, Lexeme.item?, hv]
        rfl
      · cases h
    | name n =>
      rw [read_atom_name] at h
      obtain ⟨rfl, rfl⟩ := Prod.mk.inj (Except.ok.inj h)
      exact ⟨[⟨.name n, position⟩], rfl, rfl⟩
    | opening =>
      have hread := h
      rw [read_atom_opening] at hread
      obtain ⟨⟨inner, ts'⟩, hinner, -⟩ := bind_eq_ok.mp hread
      obtain ⟨us, rfl, hus⟩ := hgroup ts (by simp) hinner
      rcases cons_or_head_ne .closing ts' with ⟨q, rest, rfl⟩ | hne
      · rw [read_atom_of_closing hinner] at h
        obtain ⟨rfl, rfl⟩ := Prod.mk.inj (Except.ok.inj h)
        refine ⟨⟨.opening, position⟩ :: (us ++ [⟨.closing, q⟩]), by simp, ?_⟩
        -- The two parentheses are not met.
        rw [hus, List.map_cons, Lexeme.items_cons_of_isParenthesis rfl, List.map_append,
          Lexeme.items_append, List.map_singleton, Lexeme.items_cons_of_isParenthesis rfl]
        exact (List.append_nil _).symm
      · rw [read_atom_of_not_closing hinner hne] at h
        cases h
    | _ =>
      rw [read_atom_other _ (by simp) (by simp) (by simp)] at h
      cases h

/-- **Reading and walking.** No token is skipped, repeated or taken out of order. -/
theorem walks (f : Form) (ts : List Token) : f.Walks ts := by
  induction f, ts using induction_on_tokens with
  | step f ts shorter tighter =>
  cases f with
  | chain level => exact walks_chain (tighter _ (depth_operand level)) fun left ↦ shorter _
  | rest level left => exact walks_rest (shorter _) fun left' ↦ shorter _
  | signed => exact walks_signed (tighter power (by decide)) (shorter signed)
  | power => exact walks_power (tighter atom (by decide)) (shorter signed)
  | atom => exact walks_atom (shorter (chain .sum))

end Form

/-! ## Trees of tokens -/

/-- The name that is met. -/
def Item.name? : Item → Option String
  | .written l => l.name?
  | .number _ => none

theorem Lexeme.bind_item?_name? (l : Lexeme) : l.item?.bind Item.name? = l.name? := by
  cases l with
  | number text =>
    rw [item?, Option.bind_map]
    exact Option.bind_fun_none _
  | _ => rfl

/-- The names that are met are those of the name tokens. -/
theorem Lexeme.filterMap_name?_items (ls : List Lexeme) :
    (items ls).filterMap (·.bind Item.name?) = ls.filterMap name? := by
  rw [items, List.filterMap_map, List.filterMap_filter]
  refine List.filterMap_congr fun l _ ↦ ?_
  rw [Function.comp_apply, bind_item?_name?]
  cases l <;> rfl

namespace Expr

theorem names_eq_filterMap_walk (e : Expr) : e.names = e.walk.filterMap Item.name? := by
  induction e with
  | number v => rfl
  | name n => rfl
  | signed s e ih => rw [names, walk, List.filterMap_cons_none rfl, ih]
  | binary op l r ihl ihr =>
    have hop : (Item.written op.lexeme).name? = none := by cases op <;> rfl
    rw [names, walk, List.filterMap_append, List.filterMap_cons_none hop, ihl, ihr]

variable {ts : List Token} {e : Expr}

theorem items_of_ofTokens (h : ofTokens ts = .ok e) :
    Lexeme.items (ts.map (·.lexeme)) = e.walk.map some := by
  obtain ⟨used, rfl, hused⟩ := Form.walks _ _ (ofTokens_eq_ok_iff.mp h)
  rw [hused, List.append_nil]
  rfl

/-- The names of a tree are those of its tokens, in order and as often as they occur. -/
theorem names_of_ofTokens (h : ofTokens ts = .ok e) :
    e.names = (ts.map (·.lexeme)).filterMap Lexeme.name? := by
  rw [← Lexeme.filterMap_name?_items, items_of_ofTokens h, List.filterMap_map,
    names_eq_filterMap_walk]
  rfl

theorem mem_names_of_ofTokens (h : ofTokens ts = .ok e) {n : String} :
    n ∈ e.names ↔ .name n ∈ ts.map (·.lexeme) := by
  rw [names_of_ofTokens h, List.mem_filterMap]
  simp only [Lexeme.name?_eq_some_iff]
  exact ⟨fun ⟨_, hl, heq⟩ ↦ heq ▸ hl, fun hn ↦ ⟨_, hn, rfl⟩⟩

end Expr

end LineCommands
