import LineCommands.Proofs.Conversion.Writing
import LineCommands.Proofs.Expression.Completeness
import LineCommands.Proofs.Expression.Spelling
import LineCommands.Value.Text

/-!
# Printing expressions

Every tree can be written, and with parentheses only where reading needs them. The *strength* of a
tree says how tightly its outermost operator binds:

```text
0  + -      1  * / %      2  signs      3  **      4  numbers and names
```

A place in which a tree stands asks for a strength, and a weaker tree gets parentheses there. The
strengths are the forms of the grammar from the loosest to the tightest (`Form.ofStrength`), so what
was printed for a place is a phrase of its form (`derives_lexemesAt`), and being a list of operands
and operators it can be written without any blanks. Reading gives the tree back.
-/

namespace LineCommands

open Text

/-! ## The printer -/

namespace BinaryOp

/-- How tightly the operator binds. -/
def strength : BinaryOp → Nat
  | add | sub => 0
  | mul | div | rem => 1
  | pow => 3

/-- What the operator asks of the operand before it: chains group to the left, and the base of a
power is an atom. -/
def leftStrength : BinaryOp → Nat
  | add | sub => 0
  | mul | div | rem => 1
  | pow => 4

/-- What the operator asks of the operand behind it. -/
def rightStrength : BinaryOp → Nat
  | add | sub => 1
  | mul | div | rem => 2
  | pow => 2

end BinaryOp

namespace Expr

/-- How tightly the outermost operator binds. -/
def strength : Expr → Nat
  | number _ | name _ => 4
  | signed _ _ => 2
  | binary op _ _ => op.strength

/-- What a sign asks of its operand. -/
def signStrength : Nat := 2

/-- The lexemes of a tree in a place that asks for a strength: a tree that is weaker has
parentheses. -/
def enclosed (e : Expr) (asked : Nat) (ls : List Lexeme) : List Lexeme :=
  if e.strength < asked then .opening :: (ls ++ [.closing]) else ls

/-- The lexemes of a tree. -/
def lexemes : Expr → List Lexeme
  | number v => [.number v.toValue.atom]
  | name n => [.name n]
  | signed s e => .sign s :: e.enclosed signStrength e.lexemes
  | binary op l r =>
    l.enclosed op.leftStrength l.lexemes ++ op.lexeme :: r.enclosed op.rightStrength r.lexemes

/-- The numbers of the tree are whole ones that are not negative and not too long, and its names are
names. -/
inductive IsPlain : Expr → Prop
  | number {n : Nat} (h : (toString n).length ≤ maxDigits) : IsPlain (.number (.int n))
  | name {n : String} (h : Lexeme.IsName n.toList) : IsPlain (.name n)
  | signed {s : Sign} {e : Expr} (h : IsPlain e) : IsPlain (.signed s e)
  | binary {op : BinaryOp} {l r : Expr} (hl : IsPlain l) (hr : IsPlain r) : IsPlain (.binary op l r)

end Expr

/-! ## Forms by strength -/

/-- The form of the trees that are at least this strong. -/
def Form.ofStrength : Nat → Form
  | 0 => .chain .sum
  | 1 => .chain .product
  | 2 => .signed
  | 3 => .power
  | _ + 4 => .atom

namespace Derives

variable {ls ms : List Lexeme} {e l r : Expr} {level : ChainLevel} {op : BinaryOp} {m : Lexeme}

theorem chain_of_operand (h : Derives level.operand ls e) : Derives (.chain level) ls e := by
  have hchain := Derives.chain h .done
  rwa [List.append_nil] at hchain

theorem ofStrength_of_le {j k : Nat} (hjk : j ≤ k) (h : Derives (Form.ofStrength k) ls e) :
    Derives (Form.ofStrength j) ls e := by
  induction hjk with
  | refl => exact h
  | @step k _ ih =>
    refine ih ?_
    match k with
    | 0 => exact chain_of_operand h
    | 1 => exact chain_of_operand h
    | 2 => exact .unsigned h
    | 3 => exact .base h
    | k + 4 => exact h

theorem rest_link {f : Form} {left : Expr} (h : Derives f ls l) (hf : f = .rest level left)
    (hop : level.op? m = some op) (hr : Derives level.operand ms r) :
    Derives (.rest level left) (ls ++ m :: ms) (.binary op l r) := by
  induction h generalizing left with
  | @done level' whole =>
    obtain ⟨rfl, rfl⟩ := Form.rest.inj hf
    have hlast : Derives (.rest level' (.binary op whole r)) [] _ := .done
    have hlink := Derives.link hop hr hlast
    rwa [List.append_nil] at hlink
  | link hop' hright' _ _ ihrest =>
    obtain ⟨rfl, rfl⟩ := Form.rest.inj hf
    rw [List.cons_append, List.append_assoc]
    exact .link hop' hright' (ihrest rfl)
  | _ => cases hf

theorem chain_link (h : Derives (.chain level) ls l) (hop : level.op? m = some op)
    (hr : Derives level.operand ms r) : Derives (.chain level) (ls ++ m :: ms) (.binary op l r) := by
  cases h with
  | chain hfirst hrest =>
    rw [List.append_assoc]
    exact .chain hfirst (hrest.rest_link rfl hop hr)

end Derives

/-! ## Printed trees are phrases -/

namespace Expr

variable {e l r : Expr} {op : BinaryOp}

theorem derives_binary {ls ms : List Lexeme} (hl : Derives (Form.ofStrength op.leftStrength) ls l)
    (hr : Derives (Form.ofStrength op.rightStrength) ms r) :
    Derives (Form.ofStrength op.strength) (ls ++ op.lexeme :: ms) (.binary op l r) := by
  cases op with
  | pow => exact .power hl hr
  | add | sub => exact Derives.chain_link hl rfl hr
  | mul | div | rem => exact Derives.chain_link hl rfl hr

/-- With parentheses where they are needed a tree is a phrase of the form that its place asks for. -/
theorem derives_enclosed {ls : List Lexeme} (h : Derives (Form.ofStrength e.strength) ls e)
    {asked : Nat} (hasked : asked ≤ 4) :
    Derives (Form.ofStrength asked) (e.enclosed asked ls) e := by
  rw [enclosed]
  split
  · exact (Derives.group (h.ofStrength_of_le (Nat.zero_le _))).ofStrength_of_le hasked
  · next hstrong => exact h.ofStrength_of_le (Nat.not_lt.mp hstrong)

theorem numberText_atom (n : Nat) :
    NumberText (Number.int n).toValue.atom.toList (.int n) := by
  have hdigits := isDigits_toDigits n
  have hvalue : natOfDigits (Nat.toDigits 10 n) = n := Nat.ofDigitChars_ten_toDigits
  have hwhole := NumberText.whole hdigits
  rw [hvalue] at hwhole
  rwa [Number.toValue, Value.atom, toList_toString_ofNat]

/-- **Printing.** The lexemes of a tree are a phrase with this tree. -/
theorem derives_lexemes (he : e.IsPlain) : Derives (Form.ofStrength e.strength) e.lexemes e := by
  induction he with
  | number _ => exact .number (numberText_atom _)
  | name _ => exact .name
  | signed _ ih =>
    have hasked : signStrength ≤ 4 := by decide
    exact .sign (derives_enclosed ih hasked)
  | @binary op l r _ _ ihl ihr =>
    have hleft : op.leftStrength ≤ 4 := by cases op <;> decide
    have hright : op.rightStrength ≤ 4 := by cases op <;> decide
    exact derives_binary (derives_enclosed ihl hleft) (derives_enclosed ihr hright)

/-! ## Printed trees are tokens -/

theorem isOperand_enclosed {ls : List Lexeme} (h : Lexeme.IsOperand ls) (e : Expr) (asked : Nat) :
    Lexeme.IsOperand (e.enclosed asked ls) := by
  rw [enclosed]
  split
  · exact h.group
  · exact h

theorem isOperand_lexemes (he : e.IsPlain) : Lexeme.IsOperand e.lexemes := by
  induction he with
  | number _ => exact .number (numberText_atom _)
  | name h => exact .name h
  | signed _ ih => exact (isOperand_enclosed ih _ _).sign _
  | @binary op l r _ _ ihl ihr =>
    have hop : op.lexeme.IsSymbol := by cases op <;> trivial
    exact (isOperand_enclosed ihl _ _).join hop (isOperand_enclosed ihr _ _)

theorem mem_enclosed {l : Lexeme} {ls : List Lexeme} {asked : Nat} (h : l ∈ e.enclosed asked ls) :
    l ∈ ls ∨ l = .opening ∨ l = .closing := by
  rw [enclosed] at h
  split at h
  · simpa [or_left_comm, or_assoc, or_comm] using h
  · exact Or.inl h

theorem numbersShort_enclosed {ls : List Lexeme} (h : NumbersShort ls) (e : Expr) (asked : Nat) :
    NumbersShort (e.enclosed asked ls) := by
  intro text htext
  rcases mem_enclosed htext with htext | heq | heq
  · exact h text htext
  · cases heq
  · cases heq

theorem numbersShort_lexemes (he : e.IsPlain) : NumbersShort e.lexemes := by
  induction he with
  | number h =>
    intro text htext _
    obtain rfl := Lexeme.number.inj (List.mem_singleton.mp htext)
    exact h
  | name _ =>
    intro text htext
    cases List.mem_singleton.mp htext
  | signed _ ih =>
    intro text htext
    exact numbersShort_enclosed ih _ _ text (List.mem_of_ne_of_mem (by simp) htext)
  | @binary op l r _ _ ihl ihr =>
    intro text htext
    rcases List.mem_append.mp htext with htext | htext
    · exact numbersShort_enclosed ihl _ _ text htext
    · have hop : Lexeme.number text ≠ op.lexeme := by cases op <;> simp [BinaryOp.lexeme]
      exact numbersShort_enclosed ihr _ _ text (List.mem_of_ne_of_mem hop htext)

/-! ## Reading what was printed -/

theorem parse_of_spaced {ls : List Lexeme} {text : String} (htext : Spaced ls text.toList)
    (hoperand : Lexeme.IsOperand ls) (hderives : Derives (.chain .sum) ls e)
    (hshort : NumbersShort ls) : parse text = .ok e := by
  obtain ⟨ts, hts, hlexemes⟩ :=
    exists_tokensFrom_of_spaced htext hoperand.spelled hoperand.apart 0
  have hread : (Form.chain .sum).read (ts ++ []) = .ok (e, []) :=
    read_of_derives hderives hshort hlexemes (Form.stops_nil _)
  rw [List.append_nil] at hread
  exact parse_eq_ok_iff.mpr ⟨ts, hts, ofTokens_eq_ok_iff.mpr hread⟩

/-- **Printing and reading.** A tree of whole numbers and names is read from every text of its
lexemes, with any blanks between them or none. -/
theorem parse_undoes_printing (e : Expr) (text : String) (he : e.IsPlain)
    (htext : Spaced e.lexemes text.toList) : parse text = .ok e := by
  have hderives : Derives (.chain .sum) e.lexemes e :=
    (derives_lexemes he).ofStrength_of_le (Nat.zero_le _)
  exact parse_of_spaced htext (isOperand_lexemes he) hderives (numbersShort_lexemes he)

/-- Signs behind operators need no blanks, and a difference that is divided needs parentheses. -/
theorem parse_undoes_printing_without_blanks :
    ∃ e : Expr, e = .binary .rem (.binary .sub (.name "a") (.signed .minus (.name "b")))
        (.binary .pow (.number (.int 2)) (.signed .minus (.name "n"))) ∧
      e.IsPlain ∧ Spaced e.lexemes "(a--b)%2**-n".toList ∧ parse "(a--b)%2**-n" = .ok e := by
  have hname : ∀ {c : Char}, Lexeme.isNameStart c = true → Lexeme.IsName [c] :=
    fun hc ↦ ⟨_, [], rfl, hc, by simp⟩
  have hplain : IsPlain (.binary .rem (.binary .sub (.name "a") (.signed .minus (.name "b")))
      (.binary .pow (.number (.int 2)) (.signed .minus (.name "n")))) :=
    .binary (.binary (.name (hname rfl)) (.signed (.name (hname rfl))))
      (.binary (.number (n := 2) (by decide)) (.signed (.name (hname rfl))))
  have hspaced : Spaced _ "(a--b)%2**-n".toList := spaced_flatMap [.opening, .name "a",
    .sign .minus, .sign .minus, .name "b", .closing, .modulo, .number "2", .power, .sign .minus,
    .name "n"]
  exact ⟨_, rfl, hplain, hspaced, parse_undoes_printing _ _ hplain hspaced⟩

end Expr

end LineCommands
