import LineCommands.Expression.Size
import LineCommands.Proofs.Expression.Printing
import LineCommands.Proofs.Text.Trim

/-!
# Whole numbers as sizes

A size that is a whole number with an optional sign stands for itself and is not read as an
expression. In parentheses it is: the digits become a number token, the sign a node of the tree, and
the value has to be a finite number as the values of all expressions have.

The two ways give the same size, or faults of the same kind, for all whole numbers but those that
are short enough to be read and too large for a floating-point number (`IntLiteral.IsHuge`). The
literal stands for itself then too, and the expression is refused.
-/

namespace LineCommands

open Text

/-! ## Literals -/

/-- A whole number as it is written: a sign that may be missing, and digits. -/
structure IntLiteral where
  sign : Option Sign
  digits : List Char
  isDigits : Text.isDigits digits = true

namespace IntLiteral

/-- The characters of the sign and the digits. -/
def chars (l : IntLiteral) : List Char :=
  match l.sign with
  | none => l.digits
  | some s => s.symbol.toList ++ l.digits

/-- The number without its sign. -/
def magnitude (l : IntLiteral) : Nat := natOfDigits l.digits

/-- The whole number that is written. -/
def value (l : IntLiteral) : Int :=
  match l.sign with
  | some .minus => -l.magnitude
  | _ => l.magnitude

/-- The literal is not too long to be read, and its value rounds to no finite floating-point number:
it is 2 ^ 1024 - 2 ^ 970 or more. -/
def IsHuge (l : IntLiteral) : Prop :=
  l.digits.length ≤ maxDigits ∧ Binary64.overflowBound ≤ l.magnitude

/-- The lexemes of the sign and the digits. -/
def lexemes (l : IntLiteral) : List Lexeme :=
  match l.sign with
  | none => [.number (String.ofList l.digits)]
  | some s => [.sign s, .number (String.ofList l.digits)]

/-- The tree of the sign and the digits. -/
def tree (l : IntLiteral) : Expr :=
  match l.sign with
  | none => .number (.int l.magnitude)
  | some s => .signed s (.number (.int l.magnitude))

variable (l : IntLiteral)

theorem numberText_digits : NumberText (String.ofList l.digits).toList (.int l.magnitude) := by
  rw [String.toList_ofList]
  exact .whole l.isDigits

theorem not_isBlank_of_mem_chars : ∀ c ∈ l.chars, isBlank c = false := by
  have hdigits : ∀ c ∈ l.digits, isBlank c = false :=
    fun c hc ↦ isBlank_of_isDigit ((isDigits_iff.mp l.isDigits).2 c hc)
  rw [chars]
  cases l.sign with
  | none => exact hdigits
  | some s =>
    cases s with
    | plus => exact List.forall_mem_cons.mpr ⟨by decide, hdigits⟩
    | minus => exact List.forall_mem_cons.mpr ⟨by decide, hdigits⟩

theorem chars_ne_nil : l.chars ≠ [] := by
  have hne := (isDigits_iff.mp l.isDigits).1
  rw [chars]
  cases l.sign with
  | none => exact hne
  | some s => exact List.append_ne_nil_of_right_ne_nil _ hne

theorem splitSign_chars : splitSign l.chars = (decide (l.sign = some .minus), l.digits) := by
  rw [chars]
  cases l.sign with
  | none => exact splitSign_of_isDigits l.isDigits
  | some s =>
    cases s with
    | plus => rfl
    | minus => rfl

theorem withSign_magnitude : withSign (decide (l.sign = some .minus)) l.magnitude = l.value := by
  rw [value]
  cases l.sign with
  | none => rfl
  | some s =>
    cases s with
    | plus => rfl
    | minus => rfl

theorem isIntNumeral_chars : isIntNumeral l.chars = true := by
  rw [isIntNumeral, splitSign_chars]
  exact l.isDigits

theorem exists_chars_eq {cs : List Char} (h : isIntNumeral cs = true) :
    ∃ l : IntLiteral, l.chars = cs := by
  rw [isIntNumeral] at h
  unfold splitSign at h
  split at h
  · exact ⟨⟨some .minus, _, h⟩, rfl⟩
  · exact ⟨⟨some .plus, _, h⟩, rfl⟩
  · exact ⟨⟨none, _, h⟩, rfl⟩

theorem readInt?_chars :
    readInt? l.chars = if l.digits.length ≤ maxDigits then some l.value else none := by
  rw [readInt?, splitSign_chars]
  simp only [l.isDigits, Bool.true_and, decide_eq_true_eq]
  rw [← magnitude, withSign_magnitude]

end IntLiteral

/-! ## As they are -/

namespace Size

variable {size argument : String} {bound : Bindings}

theorem evaluate_of_value {n : Int} (h : value size bound argument = .ok n) :
    evaluate size bound argument
      = if 0 ≤ n then .ok n.toNat else .error (.negativeSize argument n) := by
  rw [evaluate, h]
  cases n with
  | ofNat n => rfl
  | negSucc n => rfl

theorem evaluate_of_value_eq_error {f : Fault} (h : value size bound argument = .error f) :
    evaluate size bound argument = .error f := by
  rw [evaluate, h]

/-- A literal stands for its number if it is not too long. -/
theorem value_of_literal {l : IntLiteral} (h : Padded l.chars size.toList) :
    value size bound argument
      = if l.digits.length ≤ maxDigits then .ok l.value else .error (.notFinite size argument) := by
  have htrim := h.trim_eq l.chars_ne_nil (tight_of_forall l.not_isBlank_of_mem_chars)
  rw [value, htrim]
  simp only [l.isIntNumeral_chars, if_true, l.readInt?_chars]
  by_cases hshort : l.digits.length ≤ maxDigits
  · rw [if_pos hshort, if_pos hshort]
  · rw [if_neg hshort, if_neg hshort]

theorem value_of_not_isIntNumeral (h : isIntNumeral (trim size.toList) = false) :
    value size bound argument =
      match evaluateExpr (trimmed size) bound with
      | .error cause => .error (.sizeError size argument cause)
      | .ok v => if v.isFinite then .ok v.truncate else .error (.notFinite size argument) := by
  rw [value]
  exact if_neg (Bool.eq_false_iff.mp h)

end Size

/-! ## In parentheses -/

/-- The text in parentheses. -/
def parenthesized (text : String) : String := "(" ++ text ++ ")"

theorem toList_parenthesized (text : String) :
    (parenthesized text).toList = '(' :: (text.toList ++ [')']) := by
  rw [parenthesized, String.toList_append, String.toList_append]
  rfl

namespace IntLiteral

variable {l : IntLiteral} {text : String}

theorem spaced_parenthesized (h : Padded l.chars text.toList) :
    Spaced (.opening :: (l.lexemes ++ [.closing])) (parenthesized text).toList := by
  obtain ⟨before, after, hbefore, hafter, htext⟩ := h
  have hnone : ∀ c ∈ ([] : List Char), isBlank c = true := fun c hc ↦ absurd hc List.not_mem_nil
  have hclosing : Spaced [.closing] (after ++ ([')'] ++ [])) :=
    .lexeme hafter (.blank hnone)
  -- Before the digits are the blanks of the text, or none if there is a sign.
  have hdigits : ∀ {front : List Char}, (∀ c ∈ front, isBlank c = true) →
      Spaced [.number (String.ofList l.digits), .closing]
        (front ++ (l.digits ++ (after ++ ([')'] ++ [])))) := by
    intro front hfront
    have hnumber := Spaced.lexeme (l := .number (String.ofList l.digits)) hfront hclosing
    rwa [Lexeme.text, String.toList_ofList] at hnumber
  have hliteral : Spaced (l.lexemes ++ [.closing]) (text.toList ++ [')']) := by
    rw [htext, lexemes, chars]
    cases l.sign with
    | none =>
      have hspaced := hdigits hbefore
      rwa [List.append_nil, ← List.append_assoc, ← List.append_assoc,
        List.append_assoc before] at hspaced
    | some s =>
      have hspaced := Spaced.lexeme (l := .sign s) hbefore (hdigits hnone)
      simpa only [List.append_assoc, List.append_nil, List.nil_append, List.cons_append,
        Lexeme.text] using hspaced
  rw [toList_parenthesized]
  exact .lexeme hnone hliteral

theorem isOperand_lexemes (l : IntLiteral) : Lexeme.IsOperand l.lexemes := by
  have hnumber := Lexeme.IsOperand.number l.numberText_digits
  rw [lexemes]
  cases l.sign with
  | none => exact hnumber
  | some s => exact hnumber.sign s

theorem isOperand_parenthesized (l : IntLiteral) :
    Lexeme.IsOperand (.opening :: (l.lexemes ++ [.closing])) := l.isOperand_lexemes.group

theorem numbersShort_lexemes (hshort : l.digits.length ≤ maxDigits) : NumbersShort l.lexemes := by
  intro number hnumber _
  have hdigits : number = String.ofList l.digits := by
    rw [lexemes] at hnumber
    cases hsign : l.sign with
    | none => simpa [hsign] using hnumber
    | some s => simpa [hsign] using hnumber
  rwa [hdigits, String.toList_ofList]

theorem derives_lexemes (l : IntLiteral) : Derives .signed l.lexemes l.tree := by
  have hoperand : Derives .signed [.number (String.ofList l.digits)] (.number (.int l.magnitude)) :=
    .unsigned (.base (.number l.numberText_digits))
  rw [lexemes, tree]
  cases l.sign with
  | none => exact hoperand
  | some s => exact .sign hoperand

theorem derives_parenthesized (l : IntLiteral) :
    Derives (.chain .sum) (.opening :: (l.lexemes ++ [.closing])) l.tree := by
  have hinner : Derives (Form.ofStrength 2) l.lexemes l.tree := l.derives_lexemes
  have hatom : Derives (Form.ofStrength 4) (.opening :: (l.lexemes ++ [.closing])) l.tree :=
    .group (hinner.ofStrength_of_le (Nat.zero_le _))
  exact hatom.ofStrength_of_le (Nat.zero_le _)

theorem exists_tokens_parenthesized (h : Padded l.chars text.toList) :
    ∃ ts, tokenize (parenthesized text) = .ok ts ∧
      ts.map (·.lexeme) = .opening :: (l.lexemes ++ [.closing]) :=
  exists_tokensFrom_of_spaced (spaced_parenthesized h) l.isOperand_parenthesized.spelled
    l.isOperand_parenthesized.apart 0

theorem parse_parenthesized (h : Padded l.chars text.toList)
    (hshort : l.digits.length ≤ maxDigits) : Expr.parse (parenthesized text) = .ok l.tree := by
  have hnumbers : NumbersShort (.opening :: (l.lexemes ++ [.closing])) := by
    intro number hnumber
    exact numbersShort_lexemes hshort number (by simpa using hnumber)
  exact Expr.parse_of_spaced (spaced_parenthesized h) l.isOperand_parenthesized
    l.derives_parenthesized hnumbers

theorem parse_chars (hshort : l.digits.length ≤ maxDigits) :
    Expr.parse (String.ofList l.chars) = .ok l.tree := by
  have hspaced : Spaced l.lexemes (String.ofList l.chars).toList := by
    have hflat : (l.lexemes.flatMap fun m ↦ m.text.toList) = l.chars := by
      rw [lexemes, chars]
      cases l.sign with
      | none => simp [Lexeme.text]
      | some s => simp [Lexeme.text]
    rw [String.toList_ofList, ← hflat]
    exact spaced_flatMap l.lexemes
  have hderives : Derives (Form.ofStrength 2) l.lexemes l.tree := l.derives_lexemes
  exact Expr.parse_of_spaced hspaced l.isOperand_lexemes
    (hderives.ofStrength_of_le (Nat.zero_le _)) (numbersShort_lexemes hshort)

theorem read_signed_of_long {ts : List Token} (hts : ts.map (·.lexeme) = l.lexemes)
    (hlong : maxDigits < l.digits.length) (after : List Token) :
    ∃ e, Form.signed.read (ts ++ after) = .error e := by
  have hdigits : ∀ position after,
      Form.signed.read (⟨.number (String.ofList l.digits), position⟩ :: after)
        = .error (.numberTooLong position) := by
    intro position after
    have hatom : Form.atom.read (⟨.number (String.ofList l.digits), position⟩ :: after)
        = .error (.numberTooLong position) := by
      rw [Form.read_atom_number, readNumber?_of_isDigits l.isDigits, if_neg (Nat.not_le.mpr hlong)]
    rw [Form.read_signed_of_not_sign (by simp), Form.read_power, hatom]
    rfl
  rw [lexemes] at hts
  cases hsign : l.sign with
  | none =>
    rw [hsign] at hts
    obtain ⟨⟨_, position⟩, ts, rfl, rfl, -⟩ := List.map_eq_cons_iff.mp hts
    exact ⟨_, hdigits position _⟩
  | some s =>
    rw [hsign] at hts
    obtain ⟨⟨_, first⟩, ts, rfl, rfl, hrest⟩ := List.map_eq_cons_iff.mp hts
    obtain ⟨⟨_, position⟩, ts, rfl, rfl, -⟩ := List.map_eq_cons_iff.mp hrest
    rw [List.cons_append, List.cons_append, Form.read_signed_sign, hdigits position]
    exact ⟨_, rfl⟩

/-- What a signed operand fails with, the sums that begin with it fail with. -/
theorem read_sum_of_signed_eq_error {ts : List Token} {e : ExprError}
    (h : Form.signed.read ts = .error e) : (Form.chain .sum).read ts = .error e := by
  rw [Form.read_chain, ChainLevel.operand, Form.read_chain, ChainLevel.operand, h]
  rfl

/-- A literal that is too long is no expression. -/
theorem exists_parse_parenthesized_eq_error (h : Padded l.chars text.toList)
    (hlong : maxDigits < l.digits.length) :
    ∃ e, Expr.parse (parenthesized text) = .error e := by
  obtain ⟨ts, hts, hlexemes⟩ := exists_tokens_parenthesized h
  obtain ⟨⟨_, position⟩, ts, rfl, rfl, hrest⟩ := List.map_eq_cons_iff.mp hlexemes
  obtain ⟨literal, after, rfl, hliteral, -⟩ := List.map_eq_append_iff.mp hrest
  obtain ⟨e, he⟩ := read_signed_of_long hliteral hlong after
  have hread : (Form.chain .sum).read (⟨.opening, position⟩ :: (literal ++ after)) = .error e := by
    refine read_sum_of_signed_eq_error ?_
    rw [Form.read_signed_of_not_sign (by simp), Form.read_power, Form.read_atom_opening,
      read_sum_of_signed_eq_error he]
    rfl
  -- Which error the whole text gives does not matter, only that it gives no tree.
  cases hparse : Expr.parse (parenthesized text) with
  | error e => exact ⟨e, rfl⟩
  | ok tree =>
    obtain ⟨_, hts', hok⟩ := Expr.parse_eq_ok_iff.mp hparse
    obtain rfl := Except.ok.inj (hts.symm.trans hts')
    rw [Expr.ofTokens_eq_ok_iff, hread] at hok
    cases hok

theorem evaluate_tree (l : IntLiteral) (assignment : String → Option Number) :
    l.tree.evaluate assignment = .ok (.int l.value) := by
  rw [tree, value]
  cases l.sign with
  | none => rfl
  | some s =>
    cases s with
    | plus => rfl
    | minus => rfl

theorem natAbs_value (l : IntLiteral) : l.value.natAbs = l.magnitude := by
  rw [value]
  cases l.sign with
  | none => rfl
  | some s =>
    cases s with
    | plus => rfl
    | minus => exact Int.natAbs_neg _

end IntLiteral

/-- Parentheses are not trimmed off, and no whole number is written with them. -/
theorem trim_parenthesized (text : String) :
    trim (parenthesized text).toList = (parenthesized text).toList := by
  refine trim_of_tight ⟨?_, ?_⟩
  · rw [toList_parenthesized]
    exact ends_cons.mpr (by decide)
  · rw [toList_parenthesized, List.reverse_cons, List.reverse_append]
    exact ends_cons.mpr (by decide)

theorem isIntNumeral_parenthesized (text : String) :
    isIntNumeral (parenthesized text).toList = false := by
  rw [toList_parenthesized]
  rfl

namespace Size

variable {l : IntLiteral} {text argument : String} {bound : Bindings}

theorem value_parenthesized (text argument : String) (bound : Bindings) :
    value (parenthesized text) bound argument =
      match evaluateExpr (parenthesized text) bound with
      | .error cause => .error (.sizeError (parenthesized text) argument cause)
      | .ok v =>
        if v.isFinite then .ok v.truncate
        else .error (.notFinite (parenthesized text) argument) := by
  have htrim := trim_parenthesized text
  have hplain : isIntNumeral (trim (parenthesized text).toList) = false := by
    rw [htrim]
    exact isIntNumeral_parenthesized text
  rw [value_of_not_isIntNumeral hplain, trimmed, htrim, String.ofList_toList]

theorem value_parenthesized_of_short (h : Padded l.chars text.toList)
    (hshort : l.digits.length ≤ maxDigits) :
    value (parenthesized text) bound argument
      = if l.magnitude < Binary64.overflowBound then .ok l.value
        else .error (.notFinite (parenthesized text) argument) := by
  have hvalue : evaluateExpr (parenthesized text) bound = .ok (.int l.value) := by
    rw [evaluateExpr, l.parse_parenthesized h hshort]
    exact l.evaluate_tree _
  rw [value_parenthesized, hvalue]
  simp only [Number.isFinite, l.natAbs_value, decide_eq_true_eq, Number.truncate]

theorem exists_value_parenthesized_of_long (h : Padded l.chars text.toList)
    (hlong : maxDigits < l.digits.length) (bound : Bindings) (argument : String) :
    ∃ cause, value (parenthesized text) bound argument
      = .error (.sizeError (parenthesized text) argument cause) := by
  obtain ⟨e, he⟩ := IntLiteral.exists_parse_parenthesized_eq_error h hlong
  refine ⟨e, ?_⟩
  rw [value_parenthesized, evaluateExpr, he]
  rfl

/-! ## Both ways -/

/-- Two results that tell the same: one size, or faults of one kind. -/
def Agree : Except Fault Nat → Except Fault Nat → Prop
  | .ok m, .ok n => m = n
  | .error f, .error g => f.kind = g.kind
  | _, _ => False

theorem Agree.refl (r : Except Fault Nat) : Agree r r := by
  cases r with
  | ok n => exact Eq.refl n
  | error f => exact Eq.refl f.kind

theorem agree_of_long (h : Padded l.chars text.toList) (hlong : maxDigits < l.digits.length) :
    Agree (evaluate text bound argument) (evaluate (parenthesized text) bound argument) := by
  have hplain : value text bound argument = .error (.notFinite text argument) := by
    rw [value_of_literal h, if_neg (Nat.not_le.mpr hlong)]
  obtain ⟨cause, hcause⟩ := exists_value_parenthesized_of_long h hlong bound argument
  rw [evaluate_of_value_eq_error hplain, evaluate_of_value_eq_error hcause]
  exact Eq.refl FaultKind.invalidExpression

/-- A number that is read and is finite is the same size both ways. -/
theorem evaluate_parenthesized_eq (h : Padded l.chars text.toList)
    (hshort : l.digits.length ≤ maxDigits) (hfinite : l.magnitude < Binary64.overflowBound) :
    evaluate (parenthesized text) bound argument = evaluate text bound argument := by
  have hplain : value text bound argument = .ok l.value := by
    rw [value_of_literal h, if_pos hshort]
  have hgrouped : value (parenthesized text) bound argument = .ok l.value := by
    rw [value_parenthesized_of_short h hshort, if_pos hfinite]
  rw [evaluate_of_value hplain, evaluate_of_value hgrouped]

theorem evaluate_of_isHuge (h : Padded l.chars text.toList) (hhuge : l.IsHuge) :
    evaluate text bound argument
      = if 0 ≤ l.value then .ok l.value.toNat else .error (.negativeSize argument l.value) := by
  refine evaluate_of_value ?_
  rw [value_of_literal h, if_pos hhuge.1]

theorem evaluate_parenthesized_of_isHuge (h : Padded l.chars text.toList) (hhuge : l.IsHuge) :
    evaluate (parenthesized text) bound argument
      = .error (.notFinite (parenthesized text) argument) := by
  obtain ⟨hshort, hlarge⟩ := hhuge
  refine evaluate_of_value_eq_error ?_
  rw [value_parenthesized_of_short h hshort, if_neg (Nat.not_lt.mpr hlarge)]

/-- Neither as a size nor by the kind of the fault do the two ways agree on a huge number. -/
theorem not_agree_of_isHuge (h : Padded l.chars text.toList) (hhuge : l.IsHuge) :
    ¬Agree (evaluate text bound argument) (evaluate (parenthesized text) bound argument) := by
  rw [evaluate_of_isHuge h hhuge, evaluate_parenthesized_of_isHuge h hhuge]
  by_cases hsign : 0 ≤ l.value
  · rw [if_pos hsign]
    exact not_false
  · rw [if_neg hsign]
    intro hkind
    have heq : FaultKind.argumentMismatch = FaultKind.invalidExpression := hkind
    cases heq

/-- **Literals as expressions.** A whole number with blanks around it is the same size as it is and
in parentheses, or fails with a fault of the same kind, unless it is huge. A huge number is taken as
it is, and refused in parentheses as a number that is not finite. -/
theorem evaluate_literal_agrees (l : IntLiteral) (text argument : String) (bound : Bindings)
    (h : Padded l.chars text.toList) :
    (Agree (evaluate text bound argument) (evaluate ("(" ++ text ++ ")") bound argument)
      ↔ ¬l.IsHuge) ∧
    (l.IsHuge →
      evaluate text bound argument
          = (if 0 ≤ l.value then .ok l.value.toNat else .error (.negativeSize argument l.value)) ∧
        evaluate ("(" ++ text ++ ")") bound argument
          = .error (.notFinite ("(" ++ text ++ ")") argument)) := by
  refine ⟨⟨fun hagree hhuge ↦ not_agree_of_isHuge h hhuge hagree, fun hhuge ↦ ?_⟩,
    fun hhuge ↦ ⟨evaluate_of_isHuge h hhuge, evaluate_parenthesized_of_isHuge h hhuge⟩⟩
  by_cases hshort : l.digits.length ≤ maxDigits
  · have hfinite : l.magnitude < Binary64.overflowBound :=
      Nat.lt_of_not_le fun hlarge ↦ hhuge ⟨hshort, hlarge⟩
    rw [← parenthesized, evaluate_parenthesized_eq h hshort hfinite]
    exact .refl _
  · exact agree_of_long h (Nat.lt_of_not_le hshort)

/-- A sign, zeros in front and blanks make no difference: minus seven is refused as a negative size
in parentheses too. -/
theorem evaluate_literal_agrees_negative :
    ∃ l : IntLiteral, Padded l.chars " -007 ".toList ∧
      Agree (evaluate " -007 " [] "xs") (evaluate "( -007 )" [] "xs") ∧
      evaluate " -007 " [] "xs" = .error (.negativeSize "xs" (-7)) := by
  let l : IntLiteral := ⟨some .minus, ['0', '0', '7'], rfl⟩
  have hpadded : Padded l.chars " -007 ".toList :=
    ⟨[' '], [' '], List.forall_mem_singleton.mpr rfl, List.forall_mem_singleton.mpr rfl, rfl⟩
  have hsmall : ¬l.IsHuge := fun hhuge ↦ absurd hhuge.2 (by decide +kernel)
  exact ⟨l, hpadded, (evaluate_literal_agrees l _ "xs" [] hpadded).1.mpr hsmall, by decide +kernel⟩

/-- The two ways do not agree on the number that is written as a one and 309 zeros. -/
theorem not_evaluate_literal_agrees :
    ¬∀ (l : IntLiteral) (text argument : String) (bound : Bindings), Padded l.chars text.toList →
      Agree (evaluate text bound argument) (evaluate ("(" ++ text ++ ")") bound argument) := by
  have hshort : ('1' :: List.replicate 309 '0').length ≤ maxDigits := by decide +kernel
  have hlarge : Binary64.overflowBound ≤ natOfDigits ('1' :: List.replicate 309 '0') := by
    decide +kernel
  have hdigits : isDigits ('1' :: List.replicate 309 '0') = true := by decide +kernel
  obtain ⟨l, hhuge⟩ : ∃ l : IntLiteral, l.IsHuge := ⟨⟨none, _, hdigits⟩, hshort, hlarge⟩
  have hpadded : Padded l.chars (String.ofList l.chars).toList := by
    rw [String.toList_ofList]
    exact .refl _
  intro hagree
  exact not_agree_of_isHuge hpadded hhuge (hagree l _ "xs" [] hpadded)

end Size

end LineCommands
