import LineCommands.Proofs.Binary64.Nearest
import LineCommands.Proofs.Conversion.Failure
import LineCommands.Proofs.Expression.Literal

/-!
# Tokens of floating-point numbers

A token is a floating-point number if it is, behind a sign that may be missing, a word for infinity
or `nan` in letters of either case, or a decimal below the bound from which on decimals are rounded
to infinity. The languages are given by the texts they are made of (`DecimalText`) and by what a
text is in small letters.

Lookalikes are left aside: where no dotted capital and no dotless small `i` occurs, ignoring case is
no more than taking the letters as small ones.
-/

namespace LineCommands

open Text

/-! ## Decimals -/

/-- A decimal without a sign, by its text: a mantissa, and an exponent that may be missing. -/
inductive DecimalText : List Char → DecimalNumeral → Prop
  | plain {text ds : List Char} {places : Nat} (h : Mantissa text ds places) :
      DecimalText text ⟨ds, 0 - places⟩
  | scientific {text ds mark : List Char} {places : Nat} {e : Int} (h : Mantissa text ds places)
      (hmark : Exponent mark e) : DecimalText (text ++ mark) ⟨ds, e - places⟩

/-- The exact value of a decimal. -/
def Text.DecimalNumeral.value (d : DecimalNumeral) : ℚ := natOfDigits d.digits * 10 ^ d.exponent

theorem exponent_of_literal {mark : Char} (hmark : mark = 'e' ∨ mark = 'E') (l : IntLiteral) :
    Exponent (mark :: l.chars) l.value := by
  obtain ⟨sign, digits, hdigits⟩ := l
  rcases sign with _ | _ | _
  · exact .unsigned hmark hdigits
  · exact .plus hmark hdigits
  · exact .minus hmark hdigits

theorem readExponent?_eq_some_iff {mark : List Char} {e : Int} :
    readExponent? mark = some e ↔ (mark = [] ∧ e = 0) ∨ Exponent mark e := by
  refine ⟨fun h ↦ ?_, ?_⟩
  · cases mark with
    | nil => exact Or.inl ⟨rfl, (Option.some.inj h).symm⟩
    | cons c cs =>
      simp only [readExponent?, Option.ite_none_right_eq_some, Bool.and_eq_true, Bool.or_eq_true,
        beq_iff_eq] at h
      obtain ⟨⟨hmark, hdigits⟩, hvalue⟩ := h
      obtain ⟨l, rfl⟩ := IntLiteral.exists_chars_eq hdigits
      rw [l.splitSign_chars, ← IntLiteral.magnitude, l.withSign_magnitude, Option.some.injEq]
        at hvalue
      exact Or.inr (hvalue ▸ exponent_of_literal hmark l)
  · rintro (⟨rfl, rfl⟩ | h)
    · rfl
    · exact readExponent?_exponent h

theorem exists_mantissa_of_readDecimal? {cs : List Char} {d : DecimalNumeral}
    (h : readDecimal? cs = some d) :
    ∃ text mark ds places e, cs = text ++ mark ∧ Mantissa text ds places ∧
      readExponent? mark = some e ∧ d = ⟨ds, e - places⟩ := by
  have hdigit : ∀ {text : List Char}, ∀ c ∈ text.takeWhile Char.isDigit, c.isDigit = true :=
    fun c hc ↦ List.mem_takeWhile_imp hc
  have hsplit : cs = cs.takeWhile Char.isDigit ++ cs.dropWhile Char.isDigit :=
    List.takeWhile_append_dropWhile.symm
  unfold readDecimal? at h
  simp only at h
  split at h
  · next r hrest =>
    rw [Option.ite_none_left_eq_some, Option.map_eq_some_iff] at h
    obtain ⟨hne, e, hmark, rfl⟩ := h
    refine ⟨cs.takeWhile Char.isDigit ++ '.' :: r.takeWhile Char.isDigit,
      r.dropWhile Char.isDigit, _, _, e, ?_, .point hdigit hdigit (by simpa using hne), hmark, rfl⟩
    rw [List.append_assoc, List.cons_append, List.takeWhile_append_dropWhile, ← hrest]
    exact hsplit
  · rw [Option.ite_none_left_eq_some, Option.map_eq_some_iff] at h
    obtain ⟨hne, e, hmark, rfl⟩ := h
    refine ⟨cs.takeWhile Char.isDigit, cs.dropWhile Char.isDigit, cs.takeWhile Char.isDigit, 0, e,
      hsplit, ?_, hmark, ?_⟩
    · exact .whole (isDigits_iff.mpr ⟨by simpa using hne, hdigit⟩)
    · simp

/-- **Decimals.** The texts that are read as decimals are those of the language. -/
theorem readDecimal?_eq_some_iff {cs : List Char} {d : DecimalNumeral} :
    readDecimal? cs = some d ↔ DecimalText cs d := by
  constructor
  · intro h
    obtain ⟨text, mark, ds, places, e, rfl, hmantissa, hmark, rfl⟩ :=
      exists_mantissa_of_readDecimal? h
    rcases readExponent?_eq_some_iff.mp hmark with ⟨rfl, rfl⟩ | hexponent
    · rw [List.append_nil]
      exact .plain hmantissa
    · exact .scientific hmantissa hexponent
  · intro h
    cases h with
    | plain h =>
      have hread := readDecimal?_mantissa h ends_nil
      rwa [List.append_nil] at hread
    | scientific h hmark =>
      rw [readDecimal?_mantissa h hmark.ends, readExponent?_exponent hmark]
      rfl

theorem DecimalText.exists_cons {cs : List Char} {d : DecimalNumeral} (h : DecimalText cs d) :
    ∃ c rest, cs = c :: rest ∧ (c.isDigit = true ∨ c = '.') := by
  have hmantissa : ∀ {text ds : List Char} {places : Nat}, Mantissa text ds places →
      ∃ c rest, text = c :: rest ∧ (c.isDigit = true ∨ c = '.') := by
    intro text ds places h
    cases h with
    | whole h =>
      obtain ⟨hne, hall⟩ := isDigits_iff.mp h
      obtain ⟨c, rest, rfl⟩ := List.exists_cons_of_ne_nil hne
      exact ⟨c, rest, rfl, Or.inl (hall c List.mem_cons_self)⟩
    | @point whole fraction hwhole _ _ =>
      cases whole with
      | nil => exact ⟨'.', fraction, rfl, Or.inr rfl⟩
      | cons c rest => exact ⟨c, _, rfl, Or.inl (hwhole c List.mem_cons_self)⟩
  cases h with
  | plain h => exact hmantissa h
  | scientific h _ =>
    obtain ⟨c, rest, rfl, hc⟩ := hmantissa h
    exact ⟨c, _, rfl, hc⟩

/-! ## Forms -/

/-- No letter of the text only looks like an `i`. -/
def NoLookalike (cs : List Char) : Prop := ∀ c ∈ cs, c ≠ '\u0130' ∧ c ≠ '\u0131'

theorem NoLookalike.map_foldCase {cs : List Char} (h : NoLookalike cs) :
    cs.map foldCase = cs.map Char.toLower := by
  refine List.map_congr_left fun c hc ↦ ?_
  rw [foldCase, if_neg]
  simpa using h c hc

theorem NoLookalike.hasLookalike {cs : List Char} (h : NoLookalike cs) :
    hasLookalike cs = false := by
  rw [LineCommands.hasLookalike, List.any_eq_false]
  intro c hc
  simpa using h c hc

theorem exists_cons_of_word {cs : List Char}
    (h : cs.map Char.toLower ∈ ['n', 'a', 'n'] :: infinityWords) :
    ∃ c rest, cs = c :: rest ∧ c.isAlpha = true := by
  cases cs with
  | nil => exact absurd h (by decide)
  | cons c rest =>
    have hc : c.toLower = 'n' ∨ c.toLower = 'i' := by
      simp only [infinityWords, List.map_cons, List.mem_cons, List.cons.injEq, List.not_mem_nil,
        or_false] at h
      tauto
    refine ⟨c, rest, rfl, ?_⟩
    rw [← Char.isAlpha_toLower_eq_isAlpha]
    rcases hc with hc | hc <;> rw [hc] <;> decide

theorem not_decimalText_of_word {cs : List Char} {d : DecimalNumeral}
    (h : cs.map Char.toLower ∈ ['n', 'a', 'n'] :: infinityWords) : ¬DecimalText cs d := by
  intro hdecimal
  obtain ⟨c, rest, rfl, halpha⟩ := exists_cons_of_word h
  obtain ⟨_, _, heq, hc⟩ := hdecimal.exists_cons
  obtain ⟨rfl, -⟩ := List.cons.inj heq
  have hstart : Lexeme.isNameStart c = true := by rw [Lexeme.isNameStart, halpha, Bool.true_or]
  rcases hc with hdigit | rfl
  · rw [isNameStart_of_isDigit hdigit] at hstart
    cases hstart
  · cases halpha

/-- The forms of a text without lookalikes. -/
theorem readFloatForm?_of_noLookalike {cs : List Char} (h : NoLookalike cs) :
    readFloatForm? cs =
      if cs.map Char.toLower = ['n', 'a', 'n'] then some .notANumber
      else if cs.map Char.toLower ∈ infinityWords then some .infinity
      else (readDecimal? cs).map .decimal := by
  have hwords : ∀ w : List Char, w ∈ infinityWords ↔
      w = ['i', 'n', 'f'] ∨ w = ['i', 'n', 'f', 'i', 'n', 'i', 't', 'y'] := by
    simp [infinityWords]
  simp only [readFloatForm?, h.map_foldCase, h.hasLookalike, hwords, Bool.false_eq_true, if_false]

/-! ## Signs -/

/-- The token is a text of the language, with a sign before it or without. The language is told
whether the sign is minus. -/
def WithSign (language : Bool → List Char → Prop) (token : String) : Prop :=
  ∃ sign body, token.toList = sign ++ body ∧ sign ∈ [[], ['+'], ['-']] ∧
    language (sign = ['-']) body

/-- What is left behind the sign decides, if no text of the language begins with a sign. -/
theorem withSign_iff {language : Bool → List Char → Prop} {token : String}
    (h : ∀ negative body, language negative body → Ends (fun c ↦ c == '+' || c == '-') body) :
    WithSign language token ↔ language (splitSign token.toList).1 (splitSign token.toList).2 := by
  constructor
  · rintro ⟨sign, body, htoken, hsign, hbody⟩
    rwa [htoken, splitSign_append hsign (h _ body hbody)]
  · intro hbody
    obtain ⟨sign, hsign, htoken⟩ := exists_sign_of_splitSign token.toList
    have hsplit := splitSign_append hsign (h _ _ hbody)
    rw [← htoken] at hsplit
    have hnegative : (splitSign token.toList).1 = decide (sign = ['-']) := congrArg Prod.fst hsplit
    rw [hnegative] at hbody
    exact ⟨sign, _, htoken, hsign, hbody⟩

/-- A word for infinity, in letters of either case. -/
def IsInfinityLiteral (token : String) : Prop :=
  WithSign (fun _ body ↦ body.map Char.toLower ∈ infinityWords) token

/-- The word `nan`, in letters of either case. -/
def IsNanLiteral (token : String) : Prop :=
  WithSign (fun _ body ↦ body.map Char.toLower = ['n', 'a', 'n']) token

/-- The token is a decimal, and this is its exact value. -/
def IsDecimal (token : String) (v : ℚ) : Prop :=
  WithSign (fun negative body ↦
    ∃ d, DecimalText body d ∧ v = if negative then -d.value else d.value) token

/-- A decimal whose value rounds to a finite floating-point number. -/
def IsDecimalLiteral (token : String) : Prop :=
  ∃ v, IsDecimal token v ∧ |v| < 2 ^ 1024 - 2 ^ 970

theorem ends_of_word {body : List Char}
    (h : body.map Char.toLower ∈ ['n', 'a', 'n'] :: infinityWords) :
    Ends (fun c ↦ c == '+' || c == '-') body := by
  obtain ⟨c, rest, rfl, halpha⟩ := exists_cons_of_word h
  refine ends_cons.mpr ?_
  rw [Bool.or_eq_false_iff, beq_eq_false_iff_ne, beq_eq_false_iff_ne]
  refine ⟨?_, ?_⟩
  · rintro rfl
    cases halpha
  · rintro rfl
    cases halpha

theorem DecimalText.ends {body : List Char} {d : DecimalNumeral} (h : DecimalText body d) :
    Ends (fun c ↦ c == '+' || c == '-') body := by
  obtain ⟨c, rest, rfl, hc⟩ := h.exists_cons
  refine ends_cons.mpr ?_
  rw [Bool.or_eq_false_iff, beq_eq_false_iff_ne, beq_eq_false_iff_ne]
  refine ⟨?_, ?_⟩
  · rintro rfl
    exact absurd hc (by decide)
  · rintro rfl
    exact absurd hc (by decide)

variable {token argument : String}

theorem isInfinityLiteral_iff :
    IsInfinityLiteral token ↔ (splitSign token.toList).2.map Char.toLower ∈ infinityWords :=
  withSign_iff fun _ _ h ↦ ends_of_word (List.mem_cons_of_mem _ h)

theorem isNanLiteral_iff :
    IsNanLiteral token ↔ (splitSign token.toList).2.map Char.toLower = ['n', 'a', 'n'] :=
  withSign_iff fun _ _ h ↦ ends_of_word (h ▸ List.mem_cons_self)

theorem isDecimal_iff {v : ℚ} :
    IsDecimal token v ↔ ∃ d, DecimalText (splitSign token.toList).2 d ∧
      v = if (splitSign token.toList).1 then -d.value else d.value :=
  withSign_iff fun _ _ ⟨_, h, _⟩ ↦ h.ends

theorem Text.DecimalNumeral.value_nonneg (d : DecimalNumeral) : 0 ≤ d.value :=
  mul_nonneg (Nat.cast_nonneg _) (zpow_nonneg (by norm_num) _)

theorem isDecimalLiteral_iff :
    IsDecimalLiteral token ↔ ∃ d, DecimalText (splitSign token.toList).2 d ∧
      d.value < 2 ^ 1024 - 2 ^ 970 := by
  have habs : ∀ (negative : Bool) (d : DecimalNumeral),
      |if negative then -d.value else d.value| = d.value := by
    intro negative d
    cases negative with
    | false => exact abs_of_nonneg d.value_nonneg
    | true => exact (abs_neg _).trans (abs_of_nonneg d.value_nonneg)
  constructor
  · rintro ⟨v, hv, hlt⟩
    obtain ⟨d, htext, rfl⟩ := isDecimal_iff.mp hv
    exact ⟨d, htext, by rwa [habs] at hlt⟩
  · rintro ⟨d, htext, hlt⟩
    exact ⟨_, isDecimal_iff.mpr ⟨d, htext, rfl⟩, by rwa [habs]⟩

/-! ## Values -/

/-- A decimal below the bound has a nearest floating-point value, which is finite. -/
theorem exists_finiteDecimal? (negative : Bool) {d : DecimalNumeral}
    (h : d.value < 2 ^ 1024 - 2 ^ 970) :
    ∃ x, finiteDecimal? negative d = some x ∧ x.isInf = false ∧
      Binary64.IsNearest x (if negative then -d.value else d.value) := by
  rw [← Binary64.overflowBound_eq] at h
  have hfinite := mt (Binary64.overflowBound_le_decimalRatio_iff (natOfDigits d.digits)
    d.exponent).mp (not_le.mpr h)
  refine ⟨Binary64.ofDecimal negative (natOfDigits d.digits) d.exponent, if_neg hfinite, ?_,
    Binary64.isNearest_ofDecimal negative h⟩
  rw [← Bool.not_eq_true, Binary64.ofDecimal,
    Binary64.isInf_ofRatio _ (Binary64.decimalRatio_pos _ _)]
  exact hfinite

theorem finiteDecimal?_eq_none (negative : Bool) {d : DecimalNumeral}
    (h : 2 ^ 1024 - 2 ^ 970 ≤ d.value) : finiteDecimal? negative d = none := by
  rw [← Binary64.overflowBound_eq] at h
  exact if_pos ((Binary64.overflowBound_le_decimalRatio_iff _ _).mpr h)

theorem isInf_signedInfinity (negative : Bool) : (signedInfinity negative).isInf = true :=
  (Binary64.isInf_ofRatio negative Nat.one_pos).mpr (Nat.mul_one _).le

theorem isInf_notANumber : Binary64.notANumber.isInf = false := by decide +kernel

/-! ## Conversion -/

theorem NoLookalike.splitSign {cs : List Char} (h : NoLookalike cs) :
    NoLookalike (splitSign cs).2 := by
  obtain ⟨sign, -, hcs⟩ := exists_sign_of_splitSign cs
  intro c hc
  exact h c (hcs ▸ List.mem_append_right sign hc)

theorem NoLookalike.not_isLookalike (h : NoLookalike token.toList) : ¬IsLookalike token := by
  rintro ⟨sign, letters, htoken, -, -, c, hc, hlook⟩
  obtain ⟨hdotted, hdotless⟩ := h c (htoken ▸ List.mem_append_right sign hc)
  exact hlook.elim hdotted hdotless

theorem IsInfinityLiteral.not_isNanLiteral (h : IsInfinityLiteral token) : ¬IsNanLiteral token :=
  fun hnan ↦ absurd (isNanLiteral_iff.mp hnan ▸ isInfinityLiteral_iff.mp h) (by decide)

theorem IsDecimal.not_word {v : ℚ} (h : IsDecimal token v) :
    ¬IsInfinityLiteral token ∧ ¬IsNanLiteral token := by
  obtain ⟨d, hdecimal, -⟩ := isDecimal_iff.mp h
  refine ⟨fun hword ↦ ?_, fun hword ↦ ?_⟩
  · exact not_decimalText_of_word (List.mem_cons_of_mem _ (isInfinityLiteral_iff.mp hword)) hdecimal
  · exact not_decimalText_of_word (isNanLiteral_iff.mp hword ▸ List.mem_cons_self) hdecimal

theorem readFloatForm?_of_not_word (hplain : NoLookalike token.toList)
    (hword : ¬IsInfinityLiteral token ∧ ¬IsNanLiteral token) :
    readFloatForm? (splitSign token.toList).2
      = (readDecimal? (splitSign token.toList).2).map .decimal := by
  rw [readFloatForm?_of_noLookalike hplain.splitSign, if_neg (mt isNanLiteral_iff.mpr hword.2),
    if_neg (mt isInfinityLiteral_iff.mpr hword.1)]

/-- A literal is converted, to an infinite value only if it is a word for infinity, and to a nearest
one if it is a decimal. -/
theorem convert_float_of_literal (hplain : NoLookalike token.toList)
    (h : IsInfinityLiteral token ∨ IsNanLiteral token ∨ IsDecimalLiteral token)
    (argument : String) :
    ∃ x, convert token .float argument = .ok (.float x) ∧
      (x.isInf = true ↔ IsInfinityLiteral token) ∧
      ∀ v, IsDecimal token v → Binary64.IsNearest x v := by
  rcases h with hinfinity | hnan | hdecimal
  · have hform := readFloatForm?_of_noLookalike hplain.splitSign
    rw [if_neg (mt isNanLiteral_iff.mpr hinfinity.not_isNanLiteral),
      if_pos (isInfinityLiteral_iff.mp hinfinity)] at hform
    refine ⟨signedInfinity (splitSign token.toList).1, ?_,
      iff_of_true (isInf_signedInfinity _) hinfinity, fun v hv ↦ absurd hinfinity hv.not_word.1⟩
    simp only [convert, convertFloat, hform]
  · have hform := readFloatForm?_of_noLookalike hplain.splitSign
    rw [if_pos (isNanLiteral_iff.mp hnan)] at hform
    refine ⟨Binary64.notANumber, ?_, iff_of_false (Bool.eq_false_iff.mp isInf_notANumber)
      fun hinfinity ↦ hinfinity.not_isNanLiteral hnan, fun v hv ↦ absurd hnan hv.not_word.2⟩
    simp only [convert, convertFloat, hform]
  · have hword := hdecimal.elim fun v hv ↦ hv.1.not_word
    have hform := readFloatForm?_of_not_word hplain hword
    obtain ⟨d, htext, hlt⟩ := isDecimalLiteral_iff.mp hdecimal
    rw [readDecimal?_eq_some_iff.mpr htext] at hform
    obtain ⟨x, hx, hfinite, hnearest⟩ := exists_finiteDecimal? (splitSign token.toList).1 hlt
    refine ⟨x, ?_, iff_of_false (Bool.eq_false_iff.mp hfinite) hword.1, fun v hv ↦ ?_⟩
    · simp only [convert, convertFloat, hform, Option.map_some, hx]
    · obtain ⟨d', htext', rfl⟩ := isDecimal_iff.mp hv
      obtain rfl : d' = d := Option.some.inj <|
        (readDecimal?_eq_some_iff.mpr htext').symm.trans (readDecimal?_eq_some_iff.mpr htext)
      exact hnearest

theorem convert_float_ne_ok (hplain : NoLookalike token.toList)
    (hnone : ¬(IsInfinityLiteral token ∨ IsNanLiteral token ∨ IsDecimalLiteral token))
    (argument : String) (v : Value) : convert token .float argument ≠ .ok v := by
  rw [not_or, not_or, ← and_assoc] at hnone
  obtain ⟨hword, hdecimal⟩ := hnone
  have hform := readFloatForm?_of_not_word hplain hword
  rcases hread : readDecimal? (splitSign token.toList).2 with _ | d
  · rw [hread] at hform
    simp [convert, convertFloat, hform]
  · -- A decimal that is no literal is one beyond the bound.
    have hlarge : 2 ^ 1024 - 2 ^ 970 ≤ d.value := by
      refine not_lt.mp fun hlt ↦ hdecimal ?_
      exact isDecimalLiteral_iff.mpr ⟨d, readDecimal?_eq_some_iff.mp hread, hlt⟩
    rw [hread] at hform
    simp [convert, convertFloat, hform, finiteDecimal?_eq_none (splitSign token.toList).1 hlarge]

/-- **Floating-point numbers.** A token without lookalikes is converted if it is a word for infinity
or for NaN or a decimal below the bound, and refused if it is none of them. What it is converted to
is infinite only for the words for infinity, and nearest to the value of a decimal. -/
theorem convert_float_accepts_literals (token argument : String)
    (hplain : ∀ c ∈ token.toList, c ≠ '\u0130' ∧ c ≠ '\u0131') :
    ((∃ x, convert token .float argument = .ok (.float x)) ↔
      IsInfinityLiteral token ∨ IsNanLiteral token ∨ IsDecimalLiteral token) ∧
    (¬(IsInfinityLiteral token ∨ IsNanLiteral token ∨ IsDecimalLiteral token) →
      Refused (convert token .float argument) token argument) ∧
    (∀ x, convert token .float argument = .ok (.float x) →
      (x.isInf = true ↔ IsInfinityLiteral token) ∧
      ∀ v, IsDecimal token v → Binary64.IsNearest x v) := by
  have hliteral : ∀ x, convert token .float argument = .ok (.float x) →
      IsInfinityLiteral token ∨ IsNanLiteral token ∨ IsDecimalLiteral token := fun x hx ↦
    by_contra fun hnone ↦ convert_float_ne_ok hplain hnone argument _ hx
  refine ⟨⟨fun ⟨x, hx⟩ ↦ hliteral x hx, fun h ↦ ?_⟩, fun hnone ↦ ?_, fun x hx ↦ ?_⟩
  · obtain ⟨x, hx, -⟩ := convert_float_of_literal hplain h argument
    exact ⟨x, hx⟩
  · exact refused_of_convert_ne_ok (fun _ ↦ NoLookalike.not_isLookalike hplain)
      (convert_float_ne_ok hplain hnone argument)
  · obtain ⟨y, hy, hvalue⟩ := convert_float_of_literal hplain (hliteral x hx) argument
    obtain rfl := Value.float.inj (Except.ok.inj (hx.symm.trans hy))
    exact hvalue

/-- A decimal with a sign, a point and an exponent is finite, and a word for infinity in mixed
letters is not. -/
theorem convert_float_accepts_literals_mixed :
    (∃ x, convert "-1.5e3" .float "x" = .ok (.float x) ∧ x.isInf = false ∧
        Binary64.IsNearest x (-1500)) ∧
      ∃ x, convert "+InF" .float "x" = .ok (.float x) ∧ x.isInf = true := by
  refine ⟨?_, ?_⟩
  · have hexponent : Exponent ['e', '3'] 3 := .unsigned (Or.inl rfl) rfl
    have htext : DecimalText "1.5e3".toList ⟨['1', '5'], 3 - 1⟩ :=
      .scientific (.point (List.forall_mem_singleton.mpr rfl) (List.forall_mem_singleton.mpr rfl)
        (List.cons_ne_nil '1' ['5'])) hexponent
    have hexact : DecimalNumeral.value ⟨['1', '5'], 3 - 1⟩ = 1500 := by
      rw [DecimalNumeral.value, show natOfDigits ['1', '5'] = 15 from rfl]
      norm_num
    have hdecimal : IsDecimal "-1.5e3" (-1500) :=
      ⟨['-'], "1.5e3".toList, rfl, by decide, _, htext, by rw [hexact]; rfl⟩
    have hbelow : |(-1500 : ℚ)| < 2 ^ 1024 - 2 ^ 970 := by
      have hlt : (1500 : Nat) < Binary64.overflowBound := by decide +kernel
      rw [← Binary64.overflowBound_eq, abs_neg, abs_of_pos (by norm_num)]
      exact_mod_cast hlt
    obtain ⟨hconvert, -, hvalue⟩ := convert_float_accepts_literals "-1.5e3" "x" (by simp)
    obtain ⟨x, hx⟩ := hconvert.mpr (Or.inr (Or.inr ⟨_, hdecimal, hbelow⟩))
    obtain ⟨hinf, hnearest⟩ := hvalue x hx
    exact ⟨x, hx, Bool.eq_false_iff.mpr fun h ↦ hdecimal.not_word.1 (hinf.mp h),
      hnearest _ hdecimal⟩
  · have hliteral : IsInfinityLiteral "+InF" := ⟨['+'], "InF".toList, rfl, by decide, by decide⟩
    obtain ⟨hconvert, -, hvalue⟩ := convert_float_accepts_literals "+InF" "x" (by simp)
    obtain ⟨x, hx⟩ := hconvert.mpr (Or.inl hliteral)
    exact ⟨x, hx, (hvalue x hx).1.mpr hliteral⟩

end LineCommands
