import LineCommands.Expression.Parser
import LineCommands.Proofs.Text.Runs

/-!
# The texts of numbers

The number tokens of expressions as a language of their own: digits, which stand for a whole number;
and digits with a point among, before or after them, or an exponent, or both, which stand for the
floating-point number nearest to the decimal. The parts are given by the texts they are made of.

The scanner takes nothing but such texts from the front of its input (`numberText_numberPart`), and
reading gives each its number (`readNumber?_of_numberText`), with one exception: a whole number of
too many digits has no reading.
-/

namespace LineCommands

open Text

/-! ## The language -/

/-- Digits with a point among, before or after them or no point at all: the text, the digits alone,
and how many of them stand behind the point. -/
inductive Mantissa : List Char → List Char → Nat → Prop
  | whole {ds : List Char} (h : isDigits ds = true) : Mantissa ds ds 0
  | point {whole fraction : List Char} (hwhole : ∀ c ∈ whole, c.isDigit = true)
      (hfraction : ∀ c ∈ fraction, c.isDigit = true) (hne : whole ++ fraction ≠ []) :
      Mantissa (whole ++ '.' :: fraction) (whole ++ fraction) fraction.length

/-- An exponent: its mark, a sign that may be missing, and digits. -/
inductive Exponent : List Char → Int → Prop
  | unsigned {mark : Char} {ds : List Char} (hmark : mark = 'e' ∨ mark = 'E')
      (h : isDigits ds = true) : Exponent (mark :: ds) (natOfDigits ds)
  | plus {mark : Char} {ds : List Char} (hmark : mark = 'e' ∨ mark = 'E')
      (h : isDigits ds = true) : Exponent (mark :: '+' :: ds) (natOfDigits ds)
  | minus {mark : Char} {ds : List Char} (hmark : mark = 'e' ∨ mark = 'E')
      (h : isDigits ds = true) : Exponent (mark :: '-' :: ds) (-natOfDigits ds)

/-- The number that the text of a number token stands for. -/
inductive NumberText : List Char → Number → Prop
  | whole {ds : List Char} (h : isDigits ds = true) : NumberText ds (.int (natOfDigits ds))
  | decimal {text ds : List Char} {places : Nat} (h : Mantissa text ds places)
      (hpoint : '.' ∈ text) :
      NumberText text (.float (Binary64.ofDecimal false (natOfDigits ds) (-places)))
  | scientific {text ds mark : List Char} {places : Nat} {e : Int} (h : Mantissa text ds places)
      (hmark : Exponent mark e) :
      NumberText (text ++ mark) (.float (Binary64.ofDecimal false (natOfDigits ds) (e - places)))

/-! ## What the parts look like -/

theorem isDigits_iff {ds : List Char} :
    isDigits ds = true ↔ ds ≠ [] ∧ ∀ c ∈ ds, c.isDigit = true := by
  simp [isDigits]

theorem splitSign_of_isDigits {ds : List Char} (h : isDigits ds = true) :
    splitSign ds = (false, ds) := by
  obtain ⟨-, hall⟩ := isDigits_iff.mp h
  unfold splitSign
  split
  · exact absurd (hall '-' List.mem_cons_self) (by decide)
  · exact absurd (hall '+' List.mem_cons_self) (by decide)
  · rfl

/-! ## Reading -/

theorem readDecimal?_mantissa {text ds rest : List Char} {places : Nat}
    (h : Mantissa text ds places) (hrest : Ends (fun c ↦ c.isDigit || c == '.') rest) :
    readDecimal? (text ++ rest) = (readExponent? rest).map fun e ↦ ⟨ds, e - places⟩ := by
  have hdigit : Ends Char.isDigit rest := fun c hc ↦ by
    have := hrest c hc
    simp only [Bool.or_eq_false_iff] at this
    exact this.1
  cases h with
  | whole h =>
    obtain ⟨hne, hall⟩ := isDigits_iff.mp h
    rw [readDecimal?, takeWhile_run hall hdigit, dropWhile_run hall hdigit]
    cases rest with
    | nil => simp [hne]
    | cons c rest =>
      have hpoint : c ≠ '.' := by
        rintro rfl
        exact absurd (ends_cons.mp hrest) (by decide)
      simp [hne, hpoint]
  | @point whole fraction hwhole hfraction hne =>
    have hstop : Ends Char.isDigit ('.' :: (fraction ++ rest)) := ends_cons.mpr (by decide)
    rw [readDecimal?, List.append_assoc, List.cons_append, takeWhile_run hwhole hstop,
      dropWhile_run hwhole hstop]
    simp only [takeWhile_run hfraction hdigit, dropWhile_run hfraction hdigit]
    rw [if_neg (by simpa using hne)]

theorem readExponent?_exponent {mark : List Char} {e : Int} (h : Exponent mark e) :
    readExponent? mark = some e := by
  have hmark : ∀ {c : Char}, c = 'e' ∨ c = 'E' → (c == 'e' || c == 'E') = true := by
    rintro c (rfl | rfl) <;> decide
  cases h with
  | unsigned hc h => simp [readExponent?, splitSign_of_isDigits h, h, hmark hc, withSign]
  | plus hc h => simp [readExponent?, splitSign, h, hmark hc, withSign]
  | minus hc h => simp [readExponent?, splitSign, h, hmark hc, withSign]

theorem Exponent.ends {mark : List Char} {e : Int} (h : Exponent mark e) :
    Ends (fun c ↦ c.isDigit || c == '.') mark := by
  have hmark : ∀ {c : Char}, c = 'e' ∨ c = 'E' → (c.isDigit || c == '.') = false := by
    rintro c (rfl | rfl) <;> decide
  cases h with
  | unsigned hc _ => exact ends_cons.mpr (hmark hc)
  | plus hc _ => exact ends_cons.mpr (hmark hc)
  | minus hc _ => exact ends_cons.mpr (hmark hc)

/-- The characters that make a number a floating-point one. -/
def isMark (c : Char) : Bool := c == '.' || c == 'e' || c == 'E'

theorem any_isMark_of_isDigits {ds : List Char} (h : isDigits ds = true) :
    ds.any isMark = false := by
  rw [List.any_eq_false]
  intro c hc hmark
  have hdigit := (isDigits_iff.mp h).2 c hc
  simp only [isMark, Bool.or_eq_true, beq_iff_eq] at hmark
  rcases hmark with (rfl | rfl) | rfl <;> exact absurd hdigit (by decide)

theorem Exponent.any_isMark {mark : List Char} {e : Int} (h : Exponent mark e) :
    mark.any isMark = true := by
  cases h with
  | unsigned hc _ => rcases hc with rfl | rfl <;> simp [isMark]
  | plus hc _ => rcases hc with rfl | rfl <;> simp [isMark]
  | minus hc _ => rcases hc with rfl | rfl <;> simp [isMark]

/-- The text of a number is digits, and then it is a whole number, or it has a mark. -/
theorem NumberText.isDigits_or_any_isMark {text : List Char} {v : Number} (h : NumberText text v) :
    (isDigits text = true ∧ v = .int (natOfDigits text)) ∨ text.any isMark = true := by
  cases h with
  | whole h => exact Or.inl ⟨h, rfl⟩
  | decimal _ hpoint => exact Or.inr (List.any_eq_true.mpr ⟨'.', hpoint, by decide⟩)
  | scientific _ he => exact Or.inr (by rw [List.any_append, he.any_isMark, Bool.or_true])

theorem readNumber?_of_any_isMark {text : List Char} (h : text.any isMark = true) :
    Expr.readNumber? (String.ofList text) = (readDecimal? text).map fun d ↦
      .float (Binary64.ofDecimal false (natOfDigits d.digits) d.exponent) := by
  rw [Expr.readNumber?, String.toList_ofList]
  exact if_pos h

/-- Digits are read as a whole number unless there are too many of them. -/
theorem readNumber?_of_isDigits {ds : List Char} (h : isDigits ds = true) :
    Expr.readNumber? (String.ofList ds)
      = if ds.length ≤ maxDigits then some (.int (natOfDigits ds)) else none := by
  have hread : Expr.readNumber? (String.ofList ds) = (readInt? ds).map .int := by
    rw [Expr.readNumber?, String.toList_ofList]
    exact if_neg (Bool.not_eq_true _ ▸ any_isMark_of_isDigits h)
  rw [hread]
  by_cases hlength : ds.length ≤ maxDigits
  · simp [readInt?, splitSign_of_isDigits h, h, hlength, withSign]
  · simp [readInt?, splitSign_of_isDigits h, h, hlength]

/-- **Reading.** The text of a number is read as the number that it stands for, unless it is a whole
number of too many digits. -/
theorem readNumber?_of_numberText {text : List Char} {v : Number} (h : NumberText text v)
    (hlength : isDigits text = true → text.length ≤ maxDigits) :
    Expr.readNumber? (String.ofList text) = some v := by
  cases h with
  | whole h => rw [readNumber?_of_isDigits h, if_pos (hlength h)]
  | decimal h hpoint =>
    have hread : readDecimal? (text ++ []) = _ := readDecimal?_mantissa h ends_nil
    rw [List.append_nil] at hread
    rw [readNumber?_of_any_isMark (List.any_eq_true.mpr ⟨'.', hpoint, by decide⟩), hread]
    simp [readExponent?]
  | @scientific text ds mark places e h he =>
    rw [readNumber?_of_any_isMark (by rw [List.any_append, he.any_isMark, Bool.or_true]),
      readDecimal?_mantissa h he.ends, readExponent?_exponent he]
    rfl

theorem NumberText.unique {text : List Char} {v w : Number} (hv : NumberText text v)
    (hw : NumberText text w) : v = w := by
  by_cases hdigits : isDigits text = true
  · have hwhole : ∀ {u : Number}, NumberText text u → u = .int (natOfDigits text) := by
      intro u hu
      rcases hu.isDigits_or_any_isMark with ⟨-, heq⟩ | hmark
      · exact heq
      · rw [any_isMark_of_isDigits hdigits] at hmark
        cases hmark
    rw [hwhole hv, hwhole hw]
  · have hread := readNumber?_of_numberText hv fun h ↦ absurd h hdigits
    rw [readNumber?_of_numberText hw fun h ↦ absurd h hdigits] at hread
    exact (Option.some.inj hread).symm

theorem numberText_of_readNumber? {text : String} {v : Number}
    (htext : ∃ w, NumberText text.toList w) (h : Expr.readNumber? text = some v) :
    NumberText text.toList v := by
  obtain ⟨w, hw⟩ := htext
  have hlength : isDigits text.toList = true → text.toList.length ≤ maxDigits := by
    intro hdigits
    by_contra hlong
    have hnone := readNumber?_of_isDigits hdigits
    rw [if_neg hlong, String.ofList_toList, h] at hnone
    cases hnone
  have hread := readNumber?_of_numberText hw hlength
  rw [String.ofList_toList, h] at hread
  rwa [Option.some.inj hread]

/-! ## Scanning -/

theorem mantissa_mantissaPart {cs : List Char} (h : Lexeme.mantissaPart cs ≠ []) :
    ∃ ds places, Mantissa (Lexeme.mantissaPart cs) ds places := by
  have hdigit : ∀ {text : List Char}, ∀ c ∈ text.takeWhile Char.isDigit, c.isDigit = true :=
    fun c hc ↦ List.mem_takeWhile_imp hc
  unfold Lexeme.mantissaPart at h ⊢
  simp only at h ⊢
  split at h
  · next rest hrest =>
    by_cases hne : cs.takeWhile Char.isDigit = [] ∧ rest.takeWhile Char.isDigit = []
    · rw [hne.1, hne.2] at h
      exact absurd rfl h
    · rw [if_neg (by simpa using hne)]
      exact ⟨_, _, .point hdigit hdigit (by simpa using hne)⟩
  · exact ⟨_, _, .whole (isDigits_iff.mpr ⟨h, hdigit⟩)⟩

theorem exponentPart_eq_nil_or_exponent (cs : List Char) :
    Lexeme.exponentPart cs = [] ∨ ∃ e, Exponent (Lexeme.exponentPart cs) e := by
  cases cs with
  | nil => exact Or.inl rfl
  | cons c cs =>
    rw [Lexeme.exponentPart]
    split
    · next h =>
      right
      simp only [Bool.and_eq_true, Bool.or_eq_true, beq_iff_eq, Bool.not_eq_true',
        List.isEmpty_eq_false_iff] at h
      obtain ⟨hmark, hne⟩ := h
      have hdigits : ∀ {text : List Char}, text.takeWhile Char.isDigit ≠ [] →
          isDigits (text.takeWhile Char.isDigit) = true :=
        fun hne ↦ isDigits_iff.mpr ⟨hne, fun c hc ↦ List.mem_takeWhile_imp hc⟩
      cases cs with
      | nil => exact absurd rfl hne
      | cons s cs =>
        by_cases hplus : s = '+'
        · subst hplus
          exact ⟨_, .plus hmark (hdigits hne)⟩
        · by_cases hminus : s = '-'
          · subst hminus
            exact ⟨_, .minus hmark (hdigits hne)⟩
          · -- What is no sign stays in front of the digits that are looked for.
            have hsign : ([s].filter fun s ↦ s == '+' || s == '-') = [] := by
              simp [hplus, hminus]
            simp only [List.take_succ_cons, List.take_zero, hsign] at hne ⊢
            exact ⟨_, .unsigned hmark (hdigits hne)⟩
    · exact Or.inl rfl

/-- **Scanning.** What the scanner takes as a number is the text of a number. -/
theorem numberText_numberPart {cs : List Char} (h : Lexeme.numberPart cs ≠ []) :
    ∃ v, NumberText (Lexeme.numberPart cs) v := by
  rw [Lexeme.numberPart] at h ⊢
  by_cases hne : Lexeme.mantissaPart cs = []
  · simp [hne] at h
  · simp only [List.isEmpty_eq_false_iff.mpr hne, Bool.false_eq_true, if_false]
    obtain ⟨ds, places, hm⟩ := mantissa_mantissaPart hne
    rcases exponentPart_eq_nil_or_exponent (cs.drop (Lexeme.mantissaPart cs).length) with
      hnil | ⟨e, he⟩
    · rw [hnil, List.append_nil]
      generalize Lexeme.mantissaPart cs = text at hm
      cases hm with
      | whole h => exact ⟨_, .whole h⟩
      | point hwhole hfraction hne =>
        exact ⟨_, .decimal (.point hwhole hfraction hne) (by simp)⟩
    · exact ⟨_, .scientific hm he⟩

end LineCommands
