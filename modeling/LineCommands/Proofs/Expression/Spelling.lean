import Mathlib.Data.List.Chain
import LineCommands.Proofs.Expression.Names
import LineCommands.Proofs.Template.Scan

/-!
# Spelling tokens

A list of lexemes is spelled by any text that has their texts one behind the other, with or without
blanks around them. Blanks are not needed where two lexemes meet that cannot be mistaken for a
longer one: a lexeme is over where a character follows that does not go on with it
(`Lexeme.continues`), and then the scanner takes just this lexeme (`scan?_of_isSpelled`).

The lexemes of an operand are such a list. It does not begin with a star, so that it can stand behind
any operator, and it does not end with one, so that any operator can stand behind it; what was put
together from operands by signs, operators and parentheses is an operand again.
-/

namespace LineCommands

open Text

namespace Lexeme

/-! ## The ends of lexemes -/

/-- A text that is a name: a letter or an underscore, and then digits too. -/
def IsName (text : List Char) : Prop :=
  ∃ c cs, text = c :: cs ∧ isNameStart c = true ∧ ∀ d ∈ cs, isNameRest d = true

/-- A number has the text of a number, and a name that of a name. -/
def IsSpelled : Lexeme → Prop
  | number text => ∃ v, NumberText text.toList v
  | name text => IsName text.toList
  | _ => True

/-- The character belongs to numbers. -/
def continuesNumber (c : Char) : Bool := isNameRest c || c == '.'

/-- Before this character the lexeme may go on. -/
def continues : Lexeme → Char → Bool
  | number _, c => continuesNumber c
  | name _, c => isNameRest c
  | times, c => c == '*'
  | _, _ => false

theorem isNameRest_of_isNameStart {c : Char} (h : isNameStart c = true) : isNameRest c = true := by
  simp only [isNameStart, isNameRest, Char.isAlphanum, Bool.or_eq_true] at h ⊢
  exact h.imp_left Or.inl

theorem isNameRest_of_isDigit {c : Char} (h : c.isDigit = true) : isNameRest c = true := by
  simp [isNameRest, Char.isAlphanum, h]

theorem ends_isDigit_or_point {rest : List Char} (h : Ends continuesNumber rest) :
    Ends (fun c ↦ c.isDigit || c == '.') rest := by
  intro c hc
  have hrest := h c hc
  simp only [continuesNumber, Bool.or_eq_false_iff] at hrest ⊢
  refine ⟨Bool.eq_false_iff.mpr fun hdigit ↦ ?_, hrest.2⟩
  rw [isNameRest_of_isDigit hdigit] at hrest
  cases hrest.1

theorem ends_isDigit {rest : List Char} (h : Ends continuesNumber rest) :
    Ends Char.isDigit rest := by
  intro c hc
  exact (Bool.or_eq_false_iff.mp (ends_isDigit_or_point h c hc)).1

/-! ## Scanning what was spelled -/

theorem mantissaPart_mantissa {text ds rest : List Char} {places : Nat} (h : Mantissa text ds places)
    (hrest : Ends (fun c ↦ c.isDigit || c == '.') rest) : mantissaPart (text ++ rest) = text := by
  have hdigit : Ends Char.isDigit rest := fun c hc ↦ (Bool.or_eq_false_iff.mp (hrest c hc)).1
  cases h with
  | whole h =>
    rw [mantissaPart, takeWhile_run (isDigits_iff.mp h).2 hdigit]
    simp only [List.drop_left]
    cases rest with
    | nil => rfl
    | cons c rest =>
      have hc : c ≠ '.' := by
        rintro rfl
        exact absurd (ends_cons.mp hrest) (by decide)
      simp [hc]
  | @point whole fraction hwhole hfraction hne =>
    have hstop : Ends Char.isDigit ('.' :: (fraction ++ rest)) := ends_cons.mpr (by decide)
    rw [List.append_assoc, List.cons_append, mantissaPart, takeWhile_run hwhole hstop]
    simp only [List.drop_left, takeWhile_run hfraction hdigit]
    rw [if_neg (by simpa using hne)]

theorem exponentPart_exponent {mark rest : List Char} {e : Int} (h : Exponent mark e)
    (hrest : Ends Char.isDigit rest) : exponentPart (mark ++ rest) = mark := by
  have htake : ∀ {ds : List Char}, isDigits ds = true → (ds ++ rest).takeWhile Char.isDigit = ds :=
    fun hds ↦ takeWhile_run (isDigits_iff.mp hds).2 hrest
  have hmark : ∀ {c : Char}, c = 'e' ∨ c = 'E' → (c == 'e' || c == 'E') = true := by
    rintro c (rfl | rfl) <;> decide
  cases h with
  | @unsigned c ds hc hds =>
    obtain ⟨hne, hall⟩ := isDigits_iff.mp hds
    obtain ⟨d, ds, rfl⟩ := List.exists_cons_of_ne_nil hne
    -- The first digit is no sign, and is left where it is.
    have hplus : d ≠ '+' := by
      rintro rfl
      exact absurd (hall _ List.mem_cons_self) (by decide)
    have hminus : d ≠ '-' := by
      rintro rfl
      exact absurd (hall _ List.mem_cons_self) (by decide)
    have hfront := htake hds
    rw [List.cons_append] at hfront
    simp [exponentPart, hplus, hminus, hfront, hmark hc]
  | @plus c ds hc hds => simp [exponentPart, htake hds, hmark hc, (isDigits_iff.mp hds).1]
  | @minus c ds hc hds => simp [exponentPart, htake hds, hmark hc, (isDigits_iff.mp hds).1]

theorem exponentPart_of_ends {rest : List Char} (h : Ends continuesNumber rest) :
    exponentPart rest = [] := by
  cases rest with
  | nil => rfl
  | cons c rest =>
    have hc := ends_cons.mp h
    have hmark : (c == 'e' || c == 'E') = false := by
      simp only [Bool.or_eq_false_iff, beq_eq_false_iff_ne]
      constructor <;>
      · rintro rfl
        exact absurd hc (by decide)
    simp [exponentPart, hmark]

/-- A mantissa ends where an exponent begins, and the exponent is looked for behind it. -/
theorem numberPart_scientific {text ds mark : List Char} {places : Nat} {e : Int}
    (hm : Mantissa text ds places) (he : Exponent mark e) (rest : List Char) :
    numberPart (text ++ mark ++ rest) = text ++ exponentPart (mark ++ rest) := by
  have hstop : Ends (fun c ↦ c.isDigit || c == '.') (mark ++ rest) := by
    have hends := he.ends
    cases he with
    | unsigned _ _ => exact ends_cons.mpr (ends_cons.mp hends)
    | plus _ _ => exact ends_cons.mpr (ends_cons.mp hends)
    | minus _ _ => exact ends_cons.mpr (ends_cons.mp hends)
  have hne : text ≠ [] := by
    cases hm with
    | whole h => exact (isDigits_iff.mp h).1
    | point _ _ _ => simp
  rw [List.append_assoc, numberPart, mantissaPart_mantissa hm hstop]
  simp only [List.drop_left]
  rw [if_neg (by simpa using hne)]

theorem numberPart_numberText {text rest : List Char} {v : Number} (h : NumberText text v)
    (hrest : Ends continuesNumber rest) : numberPart (text ++ rest) = text := by
  have hplain : ∀ {text ds : List Char} {places : Nat}, Mantissa text ds places →
      numberPart (text ++ rest) = text := by
    intro text ds places hm
    rw [numberPart, mantissaPart_mantissa hm (ends_isDigit_or_point hrest)]
    simp only [List.drop_left, exponentPart_of_ends hrest, List.append_nil]
    split
    · next hnil => exact (List.isEmpty_iff.mp hnil).symm
    · rfl
  cases h with
  | whole h => exact hplain (.whole h)
  | decimal h _ => exact hplain h
  | scientific hm he =>
    rw [numberPart_scientific hm he, exponentPart_exponent he (ends_isDigit hrest)]

theorem numberText_ne_nil {text : List Char} {v : Number} (h : NumberText text v) : text ≠ [] := by
  rcases h.isDigits_or_any_isMark with ⟨hdigits, -⟩ | hmark
  · exact (isDigits_iff.mp hdigits).1
  · rintro rfl
    cases hmark

theorem numberPart_of_not_isDigit {c : Char} (cs : List Char) (hdigit : c.isDigit = false)
    (hpoint : c ≠ '.') : numberPart (c :: cs) = [] := by
  simp [numberPart, mantissaPart, hdigit, hpoint]

theorem scan?_of_numberPart_ne_nil {cs : List Char} (h : numberPart cs ≠ []) :
    scan? cs = some (.number (String.ofList (numberPart cs)), cs.drop (numberPart cs).length) := by
  simp [scan?, h]

theorem scan?_of_namePart_ne_nil {cs : List Char} (hnumber : numberPart cs = [])
    (h : namePart cs ≠ []) :
    scan? cs = some (.name (String.ofList (namePart cs)), cs.drop (namePart cs).length) := by
  simp [scan?, hnumber, h]

theorem scan?_of_not_isNameRest {c : Char} (cs : List Char) (hname : isNameRest c = false)
    (hpoint : c ≠ '.') : scan? (c :: cs) = symbol? (c :: cs) := by
  have hdigit : c.isDigit = false :=
    Bool.eq_false_iff.mpr fun h ↦ by rw [isNameRest_of_isDigit h] at hname; cases hname
  have hstart : isNameStart c = false :=
    Bool.eq_false_iff.mpr fun h ↦ by rw [isNameRest_of_isNameStart h] at hname; cases hname
  simp [scan?, numberPart_of_not_isDigit cs hdigit hpoint, namePart, hstart]

/-- A star that no star follows is an operator of its own. -/
theorem symbol?_star {cs : List Char} (h : ∀ cs', cs ≠ '*' :: cs') :
    symbol? ('*' :: cs) = some (times, cs) := by
  rw [symbol?]
  exact fun cs' hcs ↦ h cs' hcs

theorem namePart_isName {text rest : List Char} (h : IsName text) (hrest : Ends isNameRest rest) :
    namePart (text ++ rest) = text := by
  obtain ⟨c, cs, rfl, hc, hcs⟩ := h
  rw [List.cons_append, namePart, if_pos hc, takeWhile_run hcs hrest]

theorem IsName.ne_nil {text : List Char} (h : IsName text) : text ≠ [] := by
  obtain ⟨c, cs, rfl, -⟩ := h
  exact List.cons_ne_nil c cs

theorem isDigit_of_isNameStart {c : Char} (h : isNameStart c = true) : c.isDigit = false := by
  rw [Bool.eq_false_iff]
  intro hdigit
  rw [isNameStart_of_isDigit hdigit] at h
  cases h

theorem numberPart_isName {text rest : List Char} (h : IsName text) :
    numberPart (text ++ rest) = [] := by
  obtain ⟨c, cs, rfl, hc, -⟩ := h
  refine numberPart_of_not_isDigit _ (isDigit_of_isNameStart hc) ?_
  rintro rfl
  exact absurd hc (by decide)

/-- **Scanning.** A lexeme is scanned from its text where nothing follows that goes on with it. -/
theorem scan?_of_isSpelled {l : Lexeme} (hl : l.IsSpelled) {rest : List Char}
    (hrest : Ends l.continues rest) : scan? (l.text.toList ++ rest) = some (l, rest) := by
  cases l with
  | number text =>
    obtain ⟨v, hv⟩ := hl
    have hpart := numberPart_numberText hv hrest
    have hne : numberPart (text.toList ++ rest) ≠ [] := by
      rw [hpart]
      exact numberText_ne_nil hv
    rw [Lexeme.text, scan?_of_numberPart_ne_nil hne, hpart, String.ofList_toList, List.drop_left]
  | name text =>
    have hpart := namePart_isName hl hrest
    have hne : namePart (text.toList ++ rest) ≠ [] := by
      rw [hpart]
      exact hl.ne_nil
    rw [Lexeme.text, scan?_of_namePart_ne_nil (numberPart_isName hl) hne, hpart,
      String.ofList_toList, List.drop_left]
  | times =>
    rw [show Lexeme.times.text.toList = ['*'] from rfl, List.singleton_append,
      scan?_of_not_isNameRest rest (by decide) (by decide)]
    refine symbol?_star ?_
    rintro cs rfl
    exact absurd (ends_cons.mp hrest) (by decide)
  | sign s =>
    cases s with
    | plus => exact scan?_of_not_isNameRest rest (by decide) (by decide)
    | minus => exact scan?_of_not_isNameRest rest (by decide) (by decide)
  | power => exact scan?_of_not_isNameRest ('*' :: rest) (by decide) (by decide)
  | _ => exact scan?_of_not_isNameRest rest (by decide) (by decide)

/-! ## Blanks -/

theorem continues_of_isBlank (l : Lexeme) {c : Char} (h : isBlank c = true) :
    l.continues c = false := by
  have hname : isNameRest c = false := by
    rw [Bool.eq_false_iff]
    intro hc
    rw [isBlank_of_isPlainWordChar hc] at h
    cases h
  have hpoint : (c == '.') = false := by
    rw [beq_eq_false_iff_ne]
    rintro rfl
    exact absurd h (by decide)
  cases l with
  | number => rw [continues, continuesNumber, hname, hpoint, Bool.or_false]
  | name => exact hname
  | times =>
    rw [continues, beq_eq_false_iff_ne]
    rintro rfl
    exact absurd h (by decide)
  | _ => rfl

theorem scan?_of_isBlank {c : Char} (cs : List Char) (h : isBlank c = true) :
    scan? (c :: cs) = none := by
  have hnumber := continues_of_isBlank (.number "") h
  simp only [continues, continuesNumber, Bool.or_eq_false_iff, beq_eq_false_iff_ne] at hnumber
  rw [scan?_of_not_isNameRest cs hnumber.1 hnumber.2]
  unfold symbol?
  split <;> first | rfl | (next heq => cases heq; exact absurd h (by decide))

end Lexeme

/-! ## Texts of lexemes -/

/-- The text is that of the lexemes with any blanks, or none, before, between and behind them. -/
inductive Spaced : List Lexeme → List Char → Prop
  | blank {cs : List Char} (hblank : ∀ c ∈ cs, isBlank c = true) : Spaced [] cs
  | lexeme {before rest : List Char} {l : Lexeme} {ls : List Lexeme}
      (hbefore : ∀ c ∈ before, isBlank c = true) (hrest : Spaced ls rest) :
      Spaced (l :: ls) (before ++ (l.text.toList ++ rest))

theorem spaced_flatMap (ls : List Lexeme) : Spaced ls (ls.flatMap fun l ↦ l.text.toList) := by
  induction ls with
  | nil => exact .blank fun _ hc ↦ absurd hc List.not_mem_nil
  | cons l ls ih => exact .lexeme (fun _ hc ↦ absurd hc List.not_mem_nil) ih

/-- The second lexeme can stand right behind the first without being taken for a part of it. -/
def Lexeme.Apart (l m : Lexeme) : Prop := Ends l.continues m.text.toList

theorem tokensFrom_of_scan? {position : Nat} {cs after : List Char} {l : Lexeme}
    (h : Lexeme.scan? cs = some (l, after)) :
    tokensFrom position cs
      = (tokensFrom (position + l.text.length) after).map (⟨l, position⟩ :: ·) := by
  cases cs with
  | nil => cases h
  | cons c cs =>
    rw [tokensFrom]
    split
    · next l' after' hscan =>
      obtain ⟨rfl, rfl⟩ := Prod.mk.inj (Option.some.inj (hscan.symm.trans h))
      cases tokensFrom (position + l'.text.length) after' with
      | ok ts => rfl
      | error err => rfl
    · next hscan => rw [h] at hscan; cases hscan

theorem tokensFrom_of_isBlank {position : Nat} {before : List Char}
    (hbefore : ∀ c ∈ before, isBlank c = true) (rest : List Char) :
    tokensFrom position (before ++ rest) = tokensFrom (position + before.length) rest := by
  induction before generalizing position with
  | nil => rfl
  | cons c before ih =>
    obtain ⟨hc, hbefore⟩ := List.forall_mem_cons.mp hbefore
    rw [List.cons_append, tokensFrom]
    split
    · next hscan => rw [Lexeme.scan?_of_isBlank _ hc] at hscan; cases hscan
    · rw [if_pos hc, ih hbefore, List.length_cons, Nat.add_assoc, Nat.add_comm 1]

/-- What follows a lexeme in a spaced text is a blank, or the next lexeme, or nothing. -/
theorem Spaced.ends {l : Lexeme} {ls : List Lexeme} {cs : List Char} (h : Spaced ls cs)
    (hnext : ∀ m ∈ ls.head?, l.Apart m ∧ m.text.toList ≠ []) : Ends l.continues cs := by
  have hblanks : ∀ {before rest : List Char}, (∀ c ∈ before, isBlank c = true) →
      Ends l.continues rest → Ends l.continues (before ++ rest) := by
    intro before rest hbefore hrest
    cases before with
    | nil => exact hrest
    | cons c before =>
      exact ends_cons.mpr (l.continues_of_isBlank (hbefore c List.mem_cons_self))
  cases h with
  | blank hblank => simpa using hblanks hblank ends_nil
  | @lexeme before rest m ls hbefore hrest =>
    obtain ⟨hapart, hne⟩ := hnext m rfl
    refine hblanks hbefore ?_
    obtain ⟨c, cs, hm⟩ := List.exists_cons_of_ne_nil hne
    rw [Lexeme.Apart, hm] at hapart
    rw [hm]
    exact ends_cons.mpr (ends_cons.mp hapart)

theorem Lexeme.IsSpelled.ne_nil {l : Lexeme} (h : l.IsSpelled) : l.text.toList ≠ [] := by
  cases l with
  | number text =>
    obtain ⟨v, hv⟩ := h
    exact numberText_ne_nil hv
  | name text => exact IsName.ne_nil h
  | sign s => cases s <;> decide
  | _ => decide

/-- **Tokens.** A text of lexemes of which none would be taken for a part of the one before it is
cut into these lexemes. -/
theorem exists_tokensFrom_of_spaced {ls : List Lexeme} {cs : List Char} (h : Spaced ls cs)
    (hspelled : ∀ l ∈ ls, l.IsSpelled) (hapart : ls.IsChain Lexeme.Apart) (position : Nat) :
    ∃ ts, tokensFrom position cs = .ok ts ∧ ts.map (·.lexeme) = ls := by
  induction h generalizing position with
  | @blank cs hblank =>
    refine ⟨[], ?_, rfl⟩
    rw [← List.append_nil cs, tokensFrom_of_isBlank hblank, tokensFrom]
  | @lexeme before rest l ls hbefore hrest ih =>
    obtain ⟨hl, hls⟩ := List.forall_mem_cons.mp hspelled
    obtain ⟨hfirst, hchain⟩ := List.isChain_cons.mp hapart
    have hends : Ends l.continues rest := hrest.ends fun m hm ↦
      ⟨hfirst m hm, (hls m (List.mem_of_mem_head? hm)).ne_nil⟩
    obtain ⟨ts, hts, hlexemes⟩ := ih hls hchain (position + before.length + l.text.length)
    refine ⟨⟨l, position + before.length⟩ :: ts, ?_, congrArg (l :: ·) hlexemes⟩
    rw [tokensFrom_of_isBlank hbefore, tokensFrom_of_scan? (Lexeme.scan?_of_isSpelled hl hends), hts]
    rfl

/-! ## Operands -/

namespace Lexeme

/-- An operator, a sign or a parenthesis. -/
def IsSymbol : Lexeme → Prop
  | number _ | name _ => False
  | _ => True

theorem IsSymbol.isSpelled {l : Lexeme} (h : l.IsSymbol) : l.IsSpelled := by
  cases l with
  | number | name => exact h.elim
  | _ => trivial

/-- A symbol can stand right behind everything but a star. -/
theorem IsSymbol.apart {l m : Lexeme} (hm : m.IsSymbol) (hl : l ≠ .times) : Apart l m := by
  have hends : Ends continuesNumber m.text.toList := by
    cases m with
    | number | name => exact hm.elim
    | sign s => cases s <;> exact ends_cons.mpr (by decide)
    | _ => exact ends_cons.mpr (by decide)
  cases l with
  | number => exact hends
  | name => exact fun c hc ↦ (Bool.or_eq_false_iff.mp (hends c hc)).1
  | times => exact absurd rfl hl
  | _ => exact fun _ _ ↦ rfl

/-- Everything but a star can stand right behind a star. -/
theorem IsSpelled.apart_times {l : Lexeme} (h : l.IsSpelled) (htimes : l ≠ .times)
    (hpower : l ≠ .power) : Apart .times l := by
  intro c hc
  rw [continues, beq_eq_false_iff_ne]
  rintro rfl
  -- A text that begins with a star would be scanned as a star or two.
  obtain ⟨cs, hcs⟩ := List.head?_eq_some_iff.mp hc
  have hscan := scan?_of_isSpelled h ends_nil
  rw [List.append_nil, hcs, scan?_of_not_isNameRest cs (by decide) (by decide)] at hscan
  by_cases hstar : ∃ cs', cs = '*' :: cs'
  · obtain ⟨cs', rfl⟩ := hstar
    exact hpower (Prod.mk.inj (Option.some.inj hscan)).1.symm
  · rw [symbol?_star fun cs' ↦ mt (fun h ↦ ⟨cs', h⟩) hstar] at hscan
    exact htimes (Prod.mk.inj (Option.some.inj hscan)).1.symm

/-- Lexemes that can be written without blanks, also behind an operator and before one. -/
structure IsOperand (ls : List Lexeme) : Prop where
  ne : ls ≠ []
  spelled : ∀ l ∈ ls, l.IsSpelled
  apart : ls.IsChain Apart
  first : ∀ l ∈ ls.head?, l ≠ .times ∧ l ≠ .power
  last : ∀ l ∈ ls.getLast?, l ≠ .times

namespace IsOperand

variable {ls ms : List Lexeme} {l : Lexeme}

theorem number {text : String} {v : Number} (h : NumberText text.toList v) :
    IsOperand [.number text] where
  ne := List.cons_ne_nil _ _
  spelled := List.forall_mem_singleton.mpr ⟨v, h⟩
  apart := List.isChain_singleton _
  first := by rintro _ ⟨⟩; simp
  last := by rintro _ ⟨⟩; simp

theorem name {text : String} (h : IsName text.toList) : IsOperand [.name text] where
  ne := List.cons_ne_nil _ _
  spelled := List.forall_mem_singleton.mpr h
  apart := List.isChain_singleton _
  first := by rintro _ ⟨⟩; simp
  last := by rintro _ ⟨⟩; simp

theorem apart_symbol (hls : IsOperand ls) (hl : l.IsSymbol) : (l :: ls).IsChain Apart := by
  refine List.isChain_cons.mpr ⟨fun m hm ↦ ?_, hls.apart⟩
  cases l with
  | number | name => exact hl.elim
  | times =>
    obtain ⟨htimes, hpower⟩ := hls.first m hm
    exact (hls.spelled m (List.mem_of_mem_head? hm)).apart_times htimes hpower
  | _ => exact fun _ _ ↦ rfl

theorem getLast?_append_cons (hms : IsOperand ms) (ls : List Lexeme) (l : Lexeme) :
    (ls ++ l :: ms).getLast? = ms.getLast? := by
  rw [List.getLast?_append_of_ne_nil _ (List.cons_ne_nil l ms), List.getLast?_cons_of_ne_nil hms.ne]

theorem sign (s : Sign) (hls : IsOperand ls) : IsOperand (.sign s :: ls) where
  ne := List.cons_ne_nil _ _
  spelled := List.forall_mem_cons.mpr ⟨trivial, hls.spelled⟩
  apart := hls.apart_symbol trivial
  first := by rintro _ ⟨⟩; simp
  last := (hls.getLast?_append_cons [] _).symm ▸ hls.last

theorem join (hls : IsOperand ls) (hl : l.IsSymbol) (hms : IsOperand ms) :
    IsOperand (ls ++ l :: ms) where
  ne := List.append_ne_nil_of_left_ne_nil hls.ne _
  spelled := List.forall_mem_append.mpr
    ⟨hls.spelled, List.forall_mem_cons.mpr ⟨hl.isSpelled, hms.spelled⟩⟩
  apart := by
    refine List.isChain_append.mpr ⟨hls.apart, hms.apart_symbol hl, ?_⟩
    rintro m hm _ ⟨⟩
    exact hl.apart (hls.last m hm)
  first := by
    rw [List.head?_append_of_ne_nil _ hls.ne]
    exact hls.first
  last := (hms.getLast?_append_cons ls l).symm ▸ hms.last

theorem group (hls : IsOperand ls) : IsOperand (.opening :: (ls ++ [.closing])) where
  ne := List.cons_ne_nil _ _
  spelled := List.forall_mem_cons.mpr ⟨trivial,
    List.forall_mem_append.mpr ⟨hls.spelled, List.forall_mem_singleton.mpr trivial⟩⟩
  apart := by
    rw [← List.cons_append]
    refine List.isChain_append.mpr ⟨hls.apart_symbol trivial, List.isChain_singleton _, ?_⟩
    rintro m hm _ ⟨⟩
    rw [List.getLast?_cons_of_ne_nil hls.ne] at hm
    exact IsSymbol.apart trivial (hls.last m hm)
  first := by rintro _ ⟨⟩; simp
  last := by
    rw [← List.cons_append, List.getLast?_concat]
    rintro _ ⟨⟩
    simp

end IsOperand

end Lexeme

end LineCommands
