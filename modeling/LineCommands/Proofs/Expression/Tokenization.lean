import Mathlib
import LineCommands.Proofs.Expression.Longest

/-!
# Cutting a text into tokens

A text is cut from left to right: at each place the longest lexeme that begins there is taken, and
blanks between lexemes are skipped. `Reaches` is this scan as a relation, with the tokens taken on the
way to a place. A scan that is stuck before the end of the text (`StuckAt`) is the only error that
there is, and what comes after the place does not matter.

Read without the scan, the tokens of a text lie in it one behind the other (`Laid`): each is the
longest lexeme where it stands, and around them there is nothing but blanks. A text can be cut in one
way at most like this, so this says the same as the scan (`reaches_iff_laid`). The tokens do not
depend on how the text was spaced: their texts with single blanks between them are cut into the same
lexemes.
-/

namespace LineCommands

open Text

/-- The place behind a token. -/
def Token.stop (t : Token) : Nat := t.position + t.lexeme.text.length

/-- The scan comes to the place, with these tokens behind it. -/
inductive Reaches (source : List Char) : List Token → Nat → Prop
  | start : Reaches source [] 0
  | blank {ts : List Token} {place : Nat} {c : Char} (h : Reaches source ts place)
      (hc : source[place]? = some c) (hblank : isBlank c = true) : Reaches source ts (place + 1)
  | lexeme {ts : List Token} {place : Nat} {l : Lexeme} (h : Reaches source ts place)
      (hl : l.IsLongest (source.drop place)) :
      Reaches source (ts ++ [⟨l, place⟩]) (place + l.text.length)

/-- The scan comes to this character, which is not blank, and no lexeme begins there. -/
structure StuckAt (source : List Char) (c : Char) (place : Nat) : Prop where
  reached : ∃ ts, Reaches source ts place
  char : source[place]? = some c
  notBlank : isBlank c = false
  noLexeme : ∀ l : Lexeme, ¬l.Begins (source.drop place)

/-- Up to the place the text is made of the tokens, which lie in it one behind the other, and of
blanks. -/
structure Laid (source : List Char) (ts : List Token) (place : Nat) : Prop where
  within : place ≤ source.length
  /-- A token is over where the next begins. -/
  apart : ts.Pairwise fun t u ↦ t.stop ≤ u.position
  before : ∀ t ∈ ts, t.stop ≤ place
  /-- No lexeme that begins where a token does is longer. -/
  longest : ∀ t ∈ ts, t.lexeme.IsLongest (source.drop t.position)
  /-- What is in no token is blank. -/
  blank : ∀ i c, i < place → source[i]? = some c →
    (∀ t ∈ ts, ¬(t.position ≤ i ∧ i < t.stop)) → isBlank c = true

/-! ## The scan -/

theorem drop_eq_cons {source : List Char} {place : Nat} {c : Char}
    (h : source[place]? = some c) : source.drop place = c :: source.drop (place + 1) := by
  obtain ⟨hplace, rfl⟩ := List.getElem?_eq_some_iff.mp h
  exact List.drop_eq_getElem_cons hplace

theorem tokenize_of_reaches {source : String} {ts : List Token} {place : Nat}
    (h : Reaches source.toList ts place) :
    tokenize source = (tokensFrom place (source.toList.drop place)).map (ts ++ ·) := by
  induction h with
  | start =>
    rw [tokenize, List.drop_zero]
    cases tokensFrom 0 source.toList with
    | ok ts => rfl
    | error e => rfl
  | blank _ hc hblank ih =>
    rw [ih, drop_eq_cons hc, ← List.singleton_append,
      tokensFrom_of_isBlank (List.forall_mem_singleton.mpr hblank)]
    rfl
  | @lexeme ts place l _ hl ih =>
    have hscan := Lexeme.scan?_eq_some_iff.mpr ⟨hl, rfl⟩
    rw [List.drop_drop] at hscan
    rw [ih, tokensFrom_of_scan? hscan]
    cases tokensFrom (place + l.text.length) (source.toList.drop (place + l.text.length)) with
    | ok us => exact congrArg Except.ok (List.append_cons ts _ us)
    | error e => rfl

theorem Reaches.le_length {source : List Char} {ts : List Token} {place : Nat}
    (h : Reaches source ts place) : place ≤ source.length := by
  induction h with
  | start => exact Nat.zero_le _
  | blank _ hc _ _ =>
    obtain ⟨hplace, -⟩ := List.getElem?_eq_some_iff.mp hc
    exact hplace
  | lexeme _ hl ih =>
    have hlength := hl.begins.front.length_le
    rw [String.length_toList, List.length_drop] at hlength
    omega

theorem Lexeme.IsSpelled.length_pos {l : Lexeme} (h : l.IsSpelled) : 0 < l.text.length := by
  rw [← String.length_toList]
  exact List.length_pos_of_ne_nil h.ne_nil

/-- From every place that it comes to the scan goes on to the end of the text, or is stuck. -/
theorem exists_end_of_reaches {source : List Char} {ts : List Token} {place : Nat}
    (h : Reaches source ts place) :
    (∃ us, Reaches source us source.length) ∨ ∃ c stop, StuckAt source c stop := by
  induction hleft : source.length - place using Nat.strong_induction_on generalizing ts place with
  | _ left ih =>
  subst hleft
  rcases h.le_length.eq_or_lt with rfl | hlt
  · exact Or.inl ⟨ts, h⟩
  · obtain ⟨c, hc⟩ : ∃ c, source[place]? = some c := ⟨_, List.getElem?_eq_getElem hlt⟩
    cases hscan : Lexeme.scan? (source.drop place) with
    | some found =>
      have hl := Lexeme.isLongest_of_scan? hscan
      have hpos := hl.begins.spelled.length_pos
      exact ih _ (by omega) (h.lexeme hl) rfl
    | none =>
      cases hblank : isBlank c with
      | true => exact ih _ (by omega) (h.blank hc hblank) rfl
      | false => exact Or.inr ⟨c, place, ⟨ts, h⟩, hc, hblank, Lexeme.scan?_eq_none_iff.mp hscan⟩

theorem tokenize_of_reaches_length {source : String} {ts : List Token}
    (h : Reaches source.toList ts source.toList.length) : tokenize source = .ok ts := by
  rw [tokenize_of_reaches h, List.drop_length, tokensFrom]
  exact congrArg Except.ok (List.append_nil ts)

theorem tokenize_of_stuckAt {source : String} {c : Char} {place : Nat}
    (h : StuckAt source.toList c place) : tokenize source = .error (.badCharacter c place) := by
  obtain ⟨ts, hts⟩ := h.reached
  have hscan := Lexeme.scan?_eq_none_iff.mpr h.noLexeme
  rw [tokenize_of_reaches hts, drop_eq_cons h.char, tokensFrom]
  rw [drop_eq_cons h.char] at hscan
  split
  · next hsome => rw [hscan] at hsome; cases hsome
  · rw [h.notBlank]
    rfl

theorem tokenize_eq_ok_iff {source : String} {ts : List Token} :
    tokenize source = .ok ts ↔ Reaches source.toList ts source.toList.length := by
  constructor
  · intro h
    rcases exists_end_of_reaches (.start : Reaches source.toList [] 0) with
      ⟨us, hus⟩ | ⟨c, place, hstuck⟩
    · rw [tokenize_of_reaches_length hus] at h
      obtain rfl := Except.ok.inj h
      exact hus
    · rw [tokenize_of_stuckAt hstuck] at h
      cases h
  · exact tokenize_of_reaches_length

theorem tokenize_eq_error_iff {source : String} {e : ExprError} :
    tokenize source = .error e ↔
      ∃ c place, e = .badCharacter c place ∧ StuckAt source.toList c place := by
  constructor
  · intro h
    rcases exists_end_of_reaches (.start : Reaches source.toList [] 0) with
      ⟨us, hus⟩ | ⟨c, place, hstuck⟩
    · rw [tokenize_of_reaches_length hus] at h
      cases h
    · rw [tokenize_of_stuckAt hstuck] at h
      exact ⟨c, place, (Except.error.inj h).symm, hstuck⟩
  · rintro ⟨c, place, rfl, hstuck⟩
    exact tokenize_of_stuckAt hstuck

/-! ## The tokens in the text -/

theorem Reaches.laid {source : List Char} {ts : List Token} {place : Nat}
    (h : Reaches source ts place) : Laid source ts place := by
  induction h with
  | start =>
    refine ⟨Nat.zero_le _, List.Pairwise.nil, by simp, by simp, ?_⟩
    intro i c hi
    exact absurd hi (Nat.not_lt_zero i)
  | @blank ts place c h hc hblank ih =>
    refine ⟨(h.blank hc hblank).le_length, ih.apart, ?_, ih.longest, ?_⟩
    · intro t ht
      exact (ih.before t ht).trans (Nat.le_succ place)
    · intro i c' hi hc' hout
      rcases (Nat.le_of_lt_succ hi).lt_or_eq with hlt | rfl
      · exact ih.blank i c' hlt hc' hout
      · obtain rfl := Option.some.inj (hc.symm.trans hc')
        exact hblank
  | @lexeme ts place l h hl ih =>
    refine ⟨(h.lexeme hl).le_length, ?_, ?_, ?_, ?_⟩
    · refine List.pairwise_append.mpr ⟨ih.apart, List.pairwise_singleton _ _, ?_⟩
      intro t ht u hu
      obtain rfl := List.mem_singleton.mp hu
      exact ih.before t ht
    · refine List.forall_mem_append.mpr ⟨?_, List.forall_mem_singleton.mpr (Nat.le_refl _)⟩
      intro t ht
      exact (ih.before t ht).trans (Nat.le_add_right _ _)
    · exact List.forall_mem_append.mpr ⟨ih.longest, List.forall_mem_singleton.mpr hl⟩
    · intro i c hi hc hout
      obtain ⟨hts, hlast⟩ := List.forall_mem_append.mp hout
      by_cases hlt : i < place
      · exact ih.blank i c hlt hc hts
      · exact absurd ⟨Nat.le_of_not_lt hlt, hi⟩ (hlast _ (List.mem_singleton_self _))

theorem Reaches.skip {source : List Char} {ts : List Token} {place stop : Nat}
    (h : Reaches source ts place) (hle : place ≤ stop) (hstop : stop ≤ source.length)
    (hblank : ∀ i c, place ≤ i → i < stop → source[i]? = some c → isBlank c = true) :
    Reaches source ts stop := by
  induction stop, hle using Nat.le_induction with
  | base => exact h
  | succ stop hle ih =>
    have hc : source[stop]? = some source[stop] := List.getElem?_eq_getElem hstop
    refine (ih (Nat.le_of_succ_le hstop) ?_).blank hc (hblank stop _ hle (Nat.lt_succ_self stop) hc)
    intro i c hi hlt
    exact hblank i c hi (Nat.lt_succ_of_lt hlt)

theorem Laid.front {source : List Char} {ts : List Token} {t : Token} {place : Nat}
    (h : Laid source (ts ++ [t]) place) : Laid source ts t.position := by
  obtain ⟨hapart, -, hlast⟩ := List.pairwise_append.mp h.apart
  obtain ⟨hlongest, -⟩ := List.forall_mem_append.mp h.longest
  have hstop : t.position ≤ place :=
    (Nat.le_add_right _ _).trans (h.before t (List.mem_append_right _ (List.mem_singleton_self t)))
  refine ⟨hstop.trans h.within, hapart, ?_, hlongest, ?_⟩
  · intro u hu
    exact hlast u hu t (List.mem_singleton_self t)
  · intro i c hi hc hout
    refine h.blank i c (hi.trans_le hstop) hc (List.forall_mem_append.mpr ⟨hout, ?_⟩)
    rw [List.forall_mem_singleton]
    rintro ⟨hle, -⟩
    exact absurd hi (Nat.not_lt_of_le hle)

/-- **One way to cut.** The scan takes the tokens that lie in the text, and no others lie in it like
this. -/
theorem reaches_iff_laid {source : List Char} {ts : List Token} {place : Nat} :
    Reaches source ts place ↔ Laid source ts place := by
  constructor
  · exact Reaches.laid
  · induction ts using List.reverseRecOn generalizing place with
    | nil =>
      intro h
      refine Reaches.start.skip (Nat.zero_le _) h.within ?_
      intro i c _ hi hc
      exact h.blank i c hi hc (by simp)
    | append_singleton ts t ih =>
      intro h
      have ht : t ∈ ts ++ [t] := List.mem_append_right _ (List.mem_singleton_self t)
      have hreaches : Reaches source (ts ++ [t]) t.stop := (ih h.front).lexeme (h.longest t ht)
      refine hreaches.skip (h.before t ht) h.within ?_
      -- Behind the last token no place is in a token.
      intro i c hle hi hc
      refine h.blank i c hi hc (fun u hu hin ↦ ?_)
      exact absurd hin.2 (Nat.not_lt_of_le ((hreaches.laid.before u hu).trans hle))

/-! ## Texts with single blanks -/

theorem exists_tokensFrom_intercalate {ls : List Lexeme} (h : ∀ l ∈ ls, l.IsSpelled)
    (position : Nat) :
    ∃ ts, tokensFrom position ([' '].intercalate (ls.map (·.text.toList))) = .ok ts ∧
      ts.map (·.lexeme) = ls := by
  induction ls generalizing position with
  | nil => exact ⟨[], by rw [List.map_nil, List.intercalate_nil, tokensFrom], rfl⟩
  | cons l ls ih =>
    obtain ⟨hl, hls⟩ := List.forall_mem_cons.mp h
    rcases ls with _ | ⟨m, ls⟩
    · refine ⟨[⟨l, position⟩], ?_, rfl⟩
      have hscan := Lexeme.scan?_of_isSpelled hl ends_nil
      rw [List.append_nil] at hscan
      rw [List.map_singleton, List.intercalate_singleton, tokensFrom_of_scan? hscan, tokensFrom]
      rfl
    · obtain ⟨ts, hts, hlexemes⟩ := ih hls (position + l.text.length + 1)
      refine ⟨⟨l, position⟩ :: ts, ?_, congrArg (l :: ·) hlexemes⟩
      have hends : Ends l.continues (' ' :: [' '].intercalate ((m :: ls).map (·.text.toList))) :=
        ends_cons.mpr (l.continues_of_isBlank (by decide))
      have htext : [' '].intercalate ((l :: m :: ls).map (·.text.toList))
          = l.text.toList ++ ' ' :: [' '].intercalate ((m :: ls).map (·.text.toList)) := by
        rw [List.map_cons, List.map_cons, List.intercalate_cons_cons, List.append_assoc]
        rfl
      have hblank : ∀ c ∈ [' '], isBlank c = true := List.forall_mem_singleton.mpr (by decide)
      rw [htext, tokensFrom_of_scan? (Lexeme.scan?_of_isSpelled hl hends), ← List.singleton_append,
        tokensFrom_of_isBlank hblank]
      exact congrArg (Except.map _) hts

/-! ## What tokens of a text are -/

/-- **Tokens.** A text has the tokens that lie in it one behind the other, with blanks around them,
each of them the longest lexeme where it stands. Their texts with single blanks between them have the
same lexemes. A text has no tokens if the scan for the longest lexemes is stuck, and the error tells
the first character at which it is. -/
theorem tokenize_takes_longest_lexemes (source : String) :
    (∀ ts, tokenize source = .ok ts ↔ Laid source.toList ts source.toList.length) ∧
    (∀ ts, tokenize source = .ok ts →
      (ts.Pairwise fun t u ↦ t.position < u.position) ∧ (∀ t ∈ ts, t.lexeme.text ≠ "") ∧
      ∃ us, tokenize (" ".intercalate (ts.map (·.lexeme.text))) = .ok us ∧
        us.map (·.lexeme) = ts.map (·.lexeme)) ∧
    ∀ e, tokenize source = .error e ↔
      ∃ c place, e = .badCharacter c place ∧ StuckAt source.toList c place ∧
        ∀ c' place', StuckAt source.toList c' place' → place ≤ place' := by
  have hlaid : ∀ ts, tokenize source = .ok ts ↔ Laid source.toList ts source.toList.length :=
    fun ts ↦ tokenize_eq_ok_iff.trans reaches_iff_laid
  refine ⟨hlaid, fun ts hts ↦ ?_, fun e ↦ ?_⟩
  · obtain ⟨-, hapart, -, hlongest, -⟩ := (hlaid ts).mp hts
    have hspelled : ∀ t ∈ ts, t.lexeme.IsSpelled := fun t ht ↦ (hlongest t ht).begins.spelled
    refine ⟨hapart.imp_of_mem ?_, ?_, ?_⟩
    · intro t u ht _ hstop
      exact (Nat.lt_add_of_pos_right (hspelled t ht).length_pos).trans_le hstop
    · intro t ht hempty
      exact (hspelled t ht).ne_nil (by rw [hempty]; rfl)
    · have hls : ∀ l ∈ ts.map (·.lexeme), l.IsSpelled := List.forall_mem_map.mpr hspelled
      obtain ⟨us, hus, hlexemes⟩ := exists_tokensFrom_intercalate hls 0
      refine ⟨us, ?_, hlexemes⟩
      rw [tokenize, String.toList_intercalate, List.map_map]
      rwa [List.map_map] at hus
  · rw [tokenize_eq_error_iff]
    constructor
    · rintro ⟨c, place, rfl, hstuck⟩
      refine ⟨c, place, rfl, hstuck, ?_⟩
      intro c' place' hstuck'
      -- The error is one, so there is one place at which the scan is stuck.
      have herror := (tokenize_of_stuckAt hstuck).symm.trans (tokenize_of_stuckAt hstuck')
      exact (ExprError.badCharacter.inj (Except.error.inj herror)).2.le
    · rintro ⟨c, place, rfl, hstuck, -⟩
      exact ⟨c, place, rfl, hstuck⟩

/-- An exponent without digits is none, a number may begin with a point, and of three stars the first
two are the power. -/
theorem tokenize_takes_longest_lexemes_stars :
    ∃ ts, tokenize "1e+ .5***x" = .ok ts ∧
      ts = [⟨.number "1", 0⟩, ⟨.name "e", 1⟩, ⟨.sign .plus, 2⟩, ⟨.number ".5", 4⟩, ⟨.power, 6⟩,
        ⟨.times, 8⟩, ⟨.name "x", 9⟩] ∧
      (ts.Pairwise fun t u ↦ t.position < u.position) ∧
      ∃ us, tokenize "1 e + .5 ** * x" = .ok us ∧ us.map (·.lexeme) = ts.map (·.lexeme) := by
  have htokens : tokenize "1e+ .5***x" = .ok [⟨.number "1", 0⟩, ⟨.name "e", 1⟩, ⟨.sign .plus, 2⟩,
      ⟨.number ".5", 4⟩, ⟨.power, 6⟩, ⟨.times, 8⟩, ⟨.name "x", 9⟩] := by cbv
  obtain ⟨hpositions, -, hjoined⟩ := (tokenize_takes_longest_lexemes "1e+ .5***x").2.1 _ htokens
  exact ⟨_, htokens, rfl, hpositions, hjoined⟩

end LineCommands
