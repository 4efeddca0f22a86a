import LineCommands.Proofs.Expression.Spelling

/-!
# The longest lexeme

The scanner tries numbers before names and names before symbols, and each of the three takes as much
as it can. Since no text of one kind begins like a text of another, this amounts to one rule: the
scanner takes the longest of all lexemes that the characters begin with (`scan?_eq_some_iff`), and
takes nothing only where no lexeme begins (`scan?_eq_none_iff`).

Two facts about each part of the scanner lead there. What it takes stands at the front of the text;
and no text of its language that stands there is longer, because a run of digits or of letters only
gets longer when what follows it is looked at as well.
-/

namespace LineCommands

open Text

namespace Lexeme

/-- The characters begin with the text of the lexeme. -/
structure Begins (l : Lexeme) (cs : List Char) : Prop where
  spelled : l.IsSpelled
  front : l.text.toList <+: cs

/-- The characters begin with the text of the lexeme and with no longer one. -/
structure IsLongest (l : Lexeme) (cs : List Char) : Prop where
  begins : l.Begins cs
  longest : ∀ m : Lexeme, m.Begins cs → m.text.length ≤ l.text.length

/-! ## What is taken stands at the front -/

theorem prefix_of_prefix_drop {first second cs : List Char} (hfirst : first <+: cs)
    (hsecond : second <+: cs.drop first.length) : first ++ second <+: cs := by
  obtain ⟨rest, rfl⟩ := hfirst
  rw [List.drop_left] at hsecond
  exact (List.prefix_append_right_inj first).mpr hsecond

theorem isPrefix_mantissaPart (cs : List Char) : mantissaPart cs <+: cs := by
  have hwhole : cs.takeWhile Char.isDigit <+: cs := List.takeWhile_prefix _
  unfold mantissaPart
  simp only
  split
  · next rest hrest =>
    split
    · exact List.nil_prefix
    · refine prefix_of_prefix_drop hwhole ?_
      rw [hrest, List.cons_prefix_cons]
      exact ⟨rfl, List.takeWhile_prefix _⟩
  · exact hwhole

theorem isPrefix_exponentPart (cs : List Char) : exponentPart cs <+: cs := by
  rcases cs with _ | ⟨c, cs⟩
  · exact List.nil_prefix
  · rw [exponentPart]
    split
    · rw [List.cons_append, List.cons_prefix_cons]
      refine ⟨rfl, prefix_of_prefix_drop ?_ (List.takeWhile_prefix _)⟩
      -- The sign is the first of the characters or is not there.
      rcases cs with _ | ⟨s, cs⟩
      · exact List.nil_prefix
      · rw [List.take_succ_cons, List.take_zero, List.filter_singleton, Bool.cond_eq_ite]
        split
        · exact List.cons_prefix_cons.mpr ⟨rfl, List.nil_prefix⟩
        · exact List.nil_prefix
    · exact List.nil_prefix

theorem isPrefix_numberPart (cs : List Char) : numberPart cs <+: cs := by
  rw [numberPart]
  split
  · exact List.nil_prefix
  · exact prefix_of_prefix_drop (isPrefix_mantissaPart cs) (isPrefix_exponentPart _)

theorem isPrefix_namePart (cs : List Char) : namePart cs <+: cs := by
  rcases cs with _ | ⟨c, cs⟩
  · exact List.nil_prefix
  · rw [namePart]
    split
    · exact List.cons_prefix_cons.mpr ⟨rfl, List.takeWhile_prefix _⟩
    · exact List.nil_prefix

theorem isName_namePart {cs : List Char} (h : namePart cs ≠ []) : IsName (namePart cs) := by
  rcases cs with _ | ⟨c, cs⟩
  · exact absurd rfl h
  · rw [namePart] at h ⊢
    split at h
    · next hc =>
      rw [if_pos hc]
      exact ⟨c, _, rfl, hc, fun d hd ↦ List.mem_takeWhile_imp hd⟩
    · exact absurd rfl h

theorem begins_of_scan? {cs after : List Char} {l : Lexeme} (h : scan? cs = some (l, after)) :
    l.Begins cs ∧ after = cs.drop l.text.length := by
  rcases scan?_eq_some h with ⟨hne, rfl, rfl⟩ | ⟨hne, rfl, rfl⟩ | hsymbol
  · refine ⟨⟨?_, ?_⟩, ?_⟩
    · rw [IsSpelled, String.toList_ofList]
      exact numberText_numberPart hne
    · rw [text, String.toList_ofList]
      exact isPrefix_numberPart cs
    · rw [text, String.length_ofList]
  · refine ⟨⟨?_, ?_⟩, ?_⟩
    · rw [IsSpelled, String.toList_ofList]
      exact isName_namePart hne
    · rw [text, String.toList_ofList]
      exact isPrefix_namePart cs
    · rw [text, String.length_ofList]
  · unfold symbol? at hsymbol
    split at hsymbol <;> cases hsymbol <;>
      exact ⟨⟨trivial, List.prefix_append _ _⟩, rfl⟩

/-! ## Nothing longer stands at the front -/

/-- A run at the front is a part of the longest one. -/
theorem length_le_takeWhile {p : Char → Bool} {run cs : List Char} (hrun : ∀ c ∈ run, p c = true)
    (hcs : run <+: cs) : run.length ≤ (cs.takeWhile p).length := by
  obtain ⟨rest, rfl⟩ := hcs
  rw [List.takeWhile_append_of_pos hrun, List.length_append]
  exact Nat.le_add_right _ _

theorem length_mantissaPart_le (cs : List Char) :
    (mantissaPart cs).length ≤ (numberPart cs).length := by
  rw [numberPart]
  split
  · next hempty => rw [List.isEmpty_iff.mp hempty]
  · rw [List.length_append]
    exact Nat.le_add_right _ _

theorem length_le_mantissaPart {text ds cs : List Char} {places : Nat}
    (h : Mantissa text ds places) (hcs : text <+: cs) :
    text.length ≤ (mantissaPart cs).length := by
  induction h with
  | whole hdigits =>
    refine (length_le_takeWhile (isDigits_iff.mp hdigits).2 hcs).trans ?_
    unfold mantissaPart
    simp only
    split
    · split
      · next hempty => simp only [Bool.and_eq_true, List.isEmpty_iff] at hempty; rw [hempty.1]
      · rw [List.length_append]
        exact Nat.le_add_right _ _
    · exact Nat.le_refl _
  | @point whole fraction hwhole hfraction hne =>
    obtain ⟨rest, rfl⟩ := hcs
    have hstop : Ends Char.isDigit ('.' :: (fraction ++ rest)) := ends_cons.mpr (by decide)
    rw [List.append_assoc, List.cons_append, mantissaPart, takeWhile_run hwhole hstop]
    simp only [List.drop_left, List.takeWhile_append_of_pos hfraction]
    -- More digits may follow behind the point than the text has.
    have hsome : ¬(whole.isEmpty && (fraction ++ rest.takeWhile Char.isDigit).isEmpty) = true := by
      intro hempty
      simp only [Bool.and_eq_true, List.isEmpty_iff, List.append_eq_nil_iff] at hempty
      exact hne (by rw [hempty.1, hempty.2.1, List.append_nil])
    rw [if_neg hsome]
    simp only [List.length_append, List.length_cons]
    omega

/-- An exponent goes on with the digits behind it. -/
theorem exists_exponent_append {mark run : List Char} {e : Int} (h : Exponent mark e)
    (hrun : ∀ c ∈ run, c.isDigit = true) : ∃ e', Exponent (mark ++ run) e' := by
  have hdigits : ∀ {ds : List Char}, isDigits ds = true → isDigits (ds ++ run) = true := by
    intro ds hds
    obtain ⟨hne, hall⟩ := isDigits_iff.mp hds
    exact isDigits_iff.mpr
      ⟨List.append_ne_nil_of_left_ne_nil hne _, List.forall_mem_append.mpr ⟨hall, hrun⟩⟩
  induction h with
  | unsigned hmark hds => exact ⟨_, .unsigned hmark (hdigits hds)⟩
  | plus hmark hds => exact ⟨_, .plus hmark (hdigits hds)⟩
  | minus hmark hds => exact ⟨_, .minus hmark (hdigits hds)⟩

theorem length_le_exponentPart {mark : List Char} {e : Int} (h : Exponent mark e)
    (rest : List Char) : mark.length ≤ (exponentPart (mark ++ rest)).length := by
  have hrun : ∀ c ∈ rest.takeWhile Char.isDigit, c.isDigit = true :=
    fun c hc ↦ List.mem_takeWhile_imp hc
  obtain ⟨e', he'⟩ := exists_exponent_append h hrun
  have hpart := exponentPart_exponent he' (ends_dropWhile Char.isDigit rest)
  rw [List.append_assoc, List.takeWhile_append_dropWhile] at hpart
  rw [hpart, List.length_append]
  exact Nat.le_add_right _ _

theorem length_le_numberPart {text cs : List Char} {v : Number} (h : NumberText text v)
    (hcs : text <+: cs) : text.length ≤ (numberPart cs).length := by
  induction h with
  | whole hds => exact (length_le_mantissaPart (.whole hds) hcs).trans (length_mantissaPart_le cs)
  | decimal hm _ => exact (length_le_mantissaPart hm hcs).trans (length_mantissaPart_le cs)
  | scientific hm he =>
    obtain ⟨rest, rfl⟩ := hcs
    rw [numberPart_scientific hm he, List.length_append, List.length_append]
    exact Nat.add_le_add_left (length_le_exponentPart he rest) _

theorem length_le_namePart {text cs : List Char} (h : IsName text) (hcs : text <+: cs) :
    text.length ≤ (namePart cs).length := by
  obtain ⟨c, rest, rfl, hc, hrest⟩ := h
  obtain ⟨after, rfl⟩ := hcs
  rw [List.cons_append, namePart, if_pos hc, List.length_cons, List.length_cons]
  exact Nat.succ_le_succ (length_le_takeWhile hrest (List.prefix_append rest after))

/-- Where a lexeme begins, one that is as long or longer is scanned. -/
theorem exists_scan?_of_begins {cs : List Char} {m : Lexeme} (h : m.Begins cs) :
    ∃ l after, scan? cs = some (l, after) ∧ m.text.length ≤ l.text.length := by
  obtain ⟨hm, hfront⟩ := h
  have hcs := hfront
  obtain ⟨rest, rfl⟩ := hcs
  cases m with
  | number text =>
    obtain ⟨v, hv⟩ := hm
    have hlength := length_le_numberPart hv hfront
    have hne : numberPart (text.toList ++ rest) ≠ [] :=
      List.ne_nil_of_length_pos ((List.length_pos_of_ne_nil (numberText_ne_nil hv)).trans_le hlength)
    refine ⟨_, _, scan?_of_numberPart_ne_nil hne, ?_⟩
    rwa [Lexeme.text, Lexeme.text, String.length_ofList, ← String.length_toList]
  | name text =>
    have hlength := length_le_namePart hm hfront
    have hne : namePart (text.toList ++ rest) ≠ [] :=
      List.ne_nil_of_length_pos ((List.length_pos_of_ne_nil hm.ne_nil).trans_le hlength)
    refine ⟨_, _, scan?_of_namePart_ne_nil (numberPart_isName hm) hne, ?_⟩
    rwa [Lexeme.text, Lexeme.text, String.length_ofList, ← String.length_toList]
  | times =>
    -- The one symbol that begins like a longer one.
    by_cases hends : Ends Lexeme.times.continues rest
    · exact ⟨.times, rest, scan?_of_isSpelled hm hends, Nat.le_refl _⟩
    · rcases rest with _ | ⟨c, rest⟩
      · exact absurd ends_nil hends
      · rw [ends_cons, Bool.not_eq_false] at hends
        obtain rfl : c = '*' := eq_of_beq hends
        have hpower : scan? (Lexeme.power.text.toList ++ rest) = some (.power, rest) :=
          scan?_of_not_isNameRest _ (by decide) (by decide)
        exact ⟨.power, rest, hpower, by decide⟩
  | _ => exact ⟨_, rest, scan?_of_isSpelled hm fun _ _ ↦ rfl, Nat.le_refl _⟩

/-! ## The scanner takes the longest lexeme -/

/-- Of two lexemes with one text none is the longer, and they are the same. -/
theorem IsSpelled.eq_of_text_eq {l m : Lexeme} (hl : l.IsSpelled) (hm : m.IsSpelled)
    (h : l.text = m.text) : l = m := by
  have hscan := scan?_of_isSpelled hl ends_nil
  rw [h, scan?_of_isSpelled hm ends_nil] at hscan
  exact (Prod.mk.inj (Option.some.inj hscan)).1.symm

theorem IsLongest.unique {l m : Lexeme} {cs : List Char} (hl : l.IsLongest cs)
    (hm : m.IsLongest cs) : l = m := by
  have hlength : l.text.toList.length = m.text.toList.length := by
    rw [String.length_toList, String.length_toList]
    exact Nat.le_antisymm (hm.longest l hl.begins) (hl.longest m hm.begins)
  have hprefix := List.prefix_of_prefix_length_le hl.begins.front hm.begins.front hlength.le
  refine hl.begins.spelled.eq_of_text_eq hm.begins.spelled ?_
  rw [← String.toList_inj]
  exact hprefix.eq_of_length hlength

theorem isLongest_of_scan? {cs after : List Char} {l : Lexeme} (h : scan? cs = some (l, after)) :
    l.IsLongest cs := by
  refine ⟨(begins_of_scan? h).1, ?_⟩
  intro m hm
  obtain ⟨l', after', hscan, hlength⟩ := exists_scan?_of_begins hm
  rw [h] at hscan
  obtain ⟨rfl, -⟩ := Prod.mk.inj (Option.some.inj hscan)
  exact hlength

/-- **Scanning.** The scanner takes the longest lexeme that the characters begin with. -/
theorem scan?_eq_some_iff {cs after : List Char} {l : Lexeme} :
    scan? cs = some (l, after) ↔ l.IsLongest cs ∧ after = cs.drop l.text.length := by
  constructor
  · intro h
    exact ⟨isLongest_of_scan? h, (begins_of_scan? h).2⟩
  · rintro ⟨hl, rfl⟩
    obtain ⟨m, after, hscan, -⟩ := exists_scan?_of_begins hl.begins
    obtain rfl := hl.unique (isLongest_of_scan? hscan)
    rw [hscan, (begins_of_scan? hscan).2]

theorem scan?_eq_none_iff {cs : List Char} : scan? cs = none ↔ ∀ l : Lexeme, ¬l.Begins cs := by
  constructor
  · intro h l hl
    obtain ⟨m, after, hscan, -⟩ := exists_scan?_of_begins hl
    rw [h] at hscan
    cases hscan
  · intro h
    by_contra hne
    obtain ⟨⟨l, after⟩, hscan⟩ := Option.ne_none_iff_exists'.mp hne
    exact h l (begins_of_scan? hscan).1

end Lexeme

end LineCommands
