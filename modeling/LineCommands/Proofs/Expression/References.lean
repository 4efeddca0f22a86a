import Mathlib
import LineCommands.Proofs.Expression.Locality
import LineCommands.Proofs.Expression.Printing
import LineCommands.Proofs.Expression.Viability
import LineCommands.Proofs.Template.Validity

/-!
# References to names

The names that a size refers to are collected from its trimmed text, and evaluating looks names up
in the tree. Both see the name tokens of the text and nothing else. For the tree this is what is met
on a walk. The trimmed text has the same tokens at other places (`exists_tokensFrom_of_append`), for
no token has a blank in it, and the tree depends on the lexemes alone (`Expr.ofTokens_congr`).
-/

namespace LineCommands

open Text

/-! ## Trees of the same lexemes -/

theorem Lexeme.numbersShort_of_items {ls : List Lexeme} {is : List Item}
    (h : items ls = is.map some) : NumbersShort ls := by
  intro text htext hdigits
  have hmem : item? (.number text) ∈ items ls :=
    List.mem_map_of_mem (List.mem_filter.mpr ⟨htext, rfl⟩)
  rw [h] at hmem
  obtain ⟨i, -, hi⟩ := List.mem_map.mp hmem
  by_contra hlong
  have hread := readNumber?_of_isDigits hdigits
  rw [String.ofList_toList, if_neg hlong] at hread
  rw [item?, hread] at hi
  cases hi

/-- The tree depends on the lexemes alone, and not on where they stand. -/
theorem Expr.ofTokens_congr {ts us : List Token} {e : Expr}
    (hspelled : ∀ t ∈ ts, t.lexeme.IsSpelled) (h : ofTokens ts = .ok e)
    (hus : us.map (·.lexeme) = ts.map (·.lexeme)) : ofTokens us = .ok e := by
  have hnumbers : NumbersWritten ts := by
    rintro ⟨l, position⟩ ht text rfl
    exact hspelled _ ht
  obtain ⟨used, rfl, hderives⟩ := Form.sound hnumbers _ (ofTokens_eq_ok_iff.mp h)
  rw [List.append_nil] at h hus
  have hshort := Lexeme.numbersShort_of_items (items_of_ofTokens h)
  have hread : (Form.chain .sum).read (us ++ []) = .ok (e, []) :=
    read_of_derives hderives hshort hus (Form.stops_nil _)
  rw [List.append_nil] at hread
  exact ofTokens_eq_ok_iff.mpr hread

/-! ## Blanks around a text -/

theorem Mantissa.not_isBlank {text ds : List Char} {places : Nat} (h : Mantissa text ds places) :
    ∀ c ∈ text, isBlank c = false := by
  cases h with
  | whole h => exact fun c hc ↦ isBlank_of_isDigit ((isDigits_iff.mp h).2 c hc)
  | point hwhole hfraction _ =>
    refine List.forall_mem_append.mpr ⟨?_, List.forall_mem_cons.mpr ⟨by decide, ?_⟩⟩
    · exact fun c hc ↦ isBlank_of_isDigit (hwhole c hc)
    · exact fun c hc ↦ isBlank_of_isDigit (hfraction c hc)

theorem Exponent.not_isBlank {mark : List Char} {e : Int} (h : Exponent mark e) :
    ∀ c ∈ mark, isBlank c = false := by
  have hletter : ∀ {c : Char}, c = 'e' ∨ c = 'E' → isBlank c = false := by
    rintro c (rfl | rfl) <;> decide
  have hdigits : ∀ {ds : List Char}, isDigits ds = true → ∀ c ∈ ds, isBlank c = false :=
    fun h c hc ↦ isBlank_of_isDigit ((isDigits_iff.mp h).2 c hc)
  cases h with
  | unsigned hc h => exact List.forall_mem_cons.mpr ⟨hletter hc, hdigits h⟩
  | plus hc h =>
    exact List.forall_mem_cons.mpr
      ⟨hletter hc, List.forall_mem_cons.mpr ⟨by decide, hdigits h⟩⟩
  | minus hc h =>
    exact List.forall_mem_cons.mpr
      ⟨hletter hc, List.forall_mem_cons.mpr ⟨by decide, hdigits h⟩⟩

theorem NumberText.not_isBlank {text : List Char} {v : Number} (h : NumberText text v) :
    ∀ c ∈ text, isBlank c = false := by
  cases h with
  | whole h => exact (Mantissa.whole h).not_isBlank
  | decimal h _ => exact h.not_isBlank
  | scientific hm he => exact List.forall_mem_append.mpr ⟨hm.not_isBlank, he.not_isBlank⟩

namespace Lexeme

variable {l : Lexeme} {cs after : List Char}

theorem IsSpelled.not_isBlank (h : l.IsSpelled) : ∀ c ∈ l.text.toList, isBlank c = false := by
  cases l with
  | number text =>
    obtain ⟨v, hv⟩ := h
    exact hv.not_isBlank
  | name text =>
    obtain ⟨c, cs, heq, hc, hcs⟩ := h
    rw [Lexeme.text, heq]
    refine List.forall_mem_cons.mpr ⟨?_, fun d hd ↦ isBlank_of_isPlainWordChar (hcs d hd)⟩
    exact isBlank_of_isPlainWordChar (isNameRest_of_isNameStart hc)
  | sign s => cases s <;> exact List.forall_mem_singleton.mpr (by decide)
  | power =>
    exact List.forall_mem_cons.mpr ⟨by decide, List.forall_mem_singleton.mpr (by decide)⟩
  | _ => exact List.forall_mem_singleton.mpr (by decide)

theorem Begins.of_append (hafter : ∀ c ∈ after, isBlank c = true) (h : l.Begins (cs ++ after)) :
    l.Begins cs := by
  refine ⟨h.spelled, ?_⟩
  rcases List.prefix_or_prefix_of_prefix h.front (List.prefix_append cs after) with hfront | hcs
  · exact hfront
  · obtain ⟨more, hmore⟩ := hcs
    have hblank : more <+: after := by
      rw [← List.prefix_append_right_inj cs, hmore]
      exact h.front
    have hnil : more = [] := by
      refine List.eq_nil_iff_forall_not_mem.mpr fun c hc ↦ ?_
      have hnot := h.spelled.not_isBlank c (hmore ▸ List.mem_append_right cs hc)
      rw [hafter c (hblank.subset hc)] at hnot
      cases hnot
    rw [← hmore, hnil, List.append_nil]

/-- Blanks at the end of a text do not matter to the lexeme in front. -/
theorem scan?_append_of_isBlank (hafter : ∀ c ∈ after, isBlank c = true) :
    scan? (cs ++ after) = (scan? cs).map fun found ↦ (found.1, found.2 ++ after) := by
  have hbegins : ∀ m : Lexeme, m.Begins (cs ++ after) ↔ m.Begins cs := fun m ↦
    ⟨Begins.of_append hafter, fun h ↦ ⟨h.spelled, h.front.trans (List.prefix_append cs after)⟩⟩
  cases hscan : scan? cs with
  | none =>
    refine scan?_eq_none_iff.mpr fun m hm ↦ ?_
    exact scan?_eq_none_iff.mp hscan m ((hbegins m).mp hm)
  | some found =>
    obtain ⟨m, rest⟩ := found
    obtain ⟨hlongest, rfl⟩ := scan?_eq_some_iff.mp hscan
    have hlength : m.text.length ≤ cs.length := by
      rw [← String.length_toList]
      exact hlongest.begins.front.length_le
    refine scan?_eq_some_iff.mpr ⟨⟨(hbegins m).mpr hlongest.begins, fun m' hm' ↦ ?_⟩, ?_⟩
    · exact hlongest.longest m' ((hbegins m').mp hm')
    · rw [List.drop_append_of_le_length hlength]

end Lexeme

/-- Without the blanks at its end, and at another place, a text is cut into the same lexemes. -/
theorem exists_tokensFrom_of_append {cs after : List Char} {ts : List Token} {position : Nat}
    (hafter : ∀ c ∈ after, isBlank c = true) (h : tokensFrom position (cs ++ after) = .ok ts)
    (place : Nat) :
    ∃ us, tokensFrom place cs = .ok us ∧ us.map (·.lexeme) = ts.map (·.lexeme) := by
  induction hlength : cs.length using Nat.strong_induction_on generalizing cs ts position place with
  | _ n ih =>
  subst hlength
  cases cs with
  | nil =>
    rw [List.nil_append, ← List.append_nil after, tokensFrom_of_isBlank hafter, tokensFrom] at h
    obtain rfl := Except.ok.inj h
    exact ⟨[], by rw [tokensFrom], rfl⟩
  | cons c cs =>
    have hscan : Lexeme.scan? (c :: cs ++ after) = _ := Lexeme.scan?_append_of_isBlank hafter
    cases hfound : Lexeme.scan? (c :: cs) with
    | some found =>
      obtain ⟨l, rest⟩ := found
      rw [hfound] at hscan
      rw [tokensFrom_of_scan? hscan] at h
      obtain ⟨later, hlater, rfl⟩ := map_eq_ok.mp h
      obtain ⟨us, hus, hlexemes⟩ :=
        ih rest.length (Lexeme.length_lt_of_scan? hfound) hlater (place + l.text.length) rfl
      refine ⟨⟨l, place⟩ :: us, ?_, congrArg (l :: ·) hlexemes⟩
      rw [tokensFrom_of_scan? hfound, hus]
      rfl
    | none =>
      rw [hfound] at hscan
      rw [List.cons_append, tokensFrom] at h
      split at h
      · next hsome => rw [← List.cons_append, hscan] at hsome; cases hsome
      · split at h
        · next hblank =>
          obtain ⟨us, hus, hlexemes⟩ := ih cs.length (by simp) h (place + 1) rfl
          refine ⟨us, ?_, hlexemes⟩
          rw [← List.singleton_append, tokensFrom_of_isBlank (List.forall_mem_singleton.mpr hblank)]
          exact hus
        · cases h

namespace Expr

variable {source : String} {e : Expr}

theorem parse_trimmed (h : parse source = .ok e) : parse (trimmed source) = .ok e := by
  obtain ⟨ts, hts, he⟩ := parse_eq_ok_iff.mp h
  have hspelled : ∀ t ∈ ts, t.lexeme.IsSpelled :=
    fun t ht ↦ Lexeme.Occurs.isSpelled ⟨source, ts, hts, t, ht, rfl⟩
  obtain ⟨before, after, hbefore, hafter, hsource⟩ := padded_trim source.toList
  rw [tokenize, hsource, tokensFrom_of_isBlank hbefore] at hts
  obtain ⟨us, hus, hlexemes⟩ := exists_tokensFrom_of_append hafter hts 0
  refine parse_eq_ok_iff.mpr ⟨us, ?_, ofTokens_congr hspelled he hlexemes⟩
  rw [tokenize, trimmed, String.toList_ofList]
  exact hus

theorem mem_referencedNames_of_parse (h : parse source = .ok e) {n : String} :
    n ∈ referencedNames source ↔ n ∈ e.names := by
  rw [mem_referencedNames_iff]
  constructor
  · rintro ⟨e', he', hn⟩
    obtain rfl := Except.ok.inj ((parse_trimmed h).symm.trans he')
    exact hn
  · exact fun hn ↦ ⟨e, parse_trimmed h, hn⟩

/-- **Nothing is lost in reading.** On a walk through the tree of a text its tokens are met one
after the other, without the parentheses, and the numbers as their values. So the names of the tree
are the texts of its name tokens, and so are the names that the text refers to as a size, whole
number or not. A check that these come earlier sees every name that evaluating can look up: the
value depends on no other name, and no other name can be missed. -/
theorem parse_loses_no_token (source : String) (e : Expr) (h : parse source = .ok e) :
    ∃ ts, tokenize source = .ok ts ∧
      ((ts.map (·.lexeme)).filter (!·.isParenthesis)).map Lexeme.item? = e.walk.map some ∧
      (∀ n, n ∈ e.names ↔ .name n ∈ ts.map (·.lexeme)) ∧
      (∀ n, n ∈ referencedNames source ↔ .name n ∈ ts.map (·.lexeme)) ∧
      (∀ earlier, undefinedNames source earlier = [] ↔
        ∀ n, .name n ∈ ts.map (·.lexeme) → n ∈ earlier) ∧
      (∀ f g : String → Option Number, (∀ n, .name n ∈ ts.map (·.lexeme) → f n = g n) →
        e.evaluate f = e.evaluate g) ∧
      ∀ f n, e.evaluate f = .error (.unknownVariable n) → .name n ∈ ts.map (·.lexeme) := by
  obtain ⟨ts, hts, he⟩ := parse_eq_ok_iff.mp h
  have hnames : ∀ n, n ∈ e.names ↔ .name n ∈ ts.map (·.lexeme) :=
    fun n ↦ mem_names_of_ofTokens he
  have hreferenced : ∀ n, n ∈ referencedNames source ↔ .name n ∈ ts.map (·.lexeme) :=
    fun n ↦ (mem_referencedNames_of_parse h).trans (hnames n)
  refine ⟨ts, hts, items_of_ofTokens he, hnames, hreferenced, fun earlier ↦ ?_, fun f g hfg ↦ ?_,
    fun f n hn ↦ ?_⟩
  · simp only [undefinedNames_eq_nil_iff, hreferenced]
  · exact evaluate_congr fun n hn ↦ hfg n ((hnames n).mp hn)
  · exact (hnames n).mp (mem_names_of_evaluate hn).1

theorem parse_loses_no_token_group :
    ∃ e ts, parse " -(n - 007)*n " = .ok e ∧ tokenize " -(n - 007)*n " = .ok ts ∧
      ts.map (·.lexeme) = [.sign .minus, .opening, .name "n", .sign .minus, .number "007",
        .closing, .times, .name "n"] ∧
      e.walk = [.written (.sign .minus), .written (.name "n"), .written (.sign .minus),
        .number (.int 7), .written .times, .written (.name "n")] ∧
      (∀ n, n ∈ referencedNames " -(n - 007)*n " ↔ n = "n") ∧
      undefinedNames " -(n - 007)*n " ["m"] ≠ [] := by
  have hparse : parse " -(n - 007)*n " = .ok (.binary .mul (.signed .minus (.binary .sub
      (.name "n") (.number (.int 7)))) (.name "n")) := by cbv
  obtain ⟨ts, hts, -, -, hreferenced, hundefined, -⟩ := parse_loses_no_token _ _ hparse
  have hlexemes : ts.map (·.lexeme) = [.sign .minus, .opening, .name "n", .sign .minus,
      .number "007", .closing, .times, .name "n"] := by
    have htokens : tokenize " -(n - 007)*n " = .ok [⟨.sign .minus, 1⟩, ⟨.opening, 2⟩,
        ⟨.name "n", 3⟩, ⟨.sign .minus, 5⟩, ⟨.number "007", 7⟩, ⟨.closing, 10⟩, ⟨.times, 11⟩,
        ⟨.name "n", 12⟩] := by cbv
    obtain rfl := Except.ok.inj (hts.symm.trans htokens)
    rfl
  have hmem : ∀ n, .name n ∈ ts.map (·.lexeme) ↔ n = "n" := by
    intro n
    rw [hlexemes]
    simp
  refine ⟨_, ts, hparse, hts, hlexemes, rfl, fun n ↦ (hreferenced n).trans (hmem n), ?_⟩
  rw [Ne, hundefined]
  intro hall
  exact absurd (hall "n" ((hmem "n").mpr rfl)) (by decide)

end Expr

end LineCommands
