import Mathlib
import LineCommands.Proofs.Dispatch.Course
import LineCommands.Proofs.Text.Words

/-!
# Splitting undoes joining

A line is joined from a keyword, a colon and words with any blanks between them, and splitting it
gives the keyword and the words back. Every line with a colon is joined in this way, so splitting is
said by joining alone. Of the line itself only these two are used: two lines that split alike are
dispatched alike, up to the place in the metadata where the line is told.
-/

namespace LineCommands

open Text

/-! ## Splitting -/

theorem splitLine_eq_error_iff {line : String} {f : Fault} :
    splitLine line = .error f ↔ ':' ∉ line.toList ∧ f = .missingSeparator line := by
  by_cases hcolon : ':' ∈ line.toList
  · obtain ⟨keyword, tokens, hline⟩ := exists_splitsInto hcolon
    rw [splitLine_of_splitsInto hline]
    simp [hcolon]
  · rw [splitLine_of_notMem hcolon]
    simp [hcolon, eq_comm]

theorem splitLine_eq_ok_iff {line keyword : String} {tokens : List String} :
    splitLine line = .ok (keyword, tokens) ↔ SplitsInto line keyword tokens := by
  refine ⟨fun h ↦ ?_, splitLine_of_splitsInto⟩
  have hcolon : ':' ∈ line.toList := by
    by_contra hcolon
    rw [splitLine_of_notMem hcolon] at h
    cases h
  obtain ⟨keyword', tokens', hline⟩ := exists_splitsInto hcolon
  rw [splitLine_of_splitsInto hline] at h
  obtain ⟨rfl, rfl⟩ := Prod.mk.inj (Except.ok.inj h)
  exact hline

/-- The tokens are the maximal runs of characters of the text that are not blank: each is a word,
and no other characters than blanks are left out. -/
structure AreWords (tokens : List String) (text : String) : Prop where
  spreads : Spreads (tokens.map String.toList) text.toList
  isWord : ∀ t ∈ tokens, IsWord t.toList
  complete : tokens.flatMap String.toList = text.toList.filter (!isBlank ·)

theorem areWords_of_spreads {tokens : List String} {text : String}
    (h : Spreads (tokens.map String.toList) text.toList) : AreWords tokens text where
  spreads := h
  isWord _ ht := h.isWord (List.mem_map_of_mem ht)
  complete := by rw [List.flatMap_def, h.flatten]

theorem eq_wordsOf_iff {tokens : List String} {text : String} :
    tokens = wordsOf text ↔ AreWords tokens text := by
  constructor
  · rintro rfl
    have hwords : (wordsOf text).map String.toList = words text.toList := by simp [wordsOf]
    exact areWords_of_spreads (hwords ▸ spreads_words _)
  · intro h
    rw [wordsOf, words_of_spreads h.spreads]
    simp

/-! ## Joining -/

/-- Words, each with the blanks behind it, one after the other. -/
def joined : List (String × String) → String
  | [] => ""
  | (word, gap) :: parts => word ++ (gap ++ joined parts)

/-- What is joined are words and blanks, and there are blanks between any two words. -/
structure WordsApart (parts : List (String × String)) : Prop where
  word : ∀ p ∈ parts, IsWord p.1.toList
  blank : ∀ p ∈ parts, ∀ c ∈ p.2.toList, isBlank c = true
  apart : ∀ p ∈ parts.dropLast, p.2 ≠ ""

theorem WordsApart.of_cons {p : String × String} {parts : List (String × String)}
    (h : WordsApart (p :: parts)) : WordsApart parts where
  word q hq := h.word q (List.mem_cons_of_mem p hq)
  blank q hq := h.blank q (List.mem_cons_of_mem p hq)
  apart := by
    cases parts with
    | nil => exact List.forall_mem_nil _
    | cons q parts => exact fun r hr ↦ h.apart r (List.mem_cons_of_mem p hr)

theorem WordsApart.ends {word gap : String} {parts : List (String × String)}
    (h : WordsApart ((word, gap) :: parts)) : Ends (!isBlank ·) (gap ++ joined parts).toList := by
  have hblank : ∀ c ∈ gap.toList, (!isBlank c) = false := fun c hc ↦ by
    rw [h.blank _ List.mem_cons_self c hc]
    rfl
  rw [String.toList_append]
  cases parts with
  | nil =>
    by_cases hgap : gap.toList = []
    · rw [hgap]
      exact ends_nil
    · exact ends_append hgap hblank
  | cons p parts =>
    refine ends_append (fun hgap ↦ ?_) hblank
    exact h.apart (word, gap) List.mem_cons_self (String.toList_eq_nil_iff.mp hgap)

/-- A joined text spreads its words, whatever blanks stand before the first of them. -/
theorem WordsApart.spreads {parts : List (String × String)} (h : WordsApart parts) {lead : String}
    (hlead : ∀ c ∈ lead.toList, isBlank c = true) :
    Spreads ((parts.map (·.1)).map String.toList) (lead ++ joined parts).toList := by
  induction parts generalizing lead with
  | nil => simpa [joined] using Spreads.blank hlead
  | cons p parts ih =>
    obtain ⟨word, gap⟩ := p
    have hrest := ih h.of_cons (h.blank _ List.mem_cons_self)
    have hspreads := Spreads.word hlead (h.word _ List.mem_cons_self) h.ends hrest
    rwa [← String.toList_append, ← String.toList_append] at hspreads

theorem WordsApart.splitsInto {parts : List (String × String)} (h : WordsApart parts)
    {keyword lead : String} (hkeyword : ':' ∉ keyword.toList)
    (hlead : ∀ c ∈ lead.toList, isBlank c = true) :
    SplitsInto (keyword ++ ":" ++ (lead ++ joined parts)) keyword (parts.map (·.1)) :=
  ⟨hkeyword, _, rfl, eq_wordsOf_iff.mpr (areWords_of_spreads (h.spreads hlead))⟩

/-! ## Lines that split alike -/

/-- The result of the same dispatch on another line. -/
def Result.onLine (line : String) (r : Result) : Result :=
  { r with metadata := r.metadata.map (Fields.set "line" (.text line)) }

/-- The result of a dispatch whose action returned `output`, from the rest of the result. -/
def Result.returning (r : Result) (output : Value) : Result :=
  { r with
    data := r.data ++ match output with
      | .absent => []
      | v => [("output", v)] }

/-- The registries have the same commands but for what their actions do. -/
def SameTemplates (registry registry' : Registry) : Prop :=
  ∀ keyword, (registry.get? keyword).map (·.template) = (registry'.get? keyword).map (·.template)

theorem SameTemplates.exists_get {registry registry' : Registry}
    (h : SameTemplates registry registry') {keyword : String} {c : Command}
    (hget : registry.get? keyword = some c) :
    ∃ c', registry'.get? keyword = some c' ∧ c'.template = c.template := by
  have htemplate := h keyword
  rw [hget, Option.map_some, eq_comm, Option.map_eq_some_iff] at htemplate
  exact htemplate

theorem SameTemplates.get_eq_none {registry registry' : Registry}
    (h : SameTemplates registry registry') {keyword : String}
    (hget : registry.get? keyword = none) : registry'.get? keyword = none := by
  have htemplate := h keyword
  rwa [hget, Option.map_none, eq_comm, Option.map_eq_none_iff] at htemplate

namespace Dispatch

/-- Two dispatches of one keyword with the same tokens, the second of them of `line'`. Either both
end without a call, and alike but for the line in the metadata; or both call the action of their
command with the same bindings, and the results are again alike but for the line and for what the
two actions did. -/
inductive DifferInLine (registry registry' : Registry) (keyword line' : String) :
    Except Escape Result → List Call → Except Escape Result → List Call → Prop
  | uncalled {outcome : Except Escape Result} :
      DifferInLine registry registry' keyword line' outcome [] (outcome.map (·.onLine line')) []
  | called {c c' : Command} {bindings : Bindings} {r : Result}
      (hget : registry.get? keyword = some c) (hget' : registry'.get? keyword = some c') :
      DifferInLine registry registry' keyword line'
        (((c.action.run bindings).mapError .action).map r.returning) [⟨c.action, bindings⟩]
        (((c'.action.run bindings).mapError .action).map (r.onLine line').returning)
        [⟨c'.action, bindings⟩]

variable {registry registry' : Registry} {warnTrailing : Bool} {line line' keyword : String}
  {tokens : List String}

theorem exists_addresses {c : Command} {tokens' : List String}
    (hregistry : SameTemplates registry registry') (hline : SplitsInto line keyword tokens)
    (hline' : SplitsInto line' keyword tokens) (h : Addresses registry line c tokens') :
    keyword = c.keyword ∧ tokens = tokens' ∧
      ∃ c', Addresses registry' line' c' tokens ∧ c'.keyword = c.keyword ∧
        c'.template = c.template := by
  obtain ⟨rfl, rfl⟩ := hline.unique h.split
  obtain ⟨c', hget', htemplate⟩ := hregistry.exists_get h.get
  exact ⟨rfl, rfl, c', hline'.addresses hget', Registry.keyword_of_get? hget', htemplate⟩

theorem ends_called {c : Command} {ds : Template} {b : Bound}
    (hline : Addresses registry line c tokens) (hcompile : Template.compile c.template = .ok ds)
    (hbind : ds.bind tokens = .ok b) :
    Ends registry warnTrailing line
      (((c.action.run b.bindings).mapError .action).map
        (success warnTrailing line c.keyword tokens b))
      [⟨c.action, b.bindings⟩] := by
  cases haction : c.action.run b.bindings with
  | error e => exact .action hline hcompile hbind haction
  | ok output => exact .success hline hcompile hbind haction

/-- When the tokens bind, both lines come to the call. Apart from the output of the action, a
success tells the line in its metadata only. -/
theorem exists_differInLine_of_bind {c : Command} {tokens' : List String} {ds : Template}
    {b : Bound} {outcome : Except Escape Result} {calls : List Call}
    (hregistry : SameTemplates registry registry') (hline : SplitsInto line keyword tokens)
    (hline' : SplitsInto line' keyword tokens) (haddress : Addresses registry line c tokens')
    (hcompile : Template.compile c.template = .ok ds) (hbind : ds.bind tokens' = .ok b)
    (h : Ends registry warnTrailing line outcome calls) :
    ∃ outcome' calls', Ends registry' warnTrailing line' outcome' calls' ∧
      DifferInLine registry registry' keyword line' outcome calls outcome' calls' := by
  obtain ⟨rfl, rfl, c', haddress', hkeyword, htemplate⟩ :=
    exists_addresses hregistry hline hline' haddress
  obtain ⟨rfl, rfl⟩ := h.unique (ends_called haddress hcompile hbind)
  refine ⟨_, _, ends_called haddress' (htemplate ▸ hcompile) hbind, ?_⟩
  have hget' := haddress'.get
  rw [hkeyword] at hget' ⊢
  exact .called (r := success warnTrailing line c.keyword tokens b .absent) haddress.get hget'

/-- Every way to end is open to all lines that split alike. -/
theorem Ends.exists_differInLine {outcome : Except Escape Result} {calls : List Call}
    (h : Ends registry warnTrailing line outcome calls)
    (hregistry : SameTemplates registry registry') (hline : SplitsInto line keyword tokens)
    (hline' : SplitsInto line' keyword tokens) :
    ∃ outcome' calls', Ends registry' warnTrailing line' outcome' calls' ∧
      DifferInLine registry registry' keyword line' outcome calls outcome' calls' := by
  cases h with
  | format hcolon => exact absurd hline.mem hcolon
  | command hsplit hget =>
    obtain ⟨rfl, rfl⟩ := hline.unique hsplit
    exact ⟨_, _, .command hline' (hregistry.get_eq_none hget), .uncalled⟩
  | template haddress hcompile =>
    obtain ⟨rfl, rfl, c', haddress', hkeyword, htemplate⟩ :=
      exists_addresses hregistry hline hline' haddress
    rw [← htemplate] at hcompile
    refine ⟨_, _, .template haddress' hcompile, ?_⟩
    rw [hkeyword]
    exact .uncalled
  | binding haddress hcompile hbind =>
    obtain ⟨rfl, rfl, c', haddress', hkeyword, htemplate⟩ :=
      exists_addresses hregistry hline hline' haddress
    rw [← htemplate] at hcompile
    refine ⟨_, _, .binding haddress' hcompile hbind, ?_⟩
    rw [hkeyword]
    exact .uncalled
  | unreadable haddress hcompile hbind =>
    obtain ⟨rfl, rfl, c', haddress', hkeyword, htemplate⟩ :=
      exists_addresses hregistry hline hline' haddress
    rw [← htemplate] at hcompile
    exact ⟨_, _, .unreadable haddress' hcompile hbind, .uncalled⟩
  | action haddress hcompile hbind haction =>
    exact exists_differInLine_of_bind hregistry hline hline' haddress hcompile hbind
      (.action haddress hcompile hbind haction)
  | success haddress hcompile hbind haction =>
    exact exists_differInLine_of_bind hregistry hline hline' haddress hcompile hbind
      (.success haddress hcompile hbind haction)

theorem differInLine_run {memo memo' : Memo Template} (hmemo : memo.Sound Template.compile)
    (hmemo' : memo'.Sound Template.compile) (hregistry : SameTemplates registry registry')
    (hline : SplitsInto line keyword tokens) (hline' : SplitsInto line' keyword tokens) :
    DifferInLine registry registry' keyword line'
      (run registry warnTrailing memo line).outcome (run registry warnTrailing memo line).calls
      (run registry' warnTrailing memo' line').outcome
      (run registry' warnTrailing memo' line').calls := by
  obtain ⟨outcome', calls', hends, hdiffer⟩ :=
    (ends_run hmemo registry warnTrailing line).exists_differInLine hregistry hline hline'
  obtain ⟨houtcome, hcalls⟩ := run_of_ends hmemo' hends
  rwa [houtcome, hcalls]

theorem DifferInLine.eq_map_onLine {outcome outcome' : Except Escape Result}
    {calls calls' : List Call}
    (h : DifferInLine registry registry keyword line' outcome calls outcome' calls') :
    outcome' = outcome.map (·.onLine line') ∧ calls' = calls := by
  cases h with
  | uncalled => exact ⟨rfl, rfl⟩
  | @called c c' bindings r hget hget' =>
    obtain rfl := Option.some.inj (hget.symm.trans hget')
    refine ⟨?_, rfl⟩
    cases c.action.run bindings <;> rfl

end Dispatch

/-- **Splitting.** A line is refused when it has no colon, and otherwise cut at the first one, with
the maximal runs of characters that are not blank behind it as its tokens. A keyword and words,
joined with any blanks between them, are found again. Two lines that split alike are dispatched
alike: the results differ in the line that they tell and in what the action itself does. -/
theorem splitLine_undoes_joining :
    (∀ line f, splitLine line = .error f ↔ ':' ∉ line.toList ∧ f = .missingSeparator line) ∧
    (∀ line keyword tokens, splitLine line = .ok (keyword, tokens) ↔
      ':' ∉ keyword.toList ∧ ∃ rest, line = keyword ++ ":" ++ rest ∧ AreWords tokens rest) ∧
    (∀ keyword lead parts, ':' ∉ keyword.toList → (∀ c ∈ lead.toList, isBlank c = true) →
      WordsApart parts →
      splitLine (keyword ++ ":" ++ (lead ++ joined parts)) = .ok (keyword, parts.map (·.1))) ∧
    ∀ line line' keyword tokens, splitLine line = .ok (keyword, tokens) →
      splitLine line' = .ok (keyword, tokens) →
      ∀ registry registry' warnTrailing memo memo', SameTemplates registry registry' →
        memo.Sound Template.compile → memo'.Sound Template.compile →
        Dispatch.DifferInLine registry registry' keyword line'
          (Dispatch.run registry warnTrailing memo line).outcome
          (Dispatch.run registry warnTrailing memo line).calls
          (Dispatch.run registry' warnTrailing memo' line').outcome
          (Dispatch.run registry' warnTrailing memo' line').calls := by
  refine ⟨fun _ _ ↦ splitLine_eq_error_iff, fun line keyword tokens ↦ ?_, ?_, ?_⟩
  · simp only [splitLine_eq_ok_iff, SplitsInto, eq_wordsOf_iff]
  · intro keyword lead parts hkeyword hlead hparts
    exact splitLine_of_splitsInto (hparts.splitsInto hkeyword hlead)
  · intro line line' keyword tokens hline hline' registry registry' warnTrailing memo memo'
      hregistry hmemo hmemo'
    exact Dispatch.differInLine_run hmemo hmemo' hregistry (splitLine_eq_ok_iff.mp hline)
      (splitLine_eq_ok_iff.mp hline')

/-- Blanks of three kinds, a colon in a token, and a command that counts in place of one that
echoes. -/
theorem splitLine_undoes_joining_wide_blanks :
    splitLine "t:\ta:b \u3000c" = .ok ("t", ["a:b", "c"]) ∧
      ∃ registry registry',
        registry = Registry.empty.add ⟨"t", "", "&array<2> xs", .builtin .echo⟩ ∧
        registry' = Registry.empty.add ⟨"t", "", "&array<2> xs", .builtin .count⟩ ∧
        Dispatch.DifferInLine registry registry' "t" "t:a:b c"
          (Dispatch.run registry true .empty "t:\ta:b \u3000c").outcome
          (Dispatch.run registry true .empty "t:\ta:b \u3000c").calls
          (Dispatch.run registry' true .empty "t:a:b c").outcome
          (Dispatch.run registry' true .empty "t:a:b c").calls := by
  obtain ⟨-, -, hjoin, hdiffer⟩ := splitLine_undoes_joining
  have hparts : WordsApart [("a:b", " \u3000"), ("c", "")] :=
    ⟨by simp [IsWord, isBlank, blankRanges], by simp [isBlank, blankRanges], by simp⟩
  have hline : splitLine "t:\ta:b \u3000c" = .ok ("t", ["a:b", "c"]) :=
    hjoin "t" "\t" _ (by decide) (by simp [isBlank, blankRanges]) hparts
  have hline' : splitLine "t:a:b c" = .ok ("t", ["a:b", "c"]) :=
    hjoin "t" "" [("a:b", " "), ("c", "")] (by decide) (by simp)
      ⟨by simp [IsWord, isBlank, blankRanges], by simp [isBlank, blankRanges], by simp⟩
  refine ⟨hline, _, _, rfl, rfl, hdiffer _ _ _ _ hline hline' _ _ true _ _ (fun keyword ↦ ?_)
    (Memo.sound_empty _) (Memo.sound_empty _)⟩
  by_cases hkeyword : "t" = keyword
  · subst hkeyword
    rfl
  · simp [Registry.get?, Registry.add, Registry.empty, putCommand, hkeyword]

end LineCommands
