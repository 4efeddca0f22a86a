import Mathlib.Data.Finset.Card
import Mathlib.Data.List.Induction
import LineCommands.Proofs.Dispatch.Course
import LineCommands.Proofs.Dispatch.Records

/-!
# Which compilations leave records

A template that is remembered leaves no records when it is compiled again. What is remembered after
any compilations is hard to say in general, because old results are forgotten; but as long as no
more than `Memo.capacity` different templates in order have been compiled, nothing is, and the memo
holds exactly these (`Memo.Holds`). Whether a compilation leaves records is then read off the
templates compiled before it.

A line has the template of its command compiled, if it has one (`Dispatch.source?`). The records of a
dispatch come from the parts of the interpreter that it goes through, and those of the compiler and
of the binder are taken out of them by their source.
-/

namespace LineCommands

open Log

/-! ## Memos that forget nothing -/

/-- The template is in order. -/
def Template.compiles (source : String) : Bool := (Template.compile source).isOk

theorem Template.compiles_iff {source : String} :
    compiles source = true ↔ ∃ ds, compile source = .ok ds := by
  rw [compiles]
  cases compile source with
  | ok ds => exact iff_of_true rfl ⟨ds, rfl⟩
  | error f =>
    refine iff_of_false Bool.false_ne_true ?_
    rintro ⟨ds, ⟨⟩⟩

/-- The number of different templates in order among these. -/
def Template.countCompiling (sources : List String) : Nat :=
  (sources.filter Template.compiles).toFinset.card

theorem Template.countCompiling_le {sources sources' : List String} (h : sources ⊆ sources') :
    countCompiling sources ≤ countCompiling sources' := by
  apply Finset.card_le_card
  intro t ht
  rw [List.mem_toFinset, List.mem_filter] at ht ⊢
  exact ⟨h ht.1, ht.2⟩

theorem Template.countCompiling_le_length (sources : List String) :
    countCompiling sources ≤ sources.length :=
  (List.toFinset_card_le _).trans (List.length_filter_le _ _)

namespace Memo

variable {memo : Memo Template} {sources : List String} {source : String}

/-- The memo after templates were compiled one after the other. -/
def afterAll (memo : Memo Template) (sources : List String) : Memo Template :=
  sources.foldl (fun memo source ↦ (memo.compile source).memo) memo

theorem afterAll_concat (memo : Memo Template) (sources : List String) (source : String) :
    memo.afterAll (sources ++ [source]) = ((memo.afterAll sources).compile source).memo := by
  rw [afterAll, List.foldl_append]
  rfl

/-- The templates that are remembered are those of the sources that are in order, each once. -/
structure Holds (memo : Memo Template) (sources : List String) : Prop where
  sound : memo.Sound Template.compile
  nodup : (memo.entries.map (·.1)).Nodup
  mem_iff : ∀ t, t ∈ memo.entries.map (·.1) ↔ t ∈ sources ∧ Template.compiles t = true

theorem holds_empty : Holds empty [] := ⟨sound_empty _, List.nodup_nil, by simp [empty]⟩

theorem find?_isSome_iff : (memo.find? source).isSome = true ↔ source ∈ memo.entries.map (·.1) := by
  rw [find?, Option.isSome_map, List.find?_isSome, List.mem_map]
  simp only [beq_iff_eq]

/-- As long as they are not too many, one more template is remembered beside the others. -/
theorem Holds.remember (h : Holds memo sources) {ds : Template}
    (hcompile : Template.compile source = .ok ds)
    (hfew : Template.countCompiling (sources ++ [source]) ≤ capacity) :
    Holds (memo.remember source ds) (sources ++ [source]) := by
  have hkeys : ((source, ds) :: memo.entries.filter (·.1 != source)).map (·.1)
      = source :: (memo.entries.map (·.1)).filter (· != source) := by
    rw [List.map_cons, List.filter_map]
    rfl
  have hnodup : (source :: (memo.entries.map (·.1)).filter (· != source)).Nodup := by
    refine List.nodup_cons.mpr ⟨fun hmem ↦ ?_, h.nodup.filter _⟩
    simpa using (List.mem_filter.mp hmem).2
  have hmem : ∀ t, t ∈ source :: (memo.entries.map (·.1)).filter (· != source) ↔
      t ∈ sources ++ [source] ∧ Template.compiles t = true := by
    intro t
    rw [List.mem_cons, List.mem_filter, h.mem_iff, List.mem_append, List.mem_singleton, bne_iff_ne]
    by_cases ht : t = source
    · subst ht
      exact iff_of_true (Or.inl rfl) ⟨Or.inr rfl, Template.compiles_iff.mpr ⟨ds, hcompile⟩⟩
    · simp [ht]
  -- So many entries are there as different templates, and none has to be forgotten.
  have hlength : ((source, ds) :: memo.entries.filter (·.1 != source)).length ≤ capacity := by
    rw [← List.length_map (·.1), hkeys, ← List.toFinset_card_of_nodup hnodup]
    refine (Finset.card_le_card fun t ht ↦ ?_).trans hfew
    rw [List.mem_toFinset] at ht ⊢
    exact List.mem_filter.mpr ((hmem t).mp ht)
  have hentries : (memo.remember source ds).entries
      = (source, ds) :: memo.entries.filter (·.1 != source) := List.take_of_length_le hlength
  refine ⟨h.sound.remember hcompile, ?_, fun t ↦ ?_⟩
  · rw [hentries, hkeys]
    exact hnodup
  · rw [hentries, hkeys]
    exact hmem t

theorem Holds.memo_compile (h : Holds memo sources)
    (hfew : Template.countCompiling (sources ++ [source]) ≤ capacity) :
    Holds (memo.compile source).memo (sources ++ [source]) := by
  rw [Memo.compile]
  cases hfind : memo.find? source with
  | some ds => exact h.remember (h.sound.find? hfind) hfew
  | none =>
    cases hcompile : Template.compile source with
    | ok ds => exact h.remember hcompile hfew
    | error f =>
      refine ⟨h.sound, h.nodup, fun t ↦ ?_⟩
      have hbad : Template.compiles source = false := by rw [Template.compiles, hcompile]; rfl
      rw [h.mem_iff, List.mem_append, List.mem_singleton]
      refine and_congr_left fun hgood ↦ (or_iff_left ?_).symm
      rintro rfl
      rw [hbad] at hgood
      cases hgood

/-- **Memos.** If no more different templates in order are compiled than the memo can hold, it holds
them all. -/
theorem holds_afterAll (hfew : Template.countCompiling sources ≤ capacity) :
    Holds (empty.afterAll sources) sources := by
  induction sources using List.reverseRecOn with
  | nil => exact holds_empty
  | append_singleton sources source ih =>
    rw [afterAll_concat]
    have hbefore := Template.countCompiling_le (List.subset_append_left sources [source])
    exact (ih (hbefore.trans hfew)).memo_compile hfew

theorem Holds.records_compile (h : Holds memo sources) (source : String) :
    (memo.compile source).records
      = if source ∈ sources ∧ Template.compiles source = true then []
        else Template.compileRecords source := by
  have hheld : (source ∈ sources ∧ Template.compiles source = true) ↔
      (memo.find? source).isSome = true := by
    rw [find?_isSome_iff, h.mem_iff]
  rw [if_congr hheld rfl rfl, Memo.compile]
  cases memo.find? source with
  | some ds => rfl
  | none =>
    cases Template.compile source with
    | ok ds => rfl
    | error f => rfl

end Memo

/-! ## Records by their source -/

/-- The records that come from this part of the interpreter. -/
def Log.ofSource (source : Log.Source) (records : List Record) : List Record :=
  records.filter (·.source == source)

namespace Log

variable {source : Log.Source} {records : List Record}

@[simp] theorem ofSource_append (more : List Record) :
    ofSource source (records ++ more) = ofSource source records ++ ofSource source more :=
  List.filter_append _ _

theorem ofSource_eq_nil (h : ∀ r ∈ records, r.source ≠ source) : ofSource source records = [] :=
  List.filter_eq_nil_iff.mpr fun r hr ↦ by simpa using h r hr

theorem ofSource_eq_self (h : ∀ r ∈ records, r.source = source) :
    ofSource source records = records :=
  List.filter_eq_self.mpr fun r hr ↦ by simpa using h r hr

end Log

theorem Memo.source_of_mem_compile {memo : Memo Template} {template : String} {r : Record}
    (h : r ∈ (memo.compile template).records) : r.source = .template := by
  rw [Memo.compile] at h
  cases hfind : memo.find? template with
  | some ds => rw [hfind] at h; cases h
  | none =>
    rw [hfind] at h
    cases hcompile : Template.compile template with
    | ok ds => rw [hcompile] at h; exact source_of_mem_compileRecords h
    | error f => rw [hcompile] at h; exact source_of_mem_compileRecords h

namespace Template

theorem ofSource_binder_bindRecordsFrom (bound : Bindings) (consumed : Nat) (ds : Template)
    (tokens : List String) :
    ofSource .binder (bindRecordsFrom bound consumed ds tokens)
      = match bindFrom bound consumed ds tokens with
        | .ok b => b.trailingRecords
        | .error _ => [] := by
  induction ds generalizing bound consumed tokens with
  | nil => exact ofSource_eq_self fun r hr ↦ source_of_mem_trailingRecords hr
  | cons d ds ih =>
    have htake : ofSource .binder (d.takeRecords bound) = [] :=
      ofSource_eq_nil fun r hr ↦ by rw [source_of_mem_takeRecords hr]; decide
    rw [bindRecordsFrom, bindFrom, ofSource_append, htake, List.nil_append]
    cases d.take bound consumed tokens with
    | error e => rfl
    | ok taken => exact ih _ _ _

theorem ofSource_binder_bindRecords (ds : Template) (tokens : List String) :
    ofSource .binder (ds.bindRecords tokens)
      = match ds.bind tokens with
        | .ok b => b.trailingRecords
        | .error _ => [] :=
  ofSource_binder_bindRecordsFrom [] 0 ds tokens

theorem ofSource_template_bindRecordsFrom (bound : Bindings) (consumed : Nat) (ds : Template)
    (tokens : List String) : ofSource .template (bindRecordsFrom bound consumed ds tokens) = [] := by
  induction ds generalizing bound consumed tokens with
  | nil => exact ofSource_eq_nil fun r hr ↦ by rw [source_of_mem_trailingRecords hr]; decide
  | cons d ds ih =>
    have htake : ofSource .template (d.takeRecords bound) = [] :=
      ofSource_eq_nil fun r hr ↦ by rw [source_of_mem_takeRecords hr]; decide
    rw [bindRecordsFrom, ofSource_append, htake, List.nil_append]
    cases d.take bound consumed tokens with
    | error e => rfl
    | ok taken => exact ih _ _ _

end Template

/-! ## Dispatches -/

namespace Dispatch

variable {registry : Registry} {warnTrailing : Bool} {line : String}

/-- The template that a line has compiled: that of its command, if it has one. -/
def source? (registry : Registry) (line : String) : Option String :=
  match splitLine line with
  | .ok (keyword, _) => (registry.get? keyword).map (·.template)
  | .error _ => none

theorem memo_run (registry : Registry) (warnTrailing : Bool) (memo : Memo Template)
    (line : String) :
    (run registry warnTrailing memo line).memo
      = (source? registry line).elim memo fun t ↦ (memo.compile t).memo := by
  rw [run, source?]
  cases splitLine line with
  | error f => rfl
  | ok split =>
    simp only
    cases registry.get? split.1 with
    | none => rfl
    | some c => exact memo_runCommand warnTrailing line split.2 c memo

theorem ofSource_template_runCommand (warnTrailing : Bool) (line : String) (tokens : List String)
    (c : Command) (memo : Memo Template) :
    ofSource .template (runCommand warnTrailing line tokens c memo).records
      = (memo.compile c.template).records := by
  have hcompile : ofSource .template (memo.compile c.template).records
      = (memo.compile c.template).records :=
    ofSource_eq_self fun r hr ↦ Memo.source_of_mem_compile hr
  have hbind : ∀ ds : Template, ofSource .template (ds.bindRecords tokens) = [] :=
    fun ds ↦ ds.ofSource_template_bindRecordsFrom [] 0 tokens
  have hend : ∀ r : Record, r.source = .dispatcher → ofSource .template [r] = [] := by
    intro r hr
    refine ofSource_eq_nil fun r' hr' ↦ ?_
    rw [List.mem_singleton.mp hr', hr]
    decide
  simp only [runCommand]
  split
  · rw [ofSource_append, hcompile, hend _ rfl, List.append_nil]
  · split
    · rw [ofSource_append, ofSource_append, hcompile, hbind, hend _ rfl, List.append_nil,
        List.append_nil]
    · rw [ofSource_append, hcompile, hbind, List.append_nil]
    · split
      · rw [ofSource_append, hcompile, hbind, List.append_nil]
      · rw [ofSource_append, ofSource_append, hcompile, hbind, hend _ rfl, List.append_nil,
          List.append_nil]

/-- What the compiler logs during a dispatch are the records of the one compilation. -/
theorem ofSource_template_run (registry : Registry) (warnTrailing : Bool) (memo : Memo Template)
    (line : String) :
    ofSource .template (run registry warnTrailing memo line).records
      = (source? registry line).elim [] fun t ↦ (memo.compile t).records := by
  rw [run, source?]
  cases splitLine line with
  | error f => rfl
  | ok split =>
    simp only
    cases registry.get? split.1 with
    | none => rfl
    | some c => exact ofSource_template_runCommand warnTrailing line split.2 c memo

/-- The tokens of the line bind, with this outcome. -/
def Binds (registry : Registry) (line : String) (b : Bound) : Prop :=
  ∃ c tokens ds, Addresses registry line c tokens ∧ Template.compile c.template = .ok ds ∧
    ds.bind tokens = .ok b

theorem Binds.unique {b b' : Bound} (h : Binds registry line b) (h' : Binds registry line b') :
    b = b' := by
  obtain ⟨c, tokens, ds, hline, hcompile, hbind⟩ := h
  obtain ⟨c', tokens', ds', hline', hcompile', hbind'⟩ := h'
  obtain ⟨rfl, rfl⟩ := hline.unique hline'
  obtain rfl := Except.ok.inj (hcompile.symm.trans hcompile')
  exact Except.ok.inj (hbind.symm.trans hbind')

/-- The command and the tokens of a line decide whether it binds. -/
theorem binds_iff_of_addresses {c : Command} {tokens : List String}
    (hline : Addresses registry line c tokens) {b : Bound} :
    Binds registry line b ↔ ∃ ds, Template.compile c.template = .ok ds ∧ ds.bind tokens = .ok b := by
  constructor
  · rintro ⟨c', tokens', ds, hline', hcompile, hbind⟩
    obtain ⟨rfl, rfl⟩ := hline.unique hline'
    exact ⟨ds, hcompile, hbind⟩
  · rintro ⟨ds, hcompile, hbind⟩
    exact ⟨c, tokens, ds, hline, hcompile, hbind⟩

theorem ofSource_binder_runCommand {memo : Memo Template} (hmemo : memo.Sound Template.compile)
    (warnTrailing : Bool) (line : String) (tokens : List String) (c : Command) :
    ofSource .binder (runCommand warnTrailing line tokens c memo).records
      = match Template.compile c.template with
        | .error _ => []
        | .ok ds =>
          match ds.bind tokens with
          | .ok b => b.trailingRecords
          | .error _ => [] := by
  have hcompiler : ofSource .binder (memo.compile c.template).records = [] :=
    ofSource_eq_nil fun r hr ↦ by rw [Memo.source_of_mem_compile hr]; decide
  have hfailure : ∀ f, ofSource .binder [failureRecord line f] = [] := fun f ↦ rfl
  have hsuccess : ∀ bindings, ofSource .binder [successRecord c.keyword bindings] = [] :=
    fun bindings ↦ rfl
  simp only [runCommand, hmemo.outcome_compile]
  cases Template.compile c.template with
  | error f => simp only [ofSource_append, hcompiler, hfailure, List.append_nil]
  | ok ds =>
    have hbinder := ds.ofSource_binder_bindRecords tokens
    dsimp only
    cases hbind : ds.bind tokens with
    | error e =>
      rw [hbind] at hbinder
      cases e with
      | fault f => simp only [ofSource_append, hcompiler, hbinder, hfailure, List.append_nil]
      | unreadableFloat t => simp only [ofSource_append, hcompiler, hbinder, List.append_nil]
    | ok b =>
      rw [hbind] at hbinder
      dsimp only
      cases c.action.run b.bindings with
      | error e => simp only [ofSource_append, hcompiler, hbinder, List.nil_append]
      | ok output =>
        simp only [ofSource_append, hcompiler, hbinder, hsuccess, List.nil_append, List.append_nil]

theorem ofSource_binder_run {memo : Memo Template} (hmemo : memo.Sound Template.compile)
    (registry : Registry) (warnTrailing : Bool) (line : String) :
    (∀ b, Binds registry line b →
      ofSource .binder (run registry warnTrailing memo line).records = b.trailingRecords) ∧
    ((∀ b, ¬Binds registry line b) →
      ofSource .binder (run registry warnTrailing memo line).records = []) := by
  constructor
  · rintro b ⟨c, tokens, ds, hline, hcompile, hbind⟩
    rw [run_of_addresses memo hline, ofSource_binder_runCommand hmemo]
    simp only [hcompile, hbind]
  intro hnone
  by_cases hcolon : ':' ∈ line.toList
  · obtain ⟨keyword, tokens, hline⟩ := exists_splitsInto hcolon
    cases hget : registry.get? keyword with
    | none =>
      rw [run, splitLine_of_splitsInto hline]
      simp only [hget]
      rfl
    | some c =>
      have haddress := hline.addresses hget
      simp only [binds_iff_of_addresses haddress] at hnone
      rw [run_of_addresses memo haddress, ofSource_binder_runCommand hmemo]
      cases hcompile : Template.compile c.template with
      | error f => rfl
      | ok ds =>
        dsimp only
        cases hbind : ds.bind tokens with
        | error e => rfl
        | ok b => exact absurd ⟨ds, hcompile, hbind⟩ (hnone b)
  · rw [run, splitLine_of_notMem hcolon]
    rfl

end Dispatch

end LineCommands
