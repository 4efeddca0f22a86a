import LineCommands.CommandLine.Console
import LineCommands.Proofs.CommandLine.Program
import LineCommands.Proofs.Session.Warnings

/-!
# The log of the shell

Each record of the shell carries the number of the line that was dispatched when it was left. Lines
that are skipped count, so the numbers are those of the text as it stands; and since lines are
dispatched in order, the numbers in the log never go down. The records under one number are those of
the line as a step of a session (`LogsLine`): the binder tells the tokens that were left over, the
compiler warns about a template until it compiles.
-/

namespace LineCommands.CommandLine

open Log

/-! ## Numbers of lines -/

/-- The lines that are dispatched are numbered before the others are left out. -/
theorem dispatchedFrom_eq (number : Nat) (lines : List (List Char)) :
    dispatchedFrom number lines
      = ((lines.zipIdx number).filter fun p ↦ !isSkipped (Text.trim p.1)).map
          fun p ↦ (p.2, String.ofList (Text.trim p.1)) := by
  induction lines generalizing number with
  | nil => rfl
  | cons raw lines ih =>
    have hskip : ((Text.trim raw).isEmpty || (Text.trim raw).head? == some commentMark)
      = isSkipped (Text.trim raw) := rfl
    simp only [dispatchedFrom, hskip, List.zipIdx_cons, List.filter_cons, ih (number + 1)]
    cases isSkipped (Text.trim raw) with
    | true => rfl
    | false => rfl

theorem numbers_dispatched (text : String) : ((dispatched text).map (·.1)).Pairwise (· < ·) := by
  have hsublist : ((dispatched text).map (·.1)).Sublist
      (((Text.lines text.toList).zipIdx 1).map (·.2)) := by
    rw [dispatched, dispatchedFrom_eq, List.map_map]
    exact List.filter_sublist.map _
  refine List.Pairwise.sublist hsublist ?_
  rw [List.zipIdx_map_snd]
  exact List.pairwise_lt_range'

/-- The text has the line at this place, counted from one, and the line is not skipped. -/
structure IsLineOf (text : String) (number : Nat) (line : String) : Prop where
  counted : 0 < number
  stands : ∃ raw, (Text.lines text.toList)[number - 1]? = some raw ∧ line.toList = Text.trim raw
  kept : isSkipped line.toList = false

theorem isLineOf_of_mem {text : String} {number : Nat} {line : String}
    (h : (number, line) ∈ dispatched text) : IsLineOf text number line := by
  rw [dispatched, dispatchedFrom_eq] at h
  obtain ⟨⟨raw, n⟩, hraw, heq⟩ := List.mem_map.mp h
  obtain ⟨rfl, rfl⟩ := Prod.mk.inj heq
  obtain ⟨hmem, hkept⟩ := List.mem_filter.mp hraw
  obtain ⟨hle, hget⟩ := List.mk_mem_zipIdx_iff_le_and_getElem?_sub.mp hmem
  refine ⟨hle, ⟨raw, hget, String.toList_ofList⟩, ?_⟩
  rwa [String.toList_ofList, ← Bool.not_eq_true']

theorem upTo_prefix {α : Type} (p : α → Bool) (xs : List α) : upTo p xs <+: xs := by
  induction xs with
  | nil => exact List.prefix_refl _
  | cons x xs ih =>
    rw [upTo]
    split
    · exact ⟨xs, rfl⟩
    · exact List.cons_prefix_cons.mpr ⟨rfl, ih⟩

/-! ## Records of lines -/

/-- Lines as steps of a session. -/
def steps (lines : List (Nat × String)) : List Session.Step := lines.map fun l ↦ .run l.2

/-- What lines that are dispatched one after the other leave, each record with the number of its
line. -/
def logOf (s : Session) (lines : List (Nat × String)) : List (Nat × Record) :=
  (lines.zip (s.performAll (steps lines))).flatMap fun (l, p) ↦ p.records.map (l.1, ·)

/-- The records of a log that carry this number. -/
def recordsUnder (number : Nat) (log : List (Nat × Record)) : List Record :=
  (log.filter (·.1 == number)).map (·.2)

variable {mode : OutputMode} {stop : Bool} {session s : Session}

theorem logOf_cons (s : Session) (number : Nat) (line : String) (lines : List (Nat × String)) :
    logOf s ((number, line) :: lines)
      = (s.perform (.run line)).records.map (number, ·)
        ++ logOf (s.perform (.run line)).session lines := rfl

theorem logOf_append (s : Session) (before lines : List (Nat × String)) :
    logOf s (before ++ lines) = logOf s before ++ logOf (s.afterAll (steps before)) lines := by
  induction before generalizing s with
  | nil => rfl
  | cons l before ih =>
    obtain ⟨number, line⟩ := l
    rw [List.cons_append, logOf_cons, logOf_cons, ih, List.append_assoc]
    rfl

theorem mem_of_mem_logOf {lines : List (Nat × String)} {entry : Nat × Record}
    (h : entry ∈ logOf s lines) : entry.1 ∈ lines.map (·.1) := by
  obtain ⟨⟨l, p⟩, hmem, hentry⟩ := List.mem_flatMap.mp h
  obtain ⟨r, -, rfl⟩ := List.mem_map.mp hentry
  exact List.mem_map_of_mem (List.of_mem_zip hmem).1

/-- Where the numbers of the lines go up, those of the records do not go down. -/
theorem numbers_logOf (s : Session) {lines : List (Nat × String)}
    (h : (lines.map (·.1)).Pairwise (· < ·)) : ((logOf s lines).map (·.1)).Pairwise (· ≤ ·) := by
  induction lines generalizing s with
  | nil => exact .nil
  | cons l lines ih =>
    obtain ⟨number, line⟩ := l
    obtain ⟨hfirst, hrest⟩ := List.pairwise_cons.mp h
    have hsame : (((s.perform (.run line)).records.map (number, ·)).map (·.1))
        = List.replicate (s.perform (.run line)).records.length number := by
      rw [List.map_map]
      exact List.map_const'
    rw [logOf_cons, List.map_append, hsame]
    refine List.pairwise_append.mpr ⟨?_, ih _ hrest, fun n hn m hm ↦ ?_⟩
    · exact List.pairwise_replicate.mpr (Or.inr (Nat.le_refl number))
    · obtain rfl := (List.mem_replicate.mp hn).2
      obtain ⟨entry, hentry, rfl⟩ := List.mem_map.mp hm
      exact Nat.le_of_lt (hfirst _ (mem_of_mem_logOf hentry))

theorem recordsUnder_append (number : Nat) (log more : List (Nat × Record)) :
    recordsUnder number (log ++ more) = recordsUnder number log ++ recordsUnder number more := by
  rw [recordsUnder, List.filter_append, List.map_append]
  rfl

theorem recordsUnder_eq_nil {number : Nat} {lines : List (Nat × String)}
    (h : number ∉ lines.map (·.1)) : recordsUnder number (logOf s lines) = [] := by
  rw [recordsUnder, List.map_eq_nil_iff, List.filter_eq_nil_iff]
  intro entry hentry heq
  rw [beq_iff_eq] at heq
  exact h (heq ▸ mem_of_mem_logOf hentry)

theorem recordsUnder_map (number : Nat) (records : List Record) :
    recordsUnder number (records.map (number, ·)) = records := by
  induction records with
  | nil => rfl
  | cons r records ih => simpa [recordsUnder] using ih

theorem recordsUnder_logOf (s : Session) {before : List (Nat × String)} {number : Nat}
    {line : String} {after : List (Nat × String)}
    (h : ((before ++ (number, line) :: after).map (·.1)).Nodup) :
    recordsUnder number (logOf s (before ++ (number, line) :: after))
      = ((s.afterAll (steps before)).perform (.run line)).records := by
  rw [List.map_append, List.map_cons, List.nodup_append, List.nodup_cons] at h
  obtain ⟨-, ⟨hafter, -⟩, hbefore⟩ := h
  have hnot : number ∉ before.map (·.1) := by
    intro hmem
    exact hbefore number hmem number List.mem_cons_self rfl
  rw [logOf_append, logOf_cons, recordsUnder_append, recordsUnder_append, recordsUnder_eq_nil hnot,
    recordsUnder_eq_nil hafter, recordsUnder_map, List.nil_append, List.append_nil]

theorem records_shellFrom (hs : s.Alike session) (lines : List (Nat × String))
    (hresults : ∀ l ∈ reached session stop lines, ∃ r, HasResult session l.2 r) :
    (shellFrom mode stop s lines).records = logOf s (reached session stop lines) := by
  induction lines generalizing s with
  | nil => rfl
  | cons l lines ih =>
    obtain ⟨number, line⟩ := l
    rw [reached, upTo] at hresults ⊢
    by_cases hstop : (stop && lineFails session line) = true
    · rw [if_pos hstop] at hresults ⊢
      obtain ⟨r, hr⟩ : ∃ r, HasResult session line r :=
        hresults (number, line) List.mem_cons_self
      obtain ⟨text, htext⟩ := hr.exists_format mode
      rw [hr.lineFails] at hstop
      rw [shellFrom_cons (hr.runLine htext hs), if_pos hstop]
      rfl
    · rw [if_neg hstop] at hresults ⊢
      obtain ⟨hfirst, hrest⟩ := List.forall_mem_cons.mp hresults
      obtain ⟨r, hr⟩ : ∃ r, HasResult session line r := hfirst
      obtain ⟨text, htext⟩ := hr.exists_format mode
      rw [hr.lineFails] at hstop
      rw [shellFrom_cons (hr.runLine htext hs), if_neg hstop, logOf_cons]
      exact congrArg _ (ih (alike_runLine hs mode line) hrest)

/-! ## What is told about a line -/

/-- The templates that lines have compiled. -/
def compiledBy (registry : Registry) (lines : List (Nat × String)) : List String :=
  lines.filterMap fun l ↦ Dispatch.source? registry l.2

theorem sources_steps (registry : Registry) (lines : List (Nat × String)) :
    Session.sources registry (steps lines) = compiledBy registry lines := by
  induction lines with
  | nil => rfl
  | cons l lines ih =>
    rw [steps, List.map_cons, Session.sources, compiledBy, List.filterMap_cons]
    refine (congrArg _ ih).trans ?_
    rw [Session.Step.source?]
    cases Dispatch.source? registry l.2 with
    | none => rfl
    | some t => rfl

theorem registry_afterAll_steps (s : Session) (lines : List (Nat × String)) :
    (s.afterAll (steps lines)).registry = s.registry := by
  have hnone : (steps lines).filterMap Session.Step.command? = [] := by
    rw [steps, List.filterMap_map]
    exact List.filterMap_eq_nil_iff.mpr fun l _ ↦ rfl
  rw [Session.registry_afterAll, hnone]
  rfl

/-- The warning about tokens that are left over: how many there are, and which. -/
def leftOverRecord (tokens : List String) : Record :=
  let shown := (Value.list (tokens.map .text)).literal
  ⟨.warning, .binder, s!"Ignored {tokens.length} trailing argument(s): {shown}"⟩

theorem kept_trailingRecords (debug : Bool) (b : Bound) :
    kept debug b.trailingRecords = if b.trailing = [] then [] else [leftOverRecord b.trailing] := by
  rw [Bound.trailingRecords]
  cases b.trailing with
  | nil => rfl
  | cons token tokens => cases debug <;> rfl

/-- What a shell logs about a line after the earlier ones: what the dispatch of the line leaves, of
which the logger keeps what it is to keep. The binder tells the tokens that are left over if the line
binds, and nothing else, whether or not the result warns of them; and the compiler tells of the
template of the line what it tells after those of the earlier lines, as long as they are not too
many. -/
structure LogsLine (mode : OutputMode) (session : Session) (earlier : List (Nat × String))
    (line : String) (records : List Record) : Prop where
  step : records
    = kept mode.verbose ((session.afterAll (steps earlier)).perform (.run line)).records
  leftOver : ∀ b, Dispatch.Binds session.registry line b → b.trailing ≠ [] →
    ofSource .binder records = [leftOverRecord b.trailing]
  nothingLeft : (∀ b, Dispatch.Binds session.registry line b → b.trailing = []) →
    ofSource .binder records = []
  untemplated : Dispatch.source? session.registry line = none → ofSource .template records = []
  templated : Template.countCompiling (compiledBy session.registry earlier) ≤ Memo.capacity →
    ∀ t, Dispatch.source? session.registry line = some t →
      Template.Warns (compiledBy session.registry earlier) t (ofSource .template records)

theorem ofSource_kept (source : Source) (debug : Bool) (records : List Record) :
    ofSource source (kept debug records) = kept debug (ofSource source records) :=
  List.filter_comm _ _ records

theorem warns_kept {earlier : List String} {source : String} {records : List Record}
    (h : Template.Warns earlier source records) (debug : Bool) :
    Template.Warns earlier source (kept debug records) where
  known := by
    intro ds hmem hcompile
    rw [h.known ds hmem hcompile]
    rfl
  unknown := by
    intro hfailed
    obtain ⟨es, front, hscan, hfront, hwarnings⟩ := h.unknown hfailed
    refine ⟨es, front, hscan, hfront, ?_⟩
    rw [kept, List.filter_filter, ← hwarnings]
    exact List.filter_congr fun r _ ↦ by cases r.level == .warning <;> simp

/-- Every line that is dispatched in a session that began with nothing remembered is told like
this. -/
theorem logsLine (hmemo : session.memo = .empty) (mode : OutputMode)
    (earlier : List (Nat × String)) (line : String) :
    LogsLine mode session earlier line
      (kept mode.verbose ((session.afterAll (steps earlier)).perform (.run line)).records) := by
  have hregistry := registry_afterAll_steps session earlier
  have hsound : (session.afterAll (steps earlier)).memo.Sound Template.compile := by
    refine Session.sound_afterAll ?_ (steps earlier)
    rw [hmemo]
    exact Memo.sound_empty _
  have hmemo' : (session.afterAll (steps earlier)).memo
      = Memo.empty.afterAll (compiledBy session.registry earlier) := by
    rw [Session.memo_afterAll, hmemo, sources_steps]
  have hrun : ((session.afterAll (steps earlier)).perform (.run line)).records
      = (Dispatch.run session.registry (session.afterAll (steps earlier)).warnTrailing
          (session.afterAll (steps earlier)).memo line).records := by
    rw [← hregistry]
    rfl
  obtain ⟨hbinds, hnone⟩ := Dispatch.ofSource_binder_run hsound session.registry
    (session.afterAll (steps earlier)).warnTrailing line
  have htemplate := Session.ofSource_template_perform (session.afterAll (steps earlier)) (.run line)
  rw [hregistry] at htemplate
  refine ⟨rfl, ?_, ?_, ?_, ?_⟩
  · intro b hb htrailing
    rw [ofSource_kept, hrun, hbinds b hb, kept_trailingRecords, if_neg htrailing]
  · intro hnothing
    rw [ofSource_kept, hrun]
    by_cases hb : ∃ b, Dispatch.Binds session.registry line b
    · obtain ⟨b, hb⟩ := hb
      rw [hbinds b hb, kept_trailingRecords, if_pos (hnothing b hb)]
    · rw [hnone fun b h ↦ hb ⟨b, h⟩]
      rfl
  · intro hsource
    rw [ofSource_kept, htemplate, Session.Step.source?, hsource]
    rfl
  · intro hfew t ht
    rw [ofSource_kept, htemplate, Session.Step.source?, ht, hmemo']
    exact warns_kept ((Memo.holds_afterAll hfew).warns t) mode.verbose

/-! ## The whole program -/

/-- **The log of the shell.** With settings from which a registry can be made, and where no line that
the shell comes to makes an exception escape, each record that is written as JSON carries the number
of a line that the shell came to, and the numbers never go down. Under the number of a line, which
counts all lines of the text, stands what the dispatch of the line leaves: one warning about the
tokens that are left over if there are any, whether or not the settings ask for warnings in the
results, and warnings about the template of the line only until it compiles. -/
theorem shell_log_names_lines (w : World) (g : Globals) (mode : OutputMode) (stop : Bool)
    (source : Option String) (text : String) (settings : Settings) (session : Session)
    (hjson : g.logJson = true)
    (hload : Settings.load (sources w (g.options mode)) = .ok settings)
    (hopen : openSession settings = .ok session)
    (htext : sourceText? w (source.getD "-") = some text)
    (hresults : ∀ line ∈ shellLines session stop text, ∃ r, HasResult session line r) :
    ∃ log : List (Nat × Record),
      (wholeRun w g mode stop source).records = log.map (fun (n, r) ↦ (some n, r)) ∧
      (wholeRun w g mode stop source).recordLines = log.map (fun (n, r) ↦ recordAsJson (some n) r) ∧
      (log.map (·.1)).Pairwise (· ≤ ·) ∧
      (∀ entry ∈ log, entry.1 ∈ (reached session stop (dispatched text)).map (·.1)) ∧
      ∀ before number line after,
        reached session stop (dispatched text) = before ++ (number, line) :: after →
        IsLineOf text number line ∧ LogsLine mode session before line (recordsUnder number log) := by
  obtain ⟨settings', hload', hmode, -⟩ := Globals.exists_load hload mode
  obtain rfl := Except.ok.inj (hload'.symm.trans hload)
  have hfront : reached session stop (dispatched text) <+: dispatched text := upTo_prefix _ _
  have hnumbers := (numbers_dispatched text).sublist (hfront.sublist.map (·.1))
  have hrecords : (shell mode stop session text).records
      = logOf session (reached session stop (dispatched text)) := by
    refine records_shellFrom (alike_of_openSession hopen) _ fun l hl ↦ hresults l.2 ?_
    rw [← map_reached]
    exact List.mem_map_of_mem hl
  rw [wholeRun_of_load hload hmode hopen stop htext]
  have hverbose : settings'.verbose = mode.verbose := congrArg OutputMode.verbose hmode
  have hkept : (keepRecords settings' (shellCommand mode stop session text)).records
      = ((logOf session (reached session stop (dispatched text))).filter
          fun r ↦ mode.verbose || r.2.level == .warning).map fun (n, r) ↦ (some n, r) := by
    rw [keepRecords, shellCommand, hrecords, hverbose]
    exact List.filter_map
  have hform : (keepRecords settings' (shellCommand mode stop session text)).recordsAsJson = true :=
    (Globals.logJson_of_load hload).trans hjson
  refine ⟨(logOf session (reached session stop (dispatched text))).filter
    fun r ↦ mode.verbose || r.2.level == .warning, ?_, ?_, ?_, ?_, ?_⟩
  · exact hkept
  · rw [Outcome.recordLines, hform, hkept, List.map_map]
    rfl
  · exact (numbers_logOf session hnumbers).sublist (List.filter_sublist.map _)
  · exact fun entry hentry ↦ mem_of_mem_logOf (List.mem_filter.mp hentry).1
  · intro before number line after hlines
    have hmem : (number, line) ∈ reached session stop (dispatched text) := by
      rw [hlines]
      exact List.mem_append_right _ List.mem_cons_self
    refine ⟨isLineOf_of_mem (hfront.subset hmem), ?_⟩
    have hunder : recordsUnder number ((logOf session (reached session stop (dispatched text))).filter
          fun r ↦ mode.verbose || r.2.level == .warning)
        = kept mode.verbose ((session.afterAll (steps before)).perform (.run line)).records := by
      rw [hlines] at hnumbers ⊢
      rw [← recordsUnder_logOf session (hnumbers.imp Nat.ne_of_lt), recordsUnder, List.filter_comm,
        recordsUnder, kept, List.filter_map]
      rfl
    rw [hunder]
    exact logsLine (memo_of_openSession hopen) mode before line

/-- A note and a blank line come before a command that is run twice, with a line without a colon
between. The log tells the token that the third line leaves over, although the settings ask for no
warnings in results, and the name that is used again in the template of the command. Under the fifth
line the template is not told again. -/
theorem shell_log_names_lines_repeated :
    ∃ (w : World) (settings : Settings) (session : Session) (log : List (Nat × Record)),
      w.environment = [("CMDCORE_COMMANDS__S__TEMPLATE", "&string x &string x"),
        ("CMDCORE_INTERPRETER__WARN_TRAILING", "off")] ∧
      w.input = "# note\n\ns:a b c\nno\ns:d e\n" ∧
      Settings.load (sources w (Globals.options ⟨true, none⟩ ⟨false, false, false⟩)) = .ok settings ∧
      openSession settings = .ok session ∧ sourceText? w "-" = some w.input ∧
      (∀ line ∈ shellLines session false w.input, ∃ r, HasResult session line r) ∧
      (wholeRun w ⟨true, none⟩ ⟨false, false, false⟩ false none).recordLines
        = log.map (fun (n, r) ↦ recordAsJson (some n) r) ∧
      ofSource .binder (recordsUnder 3 log) = [leftOverRecord ["c"]] ∧
      (ofSource .template (recordsUnder 3 log)).filter (·.level == .warning)
        = [Template.repeatedWarning "&string x &string x" "x"] ∧
      ofSource .template (recordsUnder 5 log) = [] := by
  obtain ⟨w, hw⟩ : ∃ w : World, w = ⟨.directory [], [],
    [("CMDCORE_COMMANDS__S__TEMPLATE", "&string x &string x"),
      ("CMDCORE_INTERPRETER__WARN_TRAILING", "off")],
    "# note\n\ns:a b c\nno\ns:d e\n"⟩ := ⟨_, rfl⟩
  obtain ⟨settings, hsettings⟩ : ∃ s : Settings, s =
    ⟨none, false, false, false, true, false, [("s", ⟨"", "&string x &string x", "echo"⟩)]⟩ :=
    ⟨_, rfl⟩
  obtain ⟨c, hc⟩ : ∃ c : Command, c = ⟨"s", "", "&string x &string x", .builtin .echo⟩ := ⟨_, rfl⟩
  obtain ⟨session, hsession⟩ : ∃ s : Session, s = ⟨Registry.empty.add c, false, .empty⟩ := ⟨_, rfl⟩
  have hload : Settings.load (sources w (Globals.options ⟨true, none⟩ ⟨false, false, false⟩))
      = .ok settings := by
    rw [hw, hsettings]
    decide +kernel
  have hopen : openSession settings = .ok session := by
    rw [hsettings, hsession, hc]
    rfl
  have hinput : w.input = "# note\n\ns:a b c\nno\ns:d e\n" := by rw [hw]
  have hreached : reached session false (dispatched w.input)
      = [(3, "s:a b c"), (4, "no"), (5, "s:d e")] := by
    rw [hinput, hsession, hc]
    decide +kernel
  have hresults : ∀ line ∈ shellLines session false w.input, ∃ r, HasResult session line r := by
    have hok : ∀ line ∈ ["s:a b c", "no", "s:d e"],
        (Dispatch.run session.registry session.warnTrailing .empty line).outcome.isOk = true := by
      rw [hsession, hc]
      decide +kernel
    intro line hline
    rw [← map_reached, hreached] at hline
    cases hrun : (Dispatch.run session.registry session.warnTrailing .empty line).outcome with
    | ok r => exact ⟨r, hrun⟩
    | error e =>
      have hline := hok line hline
      rw [hrun] at hline
      cases hline
  have hcompile : Template.compile "&string x &string x"
      = .ok [⟨"x", .simple .string⟩, ⟨"x", .simple .string⟩] := by cbv
  have hbinds : Dispatch.Binds session.registry "s:a b c" ⟨[("x", .text "b")], 2, ["c"]⟩ := by
    have haddresses : Addresses session.registry "s:a b c" c ["a", "b", "c"] := by
      rw [hsession, hc]
      exact ⟨⟨by decide, "a b c", rfl, by decide +kernel⟩, rfl⟩
    rw [Dispatch.binds_iff_of_addresses haddresses, hc]
    exact ⟨_, hcompile, rfl⟩
  have hfew : ∀ lines : List (Nat × String), lines.length ≤ 256 →
      Template.countCompiling (compiledBy session.registry lines) ≤ Memo.capacity := by
    intro lines hlength
    exact (Template.countCompiling_le_length _).trans ((List.length_filterMap_le _ _).trans hlength)
  have hsource : ∀ line ∈ ["s:a b c", "s:d e"],
      Dispatch.source? session.registry line = some "&string x &string x" := by
    rw [hsession, hc]
    decide +kernel
  obtain ⟨log, -, hlines, -, -, hlog⟩ := shell_log_names_lines w ⟨true, none⟩ ⟨false, false, false⟩
    false none w.input settings session rfl hload hopen rfl hresults
  obtain ⟨-, hthird⟩ := hlog [] 3 "s:a b c" [(4, "no"), (5, "s:d e")] hreached
  obtain ⟨-, hfifth⟩ := hlog [(3, "s:a b c"), (4, "no")] 5 "s:d e" [] hreached
  obtain ⟨es, front, hscan, hfront, hwarnings⟩ := (hthird.templated (hfew _ (by decide)) _
    (hsource _ (by decide))).unknown fun h ↦ absurd h List.not_mem_nil
  have hnonempty : (["c"] : List String) ≠ [] := List.cons_ne_nil _ _
  have hleftOver := hthird.leftOver _ hbinds hnonempty
  refine ⟨w, settings, session, log, by rw [hw], hinput, hload, hopen, rfl, hresults, hlines,
    hleftOver, ?_, ?_⟩
  · rw [hwarnings, ← Template.warnings_compileRecords hscan hfront]
    cbv
  · refine (hfifth.templated (hfew _ (by decide)) _ (hsource _ (by decide))).known _ ?_ hcompile
    exact List.mem_filterMap.mpr ⟨(3, "s:a b c"), by decide, hsource _ (by decide)⟩

end LineCommands.CommandLine
