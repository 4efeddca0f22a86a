import LineCommands.Proofs.CommandLine.Arguments
import LineCommands.Proofs.CommandLine.Shell
import LineCommands.Proofs.Config.Flags

/-!
# The shell and single runs as programs

A call of the program begins with global arguments: the form of output, the form of the log, and
which settings file to use. Under the same global arguments the program that runs a text line by
line writes what the programs that run a single line of it write, one after the other, and ends with
an exit code that does not depend on the form of output.
-/

namespace LineCommands.CommandLine

/-! ## Global arguments -/

/-- Something that is there or not. -/
def given {α : Type} (b : Bool) (a : α) : List α := if b then [a] else []

/-- The global arguments of a call beside the form of output. -/
structure Globals where
  logJson : Bool
  config : Option String

namespace Globals

/-- The arguments as they are written. -/
def args (g : Globals) (mode : OutputMode) : List String :=
  given mode.json "--json" ++ given mode.quiet "-q" ++ given mode.verbose "-v"
    ++ given g.logJson "--log-json" ++ (g.config.elim [] fun name ↦ ["-c", name])

/-- What the arguments mean. -/
def options (g : Globals) (mode : OutputMode) : List RootOption :=
  given mode.json RootOption.json ++ given mode.quiet RootOption.quiet
    ++ given mode.verbose RootOption.verbose ++ given g.logJson RootOption.logJson
    ++ (g.config.elim [] fun name ↦ [RootOption.config name])

end Globals

theorem Reads.given {α : Type} {specs : OptionSpecs α} {mixed : Bool} {arg : String} {meaning : α}
    {next others : List String} {those : List α} (b : Bool)
    (h : Reads specs mixed next those others)
    (harg : Reads specs mixed (arg :: next) (meaning :: those) others) :
    Reads specs mixed (CommandLine.given b arg ++ next) (CommandLine.given b meaning ++ those)
      others := by
  cases b with
  | true => exact harg
  | false => exact h

theorem Globals.reads (g : Globals) (mode : OutputMode) {next others : List String}
    (h : Reads rootOptions false next [] others) :
    Reads rootOptions false (g.args mode ++ next) (g.options mode) others := by
  have hconfig : Reads rootOptions false ((g.config.elim [] fun name ↦ ["-c", name]) ++ next)
      (g.config.elim [] fun name ↦ [.config name]) others := by
    cases g.config with
    | none => exact h
    | some name => exact h.config name
  have hlog := hconfig.given g.logJson hconfig.logJson
  have hverbose := hlog.given mode.verbose hlog.verbose
  have hquiet := hverbose.given mode.quiet hverbose.quiet
  have hjson := hquiet.given mode.json hquiet.json
  simpa only [Globals.args, Globals.options, List.append_assoc] using hjson

theorem Globals.find?_isEager (g : Globals) (mode : OutputMode) :
    (g.options mode).find? RootOption.isEager = none := by
  obtain ⟨json, quiet, verbose⟩ := mode
  obtain ⟨logJson, config⟩ := g
  cases json <;> cases quiet <;> cases verbose <;> cases logJson <;> cases config <;> rfl

/-! ## Settings -/

/-- Where a call with these global arguments takes everything from that is not a flag. -/
def Globals.origin (g : Globals) (w : World) : Settings.Sources :=
  ⟨w.root, w.cwd, w.environment, [], g.config, none⟩

theorem Globals.sources_options (g : Globals) (w : World) (mode : OutputMode) :
    sources w (g.options mode)
      = { g.origin w with flags := Settings.truthFlags mode g.logJson } := by
  obtain ⟨json, quiet, verbose⟩ := mode
  obtain ⟨logJson, config⟩ := g
  cases json <;> cases quiet <;> cases verbose <;> cases logJson <;> cases config <;> rfl

variable {w : World} {g : Globals} {mode mode' : OutputMode} {settings : Settings}
  {session : Session}

/-- Under every form of output there are settings, if there are any under one, and with the same
session. -/
theorem Globals.exists_load (hload : Settings.load (sources w (g.options mode)) = .ok settings)
    (mode' : OutputMode) :
    ∃ settings', Settings.load (sources w (g.options mode')) = .ok settings' ∧
      outputMode settings' = mode' ∧ openSession settings' = openSession settings := by
  rw [g.sources_options w mode, Settings.load_truthFlags] at hload
  obtain ⟨base, hbase, rfl⟩ := map_eq_ok.mp hload
  refine ⟨⟨base.configPath, mode'.json, mode'.quiet, mode'.verbose, g.logJson, base.warnTrailing,
    base.commands⟩, ?_, rfl, rfl⟩
  rw [g.sources_options w mode', Settings.load_truthFlags, hbase]
  rfl

theorem Globals.logJson_of_load (hload : Settings.load (sources w (g.options mode)) = .ok settings) :
    settings.logJson = g.logJson := by
  rw [g.sources_options w mode, Settings.load_truthFlags] at hload
  obtain ⟨base, -, rfl⟩ := map_eq_ok.mp hload
  rfl

theorem run_of_load (hload : Settings.load (sources w (g.options mode)) = .ok settings)
    (c : Subcommand) (args : List String) :
    run w (g.args mode ++ c.name :: args) = keepRecords settings (runSubcommand w settings c args) := by
  have hname : c.name.toList.head? ≠ some '-' := by cases c <;> decide
  have hsubcommand : Subcommand.ofName? c.name = some c := by cases c <;> rfl
  rw [run, (g.reads mode (Reads.operand rootOptions hname args)).parseArguments]
  simp only [g.find?_isEager, hsubcommand, withSettings, hload]

theorem memo_of_openSession (hopen : openSession settings = .ok session) :
    session.memo = .empty := by
  rw [openSession] at hopen
  split at hopen
  · cases hopen
  · obtain rfl := Except.ok.inj hopen
    rfl

theorem alike_of_openSession (hopen : openSession settings = .ok session) :
    session.Alike session := by
  have hsound : session.memo.Sound Template.compile := by
    rw [memo_of_openSession hopen]
    exact Memo.sound_empty _
  exact ⟨rfl, rfl, hsound, hsound⟩

/-! ## Single runs and the shell -/

/-- The program that runs a single line, which reaches it as one argument. -/
def singleRun (w : World) (g : Globals) (mode : OutputMode) (line : String) : Outcome :=
  run w (g.args mode ++ ["run", "--", line])

/-- The arguments of the shell: whether it stops at the first failure, and the file with the lines
if it is not the input. -/
def shellArgs (stop : Bool) (source : Option String) : List String :=
  given stop "--stop-on-error" ++ source.elim [] fun name ↦ ["--", name]

/-- The program that runs the lines of a text. -/
def wholeRun (w : World) (g : Globals) (mode : OutputMode) (stop : Bool)
    (source : Option String) : Outcome :=
  run w (g.args mode ++ "shell" :: shellArgs stop source)

section

variable (hload : Settings.load (sources w (g.options mode)) = .ok settings)
  (hmode : outputMode settings = mode) (hopen : openSession settings = .ok session)
include hload hmode hopen

theorem singleRun_of_load (line : String) :
    singleRun w g mode line = keepRecords settings (runCommand mode session line) := by
  refine (run_of_load hload .run ["--", line]).trans ?_
  rw [runSubcommand, (Reads.ends Subcommand.run.options true [line]).parseArguments]
  simp only [List.find?_nil, withSession, hopen, hmode]
  rfl

theorem wholeRun_of_load (stop : Bool) {source : Option String} {text : String}
    (htext : sourceText? w (source.getD "-") = some text) :
    wholeRun w g mode stop source = keepRecords settings (shellCommand mode stop session text) := by
  refine (run_of_load hload .shell _).trans ?_
  have hnames : Reads Subcommand.shell.options true (source.elim [] fun name ↦ ["--", name]) []
      source.toList := by
    cases source with
    | none => exact Reads.nil _ _
    | some name => exact Reads.ends _ _ _
  have hargs := hnames.given stop hnames.stopOnError
  have heager : (given stop CommandOption.stopOnError ++ []).find? CommandOption.isEager = none := by
    cases stop <;> rfl
  have hstop : (given stop CommandOption.stopOnError ++ []).contains .stopOnError = stop := by
    cases stop <;> rfl
  have hone : ¬1 < source.toList.length := by cases source <;> simp
  have hname : source.toList.headD "-" = source.getD "-" := by cases source <;> rfl
  rw [runSubcommand, shellArgs, hargs.parseArguments]
  simp only [heager, hstop, if_neg hone, hname, htext, withSession, hopen, hmode]

end

theorem HasResult.runCommand {line : String} {r : Result} (h : HasResult session line r)
    (hs : session.Alike session) {formatted : String} (hformat : r.format mode = .ok formatted) :
    (runCommand mode session line).streams = written mode r formatted ∧
      (runCommand mode session line).ending = .exit (if r.ok then 0 else 1) := by
  rw [CommandLine.runCommand, h.runLine hformat hs]
  exact ⟨rfl, rfl⟩

theorem Folds.ending {stop : Bool} {text : String}
    {lines : List (Nat × String)} (h : Folds mode session lines (shell mode stop session text)) :
    (shellCommand mode stop session text).ending
      = .exit (if (lines.map (·.2)).any (lineFails session) then 1 else 0) := by
  rw [shellCommand]
  simp only [h.exception, h.failures, List.any_map, List.countP_eq_zero]
  by_cases hany : lines.any (lineFails session ∘ (·.2)) = true
  · have hsome : ¬∀ l ∈ lines, ¬lineFails session l.2 = true := by
      obtain ⟨l, hl, hfails⟩ := List.any_eq_true.mp hany
      exact fun hall ↦ hall l hl hfails
    rw [if_neg hsome, if_pos hany]
  · have hall : ∀ l ∈ lines, ¬lineFails session l.2 = true :=
      fun l hl hfails ↦ hany (List.any_eq_true.mpr ⟨l, hl, hfails⟩)
    rw [if_pos hall, if_neg hany]

/-- **The shell.** With settings from which a registry can be made, and where no line that the shell
comes to makes an exception escape, under every form of output the two streams are those of the
single runs of these lines one after the other, and the exit code says whether one of them fails.
Each single run writes its result and ends with it, and the log of the shell has one dispatch for
each of the lines, in order. -/
theorem shell_folds_single_runs (w : World) (g : Globals) (mode : OutputMode) (stop : Bool)
    (source : Option String) (text : String) (settings : Settings) (session : Session)
    (hload : Settings.load (sources w (g.options mode)) = .ok settings)
    (hopen : openSession settings = .ok session)
    (htext : sourceText? w (source.getD "-") = some text)
    (hresults : ∀ line ∈ shellLines session stop text, ∃ r, HasResult session line r) :
    ∀ mode' : OutputMode,
      (wholeRun w g mode' stop source).streams.out = String.join
          ((shellLines session stop text).map fun line ↦ (singleRun w g mode' line).streams.out) ∧
      (wholeRun w g mode' stop source).streams.err = String.join
          ((shellLines session stop text).map fun line ↦ (singleRun w g mode' line).streams.err) ∧
      (wholeRun w g mode' stop source).ending
        = .exit (if (shellLines session stop text).any (lineFails session) then 1 else 0) ∧
      (∀ line ∈ shellLines session stop text, ∃ r formatted, HasResult session line r ∧
        r.format mode' = .ok formatted ∧
        (singleRun w g mode' line).streams = written mode' r formatted ∧
        (singleRun w g mode' line).ending = .exit (if r.ok then 0 else 1)) ∧
      ∃ lines : List (Nat × String), lines.map (·.2) = shellLines session stop text ∧
        List.Forall₂ (fun (l : Nat × String) (record : Nat × Log.Record) ↦ record.1 = l.1 ∧
            Log.ofDispatcher (runLine mode' session l.2).records = [record.2])
          lines (dispatches (shell mode' stop session text).records) := by
  intro mode'
  obtain ⟨settings', hload', hmode', hopen'⟩ := Globals.exists_load hload mode'
  rw [hopen] at hopen'
  have hsession := alike_of_openSession hopen
  have hsingle := singleRun_of_load hload' hmode' hopen'
  have hlines := map_reached session stop text
  have hfolds : Folds mode' session (reached session stop (dispatched text))
      (shell mode' stop session text) := by
    refine folds_shellFrom hsession _ fun l hl ↦ hresults l.2 ?_
    rw [← hlines]
    exact List.mem_map_of_mem hl
  rw [wholeRun_of_load hload' hmode' hopen' stop htext, ← hlines]
  simp only [hsingle, List.map_map]
  refine ⟨?_, ?_, hfolds.ending, fun line hline ↦ ?_, _, rfl, hfolds.dispatches⟩
  · refine (congrArg Streams.out hfolds.streams).trans ?_
    rw [Streams.out_joined, List.map_map]
    rfl
  · refine (congrArg Streams.err hfolds.streams).trans ?_
    rw [Streams.err_joined, List.map_map]
    rfl
  · rw [hlines] at hline
    obtain ⟨r, hr⟩ := hresults line hline
    obtain ⟨formatted, hformat⟩ := hr.exists_format mode'
    obtain ⟨hstreams, hending⟩ := hr.runCommand hsession hformat
    exact ⟨r, formatted, hr, hformat, hstreams, hending⟩

/-- A shell that is to stop at the first failure runs a command and comes to a line without a colon.
What stands behind this line is not looked at, and the note before it is no line. -/
theorem shell_folds_single_runs_stopping :
    ∃ (w : World) (settings : Settings) (session : Session),
      w.environment = [("CMDCORE_COMMANDS__GREET__TEMPLATE", "&string name")] ∧
      w.input = "greet:ann b\n# note\n\n  greet\ngreet:bob\n" ∧
      Settings.load (sources w (Globals.options ⟨false, none⟩ ⟨false, false, false⟩)) = .ok settings ∧
      openSession settings = .ok session ∧ sourceText? w "-" = some w.input ∧
      shellLines session true w.input = ["greet:ann b", "greet"] ∧
      (∀ line ∈ shellLines session true w.input, ∃ r, HasResult session line r) ∧
      ∀ mode' : OutputMode,
        (wholeRun w ⟨false, none⟩ mode' true none).streams.out
          = String.join [(singleRun w ⟨false, none⟩ mode' "greet:ann b").streams.out,
              (singleRun w ⟨false, none⟩ mode' "greet").streams.out] ∧
        (wholeRun w ⟨false, none⟩ mode' true none).ending = .exit 1 := by
  obtain ⟨w, hw⟩ : ∃ w : World, w = ⟨.directory [], [],
    [("CMDCORE_COMMANDS__GREET__TEMPLATE", "&string name")],
    "greet:ann b\n# note\n\n  greet\ngreet:bob\n"⟩ := ⟨_, rfl⟩
  obtain ⟨settings, hsettings⟩ : ∃ s : Settings, s =
    ⟨none, false, false, false, false, true, [("greet", ⟨"", "&string name", "echo"⟩)]⟩ := ⟨_, rfl⟩
  obtain ⟨session, hsession⟩ : ∃ s : Session, s =
    ⟨Registry.empty.add ⟨"greet", "", "&string name", .builtin .echo⟩, true, .empty⟩ := ⟨_, rfl⟩
  have hload : Settings.load (sources w (Globals.options ⟨false, none⟩ ⟨false, false, false⟩))
      = .ok settings := by
    rw [hw, hsettings]
    decide +kernel
  have hopen : openSession settings = .ok session := by
    rw [hsettings, hsession]
    rfl
  have hinput : w.input = "greet:ann b\n# note\n\n  greet\ngreet:bob\n" := by rw [hw]
  have hlines : shellLines session true w.input = ["greet:ann b", "greet"] := by
    rw [hinput, hsession]
    decide +kernel
  have hresults : ∀ line ∈ shellLines session true w.input, ∃ r, HasResult session line r := by
    have hok : ∀ line ∈ ["greet:ann b", "greet"],
        (Dispatch.run session.registry session.warnTrailing .empty line).outcome.isOk = true := by
      rw [hsession]
      decide +kernel
    intro line hline
    rw [hlines] at hline
    cases hrun : (Dispatch.run session.registry session.warnTrailing .empty line).outcome with
    | ok r => exact ⟨r, hrun⟩
    | error e =>
      have hline := hok line hline
      rw [hrun] at hline
      cases hline
  have hany : (shellLines session true w.input).any (lineFails session) = true := by
    rw [hlines, hsession]
    decide +kernel
  refine ⟨w, settings, session, by rw [hw], hinput, hload, hopen, rfl, hlines, hresults,
    fun mode' ↦ ?_⟩
  obtain ⟨hout, -, hending, -⟩ := shell_folds_single_runs w ⟨false, none⟩ ⟨false, false, false⟩ true
    none w.input settings session hload hopen rfl hresults mode'
  rw [hlines] at hout
  rw [hany] at hending
  exact ⟨hout, hending⟩

end LineCommands.CommandLine
