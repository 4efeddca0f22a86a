import Mathlib
import LineCommands.CommandLine.Console
import LineCommands.Proofs.Config.Priority

/-!
# What a call hears about its flags

By the order of the sources a flag whose option is missing is what its variable says, or else the
settings file, or else it is off. The settings do so for a call that gives the flags that are set
(`documentedSources`). But the program gives all four, those without an option as false, and so the
order ends at the options: a missing option counts as a no. The settings in effect are the
documented ones with just the flags whose options are given, and they are the documented ones
exactly if these have no other flag. Whatever a variable or the settings file says about a flag,
even if it is no truth value at all, the program does the same.
-/

namespace LineCommands.CommandLine

/-! ## Flags and options -/

/-- The option of a flag. -/
def optionOf : Flag → RootOption
  | .json => .json
  | .quiet => .quiet
  | .verbose => .verbose
  | .logJson => .logJson

/-- The option of the flag is given. -/
def isGiven (options : List RootOption) (f : Flag) : Bool := options.contains (optionOf f)

theorem sources_eq (w : World) (options : List RootOption) :
    sources w options
      = { sources w options with flags := Settings.allFlags (isGiven options) } := rfl

/-- Where the settings of a call come from by the order of the sources: a flag whose option is
missing is left to the others. -/
def documentedSources (w : World) (options : List RootOption) : Settings.Sources :=
  { sources w options with flags := Settings.flagsOn (isGiven options) }

/-! ## Surroundings that differ in flags only -/

/-- For a call with these arguments the surroundings differ at most in what the environment and the
settings file say about flags. -/
structure SameBesideFlags (args : List String) (w w' : World) : Prop where
  environment : Environment.besideFlags w.environment = Environment.besideFlags w'.environment
  configPath : ∀ {options : List RootOption} {rest : List String},
    parseArguments rootOptions false args = some (options, rest) →
      (sources w options).configPath = (sources w' options).configPath
  file : ∀ {options : List RootOption} {rest : List String},
    parseArguments rootOptions false args = some (options, rest) →
      (sources w options).fileFields.map Settings.besideFlags
        = (sources w' options).fileFields.map Settings.besideFlags
  text : ∀ {options : List RootOption} {rest : List String},
    parseArguments rootOptions false args = some (options, rest) →
      ∀ name ∈ shellSources rest, sourceText? w name = sourceText? w' name

variable {w w' : World} {args : List String}

theorem sameBesideFlags_of_environment {vars : Environment.Variables}
    (h : Environment.besideFlags w.environment = Environment.besideFlags vars) :
    SameBesideFlags args w { w with environment := vars } := by
  have hfind : ∀ vars : Environment.Variables,
      vars.find? (·.1 == Discovery.variableName)
        = (Environment.besideFlags vars).find? (·.1 == Discovery.variableName) := by
    have hother : Environment.isOther (Text.lower Discovery.variableName) = true := by
      decide +kernel
    -- The variable that names a settings file is looked up as it is spelled, not in lower case.
    exact fun vars ↦ (Fields.find?_keep (p := fun name ↦ Environment.isOther (Text.lower name))
      hother vars).symm
  have hpath : ∀ options, (sources w options).configPath
      = (sources { w with environment := vars } options).configPath := by
    intro options
    rw [Settings.Sources.configPath, Settings.Sources.configPath]
    simp only [sources]
    rw [hfind, hfind vars, h]
  refine ⟨h, fun _ ↦ hpath _, fun _ ↦ ?_, fun _ _ _ ↦ rfl⟩
  rw [Settings.Sources.fileFields, Settings.Sources.fileFields, hpath]
  rfl

theorem SameBesideFlags.load_sources (h : SameBesideFlags args w w') {options : List RootOption}
    {rest : List String} (hargs : parseArguments rootOptions false args = some (options, rest)) :
    Settings.load (sources w options) = Settings.load (sources w' options) := by
  rw [sources_eq, sources_eq w']
  exact Settings.load_allFlags_congr (h.configPath hargs) (h.file hargs) h.environment _

theorem runSubcommand_congr {c : Subcommand} {name : String}
    (hname : Subcommand.ofName? name = some c)
    (htext : ∀ source ∈ shellSources (name :: args), sourceText? w source = sourceText? w' source)
    (s : Settings) : runSubcommand w s c args = runSubcommand w' s c args := by
  rw [runSubcommand, runSubcommand]
  cases hargs : parseArguments c.options true args with
  | none => rfl
  | some parsed =>
    obtain ⟨options, arguments⟩ := parsed
    -- Only the shell has a text; the other commands do not look at the surroundings at all.
    have hsource : c = .shell →
        sourceText? w (arguments.headD "-") = sourceText? w' (arguments.headD "-") := by
      rintro rfl
      refine htext _ ?_
      rw [shellSources, hname]
      simp only [hargs]
      cases arguments with
      | nil => exact List.mem_singleton_self _
      | cons source arguments => exact List.mem_cons_self
    simp only
    cases options.find? CommandOption.isEager with
    | some o => cases o <;> rfl
    | none =>
      cases c with
      | run =>
        cases arguments with
        | nil => rfl
        | cons word words => rfl
      | compile =>
        match arguments with
        | [] | [_] | _ :: _ :: _ => rfl
      | shell => simp only [hsource rfl]

/-- **Surroundings.** The program does the same in surroundings that differ in flags only. -/
theorem SameBesideFlags.run_eq (h : SameBesideFlags args w w') : run w args = run w' args := by
  rw [run, run]
  cases hargs : parseArguments rootOptions false args with
  | none => rfl
  | some parsed =>
    obtain ⟨options, rest⟩ := parsed
    have hload := h.load_sources hargs
    simp only
    cases options.find? RootOption.isEager with
    | some o => cases o <;> rfl
    | none =>
      cases rest with
      | nil => simp only [withSettings, hload]
      | cons name rest =>
        simp only
        cases hname : Subcommand.ofName? name with
        | none => rfl
        | some c =>
          have hsubcommand := runSubcommand_congr hname (h.text hargs)
          simp only [withSettings, hload, hsubcommand]

theorem run_eq_of_environment {vars : Environment.Variables}
    (h : Environment.besideFlags w.environment = Environment.besideFlags vars) :
    run w args = run { w with environment := vars } args :=
  (sameBesideFlags_of_environment h).run_eq

/-! ## The flags in effect -/

/-- **Flags of a call.** Surroundings that differ in flags only make no difference to a call. The
flags in effect are those whose options are given. By the order of the sources the others would be
what the environment, or else the settings file, says; the settings in effect are those settings
with other flags, and they are the same exactly if every flag that is on by the order of the sources
has its option in the call. -/
theorem only_options_set_flags (w : World) (args : List String) :
    (∀ w', SameBesideFlags args w w' → run w args = run w' args) ∧
    ∀ options rest, parseArguments rootOptions false args = some (options, rest) →
      (∀ s, Settings.load (sources w options) = .ok s → s.isOn = isGiven options) ∧
      ∀ d, Settings.load (documentedSources w options) = .ok d →
        (∃ file, (sources w options).fileFields = .ok file ∧
          ∀ f, (if isGiven options f then .ok true else f.below w.environment file)
            = .ok (d.isOn f)) ∧
        Settings.load (sources w options) = .ok (d.withFlags (isGiven options)) ∧
        (d.withFlags (isGiven options) = d ↔ ∀ f, d.isOn f = true → isGiven options f = true) := by
  refine ⟨fun w' h ↦ h.run_eq, fun options rest _ ↦ ⟨fun s hload ↦ ?_, fun d hload ↦ ?_⟩⟩
  · rw [sources_eq] at hload
    exact Settings.isOn_of_load_allFlags hload
  obtain ⟨file, -, hfile, -, -⟩ := Settings.load_eq_ok_iff.mp hload
  have hchain := @Settings.load_flagsOn (sources w options) (isGiven options) d file hload hfile
  have hset := @Settings.load_allFlags_of_flagsOn (sources w options) (isGiven options) d hload
    (isGiven options)
  refine ⟨⟨file, hfile, hchain⟩, hset, ?_⟩
  have hgiven : ∀ f, isGiven options f = true → d.isOn f = true := by
    intro f hf
    have hf' := hchain f
    rw [if_pos hf] at hf'
    exact (Except.ok.inj hf').symm
  rw [Settings.withFlags_eq_self_iff]
  constructor
  · intro heq f hf
    rw [heq, hf]
  · intro hon
    funext f
    exact Bool.eq_iff_iff.mpr ⟨hgiven f, hon f⟩

theorem only_options_set_flags_quiet_verbose :
    ∃ (w w' : World) (d : Settings),
      w.environment = [("CMDCORE_QUIET", "true")] ∧ w'.environment = [] ∧
      SameBesideFlags ["run", "greet:ann"] w w' ∧
      run w ["run", "greet:ann"] = run w' ["run", "greet:ann"] ∧
      Settings.load (documentedSources w []) = .ok d ∧ d.quiet = true ∧ d.verbose = true ∧
      Settings.load (sources w []) = .ok (d.withFlags (isGiven [])) ∧
      d.withFlags (isGiven []) ≠ d := by
  let declared := "[commands.greet]\ntemplate = \x22&string name\x22\n"
  let w : World := ⟨.directory [("cmdcore.toml", .file ("verbose = true\n" ++ declared))], [],
    [("CMDCORE_QUIET", "true")], ""⟩
  let w' : World := ⟨.directory [("cmdcore.toml", .file declared)], [], [], ""⟩
  let d : Settings := ⟨some ["cmdcore.toml"], false, true, true, false, true,
    [("greet", ⟨"", "&string name", "echo"⟩)]⟩
  have hparse : parseArguments rootOptions false ["run", "greet:ann"]
      = some ([], ["run", "greet:ann"]) := by decide +kernel
  have hfile : (sources w []).fileFields = .ok [("verbose", .bool true),
      ("commands", .record [("greet", .record [("template", .text "&string name")])])] := by cbv
  have hfile' : (sources w' []).fileFields = .ok
      [("commands", .record [("greet", .record [("template", .text "&string name")])])] := by cbv
  have hsame : SameBesideFlags ["run", "greet:ann"] w w' := by
    have henvironment : Environment.besideFlags w.environment
        = Environment.besideFlags w'.environment := by decide +kernel
    refine ⟨henvironment, fun hargs ↦ ?_, fun hargs ↦ ?_, fun hargs ↦ ?_⟩
    all_goals
      rw [hparse] at hargs
      obtain ⟨rfl, rfl⟩ := Prod.mk.inj (Option.some.inj hargs)
    · decide +kernel
    · rw [hfile, hfile']
      rfl
    · have hnone : shellSources ["run", "greet:ann"] = [] := by decide +kernel
      exact fun name hname ↦ absurd (hnone ▸ hname) List.not_mem_nil
  have hown : Environment.settings w.environment = .ok [("quiet", .text "true")] := rfl
  have hload : Settings.load (documentedSources w []) = .ok d :=
    Settings.load_eq_ok_iff.mpr ⟨_, _, hfile, hown, rfl⟩
  obtain ⟨hrun, hcall⟩ := only_options_set_flags w ["run", "greet:ann"]
  obtain ⟨-, hset, hsame'⟩ := (hcall [] _ hparse).2 d hload
  refine ⟨w, w', d, rfl, rfl, hsame, hrun w' hsame, hload, rfl, rfl, hset, fun heq ↦ ?_⟩
  have hquiet := hsame'.mp heq .quiet rfl
  cases hquiet

/-- A variable asks for quiet output, and there are neither options nor a settings file. The flag is
not in effect, and the call does not write what it writes with the option. -/
theorem quiet_variable_without_effect :
    ∃ (w : World) (options : List RootOption) (rest : List String) (s : Settings),
      w.environment
        = [("CMDCORE_COMMANDS__GREET__TEMPLATE", "&string name"), ("CMDCORE_QUIET", "true")] ∧
      parseArguments rootOptions false ["run", "greet:ann"] = some (options, rest) ∧
      isGiven options .quiet = false ∧ (sources w options).fileFields = .ok [] ∧
      Flag.quiet.below w.environment [] = .ok true ∧
      Settings.load (sources w options) = .ok s ∧ s.isOn .quiet = false ∧
      (run w ["run", "greet:ann"]).streams ≠ (run w ["-q", "run", "greet:ann"]).streams := by
  let w : World := ⟨.directory [], [],
    [("CMDCORE_COMMANDS__GREET__TEMPLATE", "&string name"), ("CMDCORE_QUIET", "true")], ""⟩
  let s : Settings := ⟨none, false, false, false, false, true,
    [("greet", ⟨"", "&string name", "echo"⟩)]⟩
  refine ⟨w, [], ["run", "greet:ann"], s, rfl, ?_, rfl, rfl, ?_, ?_, rfl, ?_⟩
  · decide +kernel
  · decide +kernel
  · decide +kernel
  · have hpage : (run w ["run", "greet:ann"]).streams
        = ⟨"OK   run  greet\n  argument    type      value\n  name        string    ann  \n"
            ++ "  output: name=ann\n", ""⟩ := by
      decide +kernel
    have hquiet : (run w ["-q", "run", "greet:ann"]).streams = ⟨"name=ann\n", ""⟩ := by
      decide +kernel
    rw [hpage, hquiet]
    decide

end LineCommands.CommandLine
