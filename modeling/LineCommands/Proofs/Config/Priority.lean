import LineCommands.Proofs.Config.Flags

/-!
# Which source decides about a flag

Below the flags of a call a setting that is a truth value is looked for in the environment and then
in the settings file, and it is off where neither has it (`Flag.below`). If a call gives just those
flags that are set, this is what becomes of the others (`load_flagsOn`). If it gives all of them,
neither the environment nor the file is heard about any of them (`load_allFlags_congr`), and the
settings are those of the other kind of call, with other flags (`load_allFlags_of_flagsOn`).
-/

namespace LineCommands

/-! ## Flags -/

/-- The settings that are truth values. -/
inductive Flag where
  | json | quiet | verbose | logJson
deriving DecidableEq, Repr

namespace Flag

/-- All flags. -/
def all : List Flag := [json, quiet, verbose, logJson]

/-- The name of the setting. -/
def name : Flag → String
  | json => "json_output"
  | quiet => "quiet"
  | verbose => "verbose"
  | logJson => "log_json"

theorem mem_all (f : Flag) : f ∈ all := by
  cases f <;> decide

theorem name_mem (f : Flag) : f.name ∈ Environment.flagNames := by
  cases f <;> decide

theorem name_inj {f g : Flag} : f.name = g.name ↔ f = g := by
  refine ⟨fun h ↦ ?_, congrArg name⟩
  have hinj : ∀ f ∈ all, ∀ g ∈ all, f.name = g.name → f = g := by decide
  exact hinj f f.mem_all g g.mem_all h

/-- What is said about a flag below the flags of a call: by its variable, or else by the settings
file. Where nothing is said it is off. -/
def below (f : Flag) (vars : Environment.Variables) (file : Fields Value) : Checked Bool :=
  match (Environment.normalized vars).get? (Environment.namePrefix ++ f.name) with
  | some text => Settings.truth [f.name] (.text text)
  | none =>
    match file.get? f.name with
    | some v => Settings.truth [f.name] v
    | none => .ok false

end Flag

namespace Settings

/-- What the settings say about a flag. -/
def isOn (s : Settings) : Flag → Bool
  | .json => s.jsonOutput
  | .quiet => s.quiet
  | .verbose => s.verbose
  | .logJson => s.logJson

/-- The settings with other flags. -/
def withFlags (s : Settings) (on : Flag → Bool) : Settings :=
  { s with
    jsonOutput := on .json
    quiet := on .quiet
    verbose := on .verbose
    logJson := on .logJson }

variable {s : Settings} {on : Flag → Bool}

@[simp] theorem isOn_withFlags (s : Settings) (on : Flag → Bool) : (s.withFlags on).isOn = on := by
  funext f
  cases f <;> rfl

@[simp] theorem withFlags_isOn (s : Settings) : s.withFlags s.isOn = s := rfl

theorem withFlags_eq_self_iff : s.withFlags on = s ↔ on = s.isOn := by
  constructor
  · intro h
    rw [← isOn_withFlags s on, h]
  · rintro rfl
    exact withFlags_isOn s

/-! ## Calls -/

/-- All flags, as true or as false. -/
def allFlags (on : Flag → Bool) : Fields Value := Flag.all.map fun f ↦ (f.name, .bool (on f))

/-- The flags that are set, as true. -/
def flagsOn (on : Flag → Bool) : Fields Value :=
  (Flag.all.filter on).map fun f ↦ (f.name, .bool true)

theorem allFlags_eq (on : Flag → Bool) :
    allFlags on = truthFlags ⟨on .json, on .quiet, on .verbose⟩ (on .logJson) := rfl

theorem get?_flagsOn (on : Flag → Bool) (f : Flag) :
    (flagsOn on).get? f.name = if on f then some (.bool true) else none := by
  have hread : ∀ fs : List Flag,
      Fields.get? f.name (fs.map fun f ↦ (f.name, Value.bool true))
        = if f ∈ fs then some (.bool true) else none := by
    intro fs
    induction fs with
    | nil => rfl
    | cons g fs ih =>
      rw [List.map_cons, Fields.get?, ih]
      by_cases hg : g = f
      · rw [if_pos (Flag.name_inj.mpr hg), if_pos (hg ▸ List.mem_cons_self)]
      · rw [if_neg (mt Flag.name_inj.mp hg)]
        simp [Ne.symm hg]
  rw [flagsOn, hread]
  simp [f.mem_all]

theorem isFlagTable_flagsOn (on : Flag → Bool) : IsFlagTable (flagsOn on) where
  nodup := by
    have hnodup : (Flag.all.map Flag.name).Nodup := by decide
    rw [Fields.names, flagsOn, List.map_map]
    exact hnodup.sublist (List.filter_sublist.map _)
  isFlag := by
    intro name hname
    rw [Fields.names, flagsOn, List.map_map] at hname
    obtain ⟨f, -, rfl⟩ := List.mem_map.mp hname
    exact f.name_mem
  isTruth := by
    intro name v hv
    obtain ⟨f, -, hf⟩ := List.mem_map.mp (Fields.mem_of_get? hv)
    exact ⟨true, (Prod.mk.inj hf).2.symm⟩

end Settings

/-! ## What the environment says about flags -/

theorem Fields.get?_filterMap {α β : Type} (f : String → Option α) (g : α → β)
    (names : List String) (name : String) :
    Fields.get? name (names.filterMap fun n ↦ (f n).map fun a ↦ (n, g a))
      = if name ∈ names then (f name).map g else none := by
  induction names with
  | nil => rfl
  | cons n names ih =>
    by_cases hn : n = name
    · subst hn
      rw [if_pos List.mem_cons_self]
      cases hf : f n with
      | some a =>
        rw [List.filterMap_cons_some (by rw [hf]; rfl), Fields.get?, if_pos rfl]
        rfl
      | none =>
        rw [List.filterMap_cons_none (by rw [hf]; rfl), ih]
        split
        · rw [hf]
        · rfl
    · have hmem : name ∈ n :: names ↔ name ∈ names := by simp [Ne.symm hn]
      simp only [hmem]
      rw [← ih]
      cases hf : f n with
      | some a => rw [List.filterMap_cons_some (by rw [hf]; rfl), Fields.get?, if_neg hn]
      | none => rw [List.filterMap_cons_none (by rw [hf]; rfl)]

namespace Environment

theorem get?_settings {vars : Variables} {own : Fields Value} (h : settings vars = .ok own)
    (f : Flag) : own.get? f.name = ((normalized vars).get? (namePrefix ++ f.name)).map .text := by
  obtain ⟨interpreter, commands, -, -, rfl⟩ := settings_eq_ok_iff.mp h
  have htable : ∀ {name : String} (v : Option Value), name ∉ flagNames →
      Fields.get? f.name (v.map ((name, ·))).toList = none := by
    intro name v hname
    rw [get?_toList, if_neg fun (heq : name = f.name) ↦ hname (heq ▸ f.name_mem)]
  rw [Fields.get?_append, Fields.get?_append, htable _ (by decide), htable _ (by decide),
    Fields.get?_filterMap, if_pos f.name_mem, Option.or_none, Option.or_none]

end Environment

namespace Settings

/-! ## Settings piece by piece -/

theorem both_eq_ok {α β : Type} {a : Checked α} {b : Checked β} {p : α × β} :
    a.both b = .ok p ↔ a = .ok p.1 ∧ b = .ok p.2 := by
  obtain ⟨x, y⟩ := p
  cases a with
  | ok a => cases b <;> simp [Checked.both]
  | error is => cases b <;> simp [Checked.both]

theorem ofFields_eq_ok_iff {configPath : Option Path} {fields : Fields Value} {s : Settings} :
    ofFields configPath fields = .ok s ↔
      (∀ f : Flag, leaf truth false [] fields f.name = .ok (s.isOn f)) ∧
      checkRest fields = .ok (s.warnTrailing, s.commands, ()) ∧ s.configPath = configPath := by
  rw [ofFields, map_eq_ok]
  constructor
  · rintro ⟨⟨json, quiet, verbose, logJson, rest⟩, h, rfl⟩
    obtain ⟨hjson, h⟩ := both_eq_ok.mp h
    obtain ⟨hquiet, h⟩ := both_eq_ok.mp h
    obtain ⟨hverbose, h⟩ := both_eq_ok.mp h
    obtain ⟨hlog, hrest⟩ := both_eq_ok.mp h
    refine ⟨fun f ↦ ?_, hrest, rfl⟩
    cases f with
    | json => exact hjson
    | quiet => exact hquiet
    | verbose => exact hverbose
    | logJson => exact hlog
  · rintro ⟨hflag, hrest, rfl⟩
    exact ⟨(s.jsonOutput, s.quiet, s.verbose, s.logJson, s.warnTrailing, s.commands, ()),
      both_eq_ok.mpr ⟨hflag .json, both_eq_ok.mpr ⟨hflag .quiet, both_eq_ok.mpr
        ⟨hflag .verbose, both_eq_ok.mpr ⟨hflag .logJson, hrest⟩⟩⟩⟩, rfl⟩

theorem load_eq_ok_iff {src : Sources} {s : Settings} :
    load src = .ok s ↔ ∃ file own, src.fileFields = .ok file ∧
      Environment.settings src.environment = .ok own ∧
      ofFields src.configPath (mergeFields file (mergeFields own (flagFields src.flags)))
        = .ok s := by
  rw [load]
  cases src.fileFields with
  | error e => simp
  | ok file =>
    cases Environment.settings src.environment with
    | error e => simp
    | ok own =>
      cases hfields : ofFields src.configPath (mergeFields file (mergeFields own
        (flagFields src.flags))) with
      | error is => simp [hfields]
      | ok s => simp [hfields]

theorem mergeValue_text (weak : Option Value) (text : String) :
    mergeValue weak (.text text) = .text text := by
  rw [mergeValue]
  simp

/-- The chain of the sources of a flag. -/
theorem leaf_merged {vars : Environment.Variables} {own : Fields Value}
    (hown : Environment.settings vars = .ok own) (file : Fields Value) (on : Flag → Bool)
    (f : Flag) :
    leaf truth false [] (mergeFields file (mergeFields own (flagsOn on))) f.name
      = if on f then .ok true else f.below vars file := by
  have hnodup := Environment.nodup_names_settings hown
  rw [leaf, (isFlagTable_flagsOn on).get?_merged hnodup, get?_flagsOn, get?_mergeFields hnodup,
    Environment.get?_settings hown, List.nil_append]
  by_cases hon : on f = true
  · rw [if_pos hon, if_pos hon]
    rfl
  · rw [if_neg hon, if_neg hon, Flag.below]
    cases (Environment.normalized vars).get? (Environment.namePrefix ++ f.name) with
    | some text => simp only [Option.map_some, mergeValue_text]
    | none => rfl

/-! ## Loading -/

variable {src src' : Sources} {on : Flag → Bool} {d : Settings}

/-- **Priority.** Where a call gives the flags that are set, the others are what the sources below
say. -/
theorem load_flagsOn {file : Fields Value} (hload : load { src with flags := flagsOn on } = .ok d)
    (hfile : src.fileFields = .ok file) (f : Flag) :
    (if on f then .ok true else f.below src.environment file) = .ok (d.isOn f) := by
  obtain ⟨file', own, hfile', hown, hfields⟩ := load_eq_ok_iff.mp hload
  obtain rfl : file = file' := Except.ok.inj (hfile.symm.trans hfile')
  rw [(isFlagTable_flagsOn on).flagFields_eq] at hfields
  rw [← (ofFields_eq_ok_iff.mp hfields).1 f]
  exact (leaf_merged hown file on f).symm

/-- Where a call gives all flags, the settings are the same but for the flags, and these are as
given. -/
theorem load_allFlags_of_flagsOn (hload : load { src with flags := flagsOn on } = .ok d)
    (on' : Flag → Bool) : load { src with flags := allFlags on' } = .ok (d.withFlags on') := by
  obtain ⟨file, own, hfile, hown, hfields⟩ := load_eq_ok_iff.mp hload
  rw [(isFlagTable_flagsOn on).flagFields_eq] at hfields
  obtain ⟨-, hrest, hpath⟩ := ofFields_eq_ok_iff.mp hfields
  have hpath : d.configPath = src.configPath := hpath
  have hsublist := Environment.names_settings_sublist hown
  have htable := isFlagTable_truthFlags ⟨on' .json, on' .quiet, on' .verbose⟩ (on' .logJson)
  rw [checkRest_merged rfl rfl hsublist hsublist (isFlagTable_flagsOn on) htable] at hrest
  refine load_eq_ok_iff.mpr ⟨file, own, hfile, hown, ?_⟩
  -- What is checked beside the flags went well with the other table of flags too.
  rw [allFlags_eq, htable.flagFields_eq, ofFields_of_flags _
    (fun name v h ↦ by rw [htable.get?_merged (Environment.nodup_names_settings hown), h]), hrest]
  refine congrArg Except.ok ?_
  rw [withFlags, hpath]
  rfl

theorem isOn_of_load_allFlags (hload : load { src with flags := allFlags on } = .ok d) :
    d.isOn = on := by
  rw [allFlags_eq, load_truthFlags] at hload
  obtain ⟨base, -, rfl⟩ := map_eq_ok.mp hload
  exact isOn_withFlags base on

end Settings

/-! ## Sources that differ in flags only -/

theorem Fields.get?_keep_eq_none {α : Type} {p : String → Bool} {name : String}
    (h : p name = false) (fs : Fields α) : Fields.get? name (fs.keep p) = none := by
  refine Fields.get?_eq_none_of_notMem fun hmem ↦ ?_
  obtain ⟨field, hfield, rfl⟩ := List.mem_map.mp hmem
  rw [(List.mem_filter.mp hfield).2] at h
  cases h

namespace Environment

/-- The name, in lower case, is not that of the variable of a flag. -/
def isOther (name : String) : Bool := !(flagNames.map (namePrefix ++ ·)).contains name

/-- The variables but for those of flags. -/
def besideFlags (vars : Variables) : Variables :=
  Fields.keep (fun name ↦ isOther (Text.lower name)) vars

theorem normalized_besideFlags (vars : Variables) :
    normalized (besideFlags vars) = (normalized vars).keep isOther := by
  rw [normalized, normalized, Fields.keep_ofPairs, besideFlags, Fields.keep, Fields.keep,
    List.filter_map]
  rfl

theorem parts_keep {p : String → Bool} {setting : String} (value : List String → String → Value)
    (hp : ∀ name, p name = false → partPath? (namePrefix ++ setting) name = none)
    (vars : Fields String) : parts setting value (vars.keep p) = parts setting value vars := by
  rw [parts, parts]
  -- The induction is on the variables; the table grows on the way.
  generalize ([] : Fields Value) = table
  induction vars generalizing table with
  | nil => rfl
  | cons var vars ih =>
    obtain ⟨name, text⟩ := var
    rw [Fields.keep_cons, List.foldl_cons]
    by_cases hname : p name = true
    · rw [if_pos hname, List.foldl_cons]
      exact ih _
    · rw [if_neg hname]
      simp only [hp name (Bool.not_eq_true _ ▸ hname)]
      exact ih _

theorem table_keep {p : String → Bool} {setting : String} (value : List String → String → Value)
    (hp : ∀ name, p name = false → partPath? (namePrefix ++ setting) name = none)
    (hwhole : p (namePrefix ++ setting) = true) (vars : Fields String) :
    table setting value (vars.keep p) = table setting value vars := by
  rw [table, table, parts_keep value hp, Fields.get?_keep hwhole]

theorem exists_flag_of_isOther_eq_false {name : String} (h : isOther name = false) :
    ∃ flag ∈ flagNames, name = namePrefix ++ flag := by
  have hmem : name ∈ flagNames.map (namePrefix ++ ·) := by simpa [isOther] using h
  obtain ⟨flag, hflag, rfl⟩ := List.mem_map.mp hmem
  exact ⟨flag, hflag, rfl⟩

/-- Without the variables of flags the environment says the same of everything but flags, and
nothing of these. -/
theorem settings_besideFlags (vars : Variables) :
    settings (besideFlags vars) = (settings vars).map Settings.besideFlags := by
  have hsection : ∀ setting ∈ ["interpreter", "commands"], ∀ name, isOther name = false →
      partPath? (namePrefix ++ setting) name = none := by
    have hparts : ∀ setting ∈ ["interpreter", "commands"], ∀ name ∈ flagNames,
        partPath? (namePrefix ++ setting) (namePrefix ++ name) = none := by decide
    intro setting hsetting name hname
    obtain ⟨flag, hflag, rfl⟩ := exists_flag_of_isOther_eq_false hname
    exact hparts setting hsetting flag hflag
  have hflags : ∀ name ∈ flagNames, isOther (namePrefix ++ name) = false := by decide
  rw [settings, settings, normalized_besideFlags, table_keep _ (hsection _ (by decide)) (by decide),
    table_keep _ (hsection _ (by decide)) (by decide)]
  cases table "interpreter" (fun _ text ↦ .text text) (normalized vars) with
  | error e => rfl
  | ok interpreter =>
    cases table "commands" commandPart (normalized vars) with
    | error e => rfl
    | ok commands =>
      refine congrArg Except.ok ?_
      have hnone : (flagNames.filterMap fun name ↦
          (((normalized vars).keep isOther).get? (namePrefix ++ name)).map fun text ↦
            (name, Value.text text)) = [] := by
        refine List.filterMap_eq_nil_iff.mpr fun name hname ↦ ?_
        rw [Fields.get?_keep_eq_none (hflags name hname)]
        rfl
      have hall : Settings.besideFlags (flagNames.filterMap fun name ↦
          ((normalized vars).get? (namePrefix ++ name)).map fun text ↦
            (name, Value.text text)) = [] := by
        refine Fields.keep_eq_nil fun name hname ↦ ?_
        have hmem := (names_filterMap_sublist _ _ flagNames).subset hname
        simpa using hmem
      have htable : ∀ {name : String} (v : Option Value), name ∉ flagNames →
          Settings.besideFlags (v.map ((name, ·))).toList = (v.map ((name, ·))).toList := by
        intro name v hname
        cases v with
        | none => rfl
        | some v => exact Fields.keep_eq_self (List.forall_mem_singleton.mpr (by simpa using hname))
      rw [hnone, Settings.besideFlags, Fields.keep_append, Fields.keep_append,
        ← Settings.besideFlags, ← Settings.besideFlags, ← Settings.besideFlags, hall,
        htable _ (by decide), htable _ (by decide)]

end Environment

namespace Settings

/-- **All flags given.** What the environment and the settings file say about flags is not heard. -/
theorem load_allFlags_congr {src src' : Sources} (hpath : src.configPath = src'.configPath)
    (hfile : src.fileFields.map besideFlags = src'.fileFields.map besideFlags)
    (henvironment : Environment.besideFlags src.environment
      = Environment.besideFlags src'.environment) (on : Flag → Bool) :
    load { src with flags := allFlags on } = load { src' with flags := allFlags on } := by
  have hfields : ∀ (src : Sources) (flags : Fields Value),
      Sources.fileFields { src with flags } = src.fileFields := fun _ _ ↦ rfl
  have hchoice : ∀ (src : Sources) (flags : Fields Value),
      Sources.configPath { src with flags } = src.configPath := fun _ _ ↦ rfl
  have hown : (Environment.settings src.environment).map besideFlags
      = (Environment.settings src'.environment).map besideFlags := by
    rw [← Environment.settings_besideFlags, henvironment, Environment.settings_besideFlags]
  have htable := isFlagTable_truthFlags ⟨on .json, on .quiet, on .verbose⟩ (on .logJson)
  simp only [load, hfields, hchoice, allFlags_eq, htable.flagFields_eq, hpath]
  rcases eq_of_map_eq_map hfile with ⟨e, hfile, hfile'⟩ | ⟨file, file', hfile, hfile', hbeside⟩
  · rw [hfile, hfile']
  rcases eq_of_map_eq_map hown with ⟨e, hown, hown'⟩ | ⟨own, own', hown, hown', hbeside'⟩
  · rw [hfile, hfile', hown, hown']
  have hnodup := Environment.nodup_names_settings hown
  have hnodup' := Environment.nodup_names_settings hown'
  rw [hfile, hfile', hown, hown']
  simp only
  rw [ofFields_of_flags _ (fun name v h ↦ by rw [htable.get?_merged hnodup, h]),
    ofFields_of_flags _ (fun name v h ↦ by rw [htable.get?_merged hnodup', h]),
    checkRest_merged hbeside hbeside' (Environment.names_settings_sublist hown)
      (Environment.names_settings_sublist hown') htable htable]

end Settings

end LineCommands
