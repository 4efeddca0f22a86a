import LineCommands.CommandLine.Program
import LineCommands.Proofs.Config.Merging
import LineCommands.Proofs.Outcome

/-!
# Settings under the flags of a call

A call gives all four flags, as true or as false. So whatever the settings file and the environment
say of these, the flags stand, and everything else about the settings is the same under all flags:
whether there are settings, what is wrong if there are none, and which commands they declare.

What stands in the merged table is said for any table of flags (`IsFlagTable`), whichever flags it
has. The rest of the settings depends on the sources only by what they say of other names
(`checkRest_merged`).
-/

namespace LineCommands

namespace Environment

theorem names_filterMap_sublist {α β : Type} (f : String → Option α) (g : α → β)
    (names : List String) :
    (Fields.names (names.filterMap fun name ↦ (f name).map fun a ↦ (name, g a))).Sublist names := by
  induction names with
  | nil => exact List.nil_sublist _
  | cons name names ih =>
    cases hf : f name with
    | none =>
      rw [List.filterMap_cons_none (by rw [hf]; rfl)]
      exact ih.cons name
    | some v =>
      rw [List.filterMap_cons_some (by rw [hf]; rfl)]
      exact ih.cons_cons name

theorem get?_toList (name other : String) (v : Option Value) :
    Fields.get? other (v.map ((name, ·))).toList = if name = other then v else none := by
  cases v with
  | none => exact (ite_self none).symm
  | some v => rfl

/-- The value with the proper names of the fields of the interpreter table. -/
def withProperNames : Value → Value
  | .record fields => .record (properNames fields)
  | v => v

theorem settings_eq_ok_iff {vars : Variables} {own : Fields Value} :
    settings vars = .ok own ↔ ∃ interpreter commands,
      table "interpreter" (fun _ text ↦ .text text) (normalized vars) = .ok interpreter ∧
      table "commands" commandPart (normalized vars) = .ok commands ∧
      own = (flagNames.filterMap fun name ↦
          ((normalized vars).get? (namePrefix ++ name)).map fun text ↦ (name, Value.text text))
        ++ ((interpreter.map withProperNames).map (("interpreter", ·))).toList
        ++ (commands.map (("commands", ·))).toList := by
  constructor
  · intro h
    obtain ⟨interpreter, hinterpreter, h⟩ := bind_eq_ok.mp h
    obtain ⟨commands, hcommands, h⟩ := bind_eq_ok.mp h
    exact ⟨interpreter, commands, hinterpreter, hcommands, (Except.ok.inj h).symm⟩
  · rintro ⟨interpreter, commands, hinterpreter, hcommands, rfl⟩
    exact bind_eq_ok.mpr ⟨interpreter, hinterpreter, bind_eq_ok.mpr ⟨commands, hcommands, rfl⟩⟩

theorem names_settings_sublist {vars : Variables} {own : Fields Value}
    (h : settings vars = .ok own) : own.names.Sublist Settings.knownNames := by
  obtain ⟨interpreter, commands, -, -, rfl⟩ := settings_eq_ok_iff.mp h
  have htable : ∀ (name : String) (v : Option Value),
      (Fields.names (v.map ((name, ·))).toList).Sublist [name] := by
    intro name v
    cases v with
    | none => exact List.nil_sublist _
    | some v => exact List.Sublist.refl _
  rw [Fields.names, List.map_append, List.map_append]
  exact ((names_filterMap_sublist _ _ flagNames).append (htable _ _)).append (htable _ _)

theorem nodup_names_settings {vars : Variables} {own : Fields Value} (h : settings vars = .ok own) :
    own.names.Nodup := by
  have hknown : Settings.knownNames.Nodup := by decide
  exact hknown.sublist (names_settings_sublist h)

end Environment

namespace Settings

/-! ## Tables of flags -/

/-- A table of flags has truth values under names of flags, each once. -/
structure IsFlagTable (flags : Fields Value) : Prop where
  nodup : flags.names.Nodup
  isFlag : ∀ name ∈ flags.names, name ∈ Environment.flagNames
  isTruth : ∀ {name : String} {v : Value}, flags.get? name = some v → ∃ b, v = .bool b

theorem mergeValue_bool (weak : Option Value) (b : Bool) : mergeValue weak (.bool b) = .bool b := by
  rw [mergeValue]
  simp

namespace IsFlagTable

variable {flags : Fields Value}

/-- Names that are spelled as they should be and stand once are taken as they are. -/
theorem foldl_settingOfFlag (table : Fields Value) (hnodup : (table ++ flags).names.Nodup)
    (hsetting : ∀ name ∈ flags.names, settingOfFlag name = name) :
    flags.foldl
      (fun (table : Fields Value) (name, v) ↦
        let setting := settingOfFlag name
        if (table.get? setting).isSome then table else table.set setting v) table
      = table ++ flags := by
  induction flags generalizing table with
  | nil => exact (List.append_nil table).symm
  | cons p flags ih =>
    obtain ⟨name, v⟩ := p
    obtain ⟨hname, hrest⟩ := List.forall_mem_cons.mp hsetting
    have hconcat : table ++ (name, v) :: flags = (table ++ [(name, v)]) ++ flags := by
      rw [List.append_assoc, List.singleton_append]
    have hnew : name ∉ table.names := by
      intro hmem
      rw [Fields.names, List.map_append, List.nodup_append] at hnodup
      exact hnodup.2.2 name hmem name List.mem_cons_self rfl
    have hnone : ¬(table.get? name).isSome = true := by
      rwa [Fields.get?_isSome_iff]
    rw [List.foldl_cons]
    simp only [hname, if_neg hnone, Fields.set_of_notMem hnew]
    rw [hconcat] at hnodup ⊢
    exact ih _ hnodup hrest

theorem flagFields_eq (h : IsFlagTable flags) : flagFields flags = flags := by
  have hsetting : ∀ name ∈ Environment.flagNames, settingOfFlag name = name := by decide
  have hfile : ∀ name ∈ Environment.flagNames, (name != fileSetting) = true := by decide
  rw [flagFields, foldl_settingOfFlag [] h.nodup
    fun name hname ↦ hsetting name (h.isFlag name hname)]
  exact Fields.keep_eq_self fun name hname ↦ hfile name (h.isFlag name hname)

/-- Under the name of a flag that is given the merged table has the flag, and under any other what
it has without flags. -/
theorem get?_merged (h : IsFlagTable flags) {own : Fields Value} (hown : own.names.Nodup)
    (file : Fields Value) (name : String) :
    (mergeFields file (mergeFields own flags)).get? name
      = match flags.get? name with
        | some v => some v
        | none => (mergeFields file own).get? name := by
  rw [get?_mergeFields (nodup_names_mergeFields hown _), get?_mergeFields h.nodup,
    get?_mergeFields hown]
  cases hname : flags.get? name with
  | none => rfl
  | some v =>
    obtain ⟨b, rfl⟩ := h.isTruth hname
    simp only [mergeValue_bool]

theorem get?_eq_none (h : IsFlagTable flags) {name : String}
    (hname : name ∉ Environment.flagNames) : flags.get? name = none :=
  Fields.get?_eq_none_of_notMem fun hmem ↦ hname (h.isFlag name hmem)

end IsFlagTable

/-- The flags of a call. -/
def truthFlags (mode : OutputMode) (logJson : Bool) : Fields Value :=
  [("json_output", .bool mode.json), ("quiet", .bool mode.quiet), ("verbose", .bool mode.verbose),
    ("log_json", .bool logJson)]

theorem isFlagTable_truthFlags (mode : OutputMode) (logJson : Bool) :
    IsFlagTable (truthFlags mode logJson) where
  nodup := by
    show Environment.flagNames.Nodup
    decide
  isFlag := fun _ hname ↦ hname
  isTruth := by
    intro name v hv
    have hall : ∀ p ∈ truthFlags mode logJson, ∃ b, p.2 = .bool b := by simp [truthFlags]
    exact hall _ (Fields.mem_of_get? hv)

/-! ## What does not depend on the flags -/

/-- What a table says of other names than those of the flags. -/
def besideFlags (fields : Fields Value) : Fields Value :=
  fields.keep fun name ↦ !Environment.flagNames.contains name

theorem get?_besideFlags {name : String} (h : name ∉ Environment.flagNames)
    (fields : Fields Value) : (besideFlags fields).get? name = fields.get? name :=
  Fields.get?_keep (by simpa using h) fields

theorem filter_names_besideFlags (fields : Fields Value) :
    (besideFlags fields).names.filter (!knownNames.contains ·)
      = fields.names.filter (!knownNames.contains ·) := by
  have hboth : ∀ name, ((!knownNames.contains name) && !Environment.flagNames.contains name)
      = !knownNames.contains name := by
    intro name
    cases hknown : knownNames.contains name with
    | true => rfl
    | false =>
      have hflag : Environment.flagNames.contains name = false := by
        rw [← Bool.not_eq_true, List.contains_iff_mem] at hknown ⊢
        exact fun hmem ↦ hknown (List.mem_append_left _ hmem)
      rw [hflag]
      rfl
  rw [besideFlags, Fields.keep, Fields.names, Fields.names, List.filter_map, List.filter_map,
    List.filter_filter]
  exact congrArg _ (List.filter_congr fun field _ ↦ hboth field.1)

/-- The checks of everything but the flags. -/
def checkRest (fields : Fields Value) : Checked (Bool × Fields CommandSpec × Unit) :=
  (warnTrailingLeaf fields).both ((commandTable fields).both (extras fields))

theorem checkRest_congr {fields fields' : Fields Value}
    (hextras : fields.names.filter (!knownNames.contains ·)
      = fields'.names.filter (!knownNames.contains ·))
    (hinterpreter : fields.get? "interpreter" = fields'.get? "interpreter")
    (hcommands : fields.get? "commands" = fields'.get? "commands") :
    checkRest fields = checkRest fields' := by
  simp only [checkRest, warnTrailingLeaf, commandTable, extras, hextras, hinterpreter, hcommands]

theorem ofFields_of_flags (fields : Fields Value) {mode : OutputMode} {logJson : Bool}
    (hflags : ∀ name v, (truthFlags mode logJson).get? name = some v → fields.get? name = some v)
    (configPath : Option Path) :
    ofFields configPath fields = (checkRest fields).map fun (warnTrailing, commands, _) ↦
      ⟨configPath, mode.json, mode.quiet, mode.verbose, logJson, warnTrailing, commands⟩ := by
  have hjson := hflags "json_output" (.bool mode.json) rfl
  have hquiet := hflags "quiet" (.bool mode.quiet) rfl
  have hverbose := hflags "verbose" (.bool mode.verbose) rfl
  have hlog := hflags "log_json" (.bool logJson) rfl
  simp only [ofFields, checkRest, leaf, hjson, hquiet, hverbose, hlog, truth]
  generalize (warnTrailingLeaf fields).both ((commandTable fields).both (extras fields)) = rest
  cases rest with
  | ok rest => rfl
  | error is => rfl

/-- What is checked beside the flags depends on what the file and the environment say of other
names, and not on the flags of the call. -/
theorem checkRest_merged {file file' own own' flags flags' : Fields Value}
    (hfile : besideFlags file = besideFlags file') (hown : besideFlags own = besideFlags own')
    (hsublist : own.names.Sublist knownNames) (hsublist' : own'.names.Sublist knownNames)
    (hflags : IsFlagTable flags) (hflags' : IsFlagTable flags') :
    checkRest (mergeFields file (mergeFields own flags))
      = checkRest (mergeFields file' (mergeFields own' flags')) := by
  have hknown : ∀ {own flags : Fields Value}, own.names.Sublist knownNames → IsFlagTable flags →
      ∀ name ∈ (mergeFields own flags).names, (!knownNames.contains name) = false := by
    intro own flags hsublist hflags name hname
    have hmem : name ∈ knownNames := by
      rcases mem_names_mergeFields.mp hname with hname | hname
      · exact hsublist.subset hname
      · exact List.mem_append_left _ (hflags.isFlag name hname)
    simpa using hmem
  have hnodup : knownNames.Nodup := by decide
  have hget : ∀ {name : String}, name ∉ Environment.flagNames →
      (mergeFields file (mergeFields own flags)).get? name
        = (mergeFields file' (mergeFields own' flags')).get? name := by
    intro name hname
    have hfilename : file.get? name = file'.get? name := by
      rw [← get?_besideFlags hname, hfile, get?_besideFlags hname]
    have hownname : own.get? name = own'.get? name := by
      rw [← get?_besideFlags hname, hown, get?_besideFlags hname]
    rw [hflags.get?_merged (hnodup.sublist hsublist),
      hflags'.get?_merged (hnodup.sublist hsublist'),
      hflags.get?_eq_none hname, hflags'.get?_eq_none hname,
      get?_mergeFields (hnodup.sublist hsublist), get?_mergeFields (hnodup.sublist hsublist'),
      hfilename, hownname]
  -- All unknown names come from the file: neither the environment nor the flags bring any.
  refine checkRest_congr ?_ (hget (by decide)) (hget (by decide))
  rw [filter_names_mergeFields (hknown hsublist hflags),
    filter_names_mergeFields (hknown hsublist' hflags'), ← filter_names_besideFlags file, hfile,
    filter_names_besideFlags]

/-- **Flags.** Under all flags there are the same settings but for what the flags say, or the same
reason why there are none. -/
theorem load_truthFlags (src : Sources) (mode : OutputMode) (logJson : Bool) :
    load { src with flags := truthFlags mode logJson }
      = (load { src with flags := truthFlags ⟨false, false, false⟩ false }).map fun s ↦
          { s with
            jsonOutput := mode.json
            quiet := mode.quiet
            verbose := mode.verbose
            logJson } := by
  have hfile : ∀ flags, Sources.fileFields { src with flags } = src.fileFields := fun _ ↦ rfl
  have hpath : ∀ flags, Sources.configPath { src with flags } = src.configPath := fun _ ↦ rfl
  have htable := isFlagTable_truthFlags
  simp only [load, hfile, hpath, (htable _ _).flagFields_eq]
  cases src.fileFields with
  | error e => rfl
  | ok file =>
    cases hown : Environment.settings src.environment with
    | error e => rfl
    | ok own =>
      have hsublist := Environment.names_settings_sublist hown
      have hnodup := Environment.nodup_names_settings hown
      have hfields : ∀ (mode : OutputMode) (logJson : Bool), _ := fun mode logJson ↦
        ofFields_of_flags (mergeFields file (mergeFields own (truthFlags mode logJson)))
          (fun name v h ↦ by rw [(htable mode logJson).get?_merged hnodup, h]) src.configPath
      have hrest := @checkRest_merged file file own own _ _ rfl rfl hsublist hsublist
        (htable mode logJson) (htable ⟨false, false, false⟩ false)
      simp only [hfields, hrest]
      cases checkRest (mergeFields file (mergeFields own (truthFlags ⟨false, false, false⟩ false)))
        with
      | error is => rfl
      | ok rest => rfl

end Settings

end LineCommands
