import Mathlib
import LineCommands.Proofs.Config.InOrder
import LineCommands.Proofs.Config.Parts

/-!
# Settings in layers

The settings are layered leaf by leaf. Over the defaults lies the settings file, over it the
environment, and over this the flags of the call, and each leaf is that of the strongest that has it
(`Layered`). So one more variable for a field of a command, or another value of it, changes this
field only (`SameBeside`). It is no matter what the other sources are, and it never makes settings
fail that could be loaded.

Which settings file is in use is not layered: it is the outcome of the search for it, and what the
environment or the file itself say about it is not heard.
-/

namespace LineCommands.Settings

open Fields Environment

/-! ## Layers of a load -/

variable {src : Sources} {s s' : Settings} {x : String} {f : CommandField}

theorem layered_three (flags own file : Fields Value) :
    layered [flags, own, file] = mergeFields file (mergeFields own flags) := by
  rw [layered, List.foldl_cons, mergeFields_nil]
  rfl

theorem load_eq_ok_iff_layered : load src = .ok s ↔
    ∃ file own, src.fileFields = .ok file ∧ Environment.settings src.environment = .ok own ∧
      ofFields src.configPath (layered [flagFields src.flags, own, file]) = .ok s := by
  simp only [layered_three]
  exact load_eq_ok_iff

theorem namesOnce_layers {flags file own : Fields Value} {vars : Variables}
    (hflags : NamesOnce flags) (hfile : src.fileFields = .ok file)
    (hown : Environment.settings vars = .ok own) :
    ∀ t ∈ [flagFields flags, own, file], NamesOnce t := by
  simp only [List.forall_mem_cons]
  exact ⟨namesOnce_flagFields hflags, Environment.namesOnce_settings hown,
    namesOnce_fileFields hfile, List.forall_mem_nil _⟩

/-! ## Beside one field -/

/-- Both settings are the same beside one field of one command, which may be new in the second. -/
structure SameBeside (x : String) (f : CommandField) (s s' : Settings) : Prop where
  configPath : s'.configPath = s.configPath
  flag : s'.isOn = s.isOn
  warnTrailing : s'.warnTrailing = s.warnTrailing
  command : ∀ keyword, keyword ≠ x → s'.commands.get? keyword = s.commands.get? keyword
  present : x ∈ s.commands.names → x ∈ s'.commands.names
  field : ∀ g, g ≠ f → s'.commandField x g = s.commandField x g

theorem SameBeside.refl (x : String) (f : CommandField) (s : Settings) : SameBeside x f s s :=
  ⟨rfl, rfl, rfl, fun _ _ ↦ rfl, id, fun _ _ ↦ rfl⟩

theorem get?_commands_congr {keyword : String}
    (hnames : keyword ∈ s'.commands.names ↔ keyword ∈ s.commands.names)
    (hfield : ∀ g, s'.commandField keyword g = s.commandField keyword g) :
    s'.commands.get? keyword = s.commands.get? keyword := by
  rw [← get?_isSome_iff, ← get?_isSome_iff] at hnames
  simp only [commandField] at hfield
  cases hget : s.commands.get? keyword with
  | none =>
    rw [hget] at hnames
    exact Option.not_isSome_iff_eq_none.mp (mt hnames.mp Bool.false_ne_true)
  | some spec =>
    rw [hget] at hnames hfield
    obtain ⟨spec', hspec'⟩ := Option.isSome_iff_exists.mp (hnames.mpr rfl)
    rw [hspec'] at hfield
    have hdescription : spec'.description = spec.description := hfield .description
    have htemplate : spec'.template = spec.template := hfield .template
    have haction : spec'.action = spec.action := hfield .action
    obtain ⟨_, _, _⟩ := spec
    obtain ⟨_, _, _⟩ := spec'
    cases hdescription
    cases htemplate
    cases haction
    exact hspec'

section

variable {before after : List (Fields Value)} {t t' : Fields Value}

theorem decided_replaced {α : Type} {check : List String → Value → Checked α} {default : α}
    {location : List String} {name : String} (h : t'.get? name = t.get? name) :
    decided check default location (before ++ t' :: after) name
      = decided check default location (before ++ t :: after) name := by
  rw [decided, decided, strongest_replaced h]

theorem exists_mem_replaced {p : Fields Value → Prop} :
    (∃ u ∈ before ++ t :: after, p u) ↔ p t ∨ ∃ u ∈ before ++ after, p u := by
  simp only [List.mem_append, List.mem_cons]
  constructor
  · rintro ⟨u, hu | rfl | hu, hp⟩
    · exact Or.inr ⟨u, Or.inl hu, hp⟩
    · exact Or.inl hp
    · exact Or.inr ⟨u, Or.inr hu, hp⟩
  · rintro (hp | ⟨u, hu | hu, hp⟩)
    · exact ⟨t, Or.inr (Or.inl rfl), hp⟩
    · exact ⟨u, Or.inl hu, hp⟩
    · exact ⟨u, Or.inr (Or.inr hu), hp⟩

end

theorem Layered.sameBeside {before after : List (Fields Value)} {own own' : Fields Value}
    (hs : Layered (before ++ own :: after) s) (hs' : Layered (before ++ own' :: after) s')
    (hpath : s'.configPath = s.configPath)
    (h : AddsText False ["commands", x, f.name] (some (.record own)) (some (.record own'))) :
    SameBeside x f s s' := by
  have hbeside := @get?_of_addsText own own' x f h
  have hflag : ∀ g : Flag, g.name ≠ "commands" := by
    intro g
    cases g <;> decide
  have hfield : ∀ keyword g, ¬(keyword = x ∧ g = f) →
      s'.commandField keyword g = s.commandField keyword g := by
    intro keyword g hne
    have hown := hs.field keyword g
    have hown' := hs'.field keyword g
    rw [List.map_append, List.map_cons] at hown hown'
    rw [decided_replaced (get?_along_of_addsText h hne), hown] at hown'
    exact (Except.ok.inj hown').symm
  have hnames : ∀ keyword, keyword ≠ x →
      (keyword ∈ s'.commands.names ↔ keyword ∈ s.commands.names) := by
    intro keyword hkeyword
    have hget : (own'.along ["commands"]).get? keyword = (own.along ["commands"]).get? keyword :=
      h.below.beside hkeyword
    rw [hs.commands, hs'.commands, exists_mem_replaced, exists_mem_replaced, ← get?_isSome_iff,
      ← get?_isSome_iff, hget]
  refine ⟨hpath, funext fun g ↦ ?_, ?_, fun keyword hkeyword ↦ ?_, fun hmem ↦ ?_,
    fun g hg ↦ hfield x g fun hsame ↦ hg hsame.2⟩
  · have hown' := hs'.flag g
    rw [decided_replaced (hbeside (hflag g)), hs.flag g] at hown'
    exact (Except.ok.inj hown').symm
  · have hinterpreter : own'.along ["interpreter"] = own.along ["interpreter"] :=
      congrArg contents (hbeside (by decide))
    have hown := hs.warnTrailing
    have hown' := hs'.warnTrailing
    rw [List.map_append, List.map_cons] at hown hown'
    rw [hinterpreter, hown] at hown'
    exact (Except.ok.inj hown').symm
  · exact get?_commands_congr (hnames keyword hkeyword)
      fun g ↦ hfield keyword g fun hsame ↦ hkeyword hsame.1
  · rw [hs.commands, exists_mem_replaced] at hmem
    rw [hs'.commands, exists_mem_replaced]
    refine hmem.imp_left fun hmem ↦ ?_
    obtain hsame | ⟨v, hv, -⟩ := h.below.below.isTable
    · rw [← get?_isSome_iff] at hmem ⊢
      exact (congrArg Option.isSome hsame).trans hmem
    · exact (get?_isSome_iff _ _).mp (Option.isSome_iff_exists.mpr ⟨v, hv⟩)

/-! ## Other variables -/

theorem configPath_congr {name : String} (hname : Text.lower Discovery.variableName ≠ name)
    {vars : Variables} (h : AgreeBeside name src.environment vars) :
    Sources.configPath { src with environment := vars } = src.configPath := by
  have hfind : ∀ vars : Variables, vars.find? (·.1 == Discovery.variableName)
      = (Fields.keep (fun other ↦ Text.lower other != name) vars).find?
        (·.1 == Discovery.variableName) :=
    fun vars ↦ (find?_keep (p := fun other ↦ Text.lower other != name) (bne_iff_ne.mpr hname)
      vars).symm
  rw [Sources.configPath, Sources.configPath, hfind, h, ← hfind]

theorem fileFields_congr {vars : Variables}
    (h : Sources.configPath { src with environment := vars } = src.configPath) :
    Sources.fileFields { src with environment := vars } = src.fileFields := by
  rw [Sources.fileFields, Sources.fileFields, h]

/-- The variable that has the name of the setting for the file, in lower case. -/
def fileVariable : String := namePrefix ++ fileSetting

/-- Which settings file is in use is the outcome of the search, and the variable that has the name
of this setting makes no difference at all. -/
theorem load_besideFileVariable {vars : Variables}
    (h : AgreeBeside fileVariable src.environment vars) :
    load { src with environment := vars } = load src := by
  have hpath : Sources.configPath { src with environment := vars } = src.configPath :=
    configPath_congr (by decide +kernel) h
  have hother : ∀ setting ∈ ["interpreter", "commands"], ∀ name, (name != fileVariable) = false →
      partPath? (namePrefix ++ setting) name = none := by
    have hfile : ∀ setting ∈ ["interpreter", "commands"],
        partPath? (namePrefix ++ setting) fileVariable = none := by decide
    intro setting hsetting name hname
    rw [bne_eq_false_iff_eq.mp hname]
    exact hfile setting hsetting
  have hsettings : Environment.settings vars = Environment.settings src.environment :=
    settings_congr (p := (· != fileVariable)) (by decide) (by decide) hother
      h.normalized_keep_eq
  simp only [load, hpath, fileFields_congr hpath, hsettings]

/-- The settings file as a table. Where there is no such file it has no fields. -/
def Sources.document (src : Sources) : Except Toml.ReadError (Fields Value) :=
  match src.configPath.bind src.root.textAt? with
  | none => .ok []
  | some text => Toml.read text

theorem fileFields_eq_ok_iff {file : Fields Value} :
    src.fileFields = .ok file ↔ src.document.map (Fields.keep (· != fileSetting)) = .ok file := by
  rw [map_eq_ok, Sources.fileFields, Sources.document]
  cases src.configPath.bind src.root.textAt? with
  | none => simp [Fields.keep]
  | some text =>
    cases hread : Toml.read text with
    | ok fields => simp [hread, Fields.keep]
    | error e => cases e <;> simp [hread]

theorem load_besideFileSetting {root : Node} (hload : load src = .ok s)
    (hpath : Sources.configPath { src with root } = src.configPath)
    (h : (Sources.document { src with root }).map (Fields.keep (· != fileSetting))
      = src.document.map (Fields.keep (· != fileSetting))) :
    load { src with root } = .ok s := by
  obtain ⟨file, own, hfile, hown, hfields⟩ := load_eq_ok_iff.mp hload
  refine load_eq_ok_iff.mpr ⟨file, own, ?_, hown, hpath ▸ hfields⟩
  rw [fileFields_eq_ok_iff, h, ← fileFields_eq_ok_iff, hfile]

/-! ## One variable more -/

section

variable (hflags : NamesOnce src.flags) (hload : load src = .ok s)
include hflags hload

theorem layered_of_load : ∃ file own, src.fileFields = .ok file ∧
    Environment.settings src.environment = .ok own ∧
    Layered [flagFields src.flags, own, file] s := by
  obtain ⟨file, own, hfile, hown, hfields⟩ := load_eq_ok_iff_layered.mp hload
  exact ⟨file, own, hfile, hown,
    layered_of_ofFields (namesOnce_layers hflags hfile hown) hfields⟩

theorem mem_names_commands_of_variable (hheard : HearsParts src.environment) {name : String}
    (hname : name ∈ (normalized src.environment).names) {rest : List String}
    (hpath : partPath? commandsVariable name = some (x :: rest)) : x ∈ s.commands.names := by
  obtain ⟨file, own, -, hown, hs⟩ := layered_of_load hflags hload
  exact (hs.commands x).mpr ⟨own, by simp, mem_names_along_commands hown hheard hname hpath⟩

/-- The variable of a field decides about it, where it is heard, if no flag does and there is no
variable for the command as a whole. -/
theorem commandField_of_variable (hheard : HearsParts src.environment) {name text : String}
    (hname : (normalized src.environment).get? name = some text)
    (hpath : partPath? commandsVariable name = some [x, f.name])
    (hwhole : ∀ other ∈ (normalized src.environment).names,
      partPath? commandsVariable other ≠ some [x])
    (hflag : ((flagFields src.flags).along ["commands", x]).get? f.name = none) :
    s.commandField x f = text := by
  obtain ⟨file, own, -, hown, hs⟩ := layered_of_load hflags hload
  have hfield := hs.field x f
  rw [decided, strongest, List.map_cons, List.map_cons, List.findSome?_cons, hflag,
    List.findSome?_cons, get?_along_commands hown hheard hname hpath hwhole] at hfield
  exact (Except.ok.inj hfield).symm

theorem get?_commandVariable_of_new (hheard : HearsParts src.environment) (hx : IsPlain x)
    (hnew : x ∉ s.commands.names) :
    (normalized src.environment).get? (commandVariable x) = none :=
  get?_eq_none_of_notMem fun hname ↦ hnew
    (mem_names_commands_of_variable hflags hload hheard hname (partPath?_commandVariable hx))

theorem get?_flagFields_of_new (hnew : x ∉ s.commands.names) (name : String) :
    ((flagFields src.flags).along ["commands", x]).get? name = none := by
  obtain ⟨file, own, -, -, hs⟩ := layered_of_load hflags hload
  have hnone : ((flagFields src.flags).along ["commands"]).get? x = none :=
    get?_eq_none_of_notMem fun hname ↦ hnew ((hs.commands x).mpr ⟨_, List.mem_cons_self, hname⟩)
  show (contents (((flagFields src.flags).along ["commands"]).get? x)).get? name = none
  rw [hnone]
  rfl

/-- With one more variable for a field of a command there are settings, and they are the same beside
this field. -/
theorem exists_load_of_puts {vars : Variables} {name : String}
    (hname : partPath? commandsVariable name = some [x, f.name])
    (h : Puts name src.environment vars) :
    ∃ s', load { src with environment := vars } = .ok s' ∧ SameBeside x f s s' ∧
      (¬HearsParts src.environment → s' = s) := by
  obtain ⟨file, own, hfile, hown, hfields⟩ := load_eq_ok_iff_layered.mp hload
  obtain ⟨own', hown', hadds, hunheard⟩ := h.exists_settings hname hown
  have hpath : Sources.configPath { src with environment := vars } = src.configPath := by
    have hnone : partPath? commandsVariable (Text.lower Discovery.variableName) = none := by
      decide +kernel
    exact configPath_congr (ne_of_partPath? hname hnone) h.agreeBeside
  have hfile' := (fileFields_congr hpath).trans hfile
  have hlayers := namesOnce_layers hflags hfile hown
  have hlayers' := namesOnce_layers hflags hfile hown'
  have horder : InOrder ([flagFields src.flags] ++ own :: [file]) :=
    (exists_ofFields_layered_iff hlayers).mp ⟨s, hfields⟩
  have hexists : ∃ s', ofFields src.configPath (layered [flagFields src.flags, own', file]) = .ok s' :=
    (exists_ofFields_layered_iff hlayers').mpr (inOrder_of_addsText hadds horder)
  obtain ⟨s', hfields'⟩ := hexists
  refine ⟨s', load_eq_ok_iff_layered.mpr ⟨file, own', hfile', hown', hpath ▸ hfields'⟩, ?_, ?_⟩
  · have hs : Layered ([flagFields src.flags] ++ own :: [file]) s :=
      layered_of_ofFields hlayers hfields
    have hs' : Layered ([flagFields src.flags] ++ own' :: [file]) s' :=
      layered_of_ofFields hlayers' hfields'
    have hchosen := (ofFields_eq_ok_iff.mp hfields).2.2
    have hchosen' := (ofFields_eq_ok_iff.mp hfields').2.2
    exact hs.sameBeside hs' (hchosen'.trans hchosen.symm) hadds
  · intro hnot
    rw [hunheard hnot] at hfields'
    exact Except.ok.inj (hfields'.symm.trans hfields)

end

/-- **Layers.** Where settings can be loaded, each leaf is what the strongest of the flags, the
environment and the settings file says that says anything about it, or else its default, and there
are the commands that any of them names. The file in use is the one that was found, whatever the
variable with the name of this setting or the file itself say about it.

One more variable for a field of a command, or another value of it, changes this field only: there
are settings again, with the same leaves beside it, and with the command even if it was not there
before. This is so unless the variable of all commands holds something else than a table. Then no
variable for a part of the commands is heard, and nothing changes. -/
theorem load_leaf_by_leaf {src : Sources} {s : Settings} (hflags : NamesOnce src.flags)
    (hload : load src = .ok s) :
    (∃ file own, src.fileFields = .ok file ∧ Environment.settings src.environment = .ok own ∧
      Layered [flagFields src.flags, own, file] s) ∧
    (s.configPath = src.configPath ∧
      (∀ vars, AgreeBeside fileVariable src.environment vars →
        load { src with environment := vars } = .ok s) ∧
      ∀ root : Node, Sources.configPath { src with root } = src.configPath →
        (Sources.document { src with root }).map (Fields.keep (· != fileSetting))
          = src.document.map (Fields.keep (· != fileSetting)) →
        load { src with root } = .ok s) ∧
    ∀ (x : String) (f : CommandField) (vars : Variables), IsPlain x →
      Puts (fieldVariable x f) src.environment vars →
      ∃ s', load { src with environment := vars } = .ok s' ∧ SameBeside x f s s' ∧
        (¬HearsParts src.environment → s' = s) ∧
        (HearsParts src.environment → x ∈ s'.commands.names ∧
          ∀ text, (normalized vars).get? (fieldVariable x f) = some text →
            (x ∉ s.commands.names →
              ∀ g, s'.commandField x g = if g = f then text else g.default) ∧
            ((normalized src.environment).get? (commandVariable x) = none →
              ((flagFields src.flags).along ["commands", x]).get? f.name = none →
                s'.commandField x f = text)) := by
  refine ⟨layered_of_load hflags hload, ⟨?_, fun vars hvars ↦ ?_, fun root hpath hroot ↦ ?_⟩,
    fun x f vars hx hputs ↦ ?_⟩
  · obtain ⟨file, own, -, -, hfields⟩ := load_eq_ok_iff.mp hload
    exact (ofFields_eq_ok_iff.mp hfields).2.2
  · rw [load_besideFileVariable hvars, hload]
  · exact load_besideFileSetting hload hpath hroot
  · have hname := partPath?_fieldVariable hx f
    obtain ⟨s', hload', hsame, hunheard⟩ := exists_load_of_puts hflags hload hname hputs
    have hflags' : NamesOnce (Sources.flags { src with environment := vars }) := hflags
    refine ⟨s', hload', hsame, hunheard, fun hheard ↦ ?_⟩
    have hheard' : HearsParts vars := (hputs.hearsParts_congr hname).mpr hheard
    refine ⟨mem_names_commands_of_variable hflags' hload' hheard' hputs.mem_names_normalized hname,
      fun text htext ↦ ?_⟩
    have hdecides : (normalized src.environment).get? (commandVariable x) = none →
        ((flagFields src.flags).along ["commands", x]).get? f.name = none →
          s'.commandField x f = text := by
      intro hwhole hflag
      rw [← hputs.agreeBeside.get?_normalized_eq (commandVariable_ne_fieldVariable hx f)] at hwhole
      exact commandField_of_variable hflags' hload' hheard' htext hname
        (partPath?_ne_of_get?_eq_none hx hwhole) hflag
    refine ⟨fun hnew g ↦ ?_, hdecides⟩
    split
    · next hg =>
      rw [hg]
      exact hdecides (get?_commandVariable_of_new hflags hload hheard hx hnew)
        (get?_flagFields_of_new hflags hload hnew f.name)
    · next hg =>
      rw [hsame.field g hg, commandField, get?_eq_none_of_notMem hnew]
      rfl

/-- A settings file declares one command, a variable gives it an action, and there is a flag. One
more variable brings another command. -/
theorem load_leaf_by_leaf_new_command :
    ∃ (src : Sources) (vars : Variables) (s s' : Settings),
      vars = ("CMDCORE_COMMANDS__SUM__ACTION", "sum") :: src.environment ∧
      NamesOnce src.flags ∧ load src = .ok s ∧ load { src with environment := vars } = .ok s' ∧
      SameBeside "sum" .action s s' ∧ s.commands.names = ["greet"] ∧ "sum" ∈ s'.commands.names ∧
      ∀ g, s'.commandField "sum" g = if g = .action then "sum" else g.default := by
  let src : Sources :=
    ⟨.directory [("cmdcore.toml", .file "[commands.greet]\ntemplate = \x22&string name\x22\n")], [],
      [("CMDCORE_COMMANDS__GREET__ACTION", "upper")], [("quiet", .bool true)], none, none⟩
  let s : Settings := ⟨some ["cmdcore.toml"], false, true, false, false, true,
    [("greet", ⟨"", "&string name", "upper"⟩)]⟩
  have hquiet : ∀ p ∈ [("quiet", Value.bool true)], NamesOnce p.2.fields :=
    List.forall_mem_singleton.mpr namesOnce_nil
  have hflags : NamesOnce src.flags := namesOnce_ofPairs hquiet
  have hfile : src.fileFields = .ok
      [("commands", .record [("greet", .record [("template", .text "&string name")])])] := by cbv
  have hnormalized : normalized src.environment
      = [("cmdcore_commands__greet__action", "upper")] := by decide +kernel
  have hown : Environment.settings src.environment = .ok
      [("commands", .record [("greet", .record [("action", .text "upper")])])] := by
    rw [settings_eq_ok_iff, hnormalized]
    exact ⟨none, some _, rfl, rfl, rfl⟩
  have hload : load src = .ok s := load_eq_ok_iff.mpr ⟨_, _, hfile, hown, rfl⟩
  have hputs : Puts (fieldVariable "sum" .action) src.environment
      (("CMDCORE_COMMANDS__SUM__ACTION", "sum") :: src.environment) :=
    ⟨[], _, "sum", src.environment, by decide +kernel, rfl, Or.inl ⟨rfl, by decide +kernel⟩⟩
  have hheard : HearsParts src.environment := by
    intro text v hget
    rw [hnormalized] at hget
    cases hget
  obtain ⟨-, -, hone⟩ := load_leaf_by_leaf hflags hload
  obtain ⟨s', hload', hsame, -, hfield⟩ := hone "sum" .action _ (by decide) hputs
  obtain ⟨hmem, hvalue⟩ := hfield hheard
  exact ⟨src, _, s, s', rfl, hflags, hload, hload', hsame, rfl, hmem,
    (hvalue "sum" (by decide +kernel)).1 (by decide)⟩

/-- The variable of all commands holds nothing, and no variable for a part of them is heard. Without
it, and with a pair of underscores in what should be the keyword, only what stands before the pair
is the keyword. -/
theorem load_leaf_by_leaf_unheard :
    (∃ (src : Sources) (vars : Variables) (s : Settings),
      src.environment = [("CMDCORE_COMMANDS", "null")] ∧
      vars = src.environment ++ [("CMDCORE_COMMANDS__X__ACTION", "sum")] ∧
      load src = .ok s ∧ load { src with environment := vars } = .ok s ∧ s.commands = []) ∧
    ∃ (src : Sources) (vars : Variables) (s s' : Settings), src.environment = [] ∧
      vars = [("CMDCORE_COMMANDS__A__B__ACTION", "sum")] ∧
      load src = .ok s ∧ load { src with environment := vars } = .ok s' ∧
      s.commands = [] ∧ s'.commands = [("a", ⟨"", "", "echo"⟩)] := by
  let sources (vars : Variables) : Sources := ⟨.directory [], [], vars, [], none, none⟩
  let defaults : Settings := ⟨none, false, false, false, false, true, []⟩
  constructor
  · have hread : Json.read? "null" = some .absent := by cbv
    have hnormalized : normalized [("CMDCORE_COMMANDS", "null")]
        = [("cmdcore_commands", "null")] := by decide +kernel
    have hnormalized' : normalized
        [("CMDCORE_COMMANDS", "null"), ("CMDCORE_COMMANDS__X__ACTION", "sum")]
          = [("cmdcore_commands", "null"), ("cmdcore_commands__x__action", "sum")] := by
      decide +kernel
    have hown : Environment.settings [("CMDCORE_COMMANDS", "null")] = .ok [] := by
      rw [settings_eq_ok_iff, hnormalized]
      exact ⟨none, none, rfl,
        table_eq_ok_iff.mpr ⟨some .absent, congrArg (Option.map some) hread, rfl⟩, rfl⟩
    have hown' : Environment.settings
        [("CMDCORE_COMMANDS", "null"), ("CMDCORE_COMMANDS__X__ACTION", "sum")] = .ok [] := by
      rw [settings_eq_ok_iff, hnormalized']
      exact ⟨none, none, rfl,
        table_eq_ok_iff.mpr ⟨some .absent, congrArg (Option.map some) hread, rfl⟩, rfl⟩
    exact ⟨sources [("CMDCORE_COMMANDS", "null")], _, defaults, rfl, rfl,
      load_eq_ok_iff.mpr ⟨[], [], rfl, hown, rfl⟩,
      load_eq_ok_iff.mpr ⟨[], [], rfl, hown', rfl⟩, rfl⟩
  · have hnormalized : normalized [("CMDCORE_COMMANDS__A__B__ACTION", "sum")]
        = [("cmdcore_commands__a__b__action", "sum")] := by decide +kernel
    have hown : Environment.settings [("CMDCORE_COMMANDS__A__B__ACTION", "sum")] = .ok
        [("commands", .record [("a", .record [("b", .record [("action", .text "sum")])])])] := by
      rw [settings_eq_ok_iff, hnormalized]
      exact ⟨none, some _, rfl, rfl, rfl⟩
    exact ⟨sources [], _, defaults, { defaults with commands := [("a", ⟨"", "", "echo"⟩)] },
      rfl, rfl, load_eq_ok_iff.mpr ⟨[], [], rfl, rfl, rfl⟩,
      load_eq_ok_iff.mpr ⟨[], _, rfl, hown, rfl⟩, rfl, rfl⟩

end LineCommands.Settings
