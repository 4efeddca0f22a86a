import LineCommands.Proofs.Config.NamesOnce
import LineCommands.Proofs.Config.Priority

/-!
# Settings leaf by leaf

The settings of tables in layers are told leaf by leaf: the strongest table that has a leaf decides
about it, and where none has it there is its default (`decided`). Which commands there are is the
union of those that the tables name. The leaves of a command that there is not count as its
defaults, so this is said of all commands alike (`Settings.Layered`).
-/

namespace LineCommands

open Fields

/-! ## Commands -/

/-- A field of a command. -/
inductive CommandField where
  | description | template | action
deriving DecidableEq, Repr

namespace CommandField

/-- The name of the field. -/
def name : CommandField → String
  | description => "description"
  | template => "template"
  | action => "action"

/-- The value of the field where none is given. -/
def default : CommandField → String
  | action => "echo"
  | _ => ""

theorem name_inj {f g : CommandField} : f.name = g.name ↔ f = g := by
  refine ⟨fun h ↦ ?_, congrArg name⟩
  revert h
  cases f <;> cases g <;> decide

end CommandField

/-- The value of a field. -/
def CommandSpec.read (spec : CommandSpec) : CommandField → String
  | .description => spec.description
  | .template => spec.template
  | .action => spec.action

/-- The value of a field of a command, which is its default if there is no such command. -/
def Settings.commandField (s : Settings) (keyword : String) (f : CommandField) : String :=
  (s.commands.get? keyword).elim f.default (·.read f)

/-! ## Checks that succeed -/

namespace Checked

variable {α β : Type} {check : α → Checked β}

theorem all_eq_ok_iff {as : List α} {bs : List β} :
    all check as = .ok bs ↔ List.Forall₂ (fun a b ↦ check a = .ok b) as bs := by
  induction as generalizing bs with
  | nil =>
    rw [List.forall₂_nil_left_iff, all, Except.ok.injEq, eq_comm]
  | cons a as ih =>
    rw [all, map_eq_ok, List.forall₂_cons_left_iff]
    constructor
    · rintro ⟨⟨b, bs⟩, hboth, rfl⟩
      obtain ⟨ha, has⟩ := Settings.both_eq_ok.mp hboth
      exact ⟨b, bs, ha, ih.mp has, rfl⟩
    · rintro ⟨b, bs, ha, has, rfl⟩
      exact ⟨(b, bs), Settings.both_eq_ok.mpr ⟨ha, ih.mpr has⟩, rfl⟩

theorem exists_all_eq_ok_iff {as : List α} :
    (∃ bs, all check as = .ok bs) ↔ ∀ a ∈ as, ∃ b, check a = .ok b := by
  simp only [all_eq_ok_iff]
  induction as with
  | nil => exact iff_of_true ⟨[], .nil⟩ (List.forall_mem_nil _)
  | cons a as ih =>
    rw [List.forall_mem_cons, ← ih]
    constructor
    · rintro ⟨_, h⟩
      cases h with
      | cons ha has => exact ⟨⟨_, ha⟩, ⟨_, has⟩⟩
    · rintro ⟨⟨b, ha⟩, ⟨bs, has⟩⟩
      exact ⟨b :: bs, .cons ha has⟩

end Checked

namespace Settings

theorem commandSpec_eq_ok_iff {keyword : String} {v : Value} {p : String × CommandSpec} :
    commandSpec (keyword, v) = .ok p ↔ p.1 = keyword ∧ v.IsTable ∧ ∀ f : CommandField,
      leaf text f.default ["commands", keyword] v.fields f.name = .ok (p.2.read f) := by
  by_cases hv : v.IsTable
  · obtain ⟨fields, rfl⟩ := hv
    obtain ⟨k, description, template, action⟩ := p
    rw [commandSpec, map_eq_ok]
    constructor
    · rintro ⟨⟨d, t, a⟩, h, heq⟩
      cases heq
      obtain ⟨hd, h⟩ := both_eq_ok.mp h
      obtain ⟨ht, ha⟩ := both_eq_ok.mp h
      refine ⟨rfl, ⟨fields, rfl⟩, fun f ↦ ?_⟩
      cases f with
      | description => exact hd
      | template => exact ht
      | action => exact ha
    · rintro ⟨rfl, -, h⟩
      exact ⟨(description, template, action), both_eq_ok.mpr ⟨h .description,
        both_eq_ok.mpr ⟨h .template, h .action⟩⟩, rfl⟩
  · have herror : commandSpec (keyword, v) = .error [⟨["commands", keyword], .notSection⟩] := by
      cases v with
      | record fields => exact absurd ⟨fields, rfl⟩ hv
      | _ => rfl
    rw [herror]
    exact iff_of_false (by rintro ⟨⟩) (fun h ↦ hv h.2.1)

/-- A section is checked if it is a table, and if there is none like one without fields. -/
theorem section_eq_ok_iff {α : Type} (check : Fields Value → Checked α) {absent : Checked α}
    (habsent : check [] = absent) {t : Fields Value} {name : String} {is : List Issue} {a : α} :
    (match t.get? name with
      | none => absent
      | some (.record inner) => check inner
      | some _ => .error is) = .ok a ↔ TableAt name t ∧ check (t.under name) = .ok a := by
  rw [TableAt]
  cases hget : t.get? name with
  | none =>
    rw [under_of_get?_eq_none hget, habsent]
    exact (and_iff_right (by rintro v ⟨⟩)).symm
  | some v =>
    rw [under_of_get? hget]
    by_cases hv : v.IsTable
    · obtain ⟨inner, rfl⟩ := hv
      refine (and_iff_right fun w h ↦ ?_).symm
      rw [← Option.some.inj h]
      exact ⟨inner, rfl⟩
    · refine iff_of_false (fun h ↦ ?_) (fun h ↦ hv (h.1 v rfl))
      cases v with
      | record inner => exact hv ⟨inner, rfl⟩
      | _ => cases h

theorem commandTable_eq_ok_iff {fields : Fields Value} {cs : Fields CommandSpec} :
    commandTable fields = .ok cs ↔
      TableAt "commands" fields ∧ Checked.all commandSpec (fields.under "commands") = .ok cs :=
  section_eq_ok_iff (Checked.all commandSpec) rfl

theorem warnTrailingLeaf_eq_ok_iff {fields : Fields Value} {b : Bool} :
    warnTrailingLeaf fields = .ok b ↔ TableAt "interpreter" fields ∧
      leaf truth true ["interpreter"] (fields.under "interpreter") "warn_trailing" = .ok b :=
  section_eq_ok_iff (leaf truth true ["interpreter"] · "warn_trailing") rfl

/-! ## Checked commands -/

section

variable {entries : Fields Value} {cs : Fields CommandSpec}
  (hall : Checked.all commandSpec entries = .ok cs)
include hall

theorem names_of_all_commandSpec : cs.names = entries.names := by
  rw [Checked.all_eq_ok_iff] at hall
  induction hall with
  | nil => rfl
  | cons h _ ih => exact congrArg₂ List.cons (commandSpec_eq_ok_iff.mp h).1 ih

theorem tableAt_of_all_commandSpec (keyword : String) : TableAt keyword entries := by
  intro v hget
  obtain ⟨p, hp⟩ := Checked.exists_all_eq_ok_iff.mp ⟨cs, hall⟩ _ (mem_of_get? hget)
  exact (commandSpec_eq_ok_iff.mp hp).2.1

/-- Each field of each command is checked, where commands that are missing have no fields. -/
theorem leaf_of_all_commandSpec (keyword : String) (f : CommandField) :
    leaf text f.default ["commands", keyword] (entries.under keyword) f.name
      = .ok ((cs.get? keyword).elim f.default (·.read f)) := by
  rw [Checked.all_eq_ok_iff] at hall
  induction hall with
  | nil => rfl
  | @cons entry p entries cs h _ ih =>
    obtain ⟨k, v⟩ := entry
    obtain ⟨k', spec⟩ := p
    obtain ⟨rfl, -, hleaf⟩ := commandSpec_eq_ok_iff.mp h
    rw [under, get?, get?]
    by_cases hk : k' = keyword
    · rw [if_pos hk, if_pos hk]
      exact hk ▸ hleaf f
    · rw [if_neg hk, if_neg hk]
      exact ih

end

/-! ## Leaves of layers -/

/-- What the strongest table that has the leaf says about it, or its default. The tables are those
at the location. -/
def decided {α : Type} (check : List String → Value → Checked α) (default : α)
    (location : List String) (tables : List (Fields Value)) (name : String) : Checked α :=
  match strongest name tables with
  | some v => check (location ++ [name]) v
  | none => .ok default

variable {layers : List (Fields Value)}

theorem leaf_layered {α : Type} {check : List String → Value → Checked α}
    (hcheck : ∀ location v, v.IsTable → ∀ a, check location v ≠ .ok a)
    (hlayers : ∀ t ∈ layers, NamesOnce t) {default a : α} {location : List String} {name : String} :
    leaf check default location (layered layers) name = .ok a ↔
      decided check default location layers name = .ok a := by
  rw [leaf, decided, get?_layered hlayers]
  cases strongest name layers with
  | none => exact Iff.rfl
  | some v =>
    by_cases hv : v.IsTable
    · obtain ⟨fields, rfl⟩ := hv
      exact iff_of_false (hcheck _ _ ⟨_, rfl⟩ a) (hcheck _ _ ⟨_, rfl⟩ a)
    · rw [Option.map_some, Value.withFields_of_not_isTable hv]

theorem truth_ne_ok_of_isTable (location : List String) (v : Value) (h : v.IsTable) (b : Bool) :
    truth location v ≠ .ok b := by
  obtain ⟨fields, rfl⟩ := h
  rintro ⟨⟩

theorem text_ne_ok_of_isTable (location : List String) (v : Value) (h : v.IsTable) (s : String) :
    text location v ≠ .ok s := by
  obtain ⟨fields, rfl⟩ := h
  rintro ⟨⟩

theorem tableAt_layered_iff (hlayers : ∀ t ∈ layers, NamesOnce t) {name : String} :
    TableAt name (layered layers) ↔ ∀ v, strongest name layers = some v → v.IsTable := by
  rw [TableAt, get?_layered hlayers]
  cases strongest name layers with
  | none => exact iff_of_true (by rintro v ⟨⟩) (by rintro v ⟨⟩)
  | some v =>
    have hsame : (v.withFields (layered (layers.map (under name)))).IsTable ↔ v.IsTable := by
      cases v with
      | record fields => exact iff_of_true ⟨_, rfl⟩ ⟨_, rfl⟩
      | _ => exact Iff.rfl
    simpa using hsame

/-- The settings of tables in layers, the strongest first: each leaf is what the strongest table
that has it says, or else its default, and the commands are those that the tables name. -/
structure Layered (layers : List (Fields Value)) (s : Settings) : Prop where
  flag : ∀ f : Flag, decided truth false [] layers f.name = .ok (s.isOn f)
  warnTrailing : decided truth true ["interpreter"] (layers.map (along ["interpreter"]))
    "warn_trailing" = .ok s.warnTrailing
  field : ∀ (keyword : String) (f : CommandField),
    decided text f.default ["commands", keyword] (layers.map (along ["commands", keyword])) f.name
      = .ok (s.commandField keyword f)
  commands : ∀ keyword, keyword ∈ s.commands.names ↔
    ∃ t ∈ layers, keyword ∈ (t.along ["commands"]).names

theorem all_commandSpec_of_checkRest {fields : Fields Value} {s : Settings} {path : Option Path}
    (h : ofFields path fields = .ok s) :
    TableAt "commands" fields ∧
      Checked.all commandSpec (fields.under "commands") = .ok s.commands := by
  obtain ⟨-, hrest, -⟩ := ofFields_eq_ok_iff.mp h
  obtain ⟨-, hrest⟩ := both_eq_ok.mp hrest
  exact commandTable_eq_ok_iff.mp (both_eq_ok.mp hrest).1

theorem layered_of_ofFields (hlayers : ∀ t ∈ layers, NamesOnce t) {s : Settings}
    {path : Option Path} (h : ofFields path (layered layers) = .ok s) : Layered layers s := by
  obtain ⟨htable, hall⟩ := all_commandSpec_of_checkRest h
  obtain ⟨hflag, hrest, -⟩ := ofFields_eq_ok_iff.mp h
  obtain ⟨hinterpreter, hleaf⟩ := warnTrailingLeaf_eq_ok_iff.mp (both_eq_ok.mp hrest).1
  have hcommandLayers : ∀ t ∈ layers.map (under "commands"), NamesOnce t :=
    namesOnce_along hlayers ["commands"]
  have hcommands := under_layered hlayers ((tableAt_layered_iff hlayers).mp htable)
  rw [under_layered hlayers ((tableAt_layered_iff hlayers).mp hinterpreter)] at hleaf
  refine ⟨fun f ↦ ?_, ?_, fun keyword f ↦ ?_, fun keyword ↦ ?_⟩
  · exact (leaf_layered truth_ne_ok_of_isTable hlayers).mp (hflag f)
  · exact (leaf_layered truth_ne_ok_of_isTable (namesOnce_along hlayers ["interpreter"])).mp hleaf
  · have hfield := leaf_of_all_commandSpec hall keyword f
    have hkeyword := tableAt_of_all_commandSpec hall keyword
    rw [hcommands] at hfield hkeyword
    rw [under_layered hcommandLayers ((tableAt_layered_iff hcommandLayers).mp hkeyword),
      List.map_map] at hfield
    exact (leaf_layered text_ne_ok_of_isTable
      (namesOnce_along hlayers ["commands", keyword])).mp hfield
  · rw [names_of_all_commandSpec hall, hcommands, mem_names_layered]
    simp only [List.mem_map, exists_exists_and_eq_and]
    rfl

end Settings

end LineCommands
