import LineCommands.Proofs.Config.Leaves
import LineCommands.Proofs.Config.OneLeaf

/-!
# Layers that give settings

Tables in layers give settings exactly if they are in order (`InOrder`): wherever a table is due the
strongest that has something there has a table, and wherever a leaf is due it has one that can be
taken. So if one of the tables is replaced by another that differs in a text, this text and the
tables that lead to it are all that has to be looked at.
-/

namespace LineCommands.Settings

open Fields

/-! ## Checks that succeed on some value -/

theorem exists_decided_iff {α : Type} {check : List String → Value → Checked α} {default : α}
    {location : List String} {tables : List (Fields Value)} {name : String} :
    (∃ a, decided check default location tables name = .ok a) ↔
      ∀ v, strongest name tables = some v → ∃ a, check (location ++ [name]) v = .ok a := by
  rw [decided]
  cases strongest name tables with
  | none => exact iff_of_true ⟨default, rfl⟩ (by rintro v ⟨⟩)
  | some v => simp

theorem exists_commandSpec_iff {keyword : String} {v : Value} :
    (∃ p, commandSpec (keyword, v) = .ok p) ↔ v.IsTable ∧ ∀ f : CommandField, ∃ s,
      leaf text f.default ["commands", keyword] v.fields f.name = .ok s := by
  constructor
  · rintro ⟨p, hp⟩
    obtain ⟨-, htable, hleaf⟩ := commandSpec_eq_ok_iff.mp hp
    exact ⟨htable, fun f ↦ ⟨_, hleaf f⟩⟩
  · rintro ⟨htable, hleaf⟩
    choose read hread using hleaf
    refine ⟨(keyword, ⟨read .description, read .template, read .action⟩),
      commandSpec_eq_ok_iff.mpr ⟨rfl, htable, fun f ↦ ?_⟩⟩
    rw [hread f]
    cases f <;> rfl

/-- Commands can be checked one by one, where those that are missing have no fields. -/
theorem exists_all_commandSpec_iff {entries : Fields Value} (hnodup : entries.names.Nodup) :
    (∃ cs, Checked.all commandSpec entries = .ok cs) ↔ ∀ keyword, TableAt keyword entries ∧
      ∀ f : CommandField, ∃ s,
        leaf text f.default ["commands", keyword] (entries.under keyword) f.name = .ok s := by
  rw [Checked.exists_all_eq_ok_iff]
  constructor
  · intro h keyword
    cases hget : entries.get? keyword with
    | none =>
      rw [TableAt, under_of_get?_eq_none hget, hget]
      exact ⟨by rintro v ⟨⟩, fun f ↦ ⟨f.default, rfl⟩⟩
    | some v =>
      obtain ⟨htable, hleaf⟩ := exists_commandSpec_iff.mp (h _ (mem_of_get? hget))
      rw [TableAt, under_of_get? hget, hget]
      exact ⟨fun w hw ↦ Option.some.inj hw ▸ htable, hleaf⟩
  · rintro h ⟨keyword, v⟩ hmem
    have hget := get?_of_mem hnodup hmem
    obtain ⟨htable, hleaf⟩ := h keyword
    rw [under_of_get? hget] at hleaf
    exact exists_commandSpec_iff.mpr ⟨htable v hget, hleaf⟩

theorem extras_eq_ok_iff {fields : Fields Value} :
    extras fields = .ok () ↔ ∀ name ∈ fields.names, name ∈ knownNames := by
  rw [extras]
  have hnil : fields.names.filter (!knownNames.contains ·) = []
      ↔ ∀ name ∈ fields.names, name ∈ knownNames := by simp
  rw [← hnil]
  split
  · next h => exact iff_of_true rfl h
  · next names h => exact iff_of_false (by rintro ⟨⟩) h

theorem exists_ofFields_eq_ok_iff {path : Option Path} {fields : Fields Value} :
    (∃ s, ofFields path fields = .ok s) ↔
      (∀ f : Flag, ∃ b, leaf truth false [] fields f.name = .ok b) ∧
      (∃ b, warnTrailingLeaf fields = .ok b) ∧ (∃ cs, commandTable fields = .ok cs) ∧
      ∀ name ∈ fields.names, name ∈ knownNames := by
  constructor
  · rintro ⟨s, hs⟩
    obtain ⟨hflag, hrest, -⟩ := ofFields_eq_ok_iff.mp hs
    obtain ⟨hwarn, hrest⟩ := both_eq_ok.mp hrest
    obtain ⟨hcommands, hextras⟩ := both_eq_ok.mp hrest
    exact ⟨fun f ↦ ⟨_, hflag f⟩, ⟨_, hwarn⟩, ⟨_, hcommands⟩, extras_eq_ok_iff.mp hextras⟩
  · rintro ⟨hflag, ⟨warnTrailing, hwarn⟩, ⟨commands, hcommands⟩, hknown⟩
    choose on hon using hflag
    refine ⟨⟨path, on .json, on .quiet, on .verbose, on .logJson, warnTrailing, commands⟩,
      ofFields_eq_ok_iff.mpr ⟨fun f ↦ ?_, both_eq_ok.mpr ⟨hwarn, both_eq_ok.mpr ⟨hcommands,
        extras_eq_ok_iff.mpr hknown⟩⟩, rfl⟩⟩
    rw [hon f]
    cases f <;> rfl

/-! ## Layers in order -/

/-- What the strongest table has is a table where one is due, and where a leaf is due a value that
can be taken. -/
structure InOrder (layers : List (Fields Value)) : Prop where
  flag : ∀ (f : Flag) v, strongest f.name layers = some v → ∃ b, truth [f.name] v = .ok b
  interpreter : ∀ v, strongest "interpreter" layers = some v → v.IsTable
  warnTrailing : ∀ v, strongest "warn_trailing" (layers.map (along ["interpreter"])) = some v →
    ∃ b, truth ["interpreter", "warn_trailing"] v = .ok b
  commands : ∀ v, strongest "commands" layers = some v → v.IsTable
  command : ∀ keyword v, strongest keyword (layers.map (along ["commands"])) = some v → v.IsTable
  field : ∀ keyword (f : CommandField) v,
    strongest f.name (layers.map (along ["commands", keyword])) = some v →
      ∃ s, text ["commands", keyword, f.name] v = .ok s
  known : ∀ t ∈ layers, ∀ name ∈ t.names, name ∈ knownNames

section

variable {layers : List (Fields Value)} (hlayers : ∀ t ∈ layers, NamesOnce t)
include hlayers

theorem exists_warnTrailingLeaf_layered_iff :
    (∃ b, warnTrailingLeaf (layered layers) = .ok b) ↔
      (∀ v, strongest "interpreter" layers = some v → v.IsTable) ∧
      ∀ v, strongest "warn_trailing" (layers.map (along ["interpreter"])) = some v →
        ∃ b, truth ["interpreter", "warn_trailing"] v = .ok b := by
  simp only [warnTrailingLeaf_eq_ok_iff, exists_and_left, tableAt_layered_iff hlayers]
  refine and_congr_right fun htable ↦ ?_
  rw [under_layered hlayers htable]
  have hinner := namesOnce_along hlayers ["interpreter"]
  exact (exists_congr fun b ↦ leaf_layered truth_ne_ok_of_isTable hinner).trans exists_decided_iff

theorem exists_commandTable_layered_iff :
    (∃ cs, commandTable (layered layers) = .ok cs) ↔
      (∀ v, strongest "commands" layers = some v → v.IsTable) ∧
      (∀ keyword v, strongest keyword (layers.map (along ["commands"])) = some v → v.IsTable) ∧
      ∀ keyword (f : CommandField) v,
        strongest f.name (layers.map (along ["commands", keyword])) = some v →
          ∃ s, text ["commands", keyword, f.name] v = .ok s := by
  have hentries : ∀ t ∈ layers.map (under "commands"), NamesOnce t :=
    namesOnce_along hlayers ["commands"]
  simp only [commandTable_eq_ok_iff, exists_and_left, tableAt_layered_iff hlayers]
  refine and_congr_right fun htable ↦ ?_
  rw [under_layered hlayers htable, exists_all_commandSpec_iff (namesOnce_layered hentries).nodup,
    ← forall_and]
  refine forall_congr' fun keyword ↦ ?_
  rw [tableAt_layered_iff hentries]
  refine and_congr_right fun hkeyword ↦ forall_congr' fun f ↦ ?_
  rw [under_layered hentries hkeyword, List.map_map]
  have hinner := namesOnce_along hlayers ["commands", keyword]
  exact (exists_congr fun s ↦ leaf_layered text_ne_ok_of_isTable hinner).trans exists_decided_iff

/-- Layers give settings exactly if they are in order. -/
theorem exists_ofFields_layered_iff {path : Option Path} :
    (∃ s, ofFields path (layered layers) = .ok s) ↔ InOrder layers := by
  have hflag : (∀ f : Flag, ∃ b, leaf truth false [] (layered layers) f.name = .ok b) ↔
      ∀ (f : Flag) v, strongest f.name layers = some v → ∃ b, truth [f.name] v = .ok b :=
    forall_congr' fun f ↦
      (exists_congr fun b ↦ leaf_layered truth_ne_ok_of_isTable hlayers).trans exists_decided_iff
  have hknown : (∀ name ∈ (layered layers).names, name ∈ knownNames) ↔
      ∀ t ∈ layers, ∀ name ∈ t.names, name ∈ knownNames := by
    simp only [mem_names_layered]
    constructor
    · exact fun h t ht name hname ↦ h name ⟨t, ht, hname⟩
    · rintro h name ⟨t, ht, hname⟩
      exact h t ht name hname
  rw [exists_ofFields_eq_ok_iff, hflag, exists_warnTrailingLeaf_layered_iff hlayers,
    exists_commandTable_layered_iff hlayers, hknown]
  constructor
  · rintro ⟨hflag, ⟨hinterpreter, hwarn⟩, ⟨hcommands, hcommand, hfield⟩, hknown⟩
    exact ⟨hflag, hinterpreter, hwarn, hcommands, hcommand, hfield, hknown⟩
  · rintro ⟨hflag, hinterpreter, hwarn, hcommands, hcommand, hfield, hknown⟩
    exact ⟨hflag, ⟨hinterpreter, hwarn⟩, ⟨hcommands, hcommand, hfield⟩, hknown⟩

end

/-! ## One text more -/

section

variable {before after : List (Fields Value)} {t t' : Fields Value} {name : String}

theorem strongest_replaced (h : t'.get? name = t.get? name) :
    strongest name (before ++ t' :: after) = strongest name (before ++ t :: after) := by
  rw [strongest, strongest, List.findSome?_append, List.findSome?_append, List.findSome?_cons,
    List.findSome?_cons, h]

theorem of_strongest_replaced {p : Value → Prop}
    (h : t'.get? name = t.get? name ∨ ∃ v, t'.get? name = some v ∧ p v)
    (ht : ∀ v, strongest name (before ++ t :: after) = some v → p v) :
    ∀ v, strongest name (before ++ t' :: after) = some v → p v := by
  obtain h | ⟨w, hw, hp⟩ := h
  · rwa [strongest_replaced h]
  · intro v hv
    rw [strongest, List.findSome?_append, List.findSome?_cons, hw] at hv
    rw [strongest, List.findSome?_append] at ht
    cases hbefore : before.findSome? (get? name) with
    | none =>
      rw [hbefore, Option.none_or] at hv
      exact Option.some.inj hv ▸ hp
    | some u =>
      rw [hbefore, Option.some_or] at hv ht
      exact ht v hv

end

section

variable {before after : List (Fields Value)} {own own' : Fields Value} {x : String}
  {f : CommandField}
  (h : AddsText False ["commands", x, f.name] (some (.record own)) (some (.record own')))
include h

theorem get?_of_addsText {name : String} (hname : name ≠ "commands") :
    own'.get? name = own.get? name := h.beside hname

theorem get?_along_of_addsText {keyword : String} {g : CommandField}
    (hfield : ¬(keyword = x ∧ g = f)) :
    (own'.along ["commands", keyword]).get? g.name
      = (own.along ["commands", keyword]).get? g.name := by
  by_cases hkeyword : keyword = x
  · subst hkeyword
    exact h.below.below.beside (mt CommandField.name_inj.mp fun hg ↦ hfield ⟨rfl, hg⟩)
  · have hsame : (own'.along ["commands"]).get? keyword = (own.along ["commands"]).get? keyword :=
      h.below.beside hkeyword
    show (contents ((own'.along ["commands"]).get? keyword)).get? g.name = _
    rw [hsame]
    rfl

theorem inOrder_of_addsText (horder : InOrder (before ++ own :: after)) :
    InOrder (before ++ own' :: after) := by
  have hbeside := @get?_of_addsText own own' x f h
  have hflag : ∀ f : Flag, f.name ≠ "commands" := by
    intro f
    cases f <;> decide
  have hinterpreter : own'.along ["interpreter"] = own.along ["interpreter"] :=
    congrArg contents (hbeside (by decide))
  constructor
  · exact fun g ↦ of_strongest_replaced (Or.inl (hbeside (hflag g))) (horder.flag g)
  · exact of_strongest_replaced (Or.inl (hbeside (by decide))) horder.interpreter
  · have hwarn := horder.warnTrailing
    rwa [List.map_append, List.map_cons, ← hinterpreter, ← List.map_cons, ← List.map_append]
      at hwarn
  · exact of_strongest_replaced h.below.isTable horder.commands
  · intro keyword
    have hcommand := horder.command keyword
    rw [List.map_append, List.map_cons] at hcommand ⊢
    refine of_strongest_replaced ?_ hcommand
    by_cases hkeyword : keyword = x
    · exact hkeyword ▸ h.below.below.isTable
    · exact Or.inl (h.below.beside hkeyword)
  · intro keyword g
    have hfield := horder.field keyword g
    rw [List.map_append, List.map_cons] at hfield ⊢
    refine of_strongest_replaced ?_ hfield
    by_cases hsame : keyword = x ∧ g = f
    · obtain ⟨rfl, rfl⟩ := hsame
      obtain hsame | ⟨s, hs⟩ := h.below.below.below
      · exact Or.inl hsame
      · exact Or.inr ⟨_, hs, s, rfl⟩
    · exact Or.inl (get?_along_of_addsText h hsame)
  · have hknown := horder.known
    rw [List.forall_mem_append, List.forall_mem_cons] at hknown ⊢
    refine ⟨hknown.1, fun name hname ↦ ?_, hknown.2.2⟩
    by_cases hcommands : name = "commands"
    · exact hcommands ▸ by decide
    · refine hknown.2.1 name ?_
      rwa [← get?_isSome_iff, ← hbeside hcommands, get?_isSome_iff]

end

end LineCommands.Settings
