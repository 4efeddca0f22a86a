import LineCommands.Proofs.Config.OneLeaf
import LineCommands.Proofs.Config.Variables

/-!
# The table of commands with one variable more

A variable for a field of a command adds a text to the table of the parts of the commands, wherever
it stands among the variables (`addsText_commandParts`), and so to the table of the commands, where
the parts stand above the value of the variable of all commands (`addsText_overWhole`). Nothing else
changes.

The text is there to be read unless there is a variable of the command as a whole
(`hasText_commandParts`), and it is heard unless the variable of all commands holds something else
than a table, which takes the place of all parts (`HearsParts`).
-/

namespace LineCommands.Environment

open Fields

/-! ## Parts -/

section

variable {setting : String} {value : List String → String → Value} {t t' : Fields Value}

theorem addsText_addParts {path : List String}
    (h : AddsText True path (some (.record t)) (some (.record t'))) (vars : Fields String) :
    AddsText True path (some (.record (vars.foldl (addPart setting value) t)))
      (some (.record (vars.foldl (addPart setting value) t'))) := by
  induction vars generalizing t t' with
  | nil => exact h
  | cons var vars ih =>
    refine ih ?_
    rw [addPart, addPart]
    split
    · next other _ =>
      cases other with
      | nil => exact h
      | cons name rest => exact h.planted _ (name :: rest)
    · exact h

theorem mem_names_plant {name : String} (h : name ∈ t.names) (v : Value) (path : List String) :
    name ∈ (plant v path t).names := by
  cases path with
  | nil => exact h
  | cons first rest =>
    rw [← get?_isSome_iff, get?_plant_cons]
    split
    · rfl
    · exact (get?_isSome_iff _ _).mpr h

theorem mem_names_parts {vars : Fields String} {var : String × String} (hvar : var ∈ vars)
    {name : String} {rest : List String}
    (h : partPath? (namePrefix ++ setting) var.1 = some (name :: rest)) :
    name ∈ (parts setting value vars).names := by
  obtain ⟨before, after, rfl⟩ := List.append_of_mem hvar
  rw [parts_eq_foldl, List.foldl_append, List.foldl_cons]
  refine of_addParts (p := (name ∈ ·.names)) (fun _ _ path _ t ht ↦ mem_names_plant ht _ path) ?_
  rw [addPart_of_partPath? h, ← get?_isSome_iff, get?_plant_cons, if_pos rfl]
  rfl

end

/-! ## A text in a table -/

/-- Under the name there is a table with the text. -/
def HasText (x name text : String) (t : Fields Value) : Prop :=
  ∃ fields : Fields Value, t.get? x = some (.record fields) ∧ fields.get? name = some (.text text)

section

variable {x name text : String} {t : Fields Value} {path : List String} {v : Value}

theorem tableAt_plant (hpath : path ≠ [x]) (h : TableAt x t) : TableAt x (plant v path t) := by
  cases path with
  | nil => exact h
  | cons first rest =>
    intro w hw
    rw [get?_plant_cons] at hw
    split at hw
    · next hfirst =>
      subst hfirst
      cases rest with
      | nil => exact absurd rfl hpath
      | cons next rest =>
        rw [planted_of_isTable next rest h] at hw
        rw [← Option.some.inj hw]
        exact ⟨_, rfl⟩
    · exact h w hw

theorem hasText_plant_self (h : TableAt x t) :
    HasText x name text (plant (.text text) [x, name] t) := by
  refine ⟨plant (.text text) [name] (contents (t.get? x)), ?_, ?_⟩
  · rw [get?_plant_cons, if_pos rfl, planted_of_isTable name [] h]
  · rw [get?_plant_cons, if_pos rfl]
    rfl

/-- A text stays where it is unless something else is planted in its place or further up. -/
theorem hasText_plant (hpath : path ≠ [x]) (hpath' : path ≠ [x, name])
    (h : HasText x name text t) : HasText x name text (plant v path t) := by
  obtain ⟨fields, hfields, htext⟩ := h
  cases path with
  | nil => exact ⟨fields, hfields, htext⟩
  | cons first rest =>
    by_cases hfirst : first = x
    · subst hfirst
      cases rest with
      | nil => exact absurd rfl hpath
      | cons next rest =>
        refine ⟨plant v (next :: rest) fields, ?_, ?_⟩
        · rw [get?_plant_cons, if_pos rfl, hfields]
          rfl
        · rw [get?_plant_cons]
          by_cases hnext : next = name
          · subst hnext
            rw [if_pos rfl, htext]
            cases rest with
            | nil => exact absurd rfl hpath'
            | cons last rest => rfl
          · rw [if_neg hnext, htext]
    · exact ⟨fields, by rw [get?_plant_cons, if_neg hfirst, hfields], htext⟩

end

/-! ## Parts of commands -/

/-- The table of the parts of the commands. -/
def commandParts (vars : Fields String) : Fields Value := parts "commands" commandPart vars

section

variable {x : String} {f : CommandField} {var : String × String}
  (hvar : partPath? commandsVariable var.1 = some [x, f.name])
include hvar

theorem addPart_commandPart (t : Fields Value) :
    addPart "commands" commandPart t var = plant (.text var.2) [x, f.name] t :=
  addPart_of_partPath? hvar t

/-- **One variable more.** It adds its text to the parts, and nothing else. -/
theorem addsText_commandParts {vars before after : Fields String}
    (h : vars = before ++ after ∨ ∃ old, vars = before ++ (var.1, old) :: after) :
    AddsText True [x, f.name] (some (.record (commandParts vars)))
      (some (.record (commandParts (before ++ var :: after)))) := by
  obtain rfl | ⟨old, rfl⟩ := h
  · simp only [commandParts, parts_eq_foldl, List.foldl_append, List.foldl_cons]
    rw [addPart_commandPart hvar]
    exact addsText_addParts (addsText_planted _ [x, f.name] (some (.record _))) after
  · simp only [commandParts, parts_eq_foldl, List.foldl_append, List.foldl_cons]
    have hold : partPath? commandsVariable (var.1, old).1 = some [x, f.name] := hvar
    rw [addPart_commandPart hvar, addPart_commandPart hold]
    exact addsText_addParts (addsText_planted_planted _ _ [x, f.name] (some (.record _))) after

theorem hasText_commandParts {vars : Fields String} (hnodup : vars.names.Nodup) (hmem : var ∈ vars)
    (hwhole : ∀ other ∈ vars, partPath? commandsVariable other.1 ≠ some [x]) :
    HasText x f.name var.2 (commandParts vars) := by
  obtain ⟨before, after, rfl⟩ := List.append_of_mem hmem
  rw [List.forall_mem_append, List.forall_mem_cons] at hwhole
  obtain ⟨hbefore, -, hafter⟩ := hwhole
  have hnew : ∀ other ∈ after, partPath? commandsVariable other.1 ≠ some [x, f.name] := by
    intro other hother hpath
    rw [names, List.map_append, List.map_cons, List.nodup_append, List.nodup_cons] at hnodup
    exact hnodup.2.1.1 (partPath?_inj hvar hpath ▸ List.mem_map_of_mem hother)
  rw [commandParts, parts_eq_foldl, List.foldl_append, List.foldl_cons, addPart_commandPart hvar]
  -- Before the variable nothing gets in its way, and after it nothing takes its place.
  refine of_addParts (p := HasText x f.name var.2) ?_ (hasText_plant_self (of_addParts
    (p := TableAt x) ?_ (by rintro v ⟨⟩)))
  · intro other hother path hpath t
    exact hasText_plant (fun heq ↦ hafter other hother (heq ▸ hpath))
      (fun heq ↦ hnew other hother (heq ▸ hpath))
  · intro other hother path hpath t
    exact tableAt_plant (fun heq ↦ hbefore other hother (heq ▸ hpath))

end

/-! ## Parts over the whole -/

/-- What the variable of a setting holds, if it holds anything that can be read. -/
def whole? (setting : String) (vars : Fields String) : Option (Option Value) :=
  match vars.get? (namePrefix ++ setting) with
  | none => some none
  | some text => (Json.read? text).map some

/-- The parts of a setting above the value of its own variable. If that is no table, it takes the
place of all parts, and if it is nothing, there is nothing. -/
def overWhole (below : Fields Value) : Option Value → Option Value
  | none => if below.isEmpty then none else some (.record below)
  | some (.record fields) => some (.record (mergeFields fields below))
  | some .absent => none
  | some v => some v

section

variable {setting : String} {value : List String → String → Value} {vars : Fields String}

theorem table_eq : table setting value vars =
    match whole? setting vars with
    | some whole => .ok (overWhole (parts setting value vars) whole)
    | none => .error ⟨setting⟩ := by
  rw [table, whole?]
  cases vars.get? (namePrefix ++ setting) with
  | none => rfl
  | some text =>
    cases hread : Json.read? text with
    | none => simp only [hread, Option.map_none]
    | some v => cases v <;> simp only [hread, Option.map_some, overWhole]

theorem table_eq_ok_iff {c : Option Value} : table setting value vars = .ok c ↔
    ∃ whole, whole? setting vars = some whole ∧ overWhole (parts setting value vars) whole = c := by
  rw [table_eq]
  cases whole? setting vars with
  | none => exact iff_of_false (by rintro ⟨⟩) (by rintro ⟨whole, ⟨⟩, -⟩)
  | some whole => simp

end

section

variable {below below' : Fields Value} {x name text : String} {whole : Option Value}

/-- Parts are merged with the value of the setting if this is a table. -/
theorem contents_overWhole (hbelow : below.names.Nodup) (hwhole : ∀ v, whole = some v → v.IsTable) :
    contents (overWhole below whole) = mergeFields (contents whole) below := by
  cases whole with
  | none =>
    have hmerge : mergeFields (contents none) below = below := mergeFields_of_nodup hbelow
    rw [hmerge, overWhole]
    cases below <;> rfl
  | some v =>
    obtain ⟨fields, rfl⟩ := hwhole v rfl
    rfl

theorem exists_overWhole_eq (hx : x ∈ below.names) (hwhole : ∀ v, whole = some v → v.IsTable) :
    ∃ fields, overWhole below whole = some (.record fields) := by
  cases whole with
  | none =>
    cases below with
    | nil => cases hx
    | cons p below => exact ⟨_, rfl⟩
  | some v =>
    obtain ⟨fields, rfl⟩ := hwhole v rfl
    exact ⟨_, rfl⟩

theorem overWhole_of_not_isTable {v : Value} (hv : ¬v.IsTable) (below below' : Fields Value) :
    overWhole below' (some v) = overWhole below (some v) := by
  cases v with
  | record fields => exact absurd ⟨fields, rfl⟩ hv
  | _ => rfl

theorem addsText_overWhole {path : List String}
    (h : AddsText True (x :: path) (some (.record below)) (some (.record below')))
    (hbelow : NamesOnce below) (hbelow' : NamesOnce below') (hx : x ∈ below'.names)
    (whole : Option Value) :
    AddsText False (x :: path) (overWhole below whole) (overWhole below' whole) := by
  by_cases hwhole : ∀ v, whole = some v → v.IsTable
  · obtain ⟨fields, hfields⟩ := exists_overWhole_eq hx hwhole
    have hcontents : fields = mergeFields (contents whole) below' := by
      rw [← contents_overWhole hbelow'.nodup hwhole, hfields]
      rfl
    have hlaid := h.laid hbelow hbelow' whole
    simp only [laid, mergeValue_record hbelow.nodup, mergeValue_record hbelow'.nodup,
      ← contents_overWhole hbelow.nodup hwhole, ← hcontents] at hlaid
    rw [hfields]
    exact Or.inr ⟨fields, rfl, False.elim, fun other hother ↦ hlaid.beside hother, hlaid.below⟩
  · obtain ⟨v, rfl, hv⟩ : ∃ v, whole = some v ∧ ¬v.IsTable := by simpa using hwhole
    rw [overWhole_of_not_isTable hv below below']
    exact AddsText.refl _ _ _

theorem HasText.mergeFields {t : Fields Value} (h : HasText x name text t) (ht : NamesOnce t)
    (weak : Fields Value) : HasText x name text (mergeFields weak t) := by
  obtain ⟨fields, hfields, htext⟩ := h
  have hinner : NamesOnce fields := ht.fields hfields
  refine ⟨LineCommands.mergeFields (contents (weak.get? x)) fields, ?_, ?_⟩
  · rw [get?_mergeFields_eq_laid ht.nodup, hfields, laid, mergeValue_record hinner.nodup]
  · rw [get?_mergeFields_eq_laid hinner.nodup, htext, laid,
      mergeValue_of_not_isTable (Value.not_isTable_text text)]

end

/-! ## What the environment gives -/

/-- The variables for parts of the commands are heard: the variable of all commands holds a table,
if there is one. -/
def HearsParts (vars : Variables) : Prop :=
  ∀ text v, (normalized vars).get? commandsVariable = some text → Json.read? text = some v →
    v.IsTable

section

variable {vars vars' : Variables} {own : Fields Value} {x : String} {f : CommandField}

theorem hearsParts_iff {whole : Option Value}
    (h : whole? "commands" (normalized vars) = some whole) :
    HearsParts vars ↔ ∀ v, whole = some v → v.IsTable := by
  rw [HearsParts, commandsVariable]
  rw [whole?] at h
  cases hget : (normalized vars).get? (namePrefix ++ "commands") with
  | none =>
    rw [hget] at h
    cases h
    exact iff_of_true (by rintro text v ⟨⟩) (by rintro v ⟨⟩)
  | some text =>
    rw [hget] at h
    obtain ⟨v, hv, rfl⟩ := Option.map_eq_some_iff.mp h
    constructor
    · exact fun h w hw ↦ Option.some.inj hw ▸ h text v rfl hv
    · rintro h _ w ⟨⟩ hw
      exact h w (hv.symm.trans hw)

theorem given_congr {given given' : Fields String}
    (h : ∀ flag ∈ flagNames, given.get? (namePrefix ++ flag) = given'.get? (namePrefix ++ flag)) :
    (flagNames.filterMap fun flag ↦
      (given.get? (namePrefix ++ flag)).map fun text ↦ (flag, Value.text text))
        = flagNames.filterMap fun flag ↦
          (given'.get? (namePrefix ++ flag)).map fun text ↦ (flag, Value.text text) :=
  List.filterMap_congr fun flag hflag ↦ by rw [h flag hflag]

/-- Variables that are neither flags nor for the tables or parts of them make no difference. -/
theorem settings_congr {p : String → Bool}
    (hflags : ∀ flag ∈ flagNames, p (namePrefix ++ flag) = true)
    (hwhole : ∀ setting ∈ ["interpreter", "commands"], p (namePrefix ++ setting) = true)
    (hparts : ∀ setting ∈ ["interpreter", "commands"], ∀ name, p name = false →
      partPath? (namePrefix ++ setting) name = none)
    (h : (normalized vars).keep p = (normalized vars').keep p) :
    settings vars = settings vars' := by
  have hgiven : ∀ flag ∈ flagNames, (normalized vars).get? (namePrefix ++ flag)
      = (normalized vars').get? (namePrefix ++ flag) := by
    intro flag hflag
    rw [← get?_keep (hflags flag hflag), h, get?_keep (hflags flag hflag)]
  have htable : ∀ setting ∈ ["interpreter", "commands"], ∀ value,
      table setting value (normalized vars) = table setting value (normalized vars') := by
    intro setting hsetting value
    have hkept := table_keep value (hparts setting hsetting) (hwhole setting hsetting)
    rw [← hkept, h, hkept]
  rw [settings, settings, htable "interpreter" (by decide), htable "commands" (by decide),
    given_congr hgiven]

theorem get?_commands_of_settings (hown : settings vars = .ok own) :
    ∃ whole, whole? "commands" (normalized vars) = some whole ∧
      own.get? "commands" = overWhole (commandParts (normalized vars)) whole := by
  obtain ⟨interpreter, commands, -, hcommands, rfl⟩ := settings_eq_ok_iff.mp hown
  obtain ⟨whole, hwhole, rfl⟩ := table_eq_ok_iff.mp hcommands
  refine ⟨whole, hwhole, ?_⟩
  rw [get?_append, get?_append, get?_filterMap, if_neg (by decide), get?_toList, get?_toList,
    if_neg (by decide), if_pos rfl]
  rfl

theorem exists_along_commands (hown : settings vars = .ok own) (h : HearsParts vars) :
    ∃ weak, own.along ["commands"] = mergeFields weak (commandParts (normalized vars)) := by
  obtain ⟨whole, hwhole, hget⟩ := get?_commands_of_settings hown
  refine ⟨contents whole, ?_⟩
  have hparts : NamesOnce (commandParts (normalized vars)) :=
    namesOnce_parts "commands" namesOnce_commandPart _
  show contents (own.get? "commands") = _
  rw [hget, contents_overWhole hparts.nodup ((hearsParts_iff hwhole).mp h)]

theorem Puts.hearsParts_congr {name : String} {path : List String} (h : Puts name vars vars')
    (hname : partPath? commandsVariable name = some path) : HearsParts vars' ↔ HearsParts vars := by
  have hne : commandsVariable ≠ name := ne_of_partPath? hname (by decide)
  rw [HearsParts, HearsParts, h.agreeBeside.get?_normalized_eq hne]

theorem mem_names_along_commands (hown : settings vars = .ok own) (h : HearsParts vars)
    {name : String} (hname : name ∈ (normalized vars).names) {rest : List String}
    (hpath : partPath? commandsVariable name = some (x :: rest)) :
    x ∈ (own.along ["commands"]).names := by
  obtain ⟨weak, hweak⟩ := exists_along_commands hown h
  obtain ⟨var, hvar, rfl⟩ := List.mem_map.mp hname
  rw [hweak, mem_names_mergeFields]
  exact Or.inr (mem_names_parts hvar hpath)

/-- The variable of a field is heard if there is none for the command as a whole. -/
theorem get?_along_commands (hown : settings vars = .ok own) (h : HearsParts vars)
    {name text : String} (hname : (normalized vars).get? name = some text)
    (hpath : partPath? commandsVariable name = some [x, f.name])
    (hwhole : ∀ other ∈ (normalized vars).names, partPath? commandsVariable other ≠ some [x]) :
    (own.along ["commands", x]).get? f.name = some (.text text) := by
  obtain ⟨weak, hweak⟩ := exists_along_commands hown h
  have hparts : NamesOnce (commandParts (normalized vars)) :=
    namesOnce_parts "commands" namesOnce_commandPart _
  have hvar : partPath? commandsVariable (name, text).1 = some [x, f.name] := hpath
  have htext : HasText x f.name text (commandParts (normalized vars)) :=
    hasText_commandParts hvar (nodup_names_normalized vars) (mem_of_get? hname)
      fun other hother ↦ hwhole _ (List.mem_map_of_mem hother)
  obtain ⟨fields, hfields, htext⟩ := htext.mergeFields hparts weak
  show (contents ((own.along ["commands"]).get? x)).get? f.name = _
  rw [hweak, hfields]
  exact htext

section

variable {name : String} (hname : partPath? commandsVariable name = some [x, f.name])
  (h : Puts name vars vars')
include hname h

theorem Puts.get?_eq_of_partPath? {other : String}
    (hother : partPath? commandsVariable other = none) :
    (normalized vars').get? other = (normalized vars).get? other :=
  h.agreeBeside.get?_normalized_eq (ne_of_partPath? hname hother)

theorem Puts.table_interpreter_eq (value : List String → String → Value) :
    table "interpreter" value (normalized vars') = table "interpreter" value (normalized vars) := by
  have hpart : ∀ other, (other != name) = false →
      partPath? (namePrefix ++ "interpreter") other = none := by
    intro other hsame
    rw [bne_eq_false_iff_eq.mp hsame]
    exact partPath?_interpreter_eq_none hname
  have hkept : (namePrefix ++ "interpreter" != name) = true :=
    bne_iff_ne.mpr (ne_of_partPath? hname (by decide))
  rw [← table_keep value hpart hkept, h.agreeBeside.normalized_keep_eq, table_keep value hpart hkept]

theorem Puts.addsText_commands (whole : Option Value) :
    AddsText False [x, f.name] (overWhole (commandParts (normalized vars)) whole)
      (overWhole (commandParts (normalized vars')) whole) := by
  obtain ⟨before, text, after, hvars', hvars⟩ := normalized_of_puts h
  have hparts : ∀ vars, NamesOnce (commandParts vars) :=
    namesOnce_parts "commands" namesOnce_commandPart
  have hvar : partPath? commandsVariable (name, text).1 = some [x, f.name] := hname
  have hadds := addsText_commandParts hvar hvars
  rw [← hvars'] at hadds
  have hmem : (name, text) ∈ normalized vars' := by
    rw [hvars']
    exact List.mem_append_right _ List.mem_cons_self
  have hx : x ∈ (commandParts (normalized vars')).names := mem_names_parts hmem hvar
  exact addsText_overWhole hadds (hparts _) (hparts _) hx whole

/-- **The environment.** With one more variable for a field of a command the environment gives a
text more, and nothing else changes. If the parts of the commands are not heard, nothing changes. -/
theorem Puts.exists_settings (hown : settings vars = .ok own) :
    ∃ own', settings vars' = .ok own' ∧
      AddsText False ["commands", x, f.name] (some (.record own)) (some (.record own')) ∧
      (¬HearsParts vars → own' = own) := by
  obtain ⟨interpreter, commands, hinterpreter, hcommands, howns⟩ := settings_eq_ok_iff.mp hown
  obtain ⟨whole, hwhole, rfl⟩ := table_eq_ok_iff.mp hcommands
  have hwhole' : whole? "commands" (normalized vars') = some whole := by
    rw [← hwhole, whole?, whole?, h.get?_eq_of_partPath? hname (by decide)]
  have hnone : ∀ flag ∈ flagNames, partPath? commandsVariable (namePrefix ++ flag) = none := by
    decide
  have hgiven := given_congr fun flag hflag ↦ h.get?_eq_of_partPath? hname (hnone flag hflag)
  rw [← h.table_interpreter_eq hname] at hinterpreter
  have hown' := settings_eq_ok_iff.mpr ⟨interpreter, _, hinterpreter,
    table_eq_ok_iff.mpr ⟨whole, hwhole', rfl⟩, rfl⟩
  refine ⟨_, hown', Or.inr ⟨_, rfl, False.elim, fun other hother ↦ ?_, ?_⟩, fun hheard ↦ ?_⟩
  · have hbeside : ∀ (front : Fields Value) (c : Option Value),
        get? other (front ++ (c.map (("commands", ·))).toList) = front.get? other := by
      intro front c
      rw [get?_append, get?_toList, if_neg hother.symm, Option.or_none]
    show _ = own.get? other
    rw [howns, hgiven, hbeside, hbeside]
  · obtain ⟨_, hsome, hget⟩ := get?_commands_of_settings hown
    obtain ⟨_, hsome', hget'⟩ := get?_commands_of_settings hown'
    obtain rfl := Option.some.inj (hwhole.symm.trans hsome)
    obtain rfl := Option.some.inj (hwhole'.symm.trans hsome')
    show AddsText False _ (own.get? "commands") _
    rw [hget, hget']
    exact h.addsText_commands hname whole
  · obtain ⟨v, rfl, hv⟩ : ∃ v, whole = some v ∧ ¬v.IsTable := by
      simpa [hearsParts_iff hwhole] using hheard
    rw [howns, hgiven, overWhole_of_not_isTable hv]

end

end

end LineCommands.Environment
