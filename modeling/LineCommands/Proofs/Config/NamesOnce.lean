import LineCommands.Proofs.Config.Flags
import LineCommands.Proofs.Config.Layers

/-!
# Tables without repeated names

What the readers of settings give are tables in which no name stands twice, however deep: records of
JSON are written field by field, where the later of two fields with one name counts; documents of
TOML never take a name again; and the variables of the environment are planted into tables one after
the other. This is what merging them relies on.
-/

namespace LineCommands

open Fields

theorem namesOnce_of_fields {v : Value} (h : v.fields = []) : NamesOnce v.fields := by
  rw [h]
  exact namesOnce_nil

/-! ## JSON -/

namespace Json

theorem fields_of_numberValue? {text : List Char} {v : Value} (h : numberValue? text = some v) :
    v.fields = [] := by
  rw [numberValue?] at h
  split at h
  · obtain ⟨d, -, rfl⟩ := Option.map_eq_some_iff.mp h
    rfl
  · obtain ⟨n, -, rfl⟩ := Option.map_eq_some_iff.mp h
    rfl

theorem fields_of_readScalar? {cs : List Char} {v : Value} {n : Nat}
    (h : readScalar? cs = some (v, n)) : v.fields = [] := by
  have hconstants : ∀ p ∈ constants, p.2.fields = [] := by simp [constants, Value.fields]
  rw [readScalar?] at h
  split at h
  · next word w hfind =>
    cases h
    exact hconstants _ (List.mem_of_find?_eq_some hfind)
  · obtain ⟨w, hw, heq⟩ := Option.map_eq_some_iff.mp h
    cases heq
    exact fields_of_numberValue? hw

/-- The values that are read here have no name twice, and if fields are read here, neither have
their values. -/
structure ReadsNamesOnce (cs : List Char) : Prop where
  value : ∀ {v rest hlt}, readValue? cs = some ⟨(v, rest), hlt⟩ → NamesOnce v.fields
  fields : ∀ {fields rest hlt}, readFields? cs = some ⟨(fields, rest), hlt⟩ →
    ∀ p ∈ fields, NamesOnce p.2.fields

theorem length_lt_of_skipSpace_eq {cs rest : List Char} {c : Char}
    (h : skipSpace cs = c :: rest) : (skipSpace rest).length < cs.length := by
  have hcs := length_skipSpace_le cs
  have hrest := length_skipSpace_le rest
  rw [h, List.length_cons] at hcs
  omega

theorem readsNamesOnce (cs : List Char) : ReadsNamesOnce cs := by
  induction hn : cs.length using Nat.strongRecOn generalizing cs with
  | ind n ih =>
    subst hn
    have hshorter : ∀ rest : List Char, rest.length < cs.length → ReadsNamesOnce rest :=
      fun rest h ↦ ih _ h rest rfl
    constructor
    · intro v rest hlt h
      rw [readValue?.eq_def] at h
      split at h
      · cases h
      · split at h
        · cases h
          exact namesOnce_nil
        · cases h
      · split at h
        · cases h
          exact namesOnce_nil
        · split at h
          · cases h
            exact namesOnce_nil
          · cases h
      · next start =>
        split at h
        · cases h
          exact namesOnce_nil
        · split at h
          · next hread =>
            cases h
            have hstart := hshorter _ (Nat.lt_succ_of_le (length_skipSpace_le start))
            exact namesOnce_ofPairs (hstart.fields hread)
          · cases h
      · split at h
        · next hread =>
          split at h
          · cases h
            exact namesOnce_of_fields (fields_of_readScalar? hread)
          · cases h
        · cases h
    · intro fields rest hlt h
      rw [readFields?.eq_def] at h
      split at h
      · next start =>
        split at h
        · cases h
        · next name rest₁ h₁ hname =>
          split at h
          · next rest₂ hcolon =>
            have hlt₂ := Nat.lt_succ_of_lt (Nat.lt_trans (length_lt_of_skipSpace_eq hcolon) h₁)
            split at h
            · cases h
            · next w rest₃ h₃ hread =>
              have hw := (hshorter _ hlt₂).value hread
              split at h
              · cases h
                exact List.forall_mem_singleton.mpr hw
              · next rest₄ hcomma =>
                split at h
                · next others after h₄ hothers =>
                  have hlt₄ := Nat.lt_trans (Nat.lt_trans (length_lt_of_skipSpace_eq hcomma) h₃) hlt₂
                  cases h
                  exact List.forall_mem_cons.mpr ⟨hw, (hshorter _ hlt₄).fields hothers⟩
                · cases h
              · cases h
          · cases h
      · cases h

theorem namesOnce_of_read? {s : String} {v : Value} (h : read? s = some v) :
    NamesOnce v.fields := by
  rw [read?] at h
  split at h
  · next hread =>
    split at h
    · cases h
      exact (readsNamesOnce _).value hread
    · cases h
  · cases h

end Json

/-! ## TOML -/

namespace Toml

namespace Document

theorem namesOnce_of_modify {change : Fields Value → Option (Fields Value)}
    (hchange : ∀ {t t' : Fields Value}, NamesOnce t → change t = some t' → NamesOnce t')
    {path : List String} {t t' : Fields Value} (ht : NamesOnce t)
    (h : modify change path t = some t') : NamesOnce t' := by
  induction path generalizing t t' with
  | nil => exact hchange ht h
  | cons name path ih =>
    rw [modify] at h
    cases hget : t.get? name with
    | none =>
      rw [hget] at h
      obtain ⟨inner, hinner, rfl⟩ := Option.map_eq_some_iff.mp h
      exact ht.set_record (ih namesOnce_nil hinner) name
    | some v =>
      rw [hget] at h
      cases v with
      | record inner =>
        obtain ⟨inner', hinner, rfl⟩ := Option.map_eq_some_iff.mp h
        have hbelow : NamesOnce inner := ht.fields hget
        exact ht.set_record (ih hbelow hinner) name
      | list items =>
        dsimp only at h
        split at h
        · obtain ⟨inner, -, rfl⟩ := Option.map_eq_some_iff.mp h
          exact ht.set_list _ name
        · cases h
      | _ => cases h

theorem namesOnce_of_insertNew {name : String} {v : Value} (hv : NamesOnce v.fields)
    {t t' : Fields Value} (ht : NamesOnce t) (h : insertNew name v t = some t') :
    NamesOnce t' := by
  rw [insertNew] at h
  split at h
  · cases h
    exact ht.set hv name
  · cases h

theorem namesOnce_of_appendTable {name : String} {t t' : Fields Value} (ht : NamesOnce t)
    (h : appendTable name t = some t') : NamesOnce t' := by
  rw [appendTable] at h
  split at h
  · cases h
    exact ht.set_list _ name
  · cases h
    exact ht.set_list _ name
  · cases h

/-- A value that a statement assigns has no name twice. -/
def AssignsNamesOnce : Statement → Prop
  | .assign _ v => NamesOnce v.fields
  | _ => True

theorem namesOnce_of_add {d d' : Document} {s : Statement} (hd : NamesOnce d.root)
    (hs : AssignsNamesOnce s) (h : d.add s = some d') : NamesOnce d'.root := by
  cases s with
  | table path =>
    rw [add] at h
    dsimp only at h
    split at h
    · cases h
    · obtain ⟨root, hroot, rfl⟩ := Option.map_eq_some_iff.mp h
      exact namesOnce_of_modify (fun ht h ↦ Option.some.inj h ▸ ht) hd hroot
  | tableItem path =>
    rw [add] at h
    dsimp only at h
    split at h
    · cases h
    · obtain ⟨root, hroot, rfl⟩ := Option.map_eq_some_iff.mp h
      exact namesOnce_of_modify namesOnce_of_appendTable hd hroot
  | assign key v =>
    rw [add] at h
    dsimp only at h
    split at h
    · cases h
    · obtain ⟨root, hroot, rfl⟩ := Option.map_eq_some_iff.mp h
      exact namesOnce_of_modify (namesOnce_of_insertNew hs) hd hroot

theorem namesOnce_of_foldlM {ss : List Statement} (hss : ∀ s ∈ ss, AssignsNamesOnce s)
    {d d' : Document} (hd : NamesOnce d.root) (h : ss.foldlM add d = some d') :
    NamesOnce d'.root := by
  induction ss generalizing d with
  | nil =>
    cases h
    exact hd
  | cons s ss ih =>
    obtain ⟨hs, hss⟩ := List.forall_mem_cons.mp hss
    rw [List.foldlM_cons] at h
    obtain ⟨next, hnext, h⟩ := Option.bind_eq_some_iff.mp h
    exact ih hss (namesOnce_of_add hd hs hnext) h

theorem namesOnce_of_ofStatements {ss : List Statement} (hss : ∀ s ∈ ss, AssignsNamesOnce s)
    {fields : Fields Value} (h : ofStatements ss = some fields) : NamesOnce fields := by
  obtain ⟨d, hd, rfl⟩ := Option.map_eq_some_iff.mp h
  exact namesOnce_of_foldlM hss namesOnce_nil hd

end Document

theorem orMalformed_eq_ok {α : Type} {o : Option α} {a : α} (h : orMalformed o = .ok a) :
    o = some a := by
  cases o with
  | none => cases h
  | some b => exact congrArg some (Except.ok.inj h)

theorem fields_of_readBased? {cs : List Char} {p : Value × Nat} (h : readBased? cs = some p) :
    p.1.fields = [] := by
  have hbased : ∀ base isDigit rest, readBased?.based base isDigit rest = some p →
      p.1.fields = [] := by
    intro base isDigit rest hp
    rw [readBased?.based] at hp
    split at hp
    · cases hp
    · cases hp
      rfl
  rw [readBased?.eq_def] at h
  split at h
  · exact hbased _ _ _ h
  · exact hbased _ _ _ h
  · exact hbased _ _ _ h
  · cases h

theorem fields_of_readDecimal {cs : List Char} {p : Value × Nat} (h : readDecimal cs = .ok p) :
    p.1.fields = [] := by
  -- Whatever the parts of the number are, its value is that of their text.
  have hparts : ∀ (empty long : Bool) (digits length : Nat) (text : List Char),
      (if empty = true then .error .malformed
        else if long = true then .error (.numberTooLong digits)
        else orMalformed ((Json.numberValue? text).map (·, length))) = Except.ok p →
      p.1.fields = [] := by
    intro empty long digits length text h
    split at h
    · cases h
    · split at h
      · cases h
      · obtain ⟨v, hv, rfl⟩ := Option.map_eq_some_iff.mp (orMalformed_eq_ok h)
        exact Json.fields_of_numberValue? hv
  exact hparts _ _ _ _ _ h

theorem fields_of_readScalar {cs : List Char} {v : Value} {n : Nat}
    (h : readScalar cs = .ok (v, n)) : v.fields = [] := by
  have hconstants : ∀ p ∈ constants, p.2.fields = [] := by simp [constants, Value.fields]
  rw [readScalar] at h
  split at h
  · next word w hfind =>
    cases h
    exact hconstants _ (List.mem_of_find?_eq_some hfind)
  · split at h
    · next p hp =>
      cases h
      obtain hmoment | ⟨-, hbased⟩ := Option.or_eq_some_iff.mp hp
      · obtain ⟨n, -, heq⟩ := Option.map_eq_some_iff.mp hmoment
        cases heq
        rfl
      · exact fields_of_readBased? hbased
    · exact fields_of_readDecimal h

/-- What is read here has no name twice: values, the values that keys are assigned, and inline
tables that had none before. -/
structure ReadsNamesOnce (cs : List Char) : Prop where
  value : ∀ {v rest hlt}, readValue cs = .ok ⟨(v, rest), hlt⟩ → NamesOnce v.fields
  assignment : ∀ {key v rest hlt}, readAssignment cs = .ok ⟨((key, v), rest), hlt⟩ →
    NamesOnce v.fields
  fields : ∀ {table table' rest hlt}, readFields table cs = .ok ⟨(table', rest), hlt⟩ →
    NamesOnce table.root → NamesOnce table'.root

theorem readsNamesOnce (cs : List Char) : ReadsNamesOnce cs := by
  induction hn : cs.length using Nat.strongRecOn generalizing cs with
  | ind n ih =>
    subst hn
    have hshorter : ∀ rest : List Char, rest.length < cs.length → ReadsNamesOnce rest :=
      fun rest h ↦ ih _ h rest rfl
    have hassignment : ∀ {key v rest hlt}, readAssignment cs = .ok ⟨((key, v), rest), hlt⟩ →
        NamesOnce v.fields := by
      intro key v rest hlt h
      rw [readAssignment.eq_def] at h
      split at h
      · cases h
      · next key' rest' hkey _ =>
        split at h
        · cases h
        · next start hmark _ =>
          split at h
          · cases h
          · next w after hw hread =>
            cases h
            refine (hshorter _ ?_).value hread
            exact Nat.lt_of_le_of_lt (length_skipGap_le start) (Nat.lt_trans hmark hkey)
    refine ⟨?_, hassignment, ?_⟩
    · intro v rest hlt h
      rw [readValue.eq_def] at h
      split at h
      · cases h
      · split at h
        · cases h
          exact namesOnce_nil
        · cases h
      · next start =>
        split at h
        · cases h
          exact namesOnce_nil
        · split at h
          · next hread =>
            cases h
            have hlt := Nat.lt_succ_of_le (length_skipGap_le start)
            exact (hshorter _ hlt).fields hread namesOnce_nil
          · cases h
      · split at h
        · split at h
          · cases h
            exact namesOnce_nil
          · cases h
        · split at h
          · next hread =>
            split at h
            · cases h
              exact namesOnce_of_fields (fields_of_readScalar hread)
            · cases h
          · cases h
    · intro table table' rest hlt h htable
      rw [readFields.eq_def] at h
      split at h
      · cases h
      · next key v start hstart hread =>
        have hv := hassignment hread
        split at h
        · cases h
        · next next' hnext =>
          have hroot := Document.namesOnce_of_add htable (s := .assign key v) hv hnext
          split at h
          · cases h
            exact hroot
          · next rest' hcomma =>
            split at h
            · next others after hothers hreads =>
              cases h
              refine (hshorter _ ?_).fields hreads hroot
              exact Nat.lt_of_le_of_lt (length_skipGap_le rest')
                (Nat.lt_trans (length_lt_of_skipGap_eq hcomma) hstart)
            · cases h
          · cases h

theorem assignsNamesOnce_of_readHeading? {cs : List Char} {p : Read Statement ('[' :: cs)}
    (h : readHeading? cs = some p) : Document.AssignsNamesOnce p.1.1 := by
  rw [readHeading?.eq_def] at h
  split at h
  · split at h
    · cases h
    · split at h
      · cases h
      · cases h
        trivial
  · split at h
    · cases h
    · cases h
      trivial

theorem assignsNamesOnce_of_readStatement {cs : List Char} {p : Read Statement cs}
    (h : readStatement cs = .ok p) : Document.AssignsNamesOnce p.1.1 := by
  rw [readStatement.eq_def] at h
  split at h
  · exact assignsNamesOnce_of_readHeading? (orMalformed_eq_ok h)
  · split at h
    · next hread =>
      cases h
      exact (readsNamesOnce _).assignment hread
    · cases h

theorem assignsNamesOnce_of_mem_readStatements {cs : List Char} {s : Statement}
    (h : s ∈ (readStatements cs).1) : Document.AssignsNamesOnce s := by
  fun_induction readStatements cs with
  | case1 => cases h
  | case2 => cases h
  | case3 => cases h
  | case4 cs c start hskip s' rest hlt hread hend =>
    rw [List.mem_singleton.mp h]
    exact assignsNamesOnce_of_readStatement hread
  | case5 cs c start hskip s' rest hlt hread after hend others ih =>
    obtain rfl | hothers := List.mem_cons.mp h
    · exact assignsNamesOnce_of_readStatement hread
    · exact ih hothers

/-- **TOML.** In a document no name stands twice. -/
theorem namesOnce_of_read {s : String} {fields : Fields Value} (h : read s = .ok fields) :
    NamesOnce fields := by
  rw [read] at h
  dsimp only at h
  split at h
  · cases h
  · cases h
  · next fields' hfields hok =>
    cases h
    exact Document.namesOnce_of_ofStatements
      (fun _ hs ↦ assignsNamesOnce_of_mem_readStatements hs) hfields

end Toml

/-! ## The environment -/

namespace Environment

theorem NamesOnce.plant {v : Value} (hv : NamesOnce v.fields) {path : List String}
    {t : Fields Value} (ht : NamesOnce t) : NamesOnce (plant v path t) := by
  induction path generalizing t with
  | nil => exact ht
  | cons name rest ih =>
    cases rest with
    | nil => exact ht.set hv name
    | cons next rest =>
      rw [Environment.plant]
      cases hget : t.get? name with
      | none => exact ht.set_record (ih namesOnce_nil) name
      | some w =>
        cases w with
        | record inner =>
          have hinner : NamesOnce inner := ht.fields hget
          exact ht.set_record (ih hinner) name
        | _ => exact ht
      simp

/-- The table with one more part. -/
def addPart (setting : String) (value : List String → String → Value) (table : Fields Value)
    (var : String × String) : Fields Value :=
  match partPath? (namePrefix ++ setting) var.1 with
  | some path => plant (value path var.2) path table
  | none => table

section

variable {setting : String} {value : List String → String → Value} {t : Fields Value}

theorem parts_eq_foldl (vars : Fields String) :
    parts setting value vars = vars.foldl (addPart setting value) [] := rfl

theorem addPart_of_partPath? {path : List String} {var : String × String}
    (h : partPath? (namePrefix ++ setting) var.1 = some path) (t : Fields Value) :
    addPart setting value t var = plant (value path var.2) path t := by
  rw [addPart, h]

/-- What planting keeps up at each path that is planted holds in the end if it did at the start. -/
theorem of_addParts {p : Fields Value → Prop} {vars : Fields String}
    (hplant : ∀ var ∈ vars, ∀ path, partPath? (namePrefix ++ setting) var.1 = some path →
      ∀ t, p t → p (plant (value path var.2) path t)) (h : p t) :
    p (vars.foldl (addPart setting value) t) := by
  induction vars generalizing t with
  | nil => exact h
  | cons var vars ih =>
    obtain ⟨hvar, hvars⟩ := List.forall_mem_cons.mp hplant
    refine ih hvars ?_
    rw [addPart]
    split
    · next path hpath => exact hvar path hpath _ h
    · exact h

theorem namesOnce_parts (setting : String) {value : List String → String → Value}
    (hvalue : ∀ path text, NamesOnce (value path text).fields) (vars : Fields String) :
    NamesOnce (parts setting value vars) := by
  rw [parts_eq_foldl]
  exact of_addParts (p := NamesOnce) (fun _ _ path _ _ ↦ NamesOnce.plant (hvalue path _))
    namesOnce_nil

end

theorem namesOnce_commandPart (path : List String) (text : String) :
    NamesOnce (commandPart path text).fields := by
  rw [commandPart.eq_def]
  split
  · cases hread : Json.read? text with
    | none => exact namesOnce_nil
    | some v => exact Json.namesOnce_of_read? hread
  · exact namesOnce_nil

theorem namesOnce_of_table {setting : String} {value : List String → String → Value}
    (hvalue : ∀ path text, NamesOnce (value path text).fields) {vars : Fields String} {v : Value}
    (h : table setting value vars = .ok (some v)) : NamesOnce v.fields := by
  have hparts := namesOnce_parts setting hvalue vars
  rw [table] at h
  split at h
  · split at h
    · cases h
    · cases h
      exact hparts
  · split at h
    · cases h
    · next hread =>
      cases h
      exact NamesOnce.mergeFields (Json.namesOnce_of_read? hread) hparts
    · cases h
    · next hread =>
      cases h
      exact Json.namesOnce_of_read? hread

theorem namesOnce_properNames {fields : Fields Value} (h : NamesOnce fields) :
    NamesOnce (properNames fields) := by
  refine namesOnce_ofPairs fun p hp ↦ ?_
  obtain ⟨⟨name, v⟩, hmem, rfl⟩ := List.mem_map.mp hp
  exact h.fields (get?_of_mem h.nodup hmem)

/-- **The environment.** In what the environment gives no name stands twice. -/
theorem namesOnce_settings {vars : Variables} {own : Fields Value} (h : settings vars = .ok own) :
    NamesOnce own := by
  have hnodup := nodup_names_settings h
  obtain ⟨interpreter, commands, hinterpreter, hcommands, rfl⟩ := settings_eq_ok_iff.mp h
  refine namesOnce_of hnodup fun name v hget ↦ ?_
  obtain hmem | hmem := List.mem_append.mp (mem_of_get? hget)
  · obtain hmem | hmem := List.mem_append.mp hmem
    · obtain ⟨flag, -, hflag⟩ := List.mem_filterMap.mp hmem
      obtain ⟨text, -, heq⟩ := Option.map_eq_some_iff.mp hflag
      cases heq
      exact namesOnce_nil
    · obtain ⟨w, hw, heq⟩ := Option.map_eq_some_iff.mp (Option.mem_toList.mp hmem)
      cases heq
      obtain ⟨w, rfl, rfl⟩ := Option.map_eq_some_iff.mp hw
      have htext : ∀ (path : List String) (text : String), NamesOnce (Value.text text).fields :=
        fun _ _ ↦ namesOnce_nil
      have htable := namesOnce_of_table htext hinterpreter
      cases w with
      | record fields => exact namesOnce_properNames htable
      | _ => exact namesOnce_nil
  · obtain ⟨w, rfl, heq⟩ := Option.map_eq_some_iff.mp (Option.mem_toList.mp hmem)
    cases heq
    exact namesOnce_of_table namesOnce_commandPart hcommands

end Environment

/-! ## Flags and files -/

namespace Settings

/-- The table with one more flag, unless there is one for the same setting already. -/
def addFlag (table : Fields Value) (flag : String × Value) : Fields Value :=
  if (table.get? (settingOfFlag flag.1)).isSome then table
  else table.set (settingOfFlag flag.1) flag.2

theorem flagFields_eq_foldl (flags : Fields Value) :
    flagFields flags = (flags.foldl addFlag []).keep (· != fileSetting) := rfl

theorem namesOnce_flagFields {flags : Fields Value} (h : NamesOnce flags) :
    NamesOnce (flagFields flags) := by
  have hvalues : ∀ p ∈ flags, NamesOnce p.2.fields :=
    fun p hp ↦ h.fields (get?_of_mem h.nodup hp)
  have hfrom : ∀ fs table : Fields Value, (∀ p ∈ fs, NamesOnce p.2.fields) → NamesOnce table →
      NamesOnce (fs.foldl addFlag table) := by
    intro fs
    induction fs with
    | nil => exact fun table _ htable ↦ htable
    | cons p fs ih =>
      intro table hfs htable
      obtain ⟨hp, hfs⟩ := List.forall_mem_cons.mp hfs
      refine ih _ hfs ?_
      rw [addFlag]
      split
      · exact htable
      · exact htable.set hp _
  rw [flagFields_eq_foldl]
  exact (hfrom flags [] hvalues namesOnce_nil).keep

theorem namesOnce_fileFields {src : Sources} {file : Fields Value}
    (h : src.fileFields = .ok file) : NamesOnce file := by
  rw [Sources.fileFields] at h
  split at h
  · cases h
    exact namesOnce_nil
  · split at h
    · next hread =>
      cases h
      exact NamesOnce.keep (p := (· != fileSetting)) (Toml.namesOnce_of_read hread)
    · cases h
    · cases h

end Settings

end LineCommands
