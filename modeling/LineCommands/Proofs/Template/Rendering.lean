import Mathlib
import LineCommands.Proofs.Template.Validity

/-!
# Writing templates out

Which definitions templates can declare, how such definitions are written, and that compiling takes
back what was written. A definition can be written in many ways: blanks stand freely around the
parts of a clause and before the name, a simple type may carry a clause that nobody reads, and
between entries there may be any prose without ampersands. The one thing prose must not do is go on
where a name has just ended.

`render` is the plainest of these ways. It reads the fields that describe a definition, so that what
is shown of a template is enough to have it back.
-/

namespace LineCommands

open Text

/-! ## Definitions that templates declare -/

/-- The text is the size of an array whose definition comes after definitions of the `earlier`
names. -/
structure SizeValid (earlier : List String) (size : String) : Prop where
  ne : size.toList ≠ []
  tight : Tight size.toList
  comma : ',' ∉ size.toList
  bracket : '>' ∉ size.toList
  names : ∀ n ∈ Expr.referencedNames size, n ∈ earlier

/-- The definition can come after definitions of the `earlier` names. -/
structure Definition.Valid (earlier : List String) (d : Definition) : Prop where
  name_ne : d.name.toList ≠ []
  name_run : ∀ c ∈ d.name.toList, isPlainWordChar c = true
  size : ∀ size element, d.kind = .array size element → SizeValid earlier size

/-- Each definition can come after the ones before it. -/
def Template.Valid (ds : Template) : Prop :=
  EachAfter (fun before d ↦ d.Valid (before.map (·.name))) ds

/-! ## Ways of writing them -/

/-- The entry is one of the ways of writing the definition. -/
inductive Entry.Spells : Entry → Definition → Prop
  | simple {name : String} {type : Primitive} : Spells ⟨type.name, none, name⟩ ⟨name, .simple type⟩
  | detailed {name detail : String} {type : Primitive} (hne : detail.toList ≠ [])
      (hdetail : '>' ∉ detail.toList) :
      Spells ⟨type.name, some detail, name⟩ ⟨name, .simple type⟩
  | array {name size : String} {part : List Char} (hsize : Padded size.toList part) :
      Spells ⟨arrayTypeName, some (String.ofList part), name⟩ ⟨name, .array size none⟩
  | typedArray {name size : String} {type : Primitive} {part part' : List Char}
      (hsize : Padded size.toList part) (htype : Padded type.name.toList part') :
      Spells ⟨arrayTypeName, some (String.ofList (part ++ ',' :: part')), name⟩
        ⟨name, .array size (some type)⟩

/-- The text is one of the ways of writing the definitions, in any prose without ampersands. -/
inductive Template.Written : Template → List Char → Prop
  | nil {prose : List Char} (hprose : '&' ∉ prose) : Written [] prose
  | cons {d : Definition} {ds : Template} {e : Entry} {prose gap rest : List Char}
      (hprose : '&' ∉ prose) (hspells : e.Spells d) (hgap : gap ≠ [])
      (hblank : ∀ c ∈ gap, isBlank c = true) (hends : Ends isPlainWordChar rest)
      (hrest : Written ds rest) :
      Written (d :: ds)
        (prose ++ '&' :: (e.type.toList ++ (clauseText e.clause
          ++ (gap ++ (e.name.toList ++ rest)))))

namespace Template

/-- The text in a field of a described definition. -/
def fieldText (name : String) (fields : Fields Value) : String :=
  match fields.get? name with
  | some (.text s) => s
  | _ => ""

/-- The clause of a described array. -/
def renderClause (fields : Fields Value) : String :=
  match fields.get? "element_type" with
  | some (.text type) => fieldText "size" fields ++ "," ++ type
  | _ => fieldText "size" fields

/-- The type of a described definition, with its clause. -/
def renderType (fields : Fields Value) : String :=
  if fieldText "kind" fields = "array" then arrayTypeName ++ "<" ++ renderClause fields ++ ">"
  else fieldText "type" fields

/-- The entry of a described definition. -/
def renderEntry (fields : Fields Value) : String :=
  "&" ++ renderType fields ++ " " ++ fieldText "name" fields

/-- The template of described definitions, with one space between entries. -/
def render (described : List (Fields Value)) : String := " ".intercalate (described.map renderEntry)

end Template

/-! ## What is written is read -/

namespace Primitive

variable (type : Primitive)

theorem name_ne_nil : type.name.toList ≠ [] := by cases type <;> decide

theorem isWordChar_of_mem_name : ∀ c ∈ type.name.toList, isWordChar c = true := by
  rw [← List.all_eq_true]
  cases type <;> decide

theorem tight_name : Tight type.name.toList := by
  cases type <;> simp [Tight, name] <;> decide

theorem notMem_name {c : Char} (h : isWordChar c = false) : c ∉ type.name.toList := by
  intro hmem
  rw [isWordChar_of_mem_name type c hmem] at h
  cases h

end Primitive

theorem arrayKind_of_padded {name size detail : String} {earlier : List String} {first : List Char}
    (others : List (List Char)) {element : Option Primitive}
    (hsplit : detail.toList.splitOn ',' = first :: others) (hfirst : Padded size.toList first)
    (hsize : SizeValid earlier size) (helement : elementOf name others = .ok element) :
    arrayKind name (some detail) earlier = .ok (.array size element) := by
  have htrim : trim first = size.toList := hfirst.trim_eq hsize.ne hsize.tight
  refine arrayKind_eq_ok_iff.mpr
    ⟨detail, rfl, first, others, hsplit, htrim ▸ hsize.ne, ⟨element, helement, ?_⟩, ?_⟩
  · rw [htrim, String.ofList_toList]
  · rw [htrim, String.ofList_toList]
    exact undefinedNames_eq_nil_iff.mpr hsize.names

namespace Entry.Spells

variable {e : Entry} {d : Definition} {earlier : List String}

theorem name_eq (h : e.Spells d) : e.name = d.name := by
  cases h <;> rfl

theorem type_run (h : e.Spells d) :
    e.type.toList ≠ [] ∧ ∀ c ∈ e.type.toList, isWordChar c = true := by
  have harray : arrayTypeName.toList ≠ [] ∧ ∀ c ∈ arrayTypeName.toList, isWordChar c = true :=
    ⟨by decide, List.all_eq_true.mp (by decide)⟩
  cases h with
  | simple => exact ⟨Primitive.name_ne_nil _, Primitive.isWordChar_of_mem_name _⟩
  | detailed _ _ => exact ⟨Primitive.name_ne_nil _, Primitive.isWordChar_of_mem_name _⟩
  | array _ => exact harray
  | typedArray _ _ => exact harray

theorem clause_ne (h : e.Spells d) (hd : d.Valid earlier) :
    ∀ detail ∈ e.clause, detail.toList ≠ [] ∧ '>' ∉ detail.toList := by
  have hbracket : isBlank '>' = false := by decide
  intro detail hdetail
  cases h with
  | simple => cases hdetail
  | detailed hne hmem =>
    obtain rfl := Option.some.inj hdetail
    exact ⟨hne, hmem⟩
  | array hpart =>
    obtain rfl := Option.some.inj hdetail
    have hsize := hd.size _ _ rfl
    rw [String.toList_ofList]
    exact ⟨hpart.ne_nil hsize.ne, hpart.notMem hbracket hsize.bracket⟩
  | typedArray hpart htype =>
    obtain rfl := Option.some.inj hdetail
    have hsize := hd.size _ _ rfl
    have hfirst := hpart.notMem hbracket hsize.bracket
    have hsecond := htype.notMem hbracket (Primitive.notMem_name _ (by decide))
    rw [String.toList_ofList]
    exact ⟨by simp, by simp [hfirst, hsecond]⟩

theorem wellFormed (h : e.Spells d) (hd : d.Valid earlier) : e.WellFormed where
  type_ne := h.type_run.1
  type_run := h.type_run.2
  clause := h.clause_ne hd
  name_ne := h.name_eq ▸ hd.name_ne
  name_run := h.name_eq ▸ hd.name_run

/-- However a valid definition is written, the entry makes that definition. -/
theorem define_eq (h : e.Spells d) (hd : d.Valid earlier) : e.define earlier = .ok d := by
  cases h with
  | simple => exact define_of_type rfl earlier
  | detailed _ _ => exact define_of_type rfl earlier
  | @array name size part hpart =>
    have hsize := hd.size _ _ rfl
    have hcomma : ',' ∉ part := hpart.notMem (by decide) hsize.comma
    have hkind : arrayKind name (some (String.ofList part)) earlier = .ok (.array size none) := by
      refine arrayKind_of_padded [] ?_ hpart hsize rfl
      rw [String.toList_ofList, List.splitOn_eq_singleton hcomma]
    rw [define_of_array rfl, hkind]
    rfl
  | @typedArray name size type part part' hpart htype =>
    have hsize := hd.size _ _ rfl
    have hcomma : ',' ∉ part := hpart.notMem (by decide) hsize.comma
    have hkind : arrayKind name (some (String.ofList (part ++ ',' :: part'))) earlier
        = .ok (.array size (some type)) := by
      have hcomma' : ',' ∉ part' := htype.notMem (by decide) (type.notMem_name (by decide))
      -- Neither part has a comma, so the one between them is where the clause is split.
      refine arrayKind_of_padded [part'] ?_ hpart hsize ?_
      · rw [String.toList_ofList, List.splitOn_append_cons_self_of_not_mem hcomma,
          List.splitOn_eq_singleton hcomma']
      · rw [elementOf_eq_ok_iff, List.head?_cons, Option.map_some, Option.map_some,
          htype.trim_eq type.name_ne_nil type.tight_name, String.ofList_toList]
    rw [define_of_array rfl, hkind]
    rfl

end Entry.Spells

/-! ## Prose is passed over -/

theorem ends_clauseText {clause : Option String} {gap : List Char} (hgap : gap ≠ [])
    (hblank : ∀ c ∈ gap, isBlank c = true) (rest : List Char) :
    Ends isWordChar (clauseText clause ++ (gap ++ rest)) := by
  cases clause with
  | none =>
    rw [clauseText, List.nil_append]
    exact ends_append hgap fun c hc ↦ isWordChar_of_isBlank (hblank c hc)
  | some detail => exact ends_cons.mpr (by decide)

theorem scan_append {prose cs : List Char} {es : List Entry} (hprose : '&' ∉ prose)
    (h : Scan cs es) : Scan (prose ++ cs) es := by
  induction prose with
  | nil => exact h
  | cons c prose ih =>
    obtain ⟨hc, hprose⟩ := List.ne_and_not_mem_of_not_mem_cons hprose
    refine .skip (fun e rest he ↦ ?_) (ih hprose)
    obtain ⟨cs', hcs⟩ := he.exists_cons
    exact hc (List.cons.inj hcs).1.symm

namespace Template

/-- **Reading what was written.** The scan of a text written for valid definitions meets one entry
for each of them, and the entries make the definitions. -/
theorem exists_scan_of_written {ds : Template} {cs : List Char} (h : Written ds cs)
    (earlier : List String)
    (hvalid : EachAfter (fun before d ↦ d.Valid (earlier ++ before.map (·.name))) ds) :
    ∃ es, Scan cs es ∧ ofEntries earlier es = .ok ds := by
  induction h generalizing earlier with
  | @nil prose hprose =>
    refine ⟨[], ?_, rfl⟩
    rw [← List.append_nil prose]
    exact scan_append hprose .nil
  | @cons d ds e prose gap rest hprose hspells hgap hblank hends _ ih =>
    obtain ⟨hd, hds⟩ := eachAfter_map_cons.mp hvalid
    obtain ⟨es, hscan, hes⟩ := ih (earlier ++ [d.name]) hds
    refine ⟨e :: es, scan_append hprose (.entry ?_ hscan), ?_⟩
    · exact ⟨hspells.wellFormed hd, ⟨gap, hgap, hblank, rfl, ends_clauseText hgap hblank _⟩, hends⟩
    · rw [ofEntries, hspells.name_eq]
      exact bind_eq_ok.mpr ⟨d, hspells.define_eq hd, bind_eq_ok.mpr ⟨ds, hes, rfl⟩⟩

theorem compile_of_written {ds : Template} {source : String} (hvalid : ds.Valid)
    (h : Written ds source.toList) : compile source = .ok ds := by
  obtain ⟨es, hscan, hes⟩ := exists_scan_of_written h [] hvalid
  rw [compile_eq_of_scan hscan, hes]

end Template

/-! ## What is read is valid -/

theorem Scan.wellFormed {cs : List Char} {es : List Entry} (h : Scan cs es) :
    ∀ e ∈ es, e.WellFormed := by
  induction h with
  | nil =>
    intro e he
    cases he
  | entry h _ ih => exact List.forall_mem_cons.mpr ⟨h.wellFormed, ih⟩
  | skip _ _ ih => exact ih

theorem first_of_splitOn {cs first : List Char} {others : List (List Char)}
    (h : cs.splitOn ',' = first :: others) : ',' ∉ first ∧ first ⊆ cs := by
  by_cases hcomma : ',' ∈ cs
  · obtain ⟨before, after, rfl, hbefore⟩ := List.eq_append_cons_of_mem hcomma
    rw [List.splitOn_append_cons_self_of_not_mem hbefore] at h
    obtain rfl := (List.cons.inj h).1
    exact ⟨hbefore, List.subset_append_left _ _⟩
  · rw [List.splitOn_eq_singleton hcomma] at h
    obtain rfl := (List.cons.inj h).1
    exact ⟨hcomma, List.Subset.refl _⟩

theorem Entry.Declares.valid {e : Entry} {d : Definition} {earlier : List String}
    (h : e.Declares d) (hwritten : e.WellFormed) (hvalid : e.Valid earlier) : d.Valid earlier := by
  refine ⟨h.1 ▸ hwritten.name_ne, h.1 ▸ hwritten.name_run, fun size element hkind ↦ ?_⟩
  have hdeclares := h.2
  rw [hkind] at hdeclares
  obtain ⟨harray, detail, hdetail, first, others, hsplit, rfl, -⟩ := hdeclares
  obtain ⟨type, htype⟩ | ⟨-, detail', hdetail', size, others', hsplit', hsize, -, hnames⟩ := hvalid
  · exact absurd (htype.symm.trans harray) type.name_ne_arrayTypeName
  · obtain rfl := Option.some.inj (hdetail.symm.trans hdetail')
    obtain ⟨rfl, rfl⟩ := List.cons.inj (hsplit.symm.trans hsplit')
    obtain ⟨hcomma, hsubset⟩ := first_of_splitOn hsplit
    refine ⟨?_, ?_, ?_, ?_, ?_⟩
    · rw [String.toList_ofList]
      simpa [trim_eq_nil_iff] using hsize
    · rw [String.toList_ofList]
      exact tight_trim first
    · rw [String.toList_ofList]
      exact fun hmem ↦ hcomma (mem_of_mem_trim hmem)
    · rw [String.toList_ofList]
      exact fun hmem ↦ (hwritten.clause detail hdetail).2 (hsubset (mem_of_mem_trim hmem))
    · exact undefinedNames_eq_nil_iff.mp (undefinedNames_trim_eq_nil_iff.mpr hnames)

namespace Template

/-- **Reading gives valid definitions.** -/
theorem valid_of_ofEntries (earlier : List String) {es : List Entry} {ds : Template}
    (hwritten : ∀ e ∈ es, e.WellFormed) (h : ofEntries earlier es = .ok ds) :
    EachAfter (fun before d ↦ d.Valid (earlier ++ before.map (·.name))) ds := by
  induction es generalizing earlier ds with
  | nil =>
    obtain rfl := Except.ok.inj h
    exact eachAfter_nil
  | cons e es ih =>
    obtain ⟨d, hd, h⟩ := bind_eq_ok.mp h
    obtain ⟨ds, hds, h⟩ := bind_eq_ok.mp h
    obtain rfl := Except.ok.inj h
    obtain ⟨he, hes⟩ := List.forall_mem_cons.mp hwritten
    obtain ⟨hvalid, hdeclares⟩ := Entry.define_eq_ok_iff.mp hd
    refine eachAfter_map_cons.mpr ⟨hdeclares.valid he hvalid, ?_⟩
    rw [hdeclares.1]
    exact ih _ hes hds

theorem valid_of_compile {source : String} {ds : Template} (h : compile source = .ok ds) :
    ds.Valid := by
  have hscan := scan_entriesFrom source.toList
  rw [compile_eq_of_scan hscan] at h
  exact valid_of_ofEntries [] hscan.wellFormed h

/-! ## The plainest way of writing -/

theorem Written.blank {ds : Template} {cs : List Char} (h : Written ds cs) :
    Written ds (' ' :: cs) := by
  cases h with
  | nil hprose => exact .nil (by simpa using hprose)
  | cons hprose hspells hgap hblank hends hrest =>
    rw [← List.cons_append]
    exact .cons (by simpa using hprose) hspells hgap hblank hends hrest

end Template

/-- The entry of a definition without any blank or clause that could be left out. -/
def Definition.plainEntry (d : Definition) : Entry :=
  match d.kind with
  | .simple type => ⟨type.name, none, d.name⟩
  | .array size none => ⟨arrayTypeName, some size, d.name⟩
  | .array size (some type) => ⟨arrayTypeName, some (size ++ "," ++ type.name), d.name⟩

theorem Definition.spells_plainEntry (d : Definition) : d.plainEntry.Spells d := by
  obtain ⟨name, kind⟩ := d
  cases kind with
  | simple type => exact .simple
  | array size element =>
    cases element with
    | none =>
      have h := @Entry.Spells.array name size _ (Padded.refl size.toList)
      rwa [String.ofList_toList] at h
    | some type =>
      have h := @Entry.Spells.typedArray name size type _ _ (Padded.refl size.toList)
        (Padded.refl type.name.toList)
      have htext : String.ofList (size.toList ++ ',' :: type.name.toList)
          = size ++ "," ++ type.name := by
        rw [← String.toList_inj]
        simp
      rwa [htext] at h

namespace Template

theorem toList_renderEntry (d : Definition) :
    (renderEntry d.describe).toList = '&' :: (d.plainEntry.type.toList
      ++ (clauseText d.plainEntry.clause ++ ([' '] ++ d.plainEntry.name.toList))) := by
  obtain ⟨name, kind⟩ := d
  cases kind with
  | simple type =>
    simp [renderEntry, renderType, fieldText, Definition.describe, Definition.plainEntry,
      Fields.get?, clauseText]
  | array size element =>
    cases element with
    | none =>
      simp [renderEntry, renderType, renderClause, fieldText, Definition.describe,
        Definition.plainEntry, Fields.get?, clauseText, Value.ofText?]
    | some type =>
      simp [renderEntry, renderType, renderClause, fieldText, Definition.describe,
        Definition.plainEntry, Fields.get?, clauseText, Value.ofText?]

theorem written_render (ds : Template) :
    Written ds (render (ds.map Definition.describe)).toList := by
  have hone : ∀ {d : Definition} {ds : Template} {rest : List Char}, Ends isPlainWordChar rest →
      Written ds rest → Written (d :: ds) ((renderEntry d.describe).toList ++ rest) := by
    intro d ds rest hends hrest
    have h := @Written.cons d ds _ [] [' '] rest (by simp) d.spells_plainEntry (by simp)
      (List.forall_mem_singleton.mpr (by decide)) hends hrest
    rw [toList_renderEntry]
    simpa using h
  induction ds with
  | nil => exact .nil (by simp [render])
  | cons d ds ih =>
    cases ds with
    | nil =>
      have h := hone (d := d) ends_nil (@Written.nil [] (by simp))
      simpa [render] using h
    | cons d' ds =>
      -- The space between entries is prose in front of the next one.
      have h := hone (d := d) (ends_cons.mpr (by decide)) ih.blank
      simpa [render, String.toList_intercalate] using h

/-- **Compiling undoes writing.** Valid definitions are what is compiled from any text written for
them, only valid definitions are ever compiled, and these are had back from what describes them. -/
theorem compile_undoes_writing (ds : Template) :
    (ds.Valid → ∀ source : String, Written ds source.toList → compile source = .ok ds) ∧
    (∀ source, compile source = .ok ds →
      ds.Valid ∧ compile (render (ds.map Definition.describe)) = .ok ds) ∧
    ((∃ source, compile source = .ok ds) ↔ ds.Valid) := by
  refine ⟨fun hvalid source h ↦ compile_of_written hvalid h, fun source h ↦ ?_, ?_, fun hvalid ↦ ?_⟩
  · have hvalid := valid_of_compile h
    exact ⟨hvalid, compile_of_written hvalid (written_render ds)⟩
  · rintro ⟨source, h⟩
    exact valid_of_compile h
  · exact ⟨_, compile_of_written hvalid (written_render ds)⟩

/-- A number and an array of twice as many strings, in prose and with blanks in the clause. -/
theorem compile_undoes_writing_with_prose :
    Valid [⟨"n", .simple .int⟩, ⟨"items", .array "2 * n" (some .string)⟩] ∧
    Written [⟨"n", .simple .int⟩, ⟨"items", .array "2 * n" (some .string)⟩]
      "Give &int<small> n, then &array< 2 * n , string>  items.".toList ∧
    compile "Give &int<small> n, then &array< 2 * n , string>  items."
      = .ok [⟨"n", .simple .int⟩, ⟨"items", .array "2 * n" (some .string)⟩] := by
  have hparse : Expr.parse (trimmed "2 * n")
      = .ok (.binary .mul (.number (.int 2)) (.name "n")) := by cbv
  have htight : Tight "2 * n".toList := by
    constructor
    · simpa using (by decide : isBlank '2' = false)
    · simpa using (by decide : isBlank 'n' = false)
  have hsize : SizeValid ["n"] "2 * n" := by
    refine ⟨by decide, htight, by decide, by decide, fun n hn ↦ ?_⟩
    obtain ⟨e, he, hn⟩ := Expr.mem_referencedNames_iff.mp hn
    rw [hparse] at he
    obtain rfl := Except.ok.inj he
    exact hn
  have hvalid : Valid [⟨"n", .simple .int⟩, ⟨"items", .array "2 * n" (some .string)⟩] := by
    refine eachAfter_cons.mpr ⟨⟨by decide, List.all_eq_true.mp (by decide), by simp⟩,
      eachAfter_cons.mpr ⟨⟨by decide, List.all_eq_true.mp (by decide), ?_⟩, eachAfter_nil⟩⟩
    intro size element hkind
    obtain ⟨rfl, -⟩ := ArgumentKind.array.inj hkind
    exact hsize
  have hwritten : Written [⟨"n", .simple .int⟩, ⟨"items", .array "2 * n" (some .string)⟩]
      "Give &int<small> n, then &array< 2 * n , string>  items.".toList := by
    have hblank : ∀ c ∈ [' '], isBlank c = true := List.all_eq_true.mp (by decide)
    have hint := @Entry.Spells.detailed "n" "small" .int (by decide) (by decide)
    have harray := @Entry.Spells.typedArray "items" "2 * n" .string
      " 2 * n ".toList " string".toList
      ⟨[' '], [' '], hblank, hblank, by decide⟩ ⟨[' '], [], hblank, by simp, by decide⟩
    have hitems := @Written.cons _ _ _ ", then ".toList [' ', ' '] ".".toList (by decide) harray
      (by decide) (List.all_eq_true.mp (by decide)) (ends_cons.mpr (by decide)) (.nil (by decide))
    exact @Written.cons _ _ _ "Give ".toList [' '] _ (by decide) hint (by decide) hblank
      (ends_cons.mpr (by decide)) hitems
  exact ⟨hvalid, hwritten, (compile_undoes_writing _).1 hvalid _ hwritten⟩

end Template

end LineCommands
