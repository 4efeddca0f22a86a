import Mathlib.Data.List.Forall2
import LineCommands.Template.Compile
import LineCommands.Proofs.Expression.Names
import LineCommands.Proofs.Outcome
import LineCommands.Proofs.Succession
import LineCommands.Proofs.Template.Scan
import LineCommands.Proofs.Text.Trim

/-!
# Valid entries and what they declare

Which entries a template may hold, said without the compiler: an entry of a primitive type, and an
entry of an array with a clause of a size and at most an element type, where the size has no names
other than those of entries before it. Compiling a template is checking this for its entries in the
order of the scan, and the first that fails it is the one that the fault tells of.

What may follow the second part of a clause is not looked at, and neither is a clause behind a
primitive type. A size that is no expression has no names and is in order here.
-/

namespace LineCommands

open Text

/-! ## Clauses -/

namespace Entry

/-- The clause is one of an array that comes after entries with the `earlier` names. Of its parts
between commas the first is not blank and, read as an expression, has earlier names only; the
second, if there is one, names a primitive type. -/
def ClauseValid (earlier : List String) (detail : String) : Prop :=
  ∃ size others, detail.toList.splitOn ',' = size :: others ∧
    (∃ c ∈ size, isBlank c = false) ∧
    (∀ part ∈ others.head?, ∃ type : Primitive, String.ofList (trim part) = type.name) ∧
    ∀ t, Expr.parse (String.ofList (trim size)) = .ok t → ∀ n ∈ t.names, n ∈ earlier

/-- The entry is in order after entries with the `earlier` names. -/
def Valid (earlier : List String) (e : Entry) : Prop :=
  (∃ type : Primitive, e.type = type.name) ∨
    (e.type = arrayTypeName ∧ ∃ detail ∈ e.clause, ClauseValid earlier detail)

/-- The entry declares the definition: of its name, and of the type or of the parts of the clause
that it is written with. -/
def Declares (e : Entry) (d : Definition) : Prop :=
  d.name = e.name ∧
    match d.kind with
    | .simple type => e.type = type.name
    | .array size element => e.type = arrayTypeName ∧ ∃ detail ∈ e.clause, ∃ first others,
        detail.toList.splitOn ',' = first :: others ∧ size = String.ofList (trim first) ∧
        element.map Primitive.name = others.head?.map fun part ↦ String.ofList (trim part)

end Entry

theorem undefinedNames_eq_nil_iff {size : String} {earlier : List String} :
    undefinedNames size earlier = [] ↔ ∀ n ∈ Expr.referencedNames size, n ∈ earlier := by
  rw [undefinedNames, List.eq_nil_iff_forall_not_mem]
  simp only [List.mem_mergeSort, List.mem_eraseDups, List.mem_filter, Bool.not_eq_true',
    List.contains_eq_mem, decide_eq_false_iff_not, not_and, not_not]

theorem undefinedNames_trim_eq_nil_iff {size : List Char} {earlier : List String} :
    undefinedNames (String.ofList (trim size)) earlier = [] ↔
      ∀ t, Expr.parse (String.ofList (trim size)) = .ok t → ∀ n ∈ t.names, n ∈ earlier := by
  rw [undefinedNames_eq_nil_iff]
  simp only [Expr.mem_referencedNames_iff, trimmed, String.toList_ofList, trim_trim]
  constructor
  · exact fun h t ht n hn ↦ h n ⟨t, ht, hn⟩
  · rintro h n ⟨t, ht, hn⟩
    exact h t ht n hn

/-- The element type that the parts of a clause behind the size name. -/
def elementOf (name : String) : List (List Char) → Except Fault (Option Primitive)
  | [] => .ok none
  | part :: _ =>
    match Primitive.ofName? (String.ofList (trim part)) with
    | some type => .ok (some type)
    | none => .error (.unknownElementType (String.ofList (trim part)) name)

theorem elementOf_eq_ok_iff {name : String} {others : List (List Char)}
    {element : Option Primitive} :
    elementOf name others = .ok element ↔
      element.map Primitive.name = others.head?.map fun part ↦ String.ofList (trim part) := by
  cases others with
  | nil => simp [elementOf, eq_comm]
  | cons part others =>
    simp only [elementOf, List.head?_cons, Option.map_some, Option.map_eq_some_iff]
    constructor
    · intro h
      cases htype : Primitive.ofName? (String.ofList (trim part)) with
      | none => rw [htype] at h; cases h
      | some type =>
        rw [htype] at h
        exact ⟨type, (Except.ok.inj h).symm, Primitive.name_of_ofName? htype⟩
    · rintro ⟨type, rfl, htype⟩
      rw [← htype, Primitive.ofName?_name]

/-- A clause by its parts: the size must not be blank, the element type must be one, and then the
names of the size are checked. -/
theorem arrayKind_of_splitOn {name detail : String} {earlier : List String} {size : List Char}
    {others : List (List Char)} (h : detail.toList.splitOn ',' = size :: others) :
    arrayKind name (some detail) earlier =
      if trim size = [] then .error (.emptySize name)
      else (elementOf name others).bind fun element ↦
        match undefinedNames (String.ofList (trim size)) earlier with
        | [] => .ok (.array (String.ofList (trim size)) element)
        | missing => .error (.undefinedNames (String.ofList (trim size)) name missing) := by
  simp only [arrayKind, clauseParts, h, List.map_cons, List.headD_cons, String.isEmpty_iff,
    String.ofList_eq_empty_iff]
  by_cases hsize : trim size = []
  · rw [if_pos hsize, if_pos hsize]
  · rw [if_neg hsize, if_neg hsize]
    cases others with
    | nil => rfl
    | cons part others =>
      simp only [List.map_cons, List.getElem?_cons_succ, List.getElem?_cons_zero, elementOf]
      cases Primitive.ofName? (String.ofList (trim part)) with
      | none => rfl
      | some type => rfl

theorem arrayKind_eq_ok_iff {name : String} {clause : Option String} {earlier : List String}
    {kind : ArgumentKind} :
    arrayKind name clause earlier = .ok kind ↔
      ∃ detail ∈ clause, ∃ size others, detail.toList.splitOn ',' = size :: others ∧
        trim size ≠ [] ∧
        (∃ element, elementOf name others = .ok element ∧
          kind = .array (String.ofList (trim size)) element) ∧
        undefinedNames (String.ofList (trim size)) earlier = [] := by
  cases clause with
  | none => simp [arrayKind]
  | some detail =>
    obtain ⟨size, others, hsplit⟩ :=
      List.exists_cons_of_ne_nil (List.splitOn_ne_nil ',' detail.toList)
    rw [arrayKind_of_splitOn hsplit]
    constructor
    · intro h
      by_cases hsize : trim size = []
      · rw [if_pos hsize] at h
        cases h
      · rw [if_neg hsize] at h
        obtain ⟨element, helement, h⟩ := bind_eq_ok.mp h
        cases hnames : undefinedNames (String.ofList (trim size)) earlier with
        | cons n ns => rw [hnames] at h; cases h
        | nil =>
          rw [hnames] at h
          exact ⟨detail, rfl, size, others, hsplit, hsize,
            ⟨element, helement, (Except.ok.inj h).symm⟩, hnames⟩
    · rintro ⟨_, hdetail, size', others', hsplit', hsize, ⟨element, helement, rfl⟩, hnames⟩
      obtain rfl := Option.some.inj hdetail
      obtain ⟨rfl, rfl⟩ := List.cons.inj (hsplit.symm.trans hsplit')
      rw [if_neg hsize, helement]
      simp only [Except.bind, hnames]

/-! ## Entries -/

theorem Primitive.name_ne_arrayTypeName (type : Primitive) : type.name ≠ arrayTypeName := by
  cases type <;> decide

namespace Entry

theorem define_of_array {e : Entry} (h : e.type = arrayTypeName) (earlier : List String) :
    e.define earlier = (arrayKind e.name e.clause earlier).map (⟨e.name, ·⟩) := by
  rw [define, if_pos h]

theorem define_of_type {e : Entry} {type : Primitive} (h : e.type = type.name)
    (earlier : List String) : e.define earlier = .ok ⟨e.name, .simple type⟩ := by
  rw [define, if_neg (h ▸ type.name_ne_arrayTypeName), h, Primitive.ofName?_name]

theorem define_eq_ok_iff_of_array {e : Entry} (harray : e.type = arrayTypeName)
    {earlier : List String} {d : Definition} :
    e.define earlier = .ok d ↔ e.Valid earlier ∧ e.Declares d := by
  obtain ⟨name, kind⟩ := d
  rw [define_of_array harray, map_eq_ok]
  simp only [arrayKind_eq_ok_iff, elementOf_eq_ok_iff, undefinedNames_trim_eq_nil_iff]
  constructor
  · rintro ⟨_, ⟨detail, hdetail, size, others, hsplit, hsize, ⟨element, helement, rfl⟩, hnames⟩,
      heq⟩
    obtain ⟨rfl, rfl⟩ := Definition.mk.inj heq
    refine ⟨Or.inr ⟨harray, detail, hdetail, size, others, hsplit, ?_, ?_, hnames⟩, rfl, harray,
      detail, hdetail, size, others, hsplit, rfl, helement⟩
    · simpa [trim_eq_nil_iff] using hsize
    · intro part hpart
      rw [Option.mem_def.mp hpart, Option.map_some, Option.map_eq_some_iff] at helement
      obtain ⟨type, -, htype⟩ := helement
      exact ⟨type, htype.symm⟩
  · rintro ⟨hvalid, hname, hkind⟩
    obtain ⟨type, htype⟩ | ⟨-, detail, hdetail, size, others, hsplit, hsize, -, hnames⟩ := hvalid
    · exact absurd (htype.symm.trans harray) type.name_ne_arrayTypeName
    · cases kind with
      | simple type => exact absurd (hkind.symm.trans harray) type.name_ne_arrayTypeName
      | array text element =>
        -- Validity and the declaration each split the clause; the parts are the same.
        obtain ⟨-, detail', hdetail', first, others', hsplit', rfl, helement⟩ := hkind
        obtain rfl := Option.some.inj (hdetail.symm.trans hdetail')
        obtain ⟨rfl, rfl⟩ := List.cons.inj (hsplit.symm.trans hsplit')
        refine ⟨_, ⟨detail, hdetail, size, others, hsplit, ?_, ⟨element, helement, rfl⟩, hnames⟩,
          by rw [← hname]⟩
        simpa [trim_eq_nil_iff] using hsize

/-- **One entry.** It makes a definition when it is valid, and that is the one it declares. -/
theorem define_eq_ok_iff {e : Entry} {earlier : List String} {d : Definition} :
    e.define earlier = .ok d ↔ e.Valid earlier ∧ e.Declares d := by
  by_cases harray : e.type = arrayTypeName
  · exact define_eq_ok_iff_of_array harray
  · obtain ⟨name, kind⟩ := d
    rw [define, if_neg harray]
    constructor
    · intro h
      cases htype : Primitive.ofName? e.type with
      | none => rw [htype] at h; cases h
      | some type =>
        rw [htype] at h
        obtain ⟨rfl, rfl⟩ := Definition.mk.inj (Except.ok.inj h)
        have hname := (Primitive.name_of_ofName? htype).symm
        exact ⟨Or.inl ⟨type, hname⟩, rfl, hname⟩
    · rintro ⟨-, hname, hkind⟩
      cases kind with
      | simple type => rw [hkind, Primitive.ofName?_name, ← hname]
      | array size element => exact absurd hkind.1 harray

theorem exists_define_of_valid {e : Entry} {earlier : List String} (h : e.Valid earlier) :
    ∃ d, e.define earlier = .ok d := by
  obtain ⟨type, htype⟩ | ⟨harray, detail, hdetail, hclause⟩ := h
  · exact ⟨_, define_of_type htype earlier⟩
  · obtain ⟨size, others, hsplit, hsize, helement, hnames⟩ := hclause
    have hmade : ∃ element : Option Primitive, elementOf e.name others = .ok element := by
      simp only [elementOf_eq_ok_iff]
      cases others with
      | nil => exact ⟨none, rfl⟩
      | cons part others =>
        obtain ⟨type, htype⟩ := helement part rfl
        exact ⟨some type, by simp [htype]⟩
    obtain ⟨element, helement⟩ := hmade
    have hkind : arrayKind e.name e.clause earlier
        = .ok (.array (String.ofList (trim size)) element) :=
      arrayKind_eq_ok_iff.mpr ⟨detail, hdetail, size, others, hsplit,
        by simpa [trim_eq_nil_iff] using hsize, ⟨element, helement, rfl⟩,
        undefinedNames_trim_eq_nil_iff.mpr hnames⟩
    exact ⟨_, by rw [define_of_array harray, hkind]; rfl⟩

end Entry

/-! ## Faults -/

/-- The fault is one of templates and tells of this argument. -/
def Fault.Blames (f : Fault) (argument : String) : Prop :=
  f.kind = .invalidTemplate ∧ Fields.get? "argument" f.context = some (.text argument)

theorem blames_of_elementOf {name : String} {others : List (List Char)} {f : Fault}
    (h : elementOf name others = .error f) : f.Blames name := by
  cases others with
  | nil => cases h
  | cons part others =>
    rw [elementOf] at h
    cases htype : Primitive.ofName? (String.ofList (trim part)) with
    | some type => rw [htype] at h; cases h
    | none =>
      rw [htype] at h
      obtain rfl := Except.error.inj h
      exact ⟨rfl, rfl⟩

theorem blames_of_arrayKind {name : String} {clause : Option String} {earlier : List String}
    {f : Fault} (h : arrayKind name clause earlier = .error f) : f.Blames name := by
  cases clause with
  | none =>
    obtain rfl := Except.error.inj h
    exact ⟨rfl, rfl⟩
  | some detail =>
    obtain ⟨size, others, hsplit⟩ :=
      List.exists_cons_of_ne_nil (List.splitOn_ne_nil ',' detail.toList)
    rw [arrayKind_of_splitOn hsplit] at h
    by_cases hsize : trim size = []
    · rw [if_pos hsize] at h
      obtain rfl := Except.error.inj h
      exact ⟨rfl, rfl⟩
    · rw [if_neg hsize] at h
      cases helement : elementOf name others with
      | error f' =>
        rw [helement] at h
        obtain rfl := Except.error.inj h
        exact blames_of_elementOf helement
      | ok element =>
        rw [helement] at h
        cases hnames : undefinedNames (String.ofList (trim size)) earlier with
        | nil => simp only [Except.bind, hnames] at h; cases h
        | cons n ns =>
          simp only [Except.bind, hnames] at h
          obtain rfl := Except.error.inj h
          exact ⟨rfl, rfl⟩

/-- Whatever is wrong with an entry, the fault tells of the entry's argument. -/
theorem Entry.blames_of_define {e : Entry} {earlier : List String} {f : Fault}
    (h : e.define earlier = .error f) : f.Blames e.name := by
  by_cases harray : e.type = arrayTypeName
  · rw [define_of_array harray] at h
    cases hkind : arrayKind e.name e.clause earlier with
    | ok kind => rw [hkind] at h; cases h
    | error f' =>
      rw [hkind] at h
      obtain rfl := Except.error.inj h
      exact blames_of_arrayKind hkind
  · rw [define, if_neg harray] at h
    cases htype : Primitive.ofName? e.type with
    | some type => rw [htype] at h; cases h
    | none =>
      rw [htype] at h
      obtain rfl := Except.error.inj h
      exact ⟨rfl, rfl⟩

/-! ## Whole templates -/

namespace Template

/-- Every entry is valid after the entries before it. -/
def EntriesValid (es : List Entry) : Prop :=
  EachAfter (fun before e ↦ e.Valid (before.map (·.name))) es

/-- **The run.** After entries with the `earlier` names it makes definitions of the entries that are
left, if each is valid, and they are the ones declared. -/
theorem ofEntries_eq_ok_iff {earlier : List String} {es : List Entry} {ds : Template} :
    ofEntries earlier es = .ok ds ↔
      EachAfter (fun before e ↦ e.Valid (earlier ++ before.map (·.name))) es ∧
        List.Forall₂ Entry.Declares es ds := by
  induction es generalizing earlier ds with
  | nil =>
    rw [ofEntries, List.forall₂_nil_left_iff, Except.ok.injEq]
    simp [eq_comm]
  | cons e es ih =>
    rw [eachAfter_map_cons, List.forall₂_cons_left_iff]
    constructor
    · intro h
      obtain ⟨d, hd, h⟩ := bind_eq_ok.mp h
      obtain ⟨ds, hds, h⟩ := bind_eq_ok.mp h
      obtain rfl := Except.ok.inj h
      obtain ⟨hvalid, hdeclares⟩ := Entry.define_eq_ok_iff.mp hd
      obtain ⟨hrest, hall⟩ := ih.mp hds
      exact ⟨⟨hvalid, hrest⟩, d, ds, hdeclares, hall, rfl⟩
    · rintro ⟨⟨hvalid, hrest⟩, d, ds, hdeclares, hall, rfl⟩
      have hd := Entry.define_eq_ok_iff.mpr ⟨hvalid, hdeclares⟩
      exact bind_eq_ok.mpr ⟨d, hd, bind_eq_ok.mpr ⟨ds, ih.mpr ⟨hrest, hall⟩, rfl⟩⟩

theorem exists_ofEntries_of_valid (earlier : List String) {es : List Entry}
    (h : EachAfter (fun before e ↦ e.Valid (earlier ++ before.map (·.name))) es) :
    ∃ ds, ofEntries earlier es = .ok ds := by
  induction es generalizing earlier with
  | nil => exact ⟨[], rfl⟩
  | cons e es ih =>
    obtain ⟨hvalid, hrest⟩ := eachAfter_map_cons.mp h
    obtain ⟨d, hd⟩ := Entry.exists_define_of_valid hvalid
    obtain ⟨ds, hds⟩ := ih (earlier ++ [e.name]) hrest
    exact ⟨d :: ds, bind_eq_ok.mpr ⟨d, hd, bind_eq_ok.mpr ⟨ds, hds, rfl⟩⟩⟩

/-- **The first fault.** Behind valid entries an entry that is not decides the outcome, whatever
entries follow. -/
theorem exists_fault_of_not_valid (earlier : List String) {before : List Entry} {e : Entry}
    (hbefore : EachAfter (fun made e ↦ e.Valid (earlier ++ made.map (·.name))) before)
    (he : ¬e.Valid (earlier ++ before.map (·.name))) :
    ∃ f : Fault, f.Blames e.name ∧
      ∀ after, ofEntries earlier (before ++ e :: after) = .error f := by
  induction before generalizing earlier with
  | nil =>
    rw [List.map_nil, List.append_nil] at he
    cases hdefine : e.define earlier with
    | ok d => exact absurd (Entry.define_eq_ok_iff.mp hdefine).1 he
    | error f =>
      refine ⟨f, Entry.blames_of_define hdefine, fun after ↦ ?_⟩
      rw [List.nil_append, ofEntries, hdefine]
      rfl
  | cons e' before ih =>
    -- The fault is the one of the shorter run, which starts one name later.
    obtain ⟨hvalid, hrest⟩ := eachAfter_map_cons.mp hbefore
    rw [List.map_cons, ← List.singleton_append, ← List.append_assoc] at he
    obtain ⟨d, hd⟩ := Entry.exists_define_of_valid hvalid
    obtain ⟨f, hf, hfault⟩ := ih (earlier ++ [e'.name]) hrest he
    refine ⟨f, hf, fun after ↦ ?_⟩
    rw [List.cons_append, ofEntries, hd]
    simp only [bind, Except.bind, hfault]

theorem compile_eq_of_scan {source : String} {es : List Entry} (h : Scan source.toList es) :
    compile source = ofEntries [] es := by
  rw [compile, entries, scan_iff.mp h]

theorem kind_of_compile {source : String} {f : Fault} (h : compile source = .error f) :
    f.kind = .invalidTemplate := by
  have hrun : ∀ es earlier, ofEntries earlier es = .error f → f.kind = .invalidTemplate := by
    intro es
    induction es with
    | nil => exact fun earlier hes ↦ nomatch hes
    | cons e es ih =>
      intro earlier hes
      obtain hd | ⟨d, -, hes⟩ := bind_eq_error.mp hes
      · exact (Entry.blames_of_define hd).1
      · obtain hds | ⟨ds, -, hes⟩ := bind_eq_error.mp hes
        · exact ih _ hds
        · cases hes
  exact hrun _ [] h

/-- **Exactly the valid templates compile.** A text has one scan. It compiles when all entries of
the scan are valid, to one definition for each of them in their order. Otherwise it is a fault about
the first that is not valid, the same one for every text with this entry behind the same entries. -/
theorem compile_accepts_valid_entries (source : String) :
    ∃ es, Scan source.toList es ∧ (∀ es', Scan source.toList es' → es' = es) ∧
      ((∃ ds, compile source = .ok ds) ↔ EntriesValid es) ∧
      (∀ ds, compile source = .ok ds → List.Forall₂ Entry.Declares es ds) ∧
      (¬EntriesValid es → ∃ before e after f, es = before ++ e :: after ∧ EntriesValid before ∧
        ¬e.Valid (before.map (·.name)) ∧ compile source = .error f ∧ f.Blames e.name ∧
        ∀ text later, Scan (String.toList text) (before ++ e :: later) →
          compile text = .error f) := by
  have hscan := scan_entriesFrom source.toList
  refine ⟨_, hscan, fun es' h ↦ scan_iff.mp h, ⟨?_, ?_⟩, fun ds h ↦ ?_, fun h ↦ ?_⟩
  · rintro ⟨ds, h⟩
    rw [compile_eq_of_scan hscan] at h
    exact (ofEntries_eq_ok_iff.mp h).1
  · intro h
    rw [compile_eq_of_scan hscan]
    exact exists_ofEntries_of_valid [] h
  · rw [compile_eq_of_scan hscan] at h
    exact (ofEntries_eq_ok_iff.mp h).2
  · obtain ⟨before, e, after, hes, hbefore, he⟩ := exists_first_not_of_not_eachAfter h
    obtain ⟨f, hf, hfault⟩ := exists_fault_of_not_valid [] hbefore he
    refine ⟨before, e, after, f, hes, hbefore, he, ?_, hf, fun text later htext ↦ ?_⟩
    · rw [compile_eq_of_scan hscan, hes, hfault]
    · rw [compile_eq_of_scan htext, hfault]

end Template

end LineCommands
