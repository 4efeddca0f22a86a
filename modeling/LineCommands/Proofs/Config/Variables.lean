import LineCommands.Proofs.Config.Leaves

/-!
# Variables by name

The variable of a field of a command has the keyword and the name of the field in its name, between
pairs of underscores. It is taken apart at these again, and the keyword comes back if it has none in
it and does not end in an underscore (`partPath?_fieldVariable`). Conversely a path is that of one
name only (`partPath?_inj`).

The case of the names does not matter. If an environment has one more variable than another, or
another value of it (`Puts`), then in lower case both have the same variables beside it, in the same
order, and it stands where it stood if it was there (`normalized_of_puts`).
-/

namespace LineCommands.Environment

open Fields

/-! ## Names between underscores -/

/-- What stands between the pieces of a name. -/
def pair : List Char := ['_', '_']

theorem splitPairs_cons {c : Char} {cs piece : List Char} {rest : List (List Char)}
    (hpair : ¬pair <+: c :: cs) (h : splitPairs cs = piece :: rest) :
    splitPairs (c :: cs) = (c :: piece) :: rest := by
  rw [splitPairs, h]
  rintro cs' rfl rfl
  exact hpair ⟨cs', rfl⟩

theorem splitPairs_ne_nil (cs : List Char) : splitPairs cs ≠ [] := by
  fun_cases splitPairs cs <;> exact List.cons_ne_nil _ _

theorem intercalate_splitPairs (cs : List Char) : pair.intercalate (splitPairs cs) = cs := by
  fun_induction splitPairs cs with
  | case1 => rfl
  | case2 cs ih =>
    obtain ⟨piece, rest, hsplit⟩ := List.exists_cons_of_ne_nil (splitPairs_ne_nil cs)
    rw [hsplit] at ih ⊢
    rw [List.intercalate_cons_cons, ih]
    rfl
  | case3 c cs _ hsplit => exact absurd hsplit (splitPairs_ne_nil cs)
  | case4 c cs _ piece rest hsplit ih =>
    rw [hsplit] at ih
    cases rest with
    | nil => exact congrArg (c :: ·) ih
    | cons next rest =>
      rw [List.intercalate_cons_cons] at ih ⊢
      exact congrArg (c :: ·) ih

/-- A piece without a pair of underscores, also at its end with the first one after it, is found. -/
theorem splitPairs_append {piece : List Char} (h : ¬pair <:+: piece ++ ['_']) (cs : List Char) :
    splitPairs (piece ++ pair ++ cs) = piece :: splitPairs cs := by
  induction piece with
  | nil => rfl
  | cons c piece ih =>
    have hpiece : ¬pair <:+: piece ++ ['_'] :=
      fun hinside ↦ h (hinside.trans (List.suffix_cons _ _).isInfix)
    refine splitPairs_cons (fun hfront ↦ h ?_) (ih hpiece)
    -- The first two characters are in what has no pair, as there is one more behind the piece.
    have hlong : pair <+: c :: piece ++ ['_'] := by
      refine List.prefix_of_prefix_length_le hfront ⟨'_' :: cs, by simp [pair]⟩ ?_
      simp [pair]
    exact hlong.isInfix

theorem splitPairs_of_no_pair {piece : List Char} (h : ¬pair <:+: piece) :
    splitPairs piece = [piece] := by
  induction piece with
  | nil => rfl
  | cons c piece ih =>
    have hpiece : ¬pair <:+: piece := fun hinside ↦ h (hinside.trans (List.suffix_cons _ _).isInfix)
    exact splitPairs_cons (fun hfront ↦ h hfront.isInfix) (ih hpiece)

/-! ## Variables of commands -/

theorem partPath?_eq_some_iff {start name : String} {path : List String} :
    partPath? start name = some path ↔ ∃ cs, name.toList = (start ++ "__").toList ++ cs ∧
      (splitPairs cs).map String.ofList = path := by
  rw [partPath?]
  split
  · next hfront =>
    obtain ⟨cs, hcs⟩ := List.isPrefixOf_iff_prefix.mp hfront
    rw [← hcs, List.drop_left, Option.some.injEq]
    constructor
    · exact fun h ↦ ⟨cs, rfl, h⟩
    · rintro ⟨cs', hcs', h⟩
      rwa [List.append_cancel_left hcs']
  · next hfront =>
    refine iff_of_false (by rintro ⟨⟩) ?_
    rintro ⟨cs, hcs, -⟩
    exact hfront (List.isPrefixOf_iff_prefix.mpr ⟨cs, hcs.symm⟩)

theorem ne_of_partPath? {start name other : String} {path : List String}
    (hname : partPath? start name = some path) (hother : partPath? start other = none) :
    other ≠ name := by
  rintro rfl
  rw [hother] at hname
  cases hname

theorem partPath?_inj {start name name' : String} {path : List String}
    (h : partPath? start name = some path) (h' : partPath? start name' = some path) :
    name = name' := by
  obtain ⟨cs, hcs, hpath⟩ := partPath?_eq_some_iff.mp h
  obtain ⟨cs', hcs', hpath'⟩ := partPath?_eq_some_iff.mp h'
  have hsplit : splitPairs cs = splitPairs cs' :=
    List.map_injective_iff.mpr (fun _ _ ↦ String.ofList_inj.mp) (hpath.trans hpath'.symm)
  rw [← String.toList_inj, hcs, hcs', ← intercalate_splitPairs cs, hsplit, intercalate_splitPairs]

/-- The variable of all commands. -/
def commandsVariable : String := namePrefix ++ "commands"

/-- The variable of a command as a whole. -/
def commandVariable (x : String) : String := commandsVariable ++ "__" ++ x

/-- The variable of a field of a command. -/
def fieldVariable (x : String) (f : CommandField) : String := commandVariable x ++ "__" ++ f.name

/-- The keyword can be told from what stands around it in the name of a variable: it has no pair of
underscores in it and does not end in one underscore. -/
def IsPlain (x : String) : Prop := ¬pair <:+: x.toList ++ ['_']

instance (x : String) : Decidable (IsPlain x) :=
  inferInstanceAs (Decidable (¬pair <:+: x.toList ++ ['_']))

theorem partPath?_fieldVariable {x : String} (h : IsPlain x) (f : CommandField) :
    partPath? commandsVariable (fieldVariable x f) = some [x, f.name] := by
  have hname : splitPairs f.name.toList = [f.name.toList] := by
    cases f <;> rfl
  refine partPath?_eq_some_iff.mpr ⟨x.toList ++ pair ++ f.name.toList, ?_, ?_⟩
  · simp [fieldVariable, commandVariable, pair]
  · rw [splitPairs_append h, hname]
    simp

theorem partPath?_commandVariable {x : String} (h : IsPlain x) :
    partPath? commandsVariable (commandVariable x) = some [x] := by
  have hx : ¬pair <:+: x.toList := fun hinside ↦ h (hinside.trans (List.prefix_append _ _).isInfix)
  refine partPath?_eq_some_iff.mpr ⟨x.toList, ?_, ?_⟩
  · simp [commandVariable]
  · rw [splitPairs_of_no_pair hx]
    simp

theorem partPath?_interpreter_eq_none {name : String} {path : List String}
    (h : partPath? commandsVariable name = some path) :
    partPath? (namePrefix ++ "interpreter") name = none := by
  obtain ⟨cs, hcs, -⟩ := partPath?_eq_some_iff.mp h
  refine Option.eq_none_iff_forall_ne_some.mpr fun other hother ↦ ?_
  obtain ⟨cs', hcs', -⟩ := partPath?_eq_some_iff.mp hother
  -- The names differ in the first character after the prefix.
  have hcharacter : some 'c' = some 'i' :=
    congrArg (fun cs : List Char ↦ cs[8]?) (hcs.symm.trans hcs')
  cases hcharacter

theorem commandVariable_ne_fieldVariable {x : String} (h : IsPlain x) (f : CommandField) :
    commandVariable x ≠ fieldVariable x f := by
  intro heq
  have hpath := partPath?_commandVariable h
  rw [heq, partPath?_fieldVariable h] at hpath
  cases hpath

/-- Without the variable of a command as a whole no variable has its path. -/
theorem partPath?_ne_of_get?_eq_none {x : String} (h : IsPlain x) {vars : Fields String}
    (hnone : vars.get? (commandVariable x) = none) :
    ∀ name ∈ vars.names, partPath? commandsVariable name ≠ some [x] := by
  intro name hname hpath
  rw [partPath?_inj hpath (partPath?_commandVariable h), ← get?_isSome_iff, hnone] at hname
  cases hname

/-! ## One variable more -/

/-- Both have the same variables beside those of one name, in the same order. The name is in lower
case, and variables that differ in case only have one name. -/
def AgreeBeside (name : String) (vars vars' : Variables) : Prop :=
  Fields.keep (fun other ↦ Text.lower other != name) vars'
    = Fields.keep (fun other ↦ Text.lower other != name) vars

/-- The second has one variable more, or another value of one that the first has. -/
def Puts (name : String) (vars vars' : Variables) : Prop :=
  ∃ before spelling text after, Text.lower spelling = name ∧
    vars' = before ++ (spelling, text) :: after ∧
    ((vars = before ++ after ∧ ∀ var ∈ vars, Text.lower var.1 ≠ name) ∨
      ∃ old, vars = before ++ (spelling, old) :: after)

section

variable {name : String} {vars vars' : Variables}

theorem nodup_names_normalized (vars : Variables) : (normalized vars).names.Nodup :=
  nodup_names_ofPairs _

theorem names_normalized (vars : Variables) :
    (normalized vars).names = (vars.map fun var ↦ Text.lower var.1).eraseDups := by
  rw [normalized, names_ofPairs, List.map_map]
  rfl

theorem mem_names_normalized :
    name ∈ (normalized vars).names ↔ ∃ var ∈ vars, Text.lower var.1 = name := by
  rw [names_normalized, List.mem_eraseDups, List.mem_map]

/-- Leaving variables out before or after their names are put in lower case comes to the same. -/
theorem keep_normalized {p : String → Bool} (vars : Variables) :
    (normalized vars).keep p = normalized (Fields.keep (fun name ↦ p (Text.lower name)) vars) := by
  rw [normalized, normalized, keep_ofPairs, Fields.keep, Fields.keep, List.filter_map]
  rfl

theorem Puts.agreeBeside (h : Puts name vars vars') : AgreeBeside name vars vars' := by
  rw [AgreeBeside]
  obtain ⟨before, spelling, text, after, hname, rfl, ⟨rfl, -⟩ | ⟨old, rfl⟩⟩ := h
  · rw [keep_append, keep_append, keep_cons, hname, if_neg (by simp)]
  · rw [keep_append, keep_append, keep_cons, keep_cons, hname, if_neg (by simp), if_neg (by simp)]

theorem AgreeBeside.normalized_keep_eq (h : AgreeBeside name vars vars') :
    (normalized vars').keep (· != name) = (normalized vars).keep (· != name) := by
  rw [keep_normalized, keep_normalized, h]

theorem AgreeBeside.get?_normalized_eq (h : AgreeBeside name vars vars') {other : String}
    (hother : other ≠ name) :
    (normalized vars').get? other = (normalized vars).get? other := by
  have hkept : ∀ vars : Fields String, (vars.keep (· != name)).get? other = vars.get? other :=
    get?_keep (bne_iff_ne.mpr hother)
  rw [← hkept, h.normalized_keep_eq, hkept]

theorem Puts.mem_names_normalized (h : Puts name vars vars') : name ∈ (normalized vars').names := by
  obtain ⟨before, spelling, text, after, hname, rfl, -⟩ := h
  exact Environment.mem_names_normalized.mpr
    ⟨_, List.mem_append_right _ List.mem_cons_self, hname⟩

/-- **One variable more.** The variables in lower case are the same but for this one, which stands
where it stood if it was there. -/
theorem normalized_of_puts (h : Puts name vars vars') : ∃ before text after,
    normalized vars' = before ++ (name, text) :: after ∧
      (normalized vars = before ++ after ∨
        ∃ old, normalized vars = before ++ (name, old) :: after) := by
  have hkeep := h.agreeBeside.normalized_keep_eq
  have hmem := h.mem_names_normalized
  obtain ⟨front, spelling, text', back, hname, rfl, hvars⟩ := h
  obtain ⟨before, text, after, heq, hbefore, hrest⟩ :=
    exists_append_of_mem_names (nodup_names_normalized _) hmem
  rw [hrest] at hkeep
  refine ⟨before, text, after, heq, ?_⟩
  obtain ⟨-, hnew⟩ | ⟨old, rfl⟩ := hvars
  · refine Or.inl ?_
    rw [hkeep, keep_ne_eq_self]
    exact fun hmem ↦ (mem_names_normalized.mp hmem).elim fun var hvar ↦ hnew var hvar.1 hvar.2
  · refine Or.inr ?_
    have hnames : (normalized (front ++ (spelling, text') :: back)).names
        = (normalized (front ++ (spelling, old) :: back)).names := by
      simp only [names_normalized, List.map_append, List.map_cons]
    obtain ⟨before', old', after', heq', hbefore', hrest'⟩ :=
      exists_append_of_mem_names (nodup_names_normalized _) (hnames ▸ hmem)
    -- The variable stands behind as many others in both.
    have hlength : before.length = before'.length := by
      rw [← idxOf_names_append hbefore text after, ← idxOf_names_append hbefore' old' after', ← heq,
        ← heq', hnames]
    obtain ⟨rfl, rfl⟩ := List.append_inj (hkeep.trans hrest') hlength
    exact ⟨old', heq'⟩

end

end LineCommands.Environment
