import LineCommands.Proofs.Binding.Cut
import LineCommands.Proofs.Binding.Failure
import LineCommands.Proofs.Conversion.Typing
import LineCommands.Proofs.Template.Rendering

/-!
# Names that a binding misses

Compiling a template checks that the sizes in it refer to earlier names. The check looks at names
only, so it does not rule out that binding misses a name; it rules out every way but one. A name
that is missed has been bound, and to something that is no number: the last definition of it before
the size is a string, a character or an array.

## The invariant

Behind some of the definitions the walk holds one share for each of them, and what the bindings have
under a name is the value of the last share with that name. The kind of its definition decides
whether this is a number, whatever the tokens are.
-/

namespace LineCommands

/-! ## Numbers by kind -/

/-- The definition makes a number of its token. -/
def Definition.IsNumber (d : Definition) : Prop :=
  d.kind = .simple .int ∨ d.kind = .simple .float

theorem Definition.kind_of_not_isNumber {d : Definition} (h : ¬d.IsNumber) :
    d.kind = .simple .string ∨ d.kind = .simple .char ∨
      ∃ size element, d.kind = .array size element := by
  obtain ⟨name, kind⟩ := d
  cases kind with
  | simple type =>
    cases type with
    | string => exact Or.inl rfl
    | int => exact absurd (Or.inl rfl) h
    | float => exact absurd (Or.inr rfl) h
    | char => exact Or.inr (Or.inl rfl)
  | array size element => exact Or.inr (Or.inr ⟨size, element, rfl⟩)

theorem Definition.Fits.exists_number {d : Definition} {before : Bindings} {block : List String}
    {v : Value} (h : d.Fits before block v) (hd : d.IsNumber) : ∃ n, v.number? = some n := by
  obtain ⟨name, kind⟩ := d
  obtain rfl | rfl := hd
  · obtain ⟨token, -, htoken⟩ := h
    obtain ⟨n, rfl, -⟩ := exists_int_of_convert htoken
    exact ⟨_, rfl⟩
  · obtain ⟨token, -, htoken⟩ := h
    obtain ⟨x, rfl⟩ := exists_float_of_convert htoken
    exact ⟨_, rfl⟩

/-! ## The last definition of a name -/

namespace Template

/-- The last definition of a name. -/
def lastOf (x : String) (ds : Template) : Option Definition := ds.reverse.find? (·.name == x)

theorem exists_lastOf_of_mem {ds : Template} {x : String} (h : x ∈ ds.map (·.name)) :
    ∃ d, lastOf x ds = some d := by
  obtain ⟨d, hd, hx⟩ := List.mem_map.mp h
  rw [← Option.isSome_iff_exists, lastOf, List.find?_isSome]
  exact ⟨d, List.mem_reverse.mpr hd, by simpa using hx⟩

theorem get?_bindings_of_lastOf {ds : Template} {tokens : List String} {b : Bound}
    (hb : ds.bind tokens = .ok b) {x : String} {d : Definition} (hd : lastOf x ds = some d) :
    ∃ before block v, Fields.get? x b.bindings = some v ∧ d.Fits before block v := by
  obtain ⟨shares, hcut, rfl⟩ := bind_eq_ok_iff.mp hb
  rw [lastOf, ← hcut.definitions, ← List.map_reverse, List.find?_map] at hd
  obtain ⟨s, hs, rfl⟩ := Option.map_eq_some_iff.mp hd
  have hmem : s ∈ shares := List.mem_reverse.mp (List.mem_of_find?_eq_some hs)
  obtain ⟨before, after, hshares⟩ := List.append_of_mem hmem
  refine ⟨Share.bindings before, s.block, s.value, ?_, hcut.fits before s after hshares⟩
  have hs' : shares.reverse.find? (·.definition.name == x) = some s := hs
  rw [Share.get?_bindings, hs']
  rfl

/-- A number is bound under every name whose last definition is one of a number. -/
theorem assignment_ne_none {ds : Template} {tokens : List String} {b : Bound}
    (hb : ds.bind tokens = .ok b) {x : String} {d : Definition} (hd : lastOf x ds = some d)
    (hnumber : d.IsNumber) : Size.assignment b.bindings x ≠ none := by
  obtain ⟨before, block, v, hget, hfits⟩ := get?_bindings_of_lastOf hb hd
  obtain ⟨n, hn⟩ := hfits.exists_number hnumber
  rw [Size.assignment, hget, Option.bind_some, hn]
  exact Option.some_ne_none n

/-! ## Where a name is missed -/

/-- With the definitions `before` bound, the size of `d` is evaluated and misses the name `x`. -/
def MissesAt (tokens : List String) (before : Template) (d : Definition) (x : String) : Prop :=
  ∃ b size element, before.bind tokens = .ok b ∧ d.kind = .array size element ∧
    Size.evaluate size b.bindings d.name = .error (.sizeError size d.name (.unknownVariable x))

/-- Each name in a size was last defined as a number. -/
def SizedByNumbers (ds : Template) : Prop :=
  EachAfter (fun before d ↦ ∀ size element, d.kind = .array size element →
    ∀ x ∈ Expr.referencedNames size, ∃ earlier, lastOf x before = some earlier ∧ earlier.IsNumber) ds

theorem exists_missesAt_of_bind {ds : Template} {tokens : List String} {size argument x : String}
    (h : ds.bind tokens = .error (.fault (.sizeError size argument (.unknownVariable x)))) :
    ∃ before d after, ds = before ++ d :: after ∧ d.name = argument ∧ MissesAt tokens before d x := by
  obtain ⟨before, d, after, b, hds, hbefore, htake⟩ := bind_eq_error_iff.mp h
  obtain ⟨element, rfl, hsize⟩ := (Definition.refuses_of_take htake).missed
  exact ⟨before, _, after, hds, rfl, b, size, element, hbefore, rfl, hsize⟩

theorem MissesAt.exists_size {tokens : List String} {before : Template} {d : Definition} {x : String}
    (h : MissesAt tokens before d x) :
    ∃ b size element, before.bind tokens = .ok b ∧ d.kind = .array size element ∧
      x ∈ Expr.referencedNames size ∧ Size.assignment b.bindings x = none := by
  obtain ⟨b, size, element, hbefore, hkind, hsize⟩ := h
  exact ⟨b, size, element, hbefore, hkind, Size.mem_referencedNames_of_evaluate hsize⟩

/-- **Missed names.** When binding the definitions of a template misses a name, the name was defined
before the array whose size it stands in, and its last definition there is no number. So nothing is
missed where all names in sizes are numbers, whatever the tokens are. -/
theorem missed_name_is_no_number {source : String} {ds : Template}
    (hcompile : compile source = .ok ds) (tokens : List String) :
    (∀ size argument x,
      ds.bind tokens = .error (.fault (.sizeError size argument (.unknownVariable x))) →
        ∃ before d after, ds = before ++ d :: after ∧ d.name = argument ∧
          MissesAt tokens before d x) ∧
    (∀ before d after x, ds = before ++ d :: after → MissesAt tokens before d x →
      x ∈ before.map (·.name) ∧ ∃ last, lastOf x before = some last ∧
        (last.kind = .simple .string ∨ last.kind = .simple .char ∨
          ∃ size element, last.kind = .array size element)) ∧
    (ds.SizedByNumbers → ∀ size argument x,
      ds.bind tokens ≠ .error (.fault (.sizeError size argument (.unknownVariable x)))) := by
  refine ⟨fun size argument x ↦ exists_missesAt_of_bind, ?_, ?_⟩
  · intro before d after x hds hmisses
    obtain ⟨b, size, element, hbefore, hkind, hmem, hnone⟩ := hmisses.exists_size
    have hearlier : x ∈ before.map (·.name) :=
      ((valid_of_compile hcompile before d after hds).size size element hkind).names x hmem
    obtain ⟨last, hlast⟩ := exists_lastOf_of_mem hearlier
    refine ⟨hearlier, last, hlast, Definition.kind_of_not_isNumber fun hnumber ↦ ?_⟩
    exact assignment_ne_none hbefore hlast hnumber hnone
  · intro hsized size argument x h
    obtain ⟨before, d, after, hds, -, hmisses⟩ := exists_missesAt_of_bind h
    obtain ⟨b, size', element, hbefore, hkind, hmem, hnone⟩ := hmisses.exists_size
    obtain ⟨last, hlast, hnumber⟩ := hsized before d after hds size' element hkind x hmem
    exact assignment_ne_none hbefore hlast hnumber hnone

/-- A length whose last definition is a string is missed; one that is a number never is. -/
theorem missed_name_is_no_number_string :
    (compile "&int n &string n &array<n> xs"
        = .ok [⟨"n", .simple .int⟩, ⟨"n", .simple .string⟩, ⟨"xs", .array "n" none⟩] ∧
      MissesAt ["2", "2", "a", "b"] [⟨"n", .simple .int⟩, ⟨"n", .simple .string⟩]
        ⟨"xs", .array "n" none⟩ "n" ∧
      ∃ last, lastOf "n" [⟨"n", .simple .int⟩, ⟨"n", .simple .string⟩] = some last ∧
        (last.kind = .simple .string ∨ last.kind = .simple .char ∨
          ∃ size element, last.kind = .array size element)) ∧
    (compile "&int n &array<n> xs" = .ok [⟨"n", .simple .int⟩, ⟨"xs", .array "n" none⟩] ∧
      SizedByNumbers [⟨"n", .simple .int⟩, ⟨"xs", .array "n" none⟩] ∧
      bind [⟨"n", .simple .int⟩, ⟨"xs", .array "n" none⟩] ["2", "a"]
        ≠ .error (.fault (.sizeError "n" "xs" (.unknownVariable "n")))) := by
  constructor
  · have hcompile : compile "&int n &string n &array<n> xs" = .ok [⟨"n", .simple .int⟩,
        ⟨"n", .simple .string⟩, ⟨"xs", .array "n" none⟩] := by cbv
    have hbefore : bind [⟨"n", .simple .int⟩, ⟨"n", .simple .string⟩] ["2", "2", "a", "b"]
        = .ok ⟨[("n", .text "2")], 2, ["a", "b"]⟩ := by cbv
    have hsize : Size.evaluate "n" [("n", .text "2")] "xs"
        = .error (.sizeError "n" "xs" (.unknownVariable "n")) := by cbv
    have hmisses : MissesAt ["2", "2", "a", "b"] [⟨"n", .simple .int⟩, ⟨"n", .simple .string⟩]
        ⟨"xs", .array "n" none⟩ "n" := ⟨_, "n", none, hbefore, rfl, hsize⟩
    have hlast := (missed_name_is_no_number hcompile ["2", "2", "a", "b"]).2.1 _ _ [] "n" rfl hmisses
    exact ⟨hcompile, hmisses, hlast.2⟩
  · have hcompile : compile "&int n &array<n> xs"
        = .ok [⟨"n", .simple .int⟩, ⟨"xs", .array "n" none⟩] := by cbv
    have hnames : Expr.referencedNames "n" = ["n"] := by cbv
    have hsized : SizedByNumbers [⟨"n", .simple .int⟩, ⟨"xs", .array "n" none⟩] := by
      refine eachAfter_cons.mpr ⟨fun size element hkind ↦ (by cases hkind), ?_⟩
      refine eachAfter_cons.mpr ⟨fun size element hkind x hx ↦ ?_, eachAfter_nil⟩
      obtain ⟨rfl, -⟩ := ArgumentKind.array.inj hkind
      rw [hnames, List.mem_singleton] at hx
      exact ⟨⟨"n", .simple .int⟩, by rw [hx]; rfl, Or.inl rfl⟩
    exact ⟨hcompile, hsized, (missed_name_is_no_number hcompile ["2", "a"]).2.2 hsized "n" "xs" "n"⟩

end Template

end LineCommands
