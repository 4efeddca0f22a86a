import Mathlib
import LineCommands.Proofs.Binding.Cut
import LineCommands.Proofs.Binding.Failure

/-!
# The definition that a failed binding blames

A failed binding is about one definition: those before it bind, and those up to it fail, whatever
definitions follow. The fault is told under the name of this definition. What it is, and every number
in it, can be read off the bindings of the definitions before it and off the tokens that they have
left (`Definition.Blames`).
-/

namespace LineCommands

/-! ## What a definition has against its tokens -/

/-- The fault is about tokens, and not about the size of an array. -/
def Fault.ConcernsTokens : Fault → Prop
  | .missingArgument .. | .tooFewTokens .. | .notConvertible .. => True
  | _ => False

theorem Size.not_concernsTokens_of_evaluate {size argument : String} {bound : Bindings} {f : Fault}
    (h : Size.evaluate size bound argument = .error f) : ¬f.ConcernsTokens := by
  rcases Size.fault_of_evaluate h with ⟨cause, rfl, -⟩ | rfl | ⟨n, rfl⟩ <;> exact id

theorem Size.argument_of_evaluate {size argument : String} {bound : Bindings} {f : Fault}
    (h : Size.evaluate size bound argument = .error f) :
    f.context.get? "argument" = some (.text argument) := by
  rcases Size.fault_of_evaluate h with ⟨cause, rfl, -⟩ | rfl | ⟨n, rfl⟩ <;> rfl

namespace Definition

variable {d : Definition} {bound : Bindings} {consumed : Nat} {tokens : List String} {f : Fault}

/-- The token is the first of the block that cannot be converted. -/
def FirstUnconverted (d : Definition) (bound : Bindings) (tokens : List String) (t : String)
    (type : Primitive) : Prop :=
  ∃ n before after, d.blockSize bound = .ok n ∧ n ≤ tokens.length ∧ d.tokenType? = some type ∧
    tokens.take n = before ++ t :: after ∧
    (∀ s ∈ before, ∃ v, convert s type d.name = .ok v) ∧
    convert t type d.name = .error (.fault (.notConvertible t type d.name))

/-- The fault is what the definition has against the tokens behind the first `consumed` ones, which
have gone to the definitions before it. -/
structure Blames (d : Definition) (bound : Bindings) (consumed : Nat) (tokens : List String)
    (f : Fault) : Prop where
  /-- The fault is told under the name of the definition. -/
  argument : f.context.get? "argument" = some (.text d.name)
  /-- An argument is missing if it is a single one and no token is left. -/
  missing : ∀ a p, f = .missingArgument a p ↔
    a = d.name ∧ p = consumed ∧ (∃ type, d.kind = .simple type) ∧ consumed = tokens.length
  /-- Tokens are too few if the size of an array is more than what is left. -/
  tooFew : ∀ a n m, f = .tooFewTokens a n m ↔
    a = d.name ∧ m = tokens.length - consumed ∧ m < n ∧
      ∃ size element, d.kind = .array size element ∧ Size.evaluate size bound d.name = .ok n
  /-- A token cannot be converted if it is the first one of the block. -/
  conversion : ∀ t type a, f = .notConvertible t type a ↔
    a = d.name ∧ d.FirstUnconverted bound (tokens.drop consumed) t type
  /-- All else is what the size of an array fails with. -/
  size : ¬f.ConcernsTokens ↔
    ∃ size element, d.kind = .array size element ∧ Size.evaluate size bound d.name = .error f

theorem Refuses.unique {e e' : Failure} (h : d.Refuses bound consumed tokens e)
    (h' : d.Refuses bound consumed tokens e') : e = e' := by
  rw [← take_eq_error_iff] at h h'
  exact Except.error.inj (h.symm.trans h')

theorem FirstUnconverted.refuses {t : String} {type : Primitive}
    (h : d.FirstUnconverted bound tokens t type) :
    d.Refuses bound consumed tokens (.fault (.notConvertible t type d.name)) := by
  obtain ⟨n, before, after, hsize, hn, htype, hblock, hbefore, htoken⟩ := h
  exact .token hsize hn htype hblock hbefore htoken

theorem Refuses.fault_cases (h : d.Refuses bound consumed tokens (.fault f)) :
    (f = .missingArgument d.name consumed ∧ (∃ type, d.kind = .simple type) ∧ tokens = []) ∨
    (∃ n, f = .tooFewTokens d.name n tokens.length ∧ tokens.length < n ∧
      ∃ size element, d.kind = .array size element ∧ Size.evaluate size bound d.name = .ok n) ∨
    (∃ t type, f = .notConvertible t type d.name ∧ d.FirstUnconverted bound tokens t type) ∨
    ∃ size element, d.kind = .array size element ∧ Size.evaluate size bound d.name = .error f := by
  cases h with
  | missing hkind htokens => exact Or.inl ⟨rfl, ⟨_, hkind⟩, htokens⟩
  | size hsize => exact Or.inr (Or.inr (Or.inr (exists_size_of_blockSize hsize)))
  | @tooFew size element n hkind hsize hn =>
    rw [blockSize, hkind] at hsize
    exact Or.inr (Or.inl ⟨n, rfl, hn, size, element, hkind, hsize⟩)
  | token hsize hn htype hblock hbefore htoken =>
    rcases convert_eq_error htoken with hf | ⟨-, -, hf⟩
    · obtain rfl := Failure.fault.inj hf
      exact Or.inr (Or.inr (Or.inl
        ⟨_, _, rfl, _, _, _, hsize, hn, htype, hblock, hbefore, htoken⟩))
    · cases hf

/-- **Blame.** What a definition refuses the tokens for is what it blames them for. -/
theorem Refuses.blames (h : d.Refuses bound consumed (tokens.drop consumed) (.fault f))
    (hconsumed : consumed ≤ tokens.length) : d.Blames bound consumed tokens f := by
  have hnil : tokens.drop consumed = [] ↔ consumed = tokens.length := by
    rw [List.drop_eq_nil_iff]
    omega
  have hleft : (tokens.drop consumed).length = tokens.length - consumed := List.length_drop
  -- Where a definition has a second fault, it is the one that it has: `take` has one outcome.
  have hunique : ∀ g, d.Refuses bound consumed (tokens.drop consumed) (.fault g) → f = g :=
    fun g hg ↦ Failure.fault.inj (h.unique hg)
  have hcases := h.fault_cases
  rw [hleft, hnil] at hcases
  constructor
  case argument =>
    rcases hcases with ⟨rfl, -⟩ | ⟨n, rfl, -⟩ | ⟨t, type, rfl, -⟩ | ⟨size, element, -, hsize⟩
    · rfl
    · rfl
    · rfl
    · exact Size.argument_of_evaluate hsize
  case missing =>
    intro a p
    constructor
    · rintro rfl
      rcases hcases with ⟨hf, hkind, hlength⟩ | ⟨n, hf, -⟩ | ⟨t, type, hf, -⟩ |
        ⟨size, element, -, hsize⟩
      · obtain ⟨rfl, rfl⟩ := Fault.missingArgument.inj hf
        exact ⟨rfl, rfl, hkind, hlength⟩
      · cases hf
      · cases hf
      · exact absurd trivial (Size.not_concernsTokens_of_evaluate hsize)
    · rintro ⟨rfl, rfl, ⟨type, hkind⟩, hlength⟩
      exact hunique _ (.missing hkind (hnil.mpr hlength))
  case tooFew =>
    intro a n m
    constructor
    · rintro rfl
      rcases hcases with ⟨hf, -⟩ | ⟨n', hf, hn, hkind⟩ | ⟨t, type, hf, -⟩ |
        ⟨size, element, -, hsize⟩
      · cases hf
      · obtain ⟨rfl, rfl, rfl⟩ := Fault.tooFewTokens.inj hf
        exact ⟨rfl, rfl, hn, hkind⟩
      · cases hf
      · exact absurd trivial (Size.not_concernsTokens_of_evaluate hsize)
    · rintro ⟨rfl, rfl, hn, size, element, hkind, hsize⟩
      have hblock : d.blockSize bound = .ok n := by
        rw [blockSize, hkind]
        exact hsize
      rw [← hleft] at hn ⊢
      exact hunique _ (.tooFew hkind hblock hn)
  case conversion =>
    intro t type a
    constructor
    · rintro rfl
      rcases hcases with ⟨hf, -⟩ | ⟨n, hf, -⟩ | ⟨t', type', hf, hfirst⟩ |
        ⟨size, element, -, hsize⟩
      · cases hf
      · cases hf
      · obtain ⟨rfl, rfl, rfl⟩ := Fault.notConvertible.inj hf
        exact ⟨rfl, hfirst⟩
      · exact absurd trivial (Size.not_concernsTokens_of_evaluate hsize)
    · rintro ⟨rfl, hfirst⟩
      exact hunique _ hfirst.refuses
  case size =>
    constructor
    · intro hconcerns
      rcases hcases with ⟨rfl, -⟩ | ⟨n, rfl, -⟩ | ⟨t, type, rfl, -⟩ | hsize
      · exact absurd trivial hconcerns
      · exact absurd trivial hconcerns
      · exact absurd trivial hconcerns
      · exact hsize
    · rintro ⟨size, element, -, hsize⟩
      exact Size.not_concernsTokens_of_evaluate hsize

end Definition

/-! ## Where a binding stops -/

namespace Template

variable {ds : Template} {tokens : List String} {e : Failure} {k : Nat}

/-- The first `k` definitions bind, and with one more there is the failure. -/
structure StopsAt (ds : Template) (tokens : List String) (e : Failure) (k : Nat) : Prop where
  binds : ∃ b, Template.bind (ds.take k) tokens = .ok b
  fails : Template.bind (ds.take (k + 1)) tokens = .error e

theorem bind_append_definitions (h : ds.bind tokens = .error e) (later : Template) :
    Template.bind (ds ++ later) tokens = .error e := by
  rw [bind, bindFrom_append, ← bind, h]
  rfl

theorem StopsAt.exists_refuses (h : ds.StopsAt tokens e k) :
    ∃ d b, ds[k]? = some d ∧ Template.bind (ds.take k) tokens = .ok b ∧
      d.Refuses b.bindings b.consumed b.trailing e := by
  obtain ⟨⟨b, hb⟩, hfails⟩ := h
  by_cases hk : k < ds.length
  · refine ⟨ds[k], b, List.getElem?_eq_getElem hk, hb, ?_⟩
    have hlast : bindFrom b.bindings b.consumed [ds[k]] b.trailing = .error e := by
      rw [List.take_succ_eq_append_getElem hk, bind, bindFrom_append, ← bind, hb] at hfails
      exact hfails
    rw [← Definition.take_eq_error_iff]
    cases htake : ds[k].take b.bindings b.consumed b.trailing with
    | error e' =>
      rw [bindFrom_cons_of_error htake] at hlast
      exact congrArg _ (Except.error.inj hlast)
    | ok vn =>
      rw [bindFrom_cons_of_ok htake] at hlast
      cases hlast
  · -- Behind the last definition there is no further one that could fail.
    rw [List.take_of_length_le (by omega)] at hb hfails
    cases hb.symm.trans hfails

/-- The definitions before the place where a binding stops bind, and those up to it do not. -/
theorem StopsAt.le {k' : Nat} (h : ds.StopsAt tokens e k) (h' : ds.StopsAt tokens e k') :
    k ≤ k' := by
  by_contra hlt
  obtain ⟨more, rfl⟩ := Nat.exists_eq_add_of_lt (Nat.not_le.mp hlt)
  obtain ⟨b, hb⟩ := h.binds
  have hfails := bind_append_definitions h'.fails ((ds.drop (k' + 1)).take more)
  rw [← List.take_add, Nat.add_right_comm, hb] at hfails
  cases hfails

theorem existsUnique_stopsAt (h : ds.bind tokens = .error e) : ∃! k, ds.StopsAt tokens e k := by
  obtain ⟨before, d, after, b, rfl, hbefore, htake⟩ := bind_eq_error_iff.mp h
  have hstops : Template.StopsAt (before ++ d :: after) tokens e before.length := by
    constructor
    · exact ⟨b, by rw [List.take_left, hbefore]⟩
    · rw [List.take_length_add_append, List.take_succ_cons, List.take_zero, bind, bindFrom_append,
        ← bind, hbefore]
      exact bindFrom_cons_of_error htake
  exact ⟨before.length, hstops, fun k hk ↦ Nat.le_antisymm (hk.le hstops) (hstops.le hk)⟩

theorem trailing_of_bind {b : Bound} (h : ds.bind tokens = .ok b) :
    b.consumed ≤ tokens.length ∧ b.trailing = tokens.drop b.consumed := by
  obtain ⟨shares, hcut, rfl⟩ := bind_eq_ok_iff.mp h
  exact ⟨hcut.blocks.length_le, rfl⟩

/-- **The definition to blame.** A binding that fails with a fault stops at one place. Whatever
definitions follow there, the fault is the same, and it is what the definition at this place has
against the tokens that those before it have left. -/
theorem bind_blames_one_definition (ds : Template) (tokens : List String) (f : Fault)
    (h : ds.bind tokens = .error (.fault f)) :
    (∃! k, ds.StopsAt tokens (.fault f) k) ∧
    ∀ k, ds.StopsAt tokens (.fault f) k →
      (∀ later : Template,
        Template.bind (ds.take (k + 1) ++ later) tokens = .error (.fault f)) ∧
      ∃ d b, ds[k]? = some d ∧ Template.bind (ds.take k) tokens = .ok b ∧
        d.Blames b.bindings b.consumed tokens f := by
  refine ⟨existsUnique_stopsAt h, fun k hk ↦ ⟨bind_append_definitions hk.fails, ?_⟩⟩
  obtain ⟨d, b, hd, hb, hrefuses⟩ := hk.exists_refuses
  obtain ⟨hconsumed, htrailing⟩ := trailing_of_bind hb
  rw [htrailing] at hrefuses
  exact ⟨d, b, hd, hb, hrefuses.blames hconsumed⟩

/-- The second array asks for more tokens than the first has left. The character behind it would have
been missing as well, but is not looked at. -/
theorem bind_blames_one_definition_array :
    bind [⟨"n", .simple .int⟩, ⟨"xs", .array "n" none⟩, ⟨"ys", .array "n" (some .int)⟩,
        ⟨"c", .simple .char⟩] ["2", "a", "b", "7"] = .error (.fault (.tooFewTokens "ys" 2 1)) ∧
    ∃ k, ∃ d : Definition, ∃ b, Template.bind (List.take k [⟨"n", .simple .int⟩, ⟨"xs", .array "n" none⟩,
        ⟨"ys", .array "n" (some .int)⟩, ⟨"c", .simple .char⟩]) ["2", "a", "b", "7"] = .ok b ∧
      d.Blames b.bindings b.consumed ["2", "a", "b", "7"] (.tooFewTokens "ys" 2 1) := by
  have hbind : bind [⟨"n", .simple .int⟩, ⟨"xs", .array "n" none⟩,
      ⟨"ys", .array "n" (some .int)⟩, ⟨"c", .simple .char⟩] ["2", "a", "b", "7"]
    = .error (.fault (.tooFewTokens "ys" 2 1)) := by cbv
  obtain ⟨⟨k, hk, -⟩, hblames⟩ := bind_blames_one_definition _ _ _ hbind
  obtain ⟨-, d, b, -, hb, hd⟩ := hblames k hk
  exact ⟨hbind, k, d, b, hb, hd⟩

end Template

end LineCommands
