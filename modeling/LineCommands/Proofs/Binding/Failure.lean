import LineCommands.Binding
import LineCommands.Proofs.Conversion.Failure
import LineCommands.Proofs.Expression.Lookup
import LineCommands.Proofs.Outcome

/-!
# What stops a binding

A binding stops at the first definition that cannot take its block, with the failure of that
definition; those before it bind, and those behind it are not looked at. `bind_eq_error_iff` says so
of the whole walk, and `Definition.take_eq_error_iff` says what a single definition refuses its
tokens for. Together they tell every failed binding.
-/

namespace LineCommands

/-! ## One definition -/

theorem convertAll_eq_error_iff {type : Primitive} {argument : String} {block : List String}
    {e : Failure} :
    convertAll type argument block = .error e ↔
      ∃ before token after, block = before ++ token :: after ∧
        (∀ t ∈ before, ∃ v, convert t type argument = .ok v) ∧
        convert token type argument = .error e := by
  -- A token that is converted joins those before the one that is not.
  induction block with
  | nil => simp [convertAll]
  | cons token block ih =>
    rw [convertAll]
    constructor
    · intro h
      obtain htoken | ⟨v, hv, h⟩ := bind_eq_error.mp h
      · exact ⟨[], token, block, rfl, fun t ht ↦ absurd ht List.not_mem_nil, htoken⟩
      · obtain hrest | ⟨vs, -, h⟩ := bind_eq_error.mp h
        · obtain ⟨before, t, after, rfl, hbefore, ht⟩ := ih.mp hrest
          exact ⟨token :: before, t, after, rfl, List.forall_mem_cons.mpr ⟨⟨v, hv⟩, hbefore⟩, ht⟩
        · cases h
    · rintro ⟨before, t, after, hblock, hbefore, ht⟩
      refine bind_eq_error.mpr ?_
      cases before with
      | nil =>
        obtain ⟨rfl, -⟩ := List.cons.inj hblock
        exact Or.inl ht
      | cons token' before =>
        obtain ⟨rfl, htail⟩ := List.cons.inj hblock
        obtain ⟨⟨v, hv⟩, hbefore⟩ := List.forall_mem_cons.mp hbefore
        have hrest := ih.mpr ⟨before, t, after, htail, hbefore, ht⟩
        exact Or.inr ⟨v, hv, bind_eq_error.mpr (Or.inl hrest)⟩

namespace Definition

/-- The type that each token of a block is converted to, if it is converted at all. -/
def tokenType? (d : Definition) : Option Primitive :=
  match d.kind with
  | .simple type => some type
  | .array _ element => element

/-- How many tokens a definition asks for. -/
def blockSize (d : Definition) (bound : Bindings) : Except Fault Nat :=
  match d.kind with
  | .simple _ => .ok 1
  | .array size _ => Size.evaluate size bound d.name

/-- What a definition refuses the tokens that are left for. -/
inductive Refuses (d : Definition) (bound : Bindings) (consumed : Nat) (tokens : List String) :
    Failure → Prop
  /-- There is no token. -/
  | missing {type : Primitive} (hkind : d.kind = .simple type) (htokens : tokens = []) :
      Refuses d bound consumed tokens (.fault (.missingArgument d.name consumed))
  /-- The size of the block has no value. -/
  | size {f : Fault} (hsize : d.blockSize bound = .error f) :
      Refuses d bound consumed tokens (.fault f)
  /-- The tokens are fewer than the size. -/
  | tooFew {size : String} {element : Option Primitive} {n : Nat}
      (hkind : d.kind = .array size element) (hsize : d.blockSize bound = .ok n)
      (hn : tokens.length < n) :
      Refuses d bound consumed tokens (.fault (.tooFewTokens d.name n tokens.length))
  /-- The first token of the block that cannot be converted. -/
  | token {n : Nat} {before after : List String} {token : String} {type : Primitive} {e : Failure}
      (hsize : d.blockSize bound = .ok n) (hn : n ≤ tokens.length)
      (htype : d.tokenType? = some type) (hblock : tokens.take n = before ++ token :: after)
      (hbefore : ∀ t ∈ before, ∃ v, convert t type d.name = .ok v)
      (htoken : convert token type d.name = .error e) :
      Refuses d bound consumed tokens e

variable {d : Definition} {bound : Bindings} {consumed : Nat} {tokens : List String} {e : Failure}

theorem refuses_of_take (h : d.take bound consumed tokens = .error e) :
    d.Refuses bound consumed tokens e := by
  obtain ⟨name, kind⟩ := d
  cases kind with
  | simple type =>
    cases tokens with
    | nil =>
      obtain rfl := Except.error.inj h
      exact .missing rfl rfl
    | cons token rest =>
      simp only [take] at h
      cases hv : convert token type name with
      | ok v => rw [hv] at h; cases h
      | error e' =>
        rw [hv] at h
        obtain rfl := Except.error.inj h
        have hblock : (token :: rest).take 1 = [] ++ token :: [] := rfl
        exact .token rfl (by simp) rfl hblock (by simp) hv
  | array size element =>
    simp only [take] at h
    cases hsize : Size.evaluate size bound name with
    | error f =>
      rw [hsize] at h
      obtain rfl := Except.error.inj h
      exact .size hsize
    | ok n =>
      simp only [hsize] at h
      by_cases hn : tokens.length < n
      · rw [if_pos hn] at h
        obtain rfl := Except.error.inj h
        exact .tooFew rfl hsize hn
      · rw [if_neg hn] at h
        cases hvs : arrayElements element name (tokens.take n) with
        | ok vs => rw [hvs] at h; cases h
        | error e' =>
          rw [hvs] at h
          obtain rfl := Except.error.inj h
          cases element with
          | none => cases hvs
          | some type =>
            obtain ⟨before, token, after, hblock, hbefore, htoken⟩ := convertAll_eq_error_iff.mp hvs
            exact .token hsize (Nat.not_lt.mp hn) rfl hblock hbefore htoken

theorem take_of_refuses (h : d.Refuses bound consumed tokens e) :
    d.take bound consumed tokens = .error e := by
  obtain ⟨name, kind⟩ := d
  cases h with
  | missing hkind htokens =>
    obtain rfl : kind = _ := hkind
    rw [htokens]
    rfl
  | size hsize =>
    cases kind with
    | simple type => cases hsize
    | array size element =>
      have heval : Size.evaluate size bound name = .error _ := hsize
      simp only [take, heval]
  | tooFew hkind hsize hn =>
    obtain rfl : kind = _ := hkind
    have heval : Size.evaluate _ bound name = .ok _ := hsize
    simp only [take, heval, if_pos hn]
  | @token n before after token type _ hsize hn htype hblock hbefore htoken =>
    cases kind with
    | simple type' =>
      -- The block is the first token, so there is nothing before the one that is refused.
      obtain rfl := Except.ok.inj hsize
      obtain rfl := Option.some.inj htype
      cases tokens with
      | nil => cases hn
      | cons t rest =>
        rw [List.take_succ_cons, List.take_zero] at hblock
        cases before with
        | nil =>
          obtain ⟨rfl, -⟩ := List.cons.inj hblock
          simp only [take, htoken]
        | cons t' before => simp at hblock
    | array size element =>
      obtain rfl : element = some type := htype
      have heval : Size.evaluate size bound name = .ok n := hsize
      have hconvert : convertAll type name (tokens.take n) = .error e :=
        convertAll_eq_error_iff.mpr ⟨before, token, after, hblock, hbefore, htoken⟩
      simp only [take, heval, if_neg (Nat.not_lt.mpr hn), arrayElements, hconvert]

/-- **Refusals.** A definition fails to take a block for what it refuses the tokens for. -/
theorem take_eq_error_iff :
    d.take bound consumed tokens = .error e ↔ d.Refuses bound consumed tokens e :=
  ⟨refuses_of_take, take_of_refuses⟩

theorem exists_size_of_blockSize {f : Fault} (h : d.blockSize bound = .error f) :
    ∃ size element, d.kind = .array size element ∧ Size.evaluate size bound d.name = .error f := by
  rw [blockSize] at h
  split at h
  · cases h
  · next size element hkind => exact ⟨size, element, hkind, h⟩

theorem Refuses.kind {f : Fault} (h : d.Refuses bound consumed tokens (.fault f)) :
    f.kind = .argumentMismatch ∨ f.kind = .typeConversionFailed ∨ f.kind = .invalidExpression := by
  cases h with
  | missing => exact Or.inl rfl
  | tooFew => exact Or.inl rfl
  | size hsize =>
    obtain ⟨size, element, -, heval⟩ := exists_size_of_blockSize hsize
    obtain ⟨cause, rfl, -⟩ | rfl | ⟨n, rfl⟩ := Size.fault_of_evaluate heval
    · exact Or.inr (Or.inr rfl)
    · exact Or.inr (Or.inr rfl)
    · exact Or.inl rfl
  | token hsize hn htype hblock hbefore htoken =>
    obtain hf | ⟨-, -, hf⟩ := convert_eq_error htoken
    · obtain rfl := Failure.fault.inj hf
      exact Or.inr (Or.inl rfl)
    · cases hf

/-- The tokens suffice for a block of floating-point numbers, and in this block `t` is a lookalike
behind tokens that are numbers. -/
def StumblesOn (d : Definition) (bound : Bindings) (tokens : List String) (t : String) : Prop :=
  ∃ n before after, d.blockSize bound = .ok n ∧ n ≤ tokens.length ∧
    d.tokenType? = some .float ∧ tokens.take n = before ++ t :: after ∧
    (∀ token ∈ before, ∃ v, convert token .float d.name = .ok v) ∧ IsLookalike t

/-- A token is unreadable where it is a lookalike and the definition wants floating-point numbers. -/
theorem refuses_unreadableFloat_iff {t : String} :
    d.Refuses bound consumed tokens (.unreadableFloat t) ↔ d.StumblesOn bound tokens t := by
  constructor
  · intro h
    cases h with
    | token hsize hn htype hblock hbefore htoken =>
      obtain ⟨rfl, hlookalike, rfl⟩ := convert_eq_unreadableFloat_iff.mp htoken
      exact ⟨_, _, _, hsize, hn, htype, hblock, hbefore, hlookalike⟩
  · rintro ⟨n, before, after, hsize, hn, htype, hblock, hbefore, hlookalike⟩
    have htoken : convert t .float d.name = .error (.unreadableFloat t) :=
      convert_eq_unreadableFloat_iff.mpr ⟨rfl, hlookalike, rfl⟩
    exact .token hsize hn htype hblock hbefore htoken

theorem Refuses.missed {size argument x : String}
    (h : d.Refuses bound consumed tokens (.fault (.sizeError size argument (.unknownVariable x)))) :
    ∃ element, d = ⟨argument, .array size element⟩ ∧
      Size.evaluate size bound argument = .error (.sizeError size argument (.unknownVariable x)) := by
  cases h with
  | size hsize =>
    obtain ⟨size', element, hkind, heval⟩ := exists_size_of_blockSize hsize
    obtain ⟨cause, hf, -⟩ | hf | ⟨n, hf⟩ := Size.fault_of_evaluate heval
    · obtain ⟨rfl, rfl, rfl⟩ := Fault.sizeError.inj hf
      exact ⟨element, by rw [← hkind], heval⟩
    · cases hf
    · cases hf
  | token hsize hn htype hblock hbefore htoken =>
    obtain hf | ⟨-, -, hf⟩ := convert_eq_error htoken
    · cases Failure.fault.inj hf
    · cases hf

end Definition

/-! ## The walk -/

namespace Template

variable {bound : Bindings} {consumed : Nat} {d : Definition} {ds : Template} {tokens : List String}
  {e : Failure}

theorem bindFrom_cons_of_error (h : d.take bound consumed tokens = .error e) :
    bindFrom bound consumed (d :: ds) tokens = .error e := by
  rw [bindFrom, h]

theorem bindFrom_cons_of_ok {v : Value} {n : Nat} (h : d.take bound consumed tokens = .ok (v, n)) :
    bindFrom bound consumed (d :: ds) tokens
      = bindFrom (bound.set d.name v) (consumed + n) ds (tokens.drop n) := by
  rw [bindFrom, h]

theorem bindFrom_append (before after : Template) :
    bindFrom bound consumed (before ++ after) tokens
      = (bindFrom bound consumed before tokens).bind fun b ↦
          bindFrom b.bindings b.consumed after b.trailing := by
  induction before generalizing bound consumed tokens with
  | nil => rfl
  | cons d before ih =>
    rw [List.cons_append]
    cases htake : d.take bound consumed tokens with
    | error e' =>
      rw [bindFrom_cons_of_error htake, bindFrom_cons_of_error htake]
      rfl
    | ok vn =>
      obtain ⟨v, n⟩ := vn
      rw [bindFrom_cons_of_ok htake, bindFrom_cons_of_ok htake, ih]

/-- **The first refusal.** The walk stops where a definition refuses behind definitions that bind. -/
theorem bindFrom_eq_error_iff :
    bindFrom bound consumed ds tokens = .error e ↔
      ∃ (before : Template) (d : Definition) (after : Template) (b : Bound),
        ds = before ++ d :: after ∧ bindFrom bound consumed before tokens = .ok b ∧
        d.take b.bindings b.consumed b.trailing = .error e := by
  induction ds generalizing bound consumed tokens with
  | nil => simp [bindFrom]
  | cons d ds ih =>
    cases htake : d.take bound consumed tokens with
    | error e' =>
      rw [bindFrom_cons_of_error htake]
      -- The walk has stopped, so no definition behind this one can be the one that refused.
      constructor
      · intro h
        obtain rfl := Except.error.inj h
        exact ⟨[], d, ds, _, rfl, rfl, htake⟩
      · rintro ⟨before, d', after, b, hds, hbefore, hd'⟩
        cases before with
        | nil =>
          obtain ⟨rfl, rfl⟩ := List.cons.inj hds
          obtain rfl := Except.ok.inj hbefore
          obtain rfl := Except.error.inj (htake.symm.trans hd')
          rfl
        | cons d'' before =>
          obtain ⟨rfl, -⟩ := List.cons.inj hds
          rw [bindFrom_cons_of_error htake] at hbefore
          cases hbefore
    | ok vn =>
      obtain ⟨v, n⟩ := vn
      rw [bindFrom_cons_of_ok htake, ih]
      constructor
      · rintro ⟨before, d', after, b, rfl, hbefore, hd'⟩
        exact ⟨d :: before, d', after, b, rfl, (bindFrom_cons_of_ok htake).trans hbefore, hd'⟩
      · rintro ⟨before, d', after, b, hds, hbefore, hd'⟩
        cases before with
        | nil =>
          obtain ⟨rfl, rfl⟩ := List.cons.inj hds
          obtain rfl := Except.ok.inj hbefore
          rw [htake] at hd'
          cases hd'
        | cons d'' before =>
          obtain ⟨rfl, rfl⟩ := List.cons.inj hds
          rw [bindFrom_cons_of_ok htake] at hbefore
          exact ⟨before, d', after, b, rfl, hbefore, hd'⟩

theorem bind_eq_error_iff :
    ds.bind tokens = .error e ↔
      ∃ (before : Template) (d : Definition) (after : Template) (b : Bound),
        ds = before ++ d :: after ∧ before.bind tokens = .ok b ∧
        d.take b.bindings b.consumed b.trailing = .error e :=
  bindFrom_eq_error_iff

theorem mem_of_mem_trailing {b : Bound} (h : bindFrom bound consumed ds tokens = .ok b)
    {token : String} (htoken : token ∈ b.trailing) : token ∈ tokens := by
  induction ds generalizing bound consumed tokens with
  | nil =>
    obtain rfl := Except.ok.inj h
    exact htoken
  | cons d ds ih =>
    cases htake : d.take bound consumed tokens with
    | error e' =>
      rw [bindFrom_cons_of_error htake] at h
      cases h
    | ok vn =>
      obtain ⟨v, n⟩ := vn
      rw [bindFrom_cons_of_ok htake] at h
      exact List.mem_of_mem_drop (ih h)

theorem kind_of_bind {f : Fault} (h : ds.bind tokens = .error (.fault f)) :
    f.kind = .argumentMismatch ∨ f.kind = .typeConversionFailed ∨ f.kind = .invalidExpression := by
  obtain ⟨before, d, after, b, -, -, htake⟩ := bind_eq_error_iff.mp h
  exact (Definition.refuses_of_take htake).kind

/-- Behind definitions that bind there is one that stumbles on the token. -/
def StumblesOn (ds : Template) (tokens : List String) (t : String) : Prop :=
  ∃ (before : Template) (d : Definition) (after : Template) (b : Bound),
    ds = before ++ d :: after ∧ before.bind tokens = .ok b ∧ d.StumblesOn b.bindings b.trailing t

/-- Binding comes to an unreadable token where it stumbles on it, and nowhere else. -/
theorem bind_eq_unreadableFloat_iff {t : String} :
    ds.bind tokens = .error (.unreadableFloat t) ↔ ds.StumblesOn tokens t := by
  simp only [bind_eq_error_iff, StumblesOn, Definition.take_eq_error_iff,
    Definition.refuses_unreadableFloat_iff]

theorem StumblesOn.mem {t : String} (h : ds.StumblesOn tokens t) :
    t ∈ tokens ∧ IsLookalike t ∧ ∃ d ∈ ds, d.tokenType? = some .float := by
  obtain ⟨before, d, after, b, rfl, hbefore, n, earlier, later, -, -, htype, hblock, -, ht⟩ := h
  have hmem : t ∈ b.trailing.take n := by rw [hblock]; simp
  exact ⟨mem_of_mem_trailing hbefore (List.mem_of_mem_take hmem), ht, d, by simp, htype⟩

end Template

end LineCommands
