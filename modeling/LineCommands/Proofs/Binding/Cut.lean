import Mathlib.Data.List.Forall2
import LineCommands.Binding
import LineCommands.Proofs.Fields
import LineCommands.Proofs.Succession

/-!
# Binding cuts the tokens into blocks

Binding walks along the definitions with a cursor into the tokens. What it amounts to is a *cut* of
the tokens: one block for each definition, the blocks lying one behind the other from the first
token on, each of the length that its definition asks for and each convertible. How long the block
of an array must be depends on the values of the blocks before it, so the condition on a block names
the shares before it and none after it.

The main statement is that binding succeeds exactly when there is a cut, and that its outcome is
then read off the cut.

## The invariant

After some of the definitions the walk holds the bindings of the shares made so far and the tokens
behind their blocks. A later share of a name replaces its value, for the sizes that follow too;
`Share.bindings` says so by looking at the last share of each name, and `bindings_concat` is the one
place where this is compared with the way the walk writes its bindings.
-/

namespace LineCommands

/-! ## Shares -/

/-- A definition with the block of tokens that it gets and the value that it makes of them. -/
structure Share where
  definition : Definition
  block : List String
  value : Value

namespace Share

/-- What shares bind: each name once, in the order of its first share, to the value of its last. -/
def bindings (shares : List Share) : Bindings :=
  Fields.latest (shares.map fun s ↦ (s.definition.name, s.value))

/-- The blocks of shares, one behind the other. -/
def tokens (shares : List Share) : List String := shares.flatMap (·.block)

theorem bindings_concat (shares : List Share) (s : Share) :
    bindings (shares ++ [s]) = (bindings shares).set s.definition.name s.value := by
  rw [bindings, bindings, List.map_append, List.map_singleton, Fields.latest_concat]

theorem names_bindings (shares : List Share) :
    (bindings shares).names = (shares.map (·.definition.name)).eraseDups :=
  Fields.names_latest_map _ _

theorem get?_bindings (shares : List Share) (name : String) :
    Fields.get? name (bindings shares)
      = (shares.reverse.find? (·.definition.name == name)).map (·.value) :=
  Fields.get?_latest_map _ _ _

@[simp] theorem tokens_nil : tokens [] = [] := rfl

@[simp] theorem tokens_cons (s : Share) (shares : List Share) :
    tokens (s :: shares) = s.block ++ tokens shares := List.flatMap_cons

end Share

/-! ## Blocks -/

namespace Definition

/-- The block is one that the definition can take after the bindings `before`, and `v` is the value
made of it: one token, converted, for a simple definition; for an array as many tokens as its size
says, each converted, or kept as they are when there is no element type. -/
def Fits (d : Definition) (before : Bindings) (block : List String) (v : Value) : Prop :=
  match d.kind with
  | .simple type => ∃ token, block = [token] ∧ convert token type d.name = .ok v
  | .array size none =>
    Size.evaluate size before d.name = .ok block.length ∧ v = .list (block.map .text)
  | .array size (some type) =>
    Size.evaluate size before d.name = .ok block.length ∧
      ∃ vs, v = .list vs ∧ List.Forall₂ (fun token w ↦ convert token type d.name = .ok w) block vs

end Definition

theorem convertAll_eq_ok_iff {type : Primitive} {argument : String} {block : List String}
    {vs : List Value} :
    convertAll type argument block = .ok vs ↔
      List.Forall₂ (fun token v ↦ convert token type argument = .ok v) block vs := by
  induction block generalizing vs with
  | nil =>
    rw [convertAll, List.forall₂_nil_left_iff, Except.ok.injEq]
    exact eq_comm
  | cons token block ih =>
    rw [convertAll, List.forall₂_cons_left_iff]
    constructor
    · intro h
      cases hv : convert token type argument with
      | error e => rw [hv] at h; cases h
      | ok v =>
        cases hvs : convertAll type argument block with
        | error e => rw [hv, hvs] at h; cases h
        | ok rest =>
          rw [hv, hvs] at h
          exact ⟨v, rest, rfl, ih.mp hvs, (Except.ok.inj h).symm⟩
    · rintro ⟨v, rest, hv, hrest, rfl⟩
      rw [hv, ih.mpr hrest]
      rfl

namespace Definition

/-- The size of an array decides how many tokens it takes, before any of them is converted. -/
theorem take_array {name size : String} {element : Option Primitive} {bound : Bindings}
    {consumed n : Nat} {tokens : List String} {v : Value} :
    (⟨name, .array size element⟩ : Definition).take bound consumed tokens = .ok (v, n) ↔
      Size.evaluate size bound name = .ok n ∧ n ≤ tokens.length ∧
        ∃ vs, v = .list vs ∧ arrayElements element name (tokens.take n) = .ok vs := by
  simp only [take]
  cases hsize : Size.evaluate size bound name with
  | error f => simp
  | ok m =>
    by_cases hm : tokens.length < m
    · simp only [if_pos hm, Except.ok.injEq, reduceCtorEq, false_iff]
      rintro ⟨rfl, hle, -⟩
      omega
    · simp only [if_neg hm, Except.ok.injEq]
      cases hvs : arrayElements element name (tokens.take m) with
      | error e =>
        simp only [reduceCtorEq, false_iff]
        rintro ⟨rfl, -, vs, -, h⟩
        rw [hvs] at h
        cases h
      | ok vs =>
        simp only [Except.ok.injEq, Prod.mk.injEq]
        constructor
        · rintro ⟨rfl, rfl⟩
          exact ⟨rfl, Nat.not_lt.mp hm, vs, rfl, hvs⟩
        · rintro ⟨rfl, -, ws, rfl, h⟩
          rw [hvs, Except.ok.injEq] at h
          exact ⟨by rw [h], rfl⟩

theorem take_simple {name : String} {type : Primitive} {bound : Bindings} {consumed n : Nat}
    {tokens : List String} {v : Value} :
    (⟨name, .simple type⟩ : Definition).take bound consumed tokens = .ok (v, n) ↔
      n = 1 ∧ ∃ token rest, tokens = token :: rest ∧ convert token type name = .ok v := by
  cases tokens with
  | nil => simp [take]
  | cons token rest =>
    simp only [take, List.cons.injEq]
    cases hv : convert token type name with
    | error e =>
      simp only [reduceCtorEq, false_iff]
      rintro ⟨-, _, _, ⟨rfl, rfl⟩, h⟩
      rw [hv] at h
      cases h
    | ok w =>
      simp only [Except.ok.injEq, Prod.mk.injEq]
      constructor
      · rintro ⟨rfl, rfl⟩
        exact ⟨rfl, token, rest, ⟨rfl, rfl⟩, hv⟩
      · rintro ⟨rfl, _, _, ⟨rfl, rfl⟩, h⟩
        rw [hv, Except.ok.injEq] at h
        exact ⟨h, rfl⟩

/-- **One definition.** It takes a block from the front of the tokens, and the block fits. -/
theorem take_eq_ok_iff {d : Definition} {bound : Bindings} {consumed n : Nat}
    {tokens : List String} {v : Value} :
    d.take bound consumed tokens = .ok (v, n) ↔
      n ≤ tokens.length ∧ d.Fits bound (tokens.take n) v := by
  obtain ⟨name, kind⟩ := d
  cases kind with
  | simple type =>
    rw [take_simple]
    constructor
    · rintro ⟨rfl, token, rest, rfl, hv⟩
      exact ⟨by simp, token, rfl, hv⟩
    · rintro ⟨hn, token, htake, hv⟩
      -- A block of one token rules out that the tokens were too few.
      have hone : n = 1 := by
        have hlen := congrArg List.length htake
        rw [List.length_take, List.length_singleton] at hlen
        omega
      subst hone
      cases tokens with
      | nil => cases htake
      | cons t rest =>
        obtain rfl : t = token := by simpa using htake
        exact ⟨rfl, t, rest, rfl, hv⟩
  | array size element =>
    rw [take_array]
    constructor
    · rintro ⟨hsize, hn, vs, rfl, hvs⟩
      have hlen : (tokens.take n).length = n := by rw [List.length_take, Nat.min_eq_left hn]
      refine ⟨hn, ?_⟩
      cases element with
      | none => exact ⟨by rw [hlen, hsize], congrArg Value.list (Except.ok.inj hvs).symm⟩
      | some type => exact ⟨by rw [hlen, hsize], vs, rfl, convertAll_eq_ok_iff.mp hvs⟩
    · rintro ⟨hn, hfits⟩
      have hlen : (tokens.take n).length = n := by rw [List.length_take, Nat.min_eq_left hn]
      cases element with
      | none =>
        obtain ⟨hsize, rfl⟩ := hfits
        exact ⟨by rw [hsize, hlen], hn, _, rfl, rfl⟩
      | some type =>
        obtain ⟨hsize, vs, rfl, hvs⟩ := hfits
        exact ⟨by rw [hsize, hlen], hn, vs, rfl, convertAll_eq_ok_iff.mpr hvs⟩

end Definition

/-! ## Cuts -/

namespace Template

/-- The shares cut the tokens from the front: one share for each definition, the blocks one behind
the other, each of them fit after the bindings of the shares before it. -/
structure IsCut (ds : Template) (tokens : List String) (shares : List Share) : Prop where
  definitions : shares.map (·.definition) = ds
  blocks : Share.tokens shares <+: tokens
  fits : EachAfter (fun before s ↦ s.definition.Fits (Share.bindings before) s.block s.value) shares

theorem exists_shares_of_bindFrom {before : List Share} {consumed : Nat} {ds : Template}
    {tokens : List String} {b : Bound}
    (h : bindFrom (Share.bindings before) consumed ds tokens = .ok b) :
    ∃ shares, shares.map (·.definition) = ds ∧ Share.tokens shares <+: tokens ∧
      EachAfter (fun made s ↦
        s.definition.Fits (Share.bindings (before ++ made)) s.block s.value) shares ∧
      b = ⟨Share.bindings (before ++ shares), consumed + (Share.tokens shares).length,
        tokens.drop (Share.tokens shares).length⟩ := by
  induction ds generalizing before consumed tokens b with
  | nil =>
    rw [bindFrom] at h
    obtain rfl := Except.ok.inj h
    exact ⟨[], rfl, List.nil_prefix, eachAfter_nil, by simp⟩
  | cons d ds ih =>
    rw [bindFrom] at h
    cases htake : d.take (Share.bindings before) consumed tokens with
    | error e => rw [htake] at h; cases h
    | ok vn =>
      obtain ⟨v, n⟩ := vn
      rw [htake] at h
      simp only at h
      obtain ⟨hn, hfits⟩ := Definition.take_eq_ok_iff.mp htake
      have hlen : (tokens.take n).length = n := by rw [List.length_take, Nat.min_eq_left hn]
      -- The share just made joins those before the rest of the walk.
      rw [← Share.bindings_concat before ⟨d, tokens.take n, v⟩] at h
      obtain ⟨shares, rfl, hblocks, heach, rfl⟩ := ih h
      refine ⟨⟨d, tokens.take n, v⟩ :: shares, rfl, ?_, ?_, ?_⟩
      · rw [Share.tokens_cons]
        nth_rewrite 2 [← List.take_append_drop n tokens]
        exact (List.prefix_append_right_inj _).mpr hblocks
      · refine eachAfter_cons.mpr ⟨by simpa using hfits, ?_⟩
        simpa only [List.append_assoc, List.singleton_append] using heach
      · rw [Share.tokens_cons, List.length_append, hlen, List.drop_drop, Nat.add_assoc,
          List.append_assoc, List.singleton_append]

theorem bindFrom_of_shares {before shares : List Share} {tokens : List String} (consumed : Nat)
    (hblocks : Share.tokens shares <+: tokens)
    (heach : EachAfter (fun made s ↦
      s.definition.Fits (Share.bindings (before ++ made)) s.block s.value) shares) :
    bindFrom (Share.bindings before) consumed (shares.map (·.definition)) tokens
      = .ok ⟨Share.bindings (before ++ shares), consumed + (Share.tokens shares).length,
        tokens.drop (Share.tokens shares).length⟩ := by
  induction shares generalizing before consumed tokens with
  | nil => simp [bindFrom]
  | cons s shares ih =>
    rw [Share.tokens_cons] at hblocks
    obtain ⟨rest, rfl⟩ := hblocks
    obtain ⟨hfits, heach⟩ := eachAfter_cons.mp heach
    have htake : s.definition.take (Share.bindings before) consumed
        (s.block ++ (Share.tokens shares ++ rest)) = .ok (s.value, s.block.length) := by
      refine Definition.take_eq_ok_iff.mpr ⟨by simp, ?_⟩
      rw [List.take_left]
      simpa using hfits
    rw [List.map_cons, bindFrom, List.append_assoc, htake]
    simp only [List.drop_left]
    rw [← Share.bindings_concat, ih (consumed + s.block.length) (List.prefix_append _ _)
      (by simpa only [List.append_assoc, List.singleton_append] using heach)]
    rw [Share.tokens_cons, List.drop_left, ← List.append_assoc s.block, List.drop_left,
      List.length_append, Nat.add_assoc, List.append_assoc, List.singleton_append]

/-- **Cuts are what binding finds.** The outcome is the one that a cut describes: the shares'
bindings, and the tokens behind the blocks. -/
theorem bind_eq_ok_iff {ds : Template} {tokens : List String} {b : Bound} :
    ds.bind tokens = .ok b ↔
      ∃ shares, ds.IsCut tokens shares ∧
        b = ⟨Share.bindings shares, (Share.tokens shares).length,
          tokens.drop (Share.tokens shares).length⟩ := by
  rw [bind]
  constructor
  · intro h
    obtain ⟨shares, hdefs, hblocks, heach, rfl⟩ := @exists_shares_of_bindFrom [] 0 ds tokens b h
    exact ⟨shares, ⟨hdefs, hblocks, heach⟩, by rw [Nat.zero_add, List.nil_append]⟩
  · rintro ⟨shares, ⟨rfl, hblocks, heach⟩, rfl⟩
    have h := @bindFrom_of_shares [] shares tokens 0 hblocks heach
    rwa [Nat.zero_add, List.nil_append] at h

/-- **Binding is cutting.** Where binding succeeds its outcome is that of a cut: the tokens consumed
are the blocks, every name has the value of its last share and the names stand in the order of their
first definitions, and there is a single warning with the number of tokens left over if there are
any. Where there is a cut, binding succeeds, with the bindings and the tokens of that cut. -/
theorem bind_succeeds_as_cut (ds : Template) (tokens : List String) :
    (∀ b, ds.bind tokens = .ok b →
      ∃ shares, ds.IsCut tokens shares ∧
        b.consumed ≤ tokens.length ∧ tokens.take b.consumed = Share.tokens shares ∧
        b.bindings = Share.bindings shares ∧
        b.bindings.names = (ds.map (·.name)).eraseDups ∧
        (∀ name, Fields.get? name b.bindings
          = (shares.reverse.find? (·.definition.name == name)).map (·.value)) ∧
        b.trailing.length = tokens.length - b.consumed ∧
        b.warnings = if b.consumed < tokens.length then
            [s!"{tokens.length - b.consumed} trailing argument(s) were ignored."]
          else []) ∧
    ∀ shares, ds.IsCut tokens shares → ∃ b, ds.bind tokens = .ok b ∧
      b.bindings = Share.bindings shares ∧ b.consumed = (Share.tokens shares).length := by
  refine ⟨fun b hb ↦ ?_, ?_⟩
  · obtain ⟨shares, hcut, rfl⟩ := bind_eq_ok_iff.mp hb
    refine ⟨shares, hcut, hcut.blocks.length_le, (List.prefix_iff_eq_take.mp hcut.blocks).symm, rfl,
      ?_, fun name ↦ Share.get?_bindings shares name, List.length_drop, ?_⟩
    · rw [Share.names_bindings, ← hcut.definitions, List.map_map]
      rfl
    · rw [Bound.warnings, List.length_drop]
      by_cases hlt : (Share.tokens shares).length < tokens.length
      · rw [if_pos hlt, if_neg (by simpa using hlt)]
      · rw [if_neg hlt, if_pos (by simpa using hlt)]
  · intro shares hcut
    exact ⟨_, bind_eq_ok_iff.mpr ⟨shares, hcut, rfl⟩, rfl, rfl⟩

end Template

end LineCommands
