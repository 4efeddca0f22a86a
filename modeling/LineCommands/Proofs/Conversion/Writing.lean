import Mathlib
import LineCommands.Proofs.Conversion.Typing
import LineCommands.Proofs.Expression.NumberText
import LineCommands.Proofs.Text.Words

/-!
# Writing values as tokens

Strings, whole numbers and characters can be written as tokens, and lists of them as tokens one
behind the other. A value that was converted from a word is written as a word, if not as the same
one: a whole number loses its leading zeros and its plus. What matters is that converting the token
gives the value again (`exists_token_of_convert`).
-/

namespace LineCommands

open Text

/-! ## Whole numbers -/

theorem isDigits_toDigits (n : Nat) : isDigits (Nat.toDigits 10 n) = true := by
  refine isDigits_iff.mpr ⟨?_, fun c hc ↦ Nat.isDigit_of_mem_toDigits (by decide) (by decide) hc⟩
  exact Nat.toDigits_ne_nil

theorem toList_toString_ofNat (n : Nat) : (toString (n : Int)).toList = Nat.toDigits 10 n := by
  have h : toString (n : Int) = toString n := rfl
  rw [h, Nat.toString_eq_ofList_toDigits, String.toList_ofList]

theorem toList_toString_negSucc (n : Nat) :
    (toString (Int.negSucc n)).toList = '-' :: Nat.toDigits 10 (n + 1) := by
  have h : toString (Int.negSucc n) = "-" ++ toString (n + 1) := rfl
  simp [h]

theorem readInt?_of_splitSign {cs : List Char} {negative : Bool} {n : Nat}
    (h : splitSign cs = (negative, Nat.toDigits 10 n)) (hn : n < 10 ^ 20) :
    readInt? cs = some (withSign negative n) := by
  -- The limit on the digits is far away from 64 bits.
  have hlength : (Nat.toDigits 10 n).length ≤ maxDigits := by
    have h20 : (Nat.toDigits 10 n).length ≤ 20 :=
      (Nat.length_toDigits_le_iff (by decide) (by decide)).mpr hn
    exact h20.trans (by decide)
  simp only [readInt?, h, isDigits_toDigits, hlength, decide_true, Bool.and_self, if_true,
    natOfDigits, Nat.ofDigitChars_ten_toDigits]

theorem readInt64?_toString {n : Int} (h : isInt64 n = true) :
    readInt64? (toString n).toList = some n := by
  have hbounds := isInt64_iff.mp h
  have hread : readInt? (toString n).toList = some n := by
    cases n with
    | ofNat n =>
      rw [Int.ofNat_eq_natCast] at hbounds ⊢
      rw [toList_toString_ofNat]
      exact readInt?_of_splitSign (splitSign_of_isDigits (isDigits_toDigits n)) (by omega)
    | negSucc n =>
      have hsign : splitSign ('-' :: Nat.toDigits 10 (n + 1)) = (true, Nat.toDigits 10 (n + 1)) :=
        rfl
      rw [toList_toString_negSucc, readInt?_of_splitSign hsign (by omega)]
      rfl
  rw [readInt64?, hread, Option.filter_some, if_pos h]

theorem isBlank_of_isDigit {c : Char} (h : c.isDigit = true) : isBlank c = false := by
  have hbounds : 48 ≤ c.toNat ∧ c.toNat ≤ 57 := Char.isDigit_iff_toNat.mp h
  simp [isBlank, blankRanges]
  omega

theorem isWord_toString (n : Int) : IsWord (toString n).toList := by
  have hdigits : ∀ m : Nat, ∀ c ∈ Nat.toDigits 10 m, isBlank c = false := fun m c hc ↦
    isBlank_of_isDigit (Nat.isDigit_of_mem_toDigits (by decide) (by decide) hc)
  cases n with
  | ofNat n =>
    rw [Int.ofNat_eq_natCast, toList_toString_ofNat]
    exact ⟨Nat.toDigits_ne_nil, hdigits n⟩
  | negSucc n =>
    rw [toList_toString_negSucc]
    exact ⟨List.cons_ne_nil _ _, List.forall_mem_cons.mpr ⟨by decide, hdigits (n + 1)⟩⟩

/-! ## Values -/

namespace Value

/-- The token for a string, a whole number or a character. -/
def token? : Value → Option String
  | text s => some s
  | int n => some (toString n)
  | char c => some (String.singleton c)
  | _ => none

/-- The tokens for a value, those for the items of a list one after the other. -/
def tokens : Value → List String
  | list vs => vs.filterMap token?
  | v => v.token?.toList

theorem tokens_of_token? {v : Value} {t : String} (h : v.token? = some t) : v.tokens = [t] := by
  cases v with
  | list vs => cases h
  | _ => simp [tokens, h]

end Value

/-- **Writing undoes conversion.** A value that was converted from a word is written as a word that
is converted to it. -/
theorem exists_token_of_convert {token argument : String} {type : Primitive} {v : Value}
    (h : convert token type argument = .ok v) (hword : IsWord token.toList) (htype : type ≠ .float) :
    ∃ t, v.token? = some t ∧ IsWord t.toList ∧ convert t type argument = .ok v := by
  cases type with
  | string =>
    obtain rfl := Except.ok.inj h
    exact ⟨token, rfl, hword, h⟩
  | int =>
    rw [convert] at h
    split at h
    · next n hread =>
      -- The token may have been longer, but the number is one of 64 bits.
      obtain rfl := Except.ok.inj h
      have hint : isInt64 n = true := by
        rw [readInt64?, Option.filter_eq_some_iff] at hread
        exact hread.2
      refine ⟨toString n, rfl, isWord_toString n, ?_⟩
      rw [convert, readInt64?_toString hint]
    · cases h
  | float => exact absurd rfl htype
  | char =>
    rw [convert] at h
    split at h
    · next c htoken =>
      obtain rfl := Except.ok.inj h
      have hc : (String.singleton c).toList = token.toList := by
        rw [htoken, String.toList_singleton]
      refine ⟨String.singleton c, rfl, hc ▸ hword, ?_⟩
      rw [convert, String.toList_singleton]
    · cases h

theorem convert_tokens_of_convert {argument : String} {type : Primitive} {block : List String}
    {vs : List Value} (h : List.Forall₂ (fun token v ↦ convert token type argument = .ok v) block vs)
    (hwords : ∀ t ∈ block, IsWord t.toList) (htype : type ≠ .float) :
    List.Forall₂ (fun token v ↦ convert token type argument = .ok v) (Value.list vs).tokens vs ∧
      ∀ t ∈ (Value.list vs).tokens, IsWord t.toList := by
  induction h with
  | nil => exact ⟨.nil, by simp [Value.tokens]⟩
  | @cons token v block vs hv _ ih =>
    obtain ⟨hword, hwords⟩ := List.forall_mem_cons.mp hwords
    obtain ⟨hrest, hrestWords⟩ := ih hwords
    obtain ⟨t, ht, htWord, hconvert⟩ := exists_token_of_convert hv hword htype
    have htokens : (Value.list (v :: vs)).tokens = t :: (Value.list vs).tokens :=
      List.filterMap_cons_some ht
    rw [htokens]
    exact ⟨.cons hconvert hrest, List.forall_mem_cons.mpr ⟨htWord, hrestWords⟩⟩

theorem tokens_list_text (block : List String) : (Value.list (block.map .text)).tokens = block := by
  have htoken : ∀ t : String, (Value.token? ∘ Value.text) t = some t := fun t ↦ rfl
  rw [Value.tokens, List.filterMap_map, funext htoken, List.filterMap_some]

end LineCommands
