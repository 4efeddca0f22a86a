import Mathlib
import LineCommands.Convert

/-!
# The types of converted values

Conversion keeps types: a token that is converted to a primitive type becomes a value of that type,
a whole number of 64 bits among the whole numbers and a single character among the characters.
-/

namespace LineCommands

/-- A whole number has 64 bits, and a character is one code point. -/
def Value.IsBounded : Value → Prop
  | .int n => -2 ^ 63 ≤ n ∧ n ≤ 2 ^ 63 - 1
  | .char c => (Value.char c).plain.length = 1
  | _ => True

/-- The value is one of the primitive type, by its name and within its bounds. -/
def Value.IsOf (v : Value) (type : Primitive) : Prop := v.typeName = .ok type.name ∧ v.IsBounded

theorem isOf_text (s : String) : (Value.text s).IsOf .string := ⟨rfl, trivial⟩

theorem isInt64_iff {n : Int} : isInt64 n = true ↔ -2 ^ 63 ≤ n ∧ n ≤ 2 ^ 63 - 1 := by
  rw [isInt64, Bool.and_eq_true, decide_eq_true_eq, decide_eq_true_eq, int64Bound]
  omega

theorem exists_int_of_convert {token argument : String} {v : Value}
    (h : convert token .int argument = .ok v) : ∃ n, v = .int n ∧ isInt64 n = true := by
  rw [convert] at h
  split at h
  · next n hread =>
    rw [readInt64?, Option.filter_eq_some_iff] at hread
    exact ⟨n, (Except.ok.inj h).symm, hread.2⟩
  · cases h

theorem exists_float_of_convert {token argument : String} {v : Value}
    (h : convert token .float argument = .ok v) : ∃ x, v = .float x := by
  rw [convert] at h
  simp only [convertFloat] at h
  split at h
  · cases h
  · cases h
  · exact ⟨_, (Except.ok.inj h).symm⟩
  · exact ⟨_, (Except.ok.inj h).symm⟩
  · split at h
    · exact ⟨_, (Except.ok.inj h).symm⟩
    · cases h

/-- **Types of tokens.** What a token is converted to has the type that it is converted to. -/
theorem isOf_of_convert {token argument : String} {type : Primitive} {v : Value}
    (h : convert token type argument = .ok v) : v.IsOf type := by
  cases type with
  | string =>
    obtain rfl := Except.ok.inj h
    exact isOf_text token
  | int =>
    obtain ⟨n, rfl, hn⟩ := exists_int_of_convert h
    exact ⟨rfl, isInt64_iff.mp hn⟩
  | float =>
    obtain ⟨x, rfl⟩ := exists_float_of_convert h
    exact ⟨rfl, trivial⟩
  | char =>
    rw [convert] at h
    split at h
    · obtain rfl := Except.ok.inj h
      refine ⟨rfl, ?_⟩
      simp [Value.IsBounded, Value.plain, Value.atom]
    · cases h

end LineCommands
