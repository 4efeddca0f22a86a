import LineCommands.Proofs.Conversion.Failure
import LineCommands.Proofs.Conversion.Writing
import LineCommands.Proofs.Expression.Literal

/-!
# Tokens of whole numbers

A token is a whole number if it is a literal, a sign that may be missing and digits, whose value has
64 bits. Zeros in front make no difference to the value, but they count for the limit on digits:
more than `maxDigits` digits are refused whatever they stand for. A value is written without zeros
and is read from what is written, so the tokens of a value are one class with its shortest as the
representative.
-/

namespace LineCommands

open Text

/-- A literal that is not too long, and whose value is a signed 64-bit integer. -/
structure IntLiteral.Fits (l : IntLiteral) : Prop where
  length_le : l.digits.length ≤ maxDigits
  le_value : -2 ^ 63 ≤ l.value
  value_le : l.value ≤ 2 ^ 63 - 1

theorem readInt64?_chars (l : IntLiteral) {n : Int} :
    readInt64? l.chars = some n ↔ l.Fits ∧ n = l.value := by
  rw [readInt64?, Option.filter_eq_some_iff, l.readInt?_chars]
  constructor
  · rintro ⟨hread, hbounds⟩
    by_cases hlength : l.digits.length ≤ maxDigits
    · rw [if_pos hlength] at hread
      obtain rfl := Option.some.inj hread
      obtain ⟨hle, hge⟩ := isInt64_iff.mp hbounds
      exact ⟨⟨hlength, hle, hge⟩, rfl⟩
    · rw [if_neg hlength] at hread
      cases hread
  · rintro ⟨hfits, rfl⟩
    exact ⟨if_pos hfits.length_le, isInt64_iff.mpr ⟨hfits.le_value, hfits.value_le⟩⟩

theorem exists_chars_of_readInt64? {cs : List Char} {n : Int} (h : readInt64? cs = some n) :
    ∃ l : IntLiteral, l.chars = cs := by
  refine IntLiteral.exists_chars_eq ?_
  rw [readInt64?, Option.filter_eq_some_iff, readInt?] at h
  by_contra hnone
  rw [isIntNumeral] at hnone
  simp [hnone] at h

theorem convert_int_eq_ok_iff {token argument : String} {v : Value} :
    convert token .int argument = .ok v ↔
      ∃ l : IntLiteral, token.toList = l.chars ∧ l.Fits ∧ v = .int l.value := by
  rw [convert]
  constructor
  · intro h
    split at h
    · next n hread =>
      obtain ⟨l, hl⟩ := exists_chars_of_readInt64? hread
      rw [← hl] at hread
      obtain ⟨hfits, rfl⟩ := (readInt64?_chars l).mp hread
      exact ⟨l, hl.symm, hfits, (Except.ok.inj h).symm⟩
    · cases h
  · rintro ⟨l, htoken, hfits, rfl⟩
    rw [htoken, (readInt64?_chars l).mpr ⟨hfits, rfl⟩]

theorem convert_int_toString {n : Int} (h : isInt64 n = true) (argument : String) :
    convert (toString n) .int argument = .ok (.int n) := by
  rw [convert, readInt64?_toString h]

/-- **Whole numbers.** The tokens that are converted are the literals that fit, each to its value,
and every other token is refused. A 64-bit integer is converted from what it is written as, and so
is the value of any token that was converted. -/
theorem convert_int_accepts_literals (token argument : String) :
    (∀ v, convert token .int argument = .ok v ↔
      ∃ l : IntLiteral, token.toList = l.chars ∧ l.Fits ∧ v = .int l.value) ∧
    ((¬∃ l : IntLiteral, token.toList = l.chars ∧ l.Fits) →
      Refused (convert token .int argument) token argument) ∧
    (∀ n : Int, -2 ^ 63 ≤ n → n ≤ 2 ^ 63 - 1 →
      convert (toString n) .int argument = .ok (.int n)) ∧
    (∀ n : Int, convert token .int argument = .ok (.int n) →
      convert (toString n) .int argument = .ok (.int n)) := by
  refine ⟨fun v ↦ convert_int_eq_ok_iff, fun hnone ↦ ?_, fun n hle hge ↦ ?_, fun n h ↦ ?_⟩
  · refine refused_of_convert_ne_ok (fun htype ↦ by cases htype) fun v h ↦ ?_
    obtain ⟨l, htoken, hfits, -⟩ := convert_int_eq_ok_iff.mp h
    exact hnone ⟨l, htoken, hfits⟩
  · exact convert_int_toString (isInt64_iff.mpr ⟨hle, hge⟩) argument
  · obtain ⟨l, -, hfits, hn⟩ := convert_int_eq_ok_iff.mp h
    obtain rfl := Value.int.inj hn
    exact convert_int_toString (isInt64_iff.mpr ⟨hfits.le_value, hfits.value_le⟩) argument

/-- The length matters: 4301 zeros stand for zero, which has 64 bits, and are refused. -/
theorem not_convert_int_accepts_all_literals :
    ¬∀ (token argument : String) (v : Value), convert token .int argument = .ok v ↔
      ∃ l : IntLiteral, token.toList = l.chars ∧ -2 ^ 63 ≤ l.value ∧ l.value ≤ 2 ^ 63 - 1 ∧
        v = .int l.value := by
  have hdigits : isDigits (List.replicate 4301 '0') = true := by decide +kernel
  have hvalue : natOfDigits (List.replicate 4301 '0') = 0 := by decide +kernel
  have hunread : readInt64? (List.replicate 4301 '0') = none := by decide +kernel
  have hzero : ∃ l : IntLiteral, l.chars = List.replicate 4301 '0' ∧ l.value = 0 := by
    refine ⟨⟨none, _, hdigits⟩, rfl, ?_⟩
    rw [IntLiteral.value, IntLiteral.magnitude, hvalue]
    rfl
  obtain ⟨l, hl, hlvalue⟩ := hzero
  intro haccepts
  have hok : convert (String.ofList l.chars) .int "n" = .ok (.int 0) := by
    refine (haccepts _ "n" _).mpr ⟨l, String.toList_ofList, ?_⟩
    rw [hlvalue]
    exact ⟨by decide, by decide, rfl⟩
  rw [convert, String.toList_ofList, hl, hunread] at hok
  cases hok

end LineCommands
