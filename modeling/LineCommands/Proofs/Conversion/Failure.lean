import LineCommands.Convert
import LineCommands.Proofs.Text.Runs

/-!
# Tokens that are not converted

A token that is no literal of its type is a fault that names the token, the type and the argument.
The one exception are the lookalikes: words for infinity with an `i` in them that is only folded to
one. They have the form of a floating-point number and no value, and they fail in their own way;
`convert_eq_unreadableFloat_iff` says that nothing else does.
-/

namespace LineCommands

/-! ## Lookalikes -/

/-- The words for infinity. -/
def infinityWords : List (List Char) :=
  [['i', 'n', 'f'], ['i', 'n', 'f', 'i', 'n', 'i', 't', 'y']]

/-- The token is a word for infinity in letters of either case, with a sign or without, and some `i`
in it is a dotted capital or a dotless small letter. -/
def IsLookalike (token : String) : Prop :=
  ∃ sign letters, token.toList = sign ++ letters ∧ sign ∈ [[], ['+'], ['-']] ∧
    letters.map foldCase ∈ infinityWords ∧ ∃ c ∈ letters, c = '\u0130' ∨ c = '\u0131'

theorem readFloatForm?_eq_lookalike_iff {cs : List Char} :
    readFloatForm? cs = some .lookalike ↔
      cs.map foldCase ∈ infinityWords ∧ ∃ c ∈ cs, c = '\u0130' ∨ c = '\u0131' := by
  have hword : cs.map foldCase ∈ infinityWords ↔
      cs.map foldCase = ['i', 'n', 'f'] ∨
        cs.map foldCase = ['i', 'n', 'f', 'i', 'n', 'i', 't', 'y'] := by
    simp [infinityWords]
  have hletter : hasLookalike cs = true ↔ ∃ c ∈ cs, c = '\u0130' ∨ c = '\u0131' := by
    simp [hasLookalike]
  rw [hword, ← hletter]
  simp only [readFloatForm?]
  by_cases hnan : cs.map foldCase = ['n', 'a', 'n']
  · rw [if_pos hnan, hnan]
    simp
  · rw [if_neg hnan]
    by_cases hinf : cs.map foldCase = ['i', 'n', 'f'] ∨
        cs.map foldCase = ['i', 'n', 'f', 'i', 'n', 'i', 't', 'y']
    · rw [if_pos hinf]
      cases hasLookalike cs <;> simp [hinf]
    · rw [if_neg hinf]
      simp [hinf]

theorem exists_sign_of_splitSign (cs : List Char) :
    ∃ sign ∈ [[], ['+'], ['-']], cs = sign ++ (Text.splitSign cs).2 := by
  rw [Text.splitSign.eq_def]
  split
  · exact ⟨['-'], by simp, rfl⟩
  · exact ⟨['+'], by simp, rfl⟩
  · exact ⟨[], by simp, rfl⟩

theorem splitSign_append {sign body : List Char} (hsign : sign ∈ [[], ['+'], ['-']])
    (hbody : Text.Ends (fun c ↦ c == '+' || c == '-') body) :
    Text.splitSign (sign ++ body) = (decide (sign = ['-']), body) := by
  simp only [List.mem_cons, List.not_mem_nil, or_false] at hsign
  rcases hsign with rfl | rfl | rfl
  · rw [List.nil_append]
    unfold Text.splitSign
    split
    · exact absurd (Text.ends_cons.mp hbody) (by decide)
    · exact absurd (Text.ends_cons.mp hbody) (by decide)
    · rfl
  · rfl
  · rfl

/-- A word for infinity begins with no sign, so a sign before it is the sign of the token. -/
theorem splitSign_of_infinityWord {sign letters : List Char} (hsign : sign ∈ [[], ['+'], ['-']])
    (hletters : letters.map foldCase ∈ infinityWords) :
    (Text.splitSign (sign ++ letters)).2 = letters := by
  refine congrArg Prod.snd (splitSign_append hsign ?_)
  cases letters with
  | nil => exact Text.ends_nil
  | cons c letters =>
    refine Text.ends_cons.mpr ?_
    rw [Bool.or_eq_false_iff, beq_eq_false_iff_ne, beq_eq_false_iff_ne]
    refine ⟨?_, ?_⟩
    · rintro rfl
      simp [infinityWords, foldCase] at hletters
    · rintro rfl
      simp [infinityWords, foldCase] at hletters

theorem isLookalike_iff {token : String} :
    IsLookalike token ↔ readFloatForm? (Text.splitSign token.toList).2 = some .lookalike := by
  rw [readFloatForm?_eq_lookalike_iff]
  constructor
  · rintro ⟨sign, letters, htoken, hsign, hletters, hletter⟩
    rw [htoken, splitSign_of_infinityWord hsign hletters]
    exact ⟨hletters, hletter⟩
  · rintro ⟨hletters, hletter⟩
    obtain ⟨sign, hsign, htoken⟩ := exists_sign_of_splitSign token.toList
    exact ⟨sign, _, htoken, hsign, hletters, hletter⟩

/-! ## What conversion fails with -/

theorem convertFloat_eq_error {token argument : String} {e : Failure}
    (h : convertFloat token argument = .error e) :
    e = .fault (.notConvertible token .float argument) ∨
      (IsLookalike token ∧ e = .unreadableFloat token) := by
  rw [isLookalike_iff]
  simp only [convertFloat] at h
  split at h
  · exact Or.inl (Except.error.inj h).symm
  · next hform => exact Or.inr ⟨hform, (Except.error.inj h).symm⟩
  · cases h
  · cases h
  · split at h
    · cases h
    · exact Or.inl (Except.error.inj h).symm

theorem convertFloat_of_isLookalike {token : String} (h : IsLookalike token) (argument : String) :
    convertFloat token argument = .error (.unreadableFloat token) := by
  rw [isLookalike_iff] at h
  simp only [convertFloat, h]

/-- A token that is not converted is told with its type and argument, unless it is a lookalike. -/
theorem convert_eq_error {token argument : String} {type : Primitive} {e : Failure}
    (h : convert token type argument = .error e) :
    e = .fault (.notConvertible token type argument) ∨
      (type = .float ∧ IsLookalike token ∧ e = .unreadableFloat token) := by
  cases type with
  | string => cases h
  | int =>
    rw [convert] at h
    split at h
    · cases h
    · exact Or.inl (Except.error.inj h).symm
  | float => exact (convertFloat_eq_error h).imp_right fun hlookalike ↦ ⟨rfl, hlookalike⟩
  | char =>
    rw [convert] at h
    split at h
    · cases h
    · exact Or.inl (Except.error.inj h).symm

/-- The outcome of a conversion is the fault of a token that is no literal of its type. It carries
the token and the name of the argument. -/
def Refused (outcome : Except Failure Value) (token argument : String) : Prop :=
  ∃ f : Fault, outcome = .error (.fault f) ∧ f.kind = .typeConversionFailed ∧
    f.context.get? "token" = some (.text token) ∧
    f.context.get? "argument" = some (.text argument)

theorem refused_of_convert_ne_ok {token argument : String} {type : Primitive}
    (hlookalike : type = .float → ¬IsLookalike token)
    (h : ∀ v, convert token type argument ≠ .ok v) :
    Refused (convert token type argument) token argument := by
  rcases houtcome : convert token type argument with e | v
  · obtain rfl | ⟨htype, hlook, -⟩ := convert_eq_error houtcome
    · exact ⟨.notConvertible token type argument, rfl, rfl, rfl, rfl⟩
    · exact absurd hlook (hlookalike htype)
  · exact absurd houtcome (h v)

/-- **Lookalikes.** They alone are unreadable, and only where a floating-point number is due. -/
theorem convert_eq_unreadableFloat_iff {token argument t : String} {type : Primitive} :
    convert token type argument = .error (.unreadableFloat t) ↔
      type = .float ∧ IsLookalike token ∧ t = token := by
  constructor
  · intro h
    obtain hfault | ⟨htype, hlookalike, ht⟩ := convert_eq_error h
    · cases hfault
    · exact ⟨htype, hlookalike, Failure.unreadableFloat.inj ht⟩
  · rintro ⟨rfl, hlookalike, rfl⟩
    exact convertFloat_of_isLookalike hlookalike argument

end LineCommands
