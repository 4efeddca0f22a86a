import LineCommands.CommandLine.Usage

/-!
# Reading arguments

What a command line means is read off it from the left. `Reads` says that arguments have these
meanings, with these others left, and how one more option in front adds its own; the number of
arguments, which bounds the reading, is nowhere looked at again.
-/

namespace LineCommands.CommandLine

variable {α : Type} {specs : OptionSpecs α} {mixed : Bool}

/-- The arguments are read as options with these meanings, and other arguments. -/
def Reads (specs : OptionSpecs α) (mixed : Bool) (args : List String) (meanings : List α)
    (others : List String) : Prop :=
  ∀ fuel, args.length ≤ fuel → readArguments specs mixed fuel args = some (meanings, others)

theorem Reads.parseArguments {args : List String} {meanings : List α} {others : List String}
    (h : Reads specs mixed args meanings others) :
    CommandLine.parseArguments specs mixed args = some (meanings, others) :=
  h _ (Nat.le_refl _)

namespace Reads

theorem nil (specs : OptionSpecs α) (mixed : Bool) : Reads specs mixed [] [] [] := by
  intro fuel _
  cases fuel with
  | zero => rfl
  | succ fuel => rfl

/-- Two hyphens end the options. -/
theorem ends (specs : OptionSpecs α) (mixed : Bool) (others : List String) :
    Reads specs mixed ("--" :: others) [] others := by
  intro fuel hfuel
  cases fuel with
  | zero => cases hfuel
  | succ fuel => rfl

/-- Where nothing is mixed, the first argument without a hyphen ends the options. -/
theorem operand (specs : OptionSpecs α) {name : String} (hname : name.toList.head? ≠ some '-')
    (others : List String) : Reads specs false (name :: others) [] (name :: others) := by
  intro fuel hfuel
  cases fuel with
  | zero => cases hfuel
  | succ fuel =>
    rw [readArguments]
    split
    · next heq => exact absurd (by rw [heq]; rfl) hname
    · next heq => exact absurd (by rw [heq]; rfl) hname
    · next heq => exact absurd (by rw [heq]; rfl) hname
    · rfl

theorem long {cs : List Char} {c : Char} {next left others : List String} {these those : List α}
    (hread : readLong specs next (c :: cs) = some (these, left)) (hleft : left.length ≤ next.length)
    (h : Reads specs mixed left those others) {arg : String} (harg : arg.toList = '-' :: '-' :: c :: cs) :
    Reads specs mixed (arg :: next) (these ++ those) others := by
  intro fuel hfuel
  cases fuel with
  | zero => cases hfuel
  | succ fuel =>
    have hfuel' : left.length ≤ fuel := Nat.le_trans hleft (Nat.le_of_succ_le_succ hfuel)
    rw [readArguments, harg]
    simp only [hread, h fuel hfuel', Option.map_some]

theorem letters {cs : List Char} {c : Char} {next left others : List String}
    {these those : List α} (hread : readLetters specs next (c :: cs) = some (these, left))
    (hleft : left.length ≤ next.length) (h : Reads specs mixed left those others) {arg : String}
    (harg : arg.toList = '-' :: c :: cs) (hc : c ≠ '-') :
    Reads specs mixed (arg :: next) (these ++ those) others := by
  intro fuel hfuel
  cases fuel with
  | zero => cases hfuel
  | succ fuel =>
    have hfuel' : left.length ≤ fuel := Nat.le_trans hleft (Nat.le_of_succ_le_succ hfuel)
    rw [readArguments, harg]
    split
    · next heq => exact absurd (List.cons.inj (List.cons.inj heq).2).1 hc
    · next heq => exact absurd (List.cons.inj (List.cons.inj heq).2).1 hc
    · next heq =>
      obtain ⟨-, heq⟩ := List.cons.inj heq
      rw [← heq]
      simp only [hread, h fuel hfuel', Option.map_some]
    · next hother => exact absurd rfl (hother c cs)

end Reads

/-! ## The options of the program -/

section Root

variable {next others : List String} {meanings : List RootOption}

theorem Reads.json (h : Reads rootOptions false next meanings others) :
    Reads rootOptions false ("--json" :: next) (.json :: meanings) others := by
  have hread : readLong rootOptions next ['j', 's', 'o', 'n'] = some ([.json], next) := rfl
  exact Reads.long hread (Nat.le_refl _) h rfl

theorem Reads.quiet (h : Reads rootOptions false next meanings others) :
    Reads rootOptions false ("-q" :: next) (.quiet :: meanings) others := by
  have hread : readLetters rootOptions next ['q'] = some ([.quiet], next) := rfl
  exact Reads.letters hread (Nat.le_refl _) h rfl (by decide)

theorem Reads.verbose (h : Reads rootOptions false next meanings others) :
    Reads rootOptions false ("-v" :: next) (.verbose :: meanings) others := by
  have hread : readLetters rootOptions next ['v'] = some ([.verbose], next) := rfl
  exact Reads.letters hread (Nat.le_refl _) h rfl (by decide)

theorem Reads.logJson (h : Reads rootOptions false next meanings others) :
    Reads rootOptions false ("--log-json" :: next) (.logJson :: meanings) others := by
  have hread : readLong rootOptions next ['l', 'o', 'g', '-', 'j', 's', 'o', 'n']
    = some ([.logJson], next) := rfl
  exact Reads.long hread (Nat.le_refl _) h rfl

theorem Reads.config (h : Reads rootOptions false next meanings others) (name : String) :
    Reads rootOptions false ("-c" :: name :: next) (.config name :: meanings) others := by
  have hread : readLetters rootOptions (name :: next) ['c'] = some ([.config name], next) := rfl
  exact Reads.letters hread (Nat.le_succ _) h rfl (by decide)

end Root

theorem Reads.stopOnError {next others : List String} {meanings : List CommandOption}
    (h : Reads Subcommand.shell.options mixed next meanings others) :
    Reads Subcommand.shell.options mixed ("--stop-on-error" :: next) (.stopOnError :: meanings)
      others := by
  have hread : readLong Subcommand.shell.options next
      ['s', 't', 'o', 'p', '-', 'o', 'n', '-', 'e', 'r', 'r', 'o', 'r']
    = some ([.stopOnError], next) := rfl
  exact Reads.long hread (Nat.le_refl _) h rfl

end LineCommands.CommandLine
