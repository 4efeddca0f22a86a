import LineCommands.Output.EmojiNames
import LineCommands.Text.Blank
import LineCommands.Text.LowerCase
import LineCommands.Text.Width

/-!
# Emoji by name

A name between two colons, without blanks, stands for an emoji if it is the name of one, without
regard to case. The name may go on with `-emoji` or `-text`, which asks for that form of the emoji.
A name of no emoji stands for itself, together with both of its colons: the second one does not
begin another name.
-/

namespace LineCommands.Output

/-- The elements of a list in pairs. -/
def inPairs {α : Type} : List α → List (α × α)
  | a :: b :: rest => (a, b) :: inPairs rest
  | _ => []

/-- The emoji with their names. -/
def emojiTable : List (String × String) := inPairs (Text.wordsOf emojiNames)

/-- The emoji with a name. -/
def emoji? (name : String) : Option String := (emojiTable.find? (·.1 == name)).map (·.2)

/-- The forms that can be asked for, and the character that asks for each. -/
def emojiForms : List (List Char × Char) :=
  [("-emoji".toList, Text.widener), ("-text".toList, '\ufe0e')]

/-- What stands for a name between colons. -/
def emojiText (name : List Char) : List Char :=
  let form := emojiForms.find? fun f ↦ f.1.isSuffixOf name
  let base := match form with
    | some (ending, _) => name.take (name.length - ending.length)
    | none => name
  match emoji? (Text.lower (String.ofList base)) with
  | some e => e.toList ++ (form.map (·.2)).toList
  | none => ':' :: name ++ [':']

/-- The name up to the next colon, and what follows the colon. -/
def emojiName? : List Char → Option (List Char × List Char)
  | [] => none
  | c :: cs =>
    if c = ':' then some ([], cs)
    else if Text.isBlank c then none
    else (emojiName? cs).map fun p ↦ (c :: p.1, p.2)

theorem length_lt_of_emojiName? {cs : List Char} {p : List Char × List Char}
    (h : emojiName? cs = some p) : p.2.length < cs.length := by
  induction cs generalizing p with
  | nil => simp [emojiName?] at h
  | cons c cs ih =>
    simp only [emojiName?] at h
    split at h
    · simp only [Option.some.injEq] at h
      simp [← h]
    · split at h
      · simp at h
      · obtain ⟨q, hq, rfl⟩ := Option.map_eq_some_iff.1 h
        have hlt := ih hq
        exact Nat.lt_succ_of_lt hlt

/-- A text with the emoji for their names. -/
def withEmoji (cs : List Char) : List Char :=
  match cs with
  | [] => []
  | c :: rest =>
    if c = ':' then
      match _h : emojiName? rest with
      | some p => emojiText p.1 ++ withEmoji p.2
      | none => c :: withEmoji rest
    else c :: withEmoji rest
termination_by cs.length
decreasing_by
  · exact Nat.lt_succ_of_lt (length_lt_of_emojiName? _h)
  · exact Nat.lt_succ_self _
  · exact Nat.lt_succ_self _

end LineCommands.Output
