import LineCommands.Output.Emoji
import LineCommands.Output.Style
import LineCommands.Output.Wrap

/-!
# Markup

The names in a table may hold markup. A *tag* stands in brackets and begins with a lower-case
letter, `#`, `/` or `@`; everything else in brackets is text. A tag that begins with a slash ends a style,
the one that it names or else the last one begun, and every other tag begins one. An odd number of
backslashes in front of a tag makes it text; of an even number, half are kept.

Tags are not shown. What remains of them is that the style changes at their places.
-/

namespace LineCommands.Output

/-- What stands between the brackets of a tag, and after the first equals sign if there is one. -/
structure Tag where
  name : List Char
  parameters : Option (List Char)

/-- The tag with its brackets. -/
def Tag.text (t : Tag) : String :=
  let parameters := match t.parameters with
    | some ps => '=' :: ps
    | none => []
  String.ofList ('[' :: t.name ++ parameters ++ [']'])

/-- The tag with a text between its brackets. -/
def Tag.ofBody (body : List Char) : Tag :=
  match body.dropWhile (· != '=') with
  | _ :: parameters => ⟨body.takeWhile (· != '='), some parameters⟩
  | [] => ⟨body, none⟩

/-- What is wrong with markup. -/
inductive MarkupError where
  /-- A tag names a style to end that was not begun. -/
  | unmatched (tag : String) (position : Nat)
  | nothingToClose (position : Nat)
  /-- A color has a component that is missing. -/
  | missingComponent
deriving DecidableEq, Repr

/-- How an error is told. -/
def MarkupError.message : MarkupError → String
  | unmatched tag position =>
    s!"closing tag '{tag}' at position {position} doesn't match any open tag"
  | nothingToClose position => s!"closing tag '[/]' at position {position} has nothing to close"
  | missingComponent => "invalid literal for int() with base 10: ''"

namespace Markup

/-! ## Pieces -/

/-- A piece of markup. The position of a tag is the number of characters before its bracket. -/
inductive Piece where
  | text (cs : List Char)
  | tag (position : Nat) (t : Tag)

/-- What stands before the next closing bracket, and what follows it, if no bracket opens before. -/
def body? : List Char → Option (List Char × List Char)
  | [] => none
  | c :: cs =>
    if c = ']' then some ([], cs)
    else if c = '[' then none
    else (body? cs).map fun p ↦ (c :: p.1, p.2)

theorem length_lt_of_body? {cs : List Char} {p : List Char × List Char} (h : body? cs = some p) :
    p.2.length < cs.length := by
  induction cs generalizing p with
  | nil => simp [body?] at h
  | cons c cs ih =>
    simp only [body?] at h
    split at h
    · simp only [Option.some.injEq] at h
      simp [← h]
    · split at h
      · simp at h
      · obtain ⟨q, hq, rfl⟩ := Option.map_eq_some_iff.1 h
        have hlt := ih hq
        exact Nat.lt_succ_of_lt hlt

/-- The character may begin a tag. -/
def beginsTag (c : Char) : Bool := ('a' ≤ c && c ≤ 'z') || c == '#' || c == '/' || c == '@'

/-- The body of a tag whose bracket has been passed, and what follows the tag. -/
def tagBody? (cs : List Char) : Option (List Char × List Char) :=
  match cs with
  | [] => none
  | c :: _ => if beginsTag c then body? cs else none

theorem length_lt_of_tagBody? {cs : List Char} {p : List Char × List Char}
    (h : tagBody? cs = some p) : p.2.length < cs.length := by
  unfold tagBody? at h
  split at h
  · simp at h
  · split at h
    · exact length_lt_of_body? h
    · simp at h

/-- The pieces of what follows `run`, of which no piece has been made yet; `position` counts the
characters up to here. -/
def pieces (position : Nat) (run : List Char) (cs : List Char) : List Piece :=
  match cs with
  | [] => [.text run]
  | c :: rest =>
    if c = '[' then
      match _h : tagBody? rest with
      | none => pieces (position + 1) (run ++ [c]) rest
      | some p =>
        let slashes := (run.reverse.takeWhile (· == '\\')).length
        let piece :=
          if slashes % 2 = 1 then .text ('[' :: p.1 ++ [']']) else .tag position (Tag.ofBody p.1)
        .text (run.take (run.length - slashes)) :: .text (List.replicate (slashes / 2) '\\')
          :: piece :: pieces (position + p.1.length + 2) [] p.2
    else pieces (position + 1) (run ++ [c]) rest
termination_by cs.length
decreasing_by
  · exact Nat.lt_succ_self _
  · exact Nat.lt_succ_of_lt (length_lt_of_tagBody? _h)
  · exact Nat.lt_succ_self _

/-! ## Styles -/

/-- Brackets that are no tags without the backslashes in front of them. -/
def unescape : List Char → List Char
  | '\\' :: '[' :: cs => '[' :: unescape cs
  | c :: cs => c :: unescape cs
  | [] => []

/-- The text so far, and the styles that were begun and not yet ended: where each begins, and the
normal form of its name. The last one comes first. -/
structure State where
  text : Styled
  begun : List (Nat × String)

/-- The text so far, with seams where styles begin and here, where they end. -/
def State.seam (s : State) (starts : List Nat) : Styled :=
  { s.text with seams := s.text.seams ++ starts.flatMap fun n ↦ [n, s.text.chars.length] }

/-- The normal form of the name of a style. -/
def styleName (name : List Char) : Except MarkupError String :=
  match normalStyle (String.ofList name) with
  | .ok n => .ok n
  | .error _ => .error .missingComponent

/-- Ends a style. -/
def State.close (s : State) (position : Nat) (t : Tag) (name : List Char) :
    Except MarkupError State := do
  if name.isEmpty then
    match s.begun with
    | [] => .error (.nothingToClose position)
    | (start, _) :: rest => .ok ⟨s.seam [start], rest⟩
  else
    let name ← styleName name
    match s.begun.find? (·.2 == name) with
    | none => .error (.unmatched t.text position)
    | some (start, _) => .ok ⟨s.seam [start], s.begun.eraseP (·.2 == name)⟩

/-- Goes on with a piece. -/
def State.next (s : State) : Piece → Except MarkupError State
  | .text cs =>
    .ok { s with text := { s.text with
      chars := s.text.chars ++ (withEmoji (unescape cs)).filter (!isDropped ·) } }
  | .tag position t =>
    match t.name with
    | '/' :: name => s.close position t (Text.trim name)
    | name => do
      let name ← styleName name
      .ok { s with begun := (s.text.chars.length, name) :: s.begun }

/-- Goes on with pieces to the end, where all styles end. -/
def State.finish (s : State) : List Piece → Except MarkupError Styled
  | [] => .ok (s.seam (s.begun.map (·.1)))
  | p :: ps => do (← s.next p).finish ps

/-- The text that markup stands for. -/
def render (markup : String) : Except MarkupError Styled :=
  (State.mk ⟨[], []⟩ []).finish (pieces 0 [] markup.toList)

end Markup

end LineCommands.Output
