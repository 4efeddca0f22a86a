import LineCommands.Text.Blank
import LineCommands.Text.Width

/-!
# Wrapping lines

A line that does not fit the width of its place is broken between words. A word keeps the blanks
after it, and the first one also those before it, but whether it still fits is decided without the
blanks at its end. What becomes of a word wider than the place depends on the place: on the page it
begins a new line and is cut into pieces that fill lines, in a table it stands on a line of its own
that ends in an ellipsis. Where a line ends in more blanks than there is room for, the blanks are
cut off.

A text changes its style at *seams*. The places where a line breaks do not depend on them, but the
finished line is measured stretch by stretch, and what combines across a seam is measured apart.
-/

namespace LineCommands.Output

/-- The width of the page, in cells. -/
def pageWidth : Nat := 120

/-- What becomes of a word that is wider than its place. -/
inductive Overflow where
  | fold | ellipsis
deriving DecidableEq, Repr

/-! ## Styled texts -/

/-- The character has no meaning in a text and is left out of it: the bell, the backspace, the
vertical tab, the form feed and the carriage return. -/
def isDropped (c : Char) : Bool := [7, 8, 11, 12, 13].contains c.toNat

/-- A text, and the numbers of characters after which its style changes. -/
structure Styled where
  chars : List Char
  seams : List Nat

namespace Styled

/-- A text of one style. -/
def plain (s : String) : Styled := ⟨s.toList.filter (!isDropped ·), []⟩

/-- Two texts of different styles, one after the other. -/
def followedBy (a b : Styled) : Styled :=
  ⟨a.chars ++ b.chars, a.seams ++ a.chars.length :: b.seams.map (a.chars.length + ·)⟩

/-- A part of a text that begins after `start` characters. -/
def part (t : Styled) (start : Nat) (chars : List Char) : Styled :=
  ⟨chars, t.seams.filterMap fun n ↦ if start ≤ n then some (n - start) else none⟩

/-- The stretches of one style, of characters that begin after `start` others. -/
def stretchesFrom (seams : List Nat) (start : Nat) : List Char → List (List Char)
  | [] => [[]]
  | c :: cs =>
    match stretchesFrom seams (start + 1) cs with
    | [] => [[c]]
    | s :: ss => if seams.contains start then [] :: (c :: s) :: ss else (c :: s) :: ss

/-- The stretches of one style. -/
def stretches (t : Styled) : List (List Char) := stretchesFrom t.seams 0 t.chars

/-- The number of cells that a text takes, measured stretch by stretch. -/
def cells (t : Styled) : Nat := t.stretches.foldl (fun n s ↦ n + Text.cells s) 0

end Styled

/-- Blanks. -/
def blanks (n : Nat) : List Char := List.replicate n ' '

/-- The stretches as far as they fit `width` cells. The one that reaches the end is cut there, or
filled up to it. -/
def cutStretches (width : Nat) : List (List Char) → List Char
  | [] => []
  | s :: ss =>
    let n := Text.cells s
    if n < width then s ++ cutStretches (width - n) ss
    else Text.crop width s

/-- The characters of a text that may take at most `width` cells. -/
def Styled.atMost (width : Nat) (t : Styled) : List Char :=
  if t.cells ≤ width then t.chars else cutStretches width t.stretches

/-- The characters of a text that must take `width` cells. -/
def Styled.exactly (width : Nat) (t : Styled) : List Char :=
  t.atMost width ++ blanks (width - t.cells)

/-! ## Words -/

/-- The words of a line with the blanks around them: blanks before the first belong to it, all
others to the word that they follow. A line of blanks has no words. -/
def chunks (cs : List Char) : List (List Char) :=
  match _h : cs.dropWhile Text.isBlank with
  | [] => []
  | c :: rest =>
    let front := cs.takeWhile Text.isBlank
    let word := rest.takeWhile (!Text.isBlank ·)
    let after := rest.dropWhile (!Text.isBlank ·)
    (front ++ c :: word ++ after.takeWhile Text.isBlank)
      :: chunks (after.dropWhile Text.isBlank)
termination_by cs.length
decreasing_by
  have h₁ : (cs.dropWhile Text.isBlank).length ≤ cs.length :=
    (List.dropWhile_sublist _).length_le
  have h₂ : (rest.dropWhile (!Text.isBlank ·)).length ≤ rest.length :=
    (List.dropWhile_sublist _).length_le
  have h₃ : ((rest.dropWhile (!Text.isBlank ·)).dropWhile Text.isBlank).length
      ≤ (rest.dropWhile (!Text.isBlank ·)).length := (List.dropWhile_sublist _).length_le
  simp only [_h, List.length_cons] at h₁
  omega

/-- Cuts clusters into pieces that fit `width`, each as long as possible; `room` is what is left for
the piece at hand. The last piece is never empty unless there are no clusters. -/
def pieces (width : Nat) (room : Nat) : List Text.Cluster → List (List Char)
  | [] => [[]]
  | k :: ks =>
    if room < k.width then
      match pieces width (width - k.width) ks with
      | p :: ps => [] :: (k.chars ++ p) :: ps
      | [] => [[], k.chars]
    else
      match pieces width (room - k.width) ks with
      | p :: ps => (k.chars ++ p) :: ps
      | [] => [k.chars]

/-- Lays words out in lines of `width` cells. `line` holds the characters of the line at hand and
`used` its cells. -/
def layOut (overflow : Overflow) (width : Nat) (line : List Char) (used : Nat) :
    List (List Char) → List (List Char)
  | [] => [line]
  | word :: rest =>
    let size := Text.cells (Text.trimEnd word)
    if used + size ≤ width then
      layOut overflow width (line ++ word) (used + Text.cells word) rest
    else
      let lines :=
        if width < size ∧ overflow = .fold then
          let ps := pieces width width (Text.clusters word)
          let last := ps.getLastD []
          ps.dropLast ++ layOut overflow width last (Text.cells last) rest
        else layOut overflow width word (Text.cells word) rest
      if line.isEmpty then lines else line :: lines

/-! ## Lines -/

/-- The distance between tab stops. -/
def tabWidth : Nat := 8

/-- The blanks that a line is short of a tab stop. -/
def toTabStop (cell : Nat) : Nat := (tabWidth - cell % tabWidth) % tabWidth

/-- A line with blanks for its tabs, of which `cell` cells are done; `run` holds the characters
since the last tab. A tab is a blank and as many more as lead to the next tab stop. -/
def expandTabs (cell : Nat) (run : List Char) : List Char → List Char
  | [] => run
  | c :: cs =>
    if c = '\t' then
      let run := run ++ [' ']
      let stop := cell + Text.cells run
      run ++ blanks (toTabStop stop) ++ expandTabs (stop + toTabStop stop) [] cs
    else expandTabs cell (run ++ [c]) cs

/-- The parts that a line is broken into. A line of blanks is not broken. -/
def breakLine (overflow : Overflow) (width : Nat) (line : List Char) : List (List Char) :=
  match chunks line with
  | [] => [line]
  | ws => layOut overflow width [] 0 ws

/-- Cuts blanks off the end of a line of more characters than the place has cells. -/
def trimExcess (width : Nat) (line : List Char) : List Char :=
  let blankCount := line.length - (Text.trimEnd line).length
  line.take (line.length - min (line.length - width) blankCount)

/-- Cuts a line that is too long for its place. -/
def shorten (overflow : Overflow) (width : Nat) (line : List Char) : List Char :=
  let line := trimExcess width line
  match overflow with
  | .fold => Text.crop width line
  | .ellipsis =>
    if Text.cells line ≤ width then line
    else Text.fitClusters (width - 1) (Text.clusters line) ++ ['…']

/-- Lists with the number of elements before each, if every one is followed by `gap` others. -/
def withStarts {α : Type} (gap start : Nat) : List (List α) → List (Nat × List α)
  | [] => []
  | l :: ls => (start, l) :: withStarts gap (start + l.length + gap) ls

/-- Wraps a text, line by line. -/
def Styled.wrap (overflow : Overflow) (width : Nat) (t : Styled) : List Styled :=
  (withStarts 1 0 (t.chars.splitOn '\n')).flatMap fun (start, line) ↦
    (withStarts 0 start (breakLine overflow width (expandTabs 0 [] line))).map fun (start, line) ↦
      t.part start (shorten overflow width line)

/-- The lines of a text on the page. -/
def onPage (t : Styled) : List String :=
  (t.wrap .fold pageWidth).map fun line ↦ String.ofList (line.atMost pageWidth)

end LineCommands.Output
