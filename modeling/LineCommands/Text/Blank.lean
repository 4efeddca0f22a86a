/-!
# Blank characters, words and lines

Blank characters are the white space of Unicode together with the four separator controls U+001C to
U+001F. A text is read through them in three ways: its ends can be trimmed, it can be cut into the
maximal runs of other characters, its *words*, and it can be cut into lines. Lines end at a line
feed, a carriage return, or the two together, and at nothing else.

Everything is defined on lists of characters, which is what proofs recurse on; `trimmed` and
`wordsOf` are the same for strings.
-/

namespace LineCommands.Text

/-- The ranges of blank code points, first and last. -/
def blankRanges : List (Nat × Nat) :=
  [(9, 13), (28, 32), (0x85, 0x85), (0xA0, 0xA0), (0x1680, 0x1680), (0x2000, 0x200A),
    (0x2028, 0x2029), (0x202F, 0x202F), (0x205F, 0x205F), (0x3000, 0x3000)]

/-- The character separates words. -/
def isBlank (c : Char) : Bool := blankRanges.any fun r ↦ r.1 ≤ c.toNat && c.toNat ≤ r.2

/-! ## Trimming -/

/-- The text without the blanks at its end. -/
def trimEnd (cs : List Char) : List Char := (cs.reverse.dropWhile isBlank).reverse

/-- The text without the blanks at its two ends. -/
def trim (cs : List Char) : List Char := trimEnd (cs.dropWhile isBlank)

/-- The string without the blanks at its two ends. -/
def trimmed (s : String) : String := String.ofList (trim s.toList)

/-! ## Words -/

/-- The maximal runs of characters that are not blank, in order. -/
def words (cs : List Char) : List (List Char) :=
  match _h : cs.dropWhile isBlank with
  | [] => []
  | c :: rest => (c :: rest.takeWhile (!isBlank ·)) :: words (rest.dropWhile (!isBlank ·))
termination_by cs.length
decreasing_by
  have h₁ : (cs.dropWhile isBlank).length ≤ cs.length := (List.dropWhile_sublist _).length_le
  have h₂ : (rest.dropWhile (!isBlank ·)).length ≤ rest.length :=
    (List.dropWhile_sublist _).length_le
  simp only [_h, List.length_cons] at h₁
  omega

/-- The words of a string. -/
def wordsOf (s : String) : List String := (words s.toList).map String.ofList

/-! ## Lines -/

/-- The lines of a text, without their ends. A last line that is empty does not count. All three ends
of lines count in every text, as they do in a stream that is opened for universal newlines. -/
def lines : List Char → List (List Char)
  | [] => []
  | '\n' :: cs => [] :: lines cs
  | '\r' :: '\n' :: cs => [] :: lines cs
  | '\r' :: cs => [] :: lines cs
  | c :: cs =>
    match lines cs with
    | [] => [[c]]
    | l :: ls => (c :: l) :: ls

end LineCommands.Text
