import LineCommands.Output.Wrap

/-!
# Tables

A table has a heading and rows of cells. A column is as wide as its widest line, two spaces stand on
either side of a column except at the edges of the table, and every line of a cell is filled up to
the width of its column, the last one too.

A table that is wider than the page takes the excess from its widest columns, all of which then are
equally wide. A cell whose text is wider than its column, or goes over several lines, takes several
lines of the table; the cells beside it are filled up with lines of blanks.
-/

namespace LineCommands.Output

/-- On which side the cells of a column are flush. -/
inductive Flush where
  | left | right
deriving DecidableEq, Repr

/-- A column of a table: its heading and its cells. -/
structure Column where
  flush : Flush
  heading : String
  cells : List Styled

/-! ## Widths -/

/-- The character ends a line. All line ends count, also those of Unicode. -/
def isLineEnd (c : Char) : Bool :=
  [10, 11, 12, 13, 28, 29, 30, 0x85, 0x2028, 0x2029].contains c.toNat

/-- The largest of some numbers, or `0`. -/
def largest (ns : List Nat) : Nat := ns.foldl max 0

/-- The width of the widest line of a text. -/
def textWidth (t : Styled) : Nat := largest ((t.chars.splitOnP isLineEnd).map Text.cells)

/-- The spaces before and after a column. -/
structure Margin where
  before : Nat
  after : Nat

/-- The width of a column with its margin, in a table of at most `limit` cells. -/
def Column.widthIn (limit : Nat) (m : Margin) (c : Column) : Nat :=
  min limit (largest ((Styled.plain c.heading :: c.cells).map textWidth) + m.before + m.after)

/-- The quotient rounded to the nearest whole number, a half to the even one. -/
def roundedQuotient (n d : Nat) : Nat :=
  let q := n / d
  if 2 * (n % d) < d ∨ (2 * (n % d) = d ∧ q % 2 = 0) then q else q + 1

/-- Takes `excess` from the columns of width `widest`, in equal parts as far as whole numbers allow
and at most `bound` from each; `count` is the number of these columns. -/
def reduceWidest (widest bound : Nat) (excess count : Nat) : List Nat → List Nat
  | [] => []
  | w :: ws =>
    if w = widest then
      let taken := min bound (roundedQuotient excess count)
      (w - taken) :: reduceWidest widest bound (excess - taken) (count - 1) ws
    else w :: reduceWidest widest bound excess count ws

/-- The sum of the widths of columns. -/
def total (ws : List Nat) : Nat := ws.foldl (· + ·) 0

/-- Reduces the widths of columns until they fit `limit`. Every step levels the widest columns with
the next, so `fuel` need not exceed the number of columns by more than one. -/
def fitWidths (limit : Nat) : (fuel : Nat) → List Nat → List Nat
  | 0, ws => ws
  | fuel + 1, ws =>
    let excess := total ws - limit
    if excess = 0 then ws
    else
      let widest := largest ws
      let next := largest (ws.filter (· ≠ widest))
      fitWidths limit fuel
        (reduceWidest widest (min excess (widest - next)) excess (ws.count widest) ws)

/-! ## Cells -/

/-- Lines of text that all take the same width. -/
structure Block where
  width : Nat
  lines : List String

namespace Block

/-- A string of blanks. -/
def blankText (n : Nat) : String := String.ofList (blanks n)

/-- The lines of a block and as many lines of blanks below as make `height` of them. -/
def padded (height : Nat) (b : Block) : List String :=
  b.lines ++ List.replicate (height - b.lines.length) (blankText b.width)

/-- Two blocks beside each other. -/
def beside (a b : Block) : Block :=
  let height := max a.lines.length b.lines.length
  ⟨a.width + b.width, List.zipWith (· ++ ·) (a.padded height) (b.padded height)⟩

end Block

/-- A line filled up to a width, on the side that it is not flush with. -/
def Styled.fill (flush : Flush) (width : Nat) (line : Styled) : Styled :=
  match flush with
  | .left => ⟨line.chars ++ blanks (width - Text.cells line.chars), line.seams⟩
  | .right =>
    let chars := Text.trimEnd line.chars
    let n := width - Text.cells chars
    ⟨blanks n ++ chars, line.seams.map (n + ·)⟩

/-- A cell of a column of `width` cells, margin included. -/
def cellBlock (flush : Flush) (m : Margin) (width : Nat) (t : Styled) : Block :=
  let inner := width - m.before - m.after
  ⟨width, (t.wrap .ellipsis inner).map fun line ↦
    Block.blankText m.before ++ String.ofList ((line.fill flush inner).exactly inner)
      ++ Block.blankText m.after⟩

/-- The heading and the cells of a column. -/
def Column.blocks (m : Margin) (width : Nat) (c : Column) : List Block :=
  (Styled.plain c.heading :: c.cells).map (cellBlock c.flush m width)

/-! ## Tables -/

/-- The margins of the columns of a table; `first` tells whether the first of them is at the edge.
-/
def margins (first : Bool) : List Column → List (Margin × Column)
  | [] => []
  | c :: cs =>
    (⟨if first then 0 else 2, if cs.isEmpty then 0 else 2⟩, c) :: margins false cs

/-- The widths of the columns of a table. -/
def columnWidths (columns : List (Margin × Column)) : List Nat :=
  let widths := columns.map fun (m, c) ↦ c.widthIn pageWidth m
  if total widths ≤ pageWidth then widths
  else
    List.zipWith (fun limit (m, c) ↦ c.widthIn limit m)
      (fitWidths pageWidth (columns.length + 1) widths) columns

/-- The rows of columns set beside each other. -/
def joinColumns : List (List Block) → List Block
  | [] => []
  | [bs] => bs
  | bs :: rest => List.zipWith Block.beside bs (joinColumns rest)

/-- The lines of a table. -/
def tableLines (columns : List Column) : List String :=
  let columns := margins true columns
  (joinColumns (List.zipWith (fun w (m, c) ↦ c.blocks m w) (columnWidths columns) columns)).flatMap
    (·.lines)

end LineCommands.Output
