/-!
# Directives

A text can hold directives, which stand for values and say how they are written. A directive begins
with a percent sign. Then come, each of them only if wanted: a key in parentheses, by which its
value is found; flags; a width; a point and a precision; and a letter for the size of the value,
which has no meaning. The letter for the kind of the value ends the directive. In place of a width or a
precision an asterisk takes them from the values. Two percent signs stand for one.
-/

namespace LineCommands

/-- A width or a precision. -/
inductive Extent where
  /-- The number with these digits; no digits stand for zero. -/
  | digits (ds : List Char)
  /-- It is the next value. -/
  | next

/-- A directive. -/
structure Directive where
  key : Option (List Char)
  flags : List Char
  width : Option Extent
  precision : Option Extent
  /-- The letter at the end, if the text does not end before it. -/
  letter : Option Char

namespace Directive

/-- The characters that are flags. -/
def isFlag (c : Char) : Bool := ['-', '+', ' ', '#', '0'].contains c

/-- The letters for the size of a value. -/
def isSize (c : Char) : Bool := ['h', 'l', 'L'].contains c

/-- A key up to the parenthesis that closes it, in which `depth` others are open, and what follows.
-/
def key? (depth : Nat) : List Char → Option (List Char × List Char)
  | [] => none
  | c :: cs =>
    if c = ')' then
      match depth with
      | 0 => some ([], cs)
      | depth + 1 => (key? depth cs).map fun p ↦ (c :: p.1, p.2)
    else (key? (if c = '(' then depth + 1 else depth) cs).map fun p ↦ (c :: p.1, p.2)

theorem length_lt_of_key? {depth : Nat} {cs : List Char} {p : List Char × List Char}
    (h : key? depth cs = some p) : p.2.length < cs.length := by
  induction cs generalizing depth p with
  | nil => simp [key?] at h
  | cons c cs ih =>
    simp only [key?] at h
    split at h
    · split at h
      · simp only [Option.some.injEq] at h
        simp [← h]
      · obtain ⟨q, hq, rfl⟩ := Option.map_eq_some_iff.1 h
        have hlt := ih hq
        exact Nat.lt_succ_of_lt hlt
    · obtain ⟨q, hq, rfl⟩ := Option.map_eq_some_iff.1 h
      have hlt := ih hq
      exact Nat.lt_succ_of_lt hlt

/-- A width or precision at the front, and what follows. -/
def extent (cs : List Char) : Extent × List Char :=
  match cs with
  | '*' :: rest => (.next, rest)
  | cs => (.digits (cs.takeWhile Char.isDigit), cs.dropWhile Char.isDigit)

theorem length_extent_le (cs : List Char) : (extent cs).2.length ≤ cs.length := by
  unfold extent
  split
  · exact Nat.le_succ _
  · exact (List.dropWhile_sublist _).length_le

/-- A width at the front, if there is one, and what follows. -/
def width? (cs : List Char) : Option Extent × List Char :=
  match extent cs with
  | (.digits [], rest) => (none, rest)
  | (e, rest) => (some e, rest)

theorem length_width?_le (cs : List Char) : (width? cs).2.length ≤ cs.length := by
  have h := length_extent_le cs
  unfold width?
  split
  · next he => rwa [he] at h
  · next he => rwa [he] at h

/-- A precision at the front, if there is one, and what follows. -/
def precision? (cs : List Char) : Option Extent × List Char :=
  match cs with
  | '.' :: rest => (some (extent rest).1, (extent rest).2)
  | cs => (none, cs)

theorem length_precision?_le (cs : List Char) : (precision? cs).2.length ≤ cs.length := by
  unfold precision?
  split
  · exact Nat.le_succ_of_le (length_extent_le _)
  · exact Nat.le_refl _

/-- A directive without a key whose percent sign has been passed, and what follows it. -/
def ofText (key : Option (List Char)) (cs : List Char) : Directive × List Char :=
  let (width, afterWidth) := width? (cs.dropWhile isFlag)
  let (precision, afterPrecision) := precision? afterWidth
  let last := match afterPrecision with
    | c :: rest => if isSize c then rest else c :: rest
    | [] => []
  ({ key, flags := cs.takeWhile isFlag, width, precision, letter := last.head? }, last.drop 1)

theorem length_ofText_le (key : Option (List Char)) (cs : List Char) :
    (ofText key cs).2.length ≤ cs.length := by
  have h₁ : (cs.dropWhile isFlag).length ≤ cs.length := (List.dropWhile_sublist _).length_le
  have h₂ := length_width?_le (cs.dropWhile isFlag)
  have h₃ := length_precision?_le (width? (cs.dropWhile isFlag)).2
  simp only [ofText]
  split
  · next c rest h =>
    rw [h, List.length_cons] at h₃
    split
    · rw [List.length_drop]; omega
    · rw [List.length_drop, List.length_cons]; omega
  · simp

end Directive

/-! ## Pieces -/

/-- A piece of a text with directives. -/
inductive DirectivePiece where
  | char (c : Char)
  /-- A directive, and the number of characters after it. -/
  | directive (d : Directive) (left : Nat)
  /-- A key that is not closed, after which there are no more pieces. -/
  | unclosedKey

/-- The pieces of a text. -/
def directivePieces (cs : List Char) : List DirectivePiece :=
  match cs with
  | [] => []
  | c :: rest =>
    if c ≠ '%' then .char c :: directivePieces rest
    else
      match rest with
      | '%' :: rest => .char '%' :: directivePieces rest
      | '(' :: afterParenthesis =>
        match _h : Directive.key? 0 afterParenthesis with
        | none => [.unclosedKey]
        | some (key, afterKey) =>
          let p := Directive.ofText (some key) afterKey
          .directive p.1 p.2.length :: directivePieces p.2
      | rest =>
        let p := Directive.ofText none rest
        .directive p.1 p.2.length :: directivePieces p.2
termination_by cs.length
decreasing_by
  · exact Nat.lt_succ_self _
  · exact Nat.lt_succ_of_lt (Nat.lt_succ_self _)
  · have h₁ : afterKey.length < afterParenthesis.length := Directive.length_lt_of_key? _h
    have h₂ := Directive.length_ofText_le (some key) afterKey
    simp only [List.length_cons]
    omega
  · have h := Directive.length_ofText_le none rest
    simp only [List.length_cons]
    omega

end LineCommands
