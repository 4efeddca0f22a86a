import LineCommands.Toml.Document
import LineCommands.Toml.Moment
import LineCommands.Toml.Text

/-!
# Reading TOML

A text is read line by line into statements, and these build the document. All line ends count as
line feeds. Values are strings, whole numbers, floating-point numbers, truth values, dates, times,
arrays and inline tables. A date or a time is read as the absent value, which no setting can be.

A text that is not in order has no document, and nothing is told about why, with one exception: a
decimal whole number can have too many digits. What is wrong first, from the front, counts.
-/

namespace LineCommands.Toml

/-- Why a text has no document. -/
inductive ReadError where
  | malformed
  /-- A whole number has this number of digits, which are too many. -/
  | numberTooLong (digits : Nat)
deriving DecidableEq, Repr

/-- What is told about a whole number that has too many digits to be read. -/
def numberTooLongMessage (digits : Nat) : String :=
  s!"Exceeds the limit ({Text.maxDigits} digits) for integer string conversion: value has "
    ++ s!"{digits} digits; use sys.set_int_max_str_digits() to increase the limit"

/-- The outcome of a reader that may find nothing. -/
def orMalformed {α : Type} (o : Option α) : Except ReadError α :=
  match o with
  | some a => .ok a
  | none => .error .malformed

/-! ## Numbers and words -/

/-- Continues digits that single underscores may separate. -/
def moreDigits (isDigit : Char → Bool) : List Char → List Char
  | '_' :: c :: rest => if isDigit c then '_' :: c :: moreDigits isDigit rest else []
  | c :: rest => if isDigit c then c :: moreDigits isDigit rest else []
  | [] => []

/-- The digits at the front, with single underscores between them. -/
def digitGroup (isDigit : Char → Bool) : List Char → List Char
  | c :: rest => if isDigit c then c :: moreDigits isDigit rest else []
  | [] => []

/-- The number that digits in a base stand for. -/
def natInBase (base : Nat) (ds : List Char) : Nat :=
  (ds.filterMap Json.hexValue?).foldl (fun n d ↦ base * n + d) 0

/-- A whole number with the mark of another base, and its length. -/
def readBased? : List Char → Option (Value × Nat)
  | '0' :: 'x' :: rest => based 16 (fun c ↦ (Json.hexValue? c).isSome) rest
  | '0' :: 'o' :: rest => based 8 (fun c ↦ '0' ≤ c && c ≤ '7') rest
  | '0' :: 'b' :: rest => based 2 (fun c ↦ c == '0' || c == '1') rest
  | _ => none
where
  /-- The digits after the mark. -/
  based (base : Nat) (isDigit : Char → Bool) (rest : List Char) : Option (Value × Nat) :=
    let ds := digitGroup isDigit rest
    if ds.isEmpty then none else some (.int (natInBase base ds), ds.length + 2)

/-- A decimal number, and its length. -/
def readDecimal (cs : List Char) : Except ReadError (Value × Nat) :=
  let signPart := (cs.take 1).filter fun s ↦ s == '+' || s == '-'
  let cs := cs.drop signPart.length
  let whole := match cs with
    | '0' :: _ => ['0']
    | cs => digitGroup Char.isDigit cs
  let cs := cs.drop whole.length
  let fraction := match cs with
    | '.' :: rest =>
      let ds := digitGroup Char.isDigit rest
      if ds.isEmpty then [] else '.' :: ds
    | _ => []
  let cs := cs.drop fraction.length
  let exponent := match cs with
    | e :: rest =>
      let expSign := (rest.take 1).filter fun s ↦ s == '+' || s == '-'
      let ds := digitGroup Char.isDigit (rest.drop expSign.length)
      if (e == 'e' || e == 'E') && !ds.isEmpty then e :: expSign ++ ds else []
    | [] => []
  let digits := (whole.filter Char.isDigit).length
  if whole.isEmpty then .error .malformed
  else if fraction.isEmpty && exponent.isEmpty && Text.maxDigits < digits then
    .error (.numberTooLong digits)
  else
    let text := signPart ++ whole ++ fraction ++ exponent
    orMalformed ((Json.numberValue? (text.filter (· != '_'))).map (·, text.length))

/-- The words that are values. -/
def constants : List (List Char × Value) :=
  [("true".toList, .bool true), ("false".toList, .bool false),
    ("inf".toList, .float (Binary64.ofRatio false Binary64.overflowBound 1)),
    ("+inf".toList, .float (Binary64.ofRatio false Binary64.overflowBound 1)),
    ("-inf".toList, .float (Binary64.ofRatio true Binary64.overflowBound 1)),
    ("nan".toList, .float Binary64.notANumber), ("+nan".toList, .float Binary64.notANumber),
    ("-nan".toList, .float Binary64.notANumber)]

/-- A date or time, and its length. -/
def readMoment? (cs : List Char) : Option (Value × Nat) := (momentLength? cs).map (.absent, ·)

/-- A word, a date or time, or a number, and its length. -/
def readScalar (cs : List Char) : Except ReadError (Value × Nat) :=
  match constants.find? fun p ↦ p.1.isPrefixOf cs with
  | some (word, v) => .ok (v, word.length)
  | none =>
    match (readMoment? cs).or (readBased? cs) with
    | some p => .ok p
    | none => readDecimal cs

/-! ## What does not count -/

/-- The text without the gaps, line feeds and comments at its front. A comment has no control
characters. -/
def skipVoid? (inComment : Bool) : List Char → Option (List Char)
  | [] => some []
  | c :: cs =>
    if c = '\n' then skipVoid? false cs
    else if inComment then if isControl c then none else skipVoid? true cs
    else if isGap c then skipVoid? false cs
    else if c = '#' then skipVoid? true cs
    else some (c :: cs)

theorem length_le_of_skipVoid? {b : Bool} {cs rest : List Char} (h : skipVoid? b cs = some rest) :
    rest.length ≤ cs.length := by
  induction cs generalizing b with
  | nil => simp [skipVoid?] at h; simp [h]
  | cons c cs ih =>
    simp only [skipVoid?] at h
    simp only [List.length_cons]
    split at h
    · have := ih h; omega
    · split at h
      · split at h
        · simp at h
        · have := ih h; omega
      · split at h
        · have := ih h; omega
        · split at h
          · have := ih h; omega
          · simp only [Option.some.injEq] at h; simp [← h]

/-- The text without the gap and the comment at its front. -/
def skipComment (cs : List Char) : List Char :=
  match skipGap cs with
  | '#' :: rest => rest.dropWhile fun c ↦ !isControl c
  | rest => rest

theorem length_skipComment_le (cs : List Char) : (skipComment cs).length ≤ cs.length := by
  have h := length_skipGap_le cs
  unfold skipComment
  split
  · next rest hr =>
    have hd : (rest.dropWhile fun c ↦ !isControl c).length ≤ rest.length :=
      (List.dropWhile_sublist _).length_le
    rw [hr, List.length_cons] at h
    omega
  · exact h

/-- What follows the end of a line, before which there may be a comment. -/
def endLine? (cs : List Char) : Option (List Char) :=
  match skipComment cs with
  | [] => some []
  | '\n' :: rest => some rest
  | _ => none

theorem length_le_of_endLine? {cs rest : List Char} (h : endLine? cs = some rest) :
    rest.length ≤ cs.length := by
  have hc := length_skipComment_le cs
  unfold endLine? at h
  split at h
  · simp only [Option.some.injEq] at h
    simp [← h]
  · next r hr =>
    simp only [Option.some.injEq] at h
    rw [hr, List.length_cons] at hc
    rw [← h]
    omega
  · simp at h

/-! ## Values -/

/-- What follows an item and one character after it is shorter than the text before the item. -/
theorem length_lt_of_item {cs start rest after : List Char} {c : Char}
    (hs : start.length ≤ cs.length) (h : rest.length < start.length)
    (hr : (c :: after).length ≤ rest.length) : after.length < cs.length :=
  Nat.lt_trans hr (Nat.lt_of_lt_of_le h hs)

theorem length_le_of_item {cs start rest after : List Char} {c : Char}
    (hs : start.length ≤ cs.length) (h : rest.length < start.length)
    (hr : (c :: after).length ≤ rest.length) : after.length ≤ cs.length :=
  Nat.le_of_lt (length_lt_of_item hs h hr)

/-- A value read from the front of `cs`, and what remains, which is less. -/
abbrev Read (α : Type) (cs : List Char) := {p : α × List Char // p.2.length < cs.length}

/-- What follows a mark at the front. -/
def readMark? (mark : Char) (cs : List Char) :
    Option {rest : List Char // rest.length < cs.length} :=
  match cs with
  | [] => none
  | c :: rest => if c = mark then some ⟨rest, Nat.lt_succ_self _⟩ else none

mutual

/-- Reads a value that begins at the first character. -/
def readValue (cs : List Char) : Except ReadError (Read Value cs) :=
  match cs with
  | [] => .error .malformed
  | '[' :: rest =>
    match readItems rest with
    | .ok ⟨(items, after), h⟩ => .ok ⟨(.list items, after), Nat.lt_succ_of_le h⟩
    | .error e => .error e
  | '\x7b' :: rest =>
    match _hr : skipGap rest with
    | '\x7d' :: after =>
      .ok ⟨(.record [], after), Nat.lt_succ_of_lt (length_lt_of_skipGap_eq _hr)⟩
    | rest' =>
      match readFields .empty rest' with
      | .ok ⟨(table, after), h⟩ =>
        .ok ⟨(.record table.root, after),
          Nat.lt_succ_of_lt (Nat.lt_of_lt_of_le h (length_le_of_skipGap_eq _hr))⟩
      | .error e => .error e
  | c :: rest =>
    if c = '\x22' ∨ c = '\x27' then
      match readString? c rest with
      | some ⟨(text, after), h⟩ =>
        .ok ⟨(.text (String.ofList text), after), Nat.lt_succ_of_le h⟩
      | none => .error .malformed
    else
      match readScalar (c :: rest) with
      | .ok (v, n) =>
        if h : 0 < n then
          .ok ⟨(v, (c :: rest).drop n), by
            rw [List.length_drop]; exact Nat.sub_lt (Nat.zero_lt_succ _) h⟩
        else .error .malformed
      | .error e => .error e
termination_by (cs.length, 0)
decreasing_by
  · exact Prod.Lex.left _ _ (Nat.lt_succ_self _)
  · exact Prod.Lex.left _ _ (Nat.lt_succ_of_le (length_le_of_skipGap_eq _hr))

/-- Reads the items of an array up to its closing bracket. A comma may stand before it. -/
def readItems (cs : List Char) :
    Except ReadError {p : List Value × List Char // p.2.length ≤ cs.length} :=
  match _hs : skipVoid? false cs with
  | none => .error .malformed
  | some [] => .error .malformed
  | some (']' :: after) => .ok ⟨([], after), Nat.le_of_succ_le (length_le_of_skipVoid? _hs)⟩
  | some (c :: start) =>
    match readValue (c :: start) with
    | .error e => .error e
    | .ok ⟨(v, rest), h⟩ =>
      match _hr : skipVoid? false rest with
      | some (']' :: after) =>
        .ok ⟨([v], after), length_le_of_item (length_le_of_skipVoid? _hs) h
          (length_le_of_skipVoid? _hr)⟩
      | some (',' :: rest') =>
        match readItems rest' with
        | .ok ⟨(vs, after), h'⟩ =>
          .ok ⟨(v :: vs, after), Nat.le_trans h'
            (length_le_of_item (length_le_of_skipVoid? _hs) h (length_le_of_skipVoid? _hr))⟩
        | .error e => .error e
      | _ => .error .malformed
termination_by (cs.length, 1)
decreasing_by
  · exact Prod.Lex.right' _ (length_le_of_skipVoid? _hs) Nat.zero_lt_one
  · exact Prod.Lex.left _ _
      (length_lt_of_item (length_le_of_skipVoid? _hs) h (length_le_of_skipVoid? _hr))

/-- Reads the assignments of an inline table up to its closing brace and adds them to it. -/
def readFields (table : Document) (cs : List Char) : Except ReadError (Read Document cs) :=
  match readAssignment cs with
  | .error e => .error e
  | .ok ⟨((key, v), rest), h⟩ =>
    match table.add (.assign key v) with
    | none => .error .malformed
    | some table =>
      match _hr : skipGap rest with
      | '\x7d' :: after => .ok ⟨(table, after), Nat.lt_trans (length_lt_of_skipGap_eq _hr) h⟩
      | ',' :: rest' =>
        match readFields table (skipGap rest') with
        | .ok ⟨(table, after), h'⟩ =>
          .ok ⟨(table, after),
            Nat.lt_trans (Nat.lt_of_lt_of_le h' (length_skipGap_le rest'))
              (Nat.lt_trans (length_lt_of_skipGap_eq _hr) h)⟩
        | .error e => .error e
      | _ => .error .malformed
termination_by (cs.length, 2)
decreasing_by
  · exact Prod.Lex.right _ (Nat.lt_succ_self 1)
  · exact Prod.Lex.left _ _
      (Nat.lt_of_le_of_lt (length_skipGap_le rest')
        (Nat.lt_trans (length_lt_of_skipGap_eq _hr) h))

/-- Reads a key, an equals sign and a value. -/
def readAssignment (cs : List Char) : Except ReadError (Read (List String × Value) cs) :=
  match readKey? cs with
  | none => .error .malformed
  | some ⟨(key, rest), h⟩ =>
    match readMark? '=' rest with
    | none => .error .malformed
    | some ⟨rest', he⟩ =>
      match readValue (skipGap rest') with
      | .error e => .error e
      | .ok ⟨(v, after), hv⟩ =>
        .ok ⟨((key, v), after), Nat.lt_trans (Nat.lt_of_lt_of_le hv (length_skipGap_le rest'))
          (Nat.lt_trans he h)⟩
termination_by (cs.length, 1)
decreasing_by
  exact Prod.Lex.left _ _ (Nat.lt_of_le_of_lt (length_skipGap_le rest') (Nat.lt_trans he h))

end

/-! ## Statements -/

/-- A path and the bracket after it, at the front of what follows a gap. -/
def readPath? (cs : List Char) : Option (Read (List String) cs) :=
  match readKey? (skipGap cs) with
  | none => none
  | some ⟨(path, rest), h⟩ =>
    match readMark? ']' rest with
    | none => none
    | some ⟨after, hb⟩ =>
      some ⟨(path, after), Nat.lt_of_lt_of_le (Nat.lt_trans hb h) (length_skipGap_le cs)⟩

/-- A heading, whose first bracket has been passed. -/
def readHeading? (cs : List Char) : Option (Read Statement ('[' :: cs)) :=
  match cs with
  | '[' :: rest =>
    match readPath? rest with
    | none => none
    | some ⟨(path, left), h⟩ =>
      match readMark? ']' left with
      | none => none
      | some ⟨after, hb⟩ =>
        some ⟨(.tableItem path, after), Nat.lt_of_lt_of_le (Nat.lt_trans hb h)
          (Nat.le_add_right _ 2)⟩
  | cs =>
    match readPath? cs with
    | none => none
    | some ⟨(path, after), h⟩ => some ⟨(.table path, after), Nat.lt_succ_of_lt h⟩

/-- A statement that begins at the first character. -/
def readStatement (cs : List Char) : Except ReadError (Read Statement cs) :=
  match cs with
  | '[' :: rest => orMalformed (readHeading? rest)
  | cs =>
    match readAssignment cs with
    | .ok ⟨((key, v), after), h⟩ => .ok ⟨(.assign key v, after), h⟩
    | .error e => .error e

/-- The statements of a text up to its end or to the first error. -/
def readStatements (cs : List Char) : List Statement × Except ReadError Unit :=
  match _hs : skipVoid? false cs with
  | none => ([], .error .malformed)
  | some [] => ([], .ok ())
  | some (c :: start) =>
    match readStatement (c :: start) with
    | .error e => ([], .error e)
    | .ok ⟨(s, rest), _h⟩ =>
      match _he : endLine? rest with
      | none => ([s], .error .malformed)
      | some after =>
        let others := readStatements after
        (s :: others.1, others.2)
termination_by cs.length
decreasing_by
  exact Nat.lt_of_lt_of_le (Nat.lt_of_le_of_lt (length_le_of_endLine? _he) _h)
    (length_le_of_skipVoid? _hs)

/-- The text with line feeds for all line ends. -/
def unifyLineEnds : List Char → List Char
  | '\r' :: '\n' :: cs => '\n' :: unifyLineEnds cs
  | '\r' :: cs => '\n' :: unifyLineEnds cs
  | c :: cs => c :: unifyLineEnds cs
  | [] => []

/-- The document of a text. Statements that cannot stand together count before an error behind
them. -/
def read (s : String) : Except ReadError (Fields Value) :=
  let (statements, ending) := readStatements (unifyLineEnds s.toList)
  match Document.ofStatements statements, ending with
  | none, _ => .error .malformed
  | some _, .error e => .error e
  | some fields, .ok () => .ok fields

end LineCommands.Toml
