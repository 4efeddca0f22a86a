import LineCommands.Value.Basic
import LineCommands.Text.Numeral
import LineCommands.Binary64.Rounding

/-!
# Reading JSON

A JSON text becomes a value. The words `NaN`, `Infinity` and `-Infinity` are numbers too, a whole
number with too many digits is refused, and of two fields with one name the later one counts.

A reader takes the characters that are left and gives back a value and what remains, which is less.
The recursion is on that length.
-/

namespace LineCommands.Json

/-- The character stands between the tokens of a JSON text. -/
def isSpace (c : Char) : Bool := c == ' ' || c == '\t' || c == '\n' || c == '\r'

/-- The text without the spaces at its front. -/
def skipSpace (cs : List Char) : List Char := cs.dropWhile isSpace

theorem length_skipSpace_le (cs : List Char) : (skipSpace cs).length ≤ cs.length :=
  (List.dropWhile_sublist _).length_le

/-! ## Strings -/

/-- The value of a hexadecimal digit. -/
def hexValue? (c : Char) : Option Nat :=
  if c.isDigit then some (c.toNat - 48)
  else if 'a' ≤ c ∧ c ≤ 'f' then some (c.toNat - 87)
  else if 'A' ≤ c ∧ c ≤ 'F' then some (c.toNat - 55)
  else none

/-- The number that hexadecimal digits stand for. -/
def hexNumber? (cs : List Char) : Option Nat :=
  cs.foldlM (fun n c ↦ (hexValue? c).map (16 * n + ·)) 0

/-- The code unit that the letter after a backslash stands for. -/
def escaped? (c : Char) : Option Nat :=
  match c with
  | '\x22' => some 0x22
  | '\\' => some 0x5C
  | '/' => some 0x2F
  | 'b' => some 8
  | 'f' => some 12
  | 'n' => some 10
  | 'r' => some 13
  | 't' => some 9
  | _ => none

/-- The code units of a string whose opening quote has been passed, up to its closing quote, and
what follows. Control characters are refused. -/
def readUnits? : List Char → Option (List Nat × List Char)
  | [] => none
  | '\x22' :: rest => some ([], rest)
  | '\\' :: 'u' :: a :: b :: c :: d :: rest =>
    match hexNumber? [a, b, c, d], readUnits? rest with
    | some n, some (units, after) => some (n :: units, after)
    | _, _ => none
  | '\\' :: c :: rest =>
    match escaped? c, readUnits? rest with
    | some n, some (units, after) => some (n :: units, after)
    | _, _ => none
  | c :: rest =>
    if c.toNat < 32 ∨ c = '\\' then none
    else (readUnits? rest).map fun (units, after) ↦ (c.toNat :: units, after)

theorem length_lt_of_readUnits? {cs rest : List Char} {units : List Nat}
    (h : readUnits? cs = some (units, rest)) : rest.length < cs.length := by
  fun_induction readUnits? cs generalizing units with
  | case1 => simp at h
  | case2 r => simp at h; simp [h.2]
  | case3 a b c d r n us after hus hn ih =>
    simp only [Option.some.injEq, Prod.mk.injEq] at h
    have := ih (h.2 ▸ hus)
    simp only [List.length_cons]; omega
  | case4 => simp at h
  | case5 c r hx n us after hus hn ih =>
    simp only [Option.some.injEq, Prod.mk.injEq] at h
    have := ih (h.2 ▸ hus)
    simp only [List.length_cons]; omega
  | case6 => simp at h
  | case7 => simp at h
  | case8 c r h₁ h₂ h₃ hc ih =>
    obtain ⟨p, hp, he⟩ := Option.map_eq_some_iff.1 h
    simp only [Prod.mk.injEq] at he
    have := @ih p.1 (by rw [hp, ← he.2])
    simp only [List.length_cons]; omega

/-- The characters that code units stand for. Two surrogates in the right order are one character;
any other surrogate stands for none and is shown as the replacement character. -/
def joinUnits : List Nat → List Char
  | [] => []
  | hi :: lo :: rest =>
    if 0xD800 ≤ hi ∧ hi < 0xDC00 ∧ 0xDC00 ≤ lo ∧ lo < 0xE000 then
      Char.ofNat (0x10000 + (hi - 0xD800) * 0x400 + (lo - 0xDC00)) :: joinUnits rest
    else character hi :: joinUnits (lo :: rest)
  | [n] => [character n]
where
  /-- The character of a single code unit. -/
  character (n : Nat) : Char := if 0xD800 ≤ n ∧ n < 0xE000 then '\ufffd' else Char.ofNat n

/-- The string whose opening quote has been passed, and what follows it. -/
def readString? (cs : List Char) : Option {p : String × List Char // p.2.length < cs.length} :=
  match h : readUnits? cs with
  | some (units, rest) => some ⟨(String.ofList (joinUnits units), rest), length_lt_of_readUnits? h⟩
  | none => none

/-! ## Numbers -/

/-- The whole part of a number: a zero, or digits that do not begin with one. -/
def wholePart (cs : List Char) : List Char :=
  match cs with
  | '0' :: _ => ['0']
  | cs => cs.takeWhile Char.isDigit

/-- A point and at least one digit. -/
def fractionPart (cs : List Char) : List Char :=
  match cs with
  | '.' :: rest =>
    let ds := rest.takeWhile Char.isDigit
    if ds.isEmpty then [] else '.' :: ds
  | _ => []

/-- The mark of an exponent, an optional sign and at least one digit. -/
def exponentPart (cs : List Char) : List Char :=
  match cs with
  | e :: rest =>
    let signPart := (rest.take 1).filter fun s ↦ s == '+' || s == '-'
    let ds := (rest.drop signPart.length).takeWhile Char.isDigit
    if (e == 'e' || e == 'E') && !ds.isEmpty then e :: signPart ++ ds else []
  | [] => []

/-- The number at the front of a text. -/
def numberPart (cs : List Char) : List Char :=
  let signPart := (cs.take 1).filter (· == '-')
  let cs := cs.drop signPart.length
  let whole := wholePart cs
  if whole.isEmpty then []
  else
    let cs := cs.drop whole.length
    let fraction := fractionPart cs
    signPart ++ whole ++ fraction ++ exponentPart (cs.drop fraction.length)

/-- The value of the text of a number. -/
def numberValue? (text : List Char) : Option Value :=
  if text.any fun c ↦ c == '.' || c == 'e' || c == 'E' then
    let (negative, cs) := Text.splitSign text
    (Text.readDecimal? cs).map fun d ↦
      .float (Binary64.ofDecimal negative (Text.natOfDigits d.digits) d.exponent)
  else (Text.readInt? text).map .int

/-! ## Values -/

/-- The words that are values. -/
def constants : List (List Char × Value) :=
  [("null".toList, .absent), ("true".toList, .bool true), ("false".toList, .bool false),
    ("NaN".toList, .float Binary64.notANumber),
    ("Infinity".toList, .float (Binary64.ofRatio false Binary64.overflowBound 1)),
    ("-Infinity".toList, .float (Binary64.ofRatio true Binary64.overflowBound 1))]

/-- The word or number at the front of a text, and how long it is. -/
def readScalar? (cs : List Char) : Option (Value × Nat) :=
  match constants.find? fun p ↦ p.1.isPrefixOf cs with
  | some (word, v) => some (v, word.length)
  | none =>
    let text := numberPart cs
    (numberValue? text).map (·, text.length)

/-- A value read from the front of `cs`, and what remains, which is less. -/
abbrev Read (α : Type) (cs : List Char) := {p : α × List Char // p.2.length < cs.length}

mutual

/-- Reads a value that begins at the first character. -/
def readValue? (cs : List Char) : Option (Read Value cs) :=
  match cs with
  | [] => none
  | '\x22' :: rest =>
    match readString? rest with
    | some ⟨(s, after), h⟩ => some ⟨(.text s, after), by simp at h ⊢; omega⟩
    | none => none
  | '[' :: rest =>
    match _hr : skipSpace rest with
    | ']' :: after =>
      some ⟨(.list [], after), by
        have := length_skipSpace_le rest; simp [_hr] at this ⊢; omega⟩
    | rest' =>
      match readItems? rest' with
      | some ⟨(items, after), h⟩ =>
        some ⟨(.list items, after), by
          have := length_skipSpace_le rest; simp [_hr] at this h ⊢; omega⟩
      | none => none
  | '\x7b' :: rest =>
    match _hr : skipSpace rest with
    | '\x7d' :: after =>
      some ⟨(.record [], after), by
        have := length_skipSpace_le rest; simp [_hr] at this ⊢; omega⟩
    | rest' =>
      match readFields? rest' with
      | some ⟨(fields, after), h⟩ =>
        some ⟨(.record (Fields.ofPairs fields), after), by
          have := length_skipSpace_le rest; simp [_hr] at this h ⊢; omega⟩
      | none => none
  | c :: rest =>
    match readScalar? (c :: rest) with
    | some (v, n) =>
      if h : 0 < n then some ⟨(v, (c :: rest).drop n), by simp; omega⟩ else none
    | none => none
termination_by (cs.length, 0)
decreasing_by
  · have := length_skipSpace_le rest
    simp [_hr] at this
    simp [Prod.lex_def]; omega
  · have := length_skipSpace_le rest
    simp [_hr] at this
    simp [Prod.lex_def]; omega

/-- Reads the items of a list up to its closing bracket. -/
def readItems? (cs : List Char) : Option (Read (List Value) cs) :=
  match readValue? cs with
  | none => none
  | some ⟨(v, rest), h⟩ =>
    match _hr : skipSpace rest with
    | ']' :: after =>
      some ⟨([v], after), by have := length_skipSpace_le rest; simp [_hr] at this h ⊢; omega⟩
    | ',' :: rest' =>
      match readItems? (skipSpace rest') with
      | some ⟨(vs, after), h'⟩ =>
        some ⟨(v :: vs, after), by
          have := length_skipSpace_le rest
          have := length_skipSpace_le rest'
          simp [_hr] at *; omega⟩
      | none => none
    | _ => none
termination_by (cs.length, 1)
decreasing_by
  · simp [Prod.lex_def]
  · have := length_skipSpace_le rest
    have := length_skipSpace_le rest'
    simp [_hr] at *
    simp [Prod.lex_def]; omega

/-- Reads the fields of a record up to its closing bracket. -/
def readFields? (cs : List Char) : Option (Read (List (String × Value)) cs) :=
  match cs with
  | '\x22' :: rest =>
    match readString? rest with
    | none => none
    | some ⟨(name, rest₁), h₁⟩ =>
      match _hc : skipSpace rest₁ with
      | ':' :: rest₂ =>
        match readValue? (skipSpace rest₂) with
        | none => none
        | some ⟨(v, rest₃), h₃⟩ =>
          match _hr : skipSpace rest₃ with
          | '\x7d' :: after =>
            some ⟨([(name, v)], after), by
              have := length_skipSpace_le rest₁
              have := length_skipSpace_le rest₂
              have := length_skipSpace_le rest₃
              simp [_hc, _hr] at *; omega⟩
          | ',' :: rest₄ =>
            match readFields? (skipSpace rest₄) with
            | some ⟨(fields, after), h⟩ =>
              some ⟨((name, v) :: fields, after), by
                have := length_skipSpace_le rest₁
                have := length_skipSpace_le rest₂
                have := length_skipSpace_le rest₃
                have := length_skipSpace_le rest₄
                simp [_hc, _hr] at *; omega⟩
            | none => none
          | _ => none
      | _ => none
  | _ => none
termination_by (cs.length, 1)
decreasing_by
  · have := length_skipSpace_le rest₁
    have := length_skipSpace_le rest₂
    simp [_hc] at *
    simp [Prod.lex_def]; omega
  · have := length_skipSpace_le rest₁
    have := length_skipSpace_le rest₂
    have := length_skipSpace_le rest₃
    have := length_skipSpace_le rest₄
    simp [_hc, _hr] at *
    simp [Prod.lex_def]; omega

end

/-- The value of a JSON text. -/
def read? (s : String) : Option Value :=
  match readValue? (skipSpace s.toList) with
  | some ⟨(v, rest), _⟩ => if (skipSpace rest).isEmpty then some v else none
  | none => none

end LineCommands.Json
