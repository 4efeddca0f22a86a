import LineCommands.Json.Reader

/-!
# Strings and keys of TOML

The four kinds of strings, and the keys made of them. Basic strings stand in double quotes and have
escapes, literal strings stand in single quotes and have none; tripled quotes allow a string to go
over several lines. Control characters other than the tab are refused everywhere.

A reader takes the characters after the opening quotes and gives back what it read and what remains,
which is no longer than what it was given.
-/

namespace LineCommands.Toml

/-- The characters that a reader leaves, which are no more than it was given. -/
abbrev Left (α : Type) (cs : List Char) := {p : α × List Char // p.2.length ≤ cs.length}

/-- The character separates the parts of a line. -/
def isGap (c : Char) : Bool := c == ' ' || c == '\t'

/-- The text without the gap at its front. -/
def skipGap (cs : List Char) : List Char := cs.dropWhile isGap

theorem length_skipGap_le (cs : List Char) : (skipGap cs).length ≤ cs.length :=
  (List.dropWhile_sublist _).length_le

theorem length_le_of_skipGap_eq {cs rest : List Char} (h : skipGap cs = rest) :
    rest.length ≤ cs.length :=
  h ▸ length_skipGap_le cs

theorem length_lt_of_skipGap_eq {cs rest : List Char} {c : Char} (h : skipGap cs = c :: rest) :
    rest.length < cs.length :=
  length_le_of_skipGap_eq h

/-- The character may not stand in a text. -/
def isControl (c : Char) : Bool := (c.toNat < 32 && c != '\t') || c.toNat == 127

/-! ## Strings -/

/-- The character with this code point, if it has one. -/
def scalar? (n : Nat) : Option Char :=
  if n < 0xD800 ∨ (0xE000 ≤ n ∧ n < 0x110000) then some (Char.ofNat n) else none

/-- The character that the letter after a backslash stands for. -/
def escaped? (c : Char) : Option Char :=
  match c with
  | 'b' => some '\x08'
  | 't' => some '\t'
  | 'n' => some '\n'
  | 'f' => some '\x0c'
  | 'r' => some '\r'
  | '\x22' => some '\x22'
  | '\\' => some '\\'
  | _ => none

/-- The escape at the front, whose backslash has been passed, and what follows it. -/
def readEscape? (cs : List Char) : Option (Left Char cs) :=
  match cs with
  | 'u' :: rest => code 4 rest
  | 'U' :: rest => code 8 rest
  | c :: rest => (escaped? c).map fun e ↦ ⟨(e, rest), Nat.le_succ _⟩
  | [] => none
where
  /-- A code point of so many hexadecimal digits. -/
  code {c : Char} (digits : Nat) (rest : List Char) : Option (Left Char (c :: rest)) :=
    if rest.length < digits then none
    else
      ((Json.hexNumber? (rest.take digits)).bind scalar?).map fun e ↦
        ⟨(e, rest.drop digits), Nat.le_succ_of_le (List.drop_sublist _ _).length_le⟩

/-- A basic string on one line, up to its closing quote. -/
def readBasic? (cs : List Char) : Option (Left (List Char) cs) :=
  match cs with
  | [] => none
  | '\x22' :: rest => some ⟨([], rest), Nat.le_succ _⟩
  | '\\' :: rest =>
    match readEscape? rest with
    | none => none
    | some ⟨(e, after), h⟩ =>
      (readBasic? after).map fun ⟨(text, left), h'⟩ ↦
        ⟨(e :: text, left), Nat.le_succ_of_le (Nat.le_trans h' h)⟩
  | c :: rest =>
    if isControl c then none
    else
      (readBasic? rest).map fun ⟨(text, left), h⟩ ↦ ⟨(c :: text, left), Nat.le_succ_of_le h⟩
termination_by cs.length
decreasing_by
  · exact Nat.lt_succ_of_le h
  · exact Nat.lt_succ_self _

/-- A line feed that a backslash at the end of a line takes away, with the blanks around it: what
follows them. The backslash has been passed. -/
def skipLineEnd? (cs : List Char) : Option (List Char) :=
  match skipGap cs with
  | '\n' :: rest => some (rest.dropWhile fun c ↦ isGap c || c == '\n')
  | [] => if cs.isEmpty then none else some []
  | _ => none

theorem length_le_of_skipLineEnd? {cs rest : List Char} (h : skipLineEnd? cs = some rest) :
    rest.length ≤ cs.length := by
  have h₀ := length_skipGap_le cs
  unfold skipLineEnd? at h
  split at h
  · next r hr =>
    simp only [Option.some.injEq] at h
    have h₁ : (r.dropWhile fun c ↦ isGap c || c == '\n').length ≤ r.length :=
      (List.dropWhile_sublist _).length_le
    rw [hr] at h₀
    simp only [List.length_cons] at h₀
    rw [← h]
    omega
  · split at h
    · simp at h
    · simp only [Option.some.injEq] at h
      simp [← h]
  · simp at h

/-- A basic string over several lines, up to its three closing quotes. One or two quotes more belong
to the string. -/
def readLongBasic? (cs : List Char) : Option (Left (List Char) cs) :=
  match cs with
  | [] => none
  | '\x22' :: '\x22' :: '\x22' :: '\x22' :: '\x22' :: rest =>
    some ⟨(['\x22', '\x22'], rest), Nat.le_add_right _ 5⟩
  | '\x22' :: '\x22' :: '\x22' :: '\x22' :: rest =>
    some ⟨(['\x22'], rest), Nat.le_add_right _ 4⟩
  | '\x22' :: '\x22' :: '\x22' :: rest => some ⟨([], rest), Nat.le_add_right _ 3⟩
  | '\\' :: rest =>
    match _hs : skipLineEnd? rest with
    | some after =>
      (readLongBasic? after).map fun ⟨(text, left), h⟩ ↦
        ⟨(text, left), Nat.le_succ_of_le (Nat.le_trans h (length_le_of_skipLineEnd? _hs))⟩
    | none =>
      match readEscape? rest with
      | none => none
      | some ⟨(e, after), h⟩ =>
        (readLongBasic? after).map fun ⟨(text, left), h'⟩ ↦
          ⟨(e :: text, left), Nat.le_succ_of_le (Nat.le_trans h' h)⟩
  | c :: rest =>
    if isControl c && c != '\n' then none
    else
      (readLongBasic? rest).map fun ⟨(text, left), h⟩ ↦
        ⟨(c :: text, left), Nat.le_succ_of_le h⟩
termination_by cs.length
decreasing_by
  · exact Nat.lt_succ_of_le (length_le_of_skipLineEnd? _hs)
  · exact Nat.lt_succ_of_le h
  · exact Nat.lt_succ_self _

/-- A literal string on one line, up to its closing quote. -/
def readLiteral? : List Char → Option (List Char × List Char)
  | [] => none
  | '\x27' :: rest => some ([], rest)
  | c :: rest =>
    if isControl c then none else (readLiteral? rest).map fun (text, left) ↦ (c :: text, left)

/-- A literal string over several lines, up to its three closing quotes. -/
def readLongLiteral? : List Char → Option (List Char × List Char)
  | [] => none
  | '\x27' :: '\x27' :: '\x27' :: '\x27' :: '\x27' :: rest => some (['\x27', '\x27'], rest)
  | '\x27' :: '\x27' :: '\x27' :: '\x27' :: rest => some (['\x27'], rest)
  | '\x27' :: '\x27' :: '\x27' :: rest => some ([], rest)
  | c :: rest =>
    if isControl c && c != '\n' then none
    else (readLongLiteral? rest).map fun (text, left) ↦ (c :: text, left)

theorem length_le_of_readLiteral? {cs text rest : List Char}
    (h : readLiteral? cs = some (text, rest)) : rest.length ≤ cs.length := by
  fun_induction readLiteral? cs generalizing text with
  | case1 => simp at h
  | case2 r => simp at h; simp [h.2]
  | case3 => simp at h
  | case4 c r _ _ ih =>
    obtain ⟨p, hp, he⟩ := Option.map_eq_some_iff.1 h
    simp only [Prod.mk.injEq] at he
    have := @ih p.1 (by rw [hp, ← he.2])
    simp only [List.length_cons]; omega

theorem length_le_of_readLongLiteral? {cs text rest : List Char}
    (h : readLongLiteral? cs = some (text, rest)) : rest.length ≤ cs.length := by
  fun_induction readLongLiteral? cs generalizing text with
  | case1 => simp at h
  | case2 r => simp at h; simp [h.2]; omega
  | case3 r => simp at h; simp [h.2]; omega
  | case4 r => simp at h; simp [h.2]; omega
  | case5 => simp at h
  | case6 c r _ _ _ _ ih =>
    obtain ⟨p, hp, he⟩ := Option.map_eq_some_iff.1 h
    simp only [Prod.mk.injEq] at he
    have := @ih p.1 (by rw [hp, ← he.2])
    simp only [List.length_cons]; omega

/-- A literal string of either length with a bound on what remains. -/
def leftOf (cs : List Char) (r : Option (List Char × List Char))
    (h : ∀ text rest, r = some (text, rest) → rest.length ≤ cs.length) :
    Option (Left (List Char) cs) :=
  match r with
  | some (text, rest) => some ⟨(text, rest), h text rest rfl⟩
  | none => none

/-- A string of any kind, whose first quote `q` has been passed. A line feed right after three
opening quotes does not count. -/
def readString? (q : Char) (cs : List Char) : Option (Left (List Char) cs) :=
  if q = '\x22' then
    match cs with
    | '\x22' :: '\x22' :: '\n' :: rest =>
      (readLongBasic? rest).map fun ⟨p, h⟩ ↦ ⟨p, Nat.le_trans h (Nat.le_add_right _ 3)⟩
    | '\x22' :: '\x22' :: rest =>
      (readLongBasic? rest).map fun ⟨p, h⟩ ↦ ⟨p, Nat.le_trans h (Nat.le_add_right _ 2)⟩
    | cs => readBasic? cs
  else
    match cs with
    | '\x27' :: '\x27' :: '\n' :: rest =>
      (leftOf rest (readLongLiteral? rest) fun _ _ ↦ length_le_of_readLongLiteral?).map
        fun ⟨p, h⟩ ↦ ⟨p, Nat.le_trans h (Nat.le_add_right _ 3)⟩
    | '\x27' :: '\x27' :: rest =>
      (leftOf rest (readLongLiteral? rest) fun _ _ ↦ length_le_of_readLongLiteral?).map
        fun ⟨p, h⟩ ↦ ⟨p, Nat.le_trans h (Nat.le_add_right _ 2)⟩
    | cs => leftOf cs (readLiteral? cs) fun _ _ ↦ length_le_of_readLiteral?

/-! ## Keys -/

/-- The character may stand in a key without quotes. -/
def isBareKeyChar (c : Char) : Bool := c.isAlphanum || c == '-' || c == '_'

/-- One part of a key: a bare one, or a string on one line. -/
def readKeyPart? (cs : List Char) : Option {p : String × List Char // p.2.length < cs.length} :=
  match cs with
  | '\x22' :: rest =>
    (readBasic? rest).map fun ⟨(text, left), h⟩ ↦
      ⟨(String.ofList text, left), Nat.lt_succ_of_le h⟩
  | '\x27' :: rest =>
    (leftOf rest (readLiteral? rest) fun _ _ ↦ length_le_of_readLiteral?).map
      fun ⟨(text, left), h⟩ ↦ ⟨(String.ofList text, left), Nat.lt_succ_of_le h⟩
  | c :: rest =>
    if isBareKeyChar c then
      some ⟨(String.ofList (c :: rest.takeWhile isBareKeyChar), rest.dropWhile isBareKeyChar),
        Nat.lt_succ_of_le (List.dropWhile_sublist _).length_le⟩
    else none
  | [] => none

/-- A key: parts with points between them, and what follows the gap after it. -/
def readKey? (cs : List Char) : Option {p : List String × List Char // p.2.length < cs.length} :=
  match readKeyPart? cs with
  | none => none
  | some ⟨(part, rest), h⟩ =>
    match _hr : skipGap rest with
    | '.' :: rest' =>
      (readKey? (skipGap rest')).map fun ⟨(parts, left), h'⟩ ↦
        ⟨(part :: parts, left),
          Nat.lt_trans (Nat.lt_of_lt_of_le h' (length_skipGap_le rest'))
            (Nat.lt_trans (length_lt_of_skipGap_eq _hr) h)⟩
    | left => some ⟨([part], left), Nat.lt_of_le_of_lt (length_le_of_skipGap_eq _hr) h⟩
termination_by cs.length
decreasing_by
  exact Nat.lt_of_le_of_lt (length_skipGap_le rest')
    (Nat.lt_trans (length_lt_of_skipGap_eq _hr) h)

end LineCommands.Toml
