import LineCommands.Expression.Error
import LineCommands.Text.Blank
import LineCommands.Text.Numeral

/-!
# Tokens of expressions

The text of an expression is cut from left to right into the longest pieces that are numbers, names,
operators or parentheses; blanks between them are skipped. Numbers have no sign of their own.

A scanner takes the characters that are left and gives back what it took and what remains, which is
always less: that is what makes the cutting a recursion on the length of the text.
-/

namespace LineCommands

/-- The meaning of a token. -/
inductive Lexeme where
  | number (text : String)
  | name (text : String)
  | sign (s : Sign)
  | times | slash | modulo
  | power
  | opening
  | closing
deriving DecidableEq, Repr

/-- How a token is written. -/
def Lexeme.text : Lexeme → String
  | number t => t
  | name t => t
  | sign s => s.symbol
  | times => "*" | slash => "/" | modulo => "%"
  | power => "**"
  | opening => "("
  | closing => ")"

/-- A token and where it begins. -/
structure Token where
  lexeme : Lexeme
  position : Nat
deriving DecidableEq, Repr

namespace Lexeme

/-! ## Scanning one lexeme -/

/-- The character begins a name. -/
def isNameStart (c : Char) : Bool := c.isAlpha || c == '_'

/-- The character continues a name. -/
def isNameRest (c : Char) : Bool := c.isAlphanum || c == '_'

/-- The longest exponent at the front: its mark, an optional sign and digits. -/
def exponentPart : List Char → List Char
  | c :: cs =>
    let signPart := (cs.take 1).filter fun s ↦ s == '+' || s == '-'
    let digits := (cs.drop signPart.length).takeWhile Char.isDigit
    if (c == 'e' || c == 'E') && !digits.isEmpty then c :: signPart ++ digits else []
  | [] => []

/-- The longest digits with a point among, before or after them at the front. -/
def mantissaPart (cs : List Char) : List Char :=
  let whole := cs.takeWhile Char.isDigit
  match cs.drop whole.length with
  | '.' :: rest =>
    let fraction := rest.takeWhile Char.isDigit
    if whole.isEmpty && fraction.isEmpty then [] else whole ++ '.' :: fraction
  | _ => whole

/-- The longest number at the front, empty if there is none. -/
def numberPart (cs : List Char) : List Char :=
  let mantissa := mantissaPart cs
  if mantissa.isEmpty then [] else mantissa ++ exponentPart (cs.drop mantissa.length)

/-- The longest name at the front, empty if there is none. -/
def namePart : List Char → List Char
  | c :: cs => if isNameStart c then c :: cs.takeWhile isNameRest else []
  | [] => []

/-- The operator or parenthesis at the front, and what remains. -/
def symbol? : List Char → Option (Lexeme × List Char)
  | '*' :: '*' :: cs => some (power, cs)
  | '*' :: cs => some (times, cs)
  | '/' :: cs => some (slash, cs)
  | '%' :: cs => some (modulo, cs)
  | '+' :: cs => some (sign .plus, cs)
  | '-' :: cs => some (sign .minus, cs)
  | '(' :: cs => some (opening, cs)
  | ')' :: cs => some (closing, cs)
  | _ => none

/-- The lexeme at the front, and what remains. -/
def scan? (cs : List Char) : Option (Lexeme × List Char) :=
  let n := numberPart cs
  let w := namePart cs
  if !n.isEmpty then some (number (String.ofList n), cs.drop n.length)
  else if !w.isEmpty then some (name (String.ofList w), cs.drop w.length)
  else symbol? cs

theorem length_lt_of_symbol? {cs rest : List Char} {l : Lexeme} (h : symbol? cs = some (l, rest)) :
    rest.length < cs.length := by
  unfold symbol? at h
  split at h <;> simp at h <;> obtain ⟨-, rfl⟩ := h <;> simp +arith

theorem length_lt_of_scan? {cs rest : List Char} {l : Lexeme} (h : scan? cs = some (l, rest)) :
    rest.length < cs.length := by
  have drop_lt (p : List Char) (hp : (!p.isEmpty) = true) (hcs : cs ≠ []) :
      (cs.drop p.length).length < cs.length := by
    have : 0 < p.length := List.length_pos_iff.2 (by simpa using hp)
    have : 0 < cs.length := List.length_pos_iff.2 hcs
    simp only [List.length_drop]
    omega
  have hcs : cs ≠ [] := by
    rintro rfl
    simp [scan?, numberPart, mantissaPart, namePart, symbol?] at h
  simp only [scan?] at h
  split at h
  · next hn =>
    simp only [Option.some.injEq, Prod.mk.injEq] at h
    exact h.2 ▸ drop_lt _ hn hcs
  · split at h
    · next hw =>
      simp only [Option.some.injEq, Prod.mk.injEq] at h
      exact h.2 ▸ drop_lt _ hw hcs
    · exact length_lt_of_symbol? h

end Lexeme

/-! ## Cutting a text into tokens -/

/-- The tokens of the characters `cs`, the first of which stands at `position`. -/
def tokensFrom (position : Nat) (cs : List Char) : Except ExprError (List Token) :=
  match cs with
  | [] => .ok []
  | c :: rest =>
    match _h : Lexeme.scan? (c :: rest) with
    | some (l, after) =>
      match tokensFrom (position + l.text.length) after with
      | .ok ts => .ok (⟨l, position⟩ :: ts)
      | .error e => .error e
    | none =>
      if Text.isBlank c then tokensFrom (position + 1) rest
      else .error (.badCharacter c position)
termination_by cs.length
decreasing_by
  · exact Lexeme.length_lt_of_scan? _h
  · simp

/-- The tokens of a text. -/
def tokenize (source : String) : Except ExprError (List Token) := tokensFrom 0 source.toList

end LineCommands
