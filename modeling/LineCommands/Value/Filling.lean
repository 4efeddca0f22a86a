import LineCommands.Binary64.Places
import LineCommands.Text.Numeral
import LineCommands.Value.Directive
import LineCommands.Value.Text

/-!
# Filling texts

A text with directives is filled with one value. The first directive without a key takes it; a
directive with a key takes a field of it, if it is a record. A value that no directive takes is an
error, unless it is one that keys can look into. The first thing that is amiss is told.
-/

namespace LineCommands

/-- Why a text cannot be filled with a value. -/
inductive FillingError where
  /-- There is a key and the value has no fields. -/
  | noFields
  /-- There is a key and the value is a list. -/
  | list
  | missingKey (key : String)
  | unclosedKey
  /-- There are more directives than values. -/
  | tooFewValues
  | tooManyValues
  /-- A width or a precision is taken from a value that is no whole number. -/
  | extentNotWhole
  | widthTooLarge
  | precisionTooLarge
  | widthOutOfRange
  | precisionOutOfRange
  /-- The text ends within a directive. -/
  | unfinished
  /-- This letter at this position stands for no kind of value. -/
  | unknownLetter (letter : Char) (position : Nat)
  /-- The letter asks for a whole number. -/
  | notWhole (letter : Char) (kind : String)
  /-- The letter asks for a number that has a whole part. -/
  | notReal (letter : Char) (kind : String)
  /-- The letter asks for a floating-point number. -/
  | notFloat (kind : String)
  | notCharacter
  /-- No character has this number. -/
  | noCharacter
  /-- The whole part of NaN is asked for. -/
  | notANumber
  /-- The whole part of an infinity is asked for. -/
  | infinite
  /-- A whole number is too large for a floating-point value. -/
  | tooLarge
  /-- A whole number has too many digits. -/
  | tooManyDigits
deriving DecidableEq, Repr

namespace FillingError

/-- The letter as far as it can be shown. -/
def shown (c : Char) : Char := if 31 ≤ c.toNat ∧ c.toNat ≤ 126 then c else '?'

/-- How an error is told. -/
def message : FillingError → String
  | noFields => "format requires a mapping"
  | list => "list indices must be integers or slices, not str"
  | missingKey key => key
  | unclosedKey => "incomplete format key"
  | tooFewValues => "not enough arguments for format string"
  | tooManyValues => "not all arguments converted during string formatting"
  | extentNotWhole => "* wants int"
  | widthTooLarge => "width too big"
  | precisionTooLarge => "precision too big"
  | widthOutOfRange => "Python int too large to convert to C ssize_t"
  | precisionOutOfRange => "Python int too large to convert to C int"
  | unfinished => "incomplete format"
  | unknownLetter c position =>
    let number := String.ofList (Nat.toDigits 16 c.toNat)
    s!"unsupported format character '{shown c}' (0x{number}) at index {position}"
  | notWhole c kind => s!"%{c} format: an integer is required, not {kind}"
  | notReal c kind => s!"%{c} format: a real number is required, not {kind}"
  | notFloat kind => s!"must be real number, not {kind}"
  | notCharacter => "%c requires int or char"
  | noCharacter => "%c arg not in range(0x110000)"
  | notANumber => "cannot convert float NaN to integer"
  | infinite => "cannot convert float infinity to integer"
  | tooLarge => "int too large to convert to float"
  | tooManyDigits => Value.tooManyDigitsMessage

/-- The error is that a value has the wrong type or that there is none. -/
def isMisuse : FillingError → Bool
  | noFields | list | tooFewValues | tooManyValues | extentNotWhole | notWhole .. | notReal ..
  | notFloat _ | notCharacter => true
  | _ => false

end FillingError

/-! ## Values in a directive -/

/-- What a directive writes, before it is brought to its width. -/
structure Filling where
  /-- It may have a sign and zeros in front. -/
  isNumber : Bool
  sign : List Char
  /-- The mark of the base of a whole number. -/
  mark : List Char
  body : List Char

namespace Filling

/-- A text. -/
def ofText (cs : List Char) : Filling := ⟨false, [], [], cs⟩

/-- A number with its sign. -/
def ofNumber (negative : Bool) (mark body : List Char) : Filling :=
  ⟨true, if negative then ['-'] else [], mark, body⟩

/-- The sign that is shown. -/
def shownSign (flags : List Char) (f : Filling) : List Char :=
  if !f.isNumber then []
  else if !f.sign.isEmpty then f.sign
  else if flags.contains '+' then ['+']
  else if flags.contains ' ' then [' ']
  else []

/-- The text of a width. -/
def brought (flags : List Char) (width : Nat) (f : Filling) : List Char :=
  let front := f.shownSign flags ++ f.mark
  let room := width - (front.length + f.body.length)
  if flags.contains '-' then front ++ f.body ++ List.replicate room ' '
  else if f.isNumber && flags.contains '0' then front ++ List.replicate room '0' ++ f.body
  else List.replicate room ' ' ++ front ++ f.body

end Filling

/-- Characters that are not plain ASCII by their numbers. -/
def asciiForm (cs : List Char) : List Char :=
  cs.flatMap fun c ↦
    if c.toNat < 0x80 then [c]
    else if c.toNat < 0x100 then '\\' :: 'x' :: Text.hexDigits 2 c.toNat
    else if c.toNat < 0x10000 then '\\' :: 'u' :: Text.hexDigits 4 c.toNat
    else '\\' :: 'U' :: Text.hexDigits 8 c.toNat

namespace Directive

/-- The digits of a whole number in a base, with zeros in front up to the precision. -/
def wholeNumber (base : Nat) (mark : List Char) (precision : Option Nat) (n : Int) : Filling :=
  let ds := Nat.toDigits base n.natAbs
  .ofNumber (n < 0) mark (List.replicate (precision.getD 0 - ds.length) '0' ++ ds)

/-- A floating-point number. The text of a finite one is made from its exact value. -/
def floatNumber (finite : SignedDyadic → List Char) (x : Float) : Filling :=
  match SignedDyadic.ofFloat? x with
  | some d => .ofNumber d.negative [] (finite d)
  | none =>
    if x.isNaN then .ofNumber false [] "nan".toList
    else .ofNumber (SignedDyadic.signBit x) [] "inf".toList

/-- What a value is written as by one of the letters for texts. -/
def textForm (letter : Char) (v : Value) : List Char :=
  if letter = 's' then v.plain.toList
  else if letter = 'r' then v.literal.toList
  else asciiForm v.literal.toList

/-- The whole part of a value. -/
def wholePart (letter : Char) (v : Value) : Except FillingError Int :=
  match v with
  | .int n => .ok n
  | .bool b => .ok (if b then 1 else 0)
  | .float x =>
    match SignedDyadic.ofFloat? x with
    | some d => .ok d.truncate
    | none => .error (if x.isNaN then .notANumber else .infinite)
  | v => .error (.notReal letter v.kind)

/-- The whole number that a value is. -/
def wholeValue (letter : Char) (v : Value) : Except FillingError Int :=
  match v with
  | .int n => .ok n
  | .bool b => .ok (if b then 1 else 0)
  | v => .error (.notWhole letter v.kind)

/-- The floating-point number of a value. -/
def floatValue (v : Value) : Except FillingError Float :=
  match v with
  | .float x => .ok x
  | .int n => ofInt n
  | .bool b => ofInt (if b then 1 else 0)
  | v => .error (.notFloat v.kind)
where
  /-- The floating-point number next to a whole number. -/
  ofInt (n : Int) : Except FillingError Float :=
    match Binary64.ofInt? n with
    | some x => .ok x
    | none => .error .tooLarge

/-- The character that a value is or is the number of. -/
def character (v : Value) : Except FillingError Char :=
  match v with
  | .char c => .ok c
  | .text s =>
    match s.toList with
    | [c] => .ok c
    | _ => .error .notCharacter
  | .int n => ofInt n
  | .bool b => ofInt (if b then 1 else 0)
  | _ => .error .notCharacter
where
  /-- The character of this number. -/
  ofInt (n : Int) : Except FillingError Char :=
    if 0 ≤ n ∧ n < 0x110000 then .ok (Char.ofNat n.toNat) else .error .noCharacter

/-- What a directive with this letter writes for a value. -/
def filling (flags : List Char) (precision : Option Nat) (letter : Char) (position : Nat)
    (v : Value) : Except FillingError Filling :=
  let full := flags.contains '#'
  let mark (cs : List Char) := if full then cs else []
  let lowered := letter.toLower
  let raise (f : Filling) : Filling :=
    if letter.isUpper then ⟨f.isNumber, f.sign, f.mark, f.body.map Char.toUpper⟩ else f
  if ['s', 'r', 'a'].contains letter then
    if v.isWritable then
      let cs := textForm letter v
      .ok (.ofText (match precision with | some n => cs.take n | none => cs))
    else .error .tooManyDigits
  else if ['d', 'i', 'u'].contains letter then do
    let n ← wholePart letter v
    if (Value.int n).isWritable then .ok (wholeNumber 10 [] precision n)
    else .error .tooManyDigits
  else if letter = 'o' then
    (wholeValue letter v).map (wholeNumber 8 (mark ['0', 'o']) precision)
  else if lowered = 'x' then
    (wholeValue letter v).map fun n ↦
      raise (wholeNumber 16 (mark ['0', letter]) precision n)
  else if letter = 'c' then (character v).map fun c ↦ .ofText [c]
  else if ['e', 'f', 'g'].contains lowered then
    let places := precision.getD 6
    let finite :=
      if lowered = 'e' then SignedDyadic.scientific full places
      else if lowered = 'f' then SignedDyadic.fixed full places
      else SignedDyadic.general full places
    (floatValue v).map fun x ↦ raise (floatNumber finite x)
  else .error (.unknownLetter letter position)

end Directive

/-! ## Filling a text -/

/-- The values for directives. -/
structure Supply where
  /-- What keys look into. -/
  source : Option Value
  /-- The value that no directive has taken yet. -/
  next : Option Value

namespace Supply

/-- One value. Keys can look into records, and into lists, where they find nothing. -/
def ofValue (v : Value) : Supply where
  source := match v with
    | .list _ | .record _ => some v
    | _ => none
  next := some v

/-- Goes on with what a key stands for. -/
def select (s : Supply) (key : List Char) : Except FillingError Supply :=
  match s.source with
  | none => .error .noFields
  | some (.record fields) =>
    match Fields.get? (String.ofList key) fields with
    | some v => .ok { s with next := some v }
    | none => .error (.missingKey (String.ofList key))
  | some _ => .error .list

/-- Takes the value. -/
def take (s : Supply) : Except FillingError (Value × Supply) :=
  match s.next with
  | some v => .ok (v, { s with next := none })
  | none => .error .tooFewValues

end Supply

/-- The bound of widths. -/
def widthBound : Nat := 9223372036854775808

/-- The bound of precisions. -/
def precisionBound : Nat := 2147483648

/-- A width or precision below a bound, and what is left to take. -/
def Extent.resolve (bound : Nat) (exceeded outOfRange : FillingError) (s : Supply) :
    Extent → Except FillingError (Nat × Supply)
  | .digits ds =>
    let n := Text.natOfDigits ds
    if n < bound then .ok (n, s) else .error exceeded
  | .next => do
    let (v, s) ← s.take
    match (Directive.wholeValue '*' v).toOption with
    | none => .error .extentNotWhole
    | some n =>
      if -(bound : Int) ≤ n ∧ n < bound then .ok (n.toNat, s) else .error outOfRange

/-- What a directive writes, and what is left to take. -/
def Directive.write (s : Supply) (d : Directive) (position : Nat) :
    Except FillingError (List Char × Supply) := do
  let s ← match d.key with
    | none => pure s
    | some key => s.select key
  let (width, s) ← match d.width with
    | none => pure (0, s)
    | some e => e.resolve widthBound .widthTooLarge .widthOutOfRange s
  let (precision, s) ← match d.precision with
    | none => pure (none, s)
    | some e => do
      let (n, s) ← e.resolve precisionBound .precisionTooLarge .precisionOutOfRange s
      pure (some n, s)
  match d.letter with
  | none => .error .unfinished
  | some letter =>
    let (v, s) ← s.take
    let f ← Directive.filling d.flags precision letter position v
    return (f.brought d.flags width, s)

/-- Fills the pieces of a text of `size` characters. -/
def fillPieces (size : Nat) (s : Supply) : List DirectivePiece → Except FillingError (List Char)
  | [] => if s.source.isNone && s.next.isSome then .error .tooManyValues else .ok []
  | .char c :: ps => (fillPieces size s ps).map (c :: ·)
  | .directive d left :: ps => do
    let (cs, s) ← d.write s (size - left - 1)
    return cs ++ (← fillPieces size s ps)
  | .unclosedKey :: _ => .error (if s.source.isNone then .noFields else .unclosedKey)

/-- A text with its directives filled. -/
def fill (text : String) (v : Value) : Except FillingError String :=
  let cs := text.toList
  (fillPieces cs.length (.ofValue v) (directivePieces cs)).map String.ofList

end LineCommands
