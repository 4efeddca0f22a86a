/-!
# Numerals

The written forms of numbers: whole numbers with an optional sign, and decimals with an optional
point and exponent. Only the ten plain digits count as digits. A whole number of more than
`maxDigits` digits is not read at all, leading zeros included.
-/

namespace LineCommands.Text

/-- The greatest number of digits of a whole number that is read. -/
def maxDigits : Nat := 4300

/-- The sign at the front, as whether it is minus, and what follows it. -/
def splitSign : List Char → Bool × List Char
  | '-' :: cs => (true, cs)
  | '+' :: cs => (false, cs)
  | cs => (false, cs)

/-- The text is a digit and nothing but digits follow. -/
def isDigits (cs : List Char) : Bool := !cs.isEmpty && cs.all Char.isDigit

/-- The number that digits stand for. -/
def natOfDigits (ds : List Char) : Nat := Nat.ofDigitChars 10 ds 0

/-- A magnitude with its sign. -/
def withSign (negative : Bool) (n : Nat) : Int := if negative then -n else n

/-! ## Whole numbers -/

/-- The text is a whole number, of any length. -/
def isIntNumeral (cs : List Char) : Bool := isDigits (splitSign cs).2

/-- The whole number that the text stands for, if it is one and not too long. -/
def readInt? (cs : List Char) : Option Int :=
  let (negative, ds) := splitSign cs
  if isDigits ds && ds.length ≤ maxDigits then some (withSign negative (natOfDigits ds)) else none

/-! ## Decimals -/

/-- The decimal `digits · 10 ^ exponent`, as it was written: the digits are a text. -/
structure DecimalNumeral where
  /-- All digits before the exponent, without the point. -/
  digits : List Char
  /-- The exponent, less the number of digits after the point. -/
  exponent : Int

/-- What follows the digits of a decimal: nothing, or the mark of an exponent and a whole number. -/
def readExponent? : List Char → Option Int
  | [] => some 0
  | c :: cs =>
    let (negative, ds) := splitSign cs
    if (c == 'e' || c == 'E') && isDigits ds then some (withSign negative (natOfDigits ds))
    else none

/-- A decimal without a sign: digits, a point among, before or after them, and an exponent, of which
the point and the exponent may be missing. -/
def readDecimal? (cs : List Char) : Option DecimalNumeral :=
  let whole := cs.takeWhile Char.isDigit
  let rest := cs.dropWhile Char.isDigit
  let (fraction, rest) := match rest with
    | '.' :: r => (r.takeWhile Char.isDigit, r.dropWhile Char.isDigit)
    | r => ([], r)
  if whole.isEmpty && fraction.isEmpty then none
  else (readExponent? rest).map fun e ↦ ⟨whole ++ fraction, e - fraction.length⟩

end LineCommands.Text
