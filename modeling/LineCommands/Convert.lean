import LineCommands.Fault
import LineCommands.Text.Numeral
import LineCommands.Binary64.Rounding

/-!
# Converting tokens

A token becomes a value of a primitive type. Strings stand for themselves, characters are tokens of
length one, whole numbers must fit into 64 bits, and floating-point numbers are written as decimals
or as the words `inf`, `infinity` and `nan` in letters of either case. A decimal too large for its
type is no floating-point number; only the words stand for infinity.

One class of tokens passes the check of the form and still has no value: words in which an `i` is
written with a dotted capital or a dotless small letter, two letters that fold to `i` when case is
ignored. Such a token is not a fault of the kinds the interpreter reports, but a failure of its own.
-/

namespace LineCommands

/-- Why a token was not converted or a line not bound. -/
inductive Failure where
  /-- A fault that the interpreter reports. -/
  | fault (f : Fault)
  /-- A token in the form of a floating-point number that stands for none. -/
  | unreadableFloat (token : String)
deriving DecidableEq

/-- How a failure is told. -/
def Failure.message : Failure → String
  | fault f => f.message
  | unreadableFloat t => "could not convert string to float: " ++ Text.quoted t

/-! ## Whole numbers -/

/-- The first whole number above the signed 64-bit integers, `2 ^ 63`. -/
def int64Bound : Int := 0x8000000000000000

/-- The number is a signed 64-bit integer. -/
def isInt64 (n : Int) : Bool := -int64Bound ≤ n && n < int64Bound

/-- The 64-bit integer that a text stands for. -/
def readInt64? (cs : List Char) : Option Int := (Text.readInt? cs).filter isInt64

/-! ## Floating-point numbers -/

/-- What the text of a floating-point number says, its sign apart. -/
inductive FloatForm where
  | decimal (d : Text.DecimalNumeral)
  | infinity
  | notANumber
  /-- A word with a letter that only looks like an `i`. -/
  | lookalike

/-- A letter without its case; the dotted capital and the dotless small `i` fold to `i`. -/
def foldCase (c : Char) : Char :=
  if c == '\u0130' || c == '\u0131' then 'i' else c.toLower

/-- The text has a letter that only looks like an `i`. -/
def hasLookalike (cs : List Char) : Bool := cs.any fun c ↦ c == '\u0130' || c == '\u0131'

/-- The form of a floating-point number without its sign. -/
def readFloatForm? (cs : List Char) : Option FloatForm :=
  let word := cs.map foldCase
  if word = ['n', 'a', 'n'] then some .notANumber
  else if word = ['i', 'n', 'f'] ∨ word = ['i', 'n', 'f', 'i', 'n', 'i', 't', 'y'] then
    some (if hasLookalike cs then .lookalike else .infinity)
  else (Text.readDecimal? cs).map .decimal

/-- The value nearest to a decimal, unless it is infinite. -/
def finiteDecimal? (negative : Bool) (d : Text.DecimalNumeral) : Option Float :=
  let r := Binary64.decimalRatio (Text.natOfDigits d.digits) d.exponent
  if Binary64.overflowBound * r.2 ≤ r.1 then none else some (Binary64.ofRatio negative r.1 r.2)

/-- Infinity with a sign. -/
def signedInfinity (negative : Bool) : Float :=
  Binary64.ofRatio negative Binary64.overflowBound 1

/-! ## Conversion -/

/-- Converts a token to a floating-point number. -/
def convertFloat (token argument : String) : Except Failure Value :=
  let (negative, cs) := Text.splitSign token.toList
  let failed : Except Failure Value := .error (.fault (.notConvertible token .float argument))
  match readFloatForm? cs with
  | none => failed
  | some .lookalike => .error (.unreadableFloat token)
  | some .infinity => .ok (.float (signedInfinity negative))
  | some .notANumber => .ok (.float Binary64.notANumber)
  | some (.decimal d) =>
    match finiteDecimal? negative d with
    | some x => .ok (.float x)
    | none => failed

/-- Converts a token to a value of a type, for the argument of this name. -/
def convert (token : String) (type : Primitive) (argument : String) : Except Failure Value :=
  match type with
  | .string => .ok (.text token)
  | .int =>
    match readInt64? token.toList with
    | some n => .ok (.int n)
    | none => .error (.fault (.notConvertible token .int argument))
  | .float => convertFloat token argument
  | .char =>
    match token.toList with
    | [c] => .ok (.char c)
    | _ => .error (.fault (.notConvertible token .char argument))

end LineCommands
