import LineCommands.Text.Printable

/-!
# Quoted text

Messages show a text in quotes so that it can be told from the words around it. The quotes are
single, unless the text holds a single quote and no double one. Inside, the backslash, the enclosing
quote and the characters that are not printable are escaped, the latter by the shortest of the
three hexadecimal forms that holds their code point.
-/

namespace LineCommands.Text

/-- The single quote. -/
def singleQuote : Char := '\x27'

/-- The double quote. -/
def doubleQuote : Char := '\x22'

/-- The quote that encloses a text. -/
def enclosingQuote (cs : List Char) : Char :=
  if cs.contains singleQuote && !cs.contains doubleQuote then doubleQuote else singleQuote

/-- The last `width` hexadecimal digits of `n`, filled up with zeros on the left. -/
def hexDigits (width n : Nat) : List Char :=
  let ds := Nat.toDigits 16 n
  List.replicate (width - ds.length) '0' ++ ds

/-- A character as it stands between the quotes `q`. -/
def escapeChar (q c : Char) : List Char :=
  if c == '\\' || c == q then ['\\', c]
  else if c == '\n' then ['\\', 'n']
  else if c == '\r' then ['\\', 'r']
  else if c == '\t' then ['\\', 't']
  else if isPrintable c then [c]
  else if c.toNat < 0x100 then '\\' :: 'x' :: hexDigits 2 c.toNat
  else if c.toNat < 0x10000 then '\\' :: 'u' :: hexDigits 4 c.toNat
  else '\\' :: 'U' :: hexDigits 8 c.toNat

/-- A text in quotes. -/
def quote (cs : List Char) : List Char :=
  let q := enclosingQuote cs
  q :: cs.flatMap (escapeChar q) ++ [q]

/-- A string in quotes. -/
def quoted (s : String) : String := String.ofList (quote s.toList)

end LineCommands.Text
