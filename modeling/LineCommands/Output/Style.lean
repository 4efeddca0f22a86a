import LineCommands.Text.Blank
import LineCommands.Text.Digit
import LineCommands.Text.LowerCase

/-!
# Definitions of styles

A style is defined by words: attributes, each of which `not` in front of it turns off, a color, `on`
and a color for the background, and `link` and a target. A color is a name, `#` and six hexadecimal
digits, `color(n)`, or `rgb(r,g,b)`.

Nothing is shown of a style on a page without colors. What counts is which definitions are alike,
and so the library keeps only the normal form of a definition: attributes in a fixed order, then the
color, the background and the link. A text that defines no style is its own normal form, in lower
case.
-/

namespace LineCommands.Output

/-- The attributes of styles in their order. -/
def styleAttributes : List String :=
  ["bold", "dim", "italic", "underline", "blink", "blink2", "reverse", "conceal", "strike",
    "underline2", "frame", "encircle", "overline"]

/-- Other names of attributes. -/
def shortAttributes : List (String × String) :=
  [("d", "dim"), ("b", "bold"), ("i", "italic"), ("u", "underline"), ("r", "reverse"),
    ("c", "conceal"), ("s", "strike"), ("uu", "underline2"), ("o", "overline")]

/-- The attribute that a word names. -/
def styleAttribute? (word : String) : Option String :=
  if styleAttributes.contains word then some word
  else (shortAttributes.find? (·.1 == word)).map (·.2)

/-- The names of colors, with blanks between them. -/
def colorNames : String := "
  black red green yellow blue magenta cyan white bright_black bright_red bright_green
  bright_yellow bright_blue bright_magenta bright_cyan bright_white grey0 gray0 navy_blue
  dark_blue blue3 blue1 dark_green deep_sky_blue4 dodger_blue3 dodger_blue2 green4 spring_green4
  turquoise4 deep_sky_blue3 dodger_blue1 green3 spring_green3 dark_cyan light_sea_green
  deep_sky_blue2 deep_sky_blue1 spring_green2 cyan3 dark_turquoise turquoise2 green1 spring_green1
  medium_spring_green cyan2 cyan1 dark_red deep_pink4 purple4 purple3 blue_violet orange4 grey37
  gray37 medium_purple4 slate_blue3 royal_blue1 chartreuse4 dark_sea_green4 pale_turquoise4
  steel_blue steel_blue3 cornflower_blue chartreuse3 cadet_blue sky_blue3 steel_blue1 pale_green3
  sea_green3 aquamarine3 medium_turquoise chartreuse2 sea_green2 sea_green1 aquamarine1
  dark_slate_gray2 dark_magenta dark_violet purple light_pink4 plum4 medium_purple3 slate_blue1
  yellow4 wheat4 grey53 gray53 light_slate_grey light_slate_gray medium_purple light_slate_blue
  dark_olive_green3 dark_sea_green light_sky_blue3 sky_blue2 dark_sea_green3 dark_slate_gray3
  sky_blue1 chartreuse1 light_green pale_green1 dark_slate_gray1 red3 medium_violet_red magenta3
  dark_orange3 indian_red hot_pink3 medium_orchid3 medium_orchid medium_purple2 dark_goldenrod
  light_salmon3 rosy_brown grey63 gray63 medium_purple1 gold3 dark_khaki navajo_white3 grey69
  gray69 light_steel_blue3 light_steel_blue yellow3 dark_sea_green2 light_cyan3 light_sky_blue1
  green_yellow dark_olive_green2 dark_sea_green1 pale_turquoise1 deep_pink3 magenta2 hot_pink2
  orchid medium_orchid1 orange3 light_pink3 pink3 plum3 violet light_goldenrod3 tan misty_rose3
  thistle3 plum2 khaki3 light_goldenrod2 light_yellow3 grey84 gray84 light_steel_blue1 yellow2
  dark_olive_green1 honeydew2 light_cyan1 red1 deep_pink2 deep_pink1 magenta1 orange_red1
  indian_red1 hot_pink dark_orange salmon1 light_coral pale_violet_red1 orchid2 orchid1 orange1
  sandy_brown light_salmon1 light_pink1 pink1 plum1 gold1 navajo_white1 misty_rose1 thistle1
  yellow1 light_goldenrod1 khaki1 wheat1 cornsilk1 grey100 gray100 grey3 gray3 grey7 gray7 grey11
  gray11 grey15 gray15 grey19 gray19 grey23 gray23 grey27 gray27 grey30 gray30 grey35 gray35
  grey39 gray39 grey42 gray42 grey46 gray46 grey50 gray50 grey54 gray54 grey58 gray58 grey62
  gray62 grey66 gray66 grey70 gray70 grey74 gray74 grey78 gray78 grey82 gray82 grey85 gray85
  grey89 gray89 grey93 gray93"

/-- What a text that is taken for the definition of a style can be instead. -/
inductive StyleError where
  /-- No definition. -/
  | malformed
  /-- The color `rgb(…)` with a component that is missing. -/
  | missingComponent
deriving DecidableEq, Repr

/-! ## Colors -/

/-- What stands between a front and a closing parenthesis, if a text has this form. -/
def argumentOf? (front text : List Char) : Option (List Char) :=
  if front.isPrefixOf text && text.getLast? == some ')' then
    some ((text.drop front.length).dropLast)
  else none

/-- A color given by its number. -/
def isNumberedColor (ds : List Char) : Bool :=
  1 ≤ ds.length && ds.length ≤ 3 && ds.all Char.isDigit && Text.decimalNumber ds ≤ 255

/-- A color given by its components, which may be written in the digits of any script. -/
def checkComponents (text : List Char) : Except StyleError Unit :=
  let components := text.splitOn ','
  if text.all (fun c ↦ Text.isDecimalDigit c || c == ',') && components.length == 3 then
    if components.contains [] then .error .missingComponent
    else if components.all (Text.decimalNumber · ≤ 255) then .ok ()
    else .error .malformed
  else .error .malformed

/-- A color given by hexadecimal digits in lower case. -/
def isHexColor (text : List Char) : Bool :=
  match text with
  | '#' :: ds => ds.length == 6 && ds.all fun c ↦ c.isDigit || ('a' ≤ c && c ≤ 'f')
  | _ => false

/-- The color that a word names, in lower case. -/
def readColor (word : String) : Except StyleError String :=
  let name := Text.lower word
  let cs := name.toList
  if name == "default" || (Text.wordsOf colorNames).contains name || isHexColor cs then .ok name
  else
    match argumentOf? "color(".toList cs, argumentOf? "rgb(".toList cs with
    | some ds, _ => if isNumberedColor ds then .ok name else .error .malformed
    | none, some text => (checkComponents text).map fun _ ↦ name
    | none, none => .error .malformed

/-! ## Definitions -/

/-- A style. -/
structure StyleDefinition where
  /-- The attributes that are turned on or off. The last entry of an attribute counts. -/
  attributes : List (String × Bool)
  color : Option String
  background : Option String
  link : Option String

namespace StyleDefinition

/-- The style that changes nothing. -/
def none : StyleDefinition := ⟨[], .none, .none, .none⟩

/-- Adds what words define to a style. -/
def readWords (s : StyleDefinition) : List String → Except StyleError StyleDefinition
  | [] => .ok s
  | word :: rest =>
    match Text.lower word, rest with
    | "on", color :: rest => do
      let color ← readColor color
      readWords { s with background := some color } rest
    | "not", word :: rest =>
      match styleAttribute? word with
      | some a => readWords { s with attributes := (a, false) :: s.attributes } rest
      | .none => .error .malformed
    | "link", target :: rest => readWords { s with link := some target } rest
    | lowered, rest =>
      match styleAttribute? lowered with
      | some a => readWords { s with attributes := (a, true) :: s.attributes } rest
      | .none => do
        let color ← readColor lowered
        readWords { s with color := some color } rest

/-- The normal form of a style. -/
def normalForm (s : StyleDefinition) : String :=
  let attributes := styleAttributes.filterMap fun a ↦
    (s.attributes.find? (·.1 == a)).map fun entry ↦ if entry.2 then a else "not " ++ a
  let words := attributes ++ s.color.toList ++ (s.background.map ("on " ++ ·)).toList
    ++ (s.link.map ("link " ++ ·)).toList
  if words.isEmpty then "none" else " ".intercalate words

end StyleDefinition

/-- The normal form of a text that may define a style. -/
def normalStyle (text : String) : Except StyleError String :=
  if Text.trimmed text == "none" then .ok "none"
  else
    match StyleDefinition.none.readWords (Text.wordsOf text) with
    | .ok s => .ok s.normalForm
    | .error .malformed => .ok (Text.lower (Text.trimmed text))
    | .error e => .error e

end LineCommands.Output
