import TemplateAssist.Number.Limit
import TemplateAssist.Text.Blank
import TemplateAssist.Text.DecimalDigit
import TemplateAssist.Text.LowerCase

/-!
# Styles

A style is described by words: attributes such as `bold`, `not` before an attribute that is off, a
colour, `on` before a colour of the background, and `link` before the target of a link.  Words can
stand in any order, and of those that say the same thing the last one counts.

`Style.ofWords?` reads a description, and `Style.write` gives its normal form, by which two
descriptions of one style are known to be the same (`styleName?`).
-/

set_option autoImplicit false

namespace TemplateAssist

/-- What a style can have, in the order in which it is written. -/
inductive Attribute where
  | bold | dim | italic | underline | blink | blink2 | reverse | conceal | strike | underline2
  | frame | encircle | overline
  deriving DecidableEq, Repr

namespace Attribute

/-- All attributes. -/
def all : List Attribute :=
  [bold, dim, italic, underline, blink, blink2, reverse, conceal, strike, underline2, frame,
    encircle, overline]

/-- The name of an attribute. -/
def name : Attribute → String
  | bold => "bold"
  | dim => "dim"
  | italic => "italic"
  | underline => "underline"
  | blink => "blink"
  | blink2 => "blink2"
  | reverse => "reverse"
  | conceal => "conceal"
  | strike => "strike"
  | underline2 => "underline2"
  | frame => "frame"
  | encircle => "encircle"
  | overline => "overline"

/-- The short name that some attributes have. -/
def shortName? : Attribute → Option String
  | bold => some "b"
  | dim => some "d"
  | italic => some "i"
  | underline => some "u"
  | reverse => some "r"
  | conceal => some "c"
  | strike => some "s"
  | underline2 => some "uu"
  | overline => some "o"
  | blink | blink2 | frame | encircle => none

/-- The attribute that a word names. -/
def ofWord? (word : Text) : Option Attribute :=
  all.find? fun a ↦ a.name.toList = word || a.shortName?.any (·.toList = word)

end Attribute

/-- Why words describe no style. -/
inductive StyleFault where
  /-- There is a word that is neither an attribute nor a colour. -/
  | unknownWord
  /-- A part of a colour is no number. -/
  | noNumber
  deriving DecidableEq, Repr

/-! ## Colours -/

/-- The colours with names, some in each line. -/
def colourTable : List String :=
  ["aquamarine1 aquamarine3 black blue blue1 blue3 blue_violet bright_black bright_blue",
   "bright_cyan bright_green bright_magenta bright_red bright_white bright_yellow cadet_blue",
   "chartreuse1 chartreuse2 chartreuse3 chartreuse4 cornflower_blue cornsilk1 cyan cyan1 cyan2",
   "cyan3 dark_blue dark_cyan dark_goldenrod dark_green dark_khaki dark_magenta",
   "dark_olive_green1 dark_olive_green2 dark_olive_green3 dark_orange dark_orange3 dark_red",
   "dark_sea_green dark_sea_green1 dark_sea_green2 dark_sea_green3 dark_sea_green4",
   "dark_slate_gray1 dark_slate_gray2 dark_slate_gray3 dark_turquoise dark_violet deep_pink1",
   "deep_pink2 deep_pink3 deep_pink4 deep_sky_blue1 deep_sky_blue2 deep_sky_blue3 deep_sky_blue4",
   "dodger_blue1 dodger_blue2 dodger_blue3 gold1 gold3 gray0 gray100 gray11 gray15 gray19 gray23",
   "gray27 gray3 gray30 gray35 gray37 gray39 gray42 gray46 gray50 gray53 gray54 gray58 gray62",
   "gray63 gray66 gray69 gray7 gray70 gray74 gray78 gray82 gray84 gray85 gray89 gray93 green",
   "green1 green3 green4 green_yellow grey0 grey100 grey11 grey15 grey19 grey23 grey27 grey3",
   "grey30 grey35 grey37 grey39 grey42 grey46 grey50 grey53 grey54 grey58 grey62 grey63 grey66",
   "grey69 grey7 grey70 grey74 grey78 grey82 grey84 grey85 grey89 grey93 honeydew2 hot_pink",
   "hot_pink2 hot_pink3 indian_red indian_red1 khaki1 khaki3 light_coral light_cyan1 light_cyan3",
   "light_goldenrod1 light_goldenrod2 light_goldenrod3 light_green light_pink1 light_pink3",
   "light_pink4 light_salmon1 light_salmon3 light_sea_green light_sky_blue1 light_sky_blue3",
   "light_slate_blue light_slate_gray light_slate_grey light_steel_blue light_steel_blue1",
   "light_steel_blue3 light_yellow3 magenta magenta1 magenta2 magenta3 medium_orchid",
   "medium_orchid1 medium_orchid3 medium_purple medium_purple1 medium_purple2 medium_purple3",
   "medium_purple4 medium_spring_green medium_turquoise medium_violet_red misty_rose1",
   "misty_rose3 navajo_white1 navajo_white3 navy_blue orange1 orange3 orange4 orange_red1 orchid",
   "orchid1 orchid2 pale_green1 pale_green3 pale_turquoise1 pale_turquoise4 pale_violet_red1",
   "pink1 pink3 plum1 plum2 plum3 plum4 purple purple3 purple4 red red1 red3 rosy_brown",
   "royal_blue1 salmon1 sandy_brown sea_green1 sea_green2 sea_green3 sky_blue1 sky_blue2",
   "sky_blue3 slate_blue1 slate_blue3 spring_green1 spring_green2 spring_green3 spring_green4",
   "steel_blue steel_blue1 steel_blue3 tan thistle1 thistle3 turquoise2 turquoise4 violet wheat1",
   "wheat4 white yellow yellow1 yellow2 yellow3 yellow4"]

/-- The names of colours. -/
def colourNames : List Text :=
  "default".toList :: colourTable.flatMap fun line ↦ List.splitOn ' ' line.toList

/-- What stands in the brackets, if a text is the given word with brackets after it. -/
def bracketed? (word : String) (t : Text) : Option Text :=
  let start := (word ++ "(").toList
  if start.isPrefixOf t && start.length < t.length && t.getLast? == some ')' then
    some (t.drop start.length).dropLast
  else none

/-- The number that a part of a colour writes. -/
def colourPart? (t : Text) : Option Nat :=
  if t.isEmpty || maxIntegerDigits < t.length then none else some t.decimalValue

/-- Checks the parts of a colour, which are three numbers up to 255. -/
def checkColourParts (parts : List Text) : Except StyleFault Unit :=
  if parts.length ≠ 3 then .error .unknownWord
  else
    match parts.mapM colourPart? with
    | none => .error .noNumber
    | some numbers => if numbers.all (· ≤ 255) then .ok () else .error .unknownWord

/-- Whether a text is six hexadecimal digits after a number sign. -/
def isHexColour : Text → Bool
  | '#' :: digits => digits.length == 6 && digits.all (isDigitIn 16)
  | _ => false

/-- Whether a text is the number of a colour of the palette. -/
def isPaletteNumber (t : Text) : Bool := isDigits t && t.length ≤ 3 && digitsValue t ≤ 255

/-- The colour that a word names: its name in small letters, if there is such a colour. -/
def colour? (word : Text) : Except StyleFault Text := do
  let name := word.lower
  if colourNames.contains name || isHexColour name
      || (bracketed? "color" name).any isPaletteNumber then return name
  match bracketed? "rgb" name with
  | none => throw .unknownWord
  | some parts =>
    if parts.isEmpty || !parts.all fun c ↦ isDecimalDigit c || c = ',' then throw .unknownWord
    checkColourParts (List.splitOn ',' parts)
    return name

/-! ## Descriptions -/

/-- A style of text.  Of the values of an attribute the first one counts. -/
structure Style where
  attributes : List (Attribute × Bool) := []
  colour : Option Text := none
  background : Option Text := none
  link : Option Text := none
  deriving DecidableEq, Repr

namespace Style

/-- The style with the attribute or the colour that a word names. -/
def readWord (s : Style) (word : Text) : Except StyleFault Style :=
  match Attribute.ofWord? word with
  | some a => .ok { s with attributes := (a, true) :: s.attributes }
  | none => do return { s with colour := some (← colour? word) }

/-- The style with what the remaining words of a description add. -/
def readWords (s : Style) : List Text → Except StyleFault Style
  | [] => .ok s
  | [word] => s.readWord word.lower
  | word :: next :: rest =>
    match String.ofList word.lower with
    | "on" => do readWords { s with background := some (← colour? next) } rest
    | "not" =>
      match Attribute.ofWord? next with
      | some a => readWords { s with attributes := (a, false) :: s.attributes } rest
      | none => .error .unknownWord
    | "link" => readWords { s with link := some next } rest
    | _ => do readWords (← s.readWord word.lower) (next :: rest)

/-- The style that a text describes. -/
def ofWords? (t : Text) : Except StyleFault Style :=
  if t.trim = "none".toList then .ok {}
  else readWords {} ((t.splitOnP isBlank).filter (!·.isEmpty))

/-- The description of a style in its normal form. -/
def write (s : Style) : Text :=
  let attributes := Attribute.all.filterMap fun a ↦
    (s.attributes.lookup a).map fun on ↦ ((if on then "" else "not ") ++ a.name).toList
  let words := attributes ++ s.colour.toList ++ s.background.toList.map ("on ".toList ++ ·)
    ++ s.link.toList.map ("link ".toList ++ ·)
  if words.isEmpty then "none".toList else [' '].intercalate words

end Style

/-- The name by which the start and the end of a style are matched: the normal form of the style,
or else just the text in small letters. -/
def styleName? (t : Text) : Except StyleFault Text :=
  match Style.ofWords? t with
  | .ok s => .ok s.write
  | .error .unknownWord => .ok t.trim.lower
  | .error .noNumber => .error .noNumber

end TemplateAssist
