import HitListing.Number.Numeral
import HitListing.Text.LowerCase
import HitListing.Fault

/-!
# Styles

A console text can ask for a style by naming it: attributes such as `bold`, a
colour, another colour after `on`, and the target of a link after `link`.  Several
names can mean one style, and `Style.normal` gives the one that stands for them
all.  A name without a meaning stands for itself.
-/

namespace HitListing.Console

/-- The attributes in the order in which a style lists them, each with its names. -/
def attributeNames : List (List String) :=
  [
    ["bold", "b"], ["dim", "d"], ["italic", "i"], ["underline", "u"], ["blink"], ["blink2"],
    ["reverse", "r"], ["conceal", "c"], ["strike", "s"], ["underline2", "uu"], ["frame"],
    ["encircle"], ["overline", "o"]
  ]

/-- The colours that have names. -/
def colourNames : List String :=
  [
    "default", "black", "red", "green", "yellow", "blue", "magenta", "cyan", "white",
    "bright_black", "bright_red", "bright_green", "bright_yellow", "bright_blue", "bright_magenta",
    "bright_cyan", "bright_white", "grey0", "gray0", "navy_blue", "dark_blue", "blue3", "blue1",
    "dark_green", "deep_sky_blue4", "dodger_blue3", "dodger_blue2", "green4", "spring_green4",
    "turquoise4", "deep_sky_blue3", "dodger_blue1", "green3", "spring_green3", "dark_cyan",
    "light_sea_green", "deep_sky_blue2", "deep_sky_blue1", "spring_green2", "cyan3",
    "dark_turquoise", "turquoise2", "green1", "spring_green1", "medium_spring_green", "cyan2",
    "cyan1", "dark_red", "deep_pink4", "purple4", "purple3", "blue_violet", "orange4", "grey37",
    "gray37", "medium_purple4", "slate_blue3", "royal_blue1", "chartreuse4", "dark_sea_green4",
    "pale_turquoise4", "steel_blue", "steel_blue3", "cornflower_blue", "chartreuse3", "cadet_blue",
    "sky_blue3", "steel_blue1", "pale_green3", "sea_green3", "aquamarine3", "medium_turquoise",
    "chartreuse2", "sea_green2", "sea_green1", "aquamarine1", "dark_slate_gray2", "dark_magenta",
    "dark_violet", "purple", "light_pink4", "plum4", "medium_purple3", "slate_blue1", "yellow4",
    "wheat4", "grey53", "gray53", "light_slate_grey", "light_slate_gray", "medium_purple",
    "light_slate_blue", "dark_olive_green3", "dark_sea_green", "light_sky_blue3", "sky_blue2",
    "dark_sea_green3", "dark_slate_gray3", "sky_blue1", "chartreuse1", "light_green", "pale_green1",
    "dark_slate_gray1", "red3", "medium_violet_red", "magenta3", "dark_orange3", "indian_red",
    "hot_pink3", "medium_orchid3", "medium_orchid", "medium_purple2", "dark_goldenrod",
    "light_salmon3", "rosy_brown", "grey63", "gray63", "medium_purple1", "gold3", "dark_khaki",
    "navajo_white3", "grey69", "gray69", "light_steel_blue3", "light_steel_blue", "yellow3",
    "dark_sea_green2", "light_cyan3", "light_sky_blue1", "green_yellow", "dark_olive_green2",
    "dark_sea_green1", "pale_turquoise1", "deep_pink3", "magenta2", "hot_pink2", "orchid",
    "medium_orchid1", "orange3", "light_pink3", "pink3", "plum3", "violet", "light_goldenrod3",
    "tan", "misty_rose3", "thistle3", "plum2", "khaki3", "light_goldenrod2", "light_yellow3",
    "grey84", "gray84", "light_steel_blue1", "yellow2", "dark_olive_green1", "honeydew2",
    "light_cyan1", "red1", "deep_pink2", "deep_pink1", "magenta1", "orange_red1", "indian_red1",
    "hot_pink", "dark_orange", "salmon1", "light_coral", "pale_violet_red1", "orchid2", "orchid1",
    "orange1", "sandy_brown", "light_salmon1", "light_pink1", "pink1", "plum1", "gold1",
    "navajo_white1", "misty_rose1", "thistle1", "yellow1", "light_goldenrod1", "khaki1", "wheat1",
    "cornsilk1", "grey100", "gray100", "grey3", "gray3", "grey7", "gray7", "grey11", "gray11",
    "grey15", "gray15", "grey19", "gray19", "grey23", "gray23", "grey27", "gray27", "grey30",
    "gray30", "grey35", "gray35", "grey39", "gray39", "grey42", "gray42", "grey46", "gray46",
    "grey50", "gray50", "grey54", "gray54", "grey58", "gray58", "grey62", "gray62", "grey66",
    "gray66", "grey70", "gray70", "grey74", "gray74", "grey78", "gray78", "grey82", "gray82",
    "grey85", "gray85", "grey89", "gray89", "grey93", "gray93"
  ]

/-- What a style asks for. -/
structure Style where
  /-- Attributes, each with whether it is on; the last choice comes first. -/
  attributes : List (Text × Bool)
  colour : Option Text
  background : Option Text
  link : Option Text
deriving DecidableEq, Repr

/-! ## Colours -/

/-- The text between what a text begins with and what it ends with. -/
def between? (first last t : Text) : Option Text :=
  if first.isPrefixOf t && last.isSuffixOf t && first.length + last.length ≤ t.length then
    some ((t.drop first.length).take (t.length - first.length - last.length))
  else none

/-- Whether a character is a small hexadecimal digit. -/
def isSmallHexDigit (c : Char) : Bool :=
  c.isDigit || ('a' ≤ c && c ≤ 'f')

/-- Whether a number can be the part of a colour. -/
def isColourPart (n : Nat) : Bool :=
  n < 256

/-- Whether a text is the number of a colour. -/
def isColourNumber (t : Text) : Bool :=
  !t.isEmpty && t.length ≤ 3 && t.all Char.isDigit && (readNat? t).any isColourPart

/-- Whether a text gives the three parts of a colour.  A part without digits makes
no sense where a number has to stand. -/
def isColourParts (t : Text) : Except Fault Bool :=
  if t.isEmpty || !t.all fun c => isDecimal c || c = ',' then return false
  else
    match Text.splitAtChar ',' t with
    | [red, green, blue] => do
      let parts ← [red, green, blue].mapM fun part =>
        match readNat? part with
        | some n => return n
        | none => throw Fault.badValue
      return parts.all isColourPart
    | _ => return false

/-- Whether a word without capitals names a colour. -/
def isColour (word : Text) : Except Fault Bool :=
  if colourNames.any (·.toList = word) then return true
  else
    match between? "#" [] word, between? "color(" ")" word, between? "rgb(" ")" word with
    | some digits, _, _ => return digits.length = 6 && digits.all isSmallHexDigit
    | _, some number, _ => return isColourNumber number
    | _, _, some parts => isColourParts parts
    | _, _, _ => return false

/-! ## Names of styles -/

/-- The full name of an attribute. -/
def attribute? (name : Text) : Option Text :=
  (attributeNames.find? fun names => names.any (·.toList = name)).bind fun names =>
    names.head?.map String.toList

namespace Style

/-- The style that asks for nothing. -/
def bare : Style := ⟨[], none, none, none⟩

/-- A style after the words of its name, if they make sense. -/
def choose (s : Style) : List Text → Except Fault (Option Style)
  | [] => return some s
  | word :: rest =>
    if lower word = "on".toList then
      match rest with
      | [] => return none
      | colour :: rest => do
        if ← isColour (lower colour) then choose { s with background := some (lower colour) } rest
        else return none
    else if lower word = "not".toList then
      match rest with
      | [] => return none
      | name :: rest =>
        match attribute? name with
        | some a => choose { s with attributes := (a, false) :: s.attributes } rest
        | none => return none
    else if lower word = "link".toList then
      match rest with
      | [] => return none
      | target :: rest => choose { s with link := some target } rest
    else
      match attribute? (lower word) with
      | some a => choose { s with attributes := (a, true) :: s.attributes } rest
      | none => do
        if ← isColour (lower word) then choose { s with colour := some (lower word) } rest
        else return none

/-- The style of a name, if it has a meaning. -/
def named? (name : Text) : Except Fault (Option Style) :=
  if Text.trim isBlank name = "none".toList then return some bare
  else bare.choose name.unblanked

/-- The words for an attribute that a style has or excludes. -/
def attributeWords (s : Style) (name : Text) : List Text :=
  match s.attributes.lookup name with
  | some true => [name]
  | some false => ["not", name]
  | none => []

/-- The words for a style, in their fixed order. -/
def words (s : Style) : List Text :=
  attributeNames.flatMap (fun names => s.attributeWords (names.headD "").toList) ++
    s.colour.toList ++ (s.background.map fun c => ["on".toList, c]).getD [] ++
    (s.link.map fun target => ["link".toList, target]).getD []

/-- The name that stands for all names of one style. -/
def normal (name : Text) : Except Fault Text := do
  match ← named? name with
  | some s => return if s.words.isEmpty then "none" else Text.join [' '] s.words
  | none => return lower (Text.trim isBlank name)

end Style

end HitListing.Console
