import Workflow.Number.Reading
import Workflow.Text.Search

/-!
# Styles of shown texts

A style is asked for by words: attributes, a colour, a colour behind the text, and a link.
Different words may ask for the same style, so styles are compared after they are read.
-/

namespace Workflow

namespace Markup

/-- A style. -/
structure Style where
  /-- The attributes that are set or unset, in the order of their names. -/
  attributes : List (String × Bool)
  colour : Option String
  background : Option String
  link : Option String
  deriving Repr, DecidableEq

/-- What the words of a tag ask for: a style, or something of no meaning. -/
inductive StyleName where
  | known (s : Style)
  | unknown (words : List Char)
  deriving Repr, DecidableEq

/-- The words for attributes, and the attributes they stand for. -/
def attributeWords : List (String × String) :=
  [("dim", "dim"), ("d", "dim"), ("bold", "bold"), ("b", "bold"), ("italic", "italic"),
    ("i", "italic"), ("underline", "underline"), ("u", "underline"), ("blink", "blink"),
    ("blink2", "blink2"), ("reverse", "reverse"), ("r", "reverse"), ("conceal", "conceal"),
    ("c", "conceal"), ("strike", "strike"), ("s", "strike"), ("underline2", "underline2"),
    ("uu", "underline2"), ("frame", "frame"), ("encircle", "encircle"),
    ("overline", "overline"), ("o", "overline")]

/-- The names of colours. -/
def colourNames : List String :=
  ["black", "red", "green", "yellow", "blue", "magenta", "cyan", "white", "bright_black",
    "bright_red", "bright_green", "bright_yellow", "bright_blue", "bright_magenta", "bright_cyan",
    "bright_white", "grey0", "gray0", "navy_blue", "dark_blue", "blue3", "blue1", "dark_green",
    "deep_sky_blue4", "dodger_blue3", "dodger_blue2", "green4", "spring_green4", "turquoise4",
    "deep_sky_blue3", "dodger_blue1", "green3", "spring_green3", "dark_cyan", "light_sea_green",
    "deep_sky_blue2", "deep_sky_blue1", "spring_green2", "cyan3", "dark_turquoise", "turquoise2",
    "green1", "spring_green1", "medium_spring_green", "cyan2", "cyan1", "dark_red", "deep_pink4",
    "purple4", "purple3", "blue_violet", "orange4", "grey37", "gray37", "medium_purple4",
    "slate_blue3", "royal_blue1", "chartreuse4", "dark_sea_green4", "pale_turquoise4",
    "steel_blue", "steel_blue3", "cornflower_blue", "chartreuse3", "cadet_blue", "sky_blue3",
    "steel_blue1", "pale_green3", "sea_green3", "aquamarine3", "medium_turquoise", "chartreuse2",
    "sea_green2", "sea_green1", "aquamarine1", "dark_slate_gray2", "dark_magenta", "dark_violet",
    "purple", "light_pink4", "plum4", "medium_purple3", "slate_blue1", "yellow4", "wheat4",
    "grey53", "gray53", "light_slate_grey", "light_slate_gray", "medium_purple",
    "light_slate_blue", "dark_olive_green3", "dark_sea_green", "light_sky_blue3", "sky_blue2",
    "dark_sea_green3", "dark_slate_gray3", "sky_blue1", "chartreuse1", "light_green",
    "pale_green1", "dark_slate_gray1", "red3", "medium_violet_red", "magenta3", "dark_orange3",
    "indian_red", "hot_pink3", "medium_orchid3", "medium_orchid", "medium_purple2",
    "dark_goldenrod", "light_salmon3", "rosy_brown", "grey63", "gray63", "medium_purple1", "gold3",
    "dark_khaki", "navajo_white3", "grey69", "gray69", "light_steel_blue3", "light_steel_blue",
    "yellow3", "dark_sea_green2", "light_cyan3", "light_sky_blue1", "green_yellow",
    "dark_olive_green2", "dark_sea_green1", "pale_turquoise1", "deep_pink3", "magenta2",
    "hot_pink2", "orchid", "medium_orchid1", "orange3", "light_pink3", "pink3", "plum3", "violet",
    "light_goldenrod3", "tan", "misty_rose3", "thistle3", "plum2", "khaki3", "light_goldenrod2",
    "light_yellow3", "grey84", "gray84", "light_steel_blue1", "yellow2", "dark_olive_green1",
    "honeydew2", "light_cyan1", "red1", "deep_pink2", "deep_pink1", "magenta1", "orange_red1",
    "indian_red1", "hot_pink", "dark_orange", "salmon1", "light_coral", "pale_violet_red1",
    "orchid2", "orchid1", "orange1", "sandy_brown", "light_salmon1", "light_pink1", "pink1",
    "plum1", "gold1", "navajo_white1", "misty_rose1", "thistle1", "yellow1", "light_goldenrod1",
    "khaki1", "wheat1", "cornsilk1", "grey100", "gray100", "grey3", "gray3", "grey7", "gray7",
    "grey11", "gray11", "grey15", "gray15", "grey19", "gray19", "grey23", "gray23", "grey27",
    "gray27", "grey30", "gray30", "grey35", "gray35", "grey39", "gray39", "grey42", "gray42",
    "grey46", "gray46", "grey50", "gray50", "grey54", "gray54", "grey58", "gray58", "grey62",
    "gray62", "grey66", "gray66", "grey70", "gray70", "grey74", "gray74", "grey78", "gray78",
    "grey82", "gray82", "grey85", "gray85", "grey89", "gray89", "grey93", "gray93"]

/-- Whether a text is one to three digits. -/
def isColourNumber (cs : List Char) : Bool :=
  1 ≤ cs.length && cs.length ≤ 3 && cs.all Char.isDigit

/-- Whether a part of a colour is a number up to 255. -/
def isColourPart (cs : List Char) : Bool :=
  !cs.isEmpty && cs.all Char.isDigit && (Number.digitsValue? 10 cs).any fun n => n ≤ 255

/-- What stands between a beginning and a closing bracket. -/
def enclosed? (start : String) (cs : List Char) : Option (List Char) :=
  if start.toList.isPrefixOf cs && cs.getLast? == some ')' then some (cs.drop start.length).dropLast
  else none

/-- Whether a word in small letters is a colour: a name, six digits, a number or three parts. -/
def isColour (word : List Char) : Bool :=
  let name := String.ofList word
  name == "default" || colourNames.contains name
    || (match word with
      | '#' :: digits =>
          digits.length == 6 && digits.all fun c => c.isDigit || ('a' ≤ c && c ≤ 'f')
      | _ => false)
    || ((enclosed? "color(" word).any fun inner => isColourNumber inner && isColourPart inner)
    || ((enclosed? "rgb(" word).any fun inner =>
      let parts := Text.splitAll [','] inner.length inner
      parts.length == 3 && parts.all isColourPart)

/-- Set an attribute, which keeps the order of the names. -/
def Style.set (s : Style) (name : String) (on : Bool) : Style :=
  let others := s.attributes.filter (·.1 != name)
  let (before, after) := others.partition (·.1 < name)
  { s with attributes := before ++ (name, on) :: after }

/-- Read the words of a style on top of another one; `none` when a word has no meaning. -/
def Style.readWords (s : Style) : List (List Char) -> Option Style
  | [] => some s
  | word :: rest =>
      let lowered := Text.lower word
      match String.ofList lowered, rest with
      | "on", colour :: rest =>
          let colour := Text.lower colour
          if isColour colour then
            { s with background := some (String.ofList colour) }.readWords rest
          else none
      | "on", [] => none
      | "not", name :: rest => do
          let named <- attributeWords.lookup (String.ofList name)
          (s.set named false).readWords rest
      | "not", [] => none
      | "link", target :: rest => { s with link := some (String.ofList target) }.readWords rest
      | "link", [] => none
      | name, rest =>
          match attributeWords.lookup name with
          | some named => (s.set named true).readWords rest
          | none => if isColour lowered then { s with colour := some name }.readWords rest else none

/-- What the words of a tag ask for. -/
def StyleName.ofWords (cs : List Char) : StyleName :=
  let plain : Style := ⟨[], none, none, none⟩
  let cs := Text.trim Text.isBlank cs
  if String.ofList cs == "none" then .known plain
  else
    match plain.readWords (Text.words cs) with
    | some s => .known s
    | none => .unknown (Text.lower cs)

end Markup

end Workflow
