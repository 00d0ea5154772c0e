import UrlSigning.Entries
import UrlSigning.Text.Blank
import UrlSigning.Text.Case
import UrlSigning.Text.Digit

/-!
# Styles

A style is asked for in words: attributes, a colour, a colour behind the text, and a link. Two ways
of asking for the same style have the same canonical name, by which the end of a styled stretch
finds its beginning. Words that ask for no style are their own name.
-/

namespace UrlSigning.Console

open Text

/-- The attributes, in the order of a canonical name. -/
def attributeNames : List String :=
  ["bold", "dim", "italic", "underline", "blink", "blink2", "reverse", "conceal", "strike",
    "underline2", "frame", "encircle", "overline"]

/-- The short names of attributes. -/
def shortNames : List (String × String) :=
  [("b", "bold"), ("d", "dim"), ("i", "italic"), ("u", "underline"), ("r", "reverse"),
    ("c", "conceal"), ("s", "strike"), ("uu", "underline2"), ("o", "overline")]

/-- The names of colours. -/
def colourNames : List String :=
    ["black", "red", "green", "yellow", "blue", "magenta", "cyan", "white", "bright_black",
      "bright_red", "bright_green", "bright_yellow", "bright_blue", "bright_magenta",
      "bright_cyan", "bright_white", "grey0", "gray0", "navy_blue", "dark_blue", "blue3", "blue1",
      "dark_green", "deep_sky_blue4", "dodger_blue3", "dodger_blue2", "green4", "spring_green4",
      "turquoise4", "deep_sky_blue3", "dodger_blue1", "green3", "spring_green3", "dark_cyan",
      "light_sea_green", "deep_sky_blue2", "deep_sky_blue1", "spring_green2", "cyan3",
      "dark_turquoise", "turquoise2", "green1", "spring_green1", "medium_spring_green", "cyan2",
      "cyan1", "dark_red", "deep_pink4", "purple4", "purple3", "blue_violet", "orange4", "grey37",
      "gray37", "medium_purple4", "slate_blue3", "royal_blue1", "chartreuse4", "dark_sea_green4",
      "pale_turquoise4", "steel_blue", "steel_blue3", "cornflower_blue", "chartreuse3",
      "cadet_blue", "sky_blue3", "steel_blue1", "pale_green3", "sea_green3", "aquamarine3",
      "medium_turquoise", "chartreuse2", "sea_green2", "sea_green1", "aquamarine1",
      "dark_slate_gray2", "dark_magenta", "dark_violet", "purple", "light_pink4", "plum4",
      "medium_purple3", "slate_blue1", "yellow4", "wheat4", "grey53", "gray53",
      "light_slate_grey", "light_slate_gray", "medium_purple", "light_slate_blue",
      "dark_olive_green3", "dark_sea_green", "light_sky_blue3", "sky_blue2", "dark_sea_green3",
      "dark_slate_gray3", "sky_blue1", "chartreuse1", "light_green", "pale_green1",
      "dark_slate_gray1", "red3", "medium_violet_red", "magenta3", "dark_orange3", "indian_red",
      "hot_pink3", "medium_orchid3", "medium_orchid", "medium_purple2", "dark_goldenrod",
      "light_salmon3", "rosy_brown", "grey63", "gray63", "medium_purple1", "gold3", "dark_khaki",
      "navajo_white3", "grey69", "gray69", "light_steel_blue3", "light_steel_blue", "yellow3",
      "dark_sea_green2", "light_cyan3", "light_sky_blue1", "green_yellow", "dark_olive_green2",
      "dark_sea_green1", "pale_turquoise1", "deep_pink3", "magenta2", "hot_pink2", "orchid",
      "medium_orchid1", "orange3", "light_pink3", "pink3", "plum3", "violet", "light_goldenrod3",
      "tan", "misty_rose3", "thistle3", "plum2", "khaki3", "light_goldenrod2", "light_yellow3",
      "grey84", "gray84", "light_steel_blue1", "yellow2", "dark_olive_green1", "honeydew2",
      "light_cyan1", "red1", "deep_pink2", "deep_pink1", "magenta1", "orange_red1", "indian_red1",
      "hot_pink", "dark_orange", "salmon1", "light_coral", "pale_violet_red1", "orchid2",
      "orchid1", "orange1", "sandy_brown", "light_salmon1", "light_pink1", "pink1", "plum1",
      "gold1", "navajo_white1", "misty_rose1", "thistle1", "yellow1", "light_goldenrod1",
      "khaki1", "wheat1", "cornsilk1", "grey100", "gray100", "grey3", "gray3", "grey7", "gray7",
      "grey11", "gray11", "grey15", "gray15", "grey19", "gray19", "grey23", "gray23", "grey27",
      "gray27", "grey30", "gray30", "grey35", "gray35", "grey39", "gray39", "grey42", "gray42",
      "grey46", "gray46", "grey50", "gray50", "grey54", "gray54", "grey58", "gray58", "grey62",
      "gray62", "grey66", "gray66", "grey70", "gray70", "grey74", "gray74", "grey78", "gray78",
      "grey82", "gray82", "grey85", "gray85", "grey89", "gray89", "grey93", "gray93"]

/-- The attribute that a word names. -/
def attribute? (word : String) : Option String :=
  if attributeNames.contains word then some word else shortNames.lookup word

/-- Whether the text is a number from 0 to 255. -/
def isShade (cs : List Char) : Bool :=
  !cs.isEmpty &&
    match cs.mapM digitValue? with
    | some digits => digits.foldl (fun n d => 10 * n + d) 0 ≤ 255
    | none => false

/-- The text between a name with a bracket and the closing bracket. -/
def inBrackets? (name : String) (cs : List Char) : Option (List Char) :=
  let opening := name.toList ++ ['(']
  if opening.isPrefixOf cs && cs.getLast? == some ')' && opening.length < cs.length then
    some (cs.drop opening.length).dropLast
  else none

/-- Whether a word in lower case names a colour: by name, by six hexadecimal digits, by its number,
or by three shades. -/
def isColour (word : String) : Bool :=
  let cs := word.toList
  let isHexDigit (c : Char) : Bool := ('0' ≤ c && c ≤ '9') || ('a' ≤ c && c ≤ 'f')
  let isSharp := cs.head? == some '#' && cs.length == 7 && (cs.drop 1).all isHexDigit
  let isNumber := match inBrackets? "color" cs with
    | some n => n.length ≤ 3 && n.all Char.isDigit && isShade n
    | none => false
  let isMixed := match inBrackets? "rgb" cs with
    | some inner =>
      match inner.splitOn ',' with
      | [r, g, b] => isShade r && isShade g && isShade b
      | _ => false
    | none => false
  word == "default" || colourNames.contains word || isSharp || isNumber || isMixed

/-- A style: which attributes are switched on or off, and the rest of what was asked for. -/
structure Style where
  attributes : Entries String Bool := []
  colour : Option String := none
  background : Option String := none
  link : Option String := none
deriving DecidableEq, Repr

namespace Style

/-- Reads on in the words of a style; nothing if a word asks for nothing. -/
def readWords (style : Style) : List String → Option Style
  | [] => some style
  | first :: rest =>
    let word := lower first
    match word, rest with
    | "on", [] | "not", [] | "link", [] => none
    | "on", colour :: rest =>
      if isColour (lower colour) then
        readWords { style with background := some (lower colour) } rest
      else none
    | "not", name :: rest =>
      match attribute? name with
      | some a => readWords { style with attributes := style.attributes.put a false } rest
      | none => none
    | "link", target :: rest => readWords { style with link := some target } rest
    | word, rest =>
      match attribute? word with
      | some a => readWords { style with attributes := style.attributes.put a true } rest
      | none =>
        if isColour word then readWords { style with colour := some word } rest else none

/-- The words of a style in their canonical order. -/
def canonicalWords (style : Style) : List String :=
  let attributes := attributeNames.filterMap fun a =>
    (style.attributes.get? a).map fun isOn => if isOn then a else "not " ++ a
  attributes ++ style.colour.toList ++ (style.background.toList.flatMap fun c => ["on", c]) ++
    (style.link.toList.flatMap fun l => ["link", l])

/-- The name of the style that asks for nothing. -/
def plainName : String := "none"

/-- The canonical name of the style that a text asks for. -/
def canonicalName (text : String) : String :=
  let trimmed := trim text
  if trimmed.isEmpty || trimmed == plainName then plainName
  else
    match readWords {} (words text) with
    | some style => " ".intercalate style.canonicalWords
    | none => lower trimmed

end Style

end UrlSigning.Console
