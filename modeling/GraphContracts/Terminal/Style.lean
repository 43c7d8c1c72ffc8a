import GraphContracts.Failure
import GraphContracts.Text.Blank
import GraphContracts.Text.Digit
import GraphContracts.Text.LetterCase

namespace GraphContracts.Terminal

inductive Attribute where
  | bold
  | dim
  | italic
  | underline
  | blink
  | blink2
  | reverse
  | conceal
  | strike
  | underline2
  | frame
  | encircle
  | overline
  deriving DecidableEq, Repr

namespace Attribute

def all : List Attribute :=
  [.bold, .dim, .italic, .underline, .blink, .blink2, .reverse, .conceal, .strike, .underline2,
    .frame, .encircle, .overline]

def name : Attribute → String
  | .bold => "bold"
  | .dim => "dim"
  | .italic => "italic"
  | .underline => "underline"
  | .blink => "blink"
  | .blink2 => "blink2"
  | .reverse => "reverse"
  | .conceal => "conceal"
  | .strike => "strike"
  | .underline2 => "underline2"
  | .frame => "frame"
  | .encircle => "encircle"
  | .overline => "overline"

def shortName? : Attribute → Option String
  | .bold => some "b"
  | .dim => some "d"
  | .italic => some "i"
  | .underline => some "u"
  | .reverse => some "r"
  | .conceal => some "c"
  | .strike => some "s"
  | .underline2 => some "uu"
  | .overline => some "o"
  | _ => none

def ofWord? (word : String) : Option Attribute :=
  all.find? fun a => a.name = word || a.shortName? = some word

end Attribute

inductive Unreadable where
  | noStyle
  | noNumber
  deriving DecidableEq, Repr

namespace Colour

def names : List String :=
  [
    "black", "red", "green", "yellow", "blue", "magenta", "cyan", "white", "bright_black",
    "bright_red", "bright_green", "bright_yellow", "bright_blue", "bright_magenta",
    "bright_cyan", "bright_white", "grey0", "gray0", "navy_blue", "dark_blue", "blue3",
    "blue1", "dark_green", "deep_sky_blue4", "dodger_blue3", "dodger_blue2", "green4",
    "spring_green4", "turquoise4", "deep_sky_blue3", "dodger_blue1", "green3", "spring_green3",
    "dark_cyan", "light_sea_green", "deep_sky_blue2", "deep_sky_blue1", "spring_green2",
    "cyan3", "dark_turquoise", "turquoise2", "green1", "spring_green1", "medium_spring_green",
    "cyan2", "cyan1", "dark_red", "deep_pink4", "purple4", "purple3", "blue_violet", "orange4",
    "grey37", "gray37", "medium_purple4", "slate_blue3", "royal_blue1", "chartreuse4",
    "dark_sea_green4", "pale_turquoise4", "steel_blue", "steel_blue3", "cornflower_blue",
    "chartreuse3", "cadet_blue", "sky_blue3", "steel_blue1", "pale_green3", "sea_green3",
    "aquamarine3", "medium_turquoise", "chartreuse2", "sea_green2", "sea_green1",
    "aquamarine1", "dark_slate_gray2", "dark_magenta", "dark_violet", "purple", "light_pink4",
    "plum4", "medium_purple3", "slate_blue1", "yellow4", "wheat4", "grey53", "gray53",
    "light_slate_grey", "light_slate_gray", "medium_purple", "light_slate_blue",
    "dark_olive_green3", "dark_sea_green", "light_sky_blue3", "sky_blue2", "dark_sea_green3",
    "dark_slate_gray3", "sky_blue1", "chartreuse1", "light_green", "pale_green1",
    "dark_slate_gray1", "red3", "medium_violet_red", "magenta3", "dark_orange3", "indian_red",
    "hot_pink3", "medium_orchid3", "medium_orchid", "medium_purple2", "dark_goldenrod",
    "light_salmon3", "rosy_brown", "grey63", "gray63", "medium_purple1", "gold3", "dark_khaki",
    "navajo_white3", "grey69", "gray69", "light_steel_blue3", "light_steel_blue", "yellow3",
    "dark_sea_green2", "light_cyan3", "light_sky_blue1", "green_yellow", "dark_olive_green2",
    "dark_sea_green1", "pale_turquoise1", "deep_pink3", "magenta2", "hot_pink2", "orchid",
    "medium_orchid1", "orange3", "light_pink3", "pink3", "plum3", "violet", "light_goldenrod3",
    "tan", "misty_rose3", "thistle3", "plum2", "khaki3", "light_goldenrod2", "light_yellow3",
    "grey84", "gray84", "light_steel_blue1", "yellow2", "dark_olive_green1", "honeydew2",
    "light_cyan1", "red1", "deep_pink2", "deep_pink1", "magenta1", "orange_red1",
    "indian_red1", "hot_pink", "dark_orange", "salmon1", "light_coral", "pale_violet_red1",
    "orchid2", "orchid1", "orange1", "sandy_brown", "light_salmon1", "light_pink1", "pink1",
    "plum1", "gold1", "navajo_white1", "misty_rose1", "thistle1", "yellow1",
    "light_goldenrod1", "khaki1", "wheat1", "cornsilk1", "grey100", "gray100", "grey3",
    "gray3", "grey7", "gray7", "grey11", "gray11", "grey15", "gray15", "grey19", "gray19",
    "grey23", "gray23", "grey27", "gray27", "grey30", "gray30", "grey35", "gray35", "grey39",
    "gray39", "grey42", "gray42", "grey46", "gray46", "grey50", "gray50", "grey54", "gray54",
    "grey58", "gray58", "grey62", "gray62", "grey66", "gray66", "grey70", "gray70", "grey74",
    "gray74", "grey78", "gray78", "grey82", "gray82", "grey85", "gray85", "grey89", "gray89",
    "grey93", "gray93"
  ]

def highest : Nat := 255

def between? (start : String) (word : List Char) : Option (List Char) :=
  if start.toList.isPrefixOf word && word.getLast? = some ')' then
    some (word.drop start.length).dropLast
  else none

def isHexWord (word : List Char) : Bool :=
  match word with
  | '#' :: cs =>
    cs.length = 6 && cs.all fun c => ('0' ≤ c && c ≤ '9') || ('a' ≤ c && c ≤ 'f')
  | _ => false

def isNumberWord (word : List Char) : Bool :=
  match between? "color(" word with
  | some cs =>
    !cs.isEmpty && cs.length ≤ 3 && cs.all (fun c => '0' ≤ c && c ≤ '9') &&
      Text.digitsValue cs ≤ highest
  | none => false

def components? (word : List Char) : Option (List (List Char)) :=
  (between? "rgb(" word).bind fun cs =>
    let parts := Text.splitOn ',' cs
    if parts.length = 3 && parts.all (fun d => d.all Text.isDigit) then some parts else none

def read (word : String) : Except Unreadable String :=
  if word = "default" || names.contains word || isHexWord word.toList ||
      isNumberWord word.toList then .ok word
  else
    match components? word.toList with
    | none => .error .noStyle
    | some parts =>
      if parts.any List.isEmpty then .error .noNumber
      else if parts.all fun d => Text.digitsValue d ≤ highest then .ok word
      else .error .noStyle

end Colour

/-- A style as it was asked for. Of two settings of one attribute the later counts. -/
structure Style where
  attributes : List (Attribute × Bool)
  colour : Option String
  background : Option String
  link : Option String
  deriving DecidableEq, Repr

namespace Style

def empty : Style :=
  ⟨[], none, none, none⟩

def set (s : Style) (a : Attribute) (on : Bool) : Style :=
  { s with attributes := (a, on) :: s.attributes }

def addWord (s : Style) (word : String) : Except Unreadable Style :=
  match Attribute.ofWord? word with
  | some a => .ok (s.set a true)
  | none => (Colour.read word).map fun c => { s with colour := some c }

def leadWords : List String :=
  ["on", "not", "link"]

def addPair (s : Style) (word next : String) : Except Unreadable Style :=
  match word with
  | "on" => (Colour.read (Text.lower next)).map fun c => { s with background := some c }
  | "not" =>
    match Attribute.ofWord? next with
    | some a => .ok (s.set a false)
    | none => .error .noStyle
  | _ => .ok { s with link := some next }

def addWords (s : Style) : List String → Except Unreadable Style
  | [] => .ok s
  | given :: rest =>
    let word := Text.lower given
    if leadWords.contains word then
      match rest with
      | [] => .error .noStyle
      | next :: more => (s.addPair word next).bind fun t => addWords t more
    else (s.addWord word).bind fun t => addWords t rest

def attributeWords (s : Style) : List String :=
  Attribute.all.filterMap fun a =>
    (s.attributes.lookup a).map fun on => if on then a.name else "not " ++ a.name

def plainName : String := "none"

def notNumber (word : String) : String :=
  "invalid literal for int() with base 10: " ++ Text.quoted word

def display (s : Style) : String :=
  let parts := s.attributeWords ++ s.colour.toList ++
    (s.background.toList.flatMap fun b => ["on", b]) ++
    (s.link.toList.flatMap fun l => ["link", l])
  if parts.isEmpty then plainName else Text.joinWith " " parts

/-- The canonical text for the text of a style. A text that is no style stands for itself, in lower
case and trimmed. -/
def canonical (cs : List Char) : Except Fault String :=
  let trimmed := String.ofList (Text.trim Text.isBlank cs)
  if trimmed = plainName then .ok plainName
  else
    match addWords empty ((Text.words cs).map String.ofList) with
    | .ok s => .ok s.display
    | .error .noStyle => .ok (Text.lower trimmed)
    | .error .noNumber => .error (.argument (notNumber ""))

end Style

end GraphContracts.Terminal
