import SchemaSeed.Fault

/-! Styles as tags name them: attributes, a color, a color behind it, and a link.
Two names of one style have the same normal form.  The words are those of a style definition
as `rich` documents it. -/

namespace SchemaSeed

namespace Style

/-- Attributes in the order of the normal form, each with its short names. -/
def attributes : List (Text × List Text) := [
  ("bold", ["b"]), ("dim", ["d"]), ("italic", ["i"]), ("underline", ["u"]), ("blink", []),
  ("blink2", []), ("reverse", ["r"]), ("conceal", ["c"]), ("strike", ["s"]),
  ("underline2", ["uu"]), ("frame", []), ("encircle", []), ("overline", ["o"])]

def attribute? (word : Text) : Option Text :=
  (attributes.find? fun (name, short) => name == word || short.contains word).map (·.1)

def colorNames : List Text := List.map String.toList [
  "black", "red", "green", "yellow", "blue", "magenta", "cyan", "white", "bright_black",
  "bright_red", "bright_green", "bright_yellow", "bright_blue", "bright_magenta", "bright_cyan",
  "bright_white", "grey0", "gray0", "navy_blue", "dark_blue", "blue3", "blue1", "dark_green",
  "deep_sky_blue4", "dodger_blue3", "dodger_blue2", "green4", "spring_green4", "turquoise4",
  "deep_sky_blue3", "dodger_blue1", "green3", "spring_green3", "dark_cyan", "light_sea_green",
  "deep_sky_blue2", "deep_sky_blue1", "spring_green2", "cyan3", "dark_turquoise", "turquoise2",
  "green1", "spring_green1", "medium_spring_green", "cyan2", "cyan1", "dark_red", "deep_pink4",
  "purple4", "purple3", "blue_violet", "orange4", "grey37", "gray37", "medium_purple4",
  "slate_blue3", "royal_blue1", "chartreuse4", "dark_sea_green4", "pale_turquoise4", "steel_blue",
  "steel_blue3", "cornflower_blue", "chartreuse3", "cadet_blue", "sky_blue3", "steel_blue1",
  "pale_green3", "sea_green3", "aquamarine3", "medium_turquoise", "chartreuse2", "sea_green2",
  "sea_green1", "aquamarine1", "dark_slate_gray2", "dark_magenta", "dark_violet", "purple",
  "light_pink4", "plum4", "medium_purple3", "slate_blue1", "yellow4", "wheat4", "grey53",
  "gray53", "light_slate_grey", "light_slate_gray", "medium_purple", "light_slate_blue",
  "dark_olive_green3", "dark_sea_green", "light_sky_blue3", "sky_blue2", "dark_sea_green3",
  "dark_slate_gray3", "sky_blue1", "chartreuse1", "light_green", "pale_green1",
  "dark_slate_gray1", "red3", "medium_violet_red", "magenta3", "dark_orange3", "indian_red",
  "hot_pink3", "medium_orchid3", "medium_orchid", "medium_purple2", "dark_goldenrod",
  "light_salmon3", "rosy_brown", "grey63", "gray63", "medium_purple1", "gold3", "dark_khaki",
  "navajo_white3", "grey69", "gray69", "light_steel_blue3", "light_steel_blue", "yellow3",
  "dark_sea_green2", "light_cyan3", "light_sky_blue1", "green_yellow", "dark_olive_green2",
  "dark_sea_green1", "pale_turquoise1", "deep_pink3", "magenta2", "hot_pink2", "orchid",
  "medium_orchid1", "orange3", "light_pink3", "pink3", "plum3", "violet", "light_goldenrod3",
  "tan", "misty_rose3", "thistle3", "plum2", "khaki3", "light_goldenrod2", "light_yellow3",
  "grey84", "gray84", "light_steel_blue1", "yellow2", "dark_olive_green1", "honeydew2",
  "light_cyan1", "red1", "deep_pink2", "deep_pink1", "magenta1", "orange_red1", "indian_red1",
  "hot_pink", "dark_orange", "salmon1", "light_coral", "pale_violet_red1", "orchid2", "orchid1",
  "orange1", "sandy_brown", "light_salmon1", "light_pink1", "pink1", "plum1", "gold1",
  "navajo_white1", "misty_rose1", "thistle1", "yellow1", "light_goldenrod1", "khaki1", "wheat1",
  "cornsilk1", "grey100", "gray100", "grey3", "gray3", "grey7", "gray7", "grey11", "gray11",
  "grey15", "gray15", "grey19", "gray19", "grey23", "gray23", "grey27", "gray27", "grey30",
  "gray30", "grey35", "gray35", "grey39", "gray39", "grey42", "gray42", "grey46", "gray46",
  "grey50", "gray50", "grey54", "gray54", "grey58", "gray58", "grey62", "gray62", "grey66",
  "gray66", "grey70", "gray70", "grey74", "gray74", "grey78", "gray78", "grey82", "gray82",
  "grey85", "gray85", "grey89", "gray89", "grey93", "gray93"]

def isHexadecimal (character : Char) : Bool :=
  character.isDigit || ('a' ≤ character && character ≤ 'f')

/-- The text between an opening word and a final parenthesis. -/
def argument? (opening word : Text) : Option Text :=
  (Text.after? opening word).bind fun rest =>
    if rest.getLast? = some ')' then some rest.dropLast else none

def isByte (digits : Text) : Bool :=
  !digits.isEmpty && digits.length ≤ 3 && digits.all Char.isDigit && Decimal.value digits ≤ 255

/-- The parts of a color, between commas. -/
def commaParts (text : Text) : List Text :=
  text.foldr (fun character parts =>
    match parts with
    | current :: rest =>
        if character = ',' then [] :: current :: rest else (character :: current) :: rest
    | [] => [[character]]) [[]]

/-- The numbers of a color; digits of any script will do. -/
def components : List Text → Except Fault (List Nat)
  | [] => .ok []
  | digits :: rest =>
      if digits.isEmpty then .error .emptyNumeral
      else if Decimal.digitLimit < digits.length then .error (.numeralTooLong digits.length)
      else (components rest).map (Decimal.value digits :: ·)

/-- Whether the text in parentheses is that of a color: three bytes.  Numbers are read
only if there are three, and one that cannot be read is a fault. -/
def isTriplet (inside : Text) : Except Fault Bool :=
  let parts := commaParts inside
  let digitsAndCommas := inside.all fun character =>
    character == ',' || Character.isDecimalDigit character
  if inside.isEmpty ∨ !digitsAndCommas ∨ parts.length ≠ 3 then .ok false
  else (components parts).map (·.all (· ≤ 255))

def isColor (word : Text) : Except Fault Bool :=
  let named := word == "default".toList || colorNames.contains word
  let hexadecimal :=
    match word with
    | '#' :: digits => digits.length == 6 && digits.all isHexadecimal
    | _ => false
  let numbered := ((argument? "color(" word).map isByte).getD false
  if named || hexadecimal || numbered then .ok true
  else
    match argument? "rgb(" word with
    | some inside => isTriplet inside
    | none => .ok false

/-- A style as far as it has been read. -/
structure Description where
  attributes : List (Text × Bool) := []
  color : Option Text := none
  behind : Option Text := none
  link : Option Text := none

def Description.set (name : Text) (value : Bool) (description : Description) : Description :=
  { description with
    attributes := (name, value) :: description.attributes.filter (·.1 != name) }

/-- Reads the words of a style, if they describe one. -/
def describe (description : Description) : List Text → Except Fault (Option Description)
  | [] => .ok (some description)
  | word :: rest =>
      let lower := word.lower
      if lower = "on" then
        match rest with
        | color :: rest =>
            match isColor color.lower with
            | .error fault => .error fault
            | .ok true => describe { description with behind := some color } rest
            | .ok false => .ok none
        | [] => .ok none
      else if lower = "not" then
        match rest with
        | name :: rest =>
            match attribute? name with
            | some name => describe (description.set name false) rest
            | none => .ok none
        | [] => .ok none
      else if lower = "link" then
        match rest with
        | target :: rest => describe { description with link := some target } rest
        | [] => .ok none
      else
        match attribute? lower with
        | some name => describe (description.set name true) rest
        | none =>
            match isColor lower with
            | .error fault => .error fault
            | .ok true => describe { description with color := some lower } rest
            | .ok false => .ok none

def Description.words (description : Description) : List Text :=
  let written := Style.attributes.filterMap fun (name, _) =>
    (description.attributes.find? (·.1 == name)).map fun (_, value) =>
      if value then name else "not " ++ name
  let optional (start : List Text) (value : Option Text) : List Text :=
    (value.map fun value => start ++ [value]).getD []
  written ++ optional [] description.color ++
    optional ["on"] (description.behind.map Text.lower) ++ optional ["link"] description.link

/-- The normal form of a style; what describes none is only put in lower case. -/
def normalize (style : Text) : Except Fault Text :=
  let stripped := style.strip
  if stripped.isEmpty ∨ stripped = "none" then .ok "none"
  else
    (describe {} style.words).map fun
      | some description =>
          if description.words.isEmpty then "none" else Text.join " " description.words
      | none => stripped.lower

/-- A style that describes nothing has no effect; only one that cannot be read at all is
a fault. -/
def check (style : Text) : Except Fault Unit :=
  (normalize style).map fun _ => ()

end Style

end SchemaSeed
