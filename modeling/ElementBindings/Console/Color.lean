import ElementBindings.Fault

/-
  The colors of the console.

  A color is one of the 256 colors of a terminal, by name or
  by number, or is mixed from red, green and blue.  Words are
  in lower case here.

  Key definitions include:
    * `Color.names`
    * `Color.isColor`
-/

namespace ElementBindings

namespace Color

------------------------------------------------------------
-- Named Colors
------------------------------------------------------------

/- How light the greys are that have a name. -/
def greyLevels : List Nat :=
  [ 0, 3, 7, 11, 15, 19, 23, 27, 30, 35, 37, 39, 42, 46, 50,
    53, 54, 58, 62, 63, 66, 69, 70, 74, 78, 82, 84, 85, 89,
    93, 100 ]

/- The names of a grey, which can be spelt in two ways. -/
def greyNames
    (level : Nat) : List String :=
  ["grey" ++ toString level, "gray" ++ toString level]

/- The names of the colors that are no numbered greys. -/
def hueNames : List String :=
  [ "black", "red", "green", "yellow", "blue", "magenta",
    "cyan", "white", "bright_black", "bright_red",
    "bright_green", "bright_yellow", "bright_blue",
    "bright_magenta", "bright_cyan", "bright_white",
    "navy_blue", "dark_blue", "blue3", "blue1", "dark_green",
    "deep_sky_blue4", "dodger_blue3", "dodger_blue2", "green4",
    "spring_green4", "turquoise4", "deep_sky_blue3",
    "dodger_blue1", "green3", "spring_green3", "dark_cyan",
    "light_sea_green", "deep_sky_blue2", "deep_sky_blue1",
    "spring_green2", "cyan3", "dark_turquoise", "turquoise2",
    "green1", "spring_green1", "medium_spring_green", "cyan2",
    "cyan1", "dark_red", "deep_pink4", "purple4", "purple3",
    "blue_violet", "orange4", "medium_purple4", "slate_blue3",
    "royal_blue1", "chartreuse4", "dark_sea_green4",
    "pale_turquoise4", "steel_blue", "steel_blue3",
    "cornflower_blue", "chartreuse3", "cadet_blue",
    "sky_blue3", "steel_blue1", "pale_green3", "sea_green3",
    "aquamarine3", "medium_turquoise", "chartreuse2",
    "sea_green2", "sea_green1", "aquamarine1",
    "dark_slate_gray2", "dark_magenta", "dark_violet",
    "purple", "light_pink4", "plum4", "medium_purple3",
    "slate_blue1", "yellow4", "wheat4", "light_slate_grey",
    "light_slate_gray", "medium_purple", "light_slate_blue",
    "dark_olive_green3", "dark_sea_green", "light_sky_blue3",
    "sky_blue2", "dark_sea_green3", "dark_slate_gray3",
    "sky_blue1", "chartreuse1", "light_green", "pale_green1",
    "dark_slate_gray1", "red3", "medium_violet_red",
    "magenta3", "dark_orange3", "indian_red", "hot_pink3",
    "medium_orchid3", "medium_orchid", "medium_purple2",
    "dark_goldenrod", "light_salmon3", "rosy_brown",
    "medium_purple1", "gold3", "dark_khaki", "navajo_white3",
    "light_steel_blue3", "light_steel_blue", "yellow3",
    "dark_sea_green2", "light_cyan3", "light_sky_blue1",
    "green_yellow", "dark_olive_green2", "dark_sea_green1",
    "pale_turquoise1", "deep_pink3", "magenta2", "hot_pink2",
    "orchid", "medium_orchid1", "orange3", "light_pink3",
    "pink3", "plum3", "violet", "light_goldenrod3", "tan",
    "misty_rose3", "thistle3", "plum2", "khaki3",
    "light_goldenrod2", "light_yellow3", "light_steel_blue1",
    "yellow2", "dark_olive_green1", "honeydew2", "light_cyan1",
    "red1", "deep_pink2", "deep_pink1", "magenta1",
    "orange_red1", "indian_red1", "hot_pink", "dark_orange",
    "salmon1", "light_coral", "pale_violet_red1", "orchid2",
    "orchid1", "orange1", "sandy_brown", "light_salmon1",
    "light_pink1", "pink1", "plum1", "gold1", "navajo_white1",
    "misty_rose1", "thistle1", "yellow1", "light_goldenrod1",
    "khaki1", "wheat1", "cornsilk1" ]

/- All names of colors; one stands for what is usual. -/
def names : List String :=
  "default" :: hueNames ++ greyLevels.flatMap greyNames

------------------------------------------------------------
-- Mixed Colors
------------------------------------------------------------

/- What stands in the parentheses after a name. -/
def argument?
    (name : String)
    (word : List Char) : Option (List Char) :=
  let start := name.toList ++ ['(']
  if start.isPrefixOf word && word.getLast? = some ')' then
    some (word.drop start.length).dropLast
  else
    none

/- A digit of hexadecimal numbers. -/
def isHexDigit
    (c : Char) : Bool :=
  c.isDigit || ('a' ≤ c && c ≤ 'f')

/- Three octets in hexadecimal, after a number sign. -/
def isHexadecimal : List Char → Bool
  | '#' :: digits =>
      digits.length = 6 && digits.all isHexDigit
  | _ => false

/- The number of a color, of three digits at most. -/
def isNumber
    (digits : List Char) : Bool :=
  digits.length ≤ 3 && digits.all Char.isDigit
    && (Integer.read digits).toOption.any (· ≤ 255)

/- The parts of a text between commas. -/
def splitCommas : List Char → List (List Char)
  | [] => [[]]
  | c :: rest =>
      if c = ',' then
        [] :: splitCommas rest
      else
        match splitCommas rest with
        | [] => [[c]]
        | part :: parts => (c :: part) :: parts

/- A character that can stand in the components of a color. -/
def isComponentChar
    (c : Char) : Bool :=
  Text.isDecimalDigit c || c = ','

/- A component of a color. -/
def component
    (digits : List Char) : Except DecodeFault Int :=
  (Integer.read digits).mapError
    (DecodeFault.ofInteger (String.ofList digits))

/-
  Three numbers that fit in an octet.  Components that cannot
  be read are a fault, unless there are not three of them.
-/
def areComponents
    (s : List Char) : Except DecodeFault Bool := do
  if s.isEmpty || !s.all isComponentChar then
    return false
  let parts := splitCommas s
  if parts.length ≠ 3 then
    return false
  let components ← parts.mapM component
  return components.all (· ≤ 255)

------------------------------------------------------------
-- Colors
------------------------------------------------------------

/- A word stands for a color. -/
def isColor
    (word : List Char) : Except DecodeFault Bool :=
  if names.contains (String.ofList word)
      || isHexadecimal word then
    .ok true
  else
    match argument? "color" word, argument? "rgb" word with
    | some digits, _ => .ok (isNumber digits)
    | none, some components => areComponents components
    | none, none => .ok false

end Color

end ElementBindings
