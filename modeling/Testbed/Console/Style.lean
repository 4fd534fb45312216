import Testbed.Console.Misprint
import Testbed.Text.Blank
import Testbed.Text.Lower
import Testbed.Text.Numeral

/-!
Names of styles. Names that mean the same have one canonical form: attributes in a fixed order,
then the colour, the background and the link. A name that means nothing stands for itself, in
lower case. A colour with a channel that is no number is a fault.
-/

namespace Testbed.Console.Style

open Text (isBlank)

/-- The attributes in their order, each with its short name. -/
def attributes : List (String × String) :=
  [("bold", "b"), ("dim", "d"), ("italic", "i"), ("underline", "u"), ("blink", ""),
   ("blink2", ""), ("reverse", "r"), ("conceal", "c"), ("strike", "s"), ("underline2", "uu"),
   ("frame", ""), ("encircle", ""), ("overline", "o")]

def attribute? (word : String) : Option String :=
  (attributes.find? fun (name, short) => word == name || (word == short && short != "")).map (·.1)

/-- Colours that have a name, without their numbers. -/
def colourNames : List String :=
  ["default", "black", "red", "green", "yellow", "blue", "magenta", "cyan", "white",
   "bright_black", "bright_red", "bright_green", "bright_yellow", "bright_blue",
   "bright_magenta", "bright_cyan", "bright_white", "grey0", "gray0", "navy_blue", "dark_blue",
   "blue3", "blue1", "dark_green", "deep_sky_blue4", "dodger_blue3", "dodger_blue2", "green4",
   "spring_green4", "turquoise4", "deep_sky_blue3", "dodger_blue1", "green3", "spring_green3",
   "dark_cyan", "light_sea_green", "deep_sky_blue2", "deep_sky_blue1", "spring_green2", "cyan3",
   "dark_turquoise", "turquoise2", "green1", "spring_green1", "medium_spring_green", "cyan2",
   "cyan1", "dark_red", "deep_pink4", "purple4", "purple3", "blue_violet", "orange4", "grey37",
   "gray37", "medium_purple4", "slate_blue3", "royal_blue1", "chartreuse4", "dark_sea_green4",
   "pale_turquoise4", "steel_blue", "steel_blue3", "cornflower_blue", "chartreuse3",
   "cadet_blue", "sky_blue3", "steel_blue1", "pale_green3", "sea_green3", "aquamarine3",
   "medium_turquoise", "chartreuse2", "sea_green2", "sea_green1", "aquamarine1",
   "dark_slate_gray2", "dark_magenta", "dark_violet", "purple", "light_pink4", "plum4",
   "medium_purple3", "slate_blue1", "yellow4", "wheat4", "grey53", "gray53", "light_slate_grey",
   "light_slate_gray", "medium_purple", "light_slate_blue", "dark_olive_green3",
   "dark_sea_green", "light_sky_blue3", "sky_blue2", "dark_sea_green3", "dark_slate_gray3",
   "sky_blue1", "chartreuse1", "light_green", "pale_green1", "dark_slate_gray1", "red3",
   "medium_violet_red", "magenta3", "dark_orange3", "indian_red", "hot_pink3", "medium_orchid3",
   "medium_orchid", "medium_purple2", "dark_goldenrod", "light_salmon3", "rosy_brown", "grey63",
   "gray63", "medium_purple1", "gold3", "dark_khaki", "navajo_white3", "grey69", "gray69",
   "light_steel_blue3", "light_steel_blue", "yellow3", "dark_sea_green2", "light_cyan3",
   "light_sky_blue1", "green_yellow", "dark_olive_green2", "dark_sea_green1", "pale_turquoise1",
   "deep_pink3", "magenta2", "hot_pink2", "orchid", "medium_orchid1", "orange3", "light_pink3",
   "pink3", "plum3", "violet", "light_goldenrod3", "tan", "misty_rose3", "thistle3", "plum2",
   "khaki3", "light_goldenrod2", "light_yellow3", "grey84", "gray84", "light_steel_blue1",
   "yellow2", "dark_olive_green1", "honeydew2", "light_cyan1", "red1", "deep_pink2",
   "deep_pink1", "magenta1", "orange_red1", "indian_red1", "hot_pink", "dark_orange", "salmon1",
   "light_coral", "pale_violet_red1", "orchid2", "orchid1", "orange1", "sandy_brown",
   "light_salmon1", "light_pink1", "pink1", "plum1", "gold1", "navajo_white1", "misty_rose1",
   "thistle1", "yellow1", "light_goldenrod1", "khaki1", "wheat1", "cornsilk1", "grey100",
   "gray100", "grey3", "gray3", "grey7", "gray7", "grey11", "gray11", "grey15", "gray15",
   "grey19", "gray19", "grey23", "gray23", "grey27", "gray27", "grey30", "gray30", "grey35",
   "gray35", "grey39", "gray39", "grey42", "gray42", "grey46", "gray46", "grey50", "gray50",
   "grey54", "gray54", "grey58", "gray58", "grey62", "gray62", "grey66", "gray66", "grey70",
   "gray70", "grey74", "gray74", "grey78", "gray78", "grey82", "gray82", "grey85", "gray85",
   "grey89", "gray89", "grey93", "gray93"]

def lower (s : String) : String := String.ofList (s.toList.map Text.lowerChar)

/-- The number of a channel, which is written in the digits of any script. -/
def channel (digits : List Char) : Except Misprint Nat :=
  if digits.isEmpty then .error .noDigits
  else if Text.longestNumeral < digits.length then
    .error (.tooManyDigits Text.longestNumeral digits.length)
  else .ok ((Text.digits? 10 (digits.map Text.plainDigit)).getD 0)

/-- What stands before a closing parenthesis at the end. -/
def enclosed? (text : List Char) : Option (List Char) :=
  if text.getLast? = some ')' then some text.dropLast else none

/-- Whether these are the numbers of three channels. -/
def isTriple (text : List Char) : Except Misprint Bool := do
  let parts := text.splitOnP (· == ',')
  if parts.length = 3 ∧ parts.all (·.all fun c => (Text.plainDigit c).isDigit) then
    return (← parts.mapM channel).all (· < 256)
  return false

def isColour (word : String) : Except Misprint Bool :=
  if colourNames.contains word then .ok true
  else
    match word.toList with
    | '#' :: digits =>
      .ok (digits.length == 6 && digits.all fun c => (Text.digitValue? 16 c).isSome)
    | 'c' :: 'o' :: 'l' :: 'o' :: 'r' :: '(' :: rest =>
      .ok ((enclosed? rest).any fun digits =>
        digits.length ≤ 3 && (Text.digits? 10 digits).any (· < 256))
    | 'r' :: 'g' :: 'b' :: '(' :: rest =>
      match enclosed? rest with
      | some text => isTriple text
      | none => .ok false
    | _ => .ok false

/-- What a name says, as far as it is read. -/
structure Meaning where
  set : List (String × Bool)
  colour : Option String
  background : Option String
  link : Option String

def Meaning.put (name : String) (on : Bool) (m : Meaning) : Meaning :=
  { m with set := (name, on) :: m.set.filter (·.1 != name) }

/-- The meaning of words, if they have one. -/
def read : List String → Meaning → Except Misprint (Option Meaning)
  | [], m => .ok (some m)
  | word :: rest, m => do
    let name := lower word
    if name = "on" then
      match rest with
      | colour :: rest =>
        if ← isColour (lower colour) then
          read rest { m with background := some (lower colour) }
        else return none
      | [] => return none
    else if name = "not" then
      match rest with
      | word :: rest =>
        match attribute? word with
        | some a => read rest (m.put a false)
        | none => return none
      | [] => return none
    else if name = "link" then
      match rest with
      | url :: rest => read rest { m with link := some url }
      | [] => return none
    else
      match attribute? name with
      | some a => read rest (m.put a true)
      | none =>
        if ← isColour name then read rest { m with colour := some name } else return none

def Meaning.words (m : Meaning) : List String :=
  (attributes.flatMap fun (name, _) =>
      match m.set.lookup name with
      | some true => [name]
      | some false => ["not", name]
      | none => [])
    ++ m.colour.toList ++ (m.background.map fun c => ["on", c]).getD []
    ++ (m.link.map fun url => ["link", url]).getD []

/-- The words of a text. -/
def split (text : List Char) : List String :=
  ((text.splitOnP isBlank).filter (!·.isEmpty)).map String.ofList

def canonical (name : List Char) : Except Misprint String := do
  let name := Text.trim isBlank name
  if name = "none".toList then return "none"
  match ← read (split name) ⟨[], none, none, none⟩ with
  | some m =>
    match m.words with
    | [] => return "none"
    | words => return " ".intercalate words
  | none => return lower (String.ofList name)

end Testbed.Console.Style
