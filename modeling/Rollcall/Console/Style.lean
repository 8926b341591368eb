import Rollcall.Text.Blank
import Rollcall.Text.Numeral
import Rollcall.Text.Search
import Rollcall.Text.Small

/-!
# Styles

A style is a row of words: attributes such as `bold`, possibly after `not`, a colour, a background colour after `on`,
and a link.  Two texts name the same style if they have the same normal form (`Style.normal`); a text that is no style
is its own normal form, up to case.  A colour that is written with three parts has a fault if one of them is no number:
then there is no normal form.
-/

namespace Rollcall.Console

/-- The colours that have a name. -/
def colourNames : List (List Char) :=
  Text.words (String.toList
    "black red green yellow blue magenta cyan white bright_black bright_red bright_green bright_yellow
     bright_blue bright_magenta bright_cyan bright_white grey0 gray0 navy_blue dark_blue blue3 blue1
     dark_green deep_sky_blue4 dodger_blue3 dodger_blue2 green4 spring_green4 turquoise4 deep_sky_blue3
     dodger_blue1 green3 spring_green3 dark_cyan light_sea_green deep_sky_blue2 deep_sky_blue1
     spring_green2 cyan3 dark_turquoise turquoise2 green1 spring_green1 medium_spring_green cyan2 cyan1
     dark_red deep_pink4 purple4 purple3 blue_violet orange4 grey37 gray37 medium_purple4 slate_blue3
     royal_blue1 chartreuse4 dark_sea_green4 pale_turquoise4 steel_blue steel_blue3 cornflower_blue
     chartreuse3 cadet_blue sky_blue3 steel_blue1 pale_green3 sea_green3 aquamarine3 medium_turquoise
     chartreuse2 sea_green2 sea_green1 aquamarine1 dark_slate_gray2 dark_magenta dark_violet purple
     light_pink4 plum4 medium_purple3 slate_blue1 yellow4 wheat4 grey53 gray53 light_slate_grey
     light_slate_gray medium_purple light_slate_blue dark_olive_green3 dark_sea_green light_sky_blue3
     sky_blue2 dark_sea_green3 dark_slate_gray3 sky_blue1 chartreuse1 light_green pale_green1
     dark_slate_gray1 red3 medium_violet_red magenta3 dark_orange3 indian_red hot_pink3 medium_orchid3
     medium_orchid medium_purple2 dark_goldenrod light_salmon3 rosy_brown grey63 gray63 medium_purple1
     gold3 dark_khaki navajo_white3 grey69 gray69 light_steel_blue3 light_steel_blue yellow3
     dark_sea_green2 light_cyan3 light_sky_blue1 green_yellow dark_olive_green2 dark_sea_green1
     pale_turquoise1 deep_pink3 magenta2 hot_pink2 orchid medium_orchid1 orange3 light_pink3 pink3 plum3
     violet light_goldenrod3 tan misty_rose3 thistle3 plum2 khaki3 light_goldenrod2 light_yellow3 grey84
     gray84 light_steel_blue1 yellow2 dark_olive_green1 honeydew2 light_cyan1 red1 deep_pink2 deep_pink1
     magenta1 orange_red1 indian_red1 hot_pink dark_orange salmon1 light_coral pale_violet_red1 orchid2
     orchid1 orange1 sandy_brown light_salmon1 light_pink1 pink1 plum1 gold1 navajo_white1 misty_rose1
     thistle1 yellow1 light_goldenrod1 khaki1 wheat1 cornsilk1 grey100 gray100 grey3 gray3 grey7 gray7
     grey11 gray11 grey15 gray15 grey19 gray19 grey23 gray23 grey27 gray27 grey30 gray30 grey35 gray35
     grey39 gray39 grey42 gray42 grey46 gray46 grey50 gray50 grey54 gray54 grey58 gray58 grey62 gray62
     grey66 gray66 grey70 gray70 grey74 gray74 grey78 gray78 grey82 gray82 grey85 gray85 grey89 gray89
     grey93 gray93")

/-- What is wrong with a part of a colour. -/
inductive ColourFault where
  | emptyPart
  | longPart (digits : Nat)
deriving DecidableEq, Repr, Inhabited

/-- The message of a fault. -/
def ColourFault.message : ColourFault → String
  | .emptyPart => "invalid literal for int() with base 10: ''"
  | .longPart digits =>
    "Exceeds the limit (" ++ toString Text.decimalLimit ++ " digits) for integer string conversion: value has " ++
      toString digits ++ " digits; use sys.set_int_max_str_digits() to increase the limit"

namespace Style

/-- The attributes in their normal order, each with its short form. -/
def attributeForms : List (String × String) :=
  [("bold", "b"), ("dim", "d"), ("italic", "i"), ("underline", "u"), ("blink", ""), ("blink2", ""), ("reverse", "r"),
    ("conceal", "c"), ("strike", "s"), ("underline2", "uu"), ("frame", ""), ("encircle", ""), ("overline", "o")]

/-- The attribute that a word names. -/
def attribute? (word : String) : Option String :=
  if word = "" then none else (attributeForms.find? fun a => a.1 == word || a.2 == word).map (·.1)

/-- The text between an opening and a final closing bracket. -/
def bracketed? (opening : String) (word : String) : Option (List Char) :=
  match Text.afterStart? opening.toList word.toList with
  | some rest => if rest.getLast? = some ')' then some rest.dropLast else none
  | none => none

/-- Whether a text is a decimal number of at most 255. -/
def isByte (cs : List Char) : Bool :=
  !cs.isEmpty && cs.all Char.isDigit && (String.ofList cs).toNat?.any (· ≤ 255)

/-- Whether a character is a hexadecimal digit with small letters. -/
def isHexDigit (c : Char) : Bool :=
  c.isDigit || ('a' ≤ c && c ≤ 'f')

/-- The number that a row of digits of any script makes up. -/
def part (digits : List Char) : Except ColourFault Nat :=
  if digits.isEmpty then .error .emptyPart
  else if Text.decimalLimit < digits.length then .error (.longPart digits.length)
  else .ok (digits.foldl (fun n c => 10 * n + (Text.decimalValue? c).getD 0) 0)

/-- Whether a text is the three parts of a colour. -/
def areParts (cs : List Char) : Except ColourFault Bool :=
  let parts := cs.splitOn ','
  if parts.length = 3 && parts.flatten.all fun c => (Text.decimalValue? c).isSome then
    (parts.mapM part).map fun ns => ns.all (· ≤ 255)
  else .ok false

/-- Whether a word in small letters names a colour. -/
def isColour (word : String) : Except ColourFault Bool :=
  match bracketed? "rgb(" word with
  | some parts => areParts parts
  | none =>
    .ok (word == "default" || colourNames.contains word.toList ||
      (match word.toList with
        | '#' :: digits => digits.length == 6 && digits.all isHexDigit
        | _ => false) ||
      (bracketed? "color(" word).any (fun digits => digits.length ≤ 3 && isByte digits))

/-- What the words of a style say. -/
structure Meaning where
  /-- The attributes and whether they are on. -/
  attributes : List (String × Bool)
  colour : Option String
  background : Option String
  link : Option String

/-- A word in small letters. -/
def small (word : String) : String :=
  String.ofList (Text.small word.toList)

/-- What a style says whose words hold a colour, given what it says if the colour is one. -/
def withColour (word : String) (meaning : Except ColourFault (Option Meaning)) :
    Except ColourFault (Option Meaning) := do
  if ← isColour word then meaning else return none

/-- Reads the words of a style.  A later word overrides an earlier one. -/
def read (m : Meaning) : List String → Except ColourFault (Option Meaning)
  | [] => .ok (some m)
  | word :: words =>
    match small word, words with
    | "on", colour :: words => withColour (small colour) (read { m with background := some (small colour) } words)
    | "not", word :: words =>
      match attribute? word with
      | some a => read { m with attributes := (a, false) :: m.attributes } words
      | none => .ok none
    | "link", target :: words => read { m with link := some target } words
    | "on", [] => .ok none
    | "not", [] => .ok none
    | "link", [] => .ok none
    | word, words =>
      match attribute? word with
      | some a => read { m with attributes := (a, true) :: m.attributes } words
      | none => withColour word (read { m with colour := some word } words)

/-- What the name of a style says. -/
def meaning (name : List Char) : Except ColourFault (Option Meaning) :=
  read ⟨[], none, none, none⟩ ((Text.words name).map String.ofList)

/-- The words of a style in their normal order. -/
def Meaning.words (m : Meaning) : List String :=
  (attributeForms.filterMap fun a => (m.attributes.find? fun b => b.1 == a.1).map fun b =>
      if b.2 then a.1 else "not " ++ a.1) ++
    m.colour.toList ++ (m.background.map fun c => "on " ++ c).toList ++ (m.link.map fun l => "link " ++ l).toList

/-- The normal form of the name of a style. -/
def normal (name : List Char) : Except ColourFault String :=
  if (Text.words name).map String.ofList = ["none"] then .ok "none"
  else
    (meaning name).map fun
      | some m => if m.words.isEmpty then "none" else " ".intercalate m.words
      | none => String.ofList (Text.small (Text.trim name))

end Style

end Rollcall.Console
