import RawSeries.Text.Blank
import RawSeries.Text.Digit
import RawSeries.Text.Lower

namespace RawSeries.Markup

structure Style where
  /-- Attributes that are on or off, the latest first. -/
  attributes : List (String × Bool)
  colour : Option String
  /-- The colour behind the signs. -/
  ground : Option String
  link : Option String

namespace Style

/-- Why a text describes no style. -/
inductive Flaw where
  /-- Words that are no style. -/
  | unknown
  /-- A share of a colour that is no number. -/
  | noShare
deriving DecidableEq

/-- The attributes in the order in which a style names them. -/
def attributeNames : List String :=
  ["bold", "dim", "italic", "underline", "blink", "blink2", "reverse", "conceal", "strike",
    "underline2", "frame", "encircle", "overline"]

def shortNames : List (String × String) :=
  [("b", "bold"), ("d", "dim"), ("i", "italic"), ("u", "underline"), ("r", "reverse"),
    ("c", "conceal"), ("s", "strike"), ("uu", "underline2"), ("o", "overline")]

def attribute? (word : String) : Option String :=
  if attributeNames.contains word then some word else shortNames.lookup word

def colourNames : List String := [
  "default",
  "black", "red", "green", "yellow", "blue", "magenta", "cyan", "white", "bright_black",
  "bright_red", "bright_green", "bright_yellow", "bright_blue", "bright_magenta", "bright_cyan",
  "bright_white", "grey0", "gray0", "navy_blue", "dark_blue", "blue3", "blue1", "dark_green",
  "deep_sky_blue4", "dodger_blue3", "dodger_blue2", "green4", "spring_green4", "turquoise4",
  "deep_sky_blue3", "dodger_blue1", "green3", "spring_green3", "dark_cyan", "light_sea_green",
  "deep_sky_blue2", "deep_sky_blue1", "spring_green2", "cyan3", "dark_turquoise", "turquoise2",
  "green1", "spring_green1", "medium_spring_green", "cyan2", "cyan1", "dark_red", "deep_pink4",
  "purple4", "purple3", "blue_violet", "orange4", "grey37", "gray37", "medium_purple4",
  "slate_blue3", "royal_blue1", "chartreuse4", "dark_sea_green4", "pale_turquoise4", "steel_blue",
  "steel_blue3", "cornflower_blue", "chartreuse3", "cadet_blue", "sky_blue3", "steel_blue1",
  "pale_green3", "sea_green3", "aquamarine3", "medium_turquoise", "chartreuse2", "sea_green2",
  "sea_green1", "aquamarine1", "dark_slate_gray2", "dark_magenta", "dark_violet", "purple",
  "light_pink4", "plum4", "medium_purple3", "slate_blue1", "yellow4", "wheat4", "grey53", "gray53",
  "light_slate_grey", "light_slate_gray", "medium_purple", "light_slate_blue", "dark_olive_green3",
  "dark_sea_green", "light_sky_blue3", "sky_blue2", "dark_sea_green3", "dark_slate_gray3",
  "sky_blue1", "chartreuse1", "light_green", "pale_green1", "dark_slate_gray1", "red3",
  "medium_violet_red", "magenta3", "dark_orange3", "indian_red", "hot_pink3", "medium_orchid3",
  "medium_orchid", "medium_purple2", "dark_goldenrod", "light_salmon3", "rosy_brown", "grey63",
  "gray63", "medium_purple1", "gold3", "dark_khaki", "navajo_white3", "grey69", "gray69",
  "light_steel_blue3", "light_steel_blue", "yellow3", "dark_sea_green2", "light_cyan3",
  "light_sky_blue1", "green_yellow", "dark_olive_green2", "dark_sea_green1", "pale_turquoise1",
  "deep_pink3", "magenta2", "hot_pink2", "orchid", "medium_orchid1", "orange3", "light_pink3",
  "pink3", "plum3", "violet", "light_goldenrod3", "tan", "misty_rose3", "thistle3", "plum2",
  "khaki3", "light_goldenrod2", "light_yellow3", "grey84", "gray84", "light_steel_blue1", "yellow2",
  "dark_olive_green1", "honeydew2", "light_cyan1", "red1", "deep_pink2", "deep_pink1", "magenta1",
  "orange_red1", "indian_red1", "hot_pink", "dark_orange", "salmon1", "light_coral",
  "pale_violet_red1", "orchid2", "orchid1", "orange1", "sandy_brown", "light_salmon1",
  "light_pink1", "pink1", "plum1", "gold1", "navajo_white1", "misty_rose1", "thistle1", "yellow1",
  "light_goldenrod1", "khaki1", "wheat1", "cornsilk1", "grey100", "gray100", "grey3", "gray3",
  "grey7", "gray7", "grey11", "gray11", "grey15", "gray15", "grey19", "gray19", "grey23", "gray23",
  "grey27", "gray27", "grey30", "gray30", "grey35", "gray35", "grey39", "gray39", "grey42",
  "gray42", "grey46", "gray46", "grey50", "gray50", "grey54", "gray54", "grey58", "gray58",
  "grey62", "gray62", "grey66", "gray66", "grey70", "gray70", "grey74", "gray74", "grey78",
  "gray78", "grey82", "gray82", "grey85", "gray85", "grey89", "gray89", "grey93", "gray93"]

def isHexadecimal (c : Char) : Bool :=
  ('0' ≤ c && c ≤ '9') || ('a' ≤ c && c ≤ 'f')

def number (digits : List Char) : Nat :=
  digits.foldl (fun n c => 10 * n + (Text.digitValue? c).getD 0) 0

def mostDigits : Nat := 4300

/-- Three shares of at most 255. All of them are read before their sizes count. -/
def checkShares (shares : List (List Char)) : Except Flaw Unit :=
  if shares.length ≠ 3 then .error .unknown
  else if shares.any fun s => s.isEmpty || mostDigits < s.length then .error .noShare
  else if shares.all fun s => number s ≤ 255 then .ok ()
  else .error .unknown

/-- The text between a text that stands before it and a closing parenthesis at the end. -/
def within? (opening : String) (cs : List Char) : Option (List Char) :=
  if opening.toList.isPrefixOf cs && cs.getLast? == some ')' then
    some (cs.drop opening.length).dropLast
  else none

/-- Checks a colour in small letters: a name, six digits after `#`, the number of a colour below
256, or the shares of red, green and blue. -/
def checkColour (cs : List Char) : Except Flaw Unit :=
  if colourNames.contains (String.ofList cs) then .ok ()
  else
    match cs with
    | '#' :: digits =>
        if digits.length = 6 ∧ digits.all isHexadecimal then .ok () else .error .unknown
    | _ =>
        match within? "color(" cs, within? "rgb(" cs with
        | some digits, _ =>
            let plain := digits.all fun c => '0' ≤ c && c ≤ '9'
            if 1 ≤ digits.length ∧ digits.length ≤ 3 ∧ plain ∧ number digits ≤ 255 then .ok ()
            else .error .unknown
        | none, some shares =>
            if shares.isEmpty || !shares.all fun c => c == ',' || Text.isDecimal c then
              .error .unknown
            else checkShares (Text.splitOn ',' shares)
        | none, none => .error .unknown

/-- The name of a colour: its text in small letters. -/
def readColour (word : List Char) : Except Flaw String := do
  let small := Text.lower word
  checkColour small
  return String.ofList small

/-- Sets what words describe. The latest word on a thing wins. -/
def read (s : Style) : List (List Char) → Except Flaw Style
  | [] => .ok s
  | word :: rest =>
      match String.ofList (Text.lower word), rest with
      | "on", [] => .error .unknown
      | "on", next :: rest => do
          let ground ← readColour next
          read { s with ground := some ground } rest
      | "not", [] => .error .unknown
      | "not", next :: rest =>
          match attribute? (String.ofList next) with
          | some a => read { s with attributes := (a, false) :: s.attributes } rest
          | none => .error .unknown
      | "link", [] => .error .unknown
      | "link", next :: rest => read { s with link := some (String.ofList next) } rest
      | small, rest =>
          match attribute? small with
          | some a => read { s with attributes := (a, true) :: s.attributes } rest
          | none => do
              let colour ← readColour word
              read { s with colour := some colour } rest

def words (cs : List Char) : List (List Char) :=
  (cs.splitBy fun a b => Text.isBlank a == Text.isBlank b).filter fun w => !w.all Text.isBlank

/-- The words that describe a style: attributes in their order, the colour, the colour behind it and
the link. -/
def describe (s : Style) : List String :=
  let attributes := attributeNames.flatMap fun a =>
    match s.attributes.lookup a with
    | some true => [a]
    | some false => ["not", a]
    | none => []
  let ground := (s.ground.map fun c => ["on", c]).getD []
  let link := (s.link.map fun l => ["link", l]).getD []
  attributes ++ s.colour.toList ++ ground ++ link

/-- The normal form of the description of a style. A text that describes none is its own, in small
letters and without the blanks at its ends. -/
def normal (cs : List Char) : Except Flaw String :=
  if Text.stripChars cs = "none".toList then .ok "none"
  else
    match read ⟨[], none, none, none⟩ (words cs) with
    | .ok s => .ok (" ".intercalate s.describe)
    | .error .unknown => .ok (String.ofList (Text.lower (Text.stripChars cs)))
    | .error .noShare => .error .noShare

end Style

end RawSeries.Markup
