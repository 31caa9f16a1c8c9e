import TagAudit.Text.Case
import TagAudit.Text.Integer

/-!
# Styles

A style is written in words: attributes, which may be negated, colours for the letters and for what
is behind them, and a link. A colour has a name or a number, or is made of three numbers. Different
words may mean the same style; the spelling of a style lists what it is made of in one order.

Words that have the form of a colour made of three numbers but leave a number out are worse than
words that name no style: they cannot be passed over.
-/

namespace TagAudit.Markup

/-- Why words are no style. -/
inductive StyleDefect where
  /-- The words name no style. -/
  | unknown
  /-- A number is left out where there has to be one. -/
  | numberless
deriving DecidableEq

/-- The full names of the attributes of a style, in the order in which a style lists them. -/
def attributes : List Text :=
  ["bold", "dim", "italic", "underline", "blink", "blink2", "reverse", "conceal", "strike",
    "underline2", "frame", "encircle", "overline"]

/-- The attribute that a word means. -/
def attribute? (word : Text) : Option Text :=
  if attributes.contains word then some word
  else
    let short : List (Text × Text) :=
      [("b", "bold"), ("d", "dim"), ("i", "italic"), ("u", "underline"), ("r", "reverse"),
        ("c", "conceal"), ("s", "strike"), ("uu", "underline2"), ("o", "overline")]
    (short.find? fun pair => pair.1 == word).map Prod.snd

namespace Colour

/-- The names of colours. -/
def lines : List String := [
    "black red green yellow blue magenta cyan white bright_black bright_red bright_green",
    "bright_yellow bright_blue bright_magenta bright_cyan bright_white grey0 gray0 navy_blue",
    "dark_blue blue3 blue1 dark_green deep_sky_blue4 dodger_blue3 dodger_blue2 green4",
    "spring_green4 turquoise4 deep_sky_blue3 dodger_blue1 green3 spring_green3 dark_cyan",
    "light_sea_green deep_sky_blue2 deep_sky_blue1 spring_green2 cyan3 dark_turquoise",
    "turquoise2 green1 spring_green1 medium_spring_green cyan2 cyan1 dark_red deep_pink4",
    "purple4 purple3 blue_violet orange4 grey37 gray37 medium_purple4 slate_blue3 royal_blue1",
    "chartreuse4 dark_sea_green4 pale_turquoise4 steel_blue steel_blue3 cornflower_blue",
    "chartreuse3 cadet_blue sky_blue3 steel_blue1 pale_green3 sea_green3 aquamarine3",
    "medium_turquoise chartreuse2 sea_green2 sea_green1 aquamarine1 dark_slate_gray2",
    "dark_magenta dark_violet purple light_pink4 plum4 medium_purple3 slate_blue1 yellow4",
    "wheat4 grey53 gray53 light_slate_grey light_slate_gray medium_purple light_slate_blue",
    "dark_olive_green3 dark_sea_green light_sky_blue3 sky_blue2 dark_sea_green3",
    "dark_slate_gray3 sky_blue1 chartreuse1 light_green pale_green1 dark_slate_gray1 red3",
    "medium_violet_red magenta3 dark_orange3 indian_red hot_pink3 medium_orchid3 medium_orchid",
    "medium_purple2 dark_goldenrod light_salmon3 rosy_brown grey63 gray63 medium_purple1 gold3",
    "dark_khaki navajo_white3 grey69 gray69 light_steel_blue3 light_steel_blue yellow3",
    "dark_sea_green2 light_cyan3 light_sky_blue1 green_yellow dark_olive_green2 dark_sea_green1",
    "pale_turquoise1 deep_pink3 magenta2 hot_pink2 orchid medium_orchid1 orange3 light_pink3",
    "pink3 plum3 violet light_goldenrod3 tan misty_rose3 thistle3 plum2 khaki3 light_goldenrod2",
    "light_yellow3 grey84 gray84 light_steel_blue1 yellow2 dark_olive_green1 honeydew2",
    "light_cyan1 red1 deep_pink2 deep_pink1 magenta1 orange_red1 indian_red1 hot_pink",
    "dark_orange salmon1 light_coral pale_violet_red1 orchid2 orchid1 orange1 sandy_brown",
    "light_salmon1 light_pink1 pink1 plum1 gold1 navajo_white1 misty_rose1 thistle1 yellow1",
    "light_goldenrod1 khaki1 wheat1 cornsilk1 grey100 gray100 grey3 gray3 grey7 gray7 grey11",
    "gray11 grey15 gray15 grey19 gray19 grey23 gray23 grey27 gray27 grey30 gray30 grey35 gray35",
    "grey39 gray39 grey42 gray42 grey46 gray46 grey50 gray50 grey54 gray54 grey58 gray58 grey62",
    "gray62 grey66 gray66 grey70 gray70 grey74 gray74 grey78 gray78 grey82 gray82 grey85 gray85",
    "grey89 gray89 grey93 gray93"]

/-- Whether a word is the name of a colour. -/
def isName (word : Text) : Bool :=
  word == Text.ofString "default"
    || lines.any fun line : String => (Text.words (Text.ofString line)).contains word

/-- Whether a word is six hexadecimal digits after a number sign. -/
def isHexadecimal (word : Text) : Bool :=
  word.length == 7 && word.startsWith "#" && (word.drop 1).all fun c => (c.digitValue? 16).isSome

/-- What stands in the parentheses after a name, if a word ends there. -/
def inParentheses? (name : Text) (word : Text) : Option Text :=
  match Text.after? (name ++ "(") word with
  | some rest =>
    match rest.getLast? with
    | some c => if c = ')' then some rest.dropLast else none
    | none => none
  | none => none

/-- The number that decimal digits of any script spell. -/
def number? (digits : Text) : Option Nat :=
  if digits.isEmpty then none
  else (digits.mapM Text.decimalValue?).map fun values => values.foldl (fun n v => n * 10 + v) 0

/-- Whether a word is the number of a colour. -/
def isNumbered (word : Text) : Bool :=
  match inParentheses? "color" word with
  | some digits =>
    digits.all CodePoint.isDigit && decide (digits.length ≤ 3)
      && ((number? digits).map fun n => decide (n ≤ 255)).getD false
  | none => false

/-- The three numbers that a word gives as the parts of a colour. -/
def parts? (word : Text) : Option (List Text) :=
  match inParentheses? "rgb" word with
  | some inside =>
    let fits := !inside.isEmpty && inside.all fun c => c = ',' || (Text.decimalValue? c).isSome
    if fits then some (Text.parts ',' inside) else none
  | none => none

/-- Reads a colour. -/
def read (word : Text) : Except StyleDefect Text :=
  let word := word.lowered
  if isName word || isHexadecimal word || isNumbered word then .ok word
  else match parts? word with
  | some [red, green, blue] =>
    match [red, green, blue].mapM number? with
    | some numbers => if numbers.all fun n => decide (n ≤ 255) then .ok word else .error .unknown
    | none => .error .numberless
  | _ => .error .unknown

end Colour

/-- What a style is made of. -/
structure Style where
  set : List (Text × Bool) := []
  colour : Option Text := none
  background : Option Text := none
  link : Option Text := none

namespace Style

/-- Adds words to a style. -/
def read : Style → List Text → Except StyleDefect Style
  | style, [] => .ok style
  | style, word :: rest =>
    let small := word.lowered
    if small = Text.ofString "on" then
      match rest with
      | colour :: rest =>
        match Colour.read colour with
        | .ok colour => read { style with background := colour } rest
        | .error defect => .error defect
      | [] => .error .unknown
    else if small = Text.ofString "not" then
      match rest with
      | name :: rest =>
        match attribute? name with
        | some property => read { style with set := (property, false) :: style.set } rest
        | none => .error .unknown
      | [] => .error .unknown
    else if small = Text.ofString "link" then
      match rest with
      | link :: rest => read { style with link := link } rest
      | [] => .error .unknown
    else
      match attribute? small with
      | some property => read { style with set := (property, true) :: style.set } rest
      | none =>
        match Colour.read small with
        | .ok colour => read { style with colour := colour } rest
        | .error defect => .error defect

/-- The one spelling of a style. -/
def spelled (style : Style) : Text :=
  let set := attributes.filterMap fun property : Text =>
    (style.set.find? fun pair => pair.1 == property).map fun pair =>
      if pair.2 then property else "not " ++ property
  let background : List Text := style.background.toList.flatMap fun c => [Text.ofString "on", c]
  let link : List Text := style.link.toList.flatMap fun l => [Text.ofString "link", l]
  let all := set ++ style.colour.toList ++ background ++ link
  if all.isEmpty then "none" else Text.joined " " all

end Style

/-- The name under which a tag is remembered: the one spelling of the style it names, or its own
    text in small letters if it names none. There is none if the text leaves out a number. -/
def normalized? (t : Text) : Option Text :=
  let style := t.words
  if style = [] ∨ style = [Text.ofString "none"] then some "none"
  else match Style.read {} style with
  | .ok style => some style.spelled
  | .error .unknown => some (Text.lowered (t.trimmed CodePoint.separatesWords))
  | .error .numberless => none

end TagAudit.Markup
