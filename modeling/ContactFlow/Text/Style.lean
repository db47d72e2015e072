import ContactFlow.Decimal.Spelling
import ContactFlow.Text.Blank
import ContactFlow.Text.Case
import ContactFlow.Text.Digit

/-!
Styles of text by their definitions: words for attributes and colors in any order. Two definitions
of one style have the same normal form. What defines no style stands for itself in lower case, but a
color whose shares are no numbers cannot be read at all.
-/

namespace ContactFlow.Text

/-- Why a definition defines no style: a word of it means nothing, or a share is no number. -/
inductive StyleFault
  | undefined
  | number (message : String)
  deriving DecidableEq, Repr

namespace Style

/-- The attributes in the order of the normal form, each with its short forms. -/
def attributes : List (String × List String) :=
  [("bold", ["b"]), ("dim", ["d"]), ("italic", ["i"]), ("underline", ["u"]), ("blink", []),
    ("blink2", []), ("reverse", ["r"]), ("conceal", ["c"]), ("strike", ["s"]),
    ("underline2", ["uu"]), ("frame", []), ("encircle", []), ("overline", ["o"])]

def attribute? (word : String) : Option String :=
  (attributes.find? fun (name, short) => name == word || short.contains word).map (·.1)

def colorSource : String :=
  "black red green yellow blue magenta cyan white bright_black bright_red bright_green
  bright_yellow bright_blue bright_magenta bright_cyan bright_white grey0 gray0 navy_blue
  dark_blue blue3 blue1 dark_green deep_sky_blue4 dodger_blue3 dodger_blue2 green4 spring_green4
  turquoise4 deep_sky_blue3 dodger_blue1 green3 spring_green3 dark_cyan light_sea_green
  deep_sky_blue2 deep_sky_blue1 spring_green2 cyan3 dark_turquoise turquoise2 green1
  spring_green1 medium_spring_green cyan2 cyan1 dark_red deep_pink4 purple4 purple3 blue_violet
  orange4 grey37 gray37 medium_purple4 slate_blue3 royal_blue1 chartreuse4 dark_sea_green4
  pale_turquoise4 steel_blue steel_blue3 cornflower_blue chartreuse3 cadet_blue sky_blue3
  steel_blue1 pale_green3 sea_green3 aquamarine3 medium_turquoise chartreuse2 sea_green2
  sea_green1 aquamarine1 dark_slate_gray2 dark_magenta dark_violet purple light_pink4 plum4
  medium_purple3 slate_blue1 yellow4 wheat4 grey53 gray53 light_slate_grey light_slate_gray
  medium_purple light_slate_blue dark_olive_green3 dark_sea_green light_sky_blue3 sky_blue2
  dark_sea_green3 dark_slate_gray3 sky_blue1 chartreuse1 light_green pale_green1
  dark_slate_gray1 red3 medium_violet_red magenta3 dark_orange3 indian_red hot_pink3
  medium_orchid3 medium_orchid medium_purple2 dark_goldenrod light_salmon3 rosy_brown grey63
  gray63 medium_purple1 gold3 dark_khaki navajo_white3 grey69 gray69 light_steel_blue3
  light_steel_blue yellow3 dark_sea_green2 light_cyan3 light_sky_blue1 green_yellow
  dark_olive_green2 dark_sea_green1 pale_turquoise1 deep_pink3 magenta2 hot_pink2 orchid
  medium_orchid1 orange3 light_pink3 pink3 plum3 violet light_goldenrod3 tan misty_rose3
  thistle3 plum2 khaki3 light_goldenrod2 light_yellow3 grey84 gray84 light_steel_blue1 yellow2
  dark_olive_green1 honeydew2 light_cyan1 red1 deep_pink2 deep_pink1 magenta1 orange_red1
  indian_red1 hot_pink dark_orange salmon1 light_coral pale_violet_red1 orchid2 orchid1 orange1
  sandy_brown light_salmon1 light_pink1 pink1 plum1 gold1 navajo_white1 misty_rose1 thistle1
  yellow1 light_goldenrod1 khaki1 wheat1 cornsilk1 grey100 gray100 grey3 gray3 grey7 gray7
  grey11 gray11 grey15 gray15 grey19 gray19 grey23 gray23 grey27 gray27 grey30 gray30 grey35
  gray35 grey39 gray39 grey42 gray42 grey46 gray46 grey50 gray50 grey54 gray54 grey58 gray58
  grey62 gray62 grey66 gray66 grey70 gray70 grey74 gray74 grey78 gray78 grey82 gray82 grey85
  gray85 grey89 gray89 grey93 gray93"

def colorNames : List String := (words colorSource.toList).map String.ofList

def isHexDigit (c : Char) : Bool := c.isDigit || ('a' ≤ c && c ≤ 'f')

def enclosed? (opening : String) (cs : List Char) : Option (List Char) :=
  if opening.toList.isPrefixOf cs && cs.getLast? == some ')' then
    some ((cs.drop opening.length).dropLast)
  else none

/-- Parts between commas. -/
def commaParts : List Char → List (List Char)
  | [] => [[]]
  | ',' :: rest => [] :: commaParts rest
  | c :: rest => match commaParts rest with
    | p :: ps => (c :: p) :: ps
    | [] => [[c]]

/-- Numbers of colors and shares of them end here. -/
def greatest : Int := 255

/-- A color by its number, which has up to three plain digits. -/
def isNumbered (cs : List Char) : Bool :=
  match enclosed? "color(" cs with
  | some ds => !ds.isEmpty && ds.length ≤ 3 && ds.all Char.isDigit &&
      (ds.foldl (fun n c => 10 * n + (c.toNat - '0'.toNat)) 0 : Nat) ≤ greatest
  | none => false

/-- The shares between the brackets of a color that is given by them. -/
def shares? (cs : List Char) : Option (List (List Char)) :=
  ((enclosed? "rgb(" cs).filter fun cs =>
    !cs.isEmpty && cs.all fun c => c == ',' || (digitValue? c).isSome).map commaParts

def undefinedUnless (b : Bool) : Except StyleFault Unit := if b then .ok () else .error .undefined

/-- A color is known by its name, or given by its number or its shares of red, green and blue. -/
def checkColor (word : String) : Except StyleFault Unit :=
  let cs := word.toList
  match shares? cs with
  | some shares => do
    undefinedUnless (shares.length == 3)
    let ns ← shares.mapM fun cs => (Spelling.whole 10 (String.ofList cs)).mapError .number
    undefinedUnless (ns.all (· ≤ greatest))
  | none => undefinedUnless (word == "default" || colorNames.contains word || isNumbered cs ||
      match cs with
      | '#' :: digits => digits.length == 6 && digits.all isHexDigit
      | _ => false)

end Style

/-- What a definition says, each thing once; the last word on it counts. -/
structure Style where
  set : List (String × Bool) := []
  color : Option String := none
  background : Option String := none
  link : Option String := none
  deriving Repr

namespace Style

def withAttribute (s : Style) (name : String) (on : Bool) : Style :=
  { s with set := (name, on) :: s.set }

/-- Reads the words of a definition. -/
def ofWords (s : Style) : List (List Char) → Except StyleFault Style
  | [] => .ok s
  | w :: rest =>
    let raw := String.ofList w
    let word := lower raw
    if word = "on" then
      match rest with
      | color :: rest => do
        let color := lower (String.ofList color)
        checkColor color
        ofWords { s with background := some color } rest
      | [] => .error .undefined
    else if word = "not" then
      match rest with
      | name :: rest => match attribute? (String.ofList name) with
        | some name => ofWords (s.withAttribute name false) rest
        | none => .error .undefined
      | [] => .error .undefined
    else if word = "link" then
      match rest with
      | target :: rest => ofWords { s with link := some (String.ofList target) } rest
      | [] => .error .undefined
    else match attribute? word with
      | some name => ofWords (s.withAttribute name true) rest
      | none => do
        checkColor word
        ofWords { s with color := some word } rest

def parts (s : Style) : List String :=
  (attributes.filterMap fun (name, _) =>
    (s.set.lookup name).map fun on => if on then name else "not " ++ name) ++
  s.color.toList ++ (s.background.map ("on " ++ ·)).toList ++ (s.link.map ("link " ++ ·)).toList

def render (s : Style) : String :=
  match s.parts with
  | [] => "none"
  | parts => " ".intercalate parts

/-- The normal form of a definition, or what is wrong with a number in it. -/
def normal (definition : List Char) : Except String String :=
  let trimmed := String.ofList (trim isBlank definition)
  if definition.isEmpty || trimmed = "none" then .ok "none"
  else match ofWords {} (words definition) with
    | .ok s => .ok s.render
    | .error .undefined => .ok (lower trimmed)
    | .error (.number message) => .error message

end Style

end ContactFlow.Text
