import ContactFlow.Decimal.Numeral
import ContactFlow.Text.Blank
import ContactFlow.Text.Digit
import ContactFlow.Text.Quoted

/-!
Spellings of numbers in texts: digits of any script, white space around them, a sign in front, and
for whole numbers a base that their first characters may name once more. The cause of a refusal is
told in the words that messages use for it.
-/

namespace ContactFlow.Spelling

/-- The texts that numbers are spelled in come with plain spaces and digits instead of those of
other scripts. Nothing is left from a character on that is neither. -/
def plain : List Char → List Char
  | [] => []
  | c :: rest =>
    if c.toNat < 127 then c :: plain rest
    else if Text.isBlank c then ' ' :: plain rest
    else match Text.digitValue? c with
      | some d => Char.ofNat ('0'.toNat + d) :: plain rest
      | none => ['?']

def isGap (c : Char) : Bool := c == ' ' || ('\t' ≤ c && c ≤ '\r')

/-- The value of a digit, where letters count on from ten. -/
def digitIn? (base : Nat) (c : Char) : Option Nat :=
  let d? := if c.isDigit then some (c.toNat - '0'.toNat)
    else if c.isLower then some (c.toNat - 'a'.toNat + 10)
    else if c.isUpper then some (c.toNat - 'A'.toNat + 10)
    else none
  d?.filter (· < base)

/-- The digits that a text begins with, and what comes after them. Underscores may part them, one
at a time. -/
def digits? (base : Nat) : Bool → List Char → Option (List Nat × List Char)
  | barBefore, [] => if barBefore then none else some ([], [])
  | barBefore, c :: rest =>
    if c == '_' then (if barBefore then none else digits? base true rest)
    else match digitIn? base c with
      | some d => (digits? base false rest).map fun (ds, rest) => (d :: ds, rest)
      | none => if barBefore then none else some ([], c :: rest)

/-- The letters that name a base behind a zero. -/
def baseLetters : Nat → List Char
  | 2 => ['b', 'B']
  | 8 => ['o', 'O']
  | 16 => ['x', 'X']
  | _ => []

/-- Drops the name of the base. One underscore may follow it. -/
def afterBase (base : Nat) : List Char → List Char
  | '0' :: c :: rest =>
    if (baseLetters base).contains c then
      match rest with
      | '_' :: rest => rest
      | rest => rest
    else '0' :: c :: rest
  | cs => cs

def notWhole (base : Nat) (s : String) : String :=
  "invalid literal for int() with base " ++ toString base ++ ": " ++
    String.ofList ((Text.quoted s).toList.take 200)

/-- The whole number that a text spells to a base. Decimal digits may not be too many. -/
def whole (base : Nat) (s : String) : Except String Int :=
  let (negative, cs) := Numeral.sign ((plain s.toList).dropWhile isGap)
  match afterBase base cs with
  | [] | '_' :: _ => .error (notWhole base s)
  | cs => match digits? base false cs with
    | none | some ([], _) => .error (notWhole base s)
    | some (ds, rest) =>
      if base == 10 && Numeral.maxDigits < ds.length then
        .error (Numeral.unreadableMessage ds.length)
      else if !rest.all isGap then .error (notWhole base s)
      else
        let n := ds.foldl (fun n d => base * n + d) 0
        .ok (if negative then -(n : Int) else n)

/-- The number that a text spells in decimal, with a point or an exponent or neither. -/
def real (s : String) : Except String Binary64 :=
  match Numeral.real? (Text.trim isGap (plain s.toList)) with
  | some x => .ok x
  | none => .error ("could not convert string to float: " ++ Text.quoted s)

end ContactFlow.Spelling
