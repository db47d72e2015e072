import ContactFlow.Decimal.Spelling
import ContactFlow.Text.Case
import ContactFlow.Yaml.Failure
import ContactFlow.Yaml.Scalar.Binary
import ContactFlow.Yaml.Stamp

/-!
What a scalar means. A plain one is null, a truth value, a number or a stamp when it is written
like one, and a text otherwise. Numbers may have underscores, and may be written to the base of
sixty. A scalar that is said to be of a kind may be written more freely.
-/

namespace ContactFlow.Yaml

/-- The kinds of scalar that a plain text can be, and the two keys of a meaning of their own. -/
inductive ScalarKind
  | null | bool | int | real | stamp | binary | text | merge | default
  deriving DecidableEq, Repr, Inhabited

namespace Meaning

def nullWords : List String := ["~", "null", "Null", "NULL", ""]

def trueWords : List String := ["yes", "Yes", "YES", "true", "True", "TRUE", "on", "On", "ON"]
def falseWords : List String := ["no", "No", "NO", "false", "False", "FALSE", "off", "Off", "OFF"]

def isBinary (c : Char) : Bool := c == '0' || c == '1' || c == '_'
def isOctal (c : Char) : Bool := ('0' ≤ c && c ≤ '7') || c == '_'
def isDecimal (c : Char) : Bool := c.isDigit || c == '_'
def isHex (c : Char) : Bool :=
  c.isDigit || ('a' ≤ c && c ≤ 'f') || ('A' ≤ c && c ≤ 'F') || c == '_'

/-- Parts of at most two digits below sixty, a colon before each. -/
def sixties : List Char → Bool
  | [] => true
  | ':' :: a :: ':' :: rest => a.isDigit && sixties (':' :: rest)
  | [':', a] => a.isDigit
  | ':' :: a :: b :: rest => '0' ≤ a && a ≤ '5' && b.isDigit && sixties rest
  | _ => false

def startsPositive : List Char → Bool
  | c :: _ => '1' ≤ c && c ≤ '9'
  | [] => false

def isSixtyInt (cs : List Char) : Bool :=
  let rest := cs.dropWhile isDecimal
  startsPositive cs && !rest.isEmpty && sixties rest

def isUnsignedInt : List Char → Bool
  | ['0'] => true
  | '0' :: 'b' :: rest => !rest.isEmpty && rest.all isBinary
  | '0' :: 'x' :: rest => !rest.isEmpty && rest.all isHex
  | '0' :: rest => rest.all isOctal
  | cs => (startsPositive cs && cs.all isDecimal) || isSixtyInt cs

def isInt (cs : List Char) : Bool := isUnsignedInt (Numeral.sign cs).2

def startsDigit : List Char → Bool
  | c :: _ => c.isDigit
  | [] => false

/-- Nothing, or an exponent with a sign. -/
def isExponent : List Char → Bool
  | [] => true
  | e :: sign :: ds => (e == 'e' || e == 'E') && (sign == '+' || sign == '-') && !ds.isEmpty &&
      ds.all Char.isDigit
  | _ => false

/-- A point, digits and perhaps an exponent. -/
def isFraction : List Char → Bool
  | '.' :: rest => isExponent (rest.dropWhile isDecimal)
  | _ => false

def isSixtyReal (cs : List Char) : Bool :=
  let rest := cs.dropWhile isDecimal
  let parts := rest.takeWhile (· != '.')
  match rest.dropWhile (· != '.') with
  | '.' :: fraction => !parts.isEmpty && sixties parts && fraction.all isDecimal
  | _ => false

def infinityWords : List String := [".inf", ".Inf", ".INF"]
def nanWords : List String := [".nan", ".NaN", ".NAN"]

def isReal (cs : List Char) : Bool :=
  let (_, unsigned) := Numeral.sign cs
  (startsDigit unsigned && (isFraction (unsigned.dropWhile isDecimal) || isSixtyReal unsigned)) ||
    (startsDigit (cs.drop 1) && isFraction cs) ||
    infinityWords.contains (String.ofList unsigned) || nanWords.contains (String.ofList cs)

/-- A text without the break at its end. -/
def withoutBreak (cs : List Char) : List Char :=
  if cs.getLast? == some '\n' then cs.dropLast else cs

/-- What a word is written like. No word at all is null. -/
def kindOfWord (s : String) : ScalarKind :=
  let cs := s.toList
  if trueWords.contains s || falseWords.contains s then .bool
  else if isReal cs then .real
  else if isInt cs then .int
  else if s = "<<" then .merge
  else if nullWords.contains s then .null
  else if StampText.isPlain cs then .stamp
  else if s = "=" then .default
  else .text

/-- What a text is written like. A break at its end does not count, but nothing else than a break is
no word. -/
def kind (s : String) : ScalarKind :=
  if s = "\n" then .text else kindOfWord (String.ofList (withoutBreak s.toList))

def withoutBars (cs : List Char) : List Char := cs.filter (· != '_')

/-- The parts between the colons. -/
def parts : List Char → List (List Char)
  | [] => [[]]
  | ':' :: rest => [] :: parts rest
  | c :: rest => match parts rest with
    | p :: ps => (c :: p) :: ps
    | [] => [[c]]

def whole (base : Nat) (cs : List Char) : Except Failure Int :=
  (Spelling.whole base (String.ofList cs)).mapError .number

def sixtyInt (ps : List (List Char)) : Except Failure Int := do
  let ds ← ps.mapM (whole 10)
  pure (ds.foldl (fun n d => 60 * n + d) 0)

def unsignedInt : List Char → Except Failure Int
  | [] => .error .noDigits
  | ['0'] => .ok 0
  | '0' :: 'b' :: rest => whole 2 rest
  | '0' :: 'x' :: rest => whole 16 rest
  | '0' :: rest => whole 8 ('0' :: rest)
  | cs => if cs.contains ':' then sixtyInt (parts cs) else whole 10 cs

def int (s : String) : Except Failure Int := do
  let (negative, cs) := Numeral.sign (withoutBars s.toList)
  let n ← unsignedInt cs
  pure (if negative then -n else n)

def decimal (cs : List Char) : Except Failure Binary64 :=
  (Spelling.real (String.ofList cs)).mapError .number

/-- Adds the parts up, each of them sixty times as much as the one before it. Every product and
every sum is rounded. The weight of a part has to be a double itself. -/
def addSixties : Binary64 → Nat → List Binary64 → Except Failure Binary64
  | sum, _, [] => .ok sum
  | sum, weight, d :: rest =>
    match Binary64.ofInt weight with
    | .infinite _ => .error .weight
    | w => addSixties (sum.add (d.mul w)) (weight * 60) rest

/-- The sum of the parts, of which the last one counts by itself. -/
def sixtyReal (ps : List (List Char)) : Except Failure Binary64 := do
  let ds ← ps.mapM decimal
  addSixties (.ofInt 0) 1 ds.reverse

def unsignedReal (cs : List Char) : Except Failure Binary64 :=
  if cs = ".inf".toList then .ok (.infinite false)
  else if cs = ".nan".toList then .ok .nan
  else if cs.contains ':' then sixtyReal (parts cs)
  else decimal cs

def real (s : String) : Except Failure Binary64 := do
  let cs := (Text.lower (String.ofList (withoutBars s.toList))).toList
  if cs.isEmpty then throw .noDigits
  let (negative, cs) := Numeral.sign cs
  let x ← unsignedReal cs
  pure (if negative then x.neg else x)

def bool (s : String) : Except Failure Bool :=
  let word := Text.lower s
  if ["yes", "true", "on"].contains word then .ok true
  else if ["no", "false", "off"].contains word then .ok false
  else .error (.truth word)

def stamp (s : String) : Except Failure Stamp :=
  match StampText.read? (withoutBreak s.toList) with
  | none => .error .noStamp
  | some t => t.stamp.mapError .number

/-- The scalar that a text spells when it is of a kind. The keys of a meaning of their own are not
values. -/
def scalar (s : String) : ScalarKind → Except Failure Scalar
  | .null => .ok .null
  | .bool => (bool s).map .bool
  | .int => (int s).map .int
  | .real => (real s).map .real
  | .stamp => (stamp s).map .stamp
  | .binary => match Binary.read? s.toList with
    | some bytes => .ok (.bytes bytes)
    | none => .error .malformed
  | .text => .ok (.text s)
  | .merge | .default => .error .malformed

end Meaning

end ContactFlow.Yaml
