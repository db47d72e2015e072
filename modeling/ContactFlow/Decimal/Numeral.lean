import ContactFlow.Decimal.Binary64

/-!
Numerals: whole numbers, whose digits single underscores may part, and decimal numbers with a point,
an exponent or both.
-/

namespace ContactFlow.Numeral

/-- Whole numbers with more digits than this are neither read from decimal text nor written as such.
-/
def maxDigits : Nat := 4300

/-- The least number that has too many digits. -/
def limit : Nat := Nat.pow 10 maxDigits

def isWritable (n : Int) : Bool := n.natAbs < limit

def unwritableMessage : String :=
  "Exceeds the limit (" ++ toString maxDigits ++ " digits) for integer string conversion; use " ++
    "sys.set_int_max_str_digits() to increase the limit"

def unreadableMessage (digits : Nat) : String :=
  "Exceeds the limit (" ++ toString maxDigits ++ " digits) for integer string conversion: value " ++
    "has " ++ toString digits ++ " digits; use sys.set_int_max_str_digits() to increase the limit"

def digitValue? (c : Char) : Option Nat :=
  if c.isDigit then some (c.toNat - '0'.toNat) else none

/-- Reads digits that single underscores may part. The flag says that a digit came last. -/
def digits (value? : Char → Option Nat) : Bool → Nat → List Char → Option Nat
  | afterDigit, n, [] => if afterDigit then some n else none
  | afterDigit, n, '_' :: cs => if afterDigit && !cs.isEmpty then digits value? false n cs else none
  | _, n, c :: cs => match value? c with
    | some d => digits value? true (10 * n + d) cs
    | none => none

/-- Splits a sign off. The flag says that it is a minus. -/
def sign : List Char → Bool × List Char
  | '-' :: cs => (true, cs)
  | '+' :: cs => (false, cs)
  | cs => (false, cs)

/-- Reads a whole number with or without a sign. -/
def whole? (value? : Char → Option Nat) (cs : List Char) : Option Int :=
  let (negative, cs) := sign cs
  (digits value? false 0 cs).map fun n => if negative then -(n : Int) else n

def plainDigits? (cs : List Char) : Option Nat :=
  if cs.isEmpty || !cs.all Char.isDigit then none
  else some (cs.foldl (fun n c => 10 * n + (c.toNat - '0'.toNat)) 0)

/-- The power of ten after an exponent's mark. -/
def power? : List Char → Option Int
  | [] => some 0
  | c :: cs =>
    if c == 'e' || c == 'E' then
      let (negative, cs) := sign cs
      (plainDigits? cs).map fun n => if negative then -(n : Int) else n
    else none

/-- Reads a decimal number without a sign: digits on at least one side of the point. -/
def unsigned? (negative : Bool) (cs : List Char) : Option Binary64 :=
  let whole := cs.takeWhile Char.isDigit
  let rest := cs.dropWhile Char.isDigit
  let (fraction, rest) := match rest with
    | '.' :: rest => (rest.takeWhile Char.isDigit, rest.dropWhile Char.isDigit)
    | _ => ([], rest)
  if whole.isEmpty && fraction.isEmpty then none
  else (power? rest).map (Binary64.ofNumeral negative whole fraction)

/-- Reads a decimal number, an infinity or the value that is not a number. -/
def real? (cs : List Char) : Option Binary64 :=
  let (negative, cs) := sign cs
  let word := String.ofList (cs.map Char.toLower)
  if word = "inf" || word = "infinity" then some (.infinite negative)
  else if word = "nan" then some .nan
  else unsigned? negative cs

end ContactFlow.Numeral
