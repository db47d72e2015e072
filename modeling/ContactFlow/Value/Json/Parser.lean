import ContactFlow.Decimal.Numeral
import ContactFlow.Value

/-!
Values read from JSON text. The entries of a table come in the order of the text. Fuel bounds how
many values, items and entries are read; a text has fewer of them than characters.
-/

namespace ContactFlow.Json

def isBlank (c : Char) : Bool := c == ' ' || c == '\t' || c == '\n' || c == '\r'

def skipBlanks (cs : List Char) : List Char := cs.dropWhile isBlank

def hexValue? (c : Char) : Option Nat :=
  if c.isDigit then some (c.toNat - 48)
  else if 'a' ≤ c && c ≤ 'f' then some (c.toNat - 87)
  else if 'A' ≤ c && c ≤ 'F' then some (c.toNat - 55)
  else none

/-- The number that hexadecimal digits write. -/
def codeUnit? (digits : List Char) : Option Nat :=
  digits.foldlM (fun n c => (hexValue? c).map (16 * n + ·)) 0

def isHigh (unit : Nat) : Bool := 0xD800 ≤ unit && unit < 0xDC00
def isLow (unit : Nat) : Bool := 0xDC00 ≤ unit && unit < 0xE000

/-- The characters that units stand for. Two units of a pair are one character. -/
def joined : List Nat → List Char
  | [] => []
  | [unit] => [Char.ofNat unit]
  | high :: low :: rest =>
    if isHigh high && isLow low then
      Char.ofNat (0x10000 + (high - 0xD800) * 0x400 + (low - 0xDC00)) :: joined rest
    else Char.ofNat high :: joined (low :: rest)

/-- The character that a letter after a backslash stands for. -/
def unescape? (c : Char) : Option Char :=
  if c == '"' || c == '\\' || c == '/' then some c
  else if c == 'n' then some '\n'
  else if c == 'r' then some '\r'
  else if c == 't' then some '\t'
  else if c == 'f' then some '\x0c'
  else if c == 'b' then some '\x08'
  else none

/-- Reads the units of a string, after the quote that opens it. -/
def units : List Char → Option (List Nat × List Char)
  | [] => none
  | '"' :: rest => some ([], rest)
  | '\\' :: 'u' :: a :: b :: c :: d :: rest => do
    let unit ← codeUnit? [a, b, c, d]
    let (l, rest) ← units rest
    pure (unit :: l, rest)
  | '\\' :: c :: rest => do
    let c ← unescape? c
    let (l, rest) ← units rest
    pure (c.toNat :: l, rest)
  | c :: rest => do
    let (l, rest) ← units rest
    pure (c.toNat :: l, rest)

def string? (cs : List Char) : Option (String × List Char) :=
  (units cs).map fun (l, rest) => (String.ofList (joined l), rest)

def isNumeral (c : Char) : Bool :=
  c.isDigit || c == '-' || c == '+' || c == '.' || c == 'e' || c == 'E'

def isReal (c : Char) : Bool := c == '.' || c == 'e' || c == 'E'

/-- A numeral with a point or an exponent is a real number. -/
def number? (cs : List Char) : Option Scalar :=
  if cs.any isReal then (Numeral.real? cs).map .real
  else (Numeral.whole? Numeral.digitValue? cs).map .int

/-- Reads a word or a number. -/
def bare (cs : List Char) : Option (Scalar × List Char) :=
  match cs with
  | 't' :: 'r' :: 'u' :: 'e' :: rest => some (.bool true, rest)
  | 'f' :: 'a' :: 'l' :: 's' :: 'e' :: rest => some (.bool false, rest)
  | 'n' :: 'u' :: 'l' :: 'l' :: rest => some (.null, rest)
  | _ => (number? (cs.takeWhile isNumeral)).map (·, cs.dropWhile isNumeral)

mutual

def value : Nat → List Char → Option (Value × List Char)
  | 0, _ => none
  | fuel + 1, cs =>
    match skipBlanks cs with
    | '{' :: rest => match skipBlanks rest with
      | '}' :: rest => some (.table [], rest)
      | rest => (entries fuel rest).map fun (t, rest) => (.table t, rest)
    | '[' :: rest => match skipBlanks rest with
      | ']' :: rest => some (.list [], rest)
      | rest => (items fuel rest).map fun (l, rest) => (.list l, rest)
    | '"' :: rest => (string? rest).map fun (s, rest) => (.text s, rest)
    | cs => (bare cs).map fun (s, rest) => (.scalar s, rest)

/-- Reads the items of a list, and the bracket that closes it. -/
def items : Nat → List Char → Option (List Value × List Char)
  | 0, _ => none
  | fuel + 1, cs => do
    let (v, rest) ← value fuel cs
    match skipBlanks rest with
    | ',' :: rest =>
      let (l, rest) ← items fuel rest
      pure (v :: l, rest)
    | ']' :: rest => pure ([v], rest)
    | _ => none

/-- Reads the entries of a table, and the bracket that closes it. -/
def entries : Nat → List Char → Option (List (Scalar × Value) × List Char)
  | 0, _ => none
  | fuel + 1, cs => do
    match skipBlanks cs with
    | '"' :: rest =>
      let (k, rest) ← string? rest
      match skipBlanks rest with
      | ':' :: rest =>
        let (v, rest) ← value fuel rest
        match skipBlanks rest with
        | ',' :: rest =>
          let (t, rest) ← entries fuel rest
          pure ((.text k, v) :: t, rest)
        | '}' :: rest => pure ([(.text k, v)], rest)
        | _ => none
      | _ => none
    | _ => none

end

/-- The value that a text writes, if it writes one and nothing else. -/
def read? (s : String) : Option Value :=
  match value (s.length + 1) s.toList with
  | some (v, rest) => if (skipBlanks rest).isEmpty then some v else none
  | none => none

end ContactFlow.Json
