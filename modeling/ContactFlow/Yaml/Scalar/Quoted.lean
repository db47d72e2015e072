import ContactFlow.Yaml.Cursor
import ContactFlow.Yaml.Failure

/-!
Quoted scalars. Between single quotes only the quote itself is special, and is written twice.
Between double quotes a backslash starts an escape. The lines of both are folded.
-/

namespace ContactFlow.Yaml.Quoted

/-- The character that a letter after a backslash stands for. -/
def escape? : Char → Option Char
  | '0' => some '\x00'
  | 'a' => some '\x07'
  | 'b' => some '\x08'
  | 't' => some '\t'
  | '\t' => some '\t'
  | 'n' => some '\n'
  | 'v' => some '\x0b'
  | 'f' => some '\x0c'
  | 'r' => some '\r'
  | 'e' => some '\x1b'
  | ' ' => some ' '
  | '"' => some '"'
  | '\\' => some '\\'
  | '/' => some '/'
  | 'N' => some '\u0085'
  | '_' => some '\u00a0'
  | 'L' => some '\u2028'
  | 'P' => some '\u2029'
  | _ => none

/-- How many hexadecimal digits follow a letter. -/
def codeWidth? : Char → Option Nat
  | 'x' => some 2
  | 'u' => some 4
  | 'U' => some 8
  | _ => none

def hexValue? (c : Char) : Option Nat :=
  if c.isDigit then some (c.toNat - '0'.toNat)
  else if 'a' ≤ c && c ≤ 'f' then some (c.toNat - 'a'.toNat + 10)
  else if 'A' ≤ c && c ≤ 'F' then some (c.toNat - 'A'.toNat + 10)
  else none

def code? (cs : List Char) : Option Nat :=
  cs.foldlM (fun n c => (hexValue? c).map (16 * n + ·)) 0

abbrev Scan := Except Failure

def orMalformed {α : Type} : Option α → Scan α
  | some a => .ok a
  | none => .error .malformed

/-- Codes end here. -/
def codeLimit : Nat := 0x110000

/-- The character with the code that so many digits give. -/
def coded (width : Nat) (c : Cursor) : Scan (Char × Cursor) := do
  let ds := c.rest.take width
  let n ← orMalformed (if ds.length = width then code? ds else none)
  if codeLimit ≤ n then throw (.code n (c.index + width - 1))
  else if n.isValidChar then pure (Char.ofNat n, c.forward width)
  else throw .malformed

def isBlank (c : Char) : Bool := c == ' ' || c == '\t'

/-- The breaks of empty lines. No separator of documents may stand among them. -/
def breaks : Nat → Cursor → Option (List Char × Cursor)
  | 0, _ => none
  | fuel + 1, c =>
    if c.atSeparator then none
    else
      let c := c.skip isBlank
      match c.lineBreak? with
      | none => some ([], c)
      | some (b, c) => (breaks fuel c).map fun (more, c) => (b :: more, c)

/-- Reads an escape after its backslash. An escaped break vanishes. -/
def escaped (c : Cursor) : Scan (List Char × Cursor) :=
  match c.peek? with
  | none => .error .malformed
  | some letter => match escape? letter, codeWidth? letter with
    | some ch, _ => .ok ([ch], c.next)
    | none, some width => (coded width c.next).map fun (ch, c) => ([ch], c)
    | none, none => match c.lineBreak? with
      | some (_, c) => orMalformed (breaks (c.rest.length + 1) c)
      | none => .error .malformed

/-- Reads blanks and breaks inside the quotes. -/
def blanks? (c : Cursor) : Option (List Char × Cursor) :=
  let (blanks, c) := c.span isBlank
  match c.peek? with
  | none => none
  | some _ => match c.lineBreak? with
    | none => some (blanks, c)
    | some (b, c) => (breaks (c.rest.length + 1) c).map fun (more, c) => (foldBreaks b more, c)

/-- Reads up to the closing quote. -/
def scanFrom (double : Bool) : Nat → String → Cursor → Scan (String × Cursor)
  | 0, _, _ => .error .malformed
  | fuel + 1, text, c => match c.peek? with
    | none => .error .malformed
    | some ch =>
      if isBlankOrBreak ch then do
        let (more, c) ← orMalformed (blanks? c)
        scanFrom double fuel (text ++ String.ofList more) c
      else if double && ch == '\\' then do
        let (more, c) ← escaped c.next
        scanFrom double fuel (text ++ String.ofList more) c
      else if !double && ch == '\'' && c.peekAt? 1 == some '\'' then
        scanFrom double fuel (text.push '\'') (c.forward 2)
      else if ch == (if double then '"' else '\'') then .ok (text, c.next)
      else
        let quiet (x : Char) := !isBlankOrBreak x && x != '\\' && x != '\'' && x != '"'
        let (run, c') := c.span quiet
        if run.isEmpty then scanFrom double fuel (text.push ch) c.next
        else scanFrom double fuel (text ++ String.ofList run) c'

/-- Reads a quoted scalar from its opening quote. -/
def scan (double : Bool) (c : Cursor) : Scan (String × Cursor) :=
  scanFrom double (c.rest.length + 1) "" c.next

end ContactFlow.Yaml.Quoted
