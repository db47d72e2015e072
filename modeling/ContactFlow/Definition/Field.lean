import ContactFlow.Decimal.Numeral
import ContactFlow.Definition.Fault
import ContactFlow.Ordered
import ContactFlow.Text.Blank
import ContactFlow.Value.Display
import ContactFlow.Value.Shape

/-!
Reading the parts of a definition. A number may be given as a text, and a truth value as a number or
as one of a few words. Bytes stand for the text that they spell. A record is a table whose fields
are known by name.
-/

namespace ContactFlow

namespace Place

/-- Where the numbers that fit a machine word end. -/
def wordLimit : Int := 9223372036854775808

/-- The place of an entry. Whole numbers stand for themselves as long as they fit a machine word. -/
def ofKey (key : Scalar) : Place :=
  match key with
  | .text s => .name s
  | .bool b => .index (if b then 1 else 0)
  | .int n => if -wordLimit ≤ n && n < wordLimit then .index n else .name (toString n)
  | key => .name key.inner

end Place

namespace Read

variable {α β : Type}

/-- The text that a value is, or that its bytes spell. -/
def spelled : Value → Problem → Problem → Checked String
  | .text s, _, _ => .good s
  | .scalar (.bytes bs), garbled, _ => match String.fromUTF8? ⟨bs.toArray⟩ with
    | some s => .good s
    | none => .fault garbled
  | _, _, other => .fault other

def text (v : Value) : Checked String := spelled v .garbledText .notText

/-- Anything at all. -/
def anything : Value → Checked Value := .good

/-! Whole numbers may be given as texts. A numeral without further signs is read as it stands. Any
other is cleaned first: white space, a plus, leading zeros, a point with the zeros behind it, and
underscores are taken away. -/

/-- The outcome of reading a numeral: too long to be read, or no numeral at all. -/
abbrev Numeric (α : Type) := Except Problem α

def digitsOf (cs : List Char) : Nat := cs.foldl (fun n c => 10 * n + (c.toNat - '0'.toNat)) 0

/-- Splits a minus off. -/
def minus : List Char → Bool × List Char
  | '-' :: cs => (true, cs)
  | cs => (false, cs)

/-- Reads digits without a zero in front, perhaps after a minus. When there are too many of them, it
does not matter what comes after. -/
def plainWhole (cs : List Char) : Numeric Int :=
  let (negative, ds) := minus cs
  if ds.head? != some '0' && Numeral.maxDigits < (ds.takeWhile Char.isDigit).length then
    .error .wholeSize
  else if ds.isEmpty || !ds.all Char.isDigit || (ds.head? == some '0' && 1 < ds.length) then
    .error .wholeSyntax
  else .ok (if negative then -(digitsOf ds : Int) else digitsOf ds)

/-- Drops zeros and underscores in front of the first other digit, or of the last character. The
character that was dropped last comes with what is still to be read. -/
def dropZerosAfter (last : Char) : List Char → Option (List Char)
  | [] => some [last]
  | c :: rest =>
    if c == '0' || c == '_' then dropZerosAfter c rest
    else if ('1' ≤ c && c ≤ '9') || c == '-' then some (c :: rest)
    else if c == '.' then some (last :: c :: rest)
    else none

def dropLeadingZeros : List Char → Option (List Char)
  | '0' :: rest => dropZerosAfter '0' rest
  | c :: rest => if ('1' ≤ c && c ≤ '9') || c == '-' then some (c :: rest) else none
  | [] => none

/-- The digits without a point that only zeros follow. -/
def withoutZeros (cs : List Char) : List Char :=
  match cs.dropWhile (· != '.') with
  | '.' :: zeros =>
    if !zeros.isEmpty && zeros.all (· == '0') then cs.takeWhile (· != '.') else cs
  | _ => cs

def hasDoubleBar : List Char → Bool
  | '_' :: '_' :: _ => true
  | _ :: rest => hasDoubleBar rest
  | [] => false

/-- The characters without their underscores, if there are any and each parts two characters. -/
def withoutBars? (cs : List Char) : Option (List Char) :=
  let isBar := (· == some '_')
  if !cs.contains '_' || isBar cs.head? || isBar cs.getLast? || hasDoubleBar cs then none
  else some (cs.filter (· != '_'))

def dropPlus : List Char → List Char
  | '+' :: rest => rest
  | cs => cs

def hasTwoSigns (cs : List Char) : Bool := cs.head? == some '+' && cs[1]? == some '-'

/-- A numeral after cleaning. A minus is set aside meanwhile. -/
def cleaned? (cs : List Char) : Option (List Char) :=
  let cs := Text.trim Text.isSpace cs
  if hasTwoSigns cs then none
  else
    let (negative, cs) := minus (dropPlus cs)
    (dropLeadingZeros cs).map fun cs =>
      let cs := withoutZeros cs
      (if negative then ['-'] else []) ++ (withoutBars? cs).getD cs

def wholeText (s : String) : Numeric Int :=
  match plainWhole s.toList with
  | .ok n => .ok n
  | .error .wholeSize => .error .wholeSize
  | .error _ => match cleaned? s.toList with
    | some cs => (plainWhole cs).mapError fun _ => .wholeSyntax
    | none => .error .wholeSyntax

def numeric {α : Type} : Numeric α → Checked α
  | .ok a => .good a
  | .error p => .fault p

def wholeReal (x : Binary64) : Checked Int :=
  if !x.isFinite then .fault .notFinite
  else match x.toInt? with
    | none => .fault .fraction
    | some n =>
      if -Place.wordLimit < n && n < Place.wordLimit then .good n else .fault .wholeSize

def whole : Value → Checked Int
  | .int n => .good n
  | .bool b => .good (if b then 1 else 0)
  | .real x => wholeReal x
  | v => (spelled v .wholeSyntax .notWhole).andThen fun s => numeric (wholeText s)

def atLeast (least : Int) (n : Int) : Checked Int :=
  if n < least then .fault .tooLow else .good n

def atMost (greatest : Int) (n : Int) : Checked Int :=
  if greatest < n then .fault .tooHigh else .good n

/-- A whole number from one on. -/
def positive (v : Value) : Checked Int := (whole v).andThen (atLeast 1)

/-- A whole number from one up to the greatest given. -/
def positiveUpTo (greatest : Int) (v : Value) : Checked Int :=
  (positive v).andThen (atMost greatest)

/-- Numerals may have underscores, but then no white space around them. -/
def numberText (s : String) : Numeric Binary64 :=
  let cs := s.toList
  match Numeral.real? (Text.trim Text.isSpace cs) with
  | some x => .ok x
  | none => match (withoutBars? cs).bind Numeral.real? with
    | some x => .ok x
    | none => .error .numberSyntax

def numberOfInt (n : Int) : Checked Binary64 :=
  let x := Binary64.ofInt n
  if x.isFinite then .good x else .fault .notNumber

def number : Value → Checked Binary64
  | .real x => .good x
  | .int n => numberOfInt n
  | .bool b => numberOfInt (if b then 1 else 0)
  | v => (spelled v .numberSyntax .notNumber).andThen fun s => numeric (numberText s)

def zero : Binary64 := .ofInt 0
def one : Binary64 := .ofInt 1

/-- A number between zero and one. -/
def share (v : Value) : Checked Binary64 :=
  (number v).andThen fun x =>
    if !x.le one then .fault .tooHigh
    else if !zero.le x then .fault .tooLow
    else .good x

def trueWords : List String := ["1", "true", "t", "yes", "y", "on"]
def falseWords : List String := ["0", "false", "f", "no", "n", "off"]

def truthWord (s : String) : Checked Bool :=
  let word := String.ofList (s.toList.map Char.toLower)
  if trueWords.contains word then .good true
  else if falseWords.contains word then .good false
  else .fault .truthSyntax

def truthNumber (n : Int) : Checked Bool :=
  if n = 1 then .good true else if n = 0 then .good false else .fault .truthSyntax

/-- Numbers stand for truth values only as long as they fit a machine word. -/
def truth : Value → Checked Bool
  | .bool b => .good b
  | .int n =>
    if -Place.wordLimit ≤ n && n < Place.wordLimit then truthNumber n else .fault .notTruth
  | .real x => match x.toInt? with
    | some n =>
      if -Place.wordLimit < n && n < Place.wordLimit then truthNumber n else .fault .notTruth
    | none => .fault .notTruth
  | v => (spelled v .truthSyntax .notTruth).andThen truthWord

/-- One of the values that a text can be read as. -/
def choice (ofText? : String → Option α) (otherwise : Problem) : Value → Checked α
  | .text s => match ofText? s with
    | some a => .good a
    | none => .fault otherwise
  | _ => .fault otherwise

/-- The same, where bytes may spell the text. -/
def member (ofText? : String → Option α) (v : Value) : Checked α :=
  (spelled v .notMember .notMember).andThen fun s => choice ofText? .notMember (.text s)

/-- One of the texts given. -/
def oneOf (texts : List String) : Value → Checked String :=
  choice (fun s => texts.find? (· == s)) .notLiteral

def eachFrom (read : Value → Checked α) : Int → List Value → Checked (List α)
  | _, [] => .good []
  | i, v :: rest => List.cons <$> (read v).under (.index i) <*> eachFrom read (i + 1) rest

def list (read : Value → Checked α) : Value → Checked (List α)
  | .list items => eachFrom read 0 items
  | .bundle _ items => eachFrom read 0 items
  | .cycle false => .fault .cycle
  | _ => .fault .notList

/-- A list without repetitions. -/
def set (read : Value → Checked α) : Value → Checked (List α)
  | .list items => eachFrom read 0 items
  | .bundle _ items => eachFrom read 0 items
  | .cycle false => .fault .cycle
  | _ => .fault .notSet

def nonEmpty (l : List α) : Checked (List α) :=
  if l.isEmpty then .fault .tooShort else .good l

def key (k : Scalar) : Checked String :=
  (text (.scalar k)).under (.name "[key]") |>.under (.ofKey k)

/-- A table with keys that are texts. Of several entries under one text the last counts. -/
def tableOf (read : Value → Checked α) : Value → Checked (List (String × α))
  | .table entries => Ordered.collect <$> Checked.each (fun (k, v) =>
      Prod.mk <$> key k <*> (read v).under (.ofKey k)) entries
  | .cycle true => .fault .cycle
  | _ => .fault .notTable

def nullable (read : Value → Checked α) : Value → Checked (Option α)
  | .null => .good none
  | v => some <$> read v

def record (read : Table → Checked α) : Value → Checked α
  | .table fields => read fields
  | .cycle true => .fault .cycle
  | _ => .fault .notRecord

end Read

namespace Table

variable {α : Type}

/-- A field that has to be there. -/
def required (t : Table) (name : String) (read : Value → Checked α) : Checked α :=
  match t.get? name with
  | some v => (read v).under (.name name)
  | none => (Checked.fault .missing).under (.name name)

/-- A field that may be left out. -/
def optional (t : Table) (name : String) (absent : α) (read : Value → Checked α) : Checked α :=
  match t.get? name with
  | some v => (read v).under (.name name)
  | none => .good absent

/-- A field that may be left out, or be null. -/
def maybe (t : Table) (name : String) (read : Value → Checked α) : Checked (Option α) :=
  t.optional name none (Read.nullable read)

def stray (known : List String) : Scalar × Value → Option Fault
  | (.text s, _) => if known.contains s then none else some ⟨.unexpected, [.name s]⟩
  | (k, _) => some ⟨.unreadableKey, [.ofKey k]⟩

/-- There are no fields but the known ones. -/
def noOthers (t : Table) (known : List String) : Checked Unit :=
  match t.filterMap (stray known) with
  | [] => .good ()
  | faults => .bad faults

end Table

end ContactFlow
