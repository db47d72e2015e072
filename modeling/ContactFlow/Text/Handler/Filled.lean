import ContactFlow.Text.Handler.Escape
import ContactFlow.Text.Handler.Token

/-!
Texts with fields, which are expressions in curly brackets. A field may show its own expression, ask
for a conversion, and be laid out in a way that has fields again. A bracket that is written twice
stands for itself.
-/

namespace ContactFlow.Handler.Filled

/-! ## Between the fields -/

/-- Where the reading of a stretch between fields stands: after a backslash, after the letter of a
name, or inside of the name's brackets. -/
inductive Escaping
  | none
  | backslash
  | letter
  | name
  deriving DecidableEq, Repr

/-- A stretch between fields, and what follows it. After a doubled bracket another stretch comes. -/
structure Stretch where
  held : List Char
  rest : List Char
  isDoubled : Bool
  deriving DecidableEq, Repr

def Stretch.add (c : Char) (s : Stretch) : Stretch := { s with held := c :: s.held }

def isBrace (c : Char) : Bool := c == '{' || c == '}'

/-- Reads a stretch up to a curly bracket. Only in the outermost text may brackets be doubled. -/
def stretch (isOuter isRaw : Bool) : Escaping → List Char → Except Fault Stretch
  | _, [] => .ok ⟨[], [], false⟩
  | .name, c :: rest =>
    Stretch.add c <$> stretch isOuter isRaw (if c == '}' then .none else .name) rest
  | .letter, c :: rest =>
    Stretch.add c <$> stretch isOuter isRaw (if c == '{' then .name else .none) rest
  | e, c :: rest =>
    if e == .none && c == '\\' && !isRaw && !rest.isEmpty then
      Stretch.add c <$> stretch isOuter isRaw .backslash rest
    else if e == .backslash && c == 'N' then
      Stretch.add c <$> stretch isOuter isRaw .letter rest
    else if !isBrace c then Stretch.add c <$> stretch isOuter isRaw .none rest
    else if isOuter && rest.head? == some c then .ok ⟨[c], rest.tail, true⟩
    else if isOuter && c == '}' then .error .fieldBrace
    else .ok ⟨[], c :: rest, false⟩

/-! ## The expression of a field -/

/-- What is open in a field: a text with its quote, which may be a triple one, and brackets, the
latest first. Some characters may still have to be passed over. -/
structure Nesting where
  quote : Option (Char × Bool)
  passed : Nat
  opened : List Char
  deriving DecidableEq, Repr

/-- Where an expression stands at its end, as far as texts and brackets are concerned. -/
def Nesting.fault? (s : Nesting) : Option Fault :=
  match s.quote, s.opened with
  | some _, _ => some .fieldText
  | none, o :: _ => some (.fieldUnmatched o)
  | none, [] => none

def Nesting.openBracket (s : Nesting) (c : Char) : Except Fault Nesting :=
  if maxLevel ≤ s.opened.length then .error .fieldBracketDepth
  else .ok { s with opened := c :: s.opened }

def Nesting.closeBracket (s : Nesting) (c : Char) : Except Fault Nesting :=
  match s.opened with
  | [] => .error (.fieldUnmatched c)
  | o :: opened =>
    if closingBracket? o = some c then .ok { s with opened } else .error (.fieldMismatched c o)

/-- Passes over a character of a text in a field. -/
def Nesting.inText (s : Nesting) (q : Char) (isTriple : Bool) (c : Char) (rest : List Char) :
    Nesting :=
  if c != q then s
  else if !isTriple then { s with quote := none }
  else if [q, q].isPrefixOf rest then { s with quote := none, passed := 2 }
  else s

/-- Opens a text in a field. -/
def Nesting.openText (s : Nesting) (q : Char) (rest : List Char) : Nesting :=
  if [q, q].isPrefixOf rest then { s with quote := some (q, true), passed := 2 }
  else { s with quote := some (q, false) }

/-- What ends an expression if it stands in no bracket. -/
def endsExpression (c : Char) : Bool := c == '!' || c == ':' || c == '}' || c == '='

/-- Marks that end an expression only if no equals sign follows. -/
def takesEquals (c : Char) : Bool := c == '!' || c == '=' || c == '<' || c == '>'

/-- Passes over a character outside of texts. There is none after the end of the expression. -/
def Nesting.pass (s : Nesting) (c : Char) (rest : List Char) : Except Fault (Option Nesting) :=
  if isQuote c then .ok (some (s.openText c rest))
  else if isOpening c then some <$> s.openBracket c
  else if c == '#' then .error .fieldComment
  else if s.opened.isEmpty && takesEquals c && rest.head? == some '=' then
    .ok (some { s with passed := 1 })
  else if s.opened.isEmpty && endsExpression c then .ok none
  else if isClosing c then some <$> s.closeBracket c
  else .ok (some s)

/-- Reads the expression of a field up to what ends it. -/
def expression (s : Nesting) : List Char → Except Fault (List Char × List Char)
  | [] => match s.fault? with
    | some f => .error f
    | none => .ok ([], [])
  | c :: rest => do
    let next ← if 0 < s.passed then pure (some { s with passed := s.passed - 1 })
      else if c == '\\' then throw .fieldBackslash
      else match s.quote with
        | some (q, isTriple) => pure (some (s.inText q isTriple c rest))
        | none => s.pass c rest
    match next with
    | some next =>
      let (held, after) ← expression next rest
      pure (c :: held, after)
    | none => pure ([], c :: rest)

/-! ## Whole texts -/

/-- How a text is read: whether backslashes are plain, where faults are said to be, how a field is
read given its line, and in which line what is left of the text stands. -/
structure Reading where
  isRaw : Bool
  place : Fault → Fault
  field : Nat → List Char → Except Fault Unit
  line : List Char → Nat

/-- How deep a field may be in the layout of others. -/
def maxDepth : Nat := 2

def isGap (c : Char) : Bool := c == ' ' || c == '\t' || c == '\n' || c.toNat == 12

def isSpace (c : Char) : Bool := isGap c || c.toNat == 11 || c == '\r'

def isConversion (c : Char) : Bool := c == 's' || c == 'r' || c == 'a'

namespace Reading

variable {α : Type}

def refuse (r : Reading) (f : Fault) : Except Fault α := .error (r.place f)

def lift (r : Reading) (x : Except Fault α) : Except Fault α := x.mapError r.place

/-- Reads the expression of a field, given the rest of the text from its bracket on. -/
def readExpression (r : Reading) (text after : List Char) (line : Nat) : Except Fault Unit := do
  if after.isEmpty then r.refuse .fieldEnd
  if text.all isGap then
    match after with
    | c :: _ => r.refuse (if c == '}' then .fieldEmpty else .fieldNothing c)
    | [] => r.refuse .fieldEmpty
  r.field line ('(' :: text ++ [')'])

/-- What follows the equals sign of a field that shows its own expression. -/
def afterEquals (r : Reading) : List Char → Except Fault (List Char)
  | '=' :: rest =>
    match rest.dropWhile isSpace with
    | [] => r.refuse .fieldEnd
    | after => pure after
  | cs => pure cs

/-- What follows the conversion of a field. -/
def afterConversion (r : Reading) : List Char → Except Fault (List Char)
  | '!' :: rest =>
    match rest with
    | [] => r.refuse .fieldEnd
    | c :: after =>
      if !isConversion c then r.refuse .fieldConversion
      else if after.isEmpty then r.refuse .fieldEnd
      else pure after
  | cs => pure cs

/-- Reads a text, or the layout of a field up to the bracket that ends it. The fuel is a bound on
the number of the characters. -/
def read (r : Reading) : Nat → Nat → List Char → Except Fault (List Char)
  | 0, _, cs => .ok cs
  | n + 1, depth, cs => do
    let s ← r.lift (stretch (depth == 0) r.isRaw .none cs)
    if !r.isRaw then
      match Escape.fault? s.held with
      | some f => r.refuse f
      | none => pure ()
    if s.isDoubled then read r n depth s.rest
    else match s.rest with
      | [] => if depth = 0 then pure [] else r.refuse .fieldEnd
      | c :: rest =>
        if c == '}' then pure (c :: rest)
        else if maxDepth ≤ depth then r.refuse .fieldDepth
        else do
          let (text, after) ← r.lift (expression ⟨none, 0, []⟩ rest)
          r.readExpression text after (r.line s.rest)
          let after ← r.afterEquals after
          let after ← r.afterConversion after
          let after ← match after with
            | ':' :: [] => r.refuse .fieldEnd
            | ':' :: layout => read r n (depth + 1) layout
            | _ => pure after
          match after with
          | '}' :: after => read r n depth after
          | _ => r.refuse .fieldEnd

end Reading

end ContactFlow.Handler.Filled
