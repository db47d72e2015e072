import ContactFlow.Text.Handler.Number
import ContactFlow.Text.Name

/-!
Tokens of the expression that a handler in markup is given. They end with a fault if the text ends
too early, or if something in it cannot be a token at all.
-/

namespace ContactFlow.Handler

open Text

/-- A text in quotes: what kind it is, and what stands between the quotes. -/
structure Literal where
  isBytes : Bool
  isRaw : Bool
  isFilled : Bool
  body : List Char
  deriving DecidableEq, Repr

inductive Token
  | word (s : String)
  | number (n : Number)
  | text (t : Literal)
  | mark (s : String)
  | line
  | indent
  | unindent
  | finish
  | fault (f : Fault)
  | broken (f : Fault)
  deriving DecidableEq, Repr

/-- A token with the number of its line, how many brackets are open after it, and whether it is only
ended by the end of the text. -/
structure Spot where
  token : Token
  level : Nat
  line : Nat
  isLast : Bool
  deriving DecidableEq, Repr

/-- A bracket that is open, and the number of its line. -/
structure Opened where
  bracket : Char
  line : Nat
  deriving DecidableEq, Repr

/-- What is still to be read, in which line, and what is open there, the latest first: brackets, and
the widths of the blanks before lines. Nothing but blanks and a comment are in a blank line. -/
structure Scan where
  rest : List Char
  line : Nat
  opened : List Opened
  indents : List (Nat × Nat)
  isBlank : Bool
  deriving DecidableEq, Repr

/-- The tokens of a step, and how to go on. Nothing is read after a fault. -/
structure Step where
  spots : List Spot
  scan : Scan
  goesOn : Bool
  deriving DecidableEq, Repr

namespace Scan

def spot (s : Scan) (t : Token) : Spot := ⟨t, s.opened.length, s.line, false⟩

/-- Reads a token, which may tell by itself that it ends. -/
def emit (s next : Scan) (t : Token) (endsItself : Bool) : Step :=
  ⟨[⟨t, next.opened.length, s.line, !endsItself && next.rest.isEmpty⟩], next, true⟩

def stop (s : Scan) (f : Fault) : Step := ⟨[s.spot (.fault f)], s, false⟩

/-- The fault of a text that ends too early. -/
def earlyEnd (s : Scan) : Fault :=
  match s.opened with
  | o :: _ => .neverClosed o.bracket
  | [] => .earlyEnd

/-- What a text ends with. -/
def ending (s : Scan) : Spot := s.spot (if s.opened.isEmpty then .finish else .fault s.earlyEnd)

end Scan

/-! ## Texts -/

def isQuote (c : Char) : Bool := c == '\'' || c == '"'

def newlines (cs : List Char) : Nat := cs.count '\n'

/-- What a text in quotes holds, and what follows it. A backslash takes the next character along.
The lines are counted on the way. -/
def inQuotes (quote : Char) (line : Nat) : List Char → Except Fault (List Char × List Char)
  | '\\' :: c :: rest => do
    let (held, after) ← inQuotes quote (line + newlines [c]) rest
    pure ('\\' :: c :: held, after)
  | c :: rest =>
    if c == quote then .ok ([], rest)
    else if c == '\n' then .error (.unterminated false line)
    else do
      let (held, after) ← inQuotes quote line rest
      pure (c :: held, after)
  | [] => .error (.unterminated false line)

def inTripleQuotes (quote : Char) (line : Nat) : List Char → Except Fault (List Char × List Char)
  | '\\' :: c :: rest => do
    let (held, after) ← inTripleQuotes quote (line + newlines [c]) rest
    pure ('\\' :: c :: held, after)
  | c :: rest =>
    if [quote, quote, quote].isPrefixOf (c :: rest) then .ok ([], rest.drop 2)
    else do
      let (held, after) ← inTripleQuotes quote (line + newlines [c]) rest
      pure (c :: held, after)
  | [] => .error (.unterminated true line)

/-- The letters that may stand before a quote. -/
def textPrefixes : List String := ["", "b", "u", "r", "f", "br", "rb", "fr", "rf"]

/-- Reads a text from its quote on. -/
def Scan.text (s : Scan) (letters : List Char) (quote : Char) (cs : List Char) :
    Except Fault Step := do
  let (held, after) ← if [quote, quote].isPrefixOf cs then inTripleQuotes quote s.line (cs.drop 2)
    else inQuotes quote s.line cs
  let t : Literal :=
    ⟨letters.contains 'b', letters.contains 'r', letters.contains 'f', held⟩
  pure (s.emit { s with rest := after, line := s.line + newlines held } (.text t)
    (!held.isEmpty || [quote, quote].isPrefixOf cs))

/-! ## Words -/

/-- Characters that are read as one word, and only then checked. -/
def isWordLike (c : Char) : Bool := c.isAlphanum || c == '_' || 0x80 ≤ c.toNat

/-- The first character of a word that cannot stand there. -/
def misfit? : List Char → Option Char
  | [] => none
  | c :: rest => if startsName c then rest.find? (!continuesName ·) else some c

def Scan.word (s : Scan) (cs : List Char) : Except Fault Step := do
  let run := cs.takeWhile isWordLike
  let after := cs.dropWhile isWordLike
  let letters := run.map Char.toLower
  match misfit? run, after with
  | some c, _ => throw (.character c)
  | none, q :: after' =>
    if isQuote q && textPrefixes.contains (String.ofList letters) then s.text letters q after'
    else pure (s.emit { s with rest := after } (.word (String.ofList run)) false)
  | none, [] => pure (s.emit { s with rest := [] } (.word (String.ofList run)) false)

/-! ## Brackets and marks -/

def closingBracket? (c : Char) : Option Char :=
  if c == '(' then some ')' else if c == '[' then some ']' else if c == '{' then some '}' else none

def isOpening (c : Char) : Bool := (closingBracket? c).isSome

def isClosing (c : Char) : Bool := c == ')' || c == ']' || c == '}'

/-- How many brackets may be open at once. -/
def maxLevel : Nat := 200

def Scan.openBracket (s : Scan) (c : Char) (rest : List Char) : Except Fault Step := do
  if maxLevel ≤ s.opened.length then throw .bracketDepth
  let opened := ⟨c, s.line⟩ :: s.opened
  pure (s.emit { s with rest, opened } (.mark (String.singleton c)) false)

def Scan.closeBracket (s : Scan) (c : Char) (rest : List Char) : Except Fault Step :=
  match s.opened with
  | [] => throw (.unmatched c)
  | o :: opened =>
    if closingBracket? o.bracket = some c then
      pure (s.emit { s with rest, opened } (.mark (String.singleton c)) false)
    else throw (.mismatched c o.bracket (if o.line = s.line then none else some o.line))

/-- Marks of more than one character, the longer ones first. -/
def longMarks : List String :=
  ["...", "**=", "//=", "<<=", ">>=", "!=", "%=", "&=", "**", "*=", "+=", "-=", "->", "//", "/=",
    ":=", "<<", "<=", "<>", "==", ">=", ">>", "@=", "^=", "|="]

def maxMark : Nat := 3

def Scan.mark (s : Scan) (c : Char) (rest : List Char) : Step :=
  match longMarks.find? fun m => m.toList.isPrefixOf (c :: rest) with
  | some m => s.emit { s with rest := rest.drop (m.length - 1) } (.mark m) (m.length == maxMark)
  | none => s.emit { s with rest } (.mark (String.singleton c)) false

/-! ## Lines -/

def isGap (c : Char) : Bool := c == ' ' || c == '\t' || c.toNat == 12

def tabWidth : Nat := 8

/-- The width of the blanks that a line starts with, once with tabs up to every eighth column and
once with tabs as wide as blanks. Where a backslash carries a line on, the first blanks count. -/
def indentation (width : Nat × Nat) (carried : Option (Nat × Nat)) (s : Scan) :
    List Char → Except Fault ((Nat × Nat) × Scan)
  | [] => .ok (carried.getD width, { s with rest := [] })
  | c :: rest =>
    if c == ' ' then indentation (width.1 + 1, width.2 + 1) carried s rest
    else if c == '\t' then
      indentation ((width.1 / tabWidth + 1) * tabWidth, width.2 + 1) carried s rest
    else if c.toNat == 12 then indentation (0, 0) carried s rest
    else if c == '\\' then
      match rest with
      | '\n' :: rest =>
        if rest.isEmpty then .error s.earlyEnd
        else
          let first := if width.1 = 0 then none else some (width.1, width.1)
          indentation width (carried.or first) { s with line := s.line + 1 } rest
      | _ => .error .continuation
    else .ok (carried.getD width, { s with rest := c :: rest, isBlank := c == '#' || c == '\n' })

/-- How many lines may be indented below one another. -/
def maxIndents : Nat := 100

/-- The indentations that stay open at a width, and how many were given up. -/
def leave (width : Nat) : List (Nat × Nat) → Nat × List (Nat × Nat)
  | [] => (0, [])
  | i :: outer =>
    if width < i.1 then
      let (n, indents) := leave width outer
      (n + 1, indents)
    else (0, i :: outer)

/-- Compares the blanks before a line with those before the lines above it. -/
def Scan.indented (s : Scan) (width : Nat × Nat) : Step :=
  let top := s.indents.headD (0, 0)
  if width.1 = top.1 then
    if width.2 = top.2 then ⟨[], s, true⟩ else s.stop .indentBlanks
  else if top.1 < width.1 then
    if maxIndents ≤ s.indents.length + 1 then s.stop .indentDepth
    else if width.2 ≤ top.2 then s.stop .indentBlanks
    else ⟨[s.spot .indent], { s with indents := width :: s.indents }, true⟩
  else
    let (n, indents) := leave width.1 s.indents
    let top := indents.headD (0, 0)
    if width.1 != top.1 then s.stop .unindentLevel
    else if width.2 != top.2 then s.stop .indentBlanks
    else ⟨List.replicate n (s.spot .unindent), { s with indents }, true⟩

/-- Reads the blanks that a line starts with. Those of blank lines and inside of brackets mean
nothing. -/
def Scan.startLine (s : Scan) : Step :=
  match indentation (0, 0) none { s with isBlank := false } s.rest with
  | .error f => s.stop f
  | .ok (width, s) =>
    if s.isBlank || !s.opened.isEmpty then ⟨[], s, true⟩ else s.indented width

/-- Ends a line. -/
def Scan.endLine (s : Scan) (rest : List Char) : Step :=
  let next := Scan.startLine { s with rest, line := s.line + 1 }
  if s.isBlank || !s.opened.isEmpty then next
  else { next with spots := ⟨.line, 0, s.line, false⟩ :: next.spots }

/-- Carries a line on after a backslash. -/
def Scan.carryOn (s : Scan) : List Char → Step
  | '\n' :: rest =>
    if rest.isEmpty then s.stop s.earlyEnd else ⟨[], { s with rest, line := s.line + 1 }, true⟩
  | _ => s.stop .continuation

/-! ## The whole text -/

def Scan.skip (s : Scan) (rest : List Char) : Step := ⟨[], { s with rest }, true⟩

/-- Reads one token, or what stands between two of them. -/
def Scan.step (s : Scan) (c : Char) (rest : List Char) : Except Fault Step := do
  if isGap c then pure (s.skip rest)
  else if c == '\n' then pure (s.endLine rest)
  else if c == '#' then pure (s.skip (rest.dropWhile (· != '\n')))
  else if c == '\\' then pure (s.carryOn rest)
  else if isOpening c then s.openBracket c rest
  else if isClosing c then s.closeBracket c rest
  else if c.isDigit || (c == '.' && rest.head?.any (·.isDigit)) then
    let (n, rest) ← if c == '.' then Number.afterPoint .real (c :: rest)
      else Number.read (c :: rest)
    pure (s.emit { s with rest } (.number n) false)
  else if isQuote c then s.text [] c rest
  else if isWordLike c then s.word (c :: rest)
  else if isPrintable c then pure (s.mark c rest)
  else throw (.character c)

/-- Goes on reading after a step. The fuel is a bound on the number of the characters left. -/
def Step.finish : Nat → Step → List Spot × Scan
  | 0, t => (t.spots, t.scan)
  | n + 1, t =>
    if t.goesOn then
      match t.scan.rest with
      | [] => (t.spots ++ [t.scan.ending], t.scan)
      | c :: rest =>
        match t.scan.step c rest with
        | .ok next =>
          let (spots, last) := next.finish n
          (t.spots ++ spots, last)
        | .error f => (t.spots ++ [t.scan.spot (.broken f)], t.scan)
    else (t.spots, t.scan)

/-- Lines end in line feeds only. -/
def lineFeeds : List Char → List Char
  | '\r' :: '\n' :: rest => '\n' :: lineFeeds rest
  | '\r' :: rest => '\n' :: lineFeeds rest
  | c :: rest => c :: lineFeeds rest
  | [] => []

/-- The tokens of a text, and the bracket that is open at its end. -/
structure Tokens where
  spots : Array Spot
  opened : Option Opened
  deriving Repr

/-- Reads the tokens of a text, given the number of its first line. -/
def Tokens.ofText (line : Nat) (cs : List Char) : Tokens :=
  let rest := lineFeeds cs
  let (spots, last) := (Scan.startLine ⟨rest, line, [], [], false⟩).finish (rest.length + 1)
  ⟨spots.toArray, last.opened.head?⟩

namespace Tokens

def fault? (t : Tokens) : Option Fault :=
  match t.spots.back? with
  | some ⟨.broken f, _, _, _⟩ => some f
  | _ => none

end Tokens

end ContactFlow.Handler
