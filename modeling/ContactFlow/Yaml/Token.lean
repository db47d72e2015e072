import ContactFlow.Yaml.Scalar.Block
import ContactFlow.Yaml.Scalar.Plain
import ContactFlow.Yaml.Scalar.Quoted

/-!
The tokens of a YAML text. Collections without brackets are shown by the columns that their lines
start at, and their starts and ends become tokens of their own. A key before a colon is only known
for one once the colon is met, so its token is put in at the place where the key had started. A text
that cannot be read on has a last token that says why.
-/

namespace ContactFlow.Yaml

inductive Token
  | version (major : Nat)
  | tagHandle (handle expansion : String)
  | otherDirective
  | documentStart
  | documentEnd
  | blockSequence
  | blockMapping
  | blockEnd
  | flowSequence
  | flowSequenceEnd
  | flowMapping
  | flowMappingEnd
  | entry
  | comma
  | key
  | value
  | alias (name : String)
  | anchor (name : String)
  | tag (handle : Option String) (suffix : String)
  | scalar (text : String) (plain : Bool)
  | broken (e : Failure)
  deriving DecidableEq, Repr, Inhabited

/-- Something that a key may have started at: where in the tokens, and where in the text. -/
structure KeyStart where
  position : Nat
  required : Bool
  index : Nat
  line : Nat
  column : Nat
  deriving Repr, Inhabited

structure Lexer where
  cursor : Cursor
  tokens : Array Token := #[]
  flowLevel : Nat := 0
  indent : Int := -1
  outer : List Int := []
  keyAllowed : Bool := true
  keys : List (Nat × KeyStart) := []
  deriving Repr, Inhabited

namespace Lexer

def inFlow (s : Lexer) : Bool := s.flowLevel != 0
def push (s : Lexer) (t : Token) : Lexer := { s with tokens := s.tokens.push t }

/-- Adds a token that so many characters stand for. -/
def pushOver (s : Lexer) (n : Nat) (t : Token) : Lexer :=
  { s with tokens := s.tokens.push t, cursor := s.cursor.forward n }

/-- Skips blanks, comments and breaks. Outside the brackets a key may start on each new line. -/
def skipBlanks : Nat → Lexer → Lexer
  | 0, s => s
  | fuel + 1, s =>
    let c := s.cursor.skipSpaces.skipComment
    match c.lineBreak? with
    | some (_, c) => skipBlanks fuel { s with cursor := c, keyAllowed := s.keyAllowed || !s.inFlow }
    | none => { s with cursor := c }

def maxKeyLength : Nat := 1024

/-- A key stands on one line and is not too long. -/
def isStale (s : Lexer) (k : KeyStart) : Bool :=
  k.line != s.cursor.line || maxKeyLength < s.cursor.index - k.index

/-- Drops the starts that can no longer be keys. One that had to be a key is an error. -/
def dropStale (s : Lexer) : Option Lexer :=
  if s.keys.any fun (_, k) => s.isStale k && k.required then none
  else some { s with keys := s.keys.filter fun (_, k) => !s.isStale k }

/-- Forgets the start of a key at the level of the brackets that the text is at. -/
def dropKey (s : Lexer) : Option Lexer :=
  match s.keys.lookup s.flowLevel with
  | some k =>
    if k.required then none
    else some { s with keys := s.keys.filter fun (level, _) => level != s.flowLevel }
  | none => some s

/-- Notes that a key may start here. -/
def saveKey (s : Lexer) : Option Lexer :=
  if !s.keyAllowed then some s
  else s.dropKey.map fun s =>
    let k : KeyStart := ⟨s.tokens.size, !s.inFlow && s.indent == (s.cursor.column : Int),
      s.cursor.index, s.cursor.line, s.cursor.column⟩
    { s with keys := (s.flowLevel, k) :: s.keys }

/-- Ends the collections that are indented further than the column. -/
def unwind (s : Lexer) (column : Int) : Lexer :=
  if s.inFlow then s
  else
    let ended := (s.indent :: s.outer).takeWhile (column < ·)
    let left := (s.indent :: s.outer).dropWhile (column < ·)
    { s with
      tokens := s.tokens ++ (ended.map fun _ => Token.blockEnd).toArray
      indent := left.headD (-1)
      outer := left.tail }

def indentAt (s : Lexer) (column : Int) : Lexer :=
  { s with indent := column, outer := s.indent :: s.outer }

/-- Starts a collection at the column, unless one has started there. -/
def startBlock (s : Lexer) (t : Token) : Lexer :=
  if s.indent < (s.cursor.column : Int) then (s.indentAt s.cursor.column).push t else s

def insertToken (s : Lexer) (position : Nat) (t : Token) : Lexer :=
  { s with tokens := s.tokens.insertIdxIfInBounds position t }

def entry (s : Lexer) : Option Lexer := do
  guard (s.inFlow || s.keyAllowed)
  let s := if s.inFlow then s else s.startBlock .blockSequence
  let s ← { s with keyAllowed := true }.dropKey
  pure (s.pushOver 1 .entry)

def explicitKey (s : Lexer) : Option Lexer := do
  guard (s.inFlow || s.keyAllowed)
  let s := if s.inFlow then s else s.startBlock .blockMapping
  let s ← { s with keyAllowed := !s.inFlow }.dropKey
  pure (s.pushOver 1 .key)

/-- A colon after something that a key may have started at. -/
def valueOf (s : Lexer) (k : KeyStart) : Lexer :=
  let s := { s with keys := s.keys.filter fun (level, _) => level != s.flowLevel }
  let s := s.insertToken k.position .key
  let s := if !s.inFlow && s.indent < (k.column : Int) then
    (s.indentAt k.column).insertToken k.position .blockMapping else s
  { s with keyAllowed := false }.pushOver 1 .value

def value (s : Lexer) : Option Lexer :=
  match s.keys.lookup s.flowLevel with
  | some k => some (s.valueOf k)
  | none => do
    guard (s.inFlow || s.keyAllowed)
    let s := if s.inFlow then s else s.startBlock .blockMapping
    let s ← { s with keyAllowed := !s.inFlow }.dropKey
    pure (s.pushOver 1 .value)

def openFlow (s : Lexer) (t : Token) : Option Lexer := do
  let s ← s.saveKey
  pure ({ s with flowLevel := s.flowLevel + 1, keyAllowed := true }.pushOver 1 t)

def closeFlow (s : Lexer) (t : Token) : Option Lexer := do
  let s ← s.dropKey
  pure ({ s with flowLevel := s.flowLevel - 1, keyAllowed := false }.pushOver 1 t)

def comma (s : Lexer) : Option Lexer := do
  let s ← { s with keyAllowed := true }.dropKey
  pure (s.pushOver 1 .comma)

/-- A separator of documents or a directive ends everything before it. -/
def endAll (s : Lexer) : Option Lexer :=
  (s.unwind (-1)).dropKey.map fun s => { s with keyAllowed := false }

/-- Characters after which a name of an anchor may end. -/
def endsName (c : Option Char) : Bool :=
  endsWord c || c.any ['?', ':', ',', ']', '}', '%', '@', Char.ofNat 0x60].contains

def anchorName (s : Lexer) (t : String → Token) : Option Lexer := do
  let s ← s.saveKey
  let (name, c) := s.cursor.next.span isWordChar
  guard (!name.isEmpty)
  guard (endsName c.peek?)
  pure ({ s with keyAllowed := false, cursor := c }.push (t (String.ofList name)))

def isUriChar (c : Char) : Bool := isWordChar c || "-;/?:@&=+$,_.!~*'()[]".toList.contains c

/-- The bytes of a run of escapes, each a percent sign and two hexadecimal digits. -/
def uriBytes : List Char → Option (List UInt8 × List Char)
  | '%' :: a :: b :: rest => do
    let n ← Quoted.code? [a, b]
    let (more, rest) ← uriBytes rest
    pure (UInt8.ofNat n :: more, rest)
  | '%' :: _ => none
  | rest => some ([], rest)

def uriText (bytes : List UInt8) : Option (List Char) :=
  (String.fromUTF8? ⟨bytes.toArray⟩).map String.toList

def uriFrom : Nat → List Char → Cursor → Option (List Char × Cursor)
  | 0, _, _ => none
  | fuel + 1, text, c => do
    let (run, c) := c.span isUriChar
    let text := text ++ run
    if c.isAt '%' then
      let (bytes, rest) ← uriBytes c.rest
      let escaped ← uriText bytes
      uriFrom fuel (text ++ escaped) (c.forward (c.rest.length - rest.length))
    else pure (text, c)

/-- Reads what a tag is named by. It is not empty. -/
def uri? (c : Cursor) : Option (String × Cursor) := do
  let (text, c) ← uriFrom (c.rest.length + 1) [] c
  guard (!text.isEmpty)
  pure (String.ofList text, c)

/-- Reads an exclamation mark, or a word between two of them. -/
def handle? (c : Cursor) : Option (String × Cursor) := do
  guard (c.isAt '!')
  if c.peekAt? 1 == some ' ' then pure ("!", c.next)
  else
    let (word, c) := c.next.span isWordChar
    guard (c.isAt '!')
    pure ("!" ++ String.ofList word ++ "!", c.next)

/-- The word after an exclamation mark has another one in it. -/
def hasHandle (c : Cursor) : Bool :=
  (c.next.rest.takeWhile fun ch => !endsSpaced (some ch)).contains '!'

/-- Reads a tag from its exclamation mark. -/
def tag? (c : Cursor) : Option (Token × Cursor) := do
  let (t, c) ← match c.peekAt? 1 with
    | some '<' => do
      let (suffix, c) ← uri? (c.forward 2)
      guard (c.isAt '>')
      pure (Token.tag none suffix, c.next)
    | after =>
      if endsWord after then pure (Token.tag none "!", c.next)
      else if hasHandle c then do
        let (handle, c) ← handle? c
        let (suffix, c) ← uri? c
        pure (Token.tag (some handle) suffix, c)
      else do
        let (suffix, c) ← uri? c.next
        pure (Token.tag (some "!") suffix, c)
  guard (endsSpaced c.peek?)
  pure (t, c)

open Quoted (orMalformed)

/-- Reads one of the numbers of a version. It may not have too many digits. -/
def number (c : Cursor) : Except Failure (Nat × Cursor) := do
  let (ds, c) := c.span Char.isDigit
  orMalformed (guard (!ds.isEmpty))
  if Numeral.maxDigits < ds.length then throw (.version ds.length c.index)
  pure (ds.foldl (fun n d => 10 * n + (d.toNat - '0'.toNat)) 0, c)

def versionDirective (c : Cursor) : Except Failure (Token × Cursor) := do
  let (major, c) ← number c.skipSpaces
  orMalformed (guard (c.isAt '.'))
  let (_, c) ← number c.next
  orMalformed (guard (endsSpaced c.peek?))
  pure (.version major, c)

def tagDirective? (c : Cursor) : Option (Token × Cursor) := do
  let (handle, c) ← handle? c.skipSpaces
  guard (c.isAt ' ')
  let (expansion, c) ← uri? c.skipSpaces
  guard (endsSpaced c.peek?)
  pure (.tagHandle handle expansion, c)

/-- Reads a directive from its percent sign to the end of its line. -/
def directiveToken (c : Cursor) : Except Failure (Token × Cursor) := do
  let (name, c) := c.next.span isWordChar
  orMalformed (guard (!name.isEmpty))
  orMalformed (guard (endsSpaced c.peek?))
  let (t, c) ← match String.ofList name with
    | "YAML" => versionDirective c
    | "TAG" => orMalformed (tagDirective? c)
    | _ => pure (.otherDirective, c.skip fun ch => !isBreak ch)
  pure (t, ← orMalformed c.finishLine?)

def directive (s : Lexer) : Except Failure Lexer := do
  let s ← orMalformed s.endAll
  let (t, c) ← directiveToken s.cursor
  pure ({ s with cursor := c }.push t)

def separator (s : Lexer) (t : Token) : Option Lexer := do
  let s ← s.endAll
  pure (s.pushOver 3 t)

def tag (s : Lexer) : Option Lexer := do
  let s ← s.saveKey
  let (t, c) ← tag? s.cursor
  pure ({ s with keyAllowed := false, cursor := c }.push t)

def block (s : Lexer) (folded : Bool) : Option Lexer := do
  let s ← { s with keyAllowed := true }.dropKey
  let (text, c) ← Block.scan folded s.indent s.cursor.next
  pure ({ s with cursor := c }.push (.scalar text false))

def quoted (s : Lexer) (double : Bool) : Except Failure Lexer := do
  let s ← orMalformed s.saveKey
  let (text, c) ← Quoted.scan double s.cursor
  pure ({ s with keyAllowed := false, cursor := c }.push (.scalar text false))

def plain (s : Lexer) : Option Lexer := do
  let s ← s.saveKey
  let (text, c, ended) := Plain.scan s.inFlow (s.indent + 1) s.cursor
  pure ({ s with keyAllowed := ended, cursor := c }.push (.scalar text true))

/-- Characters that stand for something else at the start of a token. -/
def indicators : List Char :=
  ['-', '?', ':', ',', '[', ']', '{', '}', '#', '&', '*', '!', '|', '>', '\'', '"', '%', '@',
    Char.ofNat 0x60]

def startsPlain (s : Lexer) (ch : Char) (after : Option Char) : Bool :=
  (!isBlankOrBreak ch && !indicators.contains ch) ||
    (!endsWord after && (ch == '-' || (!s.inFlow && (ch == '?' || ch == ':'))))

/-- Reads a token that is neither a quoted scalar nor a directive. -/
def unquoted (s : Lexer) (ch : Char) (after : Option Char) : Option Lexer :=
  let first := s.cursor.column == 0
  if ch == '-' && first && s.cursor.atSeparator then s.separator .documentStart
  else if ch == '.' && first && s.cursor.atSeparator then s.separator .documentEnd
  else if ch == '[' then s.openFlow .flowSequence
  else if ch == '{' then s.openFlow .flowMapping
  else if ch == ']' then s.closeFlow .flowSequenceEnd
  else if ch == '}' then s.closeFlow .flowMappingEnd
  else if ch == ',' then s.comma
  else if ch == '-' && endsWord after then s.entry
  else if ch == '?' && (s.inFlow || endsWord after) then s.explicitKey
  else if ch == ':' && (s.inFlow || endsWord after) then s.value
  else if ch == '*' then s.anchorName .alias
  else if ch == '&' then s.anchorName .anchor
  else if ch == '!' then s.tag
  else if ch == '|' && !s.inFlow then s.block false
  else if ch == '>' && !s.inFlow then s.block true
  else if s.startsPlain ch after then s.plain
  else none

def scanAt (s : Lexer) (ch : Char) (after : Option Char) : Except Failure Lexer :=
  if ch == '\'' then s.quoted false
  else if ch == '"' then s.quoted true
  else if ch == '%' && s.cursor.column == 0 then s.directive
  else orMalformed (s.unquoted ch after)

/-- Reads one more token, or ends all collections at the end of the text. The flag says that this
was the end. The number bounds the lines without tokens that may come first. -/
def step (fuel : Nat) (s : Lexer) : Except Failure (Lexer × Bool) := do
  let s ← orMalformed (skipBlanks fuel s).dropStale
  let s := s.unwind s.cursor.column
  match s.cursor.peek? with
  | none => (orMalformed (s.unwind (-1)).dropKey).map (·, true)
  | some ch => (s.scanAt ch (s.cursor.peekAt? 1)).map (·, false)

/-- The tokens that are known for what they are: those before the first that may turn out to follow
a key. -/
def settled (s : Lexer) : Nat :=
  ((s.keys.filter fun (_, k) => !s.isStale k).map fun (_, k) => k.position).foldl min s.tokens.size

/-- A failure comes after the tokens that do not depend on what could not be read. -/
def broken (s : Lexer) (e : Failure) : Lexer :=
  { s with tokens := (s.tokens.take s.settled).push (.broken e) }

/-- Reads tokens up to the end of the text. Each one takes at least one character. -/
def scanAll : Nat → Lexer → Lexer
  | 0, s => s.broken .malformed
  | fuel + 1, s => match s.step (fuel + 1) with
    | .ok (s, true) => s
    | .ok (s, false) => scanAll fuel s
    | .error e => s.broken e

end Lexer

/-- The tokens of a text. A byte order mark at the start does not count. -/
def Token.scan (text : List Char) : List Token :=
  let start : Cursor := { rest := text }
  let start := if start.isAt byteOrderMark then start.next else start
  (Lexer.scanAll (text.length + 1) { cursor := start }).tokens.toList

end ContactFlow.Yaml
