/-!
A place in a YAML text: the characters still to be read, and the line and column they start at.
-/

namespace ContactFlow.Yaml

/-- The characters that end a line. -/
def isBreak (c : Char) : Bool := c == '\n' || c == '\u0085' || c == '\u2028' || c == '\u2029'

def isBlankOrBreak (c : Char) : Bool := c == ' ' || c == '\t' || isBreak c

/-- At the end of a word there is nothing more, or a blank, or the end of the line. -/
def endsWord : Option Char → Bool
  | none => true
  | some c => isBlankOrBreak c

/-- The same, where a tab is no blank. -/
def endsSpaced : Option Char → Bool
  | none => true
  | some c => c == ' ' || isBreak c

def endsLine : Option Char → Bool
  | none => true
  | some c => isBreak c

def isWordChar (c : Char) : Bool := c.isAlphanum || c == '-' || c == '_'

def byteOrderMark : Char := '\uFEFF'

structure Cursor where
  rest : List Char
  index : Nat := 0
  line : Nat := 0
  column : Nat := 0
  deriving Repr, Inhabited

namespace Cursor

def peek? (c : Cursor) : Option Char := c.rest.head?
def peekAt? (c : Cursor) (n : Nat) : Option Char := c.rest[n]?
def isAt (c : Cursor) (ch : Char) : Bool := c.peek? == some ch

/-- One character further. -/
def next (c : Cursor) : Cursor :=
  match c.rest with
  | [] => c
  | ch :: rest =>
    if isBreak ch then ⟨rest, c.index + 1, c.line + 1, 0⟩
    else ⟨rest, c.index + 1, c.line, if ch == byteOrderMark then c.column else c.column + 1⟩

def forward : Nat → Cursor → Cursor
  | 0, c => c
  | n + 1, c => forward n c.next

/-- The characters that pass the test, and the place after them. -/
def span (p : Char → Bool) (c : Cursor) : List Char × Cursor :=
  let taken := c.rest.takeWhile p
  (taken, c.forward taken.length)

def skip (p : Char → Bool) (c : Cursor) : Cursor := (c.span p).2

def skipSpaces (c : Cursor) : Cursor := c.skip (· == ' ')

/-- Reads the end of a line. All but the line and paragraph separators read as a line feed. -/
def lineBreak? (c : Cursor) : Option (Char × Cursor) :=
  match c.peek? with
  | some ch =>
    if ch == '\n' || ch == '\u0085' then some ('\n', c.next)
    else if isBreak ch then some (ch, c.next)
    else none
  | none => none

/-- Three dashes or three points that stand alone part two documents. -/
def atSeparator (c : Cursor) : Bool :=
  (c.rest.take 3 == ['-', '-', '-'] || c.rest.take 3 == ['.', '.', '.']) && endsWord (c.peekAt? 3)

/-- A comment, up to the end of its line. -/
def skipComment (c : Cursor) : Cursor :=
  if c.isAt '#' then c.skip fun ch => !isBreak ch else c

/-- The rest of a line, which may only hold a comment. -/
def finishLine? (c : Cursor) : Option Cursor :=
  let c := c.skipSpaces.skipComment
  if endsLine c.peek? then some ((c.lineBreak?.map (·.2)).getD c) else none

end Cursor

/-- How a break inside a scalar reads: a single line feed as a space, more of them as one less. -/
def foldBreaks (first : Char) (more : List Char) : List Char :=
  (if first != '\n' then [first] else if more.isEmpty then [' '] else []) ++ more

end ContactFlow.Yaml
