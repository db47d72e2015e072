import ContactFlow.Text.Handler.Filled
import ContactFlow.Text.Handler.Grammar.Choice

/-!
All the rules of expressions together. A rule is read with the others, which go through what is
remembered.
-/

namespace ContactFlow.Handler.Grammar

open Reader

/-! ## Texts -/

/-- What is wrong with the characters of a text. Those with fields are looked at later. -/
def literalFault? (t : Literal) : Option Fault :=
  if t.isFilled then none
  else if t.isBytes then
    if t.body.any (!Escape.isAscii ·) then some .bytesCharacter
    else if t.isRaw then none
    else Escape.bytesFault? 0 t.body
  else if t.isRaw then none
  else Escape.fault? t.body

/-- Reads the fields of a text that starts in a line. -/
def fill (t : Literal) (line : Nat) : Reader Unit := do
  let source ← read
  let reading : Filled.Reading :=
    ⟨t.isRaw, source.place, source.field, fun rest => line + newlines t.body - newlines rest⟩
  match reading.read (t.body.length + 1) 0 t.body with
  | .ok _ => pure ()
  | .error f => reject f

/-- Checks one of the texts in a row, given whether they are of bytes. -/
def check (areBytes : Bool) (t : Literal) (line : Nat) : Reader Unit := do
  match literalFault? t with
  | some f => refuse f
  | none => pure ()
  if t.isBytes != areBytes then refuse .mixedTexts
  if t.isFilled then fill t line

/-- Texts in a row are one. They have to be of one kind. -/
def texts : Reader Expression := do
  let ts ← oneOrMore oneText
  let areBytes := ts.head?.any (·.1.isBytes)
  ts.forM fun (t, line) => check areBytes t line
  pure (if ts.any (·.1.isFilled) then .other .filledText else .text)

/-! ## The rules -/

def body (self : Rules) : Rule → Reader Expression
  | .item => item self
  | .expression => expression self
  | .disjunction => combined "or" (self .conjunction)
  | .conjunction => combined "and" (self .inversion)
  | .inversion => inversion self
  | .operand => operand self
  | .factor => factor self
  | .awaited => awaited self
  | .primary => primary self
  | .texts => texts
  | .arguments => arguments self
  | .misplaced => misplaced self
  | .target => target self
  | .targetAtom => targetAtom self
  | .targetPrimary => targetPrimary self

/-- How many rules there are, and so how many can be read in one place. -/
def ruleCount : Nat := 15

/-- The rules, nested no deeper than the fuel. -/
def rules : Nat → Rules
  | 0, _ => fail
  | n + 1, r => remember r (body (rules n) r)

/-- Reads all there is: an expression, or a tuple without brackets. -/
def whole (self : Rules) : Reader Expression := do
  let e ← series (self .expression)
  let _ ← many (expect .line)
  expect .finish
  pure e

end ContactFlow.Handler.Grammar
