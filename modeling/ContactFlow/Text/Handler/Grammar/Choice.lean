import ContactFlow.Text.Handler.Grammar.Operand
import ContactFlow.Text.Handler.Grammar.Parameter

/-!
Expressions of any kind: comparisons, their negations and combinations, choices between two, and
functions. What is wrong with an expression, and what cannot follow one, is explained.
-/

namespace ContactFlow.Handler.Grammar

open Reader

variable (self : Rules)

/-- Reads a comparing word or mark, and says whether it looks for a member. -/
def comparing : Reader Bool := (do
    let _ ← oneMark ["==", "!=", "<=", "<", ">=", ">"]
    pure false) <|> (do
    word "not"
    word "in"
    pure false) <|> (do
    word "in"
    pure true) <|> (do
    word "is"
    Reader.optional (word "not")
    pure false)

def comparison : Reader Expression := do
  let left ← self .operand
  let found ← many do
    let isIn ← comparing
    let _ ← self .operand
    pure isIn
  pure (match found with
    | [] => left
    | isIn :: _ => .comparison left isIn)

def inversion : Reader Expression := (do
    word "not"
    let _ ← self .inversion
    pure (.other .operation)) <|> comparison self

/-- Parts with a word between them. -/
def combined (between : String) (part : Reader Expression) : Reader Expression := do
  let first ← part
  let more ← many do word between; part
  pure (if more.isEmpty then first else .other .operation)

def plainExpression : Reader Expression := (do
    let e ← self .disjunction
    commit (do
        word "if"
        let _ ← self .disjunction
        word "else"
        self .expression)
      (fun _ => pure (.other .choice)) (pure e)) <|> function self

def oneText : Reader (Literal × Nat) := do
  match ← peek with
  | .text t => do
    let line := ((← read).spots[← here]?.map Spot.line).getD 0
    skip
    pure (t, line)
  | _ => fail

/-- A choice that has no other side. -/
def oneSided : Reader Expression := do
  let _ ← self .disjunction
  word "if"
  let _ ← self .disjunction
  notAhead (word "else" <|> mark ":")
  refuse .noElse

/-- Why an expression cannot follow another one. -/
def adjacent : Reader Expression :=
  commit (do
      notAhead do
        let _ ← name
        oneText
      notAhead (wordThat isSoft)
      let e ← self .disjunction
      let _ ← plainly (plainExpression self)
      pure (e, ← level))
    (fun (e, level) => if e.isLegacy || level = 0 then fail else refuse .noComma)
    (oneSided self)

/-- Why a word cannot be followed by expressions. -/
def legacy : Reader Expression := do
  let s ← name
  notAhead (mark "(")
  let _ ← items self
  guard (Expression.legacyWords.contains s)
  refuse (.noCall s)

def expression : Reader Expression :=
  explaining (adjacent self) <|> explaining (legacy self) <|> plainExpression self

/-- Why an expression cannot be given a value, or a name. -/
def misplaced : Reader Expression := (do
    let e ← self .expression
    mark ":="
    let _ ← self .expression
    refuse (.named e.kind)) <|> (do
    let _ ← name
    mark "="
    let _ ← self .operand
    endsAssignment
    refuse .equalsSign) <|> (do
    notAhead (tuple self <|> generator self)
    notAhead (oneWord constants)
    let e ← self .operand
    mark "="
    let _ ← self .operand
    endsAssignment
    refuse (.assignedHere e.kind))

end ContactFlow.Handler.Grammar
