import ContactFlow.Text.Handler.Grammar.Argument
import ContactFlow.Text.Handler.Grammar.Bracket

/-!
Operands: atoms, their members and calls, signs and powers, and what stands between the operators.
The targets of loops are built of the same atoms.
-/

namespace ContactFlow.Handler.Grammar

open Reader

variable (self : Rules)

def constant (word : String) : Reader Expression := do
  skip
  pure (.constant word)

def number (n : Number) : Reader Expression := do
  match n with
  | .long digits => refuse (.digits digits)
  | _ => do
    skip
    pure (.number n)

def atom : Reader Expression := do
  match ← peek with
  | .word s => if constants.contains s then constant s else Expression.name <$> name
  | .number n => number n
  | .text _ => self .texts
  | .mark "(" => tuple self <|> group self <|> generator self
  | .mark "\x7b" => table self <|> set self <|> tableOf self <|> setOf self
  | .mark "..." => constant "ellipsis"
  | _ => fail

/-- What is called a set, and is called without arguments, is an empty set. -/
def called (callee : Expression) (hasArguments : Bool) : Expression :=
  match callee with
  | .name "set" => if hasArguments then .other .call else .emptySet
  | _ => .other .call

/-- A member of what stands before it, or a call of it. -/
def trailer (e : Expression) : Reader Expression := (do
    mark "."
    let _ ← name
    pure (.other .attribute)) <|> (do
    let _ ← generator self
    pure (.other .call)) <|> (do
    mark "("
    let given ← attempt (self .arguments)
    mark ")"
    pure (called e given.isSome))

def trailersUpTo : Nat → Expression → Reader Expression
  | 0, e => pure e
  | n + 1, e => commit (trailer self e) (trailersUpTo n) (pure e)

def primary : Reader Expression := do
  let e ← atom self
  trailersUpTo self (← read).spots.size e

def awaited : Reader Expression := (do
    word "await"
    let _ ← self .primary
    pure (.other .wait)) <|> self .primary

def power : Reader Expression := do
  let e ← self .awaited
  commit (do mark "**"; self .factor) (fun _ => pure (.other .operation)) (pure e)

def factor : Reader Expression :=
  commit (oneMark ["+", "-", "~"])
    (fun s => do
      let e ← self .factor
      pure (if s == "~" then .other .operation else .signed e))
    (power self)

def operators : List String :=
  ["|", "^", "&", "<<", ">>", "+", "-", "*", "/", "//", "%", "@"]

/-- Operands between operators. Only sums and differences of two can have a value. -/
def operand : Reader Expression := do
  let first ← self .factor
  let rest ← many do
    let o ← oneMark operators
    pure (o, ← self .factor)
  pure (match rest with
    | [] => first
    | [("+", right)] | [("-", right)] => .sum first right
    | _ => .other .operation)

/-! ## Targets of loops -/

/-- Members and calls go on after it. -/
def goesOn : Reader Unit := ahead (oneMark ["(", "[", "."])

def targetTrailersUpTo : Nat → Reader Unit
  | 0 => pure ()
  | n + 1 => commit (do let _ ← trailer self (.other .attribute); goesOn)
    (fun _ => targetTrailersUpTo n) (pure ())

/-- What the last member of a target belongs to. -/
def targetPrimary : Reader Expression := do
  let _ ← atom self
  goesOn
  targetTrailersUpTo self (← read).spots.size
  pure (.other .attribute)

def targetItems : Reader Unit := do
  let _ ← self .target
  (do
    let _ ← oneOrMore do mark ","; self .target
    Reader.optional (mark ",")) <|> mark ","

def simpleTarget : Reader Expression := Expression.name <$> name <|> (do
    mark "("
    let e ← self .targetAtom
    mark ")"
    pure e) <|> (do
    mark "("
    Reader.optional (targetItems self)
    mark ")"
    pure (.tuple []))

def targetAtom : Reader Expression := (do
    let _ ← self .targetPrimary
    mark "."
    let _ ← name
    notAhead goesOn
    pure (.other .attribute)) <|> simpleTarget self

def target : Reader Expression := (do
    mark "*"
    notAhead (mark "*")
    self .target) <|> self .targetAtom

end ContactFlow.Handler.Grammar
