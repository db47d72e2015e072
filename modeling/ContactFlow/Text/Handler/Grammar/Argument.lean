import ContactFlow.Text.Handler.Grammar.Item

/-!
The arguments of a call. Those with names follow the plain ones, and those with two stars follow
both.
-/

namespace ContactFlow.Handler.Grammar

open Reader

/-- How an argument is given. -/
inductive Argument
  | plain
  | starred
  | keyword
  | doubleStarred
  deriving DecidableEq, Repr

def Argument.isPositional (a : Argument) : Bool := a == .plain || a == .starred

variable (self : Rules)

/-- Why what should be named is not well formed. -/
def miskeyed : Reader Argument := (do
    let s ← oneWord constants
    mark "="
    refuse (.assigned s)) <|> (do
    let _ ← name
    mark "="
    let _ ← self .expression
    loops self
    refuse .equalsSign) <|> (do
    notAhead do let _ ← name; mark "="
    let _ ← self .expression
    mark "="
    refuse .assignmentInCall)

def keyword : Reader Argument := explaining (miskeyed self) <|> (do
    let _ ← name
    mark "="
    let _ ← self .expression
    pure .keyword)

def starred : Reader Argument := do
  let _ ← unpacked self
  pure .starred

def doubleStarred : Reader Argument := do
  mark "**"
  let _ ← self .expression
  pure .doubleStarred

def keywordArguments : Reader (List Argument) := (do
    let first ← separated (keyword self <|> starred self)
    let more ← attempt do
      mark ","
      separated (keyword self <|> doubleStarred self)
    pure (first ++ more.getD [])) <|> separated (keyword self <|> doubleStarred self)

def plain : Reader Argument := starred self <|> (do
    let _ ← valued self
    guard !(← isNext (.mark "="))
    pure .plain)

def anyArguments : Reader (List Argument) := (do
    let first ← separated (plain self)
    let more ← attempt do
      mark ","
      keywordArguments self
    pure (first ++ more.getD [])) <|> keywordArguments self

/-- An argument that is a loop without brackets of its own. -/
def bareGenerator : Reader Unit := do
  let _ ← self .expression
  loops self

/-- Why a loop cannot stand after other arguments. A single one before it may be its own. -/
def misargued : Reader Expression := (do
    let _ ← anyArguments self
    mark ","
    mark "*"
    refuse .starAfterKeywords) <|> (do
    bareGenerator self
    mark ","
    Reader.optional ((do let _ ← anyArguments self) <|> bareGenerator self)
    refuse .bareGenerator) <|> (do
    let _ ← name
    mark "="
    let _ ← self .expression
    loops self
    refuse .equalsSign) <|>
  commit (do
      let given ← anyArguments self
      loops self
      pure given)
    (fun given =>
      if (given.filter Argument.isPositional).length ≤ 1 then fail else refuse .bareGenerator)
    ((do
      let _ ← anyArguments self
      mark ","
      bareGenerator self
      refuse .bareGenerator) <|> (do
      let given ← anyArguments self
      mark ","
      let _ ← anyArguments self
      refuse (.plainAfterKeyword (given.contains .doubleStarred))))

def arguments : Reader Expression := (do
    let _ ← anyArguments self
    Reader.optional (mark ",")
    ahead (mark ")")
    pure (.other .call)) <|> explaining (misargued self)

end ContactFlow.Handler.Grammar
