import ContactFlow.Text.Handler.Grammar.Item

/-!
What stands in round and curly brackets: tuples, sets, tables, loops, and expressions on their own.
-/

namespace ContactFlow.Handler.Grammar

open Reader

variable (self : Rules)

/-- Why a loop is not well formed, after one of the brackets given. -/
def misbuilt (starred bare : List String) : Reader Expression := (do
    let _ ← oneMark starred
    let _ ← unpacked self
    loops self
    refuse .starredFor) <|> (do
    let _ ← oneMark bare
    let _ ← member self
    mark ","
    let _ ← members self
    loops self
    refuse .bareTarget) <|> (do
    let _ ← oneMark bare
    let _ ← member self
    mark ","
    loops self
    refuse .bareTarget)

/-- Why a loop is not well formed. -/
def misformed : Reader Expression := misbuilt self ["[", "(", "\x7b"] ["[", "\x7b"]

/-! ## Round brackets -/

def tuple : Reader Expression := do
  mark "("
  let items ← attempt do
    let first ← member self
    mark ","
    pure (first :: ((← attempt (members self)).getD []))
  mark ")"
  pure (.tuple (items.getD []))

/-- Why stars cannot stand in brackets of their own. -/
def misgrouped : Reader Expression := (do
    mark "("
    let _ ← unpacked self
    mark ")"
    refuse .starred) <|> (do
    mark "("
    mark "**"
    let _ ← self .expression
    mark ")"
    refuse .doubleStarred)

def group : Reader Expression := (do
    mark "("
    let e ← pause self <|> named self
    mark ")"
    pure e) <|> explaining (misgrouped self)

def generator : Reader Expression := (do
    mark "("
    let _ ← valued self
    loops self
    mark ")"
    pure (.other .generator)) <|> explaining (misformed self)

/-! ## Curly brackets -/

def pair : Reader (Expression × Expression) := do
  let k ← self .expression
  mark ":"
  pure (k, ← self .expression)

/-- An entry of a table. One with two stars has no key. -/
def entry : Reader (Option Expression × Expression) := (do
    mark "**"
    pure (none, ← self .operand)) <|> (do
    let (k, e) ← pair self
    pure (some k, e))

/-- Why a value of a table is not well formed. -/
def misvalued : Reader Unit := (do
    let _ ← self .expression
    mark ":"
    mark "*"
    let _ ← self .operand
    refuse .starredValue) <|> (do
    let _ ← self .expression
    mark ":"
    ahead (oneMark ["\x7d", ","])
    refuse .noValue)

/-- Why what stands in curly brackets is no table. -/
def mistabled : Reader Unit := (do
    let _ ← separated (entry self)
    mark ","
    (do
      let _ ← self .expression
      guard !(← isNext (.mark ":"))
      refuse .noColon) <|> misvalued self) <|> misvalued self

/-- A table. Its faults are explained at once. -/
def table : Reader Expression := (do
    mark "\x7b"
    let entries ← attempt (listed (entry self))
    mark "\x7d"
    pure (.table (entries.getD []))) <|> (do
    mark "\x7b"
    mistabled self
    fail)

def set : Reader Expression := do
  mark "\x7b"
  let items ← members self
  mark "\x7d"
  pure (.set items)

/-- Why a loop over the entries of a table is not well formed. -/
def mistabledLoop : Reader Expression := do
  mark "\x7b"
  mark "**"
  let _ ← self .operand
  loops self
  mark "\x7d"
  refuse .tableFor

def tableOf : Reader Expression := (do
    mark "\x7b"
    let _ ← pair self
    loops self
    mark "\x7d"
    pure (.other .tableOf)) <|> explaining (mistabledLoop self)

def setOf : Reader Expression := (do
    mark "\x7b"
    let _ ← named self
    loops self
    mark "\x7d"
    pure (.other .setOf)) <|> explaining (misformed self)

end ContactFlow.Handler.Grammar
