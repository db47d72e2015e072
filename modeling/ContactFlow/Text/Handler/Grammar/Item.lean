import ContactFlow.Text.Handler.Reader

/-!
Names, and the items of tuples, sets and calls: expressions that may be starred or given a name.
-/

namespace ContactFlow.Handler.Grammar

open Reader

def keywords : List String :=
  ["False", "None", "True", "and", "as", "assert", "async", "await", "break", "class", "continue",
    "def", "del", "elif", "else", "except", "finally", "for", "from", "global", "if", "import",
    "in", "is", "lambda", "nonlocal", "not", "or", "pass", "raise", "return", "try", "while",
    "with", "yield"]

/-- Words that are names only in some places. -/
def softKeywords : List String := ["_", "case", "match"]

/-- A word that may be the start of one that is a name only in some places. -/
def isSoft (s : String) : Bool := softKeywords.any fun k => s.toList.isPrefixOf k.toList

def constants : List String := ["True", "None", "False"]

def wordThat (p : String → Bool) : Reader String := do
  match ← peek with
  | .word s => do
    guard (p s)
    skip
    pure s
  | _ => fail

def name : Reader String := wordThat fun s => !keywords.contains s

/-- One of the words given. -/
def oneWord (words : List String) : Reader String := wordThat fun s => words.contains s

/-- One of the marks given. -/
def oneMark (marks : List String) : Reader String := do
  match ← peek with
  | .mark s => do
    guard (marks.contains s)
    skip
    pure s
  | _ => fail

/-- No further equals sign follows. -/
def endsAssignment : Reader Unit := notAhead (oneMark ["=", ":="])

variable (self : Rules)

/-- A name that is given a value. -/
def assignment : Reader Expression := do
  let _ ← name
  mark ":="
  let _ ← self .expression
  pure (.other .assignment)

def unassigned : Reader Expression := do
  let e ← self .expression
  guard !(← isNext (.mark ":="))
  pure e

def named : Reader Expression :=
  assignment self <|> explaining (self .misplaced) <|> unassigned self

/-- An expression that may be given a name, whatever else is wrong with it. -/
def valued : Reader Expression := assignment self <|> unassigned self

/-- A star, and any expression. -/
def unpacked : Reader Expression := do
  mark "*"
  Expression.starred <$> self .expression

def starredOperand : Reader Expression := do
  mark "*"
  Expression.starred <$> self .operand

/-- An item of a series. -/
def item : Reader Expression := starredOperand self <|> self .expression

/-- A member of a tuple or a set. -/
def member : Reader Expression := starredOperand self <|> named self

def members : Reader (List Expression) := listed (member self)

/-- One expression, or a tuple of those with commas between them. -/
def series (one : Reader Expression) : Reader Expression := do
  let first ← one
  let more ← many do mark ","; one
  let comma ← attempt (mark ",")
  pure (if more.isEmpty && comma.isNone then first else .tuple (first :: more))

def items : Reader Expression := series (self .item)

/-- What stops an expression until a value is sent. -/
def pause : Reader Expression := do
  word "yield"
  (do word "from"; let _ ← self .expression) <|> Reader.optional (items self)
  pure (.other .pause)

/-! ## Loops inside of brackets -/

def targets : Reader Unit := do
  let _ ← listed (self .target)

/-- Why a loop has no target. -/
def misfit : Reader Unit := do
  Reader.optional (word "async")
  word "for"
  match (← items self).misfit? with
  | some e => refuse (.assigned e.kind)
  | none => fail

/-- A loop with its conditions. -/
def loop : Reader Unit :=
  commit (do Reader.optional (word "async"); word "for"; targets self; word "in")
    (fun _ => do
      let _ ← self .disjunction
      let _ ← many do word "if"; self .disjunction)
    (explaining (misfit self))

def loops : Reader Unit := do let _ ← oneOrMore (loop self)

end ContactFlow.Handler.Grammar
