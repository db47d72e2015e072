import ContactFlow.Text.Handler.Number

/-!
The expression that a handler in markup is given: numbers, texts, constants, and tuples, sets and
tables of them. Anything else that is well formed has no value here.
-/

namespace ContactFlow.Handler

/-- A kind of expression that has no value. -/
inductive Kind
  | attribute
  | call
  | operation
  | generator
  | pause
  | wait
  | function
  | choice
  | assignment
  | setOf
  | tableOf
  | filledText
  deriving DecidableEq, Repr

def Kind.text : Kind → String
  | .attribute => "attribute"
  | .call => "function call"
  | .operation => "expression"
  | .generator => "generator expression"
  | .pause => "yield expression"
  | .wait => "await expression"
  | .function => "lambda"
  | .choice => "conditional expression"
  | .assignment => "named expression"
  | .setOf => "set comprehension"
  | .tableOf => "dict comprehension"
  | .filledText => "f-string expression"

/-- An expression, as far as its value and the wording of its faults ask for it. -/
inductive Expression
  | name (word : String)
  | number (n : Number)
  | text
  | constant (word : String)
  | signed (e : Expression)
  | sum (left right : Expression)
  | comparison (left : Expression) (isIn : Bool)
  | starred (e : Expression)
  | tuple (items : List Expression)
  | set (items : List Expression)
  | table (entries : List (Option Expression × Expression))
  | emptySet
  | other (kind : Kind)
  deriving Repr

namespace Expression

/-- What an expression is called when it stands in the wrong place. -/
def kind : Expression → String
  | name _ => "name"
  | number _ | text => "literal"
  | constant word => word
  | signed _ | sum .. => Kind.operation.text
  | comparison .. => "comparison"
  | starred _ => "starred"
  | tuple _ => "tuple"
  | set _ => "set display"
  | table _ => "dict literal"
  | emptySet => Kind.call.text
  | other kind => kind.text

mutual

/-- The first part of an expression that cannot be given a value by a loop. -/
def misfit? : Expression → Option Expression
  | tuple items => misfitItem? items
  | starred e => misfit? e
  | comparison left isIn => if isIn then misfit? left else none
  | name _ | other .attribute => none
  | e => some e

def misfitItem? : List Expression → Option Expression
  | [] => none
  | e :: rest => (misfit? e).or (misfitItem? rest)

end

/-- Words that were once followed by what they show or run. -/
def legacyWords : List String := ["print", "exec"]

def isLegacy : Expression → Bool
  | name word => legacyWords.contains word
  | _ => false

end Expression

end ContactFlow.Handler
