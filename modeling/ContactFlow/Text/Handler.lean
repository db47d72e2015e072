import ContactFlow.Text.Handler.Reading

/-!
What is wrong with an expression that a handler in markup is given. It has to be well formed and
made of literals, and the members of sets and the keys of tables must not be sets or tables.
-/

namespace ContactFlow.Handler

/-- What is wrong with the value that an expression asks for. -/
inductive ValueFault
  | null
  | unhashable (kind : String)
  | noKey
  | noLiteral
  | tooLarge
  deriving DecidableEq, Repr

def ValueFault.message : ValueFault → String
  | .null => "source code string cannot contain null bytes"
  | .unhashable kind => "unhashable type: '" ++ kind ++ "'"
  | .noKey => "malformed node or string: None"
  | .noLiteral => "malformed node or string on line 1"
  | .tooLarge => "int too large to convert to float"

namespace Expression

mutual

/-- What kind of set or table a value is, or has among its items. -/
def unhashable? : Expression → Option String
  | .set _ | .emptySet => some "set"
  | .table _ => some "dict"
  | .tuple items => itemsUnhashable? items
  | _ => none

def itemsUnhashable? : List Expression → Option String
  | [] => none
  | e :: rest => (unhashable? e).or (itemsUnhashable? rest)

end

/-- A value that has to stand for itself, among members or keys. -/
def memberFault? (e : Expression) : Option ValueFault := e.unhashable?.map .unhashable

/-- The least whole number that rounds to more than any binary number of 64 bits holds. -/
def floatLimit : Nat := Nat.pow 2 1024 - Nat.pow 2 970

/-- What is wrong with the real part of a number that has an imaginary one. -/
def realFault? : Expression → Option ValueFault
  | .number (.whole n) | .signed (.number (.whole n)) =>
    if floatLimit ≤ n then some .tooLarge else none
  | .number .real | .signed (.number .real) => none
  | _ => some .noLiteral

mutual

/-- Why an expression has no value. -/
def fault? : Expression → Option ValueFault
  | .number _ | .text | .constant _ | .emptySet | .signed (.number _) => none
  | .tuple items => itemsFault? items
  | .set items => membersFault? items
  | .table entries => entriesFault? entries
  | .sum left (.number .imaginary) => left.realFault?
  | _ => some .noLiteral

def itemsFault? : List Expression → Option ValueFault
  | [] => none
  | e :: rest => (fault? e).or (itemsFault? rest)

def membersFault? : List Expression → Option ValueFault
  | [] => none
  | e :: rest => ((fault? e).or e.memberFault?).or (membersFault? rest)

def entriesFault? : List (Option Expression × Expression) → Option ValueFault
  | [] => none
  | (none, _) :: _ => some .noKey
  | (some k, e) :: rest => (((fault? k).or (fault? e)).or k.memberFault?).or (entriesFault? rest)

end

end Expression

/-- What is wrong with an expression: its form, or its value. -/
inductive Refused
  | form (f : Fault)
  | value (f : ValueFault)
  deriving DecidableEq, Repr

/-- What is wrong with an expression, if anything is. -/
def refused? (cs : List Char) : Option Refused :=
  if cs.contains (Char.ofNat 0) then some (.value .null)
  else
    match Expression.ofText (cs.dropWhile fun c => c == ' ' || c == '\t') with
    | .error f => some (.form f)
    | .ok e => e.fault?.map .value

end ContactFlow.Handler
