import ContactFlow.Decimal.Numeral
import ContactFlow.Value

/-!
What values of unknown shape may be used for. Some have members that can be gone through, some can
be names of entries, and every value counts as true or as false. A use that a value does not allow
is a mismatch.
-/

namespace ContactFlow

/-- A value is of no kind that an operation takes, or lacks a property that it asks for. -/
inductive Mismatch
  | operand
  | property
  deriving DecidableEq, Repr, Inhabited

namespace Scalar

/-- Whether a scalar counts as true. Zeros and what is empty do not. -/
def isTruthy : Scalar → Bool
  | .null => false
  | .bool b => b
  | .int n => n != 0
  | .real (.finite _ m _) => m != 0
  | .real _ => true
  | .text s => s != ""
  | .stamp _ => true
  | .bytes bs => !bs.isEmpty

def isNumber (s : Scalar) : Bool := s.number?.isSome

/-- The order of numbers by their values. Whole numbers are below the infinity above, however large
they are. -/
def less? (a b : Scalar) : Option Bool :=
  match a.integer?, b.integer? with
  | some m, some n => some (m < n)
  | some _, none => match b with
    | .real (.infinite negative) => some !negative
    | b => do some (((← a.number?).le (← b.number?)))
  | none, some _ => match a with
    | .real (.infinite negative) => some negative
    | a => do some (((← a.number?).le (← b.number?)))
  | none, none => do
    let x ← a.number?
    let y ← b.number?
    pure (x.le y && !y.le x)

/-- The sum of two numbers. It is whole when both are. -/
def plus? (a b : Scalar) : Option Scalar :=
  match a, b with
  | .real x, b => b.number?.map fun y => .real (x.add y)
  | a, .real y => a.number?.map fun x => .real (x.add y)
  | a, b => do
    let m ← a.integer?
    let n ← b.integer?
    pure (.int (m + n))

def negate? : Scalar → Option Scalar
  | .real x => some (.real x.neg)
  | s => s.integer?.map fun n => .int (-n)

end Scalar

namespace Value

def isTruthy : Value → Bool
  | .scalar s => s.isTruthy
  | .list items => !items.isEmpty
  | .table entries => !entries.isEmpty
  | .reference _ => true
  | .bundle _ items => !items.isEmpty
  | .cycle _ => true

def text? : Value → Option String
  | .text s => some s
  | _ => none

/-- The text that a value is. -/
def asText (v : Value) : Except Mismatch String :=
  match v with
  | .text s => .ok s
  | _ => .error .property

/-- The members of a value: items, characters, keys or bytes. -/
def members : Value → Except Mismatch (List Value)
  | .list items => .ok items
  | .bundle _ items => .ok items
  | .table entries => .ok (entries.map fun (k, _) => .scalar k)
  | .text s => .ok (s.toList.map fun c => .text (String.singleton c))
  | .scalar (.bytes bs) => .ok (bs.map fun b => .int b.toNat)
  | _ => .error .operand

/-- The name of an entry that a value can be. -/
def asKey : Value → Except Mismatch Scalar
  | .scalar s => .ok s
  | _ => .error .operand

def asTable : Value → Except Mismatch Table
  | .table entries => .ok entries
  | _ => .error .operand

/-- Whether the characters stand one after the other somewhere in others. -/
def isPart (part : List Char) : List Char → Bool
  | [] => part.isEmpty
  | c :: rest => part.isPrefixOf (c :: rest) || isPart part rest

/-- Whether a text is among the members of a list, the keys of a table or the parts of a text. -/
def hasText (s : String) : Value → Except Mismatch Bool
  | .list items | .bundle _ items => .ok (items.any fun v => v.text? == some s)
  | .table entries => .ok (entries.any fun (k, _) => k == .text s)
  | .text t => .ok (isPart s.toList t.toList)
  | _ => .error .operand

mutual

/-- Every whole number in the value can be written in decimal. -/
def isWritable : Value → Bool
  | .scalar s => scalarWritable s
  | .list items => listWritable items
  | .table entries => tableWritable entries
  | .reference _ => true
  | .bundle _ items => listWritable items
  | .cycle _ => true

def scalarWritable : Scalar → Bool
  | .int n => Numeral.isWritable n
  | _ => true

def listWritable : List Value → Bool
  | [] => true
  | v :: rest => isWritable v && listWritable rest

def tableWritable : List (Scalar × Value) → Bool
  | [] => true
  | (k, v) :: rest => scalarWritable k && isWritable v && tableWritable rest

end

end Value

end ContactFlow
