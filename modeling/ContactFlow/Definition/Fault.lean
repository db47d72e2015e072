import ContactFlow.Scalar

/-!
Faults of a definition: what is wrong with its data, and where. A reading of data in several parts
gathers the faults of all of them.
-/

namespace ContactFlow

/-- A step on the way to a part of the data. -/
inductive Place
  | name (s : String)
  | index (n : Int)
  deriving DecidableEq, Repr

inductive Problem
  | missing
  | unexpected
  | unreadableKey
  | notText
  | garbledText
  | notWhole
  | wholeSyntax
  | wholeSize
  | fraction
  | notFinite
  | notNumber
  | numberSyntax
  | notTruth
  | truthSyntax
  | tooLow
  | tooHigh
  | tooShort
  | notMember
  | notLiteral
  | notList
  | notSet
  | notTable
  | notRecord
  | notStep
  | noStepType
  | unknownStepType
  | cycle
  | tooDeep
  | refused (message : String)
  deriving DecidableEq, Repr

namespace Problem

def wire : Problem → String
  | .missing => "missing"
  | .unexpected => "extra_forbidden"
  | .unreadableKey => "invalid_key"
  | .notText => "string_type"
  | .garbledText => "string_unicode"
  | .notWhole => "int_type"
  | .wholeSyntax => "int_parsing"
  | .wholeSize => "int_parsing_size"
  | .fraction => "int_from_float"
  | .notFinite => "finite_number"
  | .notNumber => "float_type"
  | .numberSyntax => "float_parsing"
  | .notTruth => "bool_type"
  | .truthSyntax => "bool_parsing"
  | .tooLow => "greater_than_equal"
  | .tooHigh => "less_than_equal"
  | .tooShort => "too_short"
  | .notMember => "enum"
  | .notLiteral => "literal_error"
  | .notList => "list_type"
  | .notSet => "frozen_set_type"
  | .notTable => "dict_type"
  | .notRecord => "model_type"
  | .notStep => "model_attributes_type"
  | .noStepType => "union_tag_not_found"
  | .unknownStepType => "union_tag_invalid"
  | .cycle => "recursion_loop"
  | .tooDeep => "recursion_depth_exceeded"
  | .refused _ => "value_error"

end Problem

structure Fault where
  problem : Problem
  path : List Place := []
  deriving DecidableEq, Repr

/-- The outcome of a reading: what was read, or every fault found. -/
inductive Checked (α : Type)
  | good (a : α)
  | bad (faults : List Fault)
  deriving Repr

namespace Checked

variable {α β : Type}

def map (f : α → β) : Checked α → Checked β
  | .good a => .good (f a)
  | .bad faults => .bad faults

/-- Reads two parts. The faults of the first come first. -/
def seq (f : Checked (α → β)) (x : Checked α) : Checked β :=
  match f, x with
  | .good f, .good a => .good (f a)
  | .good _, .bad faults => .bad faults
  | .bad faults, .good _ => .bad faults
  | .bad faults, .bad more => .bad (faults ++ more)

instance : Applicative Checked where
  pure := .good
  map := map
  seq f x := seq f (x ())

/-- A single fault, right here. -/
def fault (p : Problem) : Checked α := .bad [⟨p, []⟩]

/-- Goes on with what was read, unless there were faults. -/
def andThen (x : Checked α) (f : α → Checked β) : Checked β :=
  match x with
  | .good a => f a
  | .bad faults => .bad faults

/-- Says where the part that was read stands. -/
def under (place : Place) : Checked α → Checked α
  | .good a => .good a
  | .bad faults => .bad (faults.map fun f => { f with path := place :: f.path })

/-- Reads every member of a list. -/
def each (read : α → Checked β) : List α → Checked (List β)
  | [] => .good []
  | a :: rest => List.cons <$> read a <*> each read rest

def faults : Checked α → List Fault
  | .good _ => []
  | .bad faults => faults

end Checked

end ContactFlow
