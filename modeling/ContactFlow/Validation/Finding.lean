import ContactFlow.Kind
import ContactFlow.Ordered

/-!
Findings of a validation, and the report that gathers them.
-/

namespace ContactFlow

structure Finding where
  validator : String
  message : String
  node : Option String := none
  severity : Severity := .error
  deriving DecidableEq, Repr, Inhabited

namespace Finding

def text (f : Finding) : String :=
  let place := match f.node with
    | none | some "" => ""
    | some node => " [" ++ node ++ "]"
  f.validator ++ place ++ ": " ++ f.message

def isError (f : Finding) : Bool := f.severity == .error

/-- The validators of the findings, each once. -/
def validators (fs : List Finding) : List String := Ordered.distinct (fs.map (·.validator))

end Finding

structure Report where
  findings : List Finding := []
  deriving DecidableEq, Repr, Inhabited

namespace Report

def errors (r : Report) : List Finding := r.findings.filter (·.severity == .error)
def warnings (r : Report) : List Finding := r.findings.filter (·.severity == .warning)
def ok (r : Report) : Bool := r.errors.isEmpty

end Report

end ContactFlow
