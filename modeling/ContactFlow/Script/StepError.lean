import ContactFlow.CommandLine.Report
import ContactFlow.Definition.Input
import ContactFlow.Trace

/-!
Why a step of a script fails. Some errors are about the flow; the others are about the script
itself, such as an argument that is missing or that an operation has no use for.
-/

namespace ContactFlow

inductive StepError
  | usage (e : UsageError)
  | input (e : InputDataError)
  | invalid (faults : List Fault)
  | compile (e : CompileError)
  | pipeline (e : PipelineError)
  | trace (e : TraceError)
  | write (e : WriteError)
  | validator (e : UnknownValidator)
  | unwritable (e : Json.Unwritable)
  | mismatch (e : Mismatch)
  | missing (name : String)
  | unreadable (message : String)
  | nothingBuilt
  deriving Repr

namespace StepError

def ofMismatch {α : Type} (r : Except Mismatch α) : Except StepError α := r.mapError .mismatch

def ofChecked {α : Type} : Checked α → Except StepError α
  | .good a => .ok a
  | .bad faults => .error (.invalid faults)

/-- The rows of an error in the report of a command. Errors about the script have none. -/
def rows : StepError → List (List String)
  | .usage e => e.rows
  | .compile e => e.rows
  | .pipeline e => plainRow "ConfigError" e.message
  | .trace e => plainRow "TraceError" e.message
  | _ => []

/-- What is not about the flow. -/
def isForeign : StepError → Bool
  | .usage e => e.isForeign
  | .compile e => e.isForeign
  | .pipeline (.severity _) | .pipeline (.mismatch _) => true
  | .pipeline _ => false
  | .trace e => match e with
    | .missingField _ | .mismatch _ | .badCount _ | .endlessCount => true
    | _ => false
  | _ => true

end StepError

end ContactFlow
