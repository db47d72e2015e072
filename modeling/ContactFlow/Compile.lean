import ContactFlow.Document
import ContactFlow.Expansion.Retry
import ContactFlow.Expansion.Stage
import ContactFlow.Registry
import ContactFlow.Validation.Pipeline

/-!
Compilation of a graph: its references are resolved, its inputs and retries expanded, the result is
validated, and a valid one is written as a document. The graph itself stays as it is.
-/

namespace ContactFlow

/-- A compiled flow. -/
structure Flow where
  name : String
  document : Value
  warnings : List Finding := []
  deriving Repr, Inhabited

inductive CompileError
  | usage (e : UsageError)
  | unresolved (flow : Option String) (references : List Unresolved) (findings : List Finding)
  | invalid (flow : Option String) (findings : List Finding)
  | aborted (flow : Option String) (abort : Abort)
  | unwritable (e : Json.Unwritable)
  deriving DecidableEq, Repr

namespace CompileError

def bullets (lines : List String) : String := "\n".intercalate (lines.map ("  - " ++ ·))

def findingsMessage (flow : Option String) (findings : List Finding) : String :=
  let subject := match flow with
    | none | some "" => "Validation failed"
    | some flow => "Flow '" ++ flow ++ "' failed validation"
  subject ++ " with " ++ toString findings.length ++ " finding(s):\n" ++
    bullets (findings.map Finding.text)

def unresolvedMessage (references : List Unresolved) (findings : List Finding) : String :=
  let more := if findings.isEmpty then ""
    else " and " ++ toString findings.length ++ " validation finding(s)"
  toString references.length ++ " unresolved resource reference(s)" ++ more ++ ":\n" ++
    bullets (references.map Unresolved.message ++ findings.map Finding.text)

def message : CompileError → String
  | .usage e => e.message
  | .unresolved _ references findings => unresolvedMessage references findings
  | .invalid flow findings => findingsMessage flow findings
  | .aborted flow abort => findingsMessage flow abort.findings
  | .unwritable e => e.message

/-- What is not about the flow. -/
def isForeign : CompileError → Bool
  | .unwritable _ => true
  | .usage e => e.isForeign
  | _ => false

end CompileError

/-- A graph with its references resolved and its inputs and retries expanded. -/
structure Expanded where
  graph : Graph
  unresolved : List Unresolved
  splits : List Split
  retries : Looping

structure Compiler where
  registry : Registry := {}
  settings : Settings := {}
  pipeline : Pipeline

namespace Compiler

/-- A compiler with the pipeline that the settings ask for. -/
def ofSettings (registry : Registry) (settings : Settings) : Except PipelineError Compiler :=
  (Pipeline.ofSettings settings).map fun pipeline => { registry, settings, pipeline }

def expand (c : Compiler) (g : Graph) : Except UsageError Expanded := do
  let (resolved, unresolved) ← c.registry.resolve g
  let staged := expandInputs resolved
  staged.failure.forM throw
  let retries := expandRetries staged.graph
  retries.failure.forM throw
  pure { graph := retries.graph, unresolved, splits := staged.splits, retries }

/-- The graph as it is validated, if all its references are registered. -/
def prepare (c : Compiler) (g : Graph) : Except CompileError Graph := do
  let e ← (c.expand g).mapError .usage
  if e.unresolved.isEmpty then pure e.graph else throw (.unresolved (some g.name) e.unresolved [])

/-- The error findings that go with unresolved references. -/
def errorFindings (p : Pipeline) (g : Graph) : List Finding :=
  match p.run g with
  | .ok report => report.errors
  | .error abort => abort.findings

/-- The report of a valid graph. -/
def validate (p : Pipeline) (g : Graph) (flow : Option String) : Except CompileError Report := do
  let report ← (p.run g).mapError (.aborted flow)
  if report.ok then pure report else throw (.invalid flow report.errors)

def document (s : Settings) (g : Graph) : Except CompileError Value :=
  let plain := Document.ofGraph g (.text s.flowVersion) []
  if s.includeFingerprint then
    (Document.withFingerprint g (.text s.flowVersion) plain).mapError .unwritable
  else .ok plain

/-- Compiles a graph. Unresolved references are reported together with what validation finds. -/
def compile (c : Compiler) (g : Graph) : Except CompileError Flow := do
  let e ← (c.expand g).mapError .usage
  if e.unresolved.isEmpty then
    let report ← validate c.pipeline e.graph (some g.name)
    let d ← document c.settings e.graph
    pure { name := g.name, document := d, warnings := report.warnings }
  else throw (.unresolved (some g.name) e.unresolved (errorFindings c.pipeline e.graph))

end Compiler

end ContactFlow
