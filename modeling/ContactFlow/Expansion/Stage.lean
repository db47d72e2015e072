import ContactFlow.Builder.Action

/-!
Input stages. A node that takes speech first and keypad entries second is split in two: it becomes
the first stage itself, and a second stage is added for it. Each trigger leads from the first stage
to the second; the errors that are no trigger keep their handlers on the first stage, and the second
stage has all of them. Matches on input become comparisons on the stage they belong to. A node with
one stage only has its matches turned into comparisons.
-/

namespace ContactFlow

namespace Guard

def keyFor (digits intent : Option Scalar) : InputMode → Option Scalar
  | .keypad => digits
  | .speech => intent

end Guard

/-- Turns the matches on input into comparisons for a stage. A match that the stage cannot meet is
left out, or refused when the stage is the only one. -/
def lowerConditions (mode : InputMode) (strict : Bool) :
    List ConditionEdge → Except UsageError (List ConditionEdge)
  | [] => .ok []
  | e :: rest => match e.guard with
    | .compare .. => (lowerConditions mode strict rest).map (e :: ·)
    | .input digits intent => match Guard.keyFor digits intent mode with
      | some key =>
        (lowerConditions mode strict rest).map (⟨.compare "Equals" [key], e.target⟩ :: ·)
      | none =>
        if strict then .error (.unmatchable digits intent mode)
        else lowerConditions mode strict rest

/-- The conditions of a stage that others complement. -/
def stageConditions (mode : InputMode) (edges : List ConditionEdge) : List ConditionEdge :=
  match lowerConditions mode false edges with
  | .ok lowered => lowered
  | .error _ => []

namespace Stage

open Draft

def base (prompt : String) (timeout : Int) : Except UsageError Table := do
  pure [textKey "Text" prompt, textKey "StoreInput" "False",
    textKey "InputTimeLimitSeconds" (← (Value.int timeout).written)]

def entryLength (maxDigits : Int) : Except UsageError Table := do
  pure [maximumLength (← (Value.int maxDigits).written)]

def spoken (p : PrimaryInput) : Table :=
  let bot := match p.lexBot with
    | none | some "" => []
    | some bot => [lexBot (.text bot)]
  bot ++ [textKey "IntentConfidenceThreshold" (Value.reals.render p.confidenceThreshold)]

def primary (p : PrimaryInput) : Except UsageError Table := do
  let shared ← base p.prompt p.timeoutSeconds
  match p.mode with
  | .keypad => pure (shared ++ (← entryLength p.maxDigits))
  | .speech => pure (shared ++ spoken p)

def fallback (f : FallbackInput) : Except UsageError Table := do
  pure ((← base f.prompt f.timeoutSeconds) ++ (← entryLength f.maxDigits))

end Stage

def Trigger.kinds (ts : List Trigger) : List ErrorKind := (normalize ts).filterMap errorKind?

/-- A node split in two, and the errors by which it hands over. -/
structure Split where
  node : String
  serial : Nat
  fallback : String
  kinds : List ErrorKind
  deriving DecidableEq, Repr

/-- How far the expansion of a graph's inputs came, and the serial numbers of the nodes whose
conditions were written anew. -/
structure Staging where
  graph : Graph
  splits : List Split := []
  renewed : List Nat := []
  failure : Option UsageError := none

namespace Staging

def created (s : Staging) : List String := s.splits.map (·.fallback)

/-- Writes a node back, unless an added node has taken its place. -/
def write (s : Staging) (n : Node) : Staging :=
  { s with graph := s.graph.modifyNode n.serial fun _ => n }

/-- Writes a node back whose conditions are new. -/
def renew (s : Staging) (n : Node) : Staging :=
  { s.write n with renewed := s.renewed ++ [n.serial] }

def withConditions (n : Node) (edges : List ConditionEdge) : Node :=
  { n with transitions := { n.transitions with conditions := edges } }

def plain (s : Staging) (n : Node) : Staging :=
  match lowerConditions (n.mode.getD .keypad) true n.transitions.conditions with
  | .ok edges => s.renew (withConditions n edges)
  | .error e => { s with failure := some e }

def single (s : Staging) (n : Node) (spec : InputSpec) (parameters : Table) : Staging :=
  let n := { n with parameters, mode := some spec.primary.mode }
  match lowerConditions spec.primary.mode true n.transitions.conditions with
  | .error e => { s.write n with failure := some e }
  | .ok edges =>
    let retry := if 1 < spec.primary.maxRetries then
      some { maxAttempts := spec.primary.maxRetries : RetrySpec } else n.retry
    s.renew { withConditions n edges with retry, spec := none }

def firstStage (n : Node) (spec : InputSpec) (parameters : Table) (fallback : String) : Node :=
  let kinds := Trigger.kinds spec.triggers
  let retry : Option RetrySpec :=
    if spec.triggers.contains .maxRetries && 1 < spec.primary.maxRetries then
      some { maxAttempts := spec.primary.maxRetries, retryOn := kinds } else none
  { n with
    parameters
    mode := some spec.primary.mode
    transitions :=
      { n.transitions with
        conditions := stageConditions spec.primary.mode n.transitions.conditions
        errors := kinds.map (⟨·, some fallback⟩) ++
          n.transitions.errors.filter fun e => !kinds.contains e.kind }
    retry
    spec := none }

def secondStage (n : Node) (f : FallbackInput) (added : Node) : Node :=
  { added with
    mode := some f.mode
    transitions :=
      { conditions := stageConditions f.mode n.transitions.conditions
        errors := n.transitions.errors }
    retry := if 1 < f.maxRetries then some { maxAttempts := f.maxRetries } else none }

def split (s : Staging) (n : Node) (spec : InputSpec) (f : FallbackInput)
    (first second : Table) : Staging :=
  let (added, graph) :=
    s.graph.allocateNode .collectInput (n.id ++ "_" ++ f.mode.wire) second
  let graph := graph.modifyNode added.serial fun _ => secondStage n f added
  let done : Split := ⟨n.id, n.serial, added.id, Trigger.kinds spec.triggers⟩
  { s with graph, splits := s.splits ++ [done] }.renew (firstStage n spec first added.id)

/-- Expands a node by its specification, unless an amount in it cannot be written. -/
def expandSpec (s : Staging) (n : Node) (spec : InputSpec) : Except UsageError Staging :=
  match spec.enableFallback, spec.fallback with
  | true, some f => do
    let second ← Stage.fallback f
    let first ← Stage.primary spec.primary
    pure (s.split n spec f first second)
  | _, _ => do pure (s.single n spec (← Stage.primary spec.primary))

def expandNode (s : Staging) (n : Node) : Staging :=
  if s.failure.isSome || n.kind != .collectInput then s
  else match n.spec with
    | none => s.plain n
    | some spec => match s.expandSpec n spec with
      | .ok s => s
      | .error e => { s with failure := some e }

end Staging

/-- Expands the inputs of a graph, up to the first that cannot be. -/
def expandInputs (g : Graph) : Staging := g.toList.foldl Staging.expandNode { graph := g }

end ContactFlow
