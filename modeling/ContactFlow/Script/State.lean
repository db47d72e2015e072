import ContactFlow.Expansion.InPlace
import ContactFlow.Listing
import ContactFlow.Script.Call

/-!
The state of a script: the flow under construction, the builders and sets of branches that have a
name, the copies of the graph that are worked on, and what was compiled and written. There is no
pipeline until one is put together; some of its validators may have messages that cannot be read. A
step that fails keeps what it has changed.
-/

namespace ContactFlow.Script

abbrev Fields := List (String × Value)

/-- One entry of the log: what was to be done, and what came out of it. -/
structure Logged where
  head : Fields
  outcome : Except StepError Fields

structure State where
  workspace : Workspace
  handmade : Bool := false
  copies : List Graph := []
  builders : List (Scalar × Nat) := [(.text "root", 0)]
  sets : List (Scalar × Nat) := []
  registry : Registry := {}
  pipeline : Option Pipeline := none
  unreadable : List String := []
  flow : Option Flow := none
  files : Files := {}
  log : Array Logged := #[]
  journal : Array Entry := #[]

namespace State

/-- The graph that is looked at: a copy, or the one under construction. -/
def graph (s : State) : Graph := s.copies.head?.getD s.workspace.graph

def withGraph (s : State) (g : Graph) : State :=
  match s.copies with
  | _ :: rest => { s with copies := g :: rest }
  | [] => { s with workspace := s.workspace.withGraph g }

end State

abbrev Run := ExceptT StepError (StateM State)

section Running

variable {ε α : Type}

def ofResult (r : Result α) : Run α := fun s => (r, s)

/-- The result of an operation with errors of its own. -/
def orFail (f : ε → StepError) (r : Except ε α) : Run α := ofResult (r.mapError f)

def note (j : Journal) : Run Unit := modify fun s => { s with journal := s.journal ++ j.toArray }

def addLog (l : Logged) : Run Unit := modify fun s => { s with log := s.log.push l }

/-- Runs a step of construction, and reports the nodes that it adds. -/
def construct (m : BuildM UsageError α) : Run α := do
  let before := (← get).workspace
  let (result, w) := m before
  modify fun s => { s with workspace := w }
  note (Journal.appended before.graph.count w)
  orFail .usage result

/-- Runs an operation, and logs what came of it under a head. -/
def logged (head : Fields) (step : Run Fields) : Run (Option StepError) := do
  try
    let fields ← step
    addLog ⟨head, .ok fields⟩
    return none
  catch e =>
    addLog ⟨head, .error e⟩
    return some e

end Running

def setGraph (g : Graph) : Run Unit := modify (·.withGraph g)

/-- What every entry of a builder tells. -/
def builderFields (b : Nat) : Run Fields := do
  let w := (← get).workspace
  let x := w.builder b
  pure [("last", .orNull (x.last.map Handle.id)), ("nodes", .int w.graph.size),
    ("terminated", .bool x.isTerminated)]

def lookUp (entries : List (Scalar × Nat)) (name : Scalar) : Run Nat :=
  match entries.find? fun (k, _) => k.sameKey name with
  | some (_, n) => pure n
  | none => throw (.missing name.display)

/-- The name that a step gives to a builder or to a set. -/
def givenName (step : Table) : Run (Option Scalar) := do
  match step.get? "as" with
  | none | some .null => pure none
  | some name => some <$> ofResult (StepError.ofMismatch name.asKey)

def nameBuilder (step : Table) (b : Nat) : Run Unit := do
  if let some name := ← givenName step then
    modify fun s => { s with builders := Ordered.put s.builders name b }

def nameSet (step : Table) (set : Nat) : Run Unit := do
  if let some name := ← givenName step then
    modify fun s => { s with sets := Ordered.put s.sets name set }

/-- The fields of a compiled flow, with its text if an indentation is given. -/
def flowFields (f : Flow) (step : Table) : Result Fields := do
  let fields ← f.fields?.mapError .unwritable
  match step.get? "indent" with
  | none => pure fields
  | some indent =>
    let text ← (Document.text? f.document (← indentOf indent)).mapError .unwritable
    pure (fields ++ [("json", .text text)])

def defaultSteps : Int := 200

/-- The trace of a document that an entry asks for. -/
def traceOf (document outcomes : Value) (step : Table) : Result Value := do
  let limit := argument step "max_steps" (.int defaultSteps)
  let t ← (Trace.ofValues document outcomes limit).mapError .trace
  pure (t.listing (listed step "count"))

end ContactFlow.Script
