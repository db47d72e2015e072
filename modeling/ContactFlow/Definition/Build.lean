import ContactFlow.Compile
import ContactFlow.Definition.File

/-!
Building flows from definitions. The steps of a list are appended one after another, each with its
branches and then its error handlers.

Which action a type of step stands for is looked up in a table of handlers, so that further types
can be handled like one of the known ones.
-/

namespace ContactFlow

inductive DefinitionError
  | usage (e : UsageError)
  | misplacedContinue
  | continueOutside
  | unknownErrorKind (name : String)
  | wrongStep (handler step : StepType)
  | unknownStep (type : String) (available : List String)
  | input (e : SpecError)
  | endless
  | flow (name : String) (e : DefinitionError)
  | unknownFlows (names : List Scalar) (available : List String)
  deriving DecidableEq, Repr

def StepType.handlerName (t : StepType) : String := t.title ++ "StepFactory"

namespace DefinitionError

def message : DefinitionError → String
  | .usage e => e.message
  | .misplacedContinue => "'continue' must be the last step of its branch"
  | .continueOutside => "'continue' is only valid at the end of a branch"
  | .unknownErrorKind name => UsageError.unknownKindMessage name
  | .wrongStep handler step =>
    handler.handlerName ++ " received wrong step type: " ++ step.dataName
  | .unknownStep type available =>
    "Unknown step type: '" ++ type ++ "'. Available: " ++ Text.quotedList available
  | .input e => e.message
  | .endless => "maximum recursion depth exceeded"
  | .flow name e => "Flow '" ++ name ++ "': " ++ e.message
  | .unknownFlows names available =>
    "Unknown flow(s) " ++ Text.bracketed (names.map Scalar.inner) ++ ". Available: " ++
      Text.quotedList available

/-- The errors that are not about one flow: inputs whose stages do not go together, values that are
in themselves, and numbers that are too long. -/
def isForeign : DefinitionError → Bool
  | .input _ | .endless | .usage .longNumber => true
  | _ => false

/-- The error of a flow as a whole. -/
def ofFlow (name : String) (e : DefinitionError) : DefinitionError :=
  if e.isForeign then e else .flow name e

end DefinitionError

/-- The type of step by which steps named so are handled. -/
structure Handlers where
  entries : List (String × StepType) := StepType.all.map fun t => (t.tag, t)

namespace Handlers

def types (h : Handlers) : List String := Ordered.keys h.entries

def get (h : Handlers) (type : String) : Except DefinitionError StepType :=
  match h.entries.lookup type with
  | some t => .ok t
  | none => .error (.unknownStep type h.types)

def register (h : Handlers) (type : String) (t : StepType) : Handlers :=
  ⟨Ordered.put h.entries type t⟩

/-- The handler of the type named has to be one for the step. -/
def accept (h : Handlers) (type : String) (s : Step) : Except DefinitionError Unit := do
  let t ← h.get type
  if t = s.type then pure () else throw (.wrongStep t s.type)

end Handlers

namespace Action

/-- The values among which placeholders are looked for. -/
def values : Action → Value
  | .invokeExternal c => c.parameters
  | .setAttributes attributes => .table attributes
  | _ => .null

/-- The action with the placeholders among its values turned into references. -/
def withPlaceholders : Action → Action
  | .invokeExternal c => .invokeExternal { c with parameters := c.parameters.withPlaceholders }
  | .setAttributes attributes => .setAttributes (Value.tableWithPlaceholders attributes)
  | a => a

end Action

/-- The triggers of known names. -/
def Trigger.known (names : List String) : List Trigger :=
  match Trigger.ofNames names with
  | .ok ts => ts
  | .error _ => []

/-- The action that a step asks for. -/
def Head.resolve : Head → Except DefinitionError Action
  | .action a => if a.values.isEndless then .error .endless else .ok a.withPlaceholders
  | .staged primary fallback triggers enableFallback =>
    let spec : InputSpec :=
      { primary, fallback, triggers := Trigger.known triggers, enableFallback }
    match spec.check with
    | .ok _ => .ok (.collectSequential spec)
    | .error e => .error (.input e)

namespace Step

abbrev Building := BuildM DefinitionError

/-- Returns to the flow that a branch has left. -/
def resumeFlow (b : Nat) : Building Unit := do
  match ((← BuildM.read).builder b).scope with
  | .root => BuildM.fail .continueOutside
  | .branch _ => (Builder.thenContinue b).mapError .usage

/-- Only the last step of a list may resume the flow. -/
def checkPlace (s : Step) (rest : List Step) : Except DefinitionError Unit :=
  match s with
  | .resume _ => if rest.isEmpty then .ok () else .error .misplacedContinue
  | _ => .ok ()

def errorKind (name : String) : Except DefinitionError ErrorKind :=
  match ErrorKind.ofName? name with
  | some kind => .ok kind
  | none => .error (.unknownErrorKind name)

mutual

/-- Appends a step with its branches, but without its error handlers. -/
def place (h : Handlers) (b : Nat) : Step → Building Unit
  | .resume _ => resumeFlow b
  | .jump target _ => (Builder.jumpTo b (.text target)).mapError .usage
  | .action head frame branches _ => do
    let action ← BuildM.ofExcept head.resolve
    match action with
    | .loop times => placeLoop h b times frame branches
    | action =>
      if action.offer = .nothing then
        let _ ← (Builder.append b action (.orNull frame.label) (.orNull frame.id)).mapError .usage
      else
        let set ← (Builder.appendBranching b action (.orNull frame.label)
          (.orNull frame.id)).mapError .usage
        placeBranches h set branches

def placeLoop (h : Handlers) (b : Nat) (times : Value) (frame : Frame) :
    List (Branch × List Step) → Building Unit
  | [] => pure ()
  | (_, body) :: _ =>
    Builder.loop .usage b times (.orNull frame.label) (.orNull frame.id) fun inner =>
      appendAll h inner body

def placeBranches (h : Handlers) (set : Nat) : List (Branch × List Step) → Building Unit
  | [] => pure ()
  | (which, steps) :: rest => do
    Builder.branch .usage set which fun inner => appendAll h inner steps
    placeBranches h set rest

def placeErrors (h : Handlers) (b : Nat) : List (String × List Step) → Building Unit
  | [] => pure ()
  | (name, steps) :: rest => do
    let kind ← BuildM.ofExcept (errorKind name)
    Builder.onError .usage b (.kind kind) fun inner => appendAll h inner steps
    placeErrors h b rest

def placeHandlers (h : Handlers) (b : Nat) : Step → Building Unit
  | .action _ _ _ errors => placeErrors h b errors
  | _ => pure ()

/-- Appends a list of steps. -/
def appendAll (h : Handlers) (b : Nat) : List Step → Building Unit
  | [] => pure ()
  | s :: rest => do
    BuildM.ofExcept (checkPlace s rest)
    BuildM.ofExcept (h.accept s.type.tag s)
    place h b s
    placeHandlers h b s
    appendAll h b rest

end

end Step

/-- The workspace of a flow after its steps were appended. -/
def FlowDefinition.build (f : FlowDefinition) (name : String) :
    Except DefinitionError Workspace := do
  let start ← (Workspace.start name).mapError .usage
  match Step.appendAll {} 0 f.steps start with
  | (.ok _, w) => pure w
  | (.error e, _) => throw (e.ofFlow name)

namespace Resources

def ofKind (kind : ResourceKind) (addresses : List (String × String)) : List (Reference × String) :=
  addresses.map fun (name, address) => (⟨kind, name⟩, address)

/-- The addresses in the order in which they are registered. -/
def entries (r : Resources) : List (Reference × String) :=
  ofKind .queue r.queues ++ ofKind .externalFunction r.functions ++ ofKind .flow r.flows ++
    ofKind .hoursOfOperation r.hours

end Resources

namespace Definition

/-- The resources of a definition and those of another registry, which win. -/
def registry (d : Definition) (more : Registry) : Except UsageError Registry :=
  Registry.ofList (d.resources.entries ++ more.addresses)

end Definition

/-- Why a definition cannot be compiled. -/
inductive ProjectError
  | definition (e : DefinitionError)
  | registry (e : UsageError)
  | pipeline (e : PipelineError)
  | compile (e : CompileError)
  deriving DecidableEq, Repr

namespace Definition

def compiler (d : Definition) (more : Registry) : Except ProjectError Compiler := do
  let registry ← (d.registry more).mapError .registry
  (Compiler.ofSettings registry d.settings).mapError .pipeline

/-- The name of a flow that is there. -/
def known? (d : Definition) : Scalar → Option String
  | .text name => if Ordered.contains d.flows name then some name else none
  | _ => none

/-- The flows selected, or all of them when none is. -/
def selection (d : Definition) (selected : List Scalar) :
    Except DefinitionError (List String) :=
  if selected.isEmpty then .ok d.flowNames
  else match selected.filter fun name => (d.known? name).isNone with
    | [] => .ok (selected.filterMap d.known?)
    | unknown => .error (.unknownFlows unknown d.flowNames)

def compileFlow (d : Definition) (c : Compiler) (name : String) : Except ProjectError Flow := do
  let built ← (((d.flow? name).getD {}).build name).mapError .definition
  (c.compile built.graph).mapError .compile

/-- Compiles flows of a definition, up to the first that fails. -/
def compile (d : Definition) (more : Registry) (selected : List Scalar) :
    Except ProjectError (List (String × Flow)) := do
  let names ← (d.selection selected).mapError .definition
  let c ← d.compiler more
  let flows ← names.mapM fun name => (d.compileFlow c name).map (name, ·)
  pure (flows.foldl (fun done (name, flow) => Ordered.put done name flow) [])

end Definition

end ContactFlow
