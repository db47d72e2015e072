import ContactFlow.Output
import ContactFlow.Script.State

/-!
The steps that construct nothing. They compile the graph, trace and write what was compiled, look at
nodes, change the graph by hand and put pipelines together.
-/

namespace ContactFlow.Script

/-- Records the rows of a registry. -/
def registryOf (rows : Value) : Run Registry := do
  let rows ← ofResult (StepError.ofMismatch rows.members)
  let (journal, result) := register {} rows
  note journal
  ofResult result

def settingsAt (step : Table) : Run Settings := ofResult (settingsOf (argument step "settings"))

def compilerOf (r : Registry) (settings : Settings) : Run Compiler := do
  match (← get).pipeline with
  | some pipeline => pure { registry := r, settings, pipeline }
  | none =>
    note (Journal.configured settings)
    orFail .pipeline (Compiler.ofSettings r settings)

/-- Whether a run of a pipeline comes to a validator whose messages cannot be read. -/
def comesToUnreadable (s : State) (p : Pipeline) (g : Graph) : Bool :=
  let before := p.enabled.takeWhile fun v => !s.unreadable.contains v.id
  before.length < p.enabled.length && (Pipeline.runFrom g before).isOk

def compileGraph (r : Registry) (settings : Settings) (g : Graph) (step : Table) : Run Fields := do
  let c ← compilerOf r settings
  let s ← get
  if (c.expand g).toOption.any fun e => comesToUnreadable s c.pipeline e.graph then
    note (Journal.started c g)
    throw (.mismatch .operand)
  note (Journal.compiled c g)
  let f ← orFail .compile (c.compile g)
  modify fun s => { s with flow := some f }
  pure [("flow", .record (← ofResult (flowFields f step)))]

/-- Compiles the flow of a builder with a registry of its own or that of the script. -/
def buildFlow (b : Nat) (step : Table) : Run Fields := do
  let s ← get
  let registry ← match step.get? "registry" with
    | some rows => registryOf rows
    | none => pure s.registry
  let settings ← settingsAt step
  let g ← if s.handmade then pure s.graph else orFail .usage (s.workspace.finished b)
  compileGraph registry settings g step

def prepare : Run Fields := do
  let s ← get
  let c ← orFail .pipeline (Compiler.ofSettings s.registry {})
  note (Journal.expanded c s.graph)
  pure [("graph", (← orFail .compile (c.prepare s.graph)).listing)]

def currentFlow : Run Flow := do
  match (← get).flow with
  | some f => pure f
  | none => throw .nothingBuilt

def traceFlow (step : Table) : Run Fields := do
  let f ← currentFlow
  let outcomes ← ofResult (required step "outcomes")
  pure [("trace", ← ofResult (traceOf f.document outcomes step))]

/-- The path that a value is. -/
def pathOf (v : Value) : Run Path :=
  ofResult (StepError.ofMismatch ((v.asText.map Path.ofString).mapError fun _ => .operand))

def fileError (e : FileError) : StepError := .write (.file e)

/-- Writes the current flow, in a directory that is made first if one is named. -/
def writeFlow (step : Table) : Run Fields := do
  let f ← currentFlow
  if isSet step "mkdir" then
    let directory ← pathOf (argument step "mkdir")
    let files ← orFail fileError ((← get).files.makeDirectory directory)
    modify fun s => { s with files }
  let path ← pathOf (← ofResult (required step "path"))
  let (path, files) ← orFail .write (f.write (← get).files path)
  modify fun s => { s with files }
  pure [("path", .text path.text), ("text", .text (← orFail fileError (files.read path)))]

def render : Run Fields := do
  let document := Document.ofGraph (← get).graph (.text Document.defaultVersion) []
  pure [("text", .text (← orFail .unwritable (Document.text? document (some "  "))))]

def serialize (step : Table) : Run Fields := do
  let version := argument step "version" (.text Document.defaultVersion)
  let metadata ← ofResult (decode (argument step "metadata"))
  let metadata ← ofResult (tableOrNothing metadata)
  pure [("document", Document.ofGraph (← get).graph version metadata)]

def resolveReferences : Run Fields := do
  let s ← get
  note (Journal.resolved s.registry s.graph)
  let (g, us) ← orFail .usage (s.registry.resolve s.graph)
  setGraph g
  pure [("unresolved", .list (us.map fun u =>
    Listing.texts [u.kind.wire, u.name, u.node, u.message]))]

/-- Expands the inputs of the graph. The builders lose the edges that are written anew. -/
def expandStages : Run Fields := do
  let s ← get
  let (staging, w) := match s.copies with
    | [] => s.workspace.expandInputs
    | g :: _ => (expandInputs g, s.workspace)
  set (if s.copies.isEmpty then { s with workspace := w } else s.withGraph staging.graph)
  note (Journal.splits staging)
  staging.failure.forM fun e => throw (.usage e)
  pure [("created", Listing.texts staging.created)]

def expandLoops : Run Fields := do
  let looping := expandRetries (← get).graph
  setGraph looping.graph
  note (Journal.retries looping)
  looping.failure.forM fun e => throw (.usage e)
  pure [("created", Listing.texts looping.loops)]

/-- The node that a step is about. -/
def nodeAt (step : Table) : Run Node := do
  let id ← ofResult (keyAt step "id")
  match id, (← get).graph.get? id.display with
  | .text _, some n => pure n
  | id, _ => throw (.missing id.display)

def lower (step : Table) : Run Fields := do
  let n ← nodeAt step
  let mode ← ofResult (do inputMode (← required step "mode"))
  let edges ← orFail .usage (lowerConditions mode (isSet step "strict") n.transitions.conditions)
  pure [("edges", .list (edges.map ConditionEdge.listing))]

def newNode (step : Table) : Run Fields := do
  let kind ← ofResult (do actionKind (← required step "kind"))
  let hint ← ofResult (required step "hint")
  let parameters ← ofResult (do tableOrNothing (← decode (argument step "parameters")))
  let (n, g) ← orFail .usage ((← get).graph.newNode kind hint parameters (argument step "node_id"))
  setGraph g
  pure [("node", n.listing), ("entry", .orNull g.entry)]

def addNode (step : Table) : Run Fields := do
  let n ← ofResult (do nodeOf (← required step "node"))
  let g := (← get).graph.add n
  setGraph g
  pure [("entry", .orNull g.entry), ("keys", Listing.texts g.keys)]

def lookAt (step : Table) : Run Fields := do
  let n ← nodeAt step
  pure ([("node", n.listing)] ++ n.edges)

def holds (step : Table) : Run Fields := do
  let id := (← ofResult (keyAt step "id"))
  let g := (← get).graph
  let isText := (Value.scalar id).text?.isSome
  pure [("contains", .bool (isText && g.contains id.display)),
    ("reserved", .bool (isText && g.allocator.contains id.display)),
    ("len", .list [.int g.size, .int g.allocator.size])]

/-! ## Pipelines -/

/-- The pipeline, once there is one. -/
def pipe : Run Pipeline := do
  match (← get).pipeline with
  | some p => pure p
  | none => throw (.mismatch .property)

def setPipeline (p : Pipeline) : Run Fields := do
  modify fun s => { s with pipeline := some p }
  pure p.listing

def changePipeline (p : Pipeline) (f : Pipeline → Except PipelineError Pipeline) : Run Fields := do
  setPipeline (← orFail .pipeline (f p))

def unreadableIds (stubs : List Stub) : List String :=
  (stubs.filter fun s => !s.isReadable).map (·.validator.id)

/-- A pipeline of the stubs given, or the one that the settings ask for. -/
def newPipeline (step : Table) : Run Fields := do
  match step.get? "validators" with
  | some given =>
    let given ← ofResult (StepError.ofMismatch given.members)
    let stubs ← ofResult (given.mapM stub)
    modify fun s => { s with unreadable := unreadableIds stubs }
    setPipeline { validators := stubs.map (·.validator) }
  | none =>
    let settings ← settingsAt step
    note (Journal.configured settings)
    let p ← orFail .pipeline (Pipeline.ofSettings settings)
    modify fun s => { s with unreadable := [] }
    setPipeline p

def idOf (step : Table) : Run String := do pure (← ofResult (required step "id")).display

def addedValidator (step : Table) : Run Stub := do
  match step.get? "create" with
  | some name => pure ⟨← orFail .validator (({} : Catalogue).create name.display none), true⟩
  | none => ofResult (do stub (← required step "validator"))

def addValidator (step : Table) : Run Fields := do
  let added ← addedValidator step
  let fields ← changePipeline (← pipe) (·.add added.validator (nameOf? (argument step "before")))
  modify fun s => { s with unreadable := s.unreadable ++ unreadableIds [added] }
  pure fields

/-- The name that a run of the pipeline goes by, if it is given one. -/
def runName? (step : Table) : Option String := nameOf? (argument step "flow_name")

/-- Runs the pipeline on the graph, and gives the name of the run as well. -/
def runPipeline (step : Table) : Run (Graph × Pipeline × Option String) := do
  let p ← pipe
  let s ← get
  if comesToUnreadable s p s.graph then throw (.mismatch .operand)
  note (Journal.ran p s.graph (runName? step))
  pure (s.graph, p, some (Journal.runName s.graph (runName? step)))

def runChecks (step : Table) : Run Fields := do
  let (g, p, name) ← runPipeline step
  let report ← orFail .compile ((p.run g).mapError (CompileError.aborted name))
  pure [("ok", .bool report.ok), ("findings", Finding.listingOf report.findings),
    ("texts", Listing.texts (report.errors.map Finding.text))]

def validate (step : Table) : Run Fields := do
  let (g, p, name) ← runPipeline step
  let report ← orFail .compile (Compiler.validate p g name)
  pure [("warnings", Finding.listingOf report.warnings)]

def pipelineStep (step : Table) : String → Run Fields
  | "pipeline" => newPipeline step
  | "disable" => do
    let p ← pipe
    let id ← idOf step
    let fields ← changePipeline p (·.disable id)
    note [Journal.disabled id]
    pure fields
  | "enable" => do
    let p ← pipe
    let id ← idOf step
    changePipeline p (·.enable id)
  | "set_severity" => do
    let p ← pipe
    let id ← idOf step
    let level ← ofResult (required step "severity")
    changePipeline p (·.setSeverity id level)
  | "reorder" => do
    let p ← pipe
    let ids ← ofResult (required step "ids")
    changePipeline p (·.reorder ids)
  | "add_validator" => addValidator step
  | "is_enabled" => do
    let p ← pipe
    let id ← idOf step
    pure [("result", .bool (p.isEnabled id))]
  | "run" => runChecks step
  | "validate" => validate step
  | _ => throw (.mismatch .property)

/-- Runs a step that constructs nothing. -/
def plainStep (b : Nat) (step : Table) : String → Run Fields
  | "state" => do pure ((← get).workspace.builder b).listing
  | "build" => buildFlow b step
  | "compile" => do
    let settings ← settingsAt step
    let s ← get
    compileGraph s.registry settings s.graph step
  | "prepare" => prepare
  | "trace" => traceFlow step
  | "write" => writeFlow step
  | "dump" => do pure [("graph", (← get).graph.listing)]
  | "render" => render
  | "serialize" => serialize step
  | "resolve" => resolveReferences
  | "expand_sequential" => expandStages
  | "expand_loops" => expandLoops
  | "lower" => lower step
  | "new_node" => newNode step
  | "add" => addNode step
  | "get" => lookAt step
  | "contains" => holds step
  | "copy" => do
    modify fun s => { s with copies := s.graph :: s.copies }
    pure []
  | "original" => do
    modify fun s => { s with copies := s.copies.drop 1 }
    pure []
  | name => pipelineStep step name

end ContactFlow.Script
