import ContactFlow.Catalog
import ContactFlow.Definition.Build

/-!
The journal: what each operation reports about its course. Every function here gives the entries of
one operation in their order.
-/

namespace ContactFlow

namespace Journal

def builderSource : String := "callflow.compiler.builder"
def definitionSource : String := "callflow.compiler.definition"
def compilerSource : String := "callflow.compiler.flow_compiler"
def retrySource : String := "callflow.compiler.loops"
def stageSource : String := "callflow.compiler.sequential"
def registrySource : String := "callflow.compiler.references"
def pipelineSource : String := "callflow.validation.pipeline"
def validatorSource : String := "callflow.validation.registry"
def catalogSource : String := "callflow.flows.registry"

def appendedNode (flow : String) (n : Node) : Entry :=
  ⟨.debug, builderSource,
    "Appended " ++ n.kind.name ++ " node '" ++ n.id ++ "' to flow '" ++ flow ++ "'"⟩

/-- The nodes that a builder has added to a graph that had had so many before. -/
def appended (before : Nat) (w : Workspace) : Journal :=
  (w.graph.toList.filter fun n => before ≤ n.serial).map (appendedNode w.flow)

def registered (r : Registry) (ref : Reference) (address : String) : Journal :=
  let what := ref.kind.wire ++ " '" ++ ref.name ++ "'"
  (match r.lookup ref with
    | some previous =>
      if previous = address then []
      else [⟨.warning, registrySource, what ++ " already registered, overwriting"⟩]
    | none => []) ++ [⟨.debug, registrySource, "Registered " ++ what⟩]

/-- The registrations up to the first that is refused. -/
def registrations (r : Registry) : List (Reference × String) → Journal
  | [] => []
  | (ref, address) :: rest => match r.register ref address with
    | .ok next => registered r ref address ++ registrations next rest
    | .error _ => []

def cleared (r : Registry) : Journal :=
  [⟨.debug, registrySource, "Cleared " ++ toString r.size ++ " registered resource(s)"⟩]

def resolved (r : Registry) (g : Graph) : Journal :=
  if g.resolved then []
  else [⟨.debug, registrySource, "Resolved flow '" ++ g.name ++ "' (" ++
    toString (r.unresolved g).length ++ " unresolved reference(s))"⟩]

def missing (r : Registry) (g : Graph) : Journal :=
  match r.unresolved g with
  | [] => []
  | unresolved => [⟨.error, compilerSource, "Flow '" ++ g.name ++ "' has " ++
      toString unresolved.length ++ " unresolved reference(s): " ++
      ", ".intercalate (unresolved.map Unresolved.message)⟩]

def splitNode (s : Split) : Entry :=
  ⟨.debug, stageSource, "Split sequential input '" ++ s.node ++ "' into '" ++ s.node ++ "' + '" ++
    s.fallback ++ "' (triggers: " ++ Text.quotedList (s.kinds.map ErrorKind.name) ++ ")"⟩

def splits (s : Staging) : Journal := s.splits.map splitNode

def retryReport : RetryReport → Entry
  | .looped node loop exit attempts => ⟨.debug, retrySource,
      "Expanded retry loop '" ++ loop ++ "' for '" ++ node ++ "' (" ++ toString attempts ++
        " attempts, exhausted -> '" ++ exit ++ "')"⟩
  | .idle node attempts => ⟨.debug, retrySource,
      "Node '" ++ node ++ "' allows " ++ toString attempts ++
        " attempts but has no retryable error handlers; nothing to expand"⟩

def retries (s : Looping) : Journal := s.reports.map retryReport

/-- The expansions of a graph whose references were resolved. -/
def expansions (g : Graph) : Journal :=
  let staged := expandInputs g
  splits staged ++
    if staged.failure.isSome then []
    else
      let looped := expandRetries staged.graph
      retries looped ++ if looped.failure.isSome then []
        else [⟨.debug, compilerSource, "Expanded '" ++ g.name ++ "': " ++
          toString staged.splits.length ++ " fallback input(s), " ++
          toString looped.loops.length ++ " retry loop(s)"⟩]

def expanded (c : Compiler) (g : Graph) : Journal :=
  if g.resolved then []
  else resolved c.registry g ++ missing c.registry g ++ expansions (c.registry.resolvedGraph g)

/-- The name that a run of the pipeline goes by. -/
def runName (g : Graph) : Option String → String
  | none | some "" => g.name
  | some flow => flow

def ran (p : Pipeline) (g : Graph) (flow : Option String) : Journal :=
  let name := runName g flow
  match p.run g with
  | .error abort => [⟨.error, pipelineSource,
      "Validator '" ++ abort.validator ++ "' aborted validation of '" ++ name ++ "'"⟩]
  | .ok report =>
    (report.warnings.map fun w => ⟨.warning, pipelineSource, name ++ ": " ++ w.text⟩) ++
      [⟨.debug, pipelineSource, "Validated '" ++ name ++ "': " ++ toString report.errors.length ++
        " error(s), " ++ toString report.warnings.length ++ " warning(s)"⟩]

def finished (flow : Flow) : Entry :=
  ⟨.info, compilerSource, "Compiled flow '" ++ flow.name ++ "' into " ++
    toString (Document.actions flow.document).length ++ " action(s) with " ++
    toString flow.warnings.length ++ " warning(s)"⟩

/-- A compilation up to its validation. -/
def started (c : Compiler) (g : Graph) : Journal :=
  [⟨.info, compilerSource, "Compiling flow '" ++ g.name ++ "' (" ++ toString g.size ++
    " action(s))"⟩] ++ expanded c g

def compiled (c : Compiler) (g : Graph) : Journal :=
  started c g ++
  (match c.expand g with
    | .ok e => ran c.pipeline e.graph (some g.name)
    | .error _ => []) ++
  match c.compile g with
    | .ok flow => [finished flow]
    | .error _ => []

def disabled (id : String) : Entry :=
  ⟨.debug, pipelineSource, "Disabled validator '" ++ id ++ "'"⟩

/-- The validators that settings disable, up to the first that is unknown. -/
def configured (s : Settings) : Journal :=
  (s.disabledValidators.takeWhile (Pipeline.configured s).ids.contains).map disabled

def registeredValidator (c : Catalogue) (name : String) : Journal :=
  (if c.isRegistered name then
    [⟨.warning, validatorSource, "Validator '" ++ name ++ "' already registered, overwriting"⟩]
  else []) ++ [⟨.debug, validatorSource, "Registered validator '" ++ name ++ "'"⟩]

/-- The steps of a definition's flow, however far they came. -/
def built (f : FlowDefinition) (name : String) : Journal :=
  match Workspace.start name with
  | .error _ => []
  | .ok start => match Step.appendAll {} 0 f.steps start with
    | (.error _, w) => appended 0 w
    | (.ok _, w) => appended 0 w ++ [⟨.debug, definitionSource, "Built flow '" ++ name ++
        "' from definition (" ++ toString w.graph.size ++ " action(s))"⟩]

/-- The definition's own resources, and those of another registry after them. -/
def registry (d : Definition) (more : Registry) : Journal :=
  registrations {} (d.resources.entries ++ more.addresses)

/-- One flow of a definition, built and compiled. -/
def ofFlow (c : Compiler) (f : FlowDefinition) (name : String) : Journal :=
  built f name ++ match f.build name with
    | .ok w => compiled c w.graph
    | .error _ => []

def compiledFlow (c : Compiler) (d : Definition) (name : String) : Journal :=
  ofFlow c ((d.flow? name).getD {}) name

/-- The flows of a definition, up to the first that fails. -/
def compiledFlows (c : Compiler) (d : Definition) : List String → Journal
  | [] => []
  | name :: rest => compiledFlow c d name ++ match d.compileFlow c name with
    | .ok _ => compiledFlows c d rest
    | .error _ => []

def compiler (d : Definition) (more : Registry) : Journal :=
  registry d more ++ match d.registry more with
    | .ok _ => configured d.settings
    | .error _ => []

def definition (d : Definition) (more : Registry) (selected : List Scalar) : Journal :=
  match d.selection selected, d.compiler more with
  | .ok names, .ok c => compiler d more ++ compiledFlows c d names
  | .ok _, .error _ => compiler d more
  | .error _, _ => []

section Cataloged

variable {ε : Type}

/-- A name that is taken is given to the new flow. -/
def cataloged (c : Catalog ε) (name : Scalar) : Journal :=
  if c.has name then
    [⟨.warning, catalogSource, "Flow '" ++ name.display ++ "' already registered, overwriting"⟩]
  else []

def imported (module : String) : Entry :=
  ⟨.debug, catalogSource, "Imported flow module '" ++ module ++ "'"⟩

/-- What the steps of a flow report, however far they come. -/
def workspace (c : Catalog ε) (name : Scalar) : Journal :=
  match c.find? name, Workspace.named (.scalar name) with
  | some p, .ok start => p.reports start
  | _, _ => []

def compiledProgram (compiler : Compiler) (c : Catalog ε) (name : Scalar) : Journal :=
  workspace c name ++ match c.workspace name with
    | .ok w => compiled compiler w.graph
    | .error _ => []

def catalogBuild (c : Catalog ε) (r : Registry) (s : Settings) (name : Scalar) : Journal :=
  workspace c name ++ match c.workspace name with
    | .error _ => []
    | .ok w => configured s ++ match Compiler.ofSettings r s with
      | .ok compiler => compiled compiler w.graph
      | .error _ => []

def compiledPrograms (compiler : Compiler) (c : Catalog ε) : List Scalar → Journal
  | [] => []
  | name :: rest => compiledProgram compiler c name ++ match c.compileWith compiler name with
    | .ok _ => compiledPrograms compiler c rest
    | .error _ => []

def catalogBuildAll (c : Catalog ε) (r : Registry) (s : Settings) : Journal :=
  configured s ++ match Compiler.ofSettings r s with
    | .ok compiler => compiledPrograms compiler c c.names
    | .error _ => []

end Cataloged

end Journal

end ContactFlow
