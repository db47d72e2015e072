import ContactFlow.Script.Step

/-!
Running scripts. A step may hold the steps of a branch, which are run on the builder of that branch.
An error ends the list of steps that it occurs in, and goes on to the step that holds the list; a
step that catches its errors, and the outermost list, go on instead.
-/

namespace ContactFlow.Script

/-- The steps that a builder alone can take. -/
def builderSteps : List String :=
  ["state", "jump_to", "then_continue", "loop", "on_error"] ++ ActionCall.all.map ActionCall.name

def jumpSignature : Signature := ⟨["node_id"], []⟩
def continueSignature : Signature := {}
def loopSignature : Signature := ⟨["times"], ActionCall.labelled⟩

/-- The arguments of a step that takes those of a signature. -/
def checkedArguments (s : Signature) (step : Table) : Run Table := do
  let args ← ofResult (arguments step)
  ofResult (s.check args)
  pure args

/-- The kind of error that a step names, or its name. -/
def errorName (step : Table) : Result ErrorName := do
  let kind ← required step "kind"
  if isSet step "enum" then .kind <$> errorKind kind else pure (.named kind)

/-- The builder that a step acts on: the one it names, or else that of its list. -/
def builderOf (b : Nat) (step : Table) : Run Nat := do
  match step.get? "builder" with
  | none | some .null => pure b
  | some name =>
    let name ← ofResult (StepError.ofMismatch name.asKey)
    lookUp (← get).builders name

/-- How the lists inside a step are run: on a builder, the errors of their steps ending them. -/
abbrev Inner := Nat → List Value → Run Unit

section Nested

variable (inner : Inner)

/-- Runs the steps of a branch that was opened, and closes it. -/
def fillBranch (v : Table) (steps : String) (opened : Run OpenBranch) : Run Unit := do
  let o ← opened
  nameBuilder v o.builder
  inner o.builder (listed v steps)
  construct (Builder.closeBranch o)

def openCalled (set : Nat) (call : Table) : Run OpenBranch := do
  let branch ← ofResult (branchOf ((← get).workspace.branches set).offer call)
  construct (Builder.openBranch set branch)

/-- Opens a branch on the node of a set. -/
def runCall (set : Nat) (call : Table) : Run Unit := do
  let node := ((← get).workspace.branches set).node.id
  let failure ← logged [("do", argument call "call"), ("node", .text node)] do
    fillBranch inner call "steps" (openCalled set call)
    pure []
  if let some e := failure then
    if !isSet call "catch" then throw e

def runCalls (set : Nat) (step : Table) : Run Unit :=
  (listed step "branches").forM fun call => runCall inner set (entriesOf call)

def runLoop (b : Nat) (step : Table) : Run Unit := do
  let args ← checkedArguments loopSignature step
  let (node, o) ← construct (Builder.openLoop b (argument args "times") (argument args "label")
    (argument args "node_id"))
  nameBuilder step o.builder
  inner o.builder (listed step "body")
  construct (Builder.closeLoop b node o)

/-- Appends an action, and opens the branches on its node. -/
def runAction (b : Nat) (call : ActionCall) (step : Table) : Run Unit := do
  let x ← ofResult (labelledAction call step)
  if x.action.offer = .nothing then
    let _ ← construct (Builder.append b x.action x.label x.id)
  else
    let set ← construct (Builder.appendBranching b x.action x.label x.id)
    nameSet step set
    runCalls inner set step

/-- Opens further branches on the node of a set that has a name. -/
def runBranch (b : Nat) (step : Table) : Run Fields := do
  let name ← ofResult (keyAt step "set")
  let set ← lookUp (← get).sets name
  runCalls inner set step
  let same := ((← get).workspace.branches set).builder == b
  pure ((← builderFields b) ++ [("same_builder", .bool same)])

/-- Runs one step, and gives the fields of its entry. -/
def runStep (b : Nat) (step : Table) (name : String) : Run Fields := do
  if (← get).handmade && builderSteps.contains name then throw (.mismatch .property)
  match name with
  | "jump_to" =>
    let args ← checkedArguments jumpSignature step
    construct (Builder.jumpTo b (argument args "node_id"))
    builderFields b
  | "then_continue" =>
    if ((← get).workspace.builder b).scope = .root then throw (.mismatch .property)
    let _ ← checkedArguments continueSignature step
    construct (Builder.thenContinue b)
    builderFields b
  | "loop" =>
    runLoop inner b step
    builderFields b
  | "on_error" =>
    let name ← ofResult (errorName step)
    fillBranch inner step "handler" (construct (Builder.openHandler b name))
    builderFields b
  | "branch" => runBranch inner b step
  | name => match ActionCall.ofName? name with
    | some call =>
      runAction inner b call step
      builderFields b
    | none => plainStep b step name

/-- Runs one step and logs it. -/
def runLogged (b : Nat) (step : Table) : Run (Option StepError) :=
  logged [("do", argument step "do")] do
    runStep inner (← builderOf b step) step ((textAt? step "do").getD "")

end Nested

/-- Runs the steps inside a branch. One that does not catch its error ends the list. -/
def runInner : Nat → Inner
  | 0, _, _ => pure ()
  | fuel + 1, b, steps => steps.forM fun v => do
    let step := entriesOf v
    if let some e := ← runLogged (runInner fuel) b step then
      if !isSet step "catch" then throw e

/-- Runs the steps of a script on the flow itself. No list stands deeper than the script is. -/
def runOuter (steps : Value) : Run Unit :=
  (itemsOf steps).forM fun v => do
    let _ ← runLogged (runInner steps.depth) 0 (entriesOf v)

/-- Runs a script from a state on. Every step is tried. -/
def run (steps : Value) (s : State) : State := (runOuter steps s).2

/-- Runs a script up to the first error. -/
def runStrictly (steps : Value) (s : State) : Except StepError Unit × State :=
  runInner (steps.depth + 1) 0 (itemsOf steps) s

end ContactFlow.Script

namespace ContactFlow

/-- A flow that is written as a script. -/
def Program.ofScript (registry : Registry) (steps : Value) : Program StepError :=
  let run := fun w : Workspace => Script.runStrictly steps { workspace := w, registry }
  { steps := fun w => ((run w).1, (run w).2.workspace)
    reports := fun w => (run w).2.journal.toList }

end ContactFlow
