import ContactFlow.Definition.Listing

/-!
The parts of a definition, each by the name of its data. The data of a part can be read on its own,
and listed with every field written out.
-/

namespace ContactFlow

inductive PartError
  | unknown (name : String)
  | input (e : InputDataError)
  | invalid (faults : List Fault)
  | plain (e : PlainError)
  deriving DecidableEq, Repr

namespace Part

/-- What was read of a part: its listing, and how deeply it is nested. -/
structure Listed where
  listing : Value
  levels : Nat := 0

def checked {α : Type} : Checked α → Except PartError α
  | .good a => .ok a
  | .bad faults => .error (.invalid faults)

/-- Reads a record and lists what was read. -/
def record {α : Type} (read : Table → Checked α) (list : α → Value) (data : Value)
    (levels : α → Nat := fun _ => 0) : Except PartError Listed :=
  checked ((Read.record read data).map fun a => ⟨list a, levels a⟩)

/-- A case of a branching step. -/
def case (read : Step.Lists → Table → Checked (Branch × List Step)) (data : Value) :
    Except PartError Listed :=
  record (read (Step.listIn (Step.maxDepth - 1)))
    (fun (b, steps) => b.listing (.list (Step.listSteps steps))) data
    (fun (_, steps) => Step.listLevels steps + 1)

def frameListing (f : Frame) : List (String × Value) :=
  [("id", .orNull f.id), ("label", .orNull f.label)]

def frame (t : Table) : Checked Value :=
  (Value.record ∘ frameListing) <$> Step.frame t <* t.noOthers ["id", "label"]

/-- What all actions have, and the branches that are read with it. -/
def action (branches : Step.Nested → Table → Checked Step.Branches)
    (list : Step.ListedBranches → List (String × Value)) (fields : List String)
    (data : Value) : Except PartError Listed :=
  let nested := Step.nestedIn Step.maxDepth
  let read (t : Table) : Checked Listed :=
    ((fun f errors branches =>
      { listing := Value.record (frameListing f ++
          [("errors", .table (Step.listErrors errors))] ++ list (Step.listBranches branches))
        levels := max (Step.errorLevels errors) (Step.branchLevels branches) }) <$>
      Step.frame t <*> t.optional "errors" [] (Read.tableOf nested.steps) <*>
      branches nested t) <* t.noOthers (["id", "label", "errors"] ++ fields)
  record read Listed.listing data Listed.levels

/-- The data of the part with a name, read and listed. -/
def list (part : String) (data : Value) : Except PartError Listed :=
  match part with
  | "InputSpec" => ((InputSpec.ofData data).map fun s => ⟨s.listing, 0⟩).mapError .input
  | "RetrySpec" => record RetrySpec.ofTable RetrySpec.listing data
  | "PrimaryInput" => record PrimaryInput.ofTable PrimaryInput.listing data
  | "FallbackInput" => record FallbackInput.ofTable FallbackInput.listing data
  | "CompilerSettings" => record Settings.ofTable Settings.listing data
  | "ResourcesConfig" => record Resources.ofTable Resources.listing data
  | "FlowConfig" => record FlowDefinition.ofTable FlowDefinition.listing data FlowDefinition.levels
  | "CallflowConfig" => record Definition.ofTable Definition.listing data Definition.levels
  | "InputCaseConfig" => case Step.inputCase data
  | "AttributeCaseConfig" => case Step.attributeCase data
  | "BucketConfig" => case Step.bucket data
  | "BaseStepConfig" => record frame id data
  | "ActionStepConfig" => action (fun _ _ => .good []) (fun _ => []) [] data
  | "InputHandlersConfig" => action Step.inputBranches (Step.branchFields .collect)
      StepType.inputFields data
  | name => match StepType.all.find? (·.dataName == name) with
    | some k => record (Step.ofTable (Step.nestedIn (Step.maxDepth - 1)) k) Step.listing data
        Step.levels
    | none => .error (.unknown name)

/-- The same as plain data. -/
def listPlain (part : String) (data : Value) : Except PartError Value := do
  let l ← list part data
  (Listing.plain l.levels l.listing).mapError .plain

end Part

end ContactFlow
