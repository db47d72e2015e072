import ContactFlow.Catalog
import ContactFlow.Definition.Build

/-!
Batches of flows. The flows of a definition and of a catalog are built one by one and then compiled
one by one; a flow that fails is kept with its failure, and the others go on. A few errors end the
whole batch.
-/

namespace ContactFlow

variable {ε : Type}

/-- Why one flow of a batch failed. -/
inductive Failure (ε : Type)
  | definition (e : DefinitionError)
  | usage (e : UsageError)
  | program (e : ε)
  | compile (e : CompileError)

/-- Why a batch ends before all its flows are through. -/
inductive Abandoned (ε : Type)
  | definition (e : DefinitionError)
  | program (e : ε)
  | compile (e : CompileError)

structure Batch (ε : Type) where
  graphs : List (String × Graph) := []
  flows : List (String × Flow) := []
  failures : List (String × Failure ε) := []

namespace Batch

/-- Nothing selected means that all flows are. -/
def isSelected (selected : List String) (name : String) : Bool :=
  selected.isEmpty || selected.contains name

def built (b : Batch ε) (name : String) (g : Graph) : Batch ε :=
  { b with graphs := Ordered.put b.graphs name g }

def failed (b : Batch ε) (name : String) (f : Failure ε) : Batch ε :=
  { b with failures := Ordered.put b.failures name f }

/-- An empty name, and what is not about one flow, are not held against a flow. -/
def endsBatch : DefinitionError → Bool
  | .usage _ => true
  | e => e.isForeign

def addDefined (b : Batch ε) (name : String) (f : FlowDefinition) :
    Except (Abandoned ε) (Batch ε) :=
  match f.build name with
  | .ok w => .ok (b.built name w.graph)
  | .error e => if endsBatch e then .error (.definition e) else .ok (b.failed name (.definition e))

/-- Builds the selected flows of a definition. -/
def addDefinition (b : Batch ε) (d : Definition) (selected : List String) :
    Except (Abandoned ε) (Batch ε) :=
  (d.flows.filter fun (name, _) => isSelected selected name).foldlM
    (fun b (name, f) => addDefined b name f) b

def addProgram (b : Batch ε) (fatal : ε → Bool) (name : String) (p : Program ε) :
    Except (Abandoned ε) (Batch ε) :=
  match Workspace.ofProgram (.text name) p with
  | .ok w => .ok (b.built name w.graph)
  | .error (.program e) => if fatal e then .error (.program e) else .ok (b.failed name (.program e))
  | .error (.usage e) => .ok (b.failed name (.usage e))
  | .error _ => .ok b

/-- Builds the selected flows of a catalog. One with the name of a flow that is already built takes
its place. -/
def addCatalog (b : Batch ε) (fatal : ε → Bool) (c : Catalog ε) (selected : List String) :
    Except (Abandoned ε) (Batch ε) :=
  (c.programs.filter fun (name, _) => isSelected selected name.display).foldlM
    (fun b (name, p) => addProgram b fatal name.display p) b

/-- The names selected that no source has a flow for. -/
def unknown (b : Batch ε) (selected : List String) : List String :=
  selected.filter fun name => !Ordered.contains b.graphs name && !Ordered.contains b.failures name

def compileOne (c : Compiler) (b : Batch ε) (name : String) (g : Graph) :
    Except (Abandoned ε) (Batch ε) :=
  match c.compile g with
  | .ok flow => .ok { b with flows := Ordered.put b.flows name flow }
  | .error e => if e.isForeign then .error (.compile e) else .ok (b.failed name (.compile e))

/-- Compiles all that is built. -/
def compile (c : Compiler) (b : Batch ε) : Except (Abandoned ε) (Batch ε) :=
  b.graphs.foldlM (fun b (name, g) => compileOne c b name g) b

end Batch

end ContactFlow
