import ContactFlow.Builder.Branching
import ContactFlow.Compile
import ContactFlow.Entry

/-!
Catalogs of flows that are written as programs. A flow is registered under a name, most often by
importing the module that holds it. A program may fail with errors of its own.
-/

namespace ContactFlow

variable {ε : Type}

/-- A flow as steps of construction, and what they report in the course of it. -/
structure Program (ε : Type) where
  steps : BuildM ε Unit
  reports : Workspace → Journal := fun _ => []

/-- Names are texts for the most part, but any value that can be a key will do. -/
structure Catalog (ε : Type) where
  programs : List (Scalar × Program ε) := []

inductive CatalogError (ε : Type)
  | emptyName
  | unknownFlow (name : Scalar) (available : List Scalar)
  | usage (e : UsageError)
  | program (e : ε)
  | pipeline (e : PipelineError)
  | compile (e : CompileError)

namespace CatalogError

def emptyNameMessage : String := "Flow name cannot be empty"

def unknownFlowMessage (name : Scalar) (available : List Scalar) : String :=
  "Unknown flow: '" ++ name.display ++ "'. Available: " ++
    (Value.list (available.map .scalar)).display

/-- What can be no key cannot be a name either. -/
def key (name : Value) : Except (CatalogError ε) Scalar :=
  name.asKey.mapError fun e => .usage (.mismatch e)

end CatalogError

namespace Workspace

/-- An empty flow under a name, which has to be a text. -/
def named (name : Value) : Except UsageError Workspace :=
  match name with
  | .text name => start name
  | name => .error (if name.isTruthy then .mismatch .property else .emptyFlowName)

/-- Runs a program on an empty flow. -/
def ofProgram (name : Scalar) (p : Program ε) : Except (CatalogError ε) Workspace := do
  let start ← (named (.scalar name)).mapError .usage
  match p.steps start with
  | (.ok _, w) => pure w
  | (.error e, _) => throw (.program e)

end Workspace

namespace Catalog

def names (c : Catalog ε) : List Scalar := c.programs.map (·.1)
def size (c : Catalog ε) : Nat := c.programs.length

def has (c : Catalog ε) (name : Scalar) : Bool := c.programs.any fun (k, _) => k.sameKey name

def find? (c : Catalog ε) (name : Scalar) : Option (Program ε) :=
  (c.programs.find? fun (k, _) => k.sameKey name).map (·.2)

def contains (c : Catalog ε) (name : Value) : Except (CatalogError ε) Bool :=
  (CatalogError.key name).map c.has

/-- Registers a flow. A name that is taken is given to the new flow. -/
def register (c : Catalog ε) (name : Value) (p : Program ε) :
    Except (CatalogError ε) (Catalog ε) := do
  if !name.isTruthy then throw .emptyName
  let name ← CatalogError.key name
  if c.has name then
    pure ⟨c.programs.map fun (k, old) => (k, if k.sameKey name then p else old)⟩
  else pure ⟨c.programs ++ [(name, p)]⟩

def registerAll (c : Catalog ε) (flows : List (String × Program ε)) :
    Except (CatalogError ε) (Catalog ε) :=
  flows.foldlM (fun c (name, p) => c.register (.text name) p) c

/-- The workspace of the flow registered under a name. -/
def workspace (c : Catalog ε) (name : Scalar) : Except (CatalogError ε) Workspace :=
  match c.find? name with
  | some p => Workspace.ofProgram name p
  | none => .error (.unknownFlow name c.names)

def compileWith (c : Catalog ε) (compiler : Compiler) (name : Scalar) :
    Except (CatalogError ε) Flow := do
  let w ← c.workspace name
  (compiler.compile w.graph).mapError .compile

/-- Compiles one flow. -/
def build (c : Catalog ε) (r : Registry) (s : Settings) (name : Scalar) :
    Except (CatalogError ε) Flow := do
  let w ← c.workspace name
  let compiler ← (Compiler.ofSettings r s).mapError .pipeline
  (compiler.compile w.graph).mapError .compile

/-- Compiles all flows, up to the first that fails. -/
def buildAll (c : Catalog ε) (r : Registry) (s : Settings) :
    Except (CatalogError ε) (List (Scalar × Flow)) := do
  let compiler ← (Compiler.ofSettings r s).mapError .pipeline
  c.names.mapM fun name => (c.compileWith compiler name).map (name, ·)

end Catalog

/-- Modules by their names, each with the flows that importing it registers. -/
abbrev Modules (ε : Type) := List (String × List (String × Program ε))

inductive ImportError
  | emptyName
  | relativeName
  | missing (module part : String) (plain : Option String)
  deriving DecidableEq, Repr

namespace ImportError

def message : ImportError → String
  | .emptyName => "Empty module name"
  | .relativeName => ""
  | .missing module part plain =>
    let reason := match plain with
      | some p => "; '" ++ p ++ "' is not a package"
      | none => ""
    "Cannot import flow module '" ++ module ++ "': No module named '" ++ part ++ "'" ++ reason

end ImportError

namespace Modules

def isModule (m : Modules ε) (name : String) : Bool := m.any fun (other, _) => other == name

/-- Looks for a module. No module has others inside, so a name of several parts is none: either
there is nothing under its first part, or there is nothing inside it. -/
def check (m : Modules ε) (module : String) : Except ImportError Unit :=
  match module.splitOn "." with
  | outer :: inner :: _ =>
    if m.isModule outer then .error (.missing module (outer ++ "." ++ inner) (some outer))
    else .error (.missing module outer none)
  | _ => if m.isModule module then .ok () else .error (.missing module module none)

/-- The flows that importing a module registers. -/
def flowsOf (m : Modules ε) (module : String) :
    Except ImportError (List (String × Program ε)) := do
  if module = "" then throw .emptyName
  if module.startsWith "." then throw .relativeName
  m.check module
  pure ((m.lookup module).getD [])

end Modules

end ContactFlow
