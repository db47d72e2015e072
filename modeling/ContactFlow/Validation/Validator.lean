import ContactFlow.Text.Quoted
import ContactFlow.Validation.Check
import ContactFlow.Validation.Finding

/-!
Validators: a check under an identifier, at a severity. An error of an aborting validator makes
those after it meaningless. The catalogue holds the kinds of validator that can be asked for by
name.
-/

namespace ContactFlow

structure Validator where
  id : String
  label : String
  aborts : Bool := false
  severity : Severity := .error
  check : Graph → List Remark

namespace Validator

def run (v : Validator) (g : Graph) : List Finding :=
  (v.check g).map fun (message, node) => ⟨v.id, message, node, v.severity⟩

def describe (v : Validator) : String :=
  "<" ++ v.label ++ " id=" ++ Text.quoted v.id ++ " severity=" ++ v.severity.wire ++
    (if v.aborts then ", aborts" else "") ++ ">"

/-- Reports the same messages on every graph. -/
def fixed (id label : String) (messages : List String) (aborts : Bool) (severity : Severity) :
    Validator :=
  ⟨id, label, aborts, severity, fun _ => messages.map (·, none)⟩

def nonEmpty : Validator := ⟨"non-empty", "NonEmptyValidator", true, .error, Check.nonEmpty⟩
def uniqueIds : Validator := ⟨"unique-ids", "UniqueIdsValidator", true, .error, Check.uniqueIds⟩
def entryPoint : Validator := ⟨"entry-point", "EntryPointValidator", true, .error, Check.entryPoint⟩
def reachability : Validator :=
  ⟨"reachability", "ReachabilityValidator", false, .error, Check.reachability⟩
def danglingTransitions : Validator :=
  ⟨"dangling-transitions", "DanglingTransitionsValidator", false, .error, Check.danglingTransitions⟩
def terminalPresent : Validator :=
  ⟨"terminal-present", "TerminalPresentValidator", false, .error, Check.terminalPresent⟩
def externalInvocation : Validator :=
  ⟨"external-invocation", "ExternalInvocationValidator", false, .error, Check.externalInvocation⟩
def terminalTransitions : Validator :=
  ⟨"terminal-transitions", "TerminalTransitionsValidator", false, .error, Check.terminalTransitions⟩

/-- The built-in validators in the order in which they run. -/
def builtin : List Validator :=
  [nonEmpty, uniqueIds, entryPoint, reachability, danglingTransitions, terminalPresent,
    externalInvocation, terminalTransitions]

end Validator

/-- Validators by name. -/
structure Catalogue where
  entries : List (String × Validator) := Validator.builtin.map fun v => (v.id, v)

/-- A name that is not in the catalogue. -/
structure UnknownValidator where
  name : String
  available : List String
  deriving DecidableEq, Repr

def UnknownValidator.message (e : UnknownValidator) : String :=
  "Validator '" ++ e.name ++ "' not registered. Available: " ++ Text.quotedList e.available

namespace Catalogue

def names (c : Catalogue) : List String := Ordered.keys c.entries
def isRegistered (c : Catalogue) (name : String) : Bool := Ordered.contains c.entries name
def register (c : Catalogue) (name : String) (v : Validator) : Catalogue :=
  ⟨Ordered.put c.entries name { v with id := name }⟩
def unregister (c : Catalogue) (name : String) : Catalogue := ⟨Ordered.erase c.entries name⟩

def get (c : Catalogue) (name : String) : Except UnknownValidator Validator :=
  match c.entries.lookup name with
  | some v => .ok v
  | none => .error ⟨name, c.names⟩

/-- A validator of the kind named, at the severity given or else at its own. -/
def create (c : Catalogue) (name : String) (severity : Option Severity) :
    Except UnknownValidator Validator :=
  (c.get name).map fun v => { v with severity := severity.getD v.severity }

end Catalogue

end ContactFlow
