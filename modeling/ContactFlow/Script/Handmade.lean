import ContactFlow.Journal
import ContactFlow.Script.Argument

/-!
Nodes, graphs and validators written out as data, without a builder.
-/

namespace ContactFlow.Script

def actionKind (v : Value) : Result ActionKind :=
  match v.text?.bind ActionKind.ofName? with
  | some kind => .ok kind
  | none => .error (.missing v.display)

def errorKind (v : Value) : Result ErrorKind :=
  match v.text?.bind ErrorKind.ofConstant? with
  | some kind => .ok kind
  | none => .error (.missing v.display)

def inputMode (v : Value) : Result InputMode := v.asMode.mapError .unreadable

def severity (v : Value) : Result Severity := v.asSeverity.mapError .unreadable

def inputSpec (v : Value) : Result InputSpec := (InputSpec.ofData v).mapError .input

/-- What a name or a target is written as. Nothing at all is null. -/
def nameOf? : Value → Option String
  | .null => none
  | v => some v.display

/-- A part of a condition. Lists and tables count as the texts that show them. -/
def keyOf? : Value → Option Scalar
  | .null => none
  | .scalar s => some s
  | v => some (.text v.display)

def guardOf (t : Table) : Result Guard :=
  match t.get? "operands" with
  | some operands => do
    let operands ← StepError.ofMismatch operands.members
    pure (.compare (argument t "operator" (.text "Equals")).display
      (operands.map fun v => (keyOf? v).getD .null))
  | none => .ok (.input (keyOf? (argument t "digits")) (keyOf? (argument t "intent")))

def conditionEdge (v : Value) : Result ConditionEdge := do
  let t := entriesOf v
  pure ⟨← guardOf t, nameOf? (argument t "target")⟩

def errorEdge (v : Value) : Result ErrorEdge := do
  match ← StepError.ofMismatch v.members with
  | [kind, target] => pure ⟨← errorKind kind, nameOf? target⟩
  | members => throw (.unreadable (unpackMessage 2 members.length))

/-- Reads an entry that counts as true. -/
def whenSet {α : Type} (t : Table) (name : String) (read : Value → Result α) :
    Result (Option α) :=
  if isSet t name then some <$> read (argument t name) else .ok none

def retrySpec (v : Value) : Result RetrySpec :=
  StepError.ofChecked (Read.record RetrySpec.ofTable v)

def nodeOf (v : Value) : Result Node := do
  let t := entriesOf v
  let id := (← required t "id").display
  let kind ← actionKind (← required t "kind")
  let parameters := entriesOf (← decode (argument t "parameters"))
  let conditions ← (listed t "conditions").mapM conditionEdge
  let errors ← (listed t "errors").mapM errorEdge
  let retry ← whenSet t "retry" retrySpec
  let spec ← whenSet t "input_spec" inputSpec
  let mode ← whenSet t "input_mode" inputMode
  pure { id, kind, parameters,
         transitions := { next := nameOf? (argument t "next"), conditions, errors },
         retry, spec, mode, label := argument t "label" }

/-- The identifier of a node of a graph is a text, if it counts as true at all. -/
def checkId (node : Value) : Result Unit := do
  let id := argument (entriesOf node) "id"
  if id.isTruthy then let _ ← StepError.ofMismatch id.asText

def nodeRow (v : Value) : Result (String × Node) := do
  match ← StepError.ofMismatch v.members with
  | [key, node] =>
    let row := (key.display, ← nodeOf node)
    checkId node
    pure row
  | members => throw (.unreadable (unpackMessage 2 members.length))

def graphOf (v : Value) : Result Graph := do
  let t := entriesOf v
  let nodes ← (listed t "nodes").mapM nodeRow
  pure (.ofNodes (argument t "name").display (nameOf? (argument t "entry")) nodes)

/-- A validator that reports the same messages on every graph, if they can be gone through. -/
structure Stub where
  validator : Validator
  isReadable : Bool := true

def stub (v : Value) : Result Stub := do
  let t ← StepError.ofMismatch (v.asTable.mapError fun _ => .property)
  let level ← whenSet t "severity" severity
  let id ← required t "id"
  let messages := (argument t "messages" (.list [])).members
  pure {
    validator := .fixed id.display "Stub" ((messages.toOption.getD []).map Value.display)
      (isSet t "aborts") (level.getD .error)
    isReadable := messages.isOk }

/-- One row of a registry: kind, name and address. -/
def registration (v : Value) : Result (Reference × String) := do
  match ← StepError.ofMismatch v.members with
  | [kind, name, address] => do
    let kind ← resourceKind kind
    (Registry.entryOf kind name address).mapError .usage
  | members => throw (.unreadable (unpackMessage 3 members.length))

/-- Records the rows of a registry up to the first that is refused, and reports what was recorded.
-/
def register (r : Registry) : List Value → Journal × Result Registry
  | [] => ([], .ok r)
  | row :: rest => match registration row with
    | .error e => ([], .error e)
    | .ok (ref, address) => match r.register ref address with
      | .error e => ([], .error (.usage e))
      | .ok next =>
        let (j, result) := register next rest
        (Journal.registered r ref address ++ j, result)

end ContactFlow.Script
