import ContactFlow.Settings
import ContactFlow.Validation.Validator
import ContactFlow.Value.Member
import ContactFlow.Value.Shape

/-!
The pipeline: validators in the order in which they run, some of them disabled. A run gathers the
findings of the enabled ones, and stops at the first aborting one that reports an error. Several
validators may go by one identifier. Putting them in order makes them one and the same.
-/

namespace ContactFlow

structure Pipeline where
  validators : List Validator := []
  disabled : List String := []
  unified : Bool := false

inductive PipelineError
  | notPresent (id : String) (available : List String)
  | notPermutation (found : List String) (wanted : String)
  | present (id : String)
  | severity (message : String)
  | mismatch (e : Mismatch)
  deriving DecidableEq, Repr

namespace PipelineError

def message : PipelineError → String
  | .notPresent id available =>
    "Validator '" ++ id ++ "' is not in the pipeline. Available: " ++ Text.quotedList available
  | .notPermutation found wanted =>
    "Reorder must be a permutation of " ++ Text.quotedList found ++ ", got " ++ wanted
  | .present id => "Validator '" ++ id ++ "' is already in the pipeline"
  | .severity message => message
  | .mismatch _ => "The identifiers have no order among themselves"

end PipelineError

/-- The findings of an aborting validator. -/
structure Abort where
  validator : String
  findings : List Finding
  deriving DecidableEq, Repr

namespace Pipeline

def ids (p : Pipeline) : List String := p.validators.map (·.id)

/-- The validators that run, in their order. -/
def enabled (p : Pipeline) : List Validator :=
  p.validators.filter fun v => !p.disabled.contains v.id

def isEnabled (p : Pipeline) (id : String) : Bool := p.ids.contains id && !p.disabled.contains id

def require (p : Pipeline) (id : String) : Except PipelineError Unit :=
  if p.ids.contains id then .ok () else .error (.notPresent id p.ids)

def disable (p : Pipeline) (id : String) : Except PipelineError Pipeline :=
  (p.require id).map fun _ =>
    if p.disabled.contains id then p else { p with disabled := p.disabled ++ [id] }

def enable (p : Pipeline) (id : String) : Except PipelineError Pipeline :=
  (p.require id).map fun _ => { p with disabled := p.disabled.filter (· != id) }

/-- Applies a change to the first validator that passes the test. -/
def modifyFirst (test : Validator → Bool) (f : Validator → Validator) :
    List Validator → List Validator
  | [] => []
  | v :: rest => if test v then f v :: rest else v :: modifyFirst test f rest

/-- Sets the severity of the first validator with an identifier, and of those that are the same. -/
def setSeverity (p : Pipeline) (id : String) (severity : Value) :
    Except PipelineError Pipeline := do
  let severity ← severity.asSeverity.mapError .severity
  p.require id
  let set := fun v : Validator => { v with severity }
  pure { p with
    validators :=
      if p.unified then p.validators.map fun v => if v.id == id then set v else v
      else modifyFirst (·.id == id) set p.validators }

/-- The last validator with an identifier. -/
def last? (p : Pipeline) (id : String) : Option Validator :=
  p.validators.reverse.find? (·.id == id)

def sortedTexts (l : List String) : List String := l.mergeSort (· ≤ ·)

/-- The texts that values are, if all are. Several others cannot be put in order. -/
def orderOf (vs : List Value) : Except PipelineError (Option (List String)) :=
  match vs.mapM Value.text? with
  | some ids => .ok (some ids)
  | none => if vs.length ≤ 1 then .ok none else .error (.mismatch .operand)

/-- Sets the order, which has to name every validator exactly once. -/
def reorder (p : Pipeline) (order : Value) : Except PipelineError Pipeline := do
  match ← orderOf (← order.members.mapError .mismatch) with
  | some ids =>
    if sortedTexts ids = sortedTexts p.ids then
      pure { p with validators := ids.filterMap p.last?, unified := true }
    else throw (.notPermutation p.ids order.display)
  | none => throw (.notPermutation p.ids order.display)

def insertBefore (v : Validator) (id : String) : List Validator → List Validator
  | [] => [v]
  | u :: rest => if u.id == id then v :: u :: rest else u :: insertBefore v id rest

/-- Adds a validator at the end, or ahead of another one. -/
def add (p : Pipeline) (v : Validator) (before : Option String) : Except PipelineError Pipeline :=
  if p.ids.contains v.id then .error (.present v.id)
  else match before with
    | none => .ok { p with validators := p.validators ++ [v] }
    | some id => (p.require id).map fun _ =>
      { p with validators := insertBefore v id p.validators }

def disableAll (p : Pipeline) : List String → Except PipelineError Pipeline
  | [] => .ok p
  | id :: rest => (p.disable id).bind fun p => disableAll p rest

/-- The built-in validators at the severities of the settings. -/
def configured (s : Settings) : Pipeline :=
  { validators := Validator.builtin.map fun v =>
      { v with severity := (s.severityFor v.id).getD v.severity } }

/-- The pipeline that the settings ask for. -/
def ofSettings (s : Settings) : Except PipelineError Pipeline :=
  (configured s).disableAll s.disabledValidators

def runFrom (g : Graph) : List Validator → Except Abort (List Finding)
  | [] => .ok []
  | v :: rest =>
    let found := v.run g
    if v.aborts && found.any (·.isError) then .error ⟨v.id, found⟩
    else (runFrom g rest).map (found ++ ·)

/-- Runs the enabled validators. -/
def run (p : Pipeline) (g : Graph) : Except Abort Report := (runFrom g p.enabled).map Report.mk

end Pipeline

end ContactFlow
