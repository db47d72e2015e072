import ContactFlow.Decimal.Spelling
import ContactFlow.Kind
import ContactFlow.Ordered
import ContactFlow.Value.Display
import ContactFlow.Value.Shape

/-!
Traces of a document: the way through its actions that a list of outcomes leads. Branching actions
take one outcome each, unless they compare an attribute that was set on the way. A loop counts its
visits and starts anew once it is done. The document may be of any shape: a trace fails where it
comes upon a part that it cannot use.
-/

namespace ContactFlow

inductive TraceError
  | missingAction (target : Scalar)
  | noCondition (action : Value) (operand : String)
  | unmatchedOutcome (outcome : String) (action : Value)
  | unmatchedAttribute (value : String) (action : Value)
  | missingField (name : String)
  | mismatch (m : Mismatch)
  | badCount (message : String)
  | endlessCount
  deriving Repr

namespace TraceError

def message : TraceError → String
  | .missingAction target => "Transition to missing action '" ++ target.display ++ "'"
  | .noCondition action operand =>
    "Action '" ++ action.display ++ "' has no '" ++ operand ++ "' condition"
  | .unmatchedOutcome outcome action =>
    "Outcome '" ++ outcome ++ "' matches no transition of action '" ++ action.display ++ "'"
  | .unmatchedAttribute value action =>
    "Attribute value '" ++ value ++ "' matches no transition of action '" ++ action.display ++ "'"
  | .missingField name => name
  | .mismatch _ => "The document has another shape"
  | .badCount message => message
  | .endlessCount => "cannot convert float infinity to integer"

end TraceError

/-- How a trace ends. -/
inductive End
  | terminal
  | awaitingInput
  | deadEnd
  | maxSteps
  deriving DecidableEq, Repr, Inhabited

def End.wire : End → String
  | .terminal => "terminal"
  | .awaitingInput => "awaiting_input"
  | .deadEnd => "dead_end"
  | .maxSteps => "max_steps"

structure Trace where
  visited : List Scalar := []
  consumed : List String := []
  finish : End := .terminal
  deriving DecidableEq, Repr, Inhabited

namespace Trace

def last? (t : Trace) : Option Scalar := t.visited.getLast?
def terminated (t : Trace) : Bool := t.finish == .terminal

/-- How often an identifier was visited. -/
def count (t : Trace) : Value → Nat
  | .scalar id => t.visited.countP (·.sameKey id)
  | _ => 0

abbrev Result := Except TraceError

def shaped {α : Type} (r : Except Mismatch α) : Result α := r.mapError .mismatch

def field (v : Value) (name : String) : Result Value := do
  match Table.get? (← shaped v.asTable) name with
  | some v => pure v
  | none => throw (.missingField name)

/-- The entry of a table, or what stands for it if there is none. -/
def fieldOr (v : Value) (name : String) (other : Value) : Result Value :=
  match v with
  | .table entries => .ok ((Table.get? entries name).getD other)
  | _ => .error (.mismatch .property)

def items (v : Value) : Result (List Value) := shaped v.members

def isText (s : String) (v : Value) : Bool := v.text? == some s

def loopCount : Value → Result Int
  | .text s => (Spelling.whole 10 s).mapError .badCount
  | .int n => .ok n
  | .bool b => .ok (if b then 1 else 0)
  | .real .nan => .error (.badCount "cannot convert float NaN to integer")
  | .real x => match x.truncate? with
    | some n => .ok n
    | none => .error .endlessCount
  | _ => .error (.mismatch .operand)

/-- The target of the first condition that has the operand. -/
def conditionTarget? (operand : String) : List Value → Result (Option Value)
  | [] => .ok none
  | c :: rest => do
    if ← shaped ((← field (← field c "Condition") "Operands").hasText operand) then
      return some (← field c "NextAction")
    else conditionTarget? operand rest

/-- The target of the first edge for an error. -/
def errorTarget? (kind : ErrorKind) : List Value → Result (Option Value)
  | [] => .ok none
  | e :: rest => do
    if isText kind.wire (← field e "ErrorType") then return some (← field e "NextAction")
    else errorTarget? kind rest

def conditions (action : Value) : Result (List Value) := do
  items (← field (← field action "Transitions") "Conditions")

def errors (action : Value) : Result (List Value) := do
  items (← field (← field action "Transitions") "Errors")

def loopTarget (operand : String) (action : Value) : Result Value := do
  match ← conditionTarget? operand (← conditions action) with
  | some target => pure target
  | none => throw (.noCondition (← field action "Identifier") operand)

def outcomePrefixes : List String := ["digit:", "digits:", "intent:", "value:"]

/-- What is left of a text after the first of the given beginnings that it has. -/
def afterPrefix? (s : String) : List String → Option String
  | [] => none
  | p :: rest =>
    if p.toList.isPrefixOf s.toList then some (String.ofList (s.toList.drop p.length))
    else afterPrefix? s rest

/-- An outcome leads along the condition with its operand, or along the edge of the error it names.
-/
def route (outcome : String) (action : Value) : Result Value := do
  let value := (afterPrefix? outcome outcomePrefixes).getD outcome
  match ← conditionTarget? value (← conditions action) with
  | some target => pure target
  | none =>
    let unmatched := do throw (.unmatchedOutcome outcome (← field action "Identifier"))
    match if value = outcome then ErrorKind.ofName? outcome else none with
    | none => unmatched
    | some kind => match ← errorTarget? kind (← errors action) with
      | some target => pure target
      | none => unmatched

def attributePath : String := "$.Attributes."

/-- The value of the attribute that a comparison is on, if it was set on the way. -/
def knownAttribute (action : Value) (attributes : List (Scalar × String)) :
    Result (Option String) := do
  let path ← fieldOr (← field action "Parameters") "ComparisonValue" (.text "")
  match afterPrefix? (← shaped path.asText) [attributePath] with
  | some name => pure (attributes.lookup (.text name))
  | none => pure none

/-- A known value leads along its condition, or else along the edge for no match. -/
def compare (value : String) (action : Value) : Result Value := do
  match ← conditionTarget? value (← conditions action) with
  | some target => pure target
  | none => match ← errorTarget? .noMatch (← errors action) with
    | some target => pure target
    | none => throw (.unmatchedAttribute value (← field action "Identifier"))

/-- Keeps the attributes that an action sets, as texts. -/
def setAttributes (attributes : List (Scalar × String)) (action : Value) :
    Result (List (Scalar × String)) := do
  match ← fieldOr (← field action "Parameters") "Attributes" (.table []) with
  | .table added => added.foldlM (fun attributes (k, v) =>
      if v.isWritable then pure (Ordered.put attributes k v.display)
      else throw (.badCount Numeral.unwritableMessage)) attributes
  | _ => throw (.mismatch .property)

/-- Where a trace stands: the way so far and the outcomes taken, both with the latest first, the
outcomes left, the visits counted by each loop and the attributes set. -/
structure State where
  visited : List Scalar := []
  consumed : List String := []
  pending : List Value := []
  counts : List (Scalar × Int) := []
  attributes : List (Scalar × String) := []
  deriving Repr

inductive Move
  | stop (why : End)
  | go (target : Value) (s : State)

def isKind (type : Scalar) (kind : ActionKind) : Bool := type == .text kind.wire

def isTerminalType (type : Scalar) : Bool :=
  ActionKind.all.any fun kind => kind.isTerminal && isKind type kind

/-- The types of action that take an outcome. -/
def takesOutcome (type : Scalar) : Bool :=
  ActionKind.all.any fun kind => kind.isBranching && kind != .loop && isKind type kind

def countOf (counts : List (Scalar × Int)) (id : Scalar) : Int :=
  ((counts.find? fun (k, _) => k.sameKey id).map (·.2)).getD 0

def moveLoop (s : State) (id : Scalar) (action : Value) : Result Move := do
  let count := countOf s.counts id + 1
  let limit ← loopCount (← field (← field action "Parameters") "LoopCount")
  let (operand, count) := if count ≤ limit then ("ContinueLooping", count) else ("DoneLooping", 0)
  let target ← loopTarget operand action
  pure (.go target { s with counts := (id, count) :: s.counts })

def moveOutcome (s : State) (action : Value) : Result Move := do
  match s.pending with
  | [] => pure (.stop .awaitingInput)
  | outcome :: rest =>
    let outcome ← shaped outcome.asText
    let target ← route outcome action
    pure (.go target { s with pending := rest, consumed := outcome :: s.consumed })

def moveNext (s : State) (transitions : Value) : Result Move := do
  match ← fieldOr transitions "NextAction" .null with
  | .null => pure (.stop .deadEnd)
  | target => pure (.go target s)

/-- The move from an action that has just been visited. -/
def move (s : State) (id : Scalar) (action : Value) : Result Move := do
  let type ← field action "Type"
  let transitions ← field action "Transitions"
  let type ← shaped type.asKey
  if isTerminalType type then return .stop .terminal
  if isKind type .loop then return ← moveLoop s id action
  let attributes ← if isKind type .setAttributes then setAttributes s.attributes action
    else pure s.attributes
  let s := { s with attributes }
  let known ← if isKind type .checkAttribute then knownAttribute action attributes else pure none
  match known with
  | some value => return .go (← compare value action) s
  | none => if takesOutcome type then moveOutcome s action else moveNext s transitions

def State.ended (s : State) (why : End) : Trace := ⟨s.visited.reverse, s.consumed.reverse, why⟩

/-- The first action with an identifier. -/
def find? (actions : List (Scalar × Value)) (id : Scalar) : Option Value :=
  (actions.find? fun (k, _) => k.sameKey id).map (·.2)

def follow (actions : List (Scalar × Value)) : Nat → Value → State → Result Trace
  | 0, _, s => .ok (s.ended .maxSteps)
  | steps + 1, current, s => do
    let id ← shaped current.asKey
    match find? actions id with
    | none => throw (.missingAction id)
    | some action =>
      let s := { s with visited := id :: s.visited }
      match ← move s id action with
      | .stop why => pure (s.ended why)
      | .go target s => follow actions steps target s

/-- The actions of a document by their identifiers. -/
def actionsOf : List Value → Result (List (Scalar × Value))
  | [] => .ok []
  | action :: rest => do
    let id ← shaped (← field action "Identifier").asKey
    pure ((id, action) :: (← actionsOf rest))

/-- A number of steps that no trace comes to. -/
def unbounded : Nat := 1 <<< 64

/-- The number of steps that stay below a limit. -/
def stepsBelow : Value → Result Nat
  | .int n => .ok n.toNat
  | .bool b => .ok (if b then 1 else 0)
  | .real (.infinite negative) => .ok (if negative then 0 else unbounded)
  | .real x => match x.truncate?, x.toInt? with
    | some n, none => .ok (if x.le (.ofInt 0) then 0 else n.toNat + 1)
    | some n, _ => .ok n.toNat
    | none, _ => .ok 0
  | _ => .error (.mismatch .operand)

/-- Follows a document whose outcomes and number of steps may be of any shape, too. Of several
actions with one identifier the last one counts. -/
def ofValues (document outcomes limit : Value) : Result Trace := do
  let actions ← actionsOf (← items (← field document "Actions"))
  let pending ← items outcomes
  let start ← field document "StartAction"
  follow actions.reverse (← stepsBelow limit) start { pending }

end Trace

/-- Follows a document from its entry, for so many actions at most. -/
def trace (document : Value) (outcomes : List String) (maxSteps : Nat) :
    Except TraceError Trace :=
  Trace.ofValues document (.list (outcomes.map .text)) (.int maxSteps)

end ContactFlow
