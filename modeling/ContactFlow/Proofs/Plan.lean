import ContactFlow.Definition.Build
import ContactFlow.Proofs.Following

/-!
What a list of steps means by itself, without the graph that is built of it. A plan has the steps of
a list with the identifiers that their nodes are given, and what each does in a trace. It is carried
out from the first step to the last; a branch is carried out at the node it leaves, and whatever
follows that node waits until the branch resumes the flow.
-/

namespace ContactFlow

/-- The end of a list, a return to the flow that the list has left, or a step and the rest. -/
inductive Plan
  | finish
  | resume
  | stops (id : String)
  | goes (id : String) (sets : Table) (rest : Plan)
  | forks (id : String) (about : Option String) (ways : List (Way × Plan)) (rest : Plan)
  | loops (id : String) (times : Nat) (body rest : Plan)

namespace Plan

open Trace (State)

/-- What is left of a trace that has so many steps. -/
abbrev Machine := Nat → State → Trace.Result Trace

def halt (why : End) : Machine := fun _ s => .ok (s.ended why)

/-- Visits a node, if there is a step left for it. -/
def visit (id : String) (m : Machine) : Machine
  | 0, s => .ok (s.ended .maxSteps)
  | steps + 1, s => m steps (s.visit id)

/-- Sets attributes. -/
def set (added : Table) (m : Machine) : Machine := fun steps s => do
  let attributes ← Site.record s.attributes added
  m steps { s with attributes }

/-- Takes the way that the value of an attribute leads, if it was set, or that the next outcome leads.
-/
def choose (id : String) (about : Option String) (ways : List (Way × Machine)) : Machine :=
  fun steps s => match about.bind fun name => s.attributes.lookup (.text name) with
    | some value => match Way.byAttribute value ways with
      | some m => m steps s
      | none => .error (.unmatchedAttribute value (.text id))
    | none => match s.pending with
      | [] => .ok (s.ended .awaitingInput)
      | outcome :: rest => do
        let outcome ← Trace.shaped outcome.asText
        match Way.byOutcome outcome ways with
        | some m => m steps (s.taken outcome rest)
        | none => .error (.unmatchedOutcome outcome (.text id))

/-- Visits a loop before each round of its body, and once more when there is none left. -/
def laps (id : String) (body : Machine → Machine) (after : Machine) : Nat → Machine
  | 0 => visit id after
  | rounds + 1 => visit id (body (laps id body after rounds))

mutual

/-- Carries a plan out, up to its end or to where it resumes the flow. -/
def run (atEnd atResume : Machine) : Plan → Machine
  | .finish => atEnd
  | .resume => atResume
  | .stops id => visit id (halt .terminal)
  | .goes id sets rest => visit id (set sets (rest.run atEnd atResume))
  | .forks id about ways rest =>
    visit id (choose id about (runWays (rest.run atEnd atResume) ways))
  | .loops id times body rest =>
    laps id (fun again => body.run again again) (rest.run atEnd atResume) times

/-- A branch that comes to its end is a dead end. -/
def runWays (atResume : Machine) : List (Way × Plan) → List (Way × Machine)
  | [] => []
  | (way, body) :: rest => (way, body.run (halt .deadEnd) atResume) :: runWays atResume rest

end

/-- The trace of a plan, for so many visits at most. -/
def trace (p : Plan) (outcomes : List String) (maxSteps : Nat) : Trace.Result Trace :=
  p.run (halt .deadEnd) (halt .deadEnd) maxSteps { pending := outcomes.map .text }

end Plan

/-! ### The plans of steps -/

namespace Action

/-- The attributes that an action sets, as its document has them. -/
def attributes (r : Registry) : Action → Table
  | .setAttributes t => Value.mapTableReferences (fun ref => .text ref.render)
      (Value.mapTableReferences r.replacement t)
  | _ => []

/-- The attribute that an action compares, if it is one of those that flows set. -/
def compared : Action → Option String
  | .checkAttribute name space =>
    Trace.afterPrefix? ("$." ++ space.display ++ "." ++ name.display) [Trace.attributePath]
  | _ => none

end Action

namespace Branch

/-- What a caller enters or says for a branch, if that is anything at all. -/
def entries (mode : InputMode) : Branch → List Scalar
  | .digits v => if mode = .keypad then given v else []
  | .intent v => if mode = .speech then given v else []
  | .input v v' => given (match mode with
    | .keypad => v
    | .speech => v')
  | _ => []
where
  given (v : Value) : List Scalar := (BranchSet.entered v).toOption.join.toList

/-- How a branch is chosen, and what is offered after it. The shares of a split add up. -/
def way? (offer : Offer) (b : Branch) : Option (Way × Offer) :=
  match offer, b with
  | offer, .error => some (.error .error, offer)
  | .input _, .timeout => some (.error .timeout, offer)
  | .input _, .noMatch | .input _, .otherwise => some (.error .noMatch, offer)
  | .input _, .invalidInput => some (.error .invalidInput, offer)
  | .input _, .lowConfidence => some (.error .lowConfidence, offer)
  | .input [mode], b => some (.operands (b.entries mode), offer)
  | .comparison, .compare _ operand => some (.operands [.text operand.display], offer)
  | .comparison, .otherwise | .percent _, .otherwise => some (.error .noMatch, offer)
  | .hours, .inHours => some (.operands [.text "True"], offer)
  | .hours, .outOfHours => some (.operands [.text "False"], offer)
  | .staffing, .staffed => some (.operands [.text "0"], offer)
  | .staffing, .notStaffed => some (.error .noMatch, offer)
  | .percent allocated, .bucket (.scalar percent) => (allocated.plus? percent).map fun sum =>
    (.operands [.text sum.display], .percent sum)
  | _, _ => none

end Branch

/-- The identifier of a step's node: the one given, or one made from the label or the action. -/
def Frame.name (f : Frame) (d : Draft) (a : Allocator) : String × Allocator :=
  match f.id with
  | some id => (id, { a with used := a.used ++ [id] })
  | none => a.allocate (f.label.elim d.hint fun label => if label = "" then d.hint else label)
      d.kind.name

namespace Step

mutual

/-- What a step does, given the plan of the rest of its list. Identifiers are handed out in the order
in which the nodes are added. -/
def plan (r : Registry) (a : Allocator) : Step → Option ((Plan → Plan) × Allocator)
  | .resume _ => some (fun _ => .resume, a)
  | .jump .. => none
  | .action head frame branches errors => do
    let action ← head.resolve.toOption
    let d ← action.draft.toOption
    let (id, a) := frame.name d a
    match action with
    | .loop (.int times) =>
      let (body, a) ← planBody r a branches
      let (_, a) ← planErrors r a errors
      pure (.loops id times.toNat body, a)
    | .loop _ => none
    | action =>
      if action.offer = .nothing then
        let (_, a) ← planErrors r a errors
        pure (if action.kind.isTerminal then fun _ => .stops id
          else .goes id (action.attributes r), a)
      else
        let (ways, a) ← planBranches r a action.offer branches
        let (handlers, a) ← planErrors r a errors
        pure (.forks id action.compared (ways ++ handlers), a)

/-- The first branch of a loop is its body. -/
def planBody (r : Registry) (a : Allocator) :
    List (Branch × List Step) → Option (Plan × Allocator)
  | [] => none
  | (_, body) :: _ => planAll r a body

def planBranches (r : Registry) (a : Allocator) (offer : Offer) :
    List (Branch × List Step) → Option (List (Way × Plan) × Allocator)
  | [] => some ([], a)
  | (which, steps) :: rest => do
    let (way, offer) ← which.way? offer
    let (body, a) ← planAll r a steps
    let (ways, a) ← planBranches r a offer rest
    pure ((way, body) :: ways, a)

def planErrors (r : Registry) (a : Allocator) :
    List (String × List Step) → Option (List (Way × Plan) × Allocator)
  | [] => some ([], a)
  | (name, steps) :: rest => do
    let kind ← (errorKind name).toOption
    let (body, a) ← planAll r a steps
    let (ways, a) ← planErrors r a rest
    pure ((.error kind, body) :: ways, a)

/-- The plan of a list of steps. -/
def planAll (r : Registry) (a : Allocator) : List Step → Option (Plan × Allocator)
  | [] => some (.finish, a)
  | s :: rest => do
    let (front, a) ← plan r a s
    let (rest, a) ← planAll r a rest
    pure (front rest, a)

end

end Step

/-- The plan of a flow's steps. -/
def FlowDefinition.plan (r : Registry) (f : FlowDefinition) : Option Plan :=
  (Step.planAll r {} f.steps).map (·.1)

/-! ### Structured steps -/

/-- An input that is not tried again, a loop of a given number of rounds, or any other action. -/
def Action.isStructured : Action → Bool
  | .collectInput input => (input.maxAttempts.isAbove 1).toOption == some false
  | .collectSequential _ => false
  | .loop (.int _) => true
  | .loop _ => false
  | _ => true

def Head.isStructured : Head → Bool
  | .action a => a.isStructured
  | .staged .. => false

namespace Step

mutual

/-- A step, with all that is nested in it, that has no jumps, no inputs in two stages and none that
are tried again. A loop has one body. -/
def isStructured : Step → Bool
  | .action head _ branches errors => head.isStructured && areBranchesStructured branches &&
    areErrorsStructured errors && (head.type != .loop || branches.length == 1)
  | .resume _ => true
  | .jump .. => false

def areBranchesStructured : List (Branch × List Step) → Bool
  | [] => true
  | (_, steps) :: rest => areStructured steps && areBranchesStructured rest

def areErrorsStructured : List (String × List Step) → Bool
  | [] => true
  | (_, steps) :: rest => areStructured steps && areErrorsStructured rest

def areStructured : List Step → Bool
  | [] => true
  | s :: rest => s.isStructured && areStructured rest

end

end Step

end ContactFlow
