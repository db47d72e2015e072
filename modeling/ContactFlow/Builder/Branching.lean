import ContactFlow.Builder.Append

/-!
Branches. A branch is opened with a builder of its own, whose first action the branch leads to. Once
the branch is filled it is closed, which fails when nothing was put into it. Branches for errors can
be opened on any action, the others on nodes that offer them.
-/

namespace ContactFlow

/-- A branch, with the values by which it is chosen. -/
inductive Branch
  | digits (digits : Value)
  | intent (intent : Value)
  | input (digits intent : Value)
  | timeout
  | noMatch
  | invalidInput
  | lowConfidence
  | error
  | compare (operator operand : Value)
  | otherwise
  | inHours
  | outOfHours
  | staffed
  | notStaffed
  | bucket (percent : Value)
  | body
  deriving Repr, Inhabited

/-- What opening a branch adds to its node: a condition under a key of its own, or an error edge. -/
inductive Opening
  | condition (guard : Guard) (key : List Scalar)
  | error (kind : ErrorKind)
  deriving DecidableEq, Repr

/-- A branch in the making: its builder, and what it is called when it stays empty. -/
structure OpenBranch where
  builder : Nat
  description : String
  deriving DecidableEq, Repr

/-- An error kind, or a name that it is still to be looked up by. -/
inductive ErrorName
  | kind (k : ErrorKind)
  | named (name : Value)
  deriving Repr

namespace ErrorName

def resolve : ErrorName → Except UsageError ErrorKind
  | .kind k => .ok k
  | .named name => do
    let name ← name.asText.mapError .mismatch
    match ErrorKind.ofName? name with
    | some k => pure k
    | none => throw (.unknownErrorKind name)

end ErrorName

namespace BranchSet

def require (s : BranchSet) (modes : List InputMode) (mode : InputMode) (call : String) :
    Except UsageError Unit :=
  if modes.contains mode then .ok () else .error (.wrongMode call mode s.node.id modes)

/-- Keys are the same when their parts are, one by one. -/
def sameKeys : List Scalar → List Scalar → Bool
  | [], [] => true
  | a :: as, b :: bs => a.sameKey b && sameKeys as bs
  | _, _ => false

def isTaken (s : BranchSet) (key : List Scalar) : Bool := s.taken.any (sameKeys key)

def requireFree (s : BranchSet) (key : List Scalar) : Except UsageError Unit :=
  if s.isTaken key then .error (.duplicateBranch s.node.id key) else .ok ()

def take (s : BranchSet) (keys : List (List Scalar)) : BranchSet :=
  { s with taken := s.taken ++ keys }

/-- Something that callers enter or say. Nothing at all is null. -/
def entered (v : Value) : Except UsageError (Option Scalar) :=
  (v.asKey.mapError .mismatch).map fun s => if s = .null then none else some s

def openDigits (s : BranchSet) (modes : List InputMode) (digits : Value) :
    Except UsageError (Opening × BranchSet) := do
  s.require modes .keypad "on_digit()"
  let digits ← entered digits
  pure (.condition (.input digits none) [.text "digits", digits.getD .null], s)

def openIntent (s : BranchSet) (modes : List InputMode) (intent : Value) :
    Except UsageError (Opening × BranchSet) := do
  s.require modes .speech "on_intent()"
  let intent ← entered intent
  pure (.condition (.input none intent) [.text "intent", intent.getD .null], s)

def inputKeys (digits intent : Option Scalar) : List (List Scalar) :=
  (digits.map ([.text "digits", ·])).toList ++ (intent.map ([.text "intent", ·])).toList

/-- In the key of a branch that both stages share, what counts as false is left empty. -/
def keyPart (s : Option Scalar) : Scalar :=
  match s with
  | some s => if s.isTruthy then s else .text ""
  | none => .text ""

def isGiven : Value → Bool
  | .null => false
  | _ => true

def openInput (s : BranchSet) (modes : List InputMode) (digits intent : Value) :
    Except UsageError (Opening × BranchSet) := do
  if !isGiven digits && !isGiven intent then throw .noInputKey
  if isGiven digits then s.require modes .keypad "on_input(digits=...)"
  if isGiven intent then s.require modes .speech "on_input(intent=...)"
  let digits ← entered digits
  let intent ← entered intent
  let keys := inputKeys digits intent
  match keys.find? s.isTaken with
  | some key => throw (.duplicateBranch s.node.id key)
  | none =>
    pure (.condition (.input digits intent) [.text "input", keyPart digits, keyPart intent],
      s.take keys)

def openComparison (s : BranchSet) (operator operand : Value) :
    Except UsageError (Opening × BranchSet) := do
  let _ ← operator.asKey.mapError .mismatch
  let unknown := UsageError.unknownOperator operator.display
  let name ← (operator.text?.filter comparisonOperators.contains).elim (throw unknown) pure
  let operand ← operand.written
  pure (.condition (.compare name [.text operand]) [.text name, .text operand], s)

/-- The share that is given out once a bucket takes its percent. -/
def withBucket (allocated percent : Scalar) : Except UsageError Scalar := do
  let mismatch := UsageError.mismatch .operand
  let small ← (percent.less? (.int 1)).elim (throw mismatch) pure
  let sum ← (allocated.plus? percent).elim (throw mismatch) pure
  let left ← (allocated.negate?.bind (Scalar.int 100).plus?).elim (throw mismatch) pure
  if small || ((Scalar.int 100).less? sum).getD false then throw (.bucketOverflow percent left)
  else pure sum

/-- The bounds of the buckets add up in the order in which they are opened. -/
def openBucket (s : BranchSet) (allocated : Scalar) (percent : Value) :
    Except UsageError (Opening × BranchSet) := do
  match percent with
  | .scalar percent =>
    let sum ← withBucket allocated percent
    let upper := sum.display
    pure (.condition (.compare "NumberLessThan" [.text upper]) [.text "bucket", .text upper],
      { s with offer := .percent sum })
  | _ => throw (.mismatch .operand)

/-- What a branch adds to the node, and the set with its place given out. -/
def opening (s : BranchSet) (b : Branch) : Except UsageError (Opening × BranchSet) :=
  match s.offer, b with
  | _, .error => .ok (.error .error, s)
  | .input modes, .digits digits => s.openDigits modes digits
  | .input modes, .intent intent => s.openIntent modes intent
  | .input modes, .input digits intent => s.openInput modes digits intent
  | .input _, .timeout => .ok (.error .timeout, s)
  | .input _, .noMatch | .input _, .otherwise => .ok (.error .noMatch, s)
  | .input _, .invalidInput => .ok (.error .invalidInput, s)
  | .input modes, .lowConfidence => do
    s.require modes .speech "on_low_confidence()"
    pure (.error .lowConfidence, s)
  | .comparison, .compare operator operand => s.openComparison operator operand
  | .comparison, .otherwise | .percent _, .otherwise => .ok (.error .noMatch, s)
  | .hours, .inHours => .ok (.condition (.equals "True") [.text "in_hours"], s)
  | .hours, .outOfHours => .ok (.condition (.equals "False") [.text "out_of_hours"], s)
  | .staffing, .staffed =>
    .ok (.condition (.compare "NumberGreaterThan" [.text "0"]) [.text "staffed"], s)
  | .staffing, .notStaffed => .ok (.error .noMatch, s)
  | .percent allocated, .bucket percent => s.openBucket allocated percent
  | _, _ => .error .notOffered

end BranchSet

namespace Workspace

/-- Adds a condition edge without a target to a node, and gives its place. -/
def addCondition (w : Workspace) (node : Nat) (guard : Guard) : Slot × Workspace :=
  let count := (w.node? node).elim 0 fun n => n.transitions.conditions.length
  (.condition node count, w.modifyNode node fun n =>
    { n with transitions :=
      { n.transitions with conditions := n.transitions.conditions ++ [{ guard }] } })

/-- Adds an error edge without a target to a node, and gives its place. -/
def addError (w : Workspace) (node : Nat) (kind : ErrorKind) : Slot × Workspace :=
  let count := (w.node? node).elim 0 fun n => n.transitions.errors.length
  (.error node count, w.modifyNode node fun n =>
    { n with transitions := { n.transitions with errors := n.transitions.errors ++ [{ kind }] } })

def handles (w : Workspace) (node : Nat) (kind : ErrorKind) : Bool :=
  (w.node? node).any fun n => n.transitions.errors.any (·.kind == kind)

end Workspace

namespace Builder

/-- Opens an error branch on a node. -/
def openError (node : Handle) (join : Option Nat) (kind : ErrorKind) :
    BuildM UsageError OpenBranch := do
  if (← BuildM.read).handles node.serial kind then BuildM.fail (.alreadyHandles node.id kind)
  else BuildM.step fun w =>
    let (origin, w) := w.addError node.serial kind
    let (builder, w) := w.openBuilder origin join
    (⟨builder, kind.wire ++ " handler"⟩, w)

/-- Opens an error branch on the builder's last action. -/
def openHandler (b : Nat) (name : ErrorName) : BuildM UsageError OpenBranch := do
  let x := (← BuildM.read).builder b
  match x.last with
  | none => BuildM.fail .noPrecedingAction
  | some node =>
    let kind ← BuildM.ofExcept name.resolve
    openError node (if x.isTerminated then none else some x.cursor) kind

/-- Opens a condition branch on the node of a set, unless its key is taken. -/
def openCondition (s : Nat) (guard : Guard) (key : List Scalar) : BuildM UsageError OpenBranch := do
  let set := (← BuildM.read).branches s
  BuildM.ofExcept (set.requireFree key)
  BuildM.step fun w =>
    let w := w.setBranches s (set.take [key])
    let (origin, w) := w.addCondition set.node.serial guard
    let (builder, w) := w.openBuilder origin (some set.join)
    (⟨builder, "branch " ++ Text.parenthesized (key.map Scalar.inner)⟩, w)

/-- Opens a branch of a set. -/
def openBranch (s : Nat) (branch : Branch) : BuildM UsageError OpenBranch := do
  let set := (← BuildM.read).branches s
  let (opening, set) ← BuildM.ofExcept (set.opening branch)
  BuildM.change fun w => w.setBranches s set
  match opening with
  | .condition guard key => openCondition s guard key
  | .error kind => openError set.node (some set.join) kind

/-- Closes a branch, which must not have stayed empty. -/
def closeBranch (o : OpenBranch) : BuildM UsageError Unit := do
  let w ← BuildM.read
  if (w.builder o.builder).isEmpty then BuildM.fail (.emptyBranch o.description w.flow)

/-- The operands by which a loop goes round once more, and by which it is left. -/
def continueLooping : String := "ContinueLooping"
def doneLooping : String := "DoneLooping"

/-- Appends a loop and opens its body, whose open edges lead back to the loop. -/
def openLoop (b : Nat) (times label id : Value) : BuildM UsageError (Handle × OpenBranch) := do
  let node ← append b (.loop times) label id
  BuildM.step fun w =>
    let (back, w) := w.freshJoin []
    let w := w.resolve back node.id
    let (origin, w) := w.addCondition node.serial (.equals continueLooping)
    let (builder, w) := w.openBuilder origin (some back)
    ((node, ⟨builder, "loop body"⟩), w)

/-- Closes the body of a loop. The flow goes on where the loop is done. -/
def closeLoop (b : Nat) (node : Handle) (o : OpenBranch) : BuildM UsageError Unit := do
  closeBranch o
  if ((← BuildM.read).builder o.builder).status = .opened then thenContinue o.builder
  BuildM.change fun w =>
    let (slot, w) := w.addCondition node.serial (.equals doneLooping)
    w.moveCursor b [slot]

section Filled

variable {ε : Type} (lift : UsageError → ε)

/-- Opens a branch, fills it and closes it. -/
def fill (opened : BuildM UsageError OpenBranch) (handler : Nat → BuildM ε Unit) :
    BuildM ε Unit := do
  let o ← opened.mapError lift
  handler o.builder
  (closeBranch o).mapError lift

def branch (s : Nat) (which : Branch) (handler : Nat → BuildM ε Unit) : BuildM ε Unit :=
  fill lift (openBranch s which) handler

def onError (b : Nat) (name : ErrorName) (handler : Nat → BuildM ε Unit) : BuildM ε Unit :=
  fill lift (openHandler b name) handler

def loop (b : Nat) (times label id : Value) (body : Nat → BuildM ε Unit) : BuildM ε Unit := do
  let (node, o) ← (openLoop b times label id).mapError lift
  body o.builder
  (closeLoop b node o).mapError lift

end Filled

end Builder

end ContactFlow
