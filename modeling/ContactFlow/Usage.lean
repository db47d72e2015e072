import ContactFlow.Kind
import ContactFlow.Definition.Fault
import ContactFlow.Value.Display
import ContactFlow.Value.Shape

/-!
Misuse of a flow under construction: each cause, and the message it is reported with. An argument
may also be of a kind that an operation has no use for, or a number too long to be written.
-/

namespace ContactFlow

/-- Why nothing more can be appended although no terminal action ends the flow. -/
inductive Closing
  | jumped (target : String)
  | continued
  deriving DecidableEq, Repr

def Closing.message : Closing → String
  | .jumped target => "flow jumped to '" ++ target ++ "'"
  | .continued => "branch already continued"

def comparisonOperators : List String :=
  ["Equals", "NumberGreaterOrEqualTo", "NumberGreaterThan", "NumberLessOrEqualTo", "NumberLessThan",
    "TextContains", "TextEndsWith", "TextStartsWith"]

def staffingMetrics : List String := ["Available", "Online", "Staffed"]

inductive UsageError
  | emptyNodeId
  | duplicateNodeId (node : String)
  | emptyResourceName (kind : ResourceKind)
  | emptyAddress (kind : ResourceKind) (name : String)
  | alreadyResolved (flow : String)
  | emptyReference (kind : ResourceKind)
  | emptyFlowName
  | afterTerminal (flow node : String)
  | afterClosing (flow : String) (closing : Closing)
  | promptBody
  | maxDigits
  | functionTimeout
  | noAttributes
  | holdTime
  | noPhoneNumber
  | noJumpTarget
  | noPrecedingAction
  | unknownErrorKind (name : String)
  | alreadyHandles (node : String) (kind : ErrorKind)
  | maxAttempts
  | noAttributeName
  | unknownStaffing (status : String)
  | loopTimes
  | continuedTwice
  | continueAfterTerminal (node : String)
  | continueAfterClosing (closing : Closing)
  | nothingToContinue
  | emptyBranch (description flow : String)
  | duplicateBranch (node : String) (key : List Scalar)
  | wrongMode (call : String) (mode : InputMode) (node : String) (modes : List InputMode)
  | noInputKey
  | unknownOperator (operator : String)
  | bucketOverflow (percent remaining : Scalar)
  | unmatchable (digits intent : Option Scalar) (mode : InputMode)
  | notOffered
  | notABranch
  | notTheFlow
  | mismatch (e : Mismatch)
  | longNumber
  | entryLength (index length : Nat)
  | badRetry (faults : List Fault)
  deriving DecidableEq, Repr

namespace UsageError

def orNone : Option Scalar → String
  | some s => s.inner
  | none => "None"

def entryLengthMessage (index length : Nat) : String :=
  "dictionary update sequence element #" ++ toString index ++ " has length " ++ toString length ++
    "; 2 is required"

def unknownKindMessage (name : String) : String :=
  "Unknown error kind '" ++ name ++ "'. Available: " ++
    Text.quotedList (ErrorKind.all.map ErrorKind.label)

def message : UsageError → String
  | .emptyNodeId => "Explicit node id cannot be empty"
  | .duplicateNodeId node => "Duplicate node id '" ++ node ++ "'"
  | .emptyResourceName kind => "Cannot register " ++ kind.wire ++ " with an empty name"
  | .emptyAddress kind name =>
    "Cannot register " ++ kind.wire ++ " '" ++ name ++ "' with an empty address"
  | .alreadyResolved flow => "Flow '" ++ flow ++ "' has already been resolved"
  | .emptyReference kind => kind.wire ++ " name cannot be empty"
  | .emptyFlowName => "Flow name cannot be empty"
  | .afterTerminal flow node =>
    "Cannot append to flow '" ++ flow ++ "' after terminal action '" ++ node ++ "'"
  | .afterClosing flow closing => "Cannot append to flow '" ++ flow ++ "': " ++ closing.message
  | .promptBody => "play_prompt() needs exactly one of text or ssml"
  | .maxDigits => "max_digits must be >= 1"
  | .functionTimeout => "timeout_seconds must be between 1 and 8"
  | .noAttributes => "set_attributes() needs at least one attribute"
  | .holdTime => "hold() needs a positive duration"
  | .noPhoneNumber => "transfer_to_external() needs a phone number"
  | .noJumpTarget => "jump_to() needs a node id"
  | .noPrecedingAction => "on_error() needs a preceding action"
  | .unknownErrorKind name => unknownKindMessage name
  | .alreadyHandles node kind => "Node '" ++ node ++ "' already handles " ++ kind.wire
  | .maxAttempts => "max_attempts must be >= 1"
  | .noAttributeName => "check_attribute() needs an attribute name"
  | .unknownStaffing status =>
    "Unknown staffing status '" ++ status ++ "'. Available: " ++ Text.quotedList staffingMetrics
  | .loopTimes => "loop() needs times >= 1"
  | .continuedTwice => "then_continue() called twice on the same branch"
  | .continueAfterTerminal node =>
    "Cannot continue a branch that ended with terminal action '" ++ node ++ "'"
  | .continueAfterClosing closing => "Cannot continue branch: " ++ closing.message
  | .nothingToContinue => "Nothing to continue to after a terminal action"
  | .emptyBranch description flow =>
    description ++ " in flow '" ++ flow ++
      "' added no actions; call then_continue() to rejoin the flow"
  | .duplicateBranch node key =>
    "Node '" ++ node ++ "' already has a branch for " ++ Text.parenthesized (key.map Scalar.inner)
  | .wrongMode call mode node modes =>
    call ++ " needs " ++ mode.wire ++ " input, node '" ++ node ++ "' collects " ++
      Text.quotedList ((modes.map InputMode.wire).mergeSort (· ≤ ·))
  | .noInputKey => "on_input() needs digits, intent, or both"
  | .unknownOperator operator =>
    "Unknown comparison operator '" ++ operator ++ "'. Available: " ++
      Text.quotedList comparisonOperators
  | .bucketOverflow percent remaining =>
    "Bucket of " ++ percent.display ++ "% exceeds the remaining " ++ remaining.display ++ "%"
  | .unmatchable digits intent mode =>
    "Input branch InputMatch(digits=" ++ orNone digits ++ ", intent=" ++ orNone intent ++
      ") cannot match " ++ mode.wire ++ " input"
  | .notOffered => "The node offers no such branch"
  | .notABranch => "Only a branch can rejoin a flow"
  | .notTheFlow => "build() must be called on the root FlowBuilder"
  | .mismatch .operand => "An argument is of no kind that the action takes"
  | .mismatch .property => "An argument lacks what the action asks it for"
  | .longNumber => Numeral.unwritableMessage
  | .entryLength index length => entryLengthMessage index length
  | .badRetry _ => "The retries of an input do not make sense"

/-- What is not about the flow but about the arguments of an operation. -/
def isForeign : UsageError → Bool
  | .mismatch _ | .longNumber | .entryLength .. | .badRetry _ | .notOffered | .notABranch => true
  | _ => false

end UsageError

end ContactFlow
