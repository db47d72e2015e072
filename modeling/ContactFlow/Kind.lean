import ContactFlow.Text.Blank
import ContactFlow.Text.Case

/-!
The kinds of things a flow is made of: actions, error transitions, input modes, fallback triggers
and severities, each with its name in messages and its form in documents.
-/

namespace ContactFlow

inductive ActionKind
  | message | collectInput | storeInput | branch | invokeExternal | setAttributes | checkAttribute
  | checkHours | checkStaffing | getMetrics | loop | hold | transferToQueue | transferToFlow
  | transferToExternal | disconnect | endExecution
  deriving DecidableEq, Repr, Inhabited

namespace ActionKind

def all : List ActionKind :=
  [.message, .collectInput, .storeInput, .branch, .invokeExternal, .setAttributes, .checkAttribute,
    .checkHours, .checkStaffing, .getMetrics, .loop, .hold, .transferToQueue, .transferToFlow,
    .transferToExternal, .disconnect, .endExecution]

def name : ActionKind → String
  | .message => "MESSAGE"
  | .collectInput => "COLLECT_INPUT"
  | .storeInput => "STORE_INPUT"
  | .branch => "BRANCH"
  | .invokeExternal => "INVOKE_EXTERNAL"
  | .setAttributes => "SET_ATTRIBUTES"
  | .checkAttribute => "CHECK_ATTRIBUTE"
  | .checkHours => "CHECK_HOURS"
  | .checkStaffing => "CHECK_STAFFING"
  | .getMetrics => "GET_METRICS"
  | .loop => "LOOP"
  | .hold => "HOLD"
  | .transferToQueue => "TRANSFER_TO_QUEUE"
  | .transferToFlow => "TRANSFER_TO_FLOW"
  | .transferToExternal => "TRANSFER_TO_EXTERNAL"
  | .disconnect => "DISCONNECT"
  | .endExecution => "END_EXECUTION"

def wire : ActionKind → String
  | .message => "MessageParticipant"
  | .collectInput => "GetParticipantInput"
  | .storeInput => "StoreUserInput"
  | .branch => "DistributeByPercentage"
  | .invokeExternal => "InvokeLambdaFunction"
  | .setAttributes => "UpdateContactAttributes"
  | .checkAttribute => "Compare"
  | .checkHours => "CheckHoursOfOperation"
  | .checkStaffing => "CheckMetricData"
  | .getMetrics => "GetMetricData"
  | .loop => "Loop"
  | .hold => "Wait"
  | .transferToQueue => "TransferContactToQueue"
  | .transferToFlow => "TransferToFlow"
  | .transferToExternal => "TransferParticipantToThirdParty"
  | .disconnect => "DisconnectParticipant"
  | .endExecution => "EndFlowExecution"

def ofName? (s : String) : Option ActionKind := all.find? (·.name == s)
def ofWire? (s : String) : Option ActionKind := all.find? (·.wire == s)

/-- Nothing of the flow follows a terminal action. -/
def isTerminal : ActionKind → Bool
  | .disconnect | .endExecution | .transferToQueue | .transferToFlow | .transferToExternal => true
  | _ => false

/-- Branching actions leave through one of their branches, never through a next action. -/
def isBranching : ActionKind → Bool
  | .collectInput | .checkAttribute | .checkHours | .checkStaffing | .branch | .loop => true
  | _ => false

end ActionKind

inductive ErrorKind
  | timeout | noMatch | invalidInput | lowConfidence | error | queueAtCapacity
  deriving DecidableEq, Repr, Inhabited

namespace ErrorKind

def all : List ErrorKind :=
  [.timeout, .noMatch, .invalidInput, .lowConfidence, .error, .queueAtCapacity]

def name : ErrorKind → String
  | .timeout => "TIMEOUT"
  | .noMatch => "NO_MATCH"
  | .invalidInput => "INVALID_INPUT"
  | .lowConfidence => "LOW_CONFIDENCE"
  | .error => "ERROR"
  | .queueAtCapacity => "QUEUE_AT_CAPACITY"

def label : ErrorKind → String
  | .timeout => "timeout"
  | .noMatch => "no_match"
  | .invalidInput => "invalid_input"
  | .lowConfidence => "low_confidence"
  | .error => "error"
  | .queueAtCapacity => "queue_at_capacity"

def wire : ErrorKind → String
  | .timeout => "InputTimeLimitExceeded"
  | .noMatch => "NoMatchingCondition"
  | .invalidInput => "InvalidInput"
  | .lowConfidence => "LowConfidence"
  | .error => "NoMatchingError"
  | .queueAtCapacity => "QueueAtCapacity"

def ofConstant? (s : String) : Option ErrorKind := all.find? (·.name == s)
def ofWire? (s : String) : Option ErrorKind := all.find? (·.wire == s)

/-- Reads a kind by its name in any case, or by its form in documents. -/
def ofName? (s : String) : Option ErrorKind :=
  let key := Text.strip s
  match ofConstant? (Text.upper key) with
  | some kind => some kind
  | none => ofWire? key

/-- The errors after which an input may be tried again. -/
def retryable : List ErrorKind := [.timeout, .noMatch, .invalidInput, .lowConfidence]

end ErrorKind

inductive InputMode
  | speech | keypad
  deriving DecidableEq, Repr, Inhabited

namespace InputMode

def wire : InputMode → String
  | .speech => "asr"
  | .keypad => "dtmf"

def ofWire? (s : String) : Option InputMode := [speech, keypad].find? (·.wire == s)

end InputMode

/-- What happens at the first stage of an input that hands over to the second one. -/
inductive Trigger
  | timeout | invalidInput | noMatch | error | lowConfidence | maxRetries
  deriving DecidableEq, Repr, Inhabited

namespace Trigger

def all : List Trigger := [.timeout, .invalidInput, .noMatch, .error, .lowConfidence, .maxRetries]

def name : Trigger → String
  | .timeout => "TIMEOUT"
  | .invalidInput => "INVALID_INPUT"
  | .noMatch => "NO_MATCH"
  | .error => "ERROR"
  | .lowConfidence => "LOW_CONFIDENCE"
  | .maxRetries => "MAX_RETRIES"

def label : Trigger → String
  | .timeout => "timeout"
  | .invalidInput => "invalid_input"
  | .noMatch => "no_match"
  | .error => "error"
  | .lowConfidence => "low_confidence"
  | .maxRetries => "max_retries"

/-- The bit of a trigger in the number of a set of them. -/
def weight : Trigger → Nat
  | .timeout => 1
  | .invalidInput => 2
  | .noMatch => 4
  | .error => 8
  | .lowConfidence => 16
  | .maxRetries => 32

/-- The error transition that sets a trigger off. Running out of retries has none of its own. -/
def errorKind? : Trigger → Option ErrorKind
  | .timeout => some .timeout
  | .invalidInput => some .invalidInput
  | .noMatch => some .noMatch
  | .error => some .error
  | .lowConfidence => some .lowConfidence
  | .maxRetries => none

/-- Reads one name. The name `none` stands for no trigger at all. -/
def ofName? (s : String) : Option (List Trigger) :=
  let key := Text.upper (Text.strip s)
  if key = "NONE" then some [] else (all.find? (·.name == key)).map ([·])

/-- A set of triggers in the order of their declaration. -/
def normalize (ts : List Trigger) : List Trigger := all.filter ts.contains

/-- The set of the triggers named, or the first name that is unknown. -/
def ofNames : List String → Except String (List Trigger)
  | [] => .ok []
  | s :: rest => match ofName? s with
    | none => .error s
    | some ts => (ofNames rest).map fun more => normalize (ts ++ more)

def number (ts : List Trigger) : Nat := (normalize ts).foldl (fun n t => n + weight t) 0

end Trigger

inductive Severity
  | error | warning
  deriving DecidableEq, Repr, Inhabited

namespace Severity

def wire : Severity → String
  | .error => "error"
  | .warning => "warning"

def ofWire? (s : String) : Option Severity := [error, warning].find? (·.wire == s)

end Severity

end ContactFlow
