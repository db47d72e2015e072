import ContactFlow.Builder.Branching

/-!
Steps: the trees that flows are defined by. A step asks for an action; the steps of its branches and
of its error handlers are nested in it. At its end a branch may resume the flow that it left, and
any list of steps may end with a jump.
-/

namespace ContactFlow

inductive StepType
  | message | collect | sequentialInput | storeInput | invoke | setAttributes | checkAttribute
  | checkHours | checkStaffing | getMetrics | splitPercent | loop | hold | transferToQueue
  | transferToFlow | transferToExternal | disconnect | finish | resume | jump
  deriving DecidableEq, Repr, Inhabited

namespace StepType

def all : List StepType :=
  [.message, .collect, .sequentialInput, .storeInput, .invoke, .setAttributes, .checkAttribute,
    .checkHours, .checkStaffing, .getMetrics, .splitPercent, .loop, .hold, .transferToQueue,
    .transferToFlow, .transferToExternal, .disconnect, .finish, .resume, .jump]

def tag : StepType → String
  | .message => "message"
  | .collect => "collect"
  | .sequentialInput => "sequential_input"
  | .storeInput => "store_input"
  | .invoke => "invoke"
  | .setAttributes => "set_attributes"
  | .checkAttribute => "check_attribute"
  | .checkHours => "check_hours"
  | .checkStaffing => "check_staffing"
  | .getMetrics => "get_metrics"
  | .splitPercent => "split_percent"
  | .loop => "loop"
  | .hold => "hold"
  | .transferToQueue => "transfer_to_queue"
  | .transferToFlow => "transfer_to_flow"
  | .transferToExternal => "transfer_to_external"
  | .disconnect => "disconnect"
  | .finish => "end"
  | .resume => "continue"
  | .jump => "jump_to"

def title : StepType → String
  | .message => "Message"
  | .collect => "Collect"
  | .sequentialInput => "SequentialInput"
  | .storeInput => "StoreInput"
  | .invoke => "Invoke"
  | .setAttributes => "SetAttributes"
  | .checkAttribute => "CheckAttribute"
  | .checkHours => "CheckHours"
  | .checkStaffing => "CheckStaffing"
  | .getMetrics => "GetMetrics"
  | .splitPercent => "SplitPercent"
  | .loop => "Loop"
  | .hold => "Hold"
  | .transferToQueue => "TransferToQueue"
  | .transferToFlow => "TransferToFlow"
  | .transferToExternal => "TransferToExternal"
  | .disconnect => "Disconnect"
  | .finish => "End"
  | .resume => "Continue"
  | .jump => "JumpTo"

def ofTag? (s : String) : Option StepType := all.find? (·.tag == s)

/-- The name of the data of a step of this type. -/
def dataName (t : StepType) : String := t.title ++ "StepConfig"

end StepType

/-- What every step may be given: an identifier of its own, or a hint for one. -/
structure Frame where
  id : Option String := none
  label : Option String := none
  deriving DecidableEq, Repr, Inhabited

/-- The action of a step. The triggers of an input in two stages are still names. -/
inductive Head
  | action (a : Action)
  | staged (primary : PrimaryInput) (fallback : Option FallbackInput) (triggers : List String)
      (enableFallback : Bool)
  deriving Repr, Inhabited

inductive Step
  | action (head : Head) (frame : Frame) (branches : List (Branch × List Step))
      (errors : List (String × List Step))
  | resume (frame : Frame)
  | jump (target : String) (frame : Frame)
  deriving Repr, Inhabited

namespace Head

def type : Head → StepType
  | .staged .. => .sequentialInput
  | .action a => match a with
    | .playPrompt .. => .message
    | .storeInput _ => .storeInput
    | .invokeExternal _ => .invoke
    | .setAttributes _ => .setAttributes
    | .getMetrics _ => .getMetrics
    | .hold _ => .hold
    | .transferToQueue _ => .transferToQueue
    | .transferToFlow _ => .transferToFlow
    | .transferToExternal _ => .transferToExternal
    | .disconnect => .disconnect
    | .endExecution => .finish
    | .collectInput _ => .collect
    | .collectSequential _ => .sequentialInput
    | .checkAttribute .. => .checkAttribute
    | .checkHours _ => .checkHours
    | .checkStaffing .. => .checkStaffing
    | .splitPercent => .splitPercent
    | .loop _ => .loop

end Head

namespace Step

def type : Step → StepType
  | .action head .. => head.type
  | .resume _ => .resume
  | .jump .. => .jump

end Step

end ContactFlow
