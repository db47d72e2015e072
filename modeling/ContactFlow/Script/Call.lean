import ContactFlow.Script.Handmade

/-!
The calls of a script: the actions that a step can append, and the branches that can be opened on
the node of an action. Each takes arguments of its own, and an action may have a label and an
identifier too.
-/

namespace ContactFlow.Script

/-- The kinds of action that are appended by their name. -/
inductive ActionCall
  | playPrompt | storeInput | invokeExternal | setAttributes | getMetrics | hold | transferToQueue
  | transferToFlow | transferToExternal | disconnect | endExecution | collectInput
  | collectSequential | checkAttribute | checkHours | checkStaffing | splitPercent
  deriving DecidableEq, Repr, Inhabited

namespace ActionCall

def all : List ActionCall :=
  [.playPrompt, .storeInput, .invokeExternal, .setAttributes, .getMetrics, .hold, .transferToQueue,
    .transferToFlow, .transferToExternal, .disconnect, .endExecution, .collectInput,
    .collectSequential, .checkAttribute, .checkHours, .checkStaffing, .splitPercent]

def name : ActionCall → String
  | .playPrompt => "play_prompt"
  | .storeInput => "store_input"
  | .invokeExternal => "invoke_external"
  | .setAttributes => "set_attributes"
  | .getMetrics => "get_metrics"
  | .hold => "hold"
  | .transferToQueue => "transfer_to_queue"
  | .transferToFlow => "transfer_to_flow"
  | .transferToExternal => "transfer_to_external"
  | .disconnect => "disconnect"
  | .endExecution => "end_execution"
  | .collectInput => "collect_input"
  | .collectSequential => "collect_sequential_input"
  | .checkAttribute => "check_attribute"
  | .checkHours => "check_hours"
  | .checkStaffing => "check_staffing"
  | .splitPercent => "split_percent"

def ofName? (s : String) : Option ActionCall := all.find? (·.name == s)

def labelled : List String := ["label", "node_id"]

def signature : ActionCall → Signature
  | .playPrompt => ⟨[], ["text", "ssml"] ++ labelled⟩
  | .storeInput => ⟨["prompt"], ["max_digits", "timeout_seconds", "encrypt"] ++ labelled⟩
  | .invokeExternal =>
    ⟨["function"], ["parameters", "timeout_seconds", "response_validation"] ++ labelled⟩
  | .setAttributes | .disconnect | .endExecution | .splitPercent => ⟨[], labelled⟩
  | .getMetrics => ⟨[], "queue" :: labelled⟩
  | .hold => ⟨["seconds"], labelled⟩
  | .transferToQueue => ⟨["queue"], labelled⟩
  | .transferToFlow => ⟨["flow"], labelled⟩
  | .transferToExternal => ⟨["phone_number"], ["timeout_seconds", "caller_id"] ++ labelled⟩
  | .collectInput => ⟨["prompt"],
      ["max_digits", "timeout_seconds", "mode", "lex_bot", "max_attempts", "retry_prompt"] ++
        labelled⟩
  | .collectSequential => ⟨["spec"], labelled⟩
  | .checkAttribute => ⟨["attribute"], "namespace" :: labelled⟩
  | .checkHours => ⟨[], "hours" :: labelled⟩
  | .checkStaffing => ⟨[], ["queue", "status"] ++ labelled⟩

end ActionCall

/-- An action to append, with the label and the identifier of its node. -/
structure Labelled where
  action : Action
  label : Value := .null
  id : Value := .null

/-- The entries of an argument that is nothing or a table. -/
def tableOrNothing (v : Value) : Result Table :=
  if v.isTruthy then StepError.ofMismatch (v.asTable.mapError fun _ => .operand) else .ok []

/-- Attributes are given in a table, one by one, or both, and further ones in a table of arguments.
An argument must not be given twice. -/
def attributesOf (step args : Table) : Result Labelled := do
  let given ← tableOrNothing (argument args "attributes")
  let more ← decode (argument step "kwargs" (.table []))
  let single ← StepError.ofMismatch (more.asTable.mapError fun _ => .operand)
  let others := Table.erase args "attributes"
  if others.any fun (k, _) => single.any fun (k', _) => k == k' then throw (.mismatch .operand)
  let named := others ++ single
  let isAttribute := fun (k, _) => !ActionCall.labelled.any fun name => k == Scalar.text name
  pure { action := .setAttributes (Table.union given (named.filter isAttribute)),
         label := argument named "label", id := argument named "node_id" }

/-- The mode that is asked for, keypad entries without one. -/
def modeOf (args : Table) : Result InputMode :=
  match args.get? "mode" with
  | some v => inputMode v
  | none => .ok .keypad

/-- The action of a call, once its arguments are the ones that it takes. -/
def ActionCall.action (args : Table) (mode : InputMode) : ActionCall → Result Action
  | .playPrompt => .ok (.playPrompt (argument args "text") (argument args "ssml"))
  | .storeInput => .ok (.storeInput
      { prompt := argument args "prompt", maxDigits := argument args "max_digits" (.int 20),
        timeoutSeconds := argument args "timeout_seconds" (.int 5),
        encrypt := isSet args "encrypt" })
  | .invokeExternal => .ok (.invokeExternal
      { function := argument args "function", parameters := argument args "parameters",
        timeoutSeconds := argument args "timeout_seconds" (.int 8),
        responseValidation := argument args "response_validation" (.text "STRING_MAP") })
  | .setAttributes => .ok (.setAttributes [])
  | .getMetrics => .ok (.getMetrics (argument args "queue"))
  | .hold => .ok (.hold (argument args "seconds"))
  | .transferToQueue => .ok (.transferToQueue (argument args "queue"))
  | .transferToFlow => .ok (.transferToFlow (argument args "flow"))
  | .transferToExternal => .ok (.transferToExternal
      { phoneNumber := argument args "phone_number",
        timeoutSeconds := argument args "timeout_seconds" (.int 30),
        callerId := argument args "caller_id" })
  | .disconnect => .ok .disconnect
  | .endExecution => .ok .endExecution
  | .collectInput => .ok (.collectInput
      { prompt := argument args "prompt", maxDigits := argument args "max_digits" (.int 1),
        timeoutSeconds := argument args "timeout_seconds" (.int 5), mode,
        lexBot := argument args "lex_bot", maxAttempts := argument args "max_attempts" (.int 1),
        retryPrompt := argument args "retry_prompt" })
  | .collectSequential => .collectSequential <$> inputSpec (argument args "spec")
  | .checkAttribute => .ok (.checkAttribute (argument args "attribute")
      (argument args "namespace" (.text "Attributes")))
  | .checkHours => .ok (.checkHours (argument args "hours"))
  | .checkStaffing => .ok (.checkStaffing (argument args "queue")
      (argument args "status" (.text "Available")))
  | .splitPercent => .ok .splitPercent

/-- The action that a step asks for. A mode is looked at before the other arguments are. -/
def labelledAction (call : ActionCall) (step : Table) : Result Labelled := do
  let args ← arguments step
  if call = .setAttributes then attributesOf step args
  else
    let mode ← modeOf args
    call.signature.check args
    let action ← call.action args mode
    pure { action, label := argument args "label", id := argument args "node_id" }

/-- The branches that are opened by their name. -/
inductive BranchCall
  | onDigit | onIntent | onInput | onTimeout | onNoMatch | otherwise | onInvalidInput
  | onLowConfidence | onError | when | whenEquals | inHours | outOfHours | staffed | notStaffed
  | bucket
  deriving DecidableEq, Repr, Inhabited

namespace BranchCall

def all : List BranchCall :=
  [.onDigit, .onIntent, .onInput, .onTimeout, .onNoMatch, .otherwise, .onInvalidInput,
    .onLowConfidence, .onError, .when, .whenEquals, .inHours, .outOfHours, .staffed, .notStaffed,
    .bucket]

def name : BranchCall → String
  | .onDigit => "on_digit"
  | .onIntent => "on_intent"
  | .onInput => "on_input"
  | .onTimeout => "on_timeout"
  | .onNoMatch => "on_no_match"
  | .otherwise => "otherwise"
  | .onInvalidInput => "on_invalid_input"
  | .onLowConfidence => "on_low_confidence"
  | .onError => "on_error"
  | .when => "when"
  | .whenEquals => "when_equals"
  | .inHours => "in_hours"
  | .outOfHours => "out_of_hours"
  | .staffed => "staffed"
  | .notStaffed => "not_staffed"
  | .bucket => "bucket"

def ofName? (s : String) : Option BranchCall := all.find? (·.name == s)

/-- Whether the node of an offer has such branches at all. -/
def isOffered (offer : Offer) : BranchCall → Bool
  | .onError => true
  | .onDigit | .onIntent | .onInput | .onTimeout | .onNoMatch | .onInvalidInput
  | .onLowConfidence => match offer with
    | .input _ => true
    | _ => false
  | .when | .whenEquals => offer == .comparison
  | .otherwise => match offer with
    | .input _ | .comparison | .percent _ => true
    | _ => false
  | .inHours | .outOfHours => offer == .hours
  | .staffed | .notStaffed => offer == .staffing
  | .bucket => match offer with
    | .percent _ => true
    | _ => false

def signature : BranchCall → Signature
  | .onDigit => ⟨["digits"], []⟩
  | .onIntent => ⟨["intent"], []⟩
  | .onInput => ⟨[], ["digits", "intent"]⟩
  | .when => ⟨["operator", "value"], []⟩
  | .whenEquals => ⟨["value"], []⟩
  | .bucket => ⟨["percent"], []⟩
  | _ => {}

def branch (args : Table) : BranchCall → Branch
  | .onDigit => .digits (argument args "digits")
  | .onIntent => .intent (argument args "intent")
  | .onInput => .input (argument args "digits") (argument args "intent")
  | .onTimeout => .timeout
  | .onNoMatch => .noMatch
  | .otherwise => .otherwise
  | .onInvalidInput => .invalidInput
  | .onLowConfidence => .lowConfidence
  | .onError => .error
  | .when => .compare (argument args "operator") (argument args "value")
  | .whenEquals => .compare (.text "Equals") (argument args "value")
  | .inHours => .inHours
  | .outOfHours => .outOfHours
  | .staffed => .staffed
  | .notStaffed => .notStaffed
  | .bucket => .bucket (argument args "percent")

end BranchCall

/-- The branch that a call on the node of an offer asks for. -/
def branchOf (offer : Offer) (call : Table) : Result Branch := do
  let args ← argumentsBut callKeys call
  match (textAt? call "call").bind BranchCall.ofName? with
  | none => throw (.usage .notOffered)
  | some which =>
    if !which.isOffered offer then throw (.usage .notOffered)
    which.signature.check args
    pure (which.branch args)

end ContactFlow.Script
