import ContactFlow.Definition.Input
import ContactFlow.Graph

/-!
The actions that a flow is built of, with their arguments. A draft is the node an action asks for.
An action whose arguments do not make sense has none. Texts and amounts are values of any shape:
what is only passed on is never looked at, and a number is written as messages show it.
-/

namespace ContactFlow

namespace Value

/-- Whether the first of two numbers is below the second. -/
def isBelow (v : Value) (limit : Int) : Except UsageError Bool :=
  match v with
  | .scalar s => (s.less? (.int limit)).elim (.error (.mismatch .operand)) .ok
  | _ => .error (.mismatch .operand)

def isAbove (v : Value) (limit : Int) : Except UsageError Bool :=
  match v with
  | .scalar s => ((Scalar.int limit).less? s).elim (.error (.mismatch .operand)) .ok
  | _ => .error (.mismatch .operand)

/-- Whether a value is a number at all. -/
def isNotANumber (v : Value) : Bool :=
  match v with
  | .scalar (.real .nan) => true
  | _ => false

/-- The text that a value is written as, unless it holds a whole number that is too long. -/
def written (v : Value) : Except UsageError String :=
  if v.isWritable then .ok v.display else .error .longNumber

/-- The reference that a value is, or that it names. -/
def toReference (v : Value) (kind : ResourceKind) : Except UsageError Reference :=
  match v with
  | .reference r => .ok r
  | .text name => if Text.blank name then .error (.emptyReference kind) else .ok ⟨kind, name⟩
  | v => .error (if v.isTruthy then .mismatch .property else .emptyReference kind)

end Value

/-- The table that a value is, or that its members are the entries of. -/
def Table.ofArgument (v : Value) : Except UsageError Table :=
  (Table.ofData v).mapError fun
    | .entryLength index length => .entryLength index length
    | .mismatch e => .mismatch e
    | _ => .mismatch .operand

structure EntrySpec where
  prompt : Value
  maxDigits : Value := .int 20
  timeoutSeconds : Value := .int 5
  encrypt : Bool := false
  deriving Repr, Inhabited

structure Invocation where
  function : Value
  parameters : Value := .null
  timeoutSeconds : Value := .int 8
  responseValidation : Value := .text "STRING_MAP"
  deriving Repr, Inhabited

structure ExternalTransfer where
  phoneNumber : Value
  timeoutSeconds : Value := .int 30
  callerId : Value := .null
  deriving Repr, Inhabited

structure Collection where
  prompt : Value
  maxDigits : Value := .int 1
  timeoutSeconds : Value := .int 5
  mode : InputMode := .keypad
  lexBot : Value := .null
  maxAttempts : Value := .int 1
  retryPrompt : Value := .null
  deriving Repr, Inhabited

/-- An action. Texts and resources that may be left out are null then. -/
inductive Action
  | playPrompt (text ssml : Value)
  | storeInput (entry : EntrySpec)
  | invokeExternal (call : Invocation)
  | setAttributes (attributes : Table)
  | getMetrics (queue : Value)
  | hold (seconds : Value)
  | transferToQueue (queue : Value)
  | transferToFlow (flow : Value)
  | transferToExternal (transfer : ExternalTransfer)
  | disconnect
  | endExecution
  | collectInput (input : Collection)
  | collectSequential (spec : InputSpec)
  | checkAttribute (name space : Value)
  | checkHours (hours : Value)
  | checkStaffing (queue status : Value)
  | splitPercent
  | loop (times : Value)
  deriving Repr, Inhabited

/-- The branches that a node offers besides the one for errors. A split has so many percent given
out already. -/
inductive Offer
  | nothing
  | input (modes : List InputMode)
  | comparison
  | hours
  | staffing
  | percent (allocated : Scalar)
  deriving DecidableEq, Repr, Inhabited

/-- The node that is asked for. Faults of its retries are found once it is there. -/
structure Draft where
  kind : ActionKind
  hint : String
  parameters : Table
  mode : Option InputMode := none
  spec : Option InputSpec := none
  retry : Checked (Option RetrySpec) := .good none
  deriving Repr, Inhabited

namespace Draft

def key (k : String) (v : Value) : Scalar × Value := (.text k, v)
def textKey (k v : String) : Scalar × Value := key k (.text v)

def maximumLength (digits : String) : Scalar × Value :=
  key "InputValidation" (.record [("CustomValidation",
    .record [("MaximumLength", .text digits)])])

def lexBot (bot : Value) : Scalar × Value :=
  key "LexV2Bot" (.record [("AliasArn", bot)])

end Draft

namespace Action

open Draft

def kind : Action → ActionKind
  | .playPrompt .. => .message
  | .storeInput _ => .storeInput
  | .invokeExternal _ => .invokeExternal
  | .setAttributes _ => .setAttributes
  | .getMetrics _ => .getMetrics
  | .hold _ => .hold
  | .transferToQueue _ => .transferToQueue
  | .transferToFlow _ => .transferToFlow
  | .transferToExternal _ => .transferToExternal
  | .disconnect => .disconnect
  | .endExecution => .endExecution
  | .collectInput _ | .collectSequential _ => .collectInput
  | .checkAttribute .. => .checkAttribute
  | .checkHours _ => .checkHours
  | .checkStaffing .. => .checkStaffing
  | .splitPercent => .branch
  | .loop _ => .loop

def offer : Action → Offer
  | .collectInput input => .input [input.mode]
  | .collectSequential spec =>
    .input (spec.primary.mode ::
      (if spec.enableFallback then spec.fallback.toList.map (·.mode) else []))
  | .checkAttribute .. => .comparison
  | .checkHours _ => .hours
  | .checkStaffing .. => .staffing
  | .splitPercent => .percent (.int 0)
  | _ => .nothing

/-- Exactly one body is given. -/
def promptDraft : Value → Value → Except UsageError Draft
  | .null, .null => .error .promptBody
  | text, .null => .ok { kind := .message, hint := "message", parameters := [key "Text" text] }
  | .null, ssml => .ok { kind := .message, hint := "message", parameters := [key "SSML" ssml] }
  | _, _ => .error .promptBody

def entryDraft (e : EntrySpec) : Except UsageError Draft := do
  if ← e.maxDigits.isBelow 1 then throw .maxDigits
  let timeout ← e.timeoutSeconds.written
  let digits ← e.maxDigits.written
  let base := [key "Text" e.prompt, textKey "StoreInput" "True",
    textKey "InputTimeLimitSeconds" timeout, maximumLength digits]
  let encryption := key "InputEncryption" (.record [("EncryptionKeyId", .text "default")])
  pure { kind := .storeInput, hint := "store_input",
         parameters := if e.encrypt then base ++ [encryption] else base }

def invocationDraft (c : Invocation) : Except UsageError Draft := do
  if (← c.timeoutSeconds.isBelow 1) || c.timeoutSeconds.isNotANumber then throw .functionTimeout
  if ← c.timeoutSeconds.isAbove 8 then throw .functionTimeout
  let r ← c.function.toReference .externalFunction
  let base := [key "LambdaFunctionARN" (.reference r),
    textKey "InvocationTimeLimitSeconds" (← c.timeoutSeconds.written),
    textKey "InvocationType" "SYNCHRONOUS",
    key "ResponseValidation" (.record [("ResponseType", c.responseValidation)])]
  let parameters ← if c.parameters.isTruthy then
      (Table.ofArgument c.parameters).map fun t =>
        base ++ [key "LambdaInvocationAttributes" (.table t)]
    else pure base
  pure { kind := .invokeExternal, hint := "invoke_" ++ r.name, parameters }

/-- A parameter for a resource, if one is given. -/
def resourceKey (name : String) (kind : ResourceKind) (v : Value) : Except UsageError Table :=
  match v with
  | .null => .ok []
  | v => (v.toReference kind).map fun r => [key name (.reference r)]

def metricsDraft (queue : Value) : Except UsageError Draft :=
  (resourceKey "QueueId" .queue queue).map fun parameters =>
    { kind := .getMetrics, hint := "get_metrics", parameters }

def holdDraft (seconds : Value) : Except UsageError Draft := do
  if ← seconds.isBelow 1 then throw .holdTime
  pure { kind := .hold, hint := "hold",
         parameters := [textKey "TimeoutSeconds" (← seconds.written)] }

def transferDraft (kind : ActionKind) (resource : ResourceKind) (parameter : String)
    (name : Value) : Except UsageError Draft :=
  (name.toReference resource).map fun r =>
    { kind, hint := "transfer_" ++ r.name, parameters := [key parameter (.reference r)] }

def externalDraft (t : ExternalTransfer) : Except UsageError Draft := do
  if !t.phoneNumber.isTruthy then throw .noPhoneNumber
  let base := [key "ThirdPartyPhoneNumber" t.phoneNumber,
    textKey "ThirdPartyConnectionTimeLimitSeconds" (← t.timeoutSeconds.written),
    textKey "ContinueFlowExecution" "False"]
  let caller := if t.callerId.isTruthy then
    [key "CallerId" (.record [("Number", t.callerId)])] else []
  pure { kind := .transferToExternal, hint := "transfer_external", parameters := base ++ caller }

/-- How often an input is tried, if that is more than once. -/
def retries (c : Collection) : Except UsageError (Checked (Option RetrySpec)) := do
  if ← c.maxAttempts.isAbove 1 then
    pure (some <$> RetrySpec.ofTable
      [key "max_attempts" c.maxAttempts, key "retry_prompt" c.retryPrompt])
  else pure (.good none)

def collectionDraft (c : Collection) : Except UsageError Draft := do
  if ← c.maxAttempts.isBelow 1 then throw .maxAttempts
  if ← c.maxDigits.isBelow 1 then throw .maxDigits
  let base := [key "Text" c.prompt, textKey "StoreInput" "False",
    textKey "InputTimeLimitSeconds" (← c.timeoutSeconds.written)]
  let stage ← match c.mode with
    | .keypad => c.maxDigits.written.map fun digits => [maximumLength digits]
    | .speech => pure (if c.lexBot.isTruthy then [lexBot c.lexBot] else [])
  pure { kind := .collectInput, hint := "collect_input", parameters := base ++ stage,
         mode := some c.mode, retry := ← retries c }

def sequentialDraft (s : InputSpec) : Except UsageError Draft :=
  (Value.int s.primary.timeoutSeconds).written.map fun timeout =>
    { kind := .collectInput, hint := "sequential_input",
      parameters := [textKey "Text" s.primary.prompt, textKey "StoreInput" "False",
        textKey "InputTimeLimitSeconds" timeout],
      mode := some s.primary.mode, spec := some s }

def attributeDraft (name space : Value) : Except UsageError Draft := do
  if !name.isTruthy then throw .noAttributeName
  let name ← name.written
  let space ← space.written
  pure { kind := .checkAttribute, hint := "check_" ++ name,
         parameters := [textKey "ComparisonValue" ("$." ++ space ++ "." ++ name)] }

def hoursDraft (hours : Value) : Except UsageError Draft :=
  (resourceKey "Hours" .hoursOfOperation hours).map fun parameters =>
    { kind := .checkHours, hint := "check_hours", parameters }

def staffingDraft (queue status : Value) : Except UsageError Draft := do
  let _ ← status.asKey.mapError .mismatch
  match status with
  | .text s =>
    if !staffingMetrics.contains s then throw (.unknownStaffing s)
    let metric := textKey "MetricType" ("NumberOfAgents" ++ s)
    let queue ← resourceKey "QueueId" .queue queue
    pure { kind := .checkStaffing, hint := "check_staffing", parameters := metric :: queue }
  | status => throw (.unknownStaffing status.display)

def loopDraft (times : Value) : Except UsageError Draft := do
  if ← times.isBelow 1 then throw .loopTimes
  pure { kind := .loop, hint := "loop", parameters := [textKey "LoopCount" (← times.written)] }

/-- The node that an action asks for. -/
def draft : Action → Except UsageError Draft
  | .playPrompt text ssml => promptDraft text ssml
  | .storeInput entry => entryDraft entry
  | .invokeExternal call => invocationDraft call
  | .setAttributes attributes =>
    if attributes.isEmpty then .error .noAttributes
    else .ok { kind := .setAttributes, hint := "set_attributes",
               parameters := [key "Attributes" (.table attributes)] }
  | .getMetrics queue => metricsDraft queue
  | .hold seconds => holdDraft seconds
  | .transferToQueue queue => transferDraft .transferToQueue .queue "QueueId" queue
  | .transferToFlow flow => transferDraft .transferToFlow .flow "ContactFlowId" flow
  | .transferToExternal transfer => externalDraft transfer
  | .disconnect => .ok { kind := .disconnect, hint := "disconnect", parameters := [] }
  | .endExecution => .ok { kind := .endExecution, hint := "end", parameters := [] }
  | .collectInput input => collectionDraft input
  | .collectSequential spec => sequentialDraft spec
  | .checkAttribute name space => attributeDraft name space
  | .checkHours hours => hoursDraft hours
  | .checkStaffing queue status => staffingDraft queue status
  | .splitPercent => .ok { kind := .branch, hint := "split", parameters := [] }
  | .loop times => loopDraft times

end Action

end ContactFlow
