import ContactFlow.Definition.File
import ContactFlow.Value.Plain

/-!
Listings: the data of a definition with every field written out, those that were left out included.
-/

namespace ContactFlow

namespace Listing

def texts (items : List String) : Value := .list (items.map .text)

def named {α : Type} (list : α → Value) (entries : List (String × α)) : Value :=
  .record (entries.map fun (k, a) => (k, list a))

def addresses (entries : List (String × String)) : Value := named .text entries

end Listing

open Listing

def PrimaryInput.listing (p : PrimaryInput) : Value :=
  .record [("mode", .text p.mode.wire), ("prompt", .text p.prompt), ("lex_bot", .orNull p.lexBot),
    ("confidence_threshold", .real p.confidenceThreshold), ("max_digits", .int p.maxDigits),
    ("max_retries", .int p.maxRetries), ("timeout_seconds", .int p.timeoutSeconds)]

def FallbackInput.listing (f : FallbackInput) : Value :=
  .record [("mode", .text f.mode.wire), ("prompt", .text f.prompt),
    ("max_digits", .int f.maxDigits), ("max_retries", .int f.maxRetries),
    ("timeout_seconds", .int f.timeoutSeconds)]

def InputSpec.listing (s : InputSpec) : Value :=
  .record [("primary", s.primary.listing),
    ("fallback", s.fallback.elim .null FallbackInput.listing),
    ("fallback_triggers", texts ((Trigger.normalize s.triggers).map Trigger.name)),
    ("enable_fallback", .bool s.enableFallback)]

def RetrySpec.listing (r : RetrySpec) : Value :=
  .record [("max_attempts", .int r.maxAttempts), ("retry_prompt", .orNull r.retryPrompt),
    ("retry_on", texts ((r.retryOn.map ErrorKind.name).mergeSort (· ≤ ·)))]

def Settings.listing (s : Settings) : Value :=
  .record [("log_level", .text s.logLevel), ("flow_version", .text s.flowVersion),
    ("reachability_severity", .text s.reachabilitySeverity.wire),
    ("terminal_severity", .text s.terminalSeverity.wire),
    ("disabled_validators", texts s.disabledValidators),
    ("include_fingerprint", .bool s.includeFingerprint)]

def Resources.listing (r : Resources) : Value :=
  .record [("queues", addresses r.queues), ("functions", addresses r.functions),
    ("flows", addresses r.flows), ("hours", addresses r.hours)]

namespace Action

/-- The fields of an action itself, without its branches. -/
def listing : Action → List (String × Value)
  | .playPrompt text ssml => [("text", text), ("ssml", ssml)]
  | .storeInput e => [("prompt", e.prompt), ("max_digits", e.maxDigits),
      ("timeout_seconds", e.timeoutSeconds), ("encrypt", .bool e.encrypt)]
  | .invokeExternal c => [("function", c.function), ("parameters", c.parameters),
      ("timeout_seconds", c.timeoutSeconds), ("response_validation", c.responseValidation)]
  | .setAttributes attributes => [("attributes", .table attributes)]
  | .getMetrics queue => [("queue", queue)]
  | .hold seconds => [("seconds", seconds)]
  | .transferToQueue queue => [("queue", queue)]
  | .transferToFlow flow => [("flow", flow)]
  | .transferToExternal t => [("phone_number", t.phoneNumber),
      ("timeout_seconds", t.timeoutSeconds), ("caller_id", t.callerId)]
  | .disconnect | .endExecution | .splitPercent => []
  | .collectInput c => [("prompt", c.prompt), ("mode", .text c.mode.wire),
      ("max_digits", c.maxDigits), ("timeout_seconds", c.timeoutSeconds), ("lex_bot", c.lexBot),
      ("max_attempts", c.maxAttempts), ("retry_prompt", c.retryPrompt)]
  | .collectSequential spec => [("spec", spec.listing)]
  | .checkAttribute name space => [("attribute", name), ("namespace", space)]
  | .checkHours hours => [("hours", hours)]
  | .checkStaffing queue status => [("queue", queue), ("status", status)]
  | .loop times => [("times", times)]

end Action

def Head.listing : Head → List (String × Value)
  | .action a => a.listing
  | .staged primary fallback triggers enableFallback =>
    [("primary", primary.listing), ("fallback", fallback.elim .null FallbackInput.listing),
      ("fallback_triggers", texts triggers), ("enable_fallback", .bool enableFallback)]

namespace Branch

/-- A branch with the listing of its steps, as a member of a list of cases. -/
def listing (steps : Value) : Branch → Value
  | .input keys spoken =>
    .record [("digits", keys), ("intent", spoken), ("steps", steps)]
  | .compare operator operand =>
    .record [("operator", operator), ("value", operand), ("steps", steps)]
  | .bucket percent => .record [("percent", percent), ("steps", steps)]
  | _ => steps

/-- The field that a branch of its own stands under. -/
def field? : Branch → Option String
  | .timeout => some "on_timeout"
  | .noMatch => some "on_no_match"
  | .invalidInput => some "on_invalid_input"
  | .lowConfidence => some "on_low_confidence"
  | .error => some "on_error"
  | .otherwise => some "otherwise"
  | .inHours => some "in_hours"
  | .outOfHours => some "out_of_hours"
  | .staffed => some "staffed"
  | .notStaffed => some "not_staffed"
  | .body => some "body"
  | _ => none

/-- The branch that stands under a field of its own. -/
def ofField? (name : String) : Option Branch :=
  [timeout, noMatch, invalidInput, lowConfidence, error, otherwise, inHours, outOfHours, staffed,
    notStaffed, body].find? (·.field? == some name)

end Branch

namespace Step

/-- The branches of a step, each with the listing of its steps. -/
abbrev ListedBranches := List (Branch × Value)

def own (branches : ListedBranches) (field : String) : String × Value :=
  (field, ((branches.find? fun b => b.1.field? == some field).map (·.2)).getD .null)

def digitsField (branches : ListedBranches) : String × Value :=
  ("digits", .record (branches.filterMap fun
    | (.digits digits, steps) => some (digits.display, steps)
    | _ => none))

def intentsField (branches : ListedBranches) : String × Value :=
  ("intents", .record (branches.filterMap fun
    | (.intent intent, steps) => some (intent.display, steps)
    | _ => none))

def casesField (field : String) (branches : ListedBranches) : String × Value :=
  (field, .list (branches.filterMap fun (b, steps) =>
    match b with
    | .input .. | .compare .. | .bucket _ => some (b.listing steps)
    | _ => none))

/-- The fields that hold the branches of a step of a type. -/
def branchFields (k : StepType) (branches : ListedBranches) : List (String × Value) :=
  match k with
  | .collect | .sequentialInput =>
    [digitsField branches, intentsField branches, casesField "inputs" branches] ++
      ["on_timeout", "on_no_match", "on_invalid_input", "on_low_confidence", "on_error"].map
        (own branches)
  | .checkAttribute => [casesField "cases" branches, own branches "otherwise"]
  | .checkHours => [own branches "in_hours", own branches "out_of_hours"]
  | .checkStaffing => [own branches "staffed", own branches "not_staffed"]
  | .splitPercent => [casesField "buckets" branches, own branches "otherwise"]
  | .loop => [own branches "body"]
  | _ => []

def frameFields (k : StepType) (f : Frame) : List (String × Value) :=
  [("type", .text k.tag), ("id", .orNull f.id), ("label", .orNull f.label)]

mutual

def listing : Step → Value
  | .action head frame branches errors =>
    .record (frameFields head.type frame ++ [("errors", .table (listErrors errors))] ++
      head.listing ++ branchFields head.type (listBranches branches))
  | .resume frame => .record (frameFields .resume frame)
  | .jump target frame => .record (frameFields .jump frame ++ [("target", .text target)])

def listSteps : List Step → List Value
  | [] => []
  | s :: rest => listing s :: listSteps rest

def listBranches : List (Branch × List Step) → ListedBranches
  | [] => []
  | (b, steps) :: rest => (b, .list (listSteps steps)) :: listBranches rest

def listErrors : List (String × List Step) → List (Scalar × Value)
  | [] => []
  | (name, steps) :: rest => (.text name, .list (listSteps steps)) :: listErrors rest

end

end Step

/-- How many values stand inside each other in the arguments of an action. -/
def Head.levels : Head → Nat
  | .action (.invokeExternal c) => match c.parameters with
    | .table entries => Value.tableLevels entries
    | _ => 0
  | .action (.setAttributes attributes) => Value.tableLevels attributes
  | _ => 0

namespace Step

mutual

/-- How many steps, cases of inputs and values stand inside each other. -/
def levels : Step → Nat
  | .action head _ branches errors =>
    max head.levels (max (branchLevels branches) (errorLevels errors)) + 1
  | .resume _ | .jump .. => 1

def listLevels : List Step → Nat
  | [] => 0
  | s :: rest => max (levels s) (listLevels rest)

def branchLevels : List (Branch × List Step) → Nat
  | [] => 0
  | (.input .., steps) :: rest => max (listLevels steps + 1) (branchLevels rest)
  | (_, steps) :: rest => max (listLevels steps) (branchLevels rest)

def errorLevels : List (String × List Step) → Nat
  | [] => 0
  | (_, steps) :: rest => max (listLevels steps) (errorLevels rest)

end

end Step

namespace Listing

/-- The plain data of a listing, unless what is listed is nested too deeply. -/
def plain (levels : Nat) (listing : Value) : Except PlainError Value :=
  if Step.maxDepth < levels then .error .tooDeep else listing.toPlain

end Listing

def FlowDefinition.levels (f : FlowDefinition) : Nat := Step.listLevels f.steps

def FlowDefinition.listing (f : FlowDefinition) : Value :=
  .record [("description", .text f.description), ("steps", .list (Step.listSteps f.steps))]

def Definition.listing (d : Definition) : Value :=
  .record [("version", .text d.version), ("settings", d.settings.listing),
    ("resources", d.resources.listing), ("flows", named FlowDefinition.listing d.flows)]

def Definition.levels (d : Definition) : Nat :=
  d.flows.foldl (fun n (_, f) => max n f.levels) 0

/-- The plain data of a definition, with every field written out. -/
def Definition.toPlain (d : Definition) : Except PlainError Value := plain d.levels d.listing

end ContactFlow
