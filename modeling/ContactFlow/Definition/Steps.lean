import ContactFlow.Definition.Input
import ContactFlow.Definition.Step

/-!
Reading steps. The data of a step is a table that names the type of the step. Its fields are read in
a fixed order: those of every step, the branches of an input, and then those of its own type. No
other fields are allowed.
-/

namespace ContactFlow

namespace StepType

def inputFields : List String :=
  ["digits", "intents", "inputs", "on_timeout", "on_no_match", "on_invalid_input",
    "on_low_confidence", "on_error"]

/-- The fields of a type besides those that every action has. -/
def ownFields : StepType → List String
  | .message => ["text", "ssml"]
  | .collect => inputFields ++ ["prompt", "mode", "max_digits", "timeout_seconds", "lex_bot",
      "max_attempts", "retry_prompt"]
  | .sequentialInput => inputFields ++ ["primary", "fallback", "fallback_triggers",
      "enable_fallback"]
  | .storeInput => ["prompt", "max_digits", "timeout_seconds", "encrypt"]
  | .invoke => ["function", "parameters", "timeout_seconds", "response_validation"]
  | .setAttributes => ["attributes"]
  | .checkAttribute => ["attribute", "namespace", "cases", "otherwise"]
  | .checkHours => ["hours", "in_hours", "out_of_hours"]
  | .checkStaffing => ["queue", "status", "staffed", "not_staffed"]
  | .getMetrics => ["queue"]
  | .splitPercent => ["buckets", "otherwise"]
  | .loop => ["times", "body"]
  | .hold => ["seconds"]
  | .transferToQueue => ["queue"]
  | .transferToFlow => ["flow"]
  | .transferToExternal => ["phone_number", "timeout_seconds", "caller_id"]
  | .disconnect | .finish | .resume => []
  | .jump => ["target"]

def fields (k : StepType) : List String :=
  ["id", "label", "type"] ++ match k with
    | .resume | .jump => k.ownFields
    | _ => "errors" :: k.ownFields

end StepType

namespace Step

/-- A reading of a list of steps. -/
abbrev Lists := Value → Checked (List Step)

/-- A reading of what is nested in a step: lists of steps, and the cases of an input. -/
structure Nested where
  steps : Lists
  case : Value → Checked (Branch × List Step)

abbrev Branches := List (Branch × List Step)

def branchesOf (kind : Branch) (steps : Option (List Step)) : Branches :=
  (steps.map fun steps => (kind, steps)).toList

/-- The branch under a field, if the field is there and not null. -/
def branchAt (steps : Lists) (t : Table) (name : String) (kind : Branch) : Checked Branches :=
  branchesOf kind <$> t.maybe name steps

def concat (parts : List (Checked Branches)) : Checked Branches :=
  List.flatten <$> Checked.each id parts

/-- The text that a scalar stands for, unless it is a whole number that cannot be written. -/
def displayed (s : Scalar) : Checked String :=
  if Value.scalarWritable s then .good s.display
  else .fault (.refused Numeral.unwritableMessage)

/-- The entries of a table with their keys as texts. Of several entries under one text the last
counts, in the place of the first. -/
def withTextKeys : Value → Checked Value
  | .table entries =>
    if entries.all fun (k, _) => Value.scalarWritable k then
      .good (.table (entries.foldl (fun t (k, v) => Table.set t (.text k.display) v) []))
    else .fault (.refused Numeral.unwritableMessage)
  | v => .good v

/-- Whole numbers and truth values stand for their text. -/
def digitsText : Value → Checked Value
  | .int n => Value.text <$> displayed (.int n)
  | .bool b => Value.text <$> displayed (.bool b)
  | v => .good v

/-- Numbers and truth values stand for their text. -/
def operandText : Value → Checked Value
  | .real x => Value.text <$> displayed (.real x)
  | v => digitsText v

def digits (v : Value) : Checked String := (digitsText v).andThen Read.text
def operand (v : Value) : Checked String := (operandText v).andThen Read.text

def someSteps (steps : Lists) (v : Value) : Checked (List Step) := (steps v).andThen Read.nonEmpty

def inputCase (steps : Lists) (t : Table) : Checked (Branch × List Step) :=
  ((fun digits intent steps => (.input (.orNull digits) (.orNull intent), steps)) <$>
    t.maybe "digits" digits <*>
    t.maybe "intent" Read.text <*>
    t.required "steps" (someSteps steps)) <* t.noOthers ["digits", "intent", "steps"]

def attributeCase (steps : Lists) (t : Table) : Checked (Branch × List Step) :=
  ((fun operator value steps => (.compare (.text operator) (.text value), steps)) <$>
    t.optional "operator" "Equals" Read.text <*>
    t.required "value" operand <*>
    t.required "steps" (someSteps steps)) <* t.noOthers ["operator", "value", "steps"]

def bucket (steps : Lists) (t : Table) : Checked (Branch × List Step) :=
  ((fun percent steps => (.bucket (.int percent), steps)) <$>
    t.required "percent" (Read.positiveUpTo 100) <*>
    t.required "steps" (someSteps steps)) <* t.noOthers ["percent", "steps"]

def inputBranches (nested : Nested) (t : Table) : Checked Branches :=
  concat [
    (·.map fun (digits, steps) => (.digits (.text digits), steps)) <$>
      t.optional "digits" [] fun v => (withTextKeys v).andThen (Read.tableOf nested.steps),
    (·.map fun (intent, steps) => (.intent (.text intent), steps)) <$>
      t.optional "intents" [] (Read.tableOf nested.steps),
    t.optional "inputs" [] (Read.list nested.case),
    branchAt nested.steps t "on_timeout" .timeout,
    branchAt nested.steps t "on_no_match" .noMatch,
    branchAt nested.steps t "on_invalid_input" .invalidInput,
    branchAt nested.steps t "on_low_confidence" .lowConfidence,
    branchAt nested.steps t "on_error" .error]

def earlyBranches (k : StepType) (nested : Nested) (t : Table) : Checked Branches :=
  match k with
  | .collect | .sequentialInput => inputBranches nested t
  | _ => .good []

/-- A message is played as it is, or spoken as its markup says. -/
def messageHead (t : Table) : Checked Head :=
  (fun text ssml => .action (.playPrompt (.orNull text) (.orNull ssml))) <$>
    t.maybe "text" Read.text <*> t.maybe "ssml" Read.text

def collectHead (t : Table) : Checked Head :=
  (fun prompt mode maxDigits timeoutSeconds lexBot maxAttempts retryPrompt =>
    .action (.collectInput
      { prompt := .text prompt, mode, maxDigits := .int maxDigits,
        timeoutSeconds := .int timeoutSeconds, lexBot := .orNull lexBot,
        maxAttempts := .int maxAttempts, retryPrompt := .orNull retryPrompt })) <$>
  t.required "prompt" Read.text <*>
  t.optional "mode" .keypad (Read.member InputMode.ofWire?) <*>
  t.optional "max_digits" 1 Read.positive <*>
  t.optional "timeout_seconds" 5 Read.positive <*>
  t.maybe "lex_bot" Read.text <*>
  t.optional "max_attempts" 1 Read.positive <*>
  t.maybe "retry_prompt" Read.text

def triggerNames (v : Value) : Checked (List String) :=
  (Read.list Read.text v).andThen fun names =>
    match Trigger.ofNames names with
    | .ok _ => .good names
    | .error name => .fault (.refused (Trigger.unknownMessage name))

def stagedHead (t : Table) : Checked Head :=
  Head.staged <$>
  t.required "primary" (Read.record PrimaryInput.ofTable) <*>
  t.maybe "fallback" (Read.record FallbackInput.ofTable) <*>
  t.optional "fallback_triggers" (InputSpec.defaultTriggers.map Trigger.label) triggerNames <*>
  t.optional "enable_fallback" true Read.truth

def entryHead (t : Table) : Checked Head :=
  (fun prompt maxDigits timeoutSeconds encrypt =>
    .action (.storeInput
      { prompt := .text prompt, maxDigits := .int maxDigits,
        timeoutSeconds := .int timeoutSeconds, encrypt })) <$>
  t.required "prompt" Read.text <*>
  t.optional "max_digits" 20 Read.positive <*>
  t.optional "timeout_seconds" 5 Read.positive <*>
  t.optional "encrypt" false Read.truth

def values (v : Value) : Checked Table :=
  (·.map fun (k, v) => (.text k, v)) <$> Read.tableOf Read.anything v

def invocationHead (t : Table) : Checked Head :=
  (fun function parameters timeoutSeconds responseValidation =>
    .action (.invokeExternal
      { function := .text function, parameters := .table parameters,
        timeoutSeconds := .int timeoutSeconds,
        responseValidation := .text responseValidation })) <$>
  t.required "function" Read.text <*>
  t.optional "parameters" [] values <*>
  t.optional "timeout_seconds" 8 (Read.positiveUpTo 8) <*>
  t.optional "response_validation" "STRING_MAP" (Read.oneOf ["STRING_MAP", "JSON"])

def attributesHead (t : Table) : Checked Head :=
  (fun attributes => .action (.setAttributes attributes)) <$>
    t.required "attributes" fun v => (values v).andThen Read.nonEmpty

def attributeCheckHead (t : Table) : Checked Head :=
  (fun name space => .action (.checkAttribute (.text name) (.text space))) <$>
  t.required "attribute" Read.text <*>
  t.optional "namespace" "Attributes" Read.text

def staffingHead (t : Table) : Checked Head :=
  (fun queue status => .action (.checkStaffing (.orNull queue) (.text status))) <$>
  t.maybe "queue" Read.text <*>
  t.optional "status" "Available" (Read.oneOf ["Available", "Staffed", "Online"])

def externalHead (t : Table) : Checked Head :=
  (fun phoneNumber timeoutSeconds callerId =>
    .action (.transferToExternal
      { phoneNumber := .text phoneNumber, timeoutSeconds := .int timeoutSeconds,
        callerId := .orNull callerId })) <$>
  t.required "phone_number" Read.text <*>
  t.optional "timeout_seconds" 30 Read.positive <*>
  t.maybe "caller_id" Read.text

def head (k : StepType) (t : Table) : Checked Head :=
  match k with
  | .message => messageHead t
  | .collect => collectHead t
  | .sequentialInput => stagedHead t
  | .storeInput => entryHead t
  | .invoke => invocationHead t
  | .setAttributes => attributesHead t
  | .checkAttribute => attributeCheckHead t
  | .checkHours => (fun hours => .action (.checkHours (.orNull hours))) <$>
      t.maybe "hours" Read.text
  | .checkStaffing => staffingHead t
  | .getMetrics => (fun queue => .action (.getMetrics (.orNull queue))) <$>
      t.maybe "queue" Read.text
  | .splitPercent => .good (.action .splitPercent)
  | .loop => (fun times => .action (.loop (.int times))) <$> t.required "times" Read.positive
  | .hold => (fun seconds => .action (.hold (.int seconds))) <$> t.required "seconds" Read.positive
  | .transferToQueue =>
    (fun queue => .action (.transferToQueue (.text queue))) <$> t.required "queue" Read.text
  | .transferToFlow =>
    (fun flow => .action (.transferToFlow (.text flow))) <$> t.required "flow" Read.text
  | .transferToExternal => externalHead t
  | .disconnect => .good (.action .disconnect)
  | .finish | .resume | .jump => .good (.action .endExecution)

def lateBranches (k : StepType) (steps : Lists) (t : Table) : Checked Branches :=
  match k with
  | .checkAttribute => concat [
      t.optional "cases" [] (Read.list (Read.record (attributeCase steps))),
      branchAt steps t "otherwise" .otherwise]
  | .checkHours => concat [
      branchAt steps t "in_hours" .inHours, branchAt steps t "out_of_hours" .outOfHours]
  | .checkStaffing => concat [
      branchAt steps t "staffed" .staffed, branchAt steps t "not_staffed" .notStaffed]
  | .splitPercent => concat [
      t.required "buckets" fun v =>
        (Read.list (Read.record (bucket steps)) v).andThen Read.nonEmpty,
      branchAt steps t "otherwise" .otherwise]
  | .loop => (fun body => [(.body, body)]) <$> t.required "body" (someSteps steps)
  | _ => .good []

def frame (t : Table) : Checked Frame :=
  Frame.mk <$> t.maybe "id" Read.text <*> t.maybe "label" Read.text

def named (k : StepType) (t : Table) : Checked String :=
  t.optional "type" k.tag (Read.oneOf [k.tag])

def actionOf (k : StepType) (nested : Nested) (t : Table) : Checked Step :=
  ((fun frame errors early _ head late => .action head frame (early ++ late) errors) <$>
    frame t <*>
    t.optional "errors" [] (Read.tableOf nested.steps) <*>
    earlyBranches k nested t <*>
    named k t <*>
    head k t <*>
    lateBranches k nested.steps t) <* t.noOthers k.fields

def hasOneBody : Value → Value → Bool
  | .null, .null => false
  | .null, _ | _, .null => true
  | _, _ => false

/-- A message has exactly one body. -/
def checkBody (s : Step) : Checked Step :=
  match s with
  | .action (.action (.playPrompt text ssml)) .. =>
    if hasOneBody text ssml then .good s
    else .fault (.refused "message step needs exactly one of 'text' or 'ssml'")
  | _ => .good s

/-- Reads the fields of a step of a type. -/
def ofTable (nested : Nested) (k : StepType) (t : Table) : Checked Step :=
  match k with
  | .resume => ((fun frame _ => .resume frame) <$> frame t <*> named k t) <* t.noOthers k.fields
  | .jump =>
    ((fun frame _ target => .jump target frame) <$>
      frame t <*> named k t <*> t.required "target" Read.text) <* t.noOthers k.fields
  | k => (actionOf k nested t).andThen checkBody

def typeOf : Value → Option StepType
  | .text s => StepType.ofTag? s
  | _ => none

/-- Reads a step of the type that its data names. -/
def ofValue (read : StepType → Table → Checked Step) : Value → Checked Step
  | .table t => match Table.get? t "type" with
    | none => .fault .noStepType
    | some type => match typeOf type with
      | none => .fault .unknownStepType
      | some k => (read k t).under (.name k.tag)
  | .cycle true => .fault .cycle
  | _ => .fault .notStep

/-- How many steps and cases of inputs may be nested in each other. -/
def maxDepth : Nat := 255

/-- Reads a list of steps, when so many steps and cases may still be nested in each other. -/
def listIn : Nat → Value → Checked (List Step)
  | 0, v => Read.list (ofValue fun _ _ => .fault .tooDeep) v
  | 1, v => Read.list (ofValue (ofTable ⟨listIn 0, fun _ => .fault .tooDeep⟩)) v
  | n + 2, v =>
    Read.list (ofValue (ofTable ⟨listIn (n + 1), Read.record (inputCase (listIn n))⟩)) v

/-- A reading of what is nested so many levels deep. -/
def nestedIn : Nat → Nested
  | 0 => ⟨listIn 0, fun _ => .fault .tooDeep⟩
  | n + 1 => ⟨listIn (n + 1), Read.record (inputCase (listIn n))⟩

theorem listIn_succ (n : Nat) : listIn (n + 1) = Read.list (ofValue (ofTable (nestedIn n))) := by
  funext v
  cases n <;> simp only [listIn, nestedIn]

/-- Reads a list of steps. -/
def listOf (v : Value) : Checked (List Step) := listIn maxDepth v

end Step

end ContactFlow
