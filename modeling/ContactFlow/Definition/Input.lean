import ContactFlow.Definition.Field
import ContactFlow.Ordered
import ContactFlow.Spec
import ContactFlow.Usage

/-!
Reading how a node collects input: the two stages, and the tries that are made.
-/

namespace ContactFlow

def defaultConfidence : Binary64 := .ofDecimal false 6 (-1)

def PrimaryInput.ofTable (t : Table) : Checked PrimaryInput :=
  (fun mode prompt lexBot confidenceThreshold maxDigits maxRetries timeoutSeconds =>
    { mode, prompt, lexBot, confidenceThreshold, maxDigits, maxRetries, timeoutSeconds }) <$>
  t.optional "mode" .speech (Read.member InputMode.ofWire?) <*>
  t.required "prompt" Read.text <*>
  t.maybe "lex_bot" Read.text <*>
  t.optional "confidence_threshold" defaultConfidence Read.share <*>
  t.optional "max_digits" 1 Read.positive <*>
  t.optional "max_retries" 1 Read.positive <*>
  t.optional "timeout_seconds" 5 Read.positive

def FallbackInput.ofTable (t : Table) : Checked FallbackInput :=
  (fun _ prompt maxDigits maxRetries timeoutSeconds =>
    { prompt, maxDigits, maxRetries, timeoutSeconds }) <$>
  t.optional "mode" "" (Read.oneOf [InputMode.keypad.wire]) <*>
  t.required "prompt" Read.text <*>
  t.optional "max_digits" 1 Read.positive <*>
  t.optional "max_retries" 1 Read.positive <*>
  t.optional "timeout_seconds" 5 Read.positive

namespace InputSpec

/-- The specification itself, unless its stages do not go together. -/
def checked (s : InputSpec) : Checked InputSpec :=
  match s.check with
  | .ok _ => .good s
  | .error e => .fault (.refused e.message)

/-- Reads everything but the triggers, which are given. -/
def ofTable (triggers : List Trigger) (t : Table) : Checked InputSpec :=
  ((fun primary fallback enableFallback => { primary, fallback, triggers, enableFallback }) <$>
    t.required "primary" (Read.record PrimaryInput.ofTable) <*>
    t.maybe "fallback" (Read.record FallbackInput.ofTable) <*>
    t.optional "enable_fallback" true Read.truth).andThen checked

def defaultTriggers : List Trigger := [.timeout, .noMatch]

end InputSpec

/-- Why data of unknown shape gives no input specification. -/
inductive InputDataError
  | mismatch (e : Mismatch)
  | entryLength (index length : Nat)
  | unknownTrigger (name : String)
  | invalid (faults : List Fault)
  deriving DecidableEq, Repr

def RetrySpec.ofTable (t : Table) : Checked RetrySpec :=
  (fun maxAttempts retryPrompt retryOn =>
    { maxAttempts, retryPrompt, retryOn := Ordered.distinct retryOn }) <$>
  t.optional "max_attempts" 1 Read.positive <*>
  t.maybe "retry_prompt" Read.text <*>
  t.optional "retry_on" ErrorKind.retryable (Read.set (Read.member ErrorKind.ofWire?))

namespace Trigger

def unknownMessage (name : String) : String :=
  "Unknown fallback trigger '" ++ name ++ "'. Available: " ++ Text.quotedList (all.map label)

end Trigger

namespace InputDataError

def message : InputDataError → String
  | .mismatch _ => ""
  | .entryLength index length => UsageError.entryLengthMessage index length
  | .unknownTrigger name => Trigger.unknownMessage name
  | .invalid _ => ""

end InputDataError

/-- One entry, given as a pair of its key and its value. -/
def Table.pairAt (index : Nat) (v : Value) : Except InputDataError (Scalar × Value) := do
  match ← (v.members).mapError .mismatch with
  | [key, value] => pure (← key.asKey.mapError .mismatch, value)
  | members => throw (.entryLength index members.length)

/-- A table, given as such or as a list of pairs. -/
def Table.ofData : Value → Except InputDataError Table
  | .table entries => .ok entries
  | v => do
    let pairs ← v.members.mapError .mismatch
    let pairs ← (pairs.zipIdx).mapM fun (pair, index) => pairAt index pair
    pure (Table.union [] pairs)

/-- The triggers that the members of a value name. -/
def Trigger.ofData (v : Value) : Except InputDataError (List Trigger) := do
  let members ← v.members.mapError .mismatch
  members.foldlM (fun found member => do
    let name ← member.asText.mapError .mismatch
    match ofName? name with
    | some more => pure (normalize (found ++ more))
    | none => throw (.unknownTrigger name)) []

namespace InputSpec

/-- Reads a specification from data of any shape, the triggers first. -/
def ofData (v : Value) : Except InputDataError InputSpec := do
  let t ← Table.ofData v
  let triggers ← match t.get? "fallback_triggers" with
    | some names => Trigger.ofData names
    | none => pure defaultTriggers
  match ofTable triggers t with
  | .good spec => pure spec
  | .bad faults => throw (.invalid faults)

end InputSpec

end ContactFlow
