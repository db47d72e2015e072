import ContactFlow.Decimal.Binary64
import ContactFlow.Kind

/-!
How a node collects input: how often it tries again, and which two stages it goes through.
-/

namespace ContactFlow

/-- A node that tries again plays the prompt, if it has one, before every attempt but the first. -/
structure RetrySpec where
  maxAttempts : Int := 1
  retryPrompt : Option String := none
  retryOn : List ErrorKind := ErrorKind.retryable
  deriving DecidableEq, Repr, Inhabited

structure PrimaryInput where
  mode : InputMode := .speech
  prompt : String
  lexBot : Option String := none
  confidenceThreshold : Binary64
  maxDigits : Int := 1
  maxRetries : Int := 1
  timeoutSeconds : Int := 5
  deriving DecidableEq, Repr, Inhabited

/-- The second stage always takes keypad entries. -/
structure FallbackInput where
  prompt : String
  maxDigits : Int := 1
  maxRetries : Int := 1
  timeoutSeconds : Int := 5
  deriving DecidableEq, Repr, Inhabited

namespace FallbackInput

def mode (_ : FallbackInput) : InputMode := .keypad

end FallbackInput

structure InputSpec where
  primary : PrimaryInput
  fallback : Option FallbackInput := none
  triggers : List Trigger := [.timeout, .noMatch]
  enableFallback : Bool := true
  deriving DecidableEq, Repr, Inhabited

inductive SpecError
  | noFallback
  | sameMode (mode : InputMode)
  deriving DecidableEq, Repr

namespace SpecError

def message : SpecError → String
  | .noFallback => "enable_fallback requires a fallback input"
  | .sameMode mode =>
    "Primary and fallback inputs must use different modes (both are " ++ mode.wire ++ ")"

end SpecError

namespace InputSpec

/-- An enabled fallback is there and takes input in another mode. -/
def check (s : InputSpec) : Except SpecError Unit :=
  if s.enableFallback then
    match s.fallback with
    | none => .error .noFallback
    | some f => if s.primary.mode = f.mode then .error (.sameMode f.mode) else .ok ()
  else .ok ()

def Valid (s : InputSpec) : Prop := s.check = .ok ()

end InputSpec

end ContactFlow
