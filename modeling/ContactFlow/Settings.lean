import ContactFlow.Kind

/-!
Settings of the compiler.
-/

namespace ContactFlow

structure Settings where
  logLevel : String := "WARNING"
  flowVersion : String := "2019-10-30"
  reachabilitySeverity : Severity := .error
  terminalSeverity : Severity := .error
  disabledValidators : List String := []
  includeFingerprint : Bool := false
  deriving DecidableEq, Repr, Inhabited

namespace Settings

/-- The severity set for a validator, if there is a setting for it. -/
def severityFor (s : Settings) (validator : String) : Option Severity :=
  if validator = "reachability" then some s.reachabilitySeverity
  else if validator = "terminal-present" then some s.terminalSeverity
  else none

def withSeverity (s : Settings) (severity : Severity) : Settings :=
  { s with reachabilitySeverity := severity, terminalSeverity := severity }

/-- For interactive use: gaps in the structure of a flow are warnings. -/
def lenient : Settings := ({} : Settings).withSeverity .warning

end Settings

end ContactFlow
