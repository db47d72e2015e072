/-!
Levels of log records.
-/

namespace ContactFlow

inductive Level
  | debug | info | warning | error | critical
  deriving DecidableEq, Repr, Inhabited

namespace Level

def all : List Level := [.debug, .info, .warning, .error, .critical]

def name : Level → String
  | .debug => "DEBUG"
  | .info => "INFO"
  | .warning => "WARNING"
  | .error => "ERROR"
  | .critical => "CRITICAL"

def rank : Level → Nat
  | .debug => 10
  | .info => 20
  | .warning => 30
  | .error => 40
  | .critical => 50

def ofName? (s : String) : Option Level := all.find? (·.name == s)

end Level

/-- How high a record stands, or has to stand to count. At zero there is no level. -/
abbrev Threshold := Int

namespace Threshold

def ofLevel (level : Level) : Threshold := level.rank

def name (t : Threshold) : String :=
  if t = 0 then "NOTSET"
  else ((Level.all.find? fun level => ofLevel level = t).map Level.name).getD
    ("Level " ++ toString t)

/-- Reads a threshold. Two levels have a second name. -/
def ofName? (s : String) : Option Threshold :=
  if s = "NOTSET" then some 0
  else if s = "WARN" then some (ofLevel .warning)
  else if s = "FATAL" then some (ofLevel .critical)
  else (Level.ofName? s).map ofLevel

end Threshold

end ContactFlow
