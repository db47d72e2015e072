import ContactFlow.Text.Blank

/-!
References to resources by name. A flow names queues, functions, other flows and hours of operation
before their addresses are known. Written out, a reference is a placeholder of the form kind, colon
and name between double braces.
-/

namespace ContactFlow

inductive ResourceKind
  | queue | externalFunction | flow | hoursOfOperation
  deriving DecidableEq, Repr, Inhabited

namespace ResourceKind

def all : List ResourceKind := [.queue, .externalFunction, .flow, .hoursOfOperation]

def wire : ResourceKind → String
  | .queue => "Queue"
  | .externalFunction => "ExternalFunction"
  | .flow => "Flow"
  | .hoursOfOperation => "HoursOfOperation"

def constant : ResourceKind → String
  | .queue => "QUEUE"
  | .externalFunction => "EXTERNAL_FUNCTION"
  | .flow => "FLOW"
  | .hoursOfOperation => "HOURS_OF_OPERATION"

def ofWire? (s : String) : Option ResourceKind := all.find? (·.wire == s)

end ResourceKind

structure Reference where
  kind : ResourceKind
  name : String
  deriving DecidableEq, Repr, Inhabited

namespace Reference

/-- The placeholder for a reference. -/
def render (r : Reference) : String := "\x7b\x7b" ++ r.kind.wire ++ ":" ++ r.name ++ "\x7d\x7d"

def isLetter (c : Char) : Bool := ('A' ≤ c && c ≤ 'Z') || ('a' ≤ c && c ≤ 'z')
def isPlain (c : Char) : Bool := c != '{' && c != '}'

/-- A kind in letters, a colon, a name without braces and the closing braces. -/
def parseBody (cs : List Char) : Option Reference :=
  match cs.dropWhile isLetter with
  | ':' :: rest =>
    let name := rest.takeWhile isPlain
    if name ≠ [] ∧ rest.dropWhile isPlain = ['}', '}'] then
      (ResourceKind.ofWire? (String.ofList (cs.takeWhile isLetter))).map (⟨·, String.ofList name⟩)
    else none
  | _ => none

/-- Reads a placeholder. White space around it does not count. -/
def parse (s : String) : Option Reference :=
  match Text.trim Text.isBlank s.toList with
  | '{' :: '{' :: body => parseBody body
  | _ => none

end Reference

end ContactFlow
