import ContactFlow.Kind
import ContactFlow.Reference
import ContactFlow.Value.Display

/-!
Members of the kinds that have a fixed number of them, given by values of any shape. A value that
names no member is told as it stands inside a list.
-/

namespace ContactFlow.Value

/-- The member that a value names, or the message about one that names none. -/
def asMember {α : Type} (ofText? : String → Option α) (kind : String) (v : Value) :
    Except String α :=
  match v with
  | .text s => match ofText? s with
    | some member => .ok member
    | none => .error (Text.quoted s ++ " is not a valid " ++ kind)
  | v => .error (v.inner ++ " is not a valid " ++ kind)

def asSeverity (v : Value) : Except String Severity := v.asMember Severity.ofWire? "Severity"
def asMode (v : Value) : Except String InputMode := v.asMember InputMode.ofWire? "InputMode"

def asResourceKind (v : Value) : Except String ResourceKind :=
  v.asMember ResourceKind.ofWire? "ReferenceKind"

end ContactFlow.Value
