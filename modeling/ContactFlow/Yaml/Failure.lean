import ContactFlow.Decimal.Numeral
import ContactFlow.Text.Quoted

/-!
Why a YAML text has no value. Most texts without one are malformed. Others are well formed, but a
scalar in them is not of the kind that it is said to be of.
-/

namespace ContactFlow.Yaml

inductive Failure
  | malformed
  | code (n index : Nat)
  | version (digits index : Nat)
  | number (message : String)
  | noDigits
  | weight
  | truth (word : String)
  | noStamp
  | stampOfMapping
  | endless
  deriving DecidableEq, Repr

namespace Failure

/-- Codes from here on do not even fit a machine word. -/
def codeLimit : Nat := 2147483648

/-- A number is too large for what it should be held by. -/
def isOverflow : Failure → Bool
  | .code n _ => codeLimit ≤ n
  | .weight => true
  | _ => false

/-- Where the last character is that was looked at before a text turned out not to be readable on,
unless it was malformed. -/
def index? : Failure → Option Nat
  | .code _ index | .version _ index => some index
  | _ => none

/-- What a failure is reported as. Some have no text. -/
def message : Failure → String
  | .code n _ =>
    if n < codeLimit then "chr() arg not in range(0x110000)"
    else "Python int too large to convert to C int"
  | .version digits _ => Numeral.unreadableMessage digits
  | .number message => message
  | .weight => "int too large to convert to float"
  | .noDigits => "string index out of range"
  | .truth word => word
  | .endless => "maximum recursion depth exceeded"
  | .malformed | .noStamp | .stampOfMapping => ""

end Failure

end ContactFlow.Yaml
