import ContactFlow.Decimal.Shortest
import ContactFlow.Text.Quoted
import ContactFlow.Value

/-!
Values as messages show them. On its own a text stands as it is, and inside a list or a table it is
quoted.
-/

namespace ContactFlow

/-- Numbers are positional from a ten-thousandth up to sixteen digits. -/
def Value.reals : RealFormat := ⟨-4, 15, 2, "inf", "nan"⟩

namespace Stamp

def padded (width n : Nat) : String :=
  String.ofList (RealFormat.padLeft width (Nat.toDigits 10 n))

def dayText (y m d : Nat) : String := padded 4 y ++ "-" ++ padded 2 m ++ "-" ++ padded 2 d

def offsetText (seconds : Int) : String :=
  let n := seconds.natAbs
  (if seconds < 0 then "-" else "+") ++ padded 2 (n / 3600) ++ ":" ++ padded 2 (n / 60 % 60)

def display : Stamp → String
  | .day y m d => dayText y m d
  | .moment y m d h min s micro offset =>
    dayText y m d ++ " " ++ padded 2 h ++ ":" ++ padded 2 min ++ ":" ++ padded 2 s ++
      (if micro = 0 then "" else "." ++ padded 6 micro) ++ (offset.map offsetText).getD ""

/-- A span of time, in whole days and the seconds left. -/
def spanText (seconds : Int) : String :=
  let days := seconds.fdiv 86400
  let rest := seconds.fmod 86400
  let parts := (if days = 0 then [] else ["days=" ++ toString days]) ++
    (if rest = 0 then [] else ["seconds=" ++ toString rest])
  "datetime.timedelta(" ++ (if parts.isEmpty then "0" else ", ".intercalate parts) ++ ")"

def zoneText (seconds : Int) : String :=
  if seconds = 0 then "datetime.timezone.utc"
  else "datetime.timezone(" ++ spanText seconds ++ ")"

def inner : Stamp → String
  | .day y m d => "datetime.date(" ++ ", ".intercalate ([y, m, d].map toString) ++ ")"
  | .moment y m d h min s micro offset =>
    let tail := if micro ≠ 0 then [s, micro] else if s ≠ 0 then [s] else []
    let parts := ([y, m, d, h, min] ++ tail).map toString ++
      (offset.map fun o => "tzinfo=" ++ zoneText o).toList
    "datetime.datetime(" ++ ", ".intercalate parts ++ ")"

end Stamp

/-- A scalar inside a list or a table. -/
def Scalar.inner : Scalar → String
  | .null => "None"
  | .bool b => if b then "True" else "False"
  | .int n => toString n
  | .real x => Value.reals.render x
  | .text s => Text.quoted s
  | .stamp t => t.inner
  | .bytes bs => Text.quotedBytes bs

/-- A scalar on its own. -/
def Scalar.display : Scalar → String
  | .text s => s
  | .stamp t => t.display
  | s => s.inner

def Reference.inner (r : Reference) : String :=
  "PendingReference(kind=<ReferenceKind." ++ r.kind.constant ++ ": " ++ Text.quoted r.kind.wire ++
    ">, name=" ++ Text.quoted r.name ++ ")"

namespace Value

mutual

def inner : Value → String
  | .scalar s => s.inner
  | .list items => "[" ++ ", ".intercalate (innerList items) ++ "]"
  | .table entries => "\x7b" ++ ", ".intercalate (innerTable entries) ++ "\x7d"
  | .reference r => r.inner
  | .bundle .tuple items => Text.parenthesized (innerList items)
  | .bundle .set [] => "set()"
  | .bundle .set items => "\x7b" ++ ", ".intercalate (innerList items) ++ "\x7d"
  | .cycle ofTable => if ofTable then "\x7b...\x7d" else "[...]"

def innerList : List Value → List String
  | [] => []
  | v :: rest => inner v :: innerList rest

def innerTable : List (Scalar × Value) → List String
  | [] => []
  | (k, v) :: rest => (k.inner ++ ": " ++ inner v) :: innerTable rest

end

def display : Value → String
  | .scalar s => s.display
  | .reference r => r.render
  | v => v.inner

end Value

end ContactFlow
