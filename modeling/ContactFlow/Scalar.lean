import ContactFlow.Decimal.Binary64

/-!
Single values: the leaves of a document, and the keys of its tables.
-/

namespace ContactFlow

/-- A day, or a moment of a day with its distance from universal time in seconds. -/
inductive Stamp
  | day (year month day : Nat)
  | moment (year month day hour minute second micro : Nat) (offset : Option Int)
  deriving DecidableEq, Repr, Inhabited

namespace Stamp

/-- Days in the calendar, counted from a fixed one on. The year is taken to start in March. -/
def dayNumber (y m d : Nat) : Int :=
  let y : Int := if m ≤ 2 then y - 1 else y
  365 * y + y / 4 - y / 100 + y / 400 + (((m + 9) % 12 * 306 + 5) / 10 + d : Nat)

/-- The point in time, in millionths of a second, of a moment whose distance from universal time is
known. -/
def instant? : Stamp → Option Int
  | .moment y m d h min s micro (some offset) =>
    let seconds := dayNumber y m d * 86400 + (h * 3600 + min * 60 + s : Nat)
    some ((seconds - offset) * 1000000 + micro)
  | _ => none

end Stamp

inductive Scalar
  | null
  | bool (b : Bool)
  | int (n : Int)
  | real (x : Binary64)
  | text (s : String)
  | stamp (t : Stamp)
  | bytes (bs : List UInt8)
  deriving DecidableEq, Repr, Inhabited

namespace Scalar

/-- The number a scalar counts as. A truth value counts as one or zero. -/
def number? : Scalar → Option Binary64
  | .bool b => some (.ofInt (if b then 1 else 0))
  | .int n => some (.ofInt n)
  | .real x => some x
  | _ => none

def integer? : Scalar → Option Int
  | .bool b => some (if b then 1 else 0)
  | .int n => some n
  | .real x => x.toInt?
  | _ => none

def instant? : Scalar → Option Int
  | .stamp t => t.instant?
  | _ => none

/-- Two keys address one entry when they are equal, or equal as numbers or as points in time. -/
def sameKey (a b : Scalar) : Bool :=
  match a.integer?, b.integer? with
  | some m, some n => m == n
  | _, _ => match a.instant?, b.instant? with
    | some t, some u => t == u
    | _, _ => a == b

end Scalar

end ContactFlow
