/-!
Double-precision numbers, held as sign, significand and exponent, so that reading, comparing and
printing them is exact arithmetic on integers. A decimal numeral is read as the double nearest to
it.
-/

namespace ContactFlow

inductive Binary64
  | finite (negative : Bool) (significand : Nat) (exponent : Int)
  | infinite (negative : Bool)
  | nan
  deriving DecidableEq, Repr, Inhabited

namespace Binary64

/-- The exponent of the least positive double, and of every smaller significand than `2 ^ 52`. -/
def minExponent : Int := -1074
def maxExponent : Int := 971

/-- The quotient rounded to the nearest integer, a half going to the even one. -/
def roundDiv (num den : Nat) : Nat :=
  let q := num / den
  let r := num % den
  if den < 2 * r || (2 * r == den && q % 2 == 1) then q + 1 else q

/-- The fraction `num / den` divided by `2 ^ e`, again as a fraction. -/
def scaled (num den : Nat) (e : Int) : Nat × Nat :=
  if 0 ≤ e then (num, den <<< e.toNat) else (num <<< (-e).toNat, den)

/-- The exponent at which the fraction has a significand of 53 bits, or the least one there is. -/
def exponentOf (num den : Nat) : Int :=
  let guess : Int := (num.log2 : Int) - den.log2 - 52
  let (n, d) := scaled num den guess
  max minExponent (if n / d < 1 <<< 52 then guess - 1 else guess)

/-- The double nearest to `num / den`. -/
def ofRatio (negative : Bool) (num den : Nat) : Binary64 :=
  if num = 0 then .finite negative 0 minExponent
  else
    let e := exponentOf num den
    let (n, d) := scaled num den e
    let m := roundDiv n d
    let (m, e) := if m = 1 <<< 53 then (1 <<< 52, e + 1) else (m, e)
    if maxExponent < e then .infinite negative else .finite negative m e

/-- The double nearest to `digits * 10 ^ power`. -/
def ofDecimal (negative : Bool) (digits : Nat) (power : Int) : Binary64 :=
  if digits = 0 then .finite negative 0 minExponent
  else if 400 < power then .infinite negative
  else if power + (digits.log2 : Int) / 3 + 1 < -400 then .finite negative 0 minExponent
  else if 0 ≤ power then ofRatio negative (digits * Nat.pow 10 power.toNat) 1
  else ofRatio negative digits (Nat.pow 10 (-power).toNat)

/-- The double that a numeral with these digits before and after its point stands for. -/
def ofNumeral (negative : Bool) (whole fraction : List Char) (power : Int) : Binary64 :=
  let digits := (whole ++ fraction).foldl (fun n c => n * 10 + (c.toNat - '0'.toNat)) 0
  ofDecimal negative digits (power - fraction.length)

def ofInt (n : Int) : Binary64 := ofRatio (n < 0) n.natAbs 1

/-- The magnitude of `m * 2 ^ e` without its fraction. -/
def whole (m : Nat) (e : Int) : Nat :=
  if 0 ≤ e then m <<< e.toNat else m >>> (-e).toNat

/-- The number cut off toward zero, if it is finite. -/
def truncate? : Binary64 → Option Int
  | .finite negative m e => some (if negative then -(whole m e : Int) else whole m e)
  | _ => none

/-- The integer the number is equal to, if there is one. -/
def toInt? : Binary64 → Option Int
  | x@(.finite _ m e) => if 0 ≤ e || m % (1 <<< (-e).toNat) == 0 then x.truncate? else none
  | _ => none

/-- The value of a finite number as a fraction. -/
def toRatio : Binary64 → Int × Nat
  | .finite negative m e =>
    let n : Nat := if 0 ≤ e then m <<< e.toNat else m
    (if negative then -n else n, if 0 ≤ e then 1 else 1 <<< (-e).toNat)
  | _ => (0, 1)

/-- Whether a minus stands before the number. -/
def isNegative : Binary64 → Bool
  | .finite negative .. | .infinite negative => negative
  | .nan => false

def isZero : Binary64 → Bool
  | .finite _ m _ => m == 0
  | _ => false

def ofFraction (num : Int) (den : Nat) : Binary64 := ofRatio (num < 0) num.natAbs den

/-- The double nearest to the sum. Infinities of both signs have none. -/
def add (x y : Binary64) : Binary64 :=
  match x, y with
  | .nan, _ | _, .nan => .nan
  | .infinite n, .infinite n' => if n = n' then .infinite n else .nan
  | .infinite n, _ => .infinite n
  | _, .infinite n => .infinite n
  | x, y =>
    let (n, d) := x.toRatio
    let (n', d') := y.toRatio
    let sum := n * d' + n' * d
    ofRatio (if sum = 0 then x.isNegative && y.isNegative else sum < 0) sum.natAbs (d * d')

/-- The double nearest to the product. Zero times an infinity has none. -/
def mul (x y : Binary64) : Binary64 :=
  let negative := x.isNegative != y.isNegative
  match x, y with
  | .nan, _ | _, .nan => .nan
  | .infinite _, y => if y.isZero then .nan else .infinite negative
  | x, .infinite _ => if x.isZero then .nan else .infinite negative
  | x, y =>
    let (n, d) := x.toRatio
    let (n', d') := y.toRatio
    ofRatio negative (n * n').natAbs (d * d')

def neg : Binary64 → Binary64
  | .finite negative m e => .finite (!negative) m e
  | .infinite negative => .infinite (!negative)
  | .nan => .nan

def isFinite : Binary64 → Bool
  | .finite .. => true
  | _ => false

/-- Order of the numbers' values. A number that is not one is below nothing and above nothing. -/
def le : Binary64 → Binary64 → Bool
  | .nan, _ => false
  | _, .nan => false
  | .infinite n, .infinite n' => n || !n'
  | .infinite n, .finite .. => n
  | .finite .., .infinite n => !n
  | .finite n m e, .finite n' m' e' =>
    let low := min e e'
    let v : Int := Int.ofNat (m <<< (e - low).toNat)
    let v' : Int := Int.ofNat (m' <<< (e' - low).toNat)
    (if n then -v else v) ≤ (if n' then -v' else v')

end Binary64

end ContactFlow
