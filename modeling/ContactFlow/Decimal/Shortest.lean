import ContactFlow.Decimal.Binary64

/-!
The shortest decimal of a double: the fewest digits that read back as it, and the nearest to it of
those. A `RealFormat` says how such digits are laid out.
-/

namespace ContactFlow.Decimal

def countDigits (n : Nat) : Nat := (Nat.toDigits 10 n).length

/-- The decimal exponent of the leading digit of `m * 2 ^ e`, for a positive significand. -/
def leading (m : Nat) (e : Int) : Int :=
  if 0 ≤ e then (countDigits (m <<< e.toNat) : Int) - 1
  else (countDigits ((m * Nat.pow 10 330) >>> (-e).toNat) : Int) - 331

/-- The distance down to the next double is halved below a power of two. In quarters of a unit of
the last place, this is the least value that rounds to the number, and `4 * m + 2` the greatest. -/
def lowerEnd (m : Nat) (e : Int) : Nat :=
  if m = 1 <<< 52 && Binary64.minExponent < e then 4 * m - 1 else 4 * m - 2

/-- The nearer of the two `count`-digit neighbours of `m * 2 ^ e` that read back as it. The result
stands for `digits * 10 ^ power`. -/
def nearest? (m : Nat) (e : Int) (count : Nat) : Option (Nat × Int) :=
  let power := leading m e - count + 1
  let grid := Nat.pow 10 power.toNat <<< (2 - e).toNat
  let unit := Nat.pow 10 (-power).toNat <<< (e - 2).toNat
  let value := 4 * m * unit
  let low := lowerEnd m e * unit
  let high := (4 * m + 2) * unit
  let inside (d : Nat) : Bool :=
    if m % 2 = 0 then low ≤ d * grid && d * grid ≤ high else low < d * grid && d * grid < high
  let below := value / grid
  let above := below + 1
  match inside below, inside above with
  | false, false => none
  | true, false => some (below, power)
  | false, true => some (above, power)
  | true, true =>
    let down := value - below * grid
    let up := above * grid - value
    if down < up || (down == up && below % 2 == 0) then some (below, power) else some (above, power)

def shortestFrom (m : Nat) (e : Int) : Nat → Nat → Nat × Int
  | 0, count => (nearest? m e count).getD (m, e)
  | more + 1, count => (nearest? m e count).getD (shortestFrom m e more (count + 1))

/-- The shortest digits of `m * 2 ^ e` and their power of ten. Seventeen always suffice. -/
def shortest (m : Nat) (e : Int) : Nat × Int := shortestFrom m e 16 1

end ContactFlow.Decimal

namespace ContactFlow

/-- Numbers whose leading digit stands between `10 ^ lowest` and `10 ^ highest` are written
positionally and keep at least one digit after the point. The others are written with an exponent,
which has a sign and at least `exponentWidth` digits. -/
structure RealFormat where
  lowest : Int
  highest : Int
  exponentWidth : Nat
  infinity : String
  notANumber : String

namespace RealFormat

def padLeft (width : Nat) (cs : List Char) : List Char :=
  List.replicate (width - cs.length) '0' ++ cs

def positional (ds : List Char) (point : Int) : List Char :=
  if point ≤ 0 then '0' :: '.' :: List.replicate (-point).toNat '0' ++ ds
  else if (ds.length : Int) ≤ point then
    ds ++ List.replicate (point.toNat - ds.length) '0' ++ ['.', '0']
  else ds.take point.toNat ++ '.' :: ds.drop point.toNat

def scientific (f : RealFormat) (ds : List Char) (exponent : Int) : List Char :=
  let mantissa := match ds with
    | d :: rest => if rest.isEmpty then [d] else d :: '.' :: rest
    | [] => []
  let sign := if exponent < 0 then '-' else '+'
  mantissa ++ 'e' :: sign :: padLeft f.exponentWidth (Nat.toDigits 10 exponent.natAbs)

def dropTrailingZeros (ds : List Char) : List Char := (ds.reverse.dropWhile (· == '0')).reverse

def magnitude (f : RealFormat) (m : Nat) (e : Int) : List Char :=
  if m = 0 then ['0', '.', '0']
  else
    let (digits, power) := Decimal.shortest m e
    let all := Nat.toDigits 10 digits
    let point : Int := all.length + power
    let ds := dropTrailingZeros all
    if f.lowest ≤ point - 1 && point - 1 ≤ f.highest then positional ds point
    else f.scientific ds (point - 1)

def render (f : RealFormat) : Binary64 → String
  | .finite negative m e => (if negative then "-" else "") ++ String.ofList (f.magnitude m e)
  | .infinite negative => (if negative then "-" else "") ++ f.infinity
  | .nan => f.notANumber

end RealFormat

end ContactFlow
