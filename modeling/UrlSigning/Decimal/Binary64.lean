/-!
# Binary64 numbers

The numbers of double precision, held exactly: a sign, a whole number of at most fifty-three bits,
and the power of two that it counts. A ratio of whole numbers is rounded to the nearest of them, of
two equally near to the one whose whole number is even.
-/

namespace UrlSigning

/-- A number of double precision: `finite neg m e` is `m · 2 ^ e`, negated if `neg`. -/
inductive Binary64 where
  | finite (negative : Bool) (mantissa : Nat) (exponent : Int)
  | infinite (negative : Bool)
  | nan
deriving DecidableEq, Repr

namespace Binary64

/-- The least exponent. -/
def leastExponent : Int := -1074

/-- The greatest exponent. -/
def greatestExponent : Int := 971

/-- The whole number nearest to `num / den`; a half goes to the even neighbour. -/
def divideRounded (num den : Nat) : Nat :=
  let q := num / den
  let twice := 2 * (num % den)
  if twice < den then q
  else if den < twice then q + 1
  else if q % 2 = 0 then q else q + 1

/-- The ratio `num / den` counted in units of `2 ^ e`, as a ratio of whole numbers. -/
def inUnits (e : Int) (num den : Nat) : Nat × Nat :=
  if 0 ≤ e then (num, den * Nat.pow 2 e.toNat) else (num * Nat.pow 2 (-e).toNat, den)

/-- The exponent at which `num / den` has fifty-three bits, or the least one. -/
def exponentFor (num den : Nat) : Int :=
  let e := (num.log2 : Int) - den.log2 - 52
  let (p, q) := inUnits e num den
  max leastExponent (if p < q * Nat.pow 2 52 then e - 1 else e)

/-- The number nearest to `num / den`, with a sign; `den` is not zero. -/
def ofRatio (negative : Bool) (num den : Nat) : Binary64 :=
  if num = 0 then finite negative 0 leastExponent
  else
    let e := exponentFor num den
    let (p, q) := inUnits e num den
    let m := divideRounded p q
    let (m, e) := if m = Nat.pow 2 53 then (Nat.pow 2 52, e + 1) else (m, e)
    if greatestExponent < e then infinite negative else finite negative m e

/-- The number nearest to the ratio of a whole number and a positive one. -/
def ofIntRatio (num : Int) (den : Nat) : Binary64 :=
  ofRatio (num < 0) num.natAbs den

/-- The number nearest to `digits · 10 ^ power`. Powers far outside the range of the numbers are
not computed. -/
def ofDecimal (negative : Bool) (digits : Nat) (power : Int) : Binary64 :=
  let size : Int := (Nat.toDigits 10 digits).length + power
  if digits = 0 || size < -400 then finite negative 0 leastExponent
  else if 400 < size then infinite negative
  else if 0 ≤ power then ofRatio negative (digits * Nat.pow 10 power.toNat) 1
  else ofRatio negative digits (Nat.pow 10 (-power).toNat)

/-- The whole part of a finite number, cut toward zero. -/
def truncate? : Binary64 → Option Int
  | finite negative m e =>
    let n := if 0 ≤ e then m * Nat.pow 2 e.toNat else m / Nat.pow 2 (-e).toNat
    some (if negative then -(n : Int) else n)
  | _ => none

/-- Whether the number is a whole one. -/
def isWhole : Binary64 → Bool
  | finite _ m e => 0 ≤ e || m % Nat.pow 2 (-e).toNat == 0
  | _ => false

/-- Whether the number is greater than zero. -/
def isPositive : Binary64 → Bool
  | finite negative m _ => !negative && m != 0
  | infinite negative => !negative
  | nan => false

/-- Whether the number is zero, of either sign. -/
def isZero : Binary64 → Bool
  | finite _ m _ => m == 0
  | _ => false

end Binary64

end UrlSigning
