import UrlSigning.Decimal.Binary64

/-!
# Shortest decimal texts

The text of a number of double precision: the fewest decimal digits that read back as the number,
and of those the nearest to it. For one digit, two digits and so on the two neighbours of the number
on the grid of such decimals are tried, in exact arithmetic.
-/

namespace UrlSigning.Decimal

/-- A positive ratio of whole numbers. -/
structure Ratio where
  num : Nat
  den : Nat

/-- Whether the first ratio is less than the second. -/
def Ratio.lt (a b : Ratio) : Bool :=
  a.num * b.den < b.num * a.den

/-- The ratio `n · 2 ^ e`. -/
def Ratio.ofBinary (n : Nat) (e : Int) : Ratio :=
  if 0 ≤ e then ⟨n * Nat.pow 2 e.toNat, 1⟩ else ⟨n, Nat.pow 2 (-e).toNat⟩

/-- The ratio `n · 10 ^ e`. -/
def Ratio.ofDecimal (n : Nat) (e : Int) : Ratio :=
  if 0 ≤ e then ⟨n * Nat.pow 10 e.toNat, 1⟩ else ⟨n, Nat.pow 10 (-e).toNat⟩

/-- The least `k` with `r < 10 ^ k`, looked for from the estimate `k` upwards. -/
def magnitudeFrom (r : Ratio) (k : Int) : Nat → Int
  | 0 => k
  | fuel + 1 => if r.lt (Ratio.ofDecimal 1 k) then k else magnitudeFrom r (k + 1) fuel

/-- The place of the decimal point: `10 ^ (k - 1) ≤ r < 10 ^ k`. The estimate, three tenths of the
difference of the sizes in bits, lies below it by less than the fuel. -/
def magnitude (r : Ratio) : Int :=
  let bits : Int := (r.num.log2 : Int) - r.den.log2
  magnitudeFrom r ((bits - 1) * 30103 / 100000 - 1) 6

/-- The decimals that read back as one number: between two ends, which belong to them or not. -/
structure Interval where
  low : Ratio
  high : Ratio
  closed : Bool

def Interval.has (i : Interval) (r : Ratio) : Bool :=
  if i.closed then !r.lt i.low && !i.high.lt r else i.low.lt r && r.lt i.high

/-- The decimals that are rounded to `m · 2 ^ e`. Below a power of two the grid is twice as fine. -/
def intervalOf (m : Nat) (e : Int) : Interval :=
  let below := if m = Nat.pow 2 52 ∧ Binary64.leastExponent < e then 4 * m - 1 else 4 * m - 2
  ⟨Ratio.ofBinary below (e - 2), Ratio.ofBinary (4 * m + 2) (e - 2), m % 2 == 0⟩

/-- The neighbours of `r` on the grid of multiples of `10 ^ p` that lie in the interval, the nearer
one chosen. -/
def nearestOnGrid (r : Ratio) (i : Interval) (p : Int) : Option Nat :=
  let (num, den) :=
    if 0 ≤ p then (r.num, r.den * Nat.pow 10 p.toNat)
    else (r.num * Nat.pow 10 (-p).toNat, r.den)
  let floor := num / den
  let low := i.has (Ratio.ofDecimal floor p) && floor != 0
  let high := i.has (Ratio.ofDecimal (floor + 1) p)
  match low, high with
  | true, true => some (Binary64.divideRounded num den)
  | true, false => some floor
  | false, true => some (floor + 1)
  | false, false => none

/-- Tries the grids of `count` digits and more. -/
def shortestFrom (r : Ratio) (i : Interval) (k : Int) (count : Nat) : Nat → Nat × Int
  | 0 => (0, 0)
  | fuel + 1 =>
    match nearestOnGrid r i (k - count) with
    | some n => (n, k - count)
    | none => shortestFrom r i k (count + 1) fuel

/-- The shortest decimal `n · 10 ^ p` that reads back as `m · 2 ^ e`; seventeen digits suffice. -/
def shortest (m : Nat) (e : Int) : Nat × Int :=
  let r := Ratio.ofBinary m e
  shortestFrom r (intervalOf m e) (magnitude r) 1 17

/-- How decimals are laid out: the places of the point between which no exponent is written. -/
structure Layout where
  leastPoint : Int
  greatestPoint : Int

/-- From one ten-thousandth to below ten to the sixteenth there is no exponent. -/
def plainLayout : Layout := ⟨-3, 16⟩

/-- The digits without the zeros at their end. -/
def dropLastZeros (ds : List Char) : List Char :=
  (ds.reverse.dropWhile (· == '0')).reverse

/-- The digits `ds`, with the point after `point` of them. A whole number keeps one zero after the
point; an exponent has at least two digits and always a sign. -/
def Layout.render (l : Layout) (ds : List Char) (point : Int) : List Char :=
  if point < l.leastPoint ∨ l.greatestPoint < point then
    let power := point - 1
    let digits := Nat.toDigits 10 power.natAbs
    let tail := ds.drop 1
    ds.take 1 ++ (if tail.isEmpty then [] else '.' :: tail) ++ 'e' ::
      (if power < 0 then '-' else '+') ::
      (List.replicate (2 - digits.length) '0' ++ digits)
  else if point ≤ 0 then '0' :: '.' :: (List.replicate (-point).toNat '0' ++ ds)
  else
    let n := point.toNat
    let tail := ds.drop n
    ds.take n ++ List.replicate (n - ds.length) '0' ++ '.' ::
      (if tail.isEmpty then ['0'] else tail)

/-- The words for the numbers that have no digits. -/
structure Names where
  infinity : String
  nan : String

/-- The text of a number. -/
def text (names : Names) : Binary64 → String
  | .nan => names.nan
  | .infinite negative => (if negative then "-" else "") ++ names.infinity
  | .finite negative m e =>
    let body :=
      if m = 0 then ['0', '.', '0']
      else
        let (n, p) := shortest m e
        let ds := Nat.toDigits 10 n
        plainLayout.render (dropLastZeros ds) (ds.length + p)
    (if negative then "-" else "") ++ String.ofList body

/-- The words used in messages. -/
def messageNames : Names := ⟨"inf", "nan"⟩

end UrlSigning.Decimal
