/-!
# Character spans

A property of characters, given by the spans of code points that have it, and a map of characters,
given by the runs of code points that move by one distance. The tables of this folder are values of
these two types, so that a table is data and only the look-up is code.
-/

namespace UrlSigning.Text

/-- The code points from `first` to `last`, both included. -/
structure Span where
  first : Nat
  last : Nat
deriving DecidableEq, Repr

/-- Whether the code point of `c` lies in the span. -/
def Span.has (s : Span) (c : Char) : Bool :=
  s.first ≤ c.toNat && c.toNat ≤ s.last

/-- Whether one of the spans has `c`. -/
def inSpans (spans : List Span) (c : Char) : Bool :=
  spans.any (·.has c)

/-- Every `step`-th code point from `first` to `last` moves by `distance`. -/
structure Shift where
  first : Nat
  last : Nat
  step : Nat
  distance : Int
deriving DecidableEq, Repr

/-- Whether the run moves `c`. -/
def Shift.moves (s : Shift) (c : Char) : Bool :=
  s.first ≤ c.toNat && c.toNat ≤ s.last && (c.toNat - s.first) % s.step == 0

/-- The place to which the first run that moves `c` takes it; `c` itself when none does. -/
def shiftBy (shifts : List Shift) (c : Char) : Char :=
  match shifts.find? (·.moves c) with
  | some s => Char.ofNat (c.toNat + s.distance).toNat
  | none => c

end UrlSigning.Text
