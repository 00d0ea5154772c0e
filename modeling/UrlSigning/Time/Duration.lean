import UrlSigning.Decimal.Shortest
import UrlSigning.Time.Fault

/-!
# Lengths of time

A length of time counts microseconds, back or forth, over at most a thousand million days. Its
number of seconds is a number of double precision, so for long lengths it is a rounded one.
-/

namespace UrlSigning

/-- A length of time in microseconds. -/
structure Duration where
  micros : Int
  bounded : (micros / Time.day).natAbs ≤ 999999999
deriving DecidableEq, Repr

namespace Duration

open Time

def zero : Duration := ⟨0, by decide⟩

/-- The length of so many microseconds. -/
def ofMicros (micros : Int) : Except Fault Duration :=
  let days := micros / day
  if h : days.natAbs ≤ 999999999 then .ok ⟨micros, h⟩
  else if -2147483648 ≤ days ∧ days < 2147483648 then .error (.tooManyDays days)
  else .error .daysOverflow

/-- The length of so many seconds. -/
def ofSeconds (seconds : Int) : Except Fault Duration :=
  ofMicros (seconds * second)

/-- The whole days of the length, rounded down. -/
def days (d : Duration) : Int := d.micros / day

/-- The whole seconds beyond the days. -/
def secondOfDay (d : Duration) : Int := d.micros % day / second

/-- The microseconds beyond the seconds. -/
def microOfSecond (d : Duration) : Int := d.micros % second

/-- The number of seconds, to double precision. -/
def seconds (d : Duration) : Binary64 :=
  Binary64.ofIntRatio d.micros 1000000

/-- A number with zeros in front of it up to `width` digits. -/
def padLeft (width : Nat) (n : Nat) : String :=
  let ds := Nat.toDigits 10 n
  String.ofList (List.replicate (width - ds.length) '0' ++ ds)

/-- The length as days and a time of day, with the parts that are zero left out at both ends. -/
def text (d : Duration) : String :=
  let s := d.secondOfDay.toNat
  let micro := d.microOfSecond.toNat
  let unit := if d.days.natAbs = 1 then "day" else "days"
  (if d.days = 0 then "" else s!"{d.days} {unit}, ") ++
    s!"{s / 3600}:{padLeft 2 (s / 60 % 60)}:{padLeft 2 (s % 60)}" ++
    (if micro = 0 then "" else s!".{padLeft 6 micro}")

end Duration

end UrlSigning
