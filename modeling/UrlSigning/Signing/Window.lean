import UrlSigning.Time.DateTime

/-!
# Windows of validity

A signed URL is valid from an instant on, for at most a week. The instant is told by a clock whose
offset is known, so that it is one instant everywhere.
-/

namespace UrlSigning.Signing

/-- The longest time for which a signed URL is valid. -/
def longest : Duration := ⟨7 * Time.day, by decide⟩

/-- When a signed URL becomes valid, and for how long. -/
structure Window where
  start : DateTime
  length : Duration
  aware : start.isAware = true
  positive : 0 < length.micros
  short : length.micros ≤ longest.micros
deriving DecidableEq, Repr

namespace Window

inductive Fault where
  | noOffset
  | notPositive (length : Duration)
  | tooLong (length : Duration)
deriving DecidableEq, Repr

def Fault.message : Fault → String
  | .noOffset => "start_time must be timezone-aware"
  | .notPositive d => s!"expires must be positive, got {d.text}"
  | .tooLong d => s!"expires must be at most {longest.text}, got {d.text}"

/-- The window of a start and a length, each of them checked. -/
def make (start : DateTime) (length : Duration) : Except Fault Window :=
  if aware : start.isAware = true then
    if positive : 0 < length.micros then
      if short : length.micros ≤ longest.micros then
        .ok ⟨start, length, aware, positive, short⟩
      else .error (.tooLong length)
    else .error (.notPositive length)
  else .error .noOffset

/-- The end of the window, on the clock of its start. -/
def finish (w : Window) : Except Time.Fault DateTime :=
  w.start.add w.length

end Window

end UrlSigning.Signing
