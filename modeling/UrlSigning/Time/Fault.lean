import UrlSigning.Text.Quoted

/-!
# Faults of dates and times

What can be wrong with a date, a time of day, an offset or a length of time, and what is said of
it.
-/

namespace UrlSigning.Time

/-- Microseconds in a second. -/
abbrev second : Int := 1000000

/-- Microseconds in a day. -/
abbrev day : Int := 86400 * second

inductive Fault where
  /-- The text is no date and time. -/
  | unreadable (text : String)
  | year (year : Int)
  | month
  | dayOfMonth
  | hour
  | minute
  | second
  /-- The offset is a day or more, in microseconds. -/
  | offset (micros : Int)
  /-- The date lies before the first or after the last one of the calendar. -/
  | outOfCalendar
  /-- The number of days does not fit a machine word. -/
  | daysOverflow
  /-- The number of days has more than nine digits. -/
  | tooManyDays (days : Int)
  /-- A compact stamp whose year has fewer than four digits cannot be read again. -/
  | stamp (text : String)
deriving DecidableEq, Repr

/-- A length of time as its constructor shows it: the parts that are not zero, by name. -/
def describeLength (micros : Int) : String :=
  let parts : List (String × Int) :=
    [("days", micros / day), ("seconds", micros % day / second),
      ("microseconds", micros % second)]
  let shown := (parts.filter (·.2 != 0)).map fun p => s!"{p.1}={p.2}"
  "datetime.timedelta(" ++ (if shown.isEmpty then "0" else ", ".intercalate shown) ++ ")"

/-- The layout of the compact stamp, as messages name it. -/
def stampLayout : String := "%Y%m%dT%H%M%SZ"

def Fault.message : Fault → String
  | .unreadable text => s!"Invalid isoformat string: {Text.Quoted.text text}"
  | .year y => s!"year {y} is out of range"
  | .month => "month must be in 1..12"
  | .dayOfMonth => "day is out of range for month"
  | .hour => "hour must be in 0..23"
  | .minute => "minute must be in 0..59"
  | .second => "second must be in 0..59"
  | .offset micros =>
    "offset must be a timedelta strictly between -timedelta(hours=24) and timedelta(hours=24), " ++
      s!"not {describeLength micros}."
  | .outOfCalendar => "date value out of range"
  | .daysOverflow => "Python int too large to convert to C int"
  | .tooManyDays days => s!"days={days}; must have magnitude <= 999999999"
  | .stamp text =>
    s!"time data {Text.Quoted.text text} does not match format {Text.Quoted.text stampLayout}"

/-- Whether the fault is a number out of its range rather than a wrong value. -/
def Fault.isOverflow : Fault → Bool
  | .outOfCalendar | .daysOverflow | .tooManyDays _ => true
  | _ => false

end UrlSigning.Time
