import UrlSigning.Time.Fault

/-!
# The calendar

Dates of the years 1 to 9999 in the calendar with leap years, counted from day zero, the first of
January of the year 1. `dayNumber` counts the days up to a date and `ofDayNumber` finds the date;
`dayNumber_ofDayNumber` says that the date found is the one counted to.
-/

namespace UrlSigning.Time

/-- A year, a month and a day of the month. -/
structure Date where
  year : Nat
  month : Nat
  day : Nat
deriving DecidableEq, Repr

/-- Whether the year has a twenty-ninth of February. -/
def isLeap (year : Nat) : Bool :=
  year % 4 == 0 && (year % 100 != 0 || year % 400 == 0)

/-- The days of the months of a year. -/
def monthLengths (leap : Bool) : List Nat :=
  [31, if leap then 29 else 28, 31, 30, 31, 30, 31, 31, 30, 31, 30, 31]

/-- The days of a month. -/
def daysInMonth (year month : Nat) : Nat :=
  (monthLengths (isLeap year)).getD (month - 1) 0

/-- The days of the years before a year. -/
def daysBeforeYear (year : Nat) : Nat :=
  let y := year - 1
  365 * y + y / 4 - y / 100 + y / 400

/-- The days of a year before a month. -/
def daysBeforeMonth (leap : Bool) (month : Nat) : Nat :=
  ((monthLengths leap).take (month - 1)).foldl (· + ·) 0

/-- The number of a date. -/
def Date.dayNumber (d : Date) : Nat :=
  daysBeforeYear d.year + daysBeforeMonth (isLeap d.year) d.month + (d.day - 1)

/-- The number of days that the calendar has. -/
def calendarDays : Nat := 3652059

/-- The month and the day of the month for a day of the year: the months that end before it are
passed over. -/
def monthAndDay (month rest : Nat) : List Nat → Nat × Nat
  | [] => (month, rest + 1)
  | length :: lengths =>
    if rest < length then (month, rest + 1) else monthAndDay (month + 1) (rest - length) lengths

/-- The year and the day of the year for a day number: whole spans of 400, 100, 4 and 1 years are
taken off, where the last day of a span of 4 or 400 years belongs to its last year. -/
def yearAndDay (n : Nat) : Nat × Nat :=
  let n400 := n / 146097
  let r400 := n % 146097
  let n100 := min (r400 / 36524) 3
  let r100 := r400 - 36524 * n100
  let n4 := r100 / 1461
  let r4 := r100 % 1461
  let n1 := min (r4 / 365) 3
  (400 * n400 + 100 * n100 + 4 * n4 + n1 + 1, r4 - 365 * n1)

/-- The date of a day number. -/
def Date.ofDayNumber (n : Nat) : Date :=
  let (year, rest) := yearAndDay n
  let (month, day) := monthAndDay 1 rest (monthLengths (isLeap year))
  ⟨year, month, day⟩

/-- The days of a year. -/
def yearLength (leap : Bool) : Nat := if leap then 366 else 365

set_option maxRecDepth 20000 in
/-- The month and day found for a day of the year are the ones counted to. -/
theorem daysBeforeMonth_monthAndDay : ∀ leap : Bool, ∀ r < yearLength leap,
    daysBeforeMonth leap (monthAndDay 1 r (monthLengths leap)).1 +
      ((monthAndDay 1 r (monthLengths leap)).2 - 1) = r := by
  decide

/-- The days before a year that is so many spans of 400, 100, 4 and 1 years from the first. -/
theorem daysBeforeYear_spans (a b c d : Nat) (hb : b ≤ 3) (hc : c ≤ 24) (hd : d ≤ 3) :
    daysBeforeYear (400 * a + 100 * b + 4 * c + d + 1) =
      146097 * a + 36524 * b + 1461 * c + 365 * d := by
  unfold daysBeforeYear
  have h4 : (400 * a + 100 * b + 4 * c + d) / 4 = 100 * a + 25 * b + c := by omega
  have h100 : (400 * a + 100 * b + 4 * c + d) / 100 = 4 * a + b := by omega
  have h400 : (400 * a + 100 * b + 4 * c + d) / 400 = a := by omega
  simp only [Nat.add_sub_cancel, h4, h100, h400]
  omega

/-- The year and day of the year found for a day number are the ones counted to, and the day lies
in the year. -/
theorem daysBeforeYear_yearAndDay (n : Nat) :
    daysBeforeYear (yearAndDay n).1 + (yearAndDay n).2 = n ∧
      (yearAndDay n).2 < yearLength (isLeap (yearAndDay n).1) := by
  unfold yearAndDay
  simp only []
  constructor
  · rw [daysBeforeYear_spans] <;> omega
  · unfold yearLength isLeap
    split <;> simp_all <;> omega

/-- The date found for a day number is the one counted to. -/
theorem dayNumber_ofDayNumber (n : Nat) : (Date.ofDayNumber n).dayNumber = n := by
  have h := daysBeforeYear_yearAndDay n
  have m := daysBeforeMonth_monthAndDay _ _ h.2
  unfold Date.ofDayNumber Date.dayNumber
  simp only []
  omega

/-- The day of the week, Monday being zero. -/
def weekday (dayNumber : Nat) : Nat := dayNumber % 7

/-- Checks the parts of a date. -/
def Date.check (year month day : Nat) : Except Fault Date :=
  if year < 1 ∨ 9999 < year then .error (.year year)
  else if month < 1 ∨ 12 < month then .error .month
  else if day < 1 ∨ daysInMonth year month < day then .error .dayOfMonth
  else .ok ⟨year, month, day⟩

/-- The number of weeks of a year that is counted in weeks: a year has one more when it begins on a
Thursday, or on a Wednesday and is a leap year. -/
def weeksInYear (year : Nat) : Nat :=
  let first := weekday (daysBeforeYear year)
  if first = 3 || (first = 2 && isLeap year) then 53 else 52

/-- The number of the day of a week of a year. The first week is the one with the year's first
Thursday; the calendar begins on a Monday, so it holds all of the first week of its first year. -/
def dayOfWeekDate (year week dayOfWeek : Nat) : Nat :=
  let first := daysBeforeYear year
  let shift := weekday first
  let monday := first + (if 3 < shift then 7 else 0) - shift
  monday + (week - 1) * 7 + (dayOfWeek - 1)

end UrlSigning.Time
