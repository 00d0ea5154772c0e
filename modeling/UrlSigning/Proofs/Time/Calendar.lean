import Mathlib.Algebra.Ring.Nat
import UrlSigning.Proofs.Checked
import UrlSigning.Time.DateTime

/-!
# Dates of the calendar

The date found for a day of the calendar passes the checks of a date, and a date and time of day is
put together again from its parts. Parts that pass their checks never lead out of the calendar.
-/

namespace UrlSigning.Time

/-! ## Dates -/

/-- The month found for a day of the year is one of those looked through, and the day is one of that
month's. -/
theorem monthAndDay_bounds {lengths : List Nat} (month : Nat) {rest : Nat}
    (h : rest < lengths.sum) :
    ∃ i < lengths.length, (monthAndDay month rest lengths).1 = month + i ∧
      1 ≤ (monthAndDay month rest lengths).2 ∧
      (monthAndDay month rest lengths).2 ≤ lengths.getD i 0 := by
  induction lengths generalizing month rest with
  | nil => cases h
  | cons length lengths ih =>
      rw [monthAndDay]
      split
      · next hrest =>
          refine ⟨0, Nat.succ_pos _, rfl, Nat.succ_pos rest, ?_⟩
          rw [List.getD_cons_zero]
          exact hrest
      · next hrest =>
          -- the days of this month are passed over
          have hleft : rest - length < lengths.sum := by
            rw [List.sum_cons] at h
            omega
          obtain ⟨i, hi, hmonth, hday⟩ := ih (month + 1) hleft
          refine ⟨i + 1, Nat.succ_lt_succ hi, by rw [hmonth]; omega, ?_⟩
          rw [List.getD_cons_succ]
          exact hday

theorem sum_monthLengths (leap : Bool) : (monthLengths leap).sum = yearLength leap := by
  cases leap <;> rfl

theorem year_bounds {n : Nat} (h : n < calendarDays) :
    1 ≤ (yearAndDay n).1 ∧ (yearAndDay n).1 ≤ 9999 := by
  unfold calendarDays at h
  unfold yearAndDay
  dsimp only
  omega

/-- The date is one of the calendar. -/
structure Date.IsValid (d : Date) : Prop where
  year : 1 ≤ d.year ∧ d.year ≤ 9999
  month : 1 ≤ d.month ∧ d.month ≤ 12
  day : 1 ≤ d.day ∧ d.day ≤ daysInMonth d.year d.month

theorem Date.IsValid.check {d : Date} (h : d.IsValid) :
    Date.check d.year d.month d.day = .ok d := by
  obtain ⟨hyear, hmonth, hday⟩ := h
  unfold Date.check
  rw [if_neg (by omega), if_neg (by omega), if_neg (by omega)]

theorem Date.IsValid.day_le {d : Date} (h : d.IsValid) : d.day ≤ 31 := by
  have hmost : ∀ leap : Bool, ∀ i < 12, (monthLengths leap).getD i 0 ≤ 31 := by decide
  have hmonth := h.month
  exact Nat.le_trans h.day.2 (hmost _ _ (by omega))

/-- The date of a day of the calendar is one of the calendar. -/
theorem isValid_ofDayNumber {n : Nat} (h : n < calendarDays) : (Date.ofDayNumber n).IsValid := by
  have hday := (daysBeforeYear_yearAndDay n).2
  rw [← sum_monthLengths] at hday
  obtain ⟨i, hi, hmonth, hleast, hmost⟩ := monthAndDay_bounds 1 hday
  have hlength : (monthLengths (isLeap (yearAndDay n).1)).length = 12 := rfl
  have hfound : (Date.ofDayNumber n).month = 1 + i := hmonth
  refine ⟨year_bounds h, by omega, hleast, ?_⟩
  rw [daysInMonth, hfound, Nat.add_sub_cancel_left]
  exact hmost

/-! ### Checked dates -/

theorem isValid_of_check {year month dayOfMonth : Nat} {d : Date}
    (h : Date.check year month dayOfMonth = .ok d) : d.IsValid := by
  unfold Date.check at h
  split at h
  · cases h
  · split at h
    · cases h
    · split at h
      · cases h
      · cases h
        exact ⟨by dsimp only; omega, by dsimp only; omega, by dsimp only; omega⟩

theorem isOverflow_of_check {year month dayOfMonth : Nat} {fault : Fault}
    (h : Date.check year month dayOfMonth = .error fault) : fault.isOverflow = false := by
  unfold Date.check at h
  split at h
  · cases h
    rfl
  · split at h
    · cases h
      rfl
    · split at h <;> cases h
      rfl

theorem daysBeforeYear_add_le {year : Nat} (h : year ≤ 9999) :
    daysBeforeYear year + yearLength (isLeap year) ≤ calendarDays := by
  by_cases hlast : year = 9999
  · subst hlast
    decide
  · have hlength : yearLength (isLeap year) ≤ 366 := by
      unfold yearLength
      split <;> decide
    unfold daysBeforeYear calendarDays
    dsimp only
    omega

/-- A date of the calendar is counted before its end. -/
theorem Date.IsValid.dayNumber_lt {d : Date} (h : d.IsValid) : d.dayNumber < calendarDays := by
  have hmonths : ∀ leap : Bool, ∀ i < 12,
      daysBeforeMonth leap (i + 1) + (monthLengths leap).getD i 0 ≤ yearLength leap := by
    decide
  obtain ⟨hyear, hmonth, hday⟩ := h
  have hsum := hmonths (isLeap d.year) (d.month - 1) (by omega)
  rw [Nat.sub_add_cancel hmonth.1] at hsum
  have hend := daysBeforeYear_add_le hyear.2
  rw [daysInMonth] at hday
  rw [dayNumber]
  omega

end Time

namespace DateTime

open Time

variable (d : DateTime)

theorem isValid_date : d.date.IsValid := by
  apply isValid_ofDayNumber
  have h := d.inCalendar
  simp only [calendarEnd, calendarDays, day, Time.second] at h ⊢
  omega

/-- The clock counts whole days, then whole seconds, and then microseconds. -/
theorem clock_eq :
    d.clock = d.date.dayNumber * day + ((d.hour * 60 + d.minute) * 60 + d.second : Nat) *
      Time.second + d.micro := by
  have h := d.inCalendar.1
  rw [date, dayNumber_ofDayNumber]
  unfold hour minute DateTime.second micro secondOfDay timeOfDay
  simp only [day, Time.second]
  omega

theorem hour_le : d.hour ≤ 23 := by
  unfold hour secondOfDay timeOfDay
  simp only [day, Time.second]
  omega

theorem minute_le : d.minute ≤ 59 := by
  unfold minute
  omega

theorem second_le : d.second ≤ 59 := by
  unfold DateTime.second
  omega

/-- The parts of a date and time of day make it again, with other parts of a second and on another
clock if need be. -/
theorem ofParts_eq (micro : Nat) (offset : Option Offset) :
    ofParts d.date.year d.date.month d.date.day d.hour d.minute d.second micro offset =
      ofClock (d.clock - d.micro + micro) offset := by
  have hhour := d.hour_le
  have hminute := d.minute_le
  have hsecond := d.second_le
  have hclock : d.date.dayNumber * day + ((d.hour * 60 + d.minute) * 60 + d.second) * Time.second +
      micro = d.clock - d.micro + micro := by
    have h := d.clock_eq
    push_cast at h
    omega
  unfold ofParts
  rw [d.isValid_date.check]
  show (if 23 < d.hour then _ else if 59 < d.minute then _ else if 59 < d.second then _ else _) = _
  rw [if_neg (by omega), if_neg (by omega), if_neg (by omega), ← hclock]

/-- Parts of which the microseconds are less than a second are refused by one of the checks, and
are never found to lie outside of the calendar. -/
theorem isOverflow_of_ofParts {year month dayOfMonth hour minute second micro : Nat}
    {offset : Option Offset} {fault : Fault} (hmicro : micro < 1000000)
    (h : ofParts year month dayOfMonth hour minute second micro offset = .error fault) :
    fault.isOverflow = false := by
  rcases bind_eq_error.mp h with h | ⟨date, hdate, h⟩
  · exact isOverflow_of_check h
  · have hdays := (isValid_of_check hdate).dayNumber_lt
    by_cases hhour : 23 < hour
    · rw [if_pos hhour] at h
      cases h
      rfl
    rw [if_neg hhour] at h
    by_cases hminute : 59 < minute
    · rw [if_pos hminute] at h
      cases h
      rfl
    rw [if_neg hminute] at h
    by_cases hsecond : 59 < second
    · rw [if_pos hsecond] at h
      cases h
      rfl
    rw [if_neg hsecond, ofClock, dif_pos] at h
    · cases h
    · simp only [calendarEnd, calendarDays, day, Time.second] at hdays ⊢
      omega

/-! ## Instants -/

variable {d} {e : DateTime} {micros : Int} {offset : Option Offset}

/-- In universal time, a clock with an offset shows the instant itself. -/
theorem toUtc_eq (haware : d.isAware = true) : d.toUtc = ofClock d.instant (some .zero) := by
  have hknown : ¬(d.offset.isNone = true ∧ d.clock < day) := by
    rw [isAware, Option.isSome_iff_ne_none] at haware
    simp [haware]
  rw [toUtc, if_neg hknown]

end DateTime

end UrlSigning
