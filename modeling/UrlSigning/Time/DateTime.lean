import UrlSigning.Time.Calendar
import UrlSigning.Time.Duration

/-!
# Dates with a time of day

A date and time of day is the number of microseconds that clocks on the spot have counted since the
calendar began, and the offset of those clocks from universal time, if it is known. Two of them
denote the same instant when they agree in universal time, whatever their offsets.
-/

namespace UrlSigning

open Time

/-- The microseconds that the calendar has. -/
def Time.calendarEnd : Int := calendarDays * day

/-- How far a clock is ahead of universal time: less than a day, either way. -/
structure Offset where
  micros : Int
  bounded : -day < micros ∧ micros < day
deriving DecidableEq, Repr

/-- Universal time itself. -/
def Offset.zero : Offset := ⟨0, by decide⟩

/-- The offset of so many microseconds. -/
def Offset.ofMicros (micros : Int) : Except Fault Offset :=
  if h : -day < micros ∧ micros < day then .ok ⟨micros, h⟩ else .error (.offset micros)

/-- A date and time of day, with the clock's offset or without one. -/
structure DateTime where
  clock : Int
  offset : Option Offset
  inCalendar : 0 ≤ clock ∧ clock < calendarEnd
deriving DecidableEq, Repr

namespace DateTime

/-- The local time of so many microseconds. -/
def ofClock (micros : Int) (offset : Option Offset) : Except Fault DateTime :=
  if h : 0 ≤ micros ∧ micros < calendarEnd then .ok ⟨micros, offset, h⟩
  else .error .outOfCalendar

/-- Whether the clock's offset is known. -/
def isAware (d : DateTime) : Bool := d.offset.isSome

/-- The local time moved by a length of time. -/
def add (d : DateTime) (length : Duration) : Except Fault DateTime :=
  ofClock (d.clock + length.micros) d.offset

/-- The microseconds of universal time since the calendar began; a clock without an offset shows
universal time. -/
def instant (d : DateTime) : Int :=
  d.clock - (d.offset.getD .zero).micros

/-- The same instant on a clock of universal time. A clock without an offset is looked up as a
local time, for which the day before has to be in the calendar. -/
def toUtc (d : DateTime) : Except Fault DateTime :=
  if d.offset.isNone ∧ d.clock < day then .error (.year 0)
  else ofClock d.instant (some .zero)

/-- The same local time, said to be universal time if no offset is known. -/
def assumeUtc (d : DateTime) : DateTime :=
  { d with offset := some (d.offset.getD .zero) }

/-- The date. -/
def date (d : DateTime) : Date :=
  .ofDayNumber (d.clock / day).toNat

/-- The microseconds of the day. -/
def timeOfDay (d : DateTime) : Nat :=
  (d.clock % day).toNat

/-- The whole seconds of the day. -/
def secondOfDay (d : DateTime) : Nat := d.timeOfDay / 1000000

def hour (d : DateTime) : Nat := d.secondOfDay / 3600

def minute (d : DateTime) : Nat := d.secondOfDay / 60 % 60

def second (d : DateTime) : Nat := d.secondOfDay % 60

def micro (d : DateTime) : Nat := d.timeOfDay % 1000000

/-- The date and time of day with these parts, each of them checked. -/
def ofParts (year month dayOfMonth hour minute second micro : Nat) (offset : Option Offset) :
    Except Fault DateTime := do
  let date ← Date.check year month dayOfMonth
  if 23 < hour then throw .hour
  if 59 < minute then throw .minute
  if 59 < second then throw .second
  ofClock (date.dayNumber * day + ((hour * 60 + minute) * 60 + second) * Time.second + micro) offset

/-- The universal time so many microseconds after the beginning of 1970. -/
def ofEpoch (micros : Int) : Except Fault DateTime := do
  let epoch ← Date.check 1970 1 1
  ofClock (epoch.dayNumber * day + micros) (some .zero)

end DateTime

end UrlSigning
