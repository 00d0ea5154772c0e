import UrlSigning.Time.DateTime

/-!
# Compact stamps

The form in which a signature names its time: year, month, day, the letter T, hours, minutes,
seconds and the letter Z, without separators. A year below 1000 is not filled up with zeros, so
reading a stamp takes four digits for the year and then the longest month and day that fit.
-/

namespace UrlSigning.Time.Stamp

/-- The stamp of a time, whose parts of a second are dropped. -/
def text (d : DateTime) : String :=
  let pad := Duration.padLeft
  let date := d.date
  pad 1 date.year ++ pad 2 date.month ++ pad 2 date.day ++ "T" ++
    pad 2 d.hour ++ pad 2 d.minute ++ pad 2 d.second ++ "Z"

/-- The date in a stamp: its first eight characters. -/
def scopeDate (stamp : String) : String :=
  String.ofList (stamp.toList.take 8)

/-- The ways to take a month from the head of the text, in the order in which they are tried. -/
def monthChoices : List Char → List (Nat × List Char)
  | a :: b :: rest =>
    (if a = '1' ∧ '0' ≤ b ∧ b ≤ '2' then [(10 + (b.toNat - 48), rest)] else []) ++
      (if a = '0' ∧ '1' ≤ b ∧ b ≤ '9' then [(b.toNat - 48, rest)] else []) ++
      (if '1' ≤ a ∧ a ≤ '9' then [(a.toNat - 48, b :: rest)] else [])
  | [a] => if '1' ≤ a ∧ a ≤ '9' then [(a.toNat - 48, [])] else []
  | [] => []

/-- The day of the month that is the whole text. -/
def readDay? : List Char → Option Nat
  | [a, b] =>
    if a = '3' ∧ (b = '0' ∨ b = '1') then some (30 + (b.toNat - 48))
    else if (a = '1' ∨ a = '2') ∧ b.isDigit then some (10 * (a.toNat - 48) + (b.toNat - 48))
    else if a = '0' ∧ '1' ≤ b ∧ b ≤ '9' then some (b.toNat - 48)
    else none
  | [a] => if '1' ≤ a ∧ a ≤ '9' then some (a.toNat - 48) else none
  | _ => none

/-- Reads the date of a stamp that was written for the time `d`: the time of day needs no reading,
because its six digits can be split in one way only. -/
def readBack (d : DateTime) : Except Fault Date :=
  let stamp := text d
  let digits := stamp.toList.takeWhile Char.isDigit
  let year := (digits.take 4).foldl (fun n c => 10 * n + (c.toNat - 48)) 0
  let monthAndDay := (monthChoices (digits.drop 4)).findSome? fun (month, rest) =>
    (readDay? rest).map fun dayOfMonth => (month, dayOfMonth)
  match monthAndDay with
  | none => .error (.stamp stamp)
  | some (month, dayOfMonth) => Date.check year month dayOfMonth

/-- The days of the week, Monday first. -/
def weekdayNames : List String := ["Mon", "Tue", "Wed", "Thu", "Fri", "Sat", "Sun"]

def monthNames : List String :=
  ["Jan", "Feb", "Mar", "Apr", "May", "Jun", "Jul", "Aug", "Sep", "Oct", "Nov", "Dec"]

/-- A date with the time of day of `d` in the form of a mail header, in universal time. -/
def mailText (date : Date) (d : DateTime) : String :=
  let pad := Duration.padLeft
  let weekdayName := weekdayNames.getD (weekday date.dayNumber) ""
  let monthName := monthNames.getD (date.month - 1) ""
  s!"{weekdayName}, {pad 2 date.day} {monthName} {pad 4 date.year} " ++
    s!"{pad 2 d.hour}:{pad 2 d.minute}:{pad 2 d.second} -0000"

end UrlSigning.Time.Stamp
