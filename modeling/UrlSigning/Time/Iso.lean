import UrlSigning.Time.DateTime

/-!
# ISO 8601 dates and times

The writer puts a date and time as year, month and day, the letter T, and the time of day, with the
parts of a second only when there are any, and then the offset. The reader takes more: dates
without hyphens, dates counted in weeks, any one character between date and time, times cut short
after the hours or minutes, any number of digits for the parts of a second, and the letter Z for
universal time. Reading goes character by character; past the end of the text there are zero
characters.
-/

namespace UrlSigning.Time.Iso

/-- The sign, hours and minutes of an offset; its seconds and their parts only when there are
any. -/
def offsetText (o : Offset) : String :=
  let n := o.micros.natAbs
  let s := n / 1000000
  let micro := n % 1000000
  let pad := Duration.padLeft
  (if o.micros < 0 then "-" else "+") ++ pad 2 (s / 3600) ++ ":" ++ pad 2 (s / 60 % 60) ++
    (if s % 60 = 0 ∧ micro = 0 then "" else ":" ++ pad 2 (s % 60)) ++
    (if micro = 0 then "" else "." ++ pad 6 micro)

/-- The date and time in ISO 8601. -/
def text (d : DateTime) : String :=
  let pad := Duration.padLeft
  let date := d.date
  pad 4 date.year ++ "-" ++ pad 2 date.month ++ "-" ++ pad 2 date.day ++ "T" ++
    pad 2 d.hour ++ ":" ++ pad 2 d.minute ++ ":" ++ pad 2 d.second ++
    (if d.micro = 0 then "" else "." ++ pad 6 d.micro) ++
    ((d.offset.map offsetText).getD "")

/-- The character that is read past the end of the text. -/
def endMark : Char := '\x00'

/-- The next character. -/
def next (cs : List Char) : Char := cs.headD endMark

/-- The length of a text in bytes. Lengths of dates and times are counted like this, so that a
character outside ASCII is never taken for the one character that may stand at the end. -/
def size (cs : List Char) : Nat :=
  cs.foldr (fun c n => c.utf8Size + n) 0

/-- The number that `count` digits spell, and what follows them. -/
def readNumber (count : Nat) (cs : List Char) : Option (Nat × List Char) :=
  let ds := cs.take count
  if ds.length = count ∧ ds.all Char.isDigit then
    some (ds.foldl (fun n c => 10 * n + (c.toNat - '0'.toNat)) 0, cs.drop count)
  else none

/-- Where the date ends: it is told from the fifth character, and for dates in weeks from the
digits that follow. `none` when the text is too short for its form. -/
def dateLength (cs : List Char) : Option Nat :=
  let charAt (i : Nat) : Char := cs.getD i endMark
  if size cs = 7 then some 7
  else if charAt 4 = '-' then
    if charAt 5 = 'W' then
      if size cs < 8 ∨ size cs = 9 ∧ charAt 8 = '-' then none
      else if charAt 8 = '-' ∧ ¬ (charAt 10).isDigit then some 10
      else some 8
    else some 10
  else if charAt 4 = 'W' then
    let digits := ((cs.drop 7).takeWhile Char.isDigit).length
    if digits < 2 then some (7 + digits)
    else if digits % 2 = 1 then some 7
    else some 8
  else some 8

/-- A date by year, month and day of the month, as it is written. -/
abbrev Parts := Nat × Nat × Nat

/-- Passes over a hyphen, where the date is written with hyphens. -/
def skipHyphen (hyphens : Bool) (cs : List Char) : Option (List Char) :=
  if !hyphens then some cs else if next cs = '-' then some (cs.drop 1) else none

/-- Reads a day of a week; the first day when the text ends with the week. The weeks of the year
before the calendar have no month. -/
def readWeekDate (year : Nat) (hyphens : Bool) (cs : List Char) : Option Parts := do
  let (week, rest) ← readNumber 2 cs
  let dayOfWeek ←
    if rest.isEmpty then some 1
    else do
      let rest ← skipHyphen hyphens rest
      (readNumber 1 rest).map (·.1)
  if week < 1 ∨ weeksInYear year < week ∨ dayOfWeek < 1 ∨ 7 < dayOfWeek then none
  else if year = 0 then some (1, 0, 1)
  else
    let date := Date.ofDayNumber (dayOfWeekDate year week dayOfWeek)
    some (date.year, date.month, date.day)

/-- Reads a date, with hyphens or without. -/
def readDate (cs : List Char) : Option Parts := do
  let (year, rest) ← readNumber 4 cs
  let hyphens := next rest = '-'
  let rest := if hyphens then rest.drop 1 else rest
  if next rest = 'W' then readWeekDate year hyphens (rest.drop 1)
  else do
    let (month, rest) ← readNumber 2 rest
    let rest ← skipHyphen hyphens rest
    let (dayOfMonth, rest) ← readNumber 2 rest
    if rest.isEmpty then some (year, month, dayOfMonth) else none

/-- A time of day as it is written, in seconds and microseconds, and whether something other than
the end of the whole text follows it. -/
structure TimeText where
  hour : Nat
  minute : Nat
  second : Nat
  micro : Nat
  more : Bool

/-- The digits after the point: six of them count, fewer are filled up with zeros. Of the whole
text `cs` the first `length` bytes belong to the time. -/
def readFraction (h m s : Nat) (length : Nat) (cs : List Char) : Option TimeText := do
  let count := min length 6
  let (n, rest) ← readNumber count cs
  let rest := rest.dropWhile Char.isDigit
  return ⟨h, m, s, n * Nat.pow 10 (6 - count), next rest != endMark⟩

/-- Reads hours, then minutes, then seconds, with colons or without, and stops where the time ends,
`length` bytes on. `values` are the numbers that have been read, the latest first. -/
def readClock (values : List Nat) (colons : Bool) (length : Nat) (cs : List Char) :
    Nat → Option TimeText
  | 0 =>
    let v := values.reverse
    readFraction (v.getD 0 0) (v.getD 1 0) (v.getD 2 0) length cs
  | fuel + 1 => do
    let (n, rest) ← readNumber 2 cs
    let values := n :: values
    let v := values.reverse
    let c := next rest
    let colons := if values.length = 1 then c = ':' else colons
    if length ≤ 3 then
      return ⟨v.getD 0 0, v.getD 1 0, v.getD 2 0, 0, c != endMark⟩
    else if colons ∧ c = ':' then readClock values colons (length - 3) (rest.drop 1) fuel
    else if c = '.' ∨ c = ',' then
      readFraction (v.getD 0 0) (v.getD 1 0) (v.getD 2 0) (length - 3) (rest.drop 1)
    else if colons then none
    else readClock values colons (length - 2) rest fuel

/-- Reads a time of day that is `length` bytes long at the head of the text. -/
def readTime (length : Nat) (cs : List Char) : Option TimeText :=
  readClock [] false length cs 3

/-- The time of day after the separator, and the offset in microseconds if there is one. -/
def readTimeAndOffset (cs : List Char) : Option (TimeText × Option Int) := do
  let isSign := fun c : Char => c = '+' ∨ c = '-' ∨ c = 'Z'
  let time ← readTime (size (cs.takeWhile fun c => ¬ isSign c)) cs
  match cs.dropWhile fun c => ¬ isSign c with
  | [] => if time.more then none else some (time, none)
  | 'Z' :: rest => if next rest = endMark then some (time, some 0) else none
  | sign :: rest => do
    let o ← readTime (size rest) rest
    if o.more then none
    else
      let seconds : Int := o.hour * 3600 + o.minute * 60 + o.second
      let micros := if seconds = 0 then 0 else seconds * second + o.micro
      some (time, some (if sign = '-' then -micros else micros))

/-- Reads a date, and the time of day if anything follows it. -/
def readParts (cs : List Char) : Option (Parts × Option (TimeText × Option Int)) := do
  let length ← dateLength cs
  let date ← readDate (cs.take length)
  if cs.length ≤ length then some (date, none)
  else do
    let time ← readTimeAndOffset (cs.drop (length + 1))
    some (date, some time)

/-- Reads a date and time. -/
def read (s : String) : Except Fault DateTime := do
  match readParts s.toList with
  | none => throw (.unreadable s)
  | some ((year, month, dayOfMonth), none) =>
    DateTime.ofParts year month dayOfMonth 0 0 0 0 none
  | some ((year, month, dayOfMonth), some (t, offset)) =>
    let offset ← match offset with
      | none => pure none
      | some micros => some <$> Offset.ofMicros micros
    DateTime.ofParts year month dayOfMonth t.hour t.minute t.second t.micro offset

end UrlSigning.Time.Iso
