import Mathlib.Data.List.TakeWhile
import UrlSigning.Proofs.Text.Digit
import UrlSigning.Proofs.Time.Stamp

/-!
# Reading times again

The text of a date and time of day is read as the date and time of day. The parts of a second, and
the seconds of an offset, are written only where there are any, so the reader meets a clock in three
lengths; a sign tells where the clock ends and the offset begins. Only an offset of less than a second
is lost: the reader takes an offset without whole seconds for none.
-/

namespace UrlSigning

/-- The offset that is read from an offset's text: of less than a second nothing is left. -/
def Offset.reread (o : Offset) : Offset :=
  if o.micros.natAbs < 1000000 then .zero else o

theorem Offset.reread_zero : Offset.zero.reread = .zero := rfl

theorem Offset.reread_eq_self_iff (o : Offset) :
    o.reread = o ↔ o = .zero ∨ 1000000 ≤ o.micros.natAbs := by
  unfold Offset.reread
  by_cases hless : o.micros.natAbs < 1000000
  · rw [if_pos hless, eq_comm, or_iff_left (Nat.not_le_of_lt hless)]
  · rw [if_neg hless]
    exact iff_of_true rfl (.inr (Nat.le_of_not_lt hless))

namespace Time.Iso

/-- The digits of a number, filled up with zeros in front. -/
def digits (width n : Nat) : List Char := (Duration.padLeft width n).toList

theorem isDigit_of_mem_digits {width n : Nat} {c : Char} (h : c ∈ digits width n) :
    c.isDigit = true := by
  rw [digits, toList_padLeft, List.mem_append] at h
  rcases h with h | h
  · rw [List.eq_of_mem_replicate h]
    rfl
  · exact Nat.isDigit_of_mem_toDigits (by decide) (by decide) h

/-- A time of day as it is written. The parts of a second are left out when there are none, and in a
short form the seconds go with them. -/
def clockText (short : Bool) (t : TimeText) : List Char :=
  digits 2 t.hour ++ ':' :: (digits 2 t.minute ++
    ((if short ∧ t.second = 0 ∧ t.micro = 0 then [] else ':' :: digits 2 t.second) ++
      (if t.micro = 0 then [] else '.' :: digits 6 t.micro)))

section

variable {values : List Nat} {colons : Bool} {length fuel n : Nat} {rest : List Char}

/-- The numbers of a clock, the latest first. -/
def clockOf (values : List Nat) (micro : Nat) (more : Bool) : TimeText :=
  ⟨values.reverse.getD 0 0, values.reverse.getD 1 0, values.reverse.getD 2 0, micro, more⟩

theorem readClock_end (hn : n < 100) (hlength : length ≤ 3) (rest : List Char) :
    readClock values colons length (digits 2 n ++ rest) (fuel + 1) =
      some (clockOf (n :: values) 0 (next rest != endMark)) := by
  rw [readClock, digits, readNumber_padLeft 2 (by decide) hn]
  simp only [Option.bind_eq_bind, Option.bind_some, if_pos hlength]
  rfl

theorem readClock_colon (hn : n < 100) (hlength : 3 < length)
    (hcolons : values = [] ∨ colons = true ∧ values ≠ []) (rest : List Char) :
    readClock values colons length (digits 2 n ++ ':' :: rest) (fuel + 1) =
      readClock (n :: values) true (length - 3) rest fuel := by
  have hnot : ¬length ≤ 3 := by omega
  rw [readClock, digits, readNumber_padLeft 2 (by decide) hn]
  rcases hcolons with rfl | ⟨rfl, hvalues⟩
  · simp [next, hnot]
  · simp [next, hnot, hvalues]

theorem readClock_point (hn : n < 100) (hlength : 3 < length) (rest : List Char) :
    readClock values colons length (digits 2 n ++ '.' :: rest) (fuel + 1) =
      readFraction ((n :: values).reverse.getD 0 0) ((n :: values).reverse.getD 1 0)
        ((n :: values).reverse.getD 2 0) (length - 3) rest := by
  have hnot : ¬length ≤ 3 := by omega
  rw [readClock, digits, readNumber_padLeft 2 (by decide) hn]
  simp [next, hnot]

theorem readFraction_digits {micro : Nat} (hmicro : micro < 1000000)
    (hrest : ∀ c ∈ rest.head?, c.isDigit = false) (hour minute second : Nat) :
    readFraction hour minute second 6 (digits 6 micro ++ rest) =
      some ⟨hour, minute, second, micro, next rest != endMark⟩ := by
  have hdrop : rest.dropWhile Char.isDigit = rest := by
    cases rest with
    | nil => rfl
    | cons c rest => rw [List.dropWhile_cons, hrest c rfl]; rfl
  rw [readFraction, Nat.min_self, digits, readNumber_padLeft 6 (by decide) hmicro]
  simp [hdrop]

end

/-- The parts of the clock have no more digits than they are given. -/
structure TimeText.IsBounded (t : TimeText) : Prop where
  hour : t.hour < 100
  minute : t.minute < 100
  second : t.second < 100
  micro : t.micro < 1000000

theorem length_digits {width n : Nat} (hwidth : 0 < width) (h : n < 10 ^ width) :
    (digits width n).length = width :=
  length_padLeft width hwidth h

/-- A time of day is read from its text, whatever follows that is no digit. -/
theorem readTime_clockText {t : TimeText} (ht : t.IsBounded) (short : Bool) {rest : List Char}
    (hrest : ∀ c ∈ rest.head?, c.isDigit = false) :
    readTime (clockText short t).length (clockText short t ++ rest) =
      some { t with more := next rest != endMark } := by
  obtain ⟨hour, minute, second, micro, more⟩ := t
  obtain ⟨hhour, hminute, hsecond, hmicro⟩ := ht
  dsimp only at hhour hminute hsecond hmicro
  have htwo {n : Nat} (hn : n < 100) : (digits 2 n).length = 2 := length_digits (by decide) hn
  have hsix : (digits 6 micro).length = 6 := length_digits (by decide) hmicro
  unfold readTime
  by_cases hnone : micro = 0
  · subst hnone
    by_cases hshort : short = true ∧ second = 0
    · -- hours and minutes only
      have htext : clockText short ⟨hour, minute, second, 0, more⟩ =
          digits 2 hour ++ ':' :: digits 2 minute := by
        simp [clockText, hshort]
      rw [htext, List.append_assoc, List.cons_append, List.length_append, List.length_cons,
        htwo hhour, htwo hminute, readClock_colon hhour (by decide) (.inl rfl),
        readClock_end hminute (by decide), hshort.2]
      rfl
    · have htext : clockText short ⟨hour, minute, second, 0, more⟩ =
          digits 2 hour ++ ':' :: (digits 2 minute ++ ':' :: digits 2 second) := by
        simp [clockText, hshort]
      rw [htext]
      simp only [List.append_assoc, List.cons_append, List.length_append, List.length_cons,
        htwo hhour, htwo hminute, htwo hsecond]
      rw [readClock_colon hhour (by decide) (.inl rfl),
        readClock_colon hminute (by decide) (.inr ⟨rfl, List.cons_ne_nil _ _⟩),
        readClock_end hsecond (by decide)]
      rfl
  · have htext : clockText short ⟨hour, minute, second, micro, more⟩ =
        digits 2 hour ++ ':' ::
          (digits 2 minute ++ ':' :: (digits 2 second ++ '.' :: digits 6 micro)) := by
      simp [clockText, hnone]
    rw [htext]
    simp only [List.append_assoc, List.cons_append, List.length_append, List.length_cons,
      htwo hhour, htwo hminute, htwo hsecond, hsix]
    rw [readClock_colon hhour (by decide) (.inl rfl),
      readClock_colon hminute (by decide) (.inr ⟨rfl, List.cons_ne_nil _ _⟩),
      readClock_point hsecond (by decide), readFraction_digits hmicro hrest]
    rfl

/-! ## Offsets -/

/-- The offset as hours, minutes, seconds and microseconds, without its sign. -/
def partsOfOffset (o : Offset) : TimeText :=
  let n := o.micros.natAbs
  ⟨n / 1000000 / 3600, n / 1000000 / 60 % 60, n / 1000000 % 60, n % 1000000, false⟩

theorem isBounded_partsOfOffset (o : Offset) : (partsOfOffset o).IsBounded := by
  have hbounded := o.bounded
  simp only [day, Time.second] at hbounded
  constructor <;> simp only [partsOfOffset] <;> omega

/-- The sign and the clock of an offset; nothing where none is known. -/
def zoneText : Option Offset → List Char
  | none => []
  | some o => (if o.micros < 0 then '-' else '+') :: clockText true (partsOfOffset o)

theorem toList_offsetText (o : Offset) : (offsetText o).toList = zoneText (some o) := by
  simp only [offsetText, zoneText, clockText, partsOfOffset, digits, String.toList_append]
  by_cases hneg : o.micros < 0 <;> by_cases hmicro : o.micros.natAbs % 1000000 = 0 <;>
    by_cases hsecond : o.micros.natAbs / 1000000 % 60 = 0 <;> simp [hneg, hmicro, hsecond]

/-! ## The time of day and the offset -/

/-- A character of a clock: neither a sign nor outside ASCII. -/
theorem of_mem_clockText {short : Bool} {t : TimeText} {c : Char} (h : c ∈ clockText short t) :
    c.isDigit = true ∨ c = ':' ∨ c = '.' := by
  simp only [clockText, List.mem_append, List.mem_cons] at h
  rcases h with h | rfl | h | h | h
  · exact .inl (isDigit_of_mem_digits h)
  · exact .inr (.inl rfl)
  · exact .inl (isDigit_of_mem_digits h)
  · split at h
    · cases h
    · rcases List.mem_cons.mp h with rfl | h
      · exact .inr (.inl rfl)
      · exact .inl (isDigit_of_mem_digits h)
  · split at h
    · cases h
    · rcases List.mem_cons.mp h with rfl | h
      · exact .inr (.inr rfl)
      · exact .inl (isDigit_of_mem_digits h)

theorem length_le_size (cs : List Char) : cs.length ≤ size cs := by
  induction cs with
  | nil => exact Nat.le_refl 0
  | cons c cs ih =>
      have hpos := c.utf8Size_pos
      unfold size at ih ⊢
      rw [List.foldr_cons, List.length_cons]
      omega

theorem size_eq_length {cs : List Char} (h : ∀ c ∈ cs, c.toNat < 128) : size cs = cs.length := by
  induction cs with
  | nil => rfl
  | cons c cs ih =>
      obtain ⟨hc, hcs⟩ := List.forall_mem_cons.mp h
      have hsize : c.utf8Size = 1 := Char.utf8Size_eq_one_iff.mpr (by
        rw [UInt32.le_iff_toNat_le]
        exact Nat.le_of_lt_succ hc)
      have hrest := ih hcs
      unfold size at hrest ⊢
      rw [List.foldr_cons, hrest, hsize, List.length_cons, Nat.add_comm]

theorem toNat_lt_of_mem_clockText {short : Bool} {t : TimeText} {c : Char}
    (h : c ∈ clockText short t) : c.toNat < 128 := by
  rcases of_mem_clockText h with h | rfl | rfl
  · have := (Text.toNat_of_isDigit h).2
    omega
  · decide
  · decide

/-- No offset begins with the character. -/
def IsInClock (c : Char) : Prop := ¬(c = '+' ∨ c = '-' ∨ c = 'Z')

theorem isInClock_of_mem {short : Bool} {t : TimeText} {c : Char} (h : c ∈ clockText short t) :
    IsInClock c := by
  rcases of_mem_clockText h with h | rfl | rfl
  · rintro (rfl | rfl | rfl) <;> cases h
  · unfold IsInClock
    decide
  · unfold IsInClock
    decide

section

variable {clock zone : List Char} {t o : TimeText} {sign : Char}

/-- The clock goes on up to the offset, if there is one. -/
theorem cut_clock (hclock : ∀ c ∈ clock, IsInClock c) (hzone : ∀ c ∈ zone.head?, ¬IsInClock c) :
    (clock ++ zone).takeWhile (fun c => ¬(c = '+' ∨ c = '-' ∨ c = 'Z')) = clock ∧
      (clock ++ zone).dropWhile (fun c => ¬(c = '+' ∨ c = '-' ∨ c = 'Z')) = zone := by
  have hin : ∀ c ∈ clock, decide (¬(c = '+' ∨ c = '-' ∨ c = 'Z')) = true :=
    fun c hc => decide_eq_true (hclock c hc)
  rw [List.takeWhile_append_of_pos hin, List.dropWhile_append_of_pos hin]
  cases zone with
  | nil => exact ⟨List.append_nil clock, rfl⟩
  | cons sign rest =>
      have hsign : decide (¬(sign = '+' ∨ sign = '-' ∨ sign = 'Z')) = false :=
        decide_eq_false (hzone sign rfl)
      rw [List.takeWhile_cons, List.dropWhile_cons, hsign]
      exact ⟨List.append_nil clock, rfl⟩

theorem readTimeAndOffset_clock (hclock : ∀ c ∈ clock, IsInClock c)
    (ht : readTime (size clock) clock = some t) (hmore : t.more = false) :
    readTimeAndOffset clock = some (t, none) := by
  have hnone : ∀ c ∈ ([] : List Char).head?, ¬IsInClock c := by rintro c ⟨⟩
  obtain ⟨htake, hdrop⟩ := cut_clock hclock hnone
  rw [List.append_nil] at htake hdrop
  unfold readTimeAndOffset
  dsimp only
  rw [htake, hdrop, ht]
  simp [hmore]

/-- The microseconds of an offset with a sign: none for less than a second. -/
def TimeText.signed (o : TimeText) (sign : Char) : Int :=
  let seconds : Int := o.hour * 3600 + o.minute * 60 + o.second
  let micros := if seconds = 0 then 0 else seconds * Time.second + o.micro
  if sign = '-' then -micros else micros

theorem readTimeAndOffset_zone {rest : List Char} (hclock : ∀ c ∈ clock, IsInClock c)
    (hsign : sign = '+' ∨ sign = '-')
    (ht : readTime (size clock) (clock ++ sign :: rest) = some t)
    (ho : readTime (size rest) rest = some o) (hmore : o.more = false) :
    readTimeAndOffset (clock ++ sign :: rest) = some (t, some (o.signed sign)) := by
  have hzone : ∀ c ∈ (sign :: rest).head?, ¬IsInClock c := by
    rintro _ ⟨⟩ hin
    exact hin (hsign.imp_right .inl)
  obtain ⟨htake, hdrop⟩ := cut_clock hclock hzone
  unfold readTimeAndOffset
  dsimp only
  rw [htake, hdrop, ht]
  rcases hsign with rfl | rfl <;> simp [ho, hmore, TimeText.signed]

end

theorem signed_partsOfOffset (o : Offset) :
    (partsOfOffset o).signed (if o.micros < 0 then '-' else '+') = o.reread.micros := by
  have hseconds : ((partsOfOffset o).hour * 3600 + (partsOfOffset o).minute * 60 +
      (partsOfOffset o).second : Int) = o.micros.natAbs / 1000000 := by
    simp only [partsOfOffset]
    omega
  rw [TimeText.signed, hseconds]
  dsimp only [partsOfOffset]
  by_cases hless : o.micros.natAbs < 1000000
  · have hnone : (o.micros.natAbs : Int) / 1000000 = 0 := by omega
    rw [Offset.reread, if_pos hless, if_pos hnone]
    simp [Offset.zero]
  · have hsome : ¬(o.micros.natAbs : Int) / 1000000 = 0 := by omega
    have hwhole : (o.micros.natAbs : Int) / 1000000 * Time.second +
        (o.micros.natAbs % 1000000 : Nat) = o.micros.natAbs := by
      simp only [Time.second]
      omega
    rw [Offset.reread, if_neg hless, if_neg hsome, hwhole]
    by_cases hneg : o.micros < 0
    · rw [if_pos hneg, if_pos rfl]
      omega
    · rw [if_neg hneg, if_neg (by decide)]
      omega

/-- A time of day is read from its text, and so is an offset, unless it is less than a second. -/
theorem readTimeAndOffset_written {t : TimeText} (ht : t.IsBounded) (zone : Option Offset) :
    readTimeAndOffset (clockText false t ++ zoneText zone) =
      some ({ t with more := zone.isSome }, zone.map (·.reread.micros)) := by
  have hsize {short : Bool} {t : TimeText} : size (clockText short t) = (clockText short t).length :=
    size_eq_length fun c hc => toNat_lt_of_mem_clockText hc
  have hend : ∀ c ∈ ([] : List Char).head?, c.isDigit = false := by rintro c ⟨⟩
  cases zone with
  | none =>
      have htime := readTime_clockText ht false hend
      rw [List.append_nil, ← hsize] at htime
      rw [zoneText, List.append_nil, readTimeAndOffset_clock (fun c hc => isInClock_of_mem hc) htime rfl]
      rfl
  | some o =>
      have hsign : (if o.micros < 0 then '-' else '+') = '+' ∨
          (if o.micros < 0 then '-' else '+') = '-' := by
        split <;> simp
      have hstop : ∀ c ∈ (zoneText (some o)).head?, c.isDigit = false ∧ c ≠ endMark := by
        rintro _ ⟨⟩
        rcases hsign with hs | hs <;> rw [hs] <;> decide
      have htime := readTime_clockText ht false fun c hc => (hstop c hc).1
      have hoffset := readTime_clockText (isBounded_partsOfOffset o) true hend
      have hmore : (next (zoneText (some o)) != endMark) = true :=
        bne_iff_ne.mpr (hstop _ rfl).2
      rw [List.append_nil, ← hsize] at hoffset
      rw [hmore, ← hsize] at htime
      rw [zoneText, readTimeAndOffset_zone (fun c hc => isInClock_of_mem hc) hsign htime hoffset rfl,
        Option.map_some, ← signed_partsOfOffset]
      rfl

/-! ## The date -/

/-- A date as it is written. -/
def dateText (date : Date) : List Char :=
  digits 4 date.year ++ '-' :: (digits 2 date.month ++ '-' :: digits 2 date.day)

section

variable {date : Date} {rest : List Char}

theorem length_dateText (hdate : date.IsValid) : (dateText date).length = 10 := by
  have hyear := length_digits (by decide : 0 < 4) (Nat.lt_succ_of_le hdate.year.2)
  have hmonth := length_digits (by decide : 0 < 2) (Nat.lt_of_le_of_lt hdate.month.2 (by decide))
  have hday := length_digits (by decide : 0 < 2) (Nat.lt_of_le_of_lt hdate.day_le (by decide))
  simp [dateText, hyear, hmonth, hday]

theorem exists_digits_eq_cons (width n : Nat) :
    ∃ c cs, c.isDigit = true ∧ digits width n = c :: cs := by
  have hne : digits width n ≠ [] := by
    rw [digits, toList_padLeft]
    exact List.append_ne_nil_of_right_ne_nil _ Nat.toDigits_ne_nil
  obtain ⟨c, cs, hcs⟩ := List.exists_cons_of_ne_nil hne
  exact ⟨c, cs, isDigit_of_mem_digits (hcs ▸ List.mem_cons_self), hcs⟩

/-- A digit where a week would be announced says that the date is written by months. -/
theorem next_digits_ne (width n : Nat) (rest : List Char) : next (digits width n ++ rest) ≠ 'W' := by
  obtain ⟨c, cs, hc, hcs⟩ := exists_digits_eq_cons width n
  rw [hcs]
  rintro rfl
  cases hc

theorem readDate_dateText (hdate : date.IsValid) :
    readDate (dateText date) = some (date.year, date.month, date.day) := by
  have hyear : date.year < 10 ^ 4 := Nat.lt_succ_of_le hdate.year.2
  have hmonth : date.month < 10 ^ 2 := Nat.lt_of_le_of_lt hdate.month.2 (by decide)
  have hday : date.day < 10 ^ 2 := Nat.lt_of_le_of_lt hdate.day_le (by decide)
  have hweek := next_digits_ne 2 date.month ('-' :: digits 2 date.day)
  have hlast := readNumber_padLeft 2 (by decide) hday []
  rw [List.append_nil] at hlast
  rw [readDate, dateText, digits, readNumber_padLeft 4 (by decide) hyear]
  simp only [Option.bind_eq_bind, Option.bind_some]
  show (if next (digits 2 date.month ++ '-' :: digits 2 date.day) = 'W' then _ else _) = _
  rw [if_neg hweek]
  simp [next, digits, readNumber_padLeft 2 (by decide) hmonth, skipHyphen, hlast]

theorem dateLength_dateText (hdate : date.IsValid) (rest : List Char) :
    dateLength (dateText date ++ 'T' :: rest) = some 10 := by
  have hyear : (digits 4 date.year).length = 4 :=
    length_digits (by decide) (Nat.lt_succ_of_le hdate.year.2)
  have hsize : size (dateText date ++ 'T' :: rest) ≠ 7 := by
    have hlength := length_le_size (dateText date ++ 'T' :: rest)
    rw [List.length_append, length_dateText hdate, List.length_cons] at hlength
    omega
  have hfour : (dateText date ++ 'T' :: rest).getD 4 endMark = '-' := by
    simp [dateText, hyear]
  have hfive : (dateText date ++ 'T' :: rest).getD 5 endMark ≠ 'W' := by
    have hweek := next_digits_ne 2 date.month ('-' :: digits 2 date.day ++ 'T' :: rest)
    simpa [dateText, List.getElem?_append_right, hyear, next, List.head?_eq_getElem?] using hweek
  unfold dateLength
  simp only [if_neg hsize, if_pos hfour, if_neg hfive]

end

/-! ## Dates with a time of day -/

section

variable (d : DateTime)

/-- The parts of the time of day. -/
def partsOf : TimeText := ⟨d.hour, d.minute, d.second, d.micro, false⟩

theorem isBounded_partsOf : (partsOf d).IsBounded where
  hour := Nat.lt_of_le_of_lt d.hour_le (by decide)
  minute := Nat.lt_of_le_of_lt d.minute_le (by decide)
  second := Nat.lt_of_le_of_lt d.second_le (by decide)
  micro := Nat.mod_lt _ (by decide)

theorem toList_text : (text d).toList =
    dateText d.date ++ 'T' :: (clockText false (partsOf d) ++ zoneText d.offset) := by
  have hzone : ((d.offset.map offsetText).getD "").toList = zoneText d.offset := by
    cases d.offset with
    | none => rfl
    | some o => exact toList_offsetText o
  simp only [text, String.toList_append, hzone]
  by_cases hmicro : d.micro = 0 <;> simp [dateText, clockText, partsOf, digits, hmicro]

/-- The text of a date and time of day holds digits and a few marks. -/
theorem of_mem_text {c : Char} (h : c ∈ (text d).toList) :
    c.isDigit = true ∨ c ∈ [':', '.', '-', '+', 'T'] := by
  have hclock {short : Bool} {t : TimeText} (h : c ∈ clockText short t) :
      c.isDigit = true ∨ c ∈ [':', '.', '-', '+', 'T'] := by
    rcases of_mem_clockText h with h | rfl | rfl
    · exact .inl h
    · exact .inr (by simp)
    · exact .inr (by simp)
  rw [toList_text] at h
  simp only [dateText, List.mem_append, List.mem_cons] at h
  rcases h with (h | rfl | h | rfl | h) | rfl | h | h
  · exact .inl (isDigit_of_mem_digits h)
  · exact .inr (by simp)
  · exact .inl (isDigit_of_mem_digits h)
  · exact .inr (by simp)
  · exact .inl (isDigit_of_mem_digits h)
  · exact .inr (by simp)
  · exact hclock h
  · cases hoffset : d.offset with
    | none =>
        rw [hoffset] at h
        cases h
    | some o =>
        rw [hoffset] at h
        rcases List.mem_cons.mp h with rfl | h
        · right
          split <;> simp
        · exact hclock h

theorem readParts_text :
    readParts (text d).toList = some ((d.date.year, d.date.month, d.date.day),
      some ({ partsOf d with more := d.offset.isSome }, d.offset.map (·.reread.micros))) := by
  have hdate := d.isValid_date
  have hlength := length_dateText hdate
  have hmore : ¬(dateText d.date ++ 'T' :: (clockText false (partsOf d) ++
      zoneText d.offset)).length ≤ 10 := by
    rw [List.length_append, List.length_cons, hlength]
    omega
  have hdrop : (dateText d.date ++ 'T' :: (clockText false (partsOf d) ++ zoneText d.offset)).drop
      (10 + 1) = clockText false (partsOf d) ++ zoneText d.offset := by
    rw [← List.drop_drop, List.drop_left' hlength]
    rfl
  rw [toList_text, readParts, dateLength_dateText hdate]
  simp only [Option.bind_eq_bind, Option.bind_some]
  rw [List.take_left' hlength, readDate_dateText hdate]
  simp only [Option.bind_some]
  rw [if_neg hmore, hdrop, readTimeAndOffset_written (isBounded_partsOf d)]
  rfl

/-- A date and time of day is read from its text, without an offset of less than a second. -/
theorem read_text : read (text d) = .ok { d with offset := d.offset.map Offset.reread } := by
  have hoffset : ∀ o : Offset, Offset.ofMicros o.micros = .ok o := fun o => dif_pos o.bounded
  have hparts (offset : Option Offset) : DateTime.ofParts d.date.year d.date.month d.date.day d.hour
      d.minute d.second d.micro offset = .ok { d with offset := offset } := by
    rw [d.ofParts_eq, Int.sub_add_cancel]
    exact dif_pos d.inCalendar
  rw [read, readParts_text]
  cases d.offset with
  | none => exact hparts none
  | some o =>
      show (some <$> Offset.ofMicros o.reread.micros >>= fun offset => DateTime.ofParts _ _ _ _ _ _ _ offset) = _
      rw [hoffset]
      exact hparts (some o.reread)

end

end Time.Iso

end UrlSigning
