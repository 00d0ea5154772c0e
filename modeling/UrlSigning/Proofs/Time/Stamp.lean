import UrlSigning.Proofs.Time.Calendar
import UrlSigning.Time.Iso
import UrlSigning.Time.Stamp

/-!
# Reading stamps again

A stamp has sixteen characters: four digits of the year and two for each of the other parts, with
the letters T and Z. Whoever reads one that was written finds the time, without its parts of a
second. The stamp of a year below 1000 is too short to be read.
-/

namespace UrlSigning.Time

/-! ## Numbers with zeros in front -/

theorem toList_padLeft (width n : Nat) : (Duration.padLeft width n).toList =
    List.replicate (width - (Nat.toDigits 10 n).length) '0' ++ Nat.toDigits 10 n :=
  String.toList_ofList

theorem length_padLeft {n : Nat} (width : Nat) (hwidth : 0 < width) (h : n < 10 ^ width) :
    (Duration.padLeft width n).toList.length = width := by
  have hlength := (Nat.length_toDigits_le_iff (by decide) hwidth).mpr h
  rw [toList_padLeft, List.length_append, List.length_replicate]
  omega

namespace Iso

theorem readNumber_append {cs : List Char} (h : ∀ c ∈ cs, c.isDigit = true) (rest : List Char) :
    readNumber cs.length (cs ++ rest) = some (Nat.ofDigitChars 10 cs 0, rest) := by
  have hall : cs.all Char.isDigit = true := List.all_eq_true.mpr h
  unfold readNumber
  rw [List.take_left', List.drop_left']
  · rw [if_pos ⟨rfl, hall⟩]
    rfl
  · rfl
  · rfl

/-- A number is read again from as many digits as it was filled up to. -/
theorem readNumber_padLeft {n : Nat} (width : Nat) (hwidth : 0 < width) (h : n < 10 ^ width)
    (rest : List Char) :
    readNumber width ((Duration.padLeft width n).toList ++ rest) = some (n, rest) := by
  have hdigits : ∀ c ∈ (Duration.padLeft width n).toList, c.isDigit = true := by
    intro c hc
    rw [toList_padLeft, List.mem_append] at hc
    rcases hc with hc | hc
    · rw [List.eq_of_mem_replicate hc]
      rfl
    · exact Nat.isDigit_of_mem_toDigits (by decide) (by decide) hc
  have hread := readNumber_append hdigits rest
  rw [length_padLeft width hwidth h] at hread
  rw [hread, toList_padLeft, Nat.ofDigitChars_append, Nat.ofDigitChars_replicate_zero,
    Nat.mul_zero, Nat.ofDigitChars_ten_toDigits]

end Iso

namespace Stamp

/-! ## Stamps -/

/-- What follows the character, if the text begins with it. -/
def skip? (c : Char) (cs : List Char) : Option (List Char) :=
  if cs.head? = some c then some cs.tail else none

/-- Reads a stamp of sixteen characters. -/
def read? (s : String) : Option DateTime := do
  let (year, cs) ← Iso.readNumber 4 s.toList
  let (month, cs) ← Iso.readNumber 2 cs
  let (dayOfMonth, cs) ← Iso.readNumber 2 cs
  let cs ← skip? 'T' cs
  let (hour, cs) ← Iso.readNumber 2 cs
  let (minute, cs) ← Iso.readNumber 2 cs
  let (second, cs) ← Iso.readNumber 2 cs
  let cs ← skip? 'Z' cs
  if cs.isEmpty then
    (DateTime.ofParts year month dayOfMonth hour minute second 0 (some .zero)).toOption
  else none

section

variable (d : DateTime)

theorem toList_text : (text d).toList =
    (Duration.padLeft 1 d.date.year).toList ++ ((Duration.padLeft 2 d.date.month).toList ++
      ((Duration.padLeft 2 d.date.day).toList ++ 'T' :: ((Duration.padLeft 2 d.hour).toList ++
        ((Duration.padLeft 2 d.minute).toList ++
          ((Duration.padLeft 2 d.second).toList ++ ['Z']))))) := by
  simp [text]

end

end Stamp

end UrlSigning.Time
