import UrlSigning.Json.Reader
import UrlSigning.Json.Writer
import UrlSigning.Proofs.Checked
import UrlSigning.Proofs.Text.Digit
import UrlSigning.Proofs.Text.Percent

/-!
# Reading values that hold no others

Strings, words and whole numbers are read again as they were written, whatever follows a string or
a word. A number has to be followed by what ends it, and it must not have more digits than are read.
-/

namespace UrlSigning.Json

/-! ## Strings -/

section

variable {opening : Nat} {cs rest left : List Char}

/-- The four digits of a code. -/
theorem padded_four (n : Nat) :
    Text.Hex.padded .lower 4 n =
      [Text.Hex.digit .lower (n / 16 / 16 / 16 % 16), Text.Hex.digit .lower (n / 16 / 16 % 16),
        Text.Hex.digit .lower (n / 16 % 16), Text.Hex.digit .lower (n % 16)] :=
  rfl

theorem hexCode?_padded {n : Nat} (h : n < 0x10000) :
    hexCode? (Text.Hex.padded .lower 4 n) = some n := by
  have hn : ((n / 16 / 16 / 16 % 16 * 16 + n / 16 / 16 % 16) * 16 + n / 16 % 16) * 16 + n % 16 =
      n := by omega
  rw [padded_four, hexCode?]
  simp only [Text.Hex.value?_digit .lower (Nat.mod_lt _ (by decide : 0 < 16)),
    Option.bind_eq_bind, Option.bind_some, hn]
  rfl

/-- A code that begins no pair is read alone. -/
theorem readCode_padded {n : Nat} (hn : n < 0x10000) (hhigh : isHighHalf n = false)
    (hrest : rest ≠ []) :
    readCode (Text.Hex.padded .lower 4 n ++ rest) = .ok (charOfCode n, 4) := by
  have hlength : ¬(Text.Hex.padded .lower 4 n ++ rest).length < 5 := by
    have hlength := List.length_pos_iff.mpr hrest
    rw [List.length_append, padded_four]
    simp only [List.length_cons, List.length_nil]
    omega
  have htake : (Text.Hex.padded .lower 4 n ++ rest).take 4 = Text.Hex.padded .lower 4 n := rfl
  unfold readCode
  dsimp only
  rw [if_neg hlength, htake, hexCode?_padded hn]
  dsimp only
  rw [hhigh]
  rfl

/-- The two halves of a pair are read together. -/
theorem readCode_pair {high low : Nat} (hhigh : isHighHalf high = true)
    (hlow : isLowHalf low = true) (hrest : rest ≠ []) :
    readCode (Text.Hex.padded .lower 4 high ++ (escapeCode low ++ rest)) =
      .ok (charOfPair high low, 10) := by
  have hhigh' : high < 0x10000 := by
    simp only [isHighHalf, Bool.and_eq_true, decide_eq_true_eq] at hhigh
    omega
  have hlow' : low < 0x10000 := by
    simp only [isLowHalf, Bool.and_eq_true, decide_eq_true_eq] at hlow
    omega
  have hlength := List.length_pos_iff.mpr hrest
  have htake : (Text.Hex.padded .lower 4 high ++ (escapeCode low ++ rest)).take 4 =
      Text.Hex.padded .lower 4 high := rfl
  have hdrop : (Text.Hex.padded .lower 4 high ++ (escapeCode low ++ rest)).drop 4 =
      '\\' :: 'u' :: (Text.Hex.padded .lower 4 low ++ rest) := rfl
  have htake' : (Text.Hex.padded .lower 4 low ++ rest).take 4 = Text.Hex.padded .lower 4 low := rfl
  unfold readCode
  dsimp only
  rw [if_neg (by simp [padded_four, escapeCode]), htake, hexCode?_padded hhigh']
  dsimp only
  rw [hdrop, if_pos (by simp [padded_four, hhigh]; omega), List.drop_succ_cons,
    List.drop_succ_cons, List.drop_zero, htake', hexCode?_padded hlow']
  dsimp only
  rw [if_pos hlow]

theorem ne_nil_of_readString (h : readString opening rest = .ok (cs, left)) : rest ≠ [] := by
  rintro rfl
  rw [readString] at h
  cases h

theorem readString_short {c e : Char} (he : escaped? e = some c) (hu : e ≠ 'u')
    (h : readString opening rest = .ok (cs, left)) :
    readString opening ('\\' :: e :: rest) = .ok (c :: cs, left) := by
  rw [readString, he, h]
  · rfl
  · exact hu

theorem readString_code {n : Nat} (hn : n < 0xD800 ∨ 0xDFFF < n ∧ n < 0x10000)
    (h : readString opening rest = .ok (cs, left)) :
    readString opening (escapeCode n ++ rest) = .ok (Char.ofNat n :: cs, left) := by
  have hhigh : isHighHalf n = false := by
    simp only [isHighHalf, Bool.and_eq_false_iff, decide_eq_false_iff_not]
    omega
  have hlow : isLowHalf n = false := by
    simp only [isLowHalf, Bool.and_eq_false_iff, decide_eq_false_iff_not]
    omega
  show readString opening ('\\' :: 'u' :: (Text.Hex.padded .lower 4 n ++ rest)) = _
  rw [readString, readCode_padded (by omega) hhigh (ne_nil_of_readString h), charOfCode, hhigh,
    hlow]
  show (readString opening rest >>= fun x => pure (Char.ofNat n :: x.1, x.2)) = _
  rw [h]
  rfl

theorem readString_pair {n : Nat} (hn : 0xFFFF < n ∧ n < 0x110000)
    (h : readString opening rest = .ok (cs, left)) :
    readString opening (escapeCode (0xD800 + (n - 0x10000) / 0x400) ++
      escapeCode (0xDC00 + (n - 0x10000) % 0x400) ++ rest) = .ok (Char.ofNat n :: cs, left) := by
  have hhigh : isHighHalf (0xD800 + (n - 0x10000) / 0x400) = true := by
    simp only [isHighHalf, Bool.and_eq_true, decide_eq_true_eq]
    omega
  have hlow : isLowHalf (0xDC00 + (n - 0x10000) % 0x400) = true := by
    simp only [isLowHalf, Bool.and_eq_true, decide_eq_true_eq]
    omega
  have hpair : charOfPair (0xD800 + (n - 0x10000) / 0x400) (0xDC00 + (n - 0x10000) % 0x400) =
      Char.ofNat n := by
    have hcode : 0x10000 + (0xD800 + (n - 0x10000) / 0x400 - 0xD800) * 0x400 +
        (0xDC00 + (n - 0x10000) % 0x400 - 0xDC00) = n := by omega
    rw [charOfPair, hcode]
  rw [List.append_assoc]
  show readString opening ('\\' :: 'u' :: (Text.Hex.padded .lower 4 _ ++ _)) = _
  rw [readString, readCode_pair hhigh hlow (ne_nil_of_readString h), hpair]
  show (readString opening rest >>= fun x => pure (Char.ofNat n :: x.1, x.2)) = _
  rw [h]
  rfl

/-- A character that was written in front of a string that can be read is read as itself. -/
theorem readString_writeChar (c : Char) (h : readString opening rest = .ok (cs, left)) :
    readString opening (writeChar c ++ rest) = .ok (c :: cs, left) := by
  have hvalid := Text.Utf8.toNat_cases c
  have hc : Char.ofNat c.toNat = c := Char.ofNat_toNat c
  unfold writeChar
  split
  -- the characters that have an escape of their own
  case h_1 | h_2 | h_3 | h_4 | h_5 | h_6 | h_7 => exact readString_short rfl (by decide) h
  -- all others
  case h_8 hquote hbackslash hline hreturn htab hfeed hback =>
    dsimp only
    split
    · next hplain =>
        show readString opening (c :: rest) = _
        rw [readString, if_neg (by omega), h]
        · rfl
        · exact hquote
        · exact fun hc _ => hbackslash hc
        · exact fun _ hc _ => hbackslash hc
        · exact fun _ _ hc _ => hbackslash hc
    · split
      · next hcode =>
          have hread := readString_code (by omega) h (n := c.toNat)
          rwa [hc] at hread
      · next hcode =>
          have hread := readString_pair (by omega) h (n := c.toNat)
          rwa [hc] at hread

/-- A string is read up to the quote at its end. -/
theorem readString_written (opening : Nat) (cs rest : List Char) :
    readString opening (cs.flatMap writeChar ++ '"' :: rest) = .ok (cs, rest) := by
  induction cs with
  | nil =>
      show readString opening ('"' :: rest) = _
      rw [readString]
  | cons c cs ih =>
      rw [List.flatMap_cons, List.append_assoc]
      exact readString_writeChar c ih

end

/-! ## Words -/

theorem readName?_of_mem {name : String} {v : Json} (h : (name, v) ∈ names) (rest : List Char) :
    readName? (name.toList ++ rest) = some (v, rest) := by
  simp only [names, List.mem_cons, List.not_mem_nil, or_false, Prod.mk.injEq] at h
  rcases h with ⟨rfl, rfl⟩ | ⟨rfl, rfl⟩ | ⟨rfl, rfl⟩ | ⟨rfl, rfl⟩ | ⟨rfl, rfl⟩ | ⟨rfl, rfl⟩ <;> rfl

/-! ## Whole numbers -/

/-- The text does not go on with a number. -/
def EndsNumber (cs : List Char) : Prop :=
  ∀ c ∈ cs.head?, c.isDigit = false ∧ c ≠ '.' ∧ c ≠ 'e' ∧ c ≠ 'E'

section

variable {rest : List Char}

theorem EndsNumber.isDigit (h : EndsNumber rest) : ∀ c ∈ rest.head?, c.isDigit = false :=
  fun c hc => (h c hc).1

theorem takeWhile_of_ends (h : ∀ c ∈ rest.head?, c.isDigit = false) :
    rest.takeWhile Char.isDigit = [] := by
  cases rest with
  | nil => rfl
  | cons c rest => rw [List.takeWhile_cons, h c rfl]; rfl

theorem dropWhile_of_ends (h : ∀ c ∈ rest.head?, c.isDigit = false) :
    rest.dropWhile Char.isDigit = rest := by
  cases rest with
  | nil => rfl
  | cons c rest => rw [List.dropWhile_cons, h c rfl]; rfl

theorem fractionDigits_of_ends (h : EndsNumber rest) : fractionDigits rest = ([], rest) := by
  unfold fractionDigits
  split
  · exact absurd rfl (h '.' rfl).2.1
  · rfl

theorem exponent?_of_ends (h : EndsNumber rest) : exponent? rest = none := by
  cases rest with
  | nil => rfl
  | cons c rest =>
      obtain ⟨-, -, hsmall, hcapital⟩ := h c rfl
      unfold exponent?
      dsimp only
      rw [if_pos (by simp [hsmall, hcapital])]

theorem head?_append_digits (n : Nat) (rest : List Char) :
    (Nat.toDigits 10 n ++ rest).head? = (Nat.toDigits 10 n).head? := by
  obtain ⟨d, ds, hds⟩ := List.exists_cons_of_ne_nil (Nat.toDigits_ne_nil (b := 10) (n := n))
  rw [hds]
  rfl

/-- The digits of a number other than zero do not begin with one. -/
theorem head?_toDigits_ne (n : Nat) (h : n ≠ 0) : (Nat.toDigits 10 n).head? ≠ some '0' := by
  induction n using Nat.strongRecOn with
  | ind n ih =>
      by_cases hn : n < 10
      · have hall : ∀ m < 10, m ≠ 0 → Nat.digitChar m ≠ '0' := by decide
        rw [Nat.toDigits_of_lt_base hn]
        simpa using hall n hn h
      · rw [Nat.toDigits_of_base_le (by decide) (by omega), head?_append_digits]
        exact ih (n / 10) (by omega) (by omega)

theorem wholeDigits_toDigits (n : Nat) (hrest : ∀ c ∈ rest.head?, c.isDigit = false) :
    wholeDigits (Nat.toDigits 10 n ++ rest) = (Nat.toDigits 10 n, rest) := by
  by_cases hn : n = 0
  · subst hn
    rfl
  · rw [wholeDigits]
    · rw [List.takeWhile_append_of_pos fun _ h => Text.isDigit_of_mem h,
        List.dropWhile_append_of_pos fun _ h => Text.isDigit_of_mem h, takeWhile_of_ends hrest,
        dropWhile_of_ends hrest, List.append_nil]
    · intro more hmore
      have hhead := head?_toDigits_ne n hn
      rw [← head?_append_digits n rest, hmore] at hhead
      exact hhead rfl

/-- Digits, with a sign in front or without, are read as a whole number. -/
theorem readNumber_digits (negative : Bool) {n : Nat}
    (hn : (Nat.toDigits 10 n).length ≤ Text.maxDigits) (hrest : EndsNumber rest) :
    readNumber ((if negative then ['-'] else []) ++ (Nat.toDigits 10 n ++ rest)) =
      .ok (.int (if negative then -(n : Int) else n), rest) := by
  have hdigits : ¬(Nat.toDigits 10 n).isEmpty = true := by
    simp
  have hvalue : natOfDigits (Nat.toDigits 10 n) = n := Nat.ofDigitChars_ten_toDigits
  unfold readNumber
  split
  next sign unsigned hsign =>
  have hunsigned : sign = negative ∧ unsigned = Nat.toDigits 10 n ++ rest := by
    cases negative
    · -- a digit is no sign
      obtain ⟨d, ds, hds⟩ := List.exists_cons_of_ne_nil (Nat.toDigits_ne_nil (b := 10) (n := n))
      have hd : d ≠ '-' := by
        rintro rfl
        exact absurd (Text.isDigit_of_mem (hds ▸ List.mem_cons_self)) (by decide)
      rw [hds] at hsign ⊢
      simpa [hd, eq_comm] using hsign
    · cases hsign
      exact ⟨rfl, rfl⟩
  obtain ⟨rfl, rfl⟩ := hunsigned
  rw [wholeDigits_toDigits n hrest.isDigit]
  dsimp only
  rw [if_neg hdigits, fractionDigits_of_ends hrest]
  dsimp only
  rw [exponent?_of_ends hrest]
  dsimp only
  rw [if_neg (by decide), if_neg (by omega), hvalue]

theorem fractionDigits_digits {fraction : List Char} (hfraction : ∀ c ∈ fraction, c.isDigit = true)
    (hne : fraction ≠ []) (hrest : EndsNumber rest) :
    fractionDigits ('.' :: (fraction ++ rest)) = (fraction, rest) := by
  have htake : (fraction ++ rest).takeWhile Char.isDigit = fraction := by
    rw [List.takeWhile_append_of_pos hfraction, takeWhile_of_ends hrest.isDigit, List.append_nil]
  have hdrop : (fraction ++ rest).dropWhile Char.isDigit = rest := by
    rw [List.dropWhile_append_of_pos hfraction, dropWhile_of_ends hrest.isDigit]
  rw [fractionDigits, htake, hdrop, if_neg (by simpa using hne)]

/-- Digits with a point between them are read as the number nearest to the decimal. -/
theorem readNumber_fraction (n : Nat) {fraction : List Char}
    (hfraction : ∀ c ∈ fraction, c.isDigit = true) (hne : fraction ≠ []) (hrest : EndsNumber rest) :
    readNumber (Nat.toDigits 10 n ++ '.' :: (fraction ++ rest)) =
      .ok (.real (.ofDecimal false (natOfDigits (Nat.toDigits 10 n ++ fraction))
        (-fraction.length)), rest) := by
  have hdigits : ¬(Nat.toDigits 10 n).isEmpty = true := by
    simp
  have hpoint : ∀ c ∈ ('.' :: (fraction ++ rest)).head?, c.isDigit = false := by
    rintro _ ⟨⟩
    rfl
  obtain ⟨d, ds, hds⟩ := List.exists_cons_of_ne_nil (Nat.toDigits_ne_nil (b := 10) (n := n))
  have hd : d ≠ '-' := by
    rintro rfl
    exact absurd (Text.isDigit_of_mem (hds ▸ List.mem_cons_self)) (by decide)
  have hunsigned : ∀ more, Nat.toDigits 10 n ++ '.' :: (fraction ++ rest) ≠ '-' :: more := by
    intro more hmore
    rw [hds] at hmore
    exact hd (List.cons.inj hmore).1
  unfold readNumber
  split
  next negative unsigned hsign =>
  have hsign : negative = false ∧ unsigned = Nat.toDigits 10 n ++ '.' :: (fraction ++ rest) := by
    split at hsign
    · next more hmore => exact absurd hmore (hunsigned more)
    · cases hsign
      exact ⟨rfl, rfl⟩
  obtain ⟨rfl, rfl⟩ := hsign
  rw [wholeDigits_toDigits n hpoint]
  dsimp only
  rw [if_neg hdigits, fractionDigits_digits hfraction hne hrest]
  dsimp only
  rw [exponent?_of_ends hrest]
  simp [hne]

theorem readNumber_toString {n : Int} (hn : (Nat.toDigits 10 n.natAbs).length ≤ Text.maxDigits)
    (hrest : EndsNumber rest) :
    readNumber ((toString n).toList ++ rest) = .ok (.int n, rest) := by
  have hread := readNumber_digits (n < 0) hn hrest
  have hvalue : (if n < 0 then -(n.natAbs : Int) else n.natAbs) = n := by
    split <;> omega
  simp only [decide_eq_true_eq, hvalue] at hread
  rw [Text.toList_toString, List.append_assoc, hread]

end

/-! ## One of the three -/

section

variable {rest : List Char}

theorem readScalar_writeString (s : String) (rest : List Char) :
    readScalar (writeString s ++ rest) = .ok (.text s, rest) := by
  rw [writeString, List.cons_append, List.cons_append, List.append_assoc, readScalar,
    List.cons_append, List.nil_append, readString_written]
  show Except.ok (Json.text (String.ofList s.toList), rest) = _
  rw [String.ofList_toList]

theorem readScalar_of_mem {name : String} {v : Json} (h : (name, v) ∈ names) (rest : List Char) :
    readScalar (name.toList ++ rest) = .ok (v, rest) := by
  have hquote : ∀ n ∈ names, n.1.toList.head? ≠ some '"' ∧ n.1.toList ≠ [] := by decide +kernel
  obtain ⟨hquote, hne⟩ := hquote _ h
  rw [readScalar, readName?_of_mem h]
  intro more hmore
  obtain ⟨c, cs, hcs⟩ := List.exists_cons_of_ne_nil hne
  dsimp only at hcs hquote
  rw [hcs] at hmore hquote
  cases hmore
  exact hquote rfl

/-- No word begins the way in which a whole number does: none has a digit. -/
theorem readName?_toString (n : Int) (rest : List Char) :
    readName? ((toString n).toList ++ rest) = none := by
  obtain ⟨d, ds, hd, htext⟩ := Text.exists_digit_of_toString n
  have hnames : ∀ n ∈ names, 2 ≤ n.1.toList.length ∧ n.1.toList.any Char.isDigit = false := by
    decide +kernel
  refine List.findSome?_eq_none_iff.mpr fun name hname => ?_
  obtain ⟨hlength, hdigits⟩ := hnames name hname
  refine if_neg fun hprefix => ?_
  obtain ⟨more, hmore⟩ := List.isPrefixOf_iff_prefix.mp hprefix
  match hletters : name.1.toList with
  | [] | [_] =>
      rw [hletters] at hlength
      simp at hlength
  | b :: c :: cs =>
      rw [hletters] at hmore hdigits
      simp only [List.any_cons, Bool.or_eq_false_iff] at hdigits
      rcases htext with htext | htext <;> rw [htext] at hmore <;>
        simp only [List.cons_append, List.cons.injEq] at hmore
      · exact absurd hdigits.1 (by simp [hmore.1, hd])
      · exact absurd hdigits.2.1 (by simp [hmore.2.1, hd])

/-- A whole number is read as itself. -/
theorem readScalar_toString {n : Int} (hn : (Nat.toDigits 10 n.natAbs).length ≤ Text.maxDigits)
    (hrest : EndsNumber rest) :
    readScalar ((toString n).toList ++ rest) = .ok (.int n, rest) := by
  rw [readScalar, readName?_toString, readNumber_toString hn hrest]
  intro more hmore
  obtain ⟨d, ds, hd, htext | htext⟩ := Text.exists_digit_of_toString n
  · rw [htext] at hmore
    cases hmore
    cases hd
  · rw [htext] at hmore
    cases hmore

theorem readScalar_fraction (n : Nat) {fraction : List Char}
    (hfraction : ∀ c ∈ fraction, c.isDigit = true) (hne : fraction ≠ []) (hrest : EndsNumber rest) :
    readScalar (Nat.toDigits 10 n ++ '.' :: (fraction ++ rest)) =
      .ok (.real (.ofDecimal false (natOfDigits (Nat.toDigits 10 n ++ fraction))
        (-fraction.length)), rest) := by
  have htext : (toString (n : Int)).toList = Nat.toDigits 10 n := by
    rw [Text.toList_toString, if_neg (by omega)]
    rfl
  have hname := readName?_toString n ('.' :: (fraction ++ rest))
  rw [htext] at hname
  rw [readScalar, hname, readNumber_fraction n hfraction hne hrest]
  intro more hmore
  obtain ⟨d, ds, hds⟩ := List.exists_cons_of_ne_nil (Nat.toDigits_ne_nil (b := 10) (n := n))
  have hd : d.isDigit = true := Text.isDigit_of_mem (hds ▸ List.mem_cons_self)
  rw [hds] at hmore
  cases hmore
  cases hd

end

end UrlSigning.Json
