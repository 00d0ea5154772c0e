import UrlSigning.Text.Digit

/-!
# Reading whole numbers again

A whole number is written as its decimal digits, with a sign if it is negative, and is read as
itself as long as it does not have more digits than are read.
-/

namespace UrlSigning.Text

theorem isDigit_of_mem {n : Nat} {c : Char} (h : c ∈ Nat.toDigits 10 n) : c.isDigit = true :=
  Nat.isDigit_of_mem_toDigits (by decide) (by decide) h

/-- A smaller number has no more digits. -/
theorem length_toDigits_mono {m n : Nat} (h : m ≤ n) :
    (Nat.toDigits 10 m).length ≤ (Nat.toDigits 10 n).length := by
  have hpos : 0 < (Nat.toDigits 10 n).length := Nat.length_toDigits_pos
  have hlt := (Nat.length_toDigits_le_iff (by decide) hpos).mp (Nat.le_refl _)
  exact (Nat.length_toDigits_le_iff (by decide) hpos).mpr (Nat.lt_of_le_of_lt h hlt)

/-- A whole number is written as its digits, with a sign in front if it is negative. -/
theorem toList_toString (n : Int) :
    (toString n).toList = (if n < 0 then ['-'] else []) ++ Nat.toDigits 10 n.natAbs := by
  cases n with
  | ofNat m =>
      have hsign : ¬Int.ofNat m < 0 := Int.not_lt.mpr (Int.natCast_nonneg m)
      rw [if_neg hsign]
      show (Nat.repr m).toList = _
      rw [Nat.repr_eq_ofList_toDigits, String.toList_ofList]
      rfl
  | negSucc m =>
      rw [if_pos (Int.negSucc_lt_zero m)]
      show ("-" ++ Nat.repr (m + 1)).toList = _
      rw [String.toList_append, Nat.repr_eq_ofList_toDigits, String.toList_ofList,
        String.toList_ofList]
      rfl

theorem exists_digit_of_toString (n : Int) :
    ∃ d ds, d.isDigit = true ∧
      ((toString n).toList = d :: ds ∨ (toString n).toList = '-' :: d :: ds) := by
  obtain ⟨d, ds, hds⟩ := List.exists_cons_of_ne_nil (Nat.toDigits_ne_nil (b := 10) (n := n.natAbs))
  have hd : d.isDigit = true := isDigit_of_mem (hds ▸ List.mem_cons_self)
  refine ⟨d, ds, hd, ?_⟩
  rw [toList_toString, hds]
  split
  · exact .inr rfl
  · exact .inl rfl

theorem toNat_of_isDigit {c : Char} (h : c.isDigit = true) : 48 ≤ c.toNat ∧ c.toNat ≤ 57 := by
  simp only [Char.isDigit, Bool.and_eq_true, decide_eq_true_eq, ge_iff_le,
    UInt32.le_iff_toNat_le] at h
  exact h

theorem digitValue?_of_isDigit {c : Char} (h : c.isDigit = true) :
    digitValue? c = some (c.toNat - '0'.toNat) := by
  obtain ⟨hlow, hhigh⟩ := toNat_of_isDigit h
  rw [digitValue?, zeroCodes, List.find?_cons_of_pos]
  · rfl
  · simp [hlow, hhigh]

/-- Digits with nothing behind them are read to their end. -/
theorem readDigits_of_isDigit {ds : List Char} (h : ∀ c ∈ ds, c.isDigit = true) (run : DigitRun) :
    readDigits run ds = (⟨run.count + ds.length, Nat.ofDigitChars 10 ds run.value⟩, []) := by
  induction ds generalizing run with
  | nil => rfl
  | cons d ds ih =>
      obtain ⟨hd, hds⟩ := List.forall_mem_cons.mp h
      rw [readDigits, digitValue?_of_isDigit hd]
      · dsimp only
        rw [ih hds, Nat.ofDigitChars_cons, DigitRun.push, List.length_cons, Nat.add_right_comm,
          Nat.add_assoc]
      · rintro c rest rfl
        cases hd

theorem readUnsigned?_toDigits {n : Nat} (hn : (Nat.toDigits 10 n).length ≤ maxDigits) :
    readUnsigned? (Nat.toDigits 10 n) = some n := by
  obtain ⟨d, ds, hds⟩ := List.exists_cons_of_ne_nil (Nat.toDigits_ne_nil (b := 10) (n := n))
  have hall : ∀ c ∈ d :: ds, c.isDigit = true := fun c hc => isDigit_of_mem (hds ▸ hc)
  obtain ⟨hd, hall⟩ := List.forall_mem_cons.mp hall
  have hvalue : Nat.ofDigitChars 10 (d :: ds) 0 = n := hds ▸ Nat.ofDigitChars_ten_toDigits
  rw [Nat.ofDigitChars_cons, Nat.mul_zero, Nat.zero_add] at hvalue
  rw [hds, List.length_cons, Nat.add_comm] at hn
  rw [hds, readUnsigned?, digitValue?_of_isDigit hd]
  dsimp only [bind, Option.bind]
  rw [readDigits_of_isDigit hall]
  simpa [hn] using hvalue

theorem isNumberBlank_of_isDigit {c : Char} (h : c.isDigit = true) : isNumberBlank c = false := by
  obtain ⟨hlow, hhigh⟩ := toNat_of_isDigit h
  have hspace : c ≠ ' ' := by
    rintro rfl
    cases h
  rw [isNumberBlank, if_pos (by omega)]
  simp only [Bool.or_eq_false_iff, beq_eq_false_iff_ne, Bool.and_eq_false_iff,
    decide_eq_false_iff_not]
  exact ⟨hspace, .inr (by omega)⟩

/-- A whole number is read as itself. -/
theorem readInteger?_toString {n : Int} (hn : (Nat.toDigits 10 n.natAbs).length ≤ maxDigits) :
    readInteger? (toString n) = some n := by
  have hread := readUnsigned?_toDigits hn
  unfold readInteger?
  dsimp only
  rw [toList_toString]
  by_cases hneg : n < 0
  · have hvalue : -(n.natAbs : Int) = n := by omega
    rw [if_pos hneg, List.cons_append, List.nil_append, List.dropWhile_cons_of_neg (by decide)]
    simp only [hread]
    exact congrArg some hvalue
  · have hvalue : (n.natAbs : Int) = n := by omega
    obtain ⟨d, ds, hds⟩ := List.exists_cons_of_ne_nil
      (Nat.toDigits_ne_nil (b := 10) (n := n.natAbs))
    have hd : d.isDigit = true := isDigit_of_mem (hds ▸ List.mem_cons_self)
    rw [if_neg hneg, List.nil_append, hds,
      List.dropWhile_cons_of_neg (by simp [isNumberBlank_of_isDigit hd]), ← hds]
    -- a digit is no sign
    split
    case h_1 heq | h_2 heq =>
      rw [hds] at heq
      cases heq
      cases hd
    case h_3 =>
      rw [hread]
      exact congrArg some hvalue

end UrlSigning.Text
