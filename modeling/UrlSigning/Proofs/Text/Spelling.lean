import Mathlib.Data.List.TakeWhile
import UrlSigning.Proofs.Text.Digit

/-!
# How whole numbers are spelled

A text is read as a whole number just when it spells it: digits of any scripts, of which each but
the first may have an underscore before it, with a sign or without, and with blanks around. Nothing
else is read, and longer numbers than the limit are not.
-/

namespace UrlSigning.Text

/-- Digits, each of which may have an underscore before it. -/
inductive SpellsMore : List Char → List Nat → Prop
  | nil : SpellsMore [] []
  | digit {c : Char} {d : Nat} {cs : List Char} {ds : List Nat} (hc : digitValue? c = some d)
      (hcs : SpellsMore cs ds) : SpellsMore (c :: cs) (d :: ds)
  | underscore {c : Char} {d : Nat} {cs : List Char} {ds : List Nat} (hc : digitValue? c = some d)
      (hcs : SpellsMore cs ds) : SpellsMore ('_' :: c :: cs) (d :: ds)

/-- The number of decimal digits, with a number in front of them. -/
def numberOf (start : Nat) (ds : List Nat) : Nat :=
  ds.foldl (fun n d => 10 * n + d) start

/-- Blanks, which may stand around a whole number. -/
def IsPadding (cs : List Char) : Prop := ∀ c ∈ cs, isNumberBlank c = true

/-- The signs of whole numbers, with the factors that they stand for. -/
def signs : List (List Char × Int) := [([], 1), (['+'], 1), (['-'], -1)]

/-- Digits with nothing before them, and blanks after them, spell the number. -/
inductive SpellsUnsigned : List Char → Nat → Prop
  | mk {c : Char} {d : Nat} {cs padding : List Char} {ds : List Nat} (hc : digitValue? c = some d)
      (hcs : SpellsMore cs ds) (hpadding : IsPadding padding) (hcount : ds.length < maxDigits) :
      SpellsUnsigned (c :: (cs ++ padding)) (numberOf d ds)

/-- The text spells the whole number. -/
inductive Spells : List Char → Int → Prop
  | mk {padding sign cs : List Char} {factor : Int} {n : Nat} (hpadding : IsPadding padding)
      (hsign : (sign, factor) ∈ signs) (hcs : SpellsUnsigned cs n) :
      Spells (padding ++ (sign ++ cs)) (factor * n)

/-! ## Digits -/

section

variable {c : Char} {cs after : List Char} {d : Nat} {ds : List Nat}

/-- No digit is a blank: the tables do not meet. -/
theorem digitValue?_of_isNumberBlank (h : isNumberBlank c = true) : digitValue? c = none := by
  have hapart : ∀ z ∈ zeroCodes, 48 ≤ z ∧ ∀ s ∈ blankSpans, z + 9 < s.first ∨ s.last < z := by
    decide
  rw [digitValue?, Option.map_eq_none_iff, List.find?_eq_none]
  intro z hz hin
  obtain ⟨hleast, hspans⟩ := hapart z hz
  simp only [Bool.and_eq_true, decide_eq_true_eq] at hin
  unfold isNumberBlank at h
  split at h
  · simp only [Bool.or_eq_true, beq_iff_eq, Bool.and_eq_true, decide_eq_true_eq] at h
    rcases h with rfl | h
    · have hspace : ' '.toNat = 32 := rfl
      omega
    · omega
  · obtain ⟨s, hs, hhas⟩ := List.any_eq_true.mp h
    simp only [Span.has, Bool.and_eq_true, decide_eq_true_eq] at hhas
    have hspan := hspans s hs
    omega

theorem ne_of_digitValue? {other : Char} (h : digitValue? c = some d)
    (hother : digitValue? other = none) : c ≠ other := by
  rintro rfl
  rw [h] at hother
  cases hother

theorem readDigits_stop (hc : c ≠ '_') (hnone : digitValue? c = none) (run : DigitRun) :
    readDigits run (c :: cs) = (run, c :: cs) := by
  rw [readDigits, hnone]
  rintro c rest rfl
  exact absurd rfl hc

theorem readDigits_digit (hc : digitValue? c = some d) (run : DigitRun) :
    readDigits run (c :: cs) = readDigits (run.push d) cs := by
  rw [readDigits, hc]
  rintro c' rest rfl
  exact absurd rfl (ne_of_digitValue? hc (by decide))

theorem readDigits_underscore (hc : digitValue? c = some d) (run : DigitRun) :
    readDigits run ('_' :: c :: cs) = readDigits (run.push d) cs := by
  rw [readDigits, hc]

/-- The run with more digits. -/
def DigitRun.extend (run : DigitRun) (ds : List Nat) : DigitRun :=
  ⟨run.count + ds.length, numberOf run.value ds⟩

theorem DigitRun.extend_cons (run : DigitRun) (d : Nat) (ds : List Nat) :
    run.extend (d :: ds) = (run.push d).extend ds := by
  simp only [extend, push, List.length_cons, numberOf, List.foldl_cons, Nat.add_right_comm,
    Nat.add_assoc]

theorem readDigits_padding (h : IsPadding after) (run : DigitRun) :
    readDigits run after = (run, after) := by
  cases after with
  | nil => rfl
  | cons c after =>
      have hc := h c List.mem_cons_self
      refine readDigits_stop ?_ (digitValue?_of_isNumberBlank hc) run
      rintro rfl
      cases hc

theorem readDigits_append (hcs : SpellsMore cs ds) (hafter : IsPadding after) (run : DigitRun) :
    readDigits run (cs ++ after) = (run.extend ds, after) := by
  induction hcs generalizing run with
  | nil => exact readDigits_padding hafter run
  | digit hc hcs ih => rw [List.cons_append, readDigits_digit hc, ih, DigitRun.extend_cons]
  | underscore hc hcs ih =>
      rw [List.cons_append, List.cons_append, readDigits_underscore hc, ih, DigitRun.extend_cons]

/-- What the reader takes is spelled digits, whatever it stops at. -/
theorem exists_readDigits (run : DigitRun) (cs : List Char) :
    ∃ taken ds after, cs = taken ++ after ∧ SpellsMore taken ds ∧
      readDigits run cs = (run.extend ds, after) := by
  induction run, cs using readDigits.induct with
  | case1 run => exact ⟨[], [], [], rfl, .nil, rfl⟩
  | case2 run c rest d hc ih =>
      obtain ⟨taken, ds, after, rfl, htaken, hread⟩ := ih
      refine ⟨'_' :: c :: taken, d :: ds, after, rfl, .underscore hc htaken, ?_⟩
      rw [readDigits_underscore hc, hread, DigitRun.extend_cons]
  | case3 run c rest hc =>
      refine ⟨[], [], '_' :: c :: rest, rfl, .nil, ?_⟩
      rw [readDigits, hc]
      rfl
  | case4 run c rest hc' d hc ih =>
      obtain ⟨taken, ds, after, rfl, htaken, hread⟩ := ih
      refine ⟨c :: taken, d :: ds, after, rfl, .digit hc htaken, ?_⟩
      rw [readDigits_digit hc, hread, DigitRun.extend_cons]
  | case5 run c rest hc' hc =>
      refine ⟨[], [], c :: rest, rfl, .nil, ?_⟩
      rw [readDigits, hc]
      · rfl
      · exact hc'

end

/-! ## Whole numbers -/

section

variable {cs : List Char} {m : Nat} {n : Int}

theorem readUnsigned?_eq_some_iff : readUnsigned? cs = some m ↔ SpellsUnsigned cs m := by
  constructor
  · intro h
    cases cs with
    | nil => cases h
    | cons c rest =>
        unfold readUnsigned? at h
        obtain ⟨d, hc, h⟩ := Option.bind_eq_some_iff.mp h
        obtain ⟨taken, ds, after, rfl, htaken, hread⟩ := exists_readDigits ⟨1, d⟩ rest
        rw [hread] at h
        dsimp only [DigitRun.extend] at h
        split at h
        · next hend =>
            cases h
            simp only [Bool.and_eq_true, List.all_eq_true, decide_eq_true_eq] at hend
            exact .mk hc htaken hend.1 (by omega)
        · cases h
  · rintro @⟨_, _, _, _, ds, hc, hmore, hpadding, hcount⟩
    rw [readUnsigned?, hc]
    dsimp only [Option.bind_eq_bind, Option.bind_some]
    rw [readDigits_append hmore hpadding]
    have hle : 1 + ds.length ≤ maxDigits := by omega
    refine if_pos ?_
    rw [Bool.and_eq_true, List.all_eq_true]
    exact ⟨hpadding, decide_eq_true hle⟩

/-- A number without its sign begins with a digit, which is neither a blank nor a sign. -/
theorem SpellsUnsigned.head (h : SpellsUnsigned cs m) :
    ∃ c rest, cs = c :: rest ∧ isNumberBlank c = false ∧ c ≠ '-' ∧ c ≠ '+' := by
  obtain ⟨hc, -, -, -⟩ := h
  refine ⟨_, _, rfl, ?_, ne_of_digitValue? hc (by decide), ne_of_digitValue? hc (by decide)⟩
  rw [Bool.eq_false_iff]
  intro hblank
  rw [digitValue?_of_isNumberBlank hblank] at hc
  cases hc

theorem dropWhile_padding {padding : List Char} (h : IsPadding padding) {c : Char}
    (hc : isNumberBlank c = false) (rest : List Char) :
    (padding ++ c :: rest).dropWhile isNumberBlank = c :: rest := by
  rw [List.dropWhile_append_of_pos h, List.dropWhile_cons_of_neg (by simp [hc])]

/-- A text is read as a whole number just when it spells it. -/
theorem readInteger?_eq_some_iff (s : String) : readInteger? s = some n ↔ Spells s.toList n := by
  constructor
  · intro h
    have hpadding : IsPadding (s.toList.takeWhile isNumberBlank) := fun c hc =>
      List.mem_takeWhile_imp hc
    have hsplit := List.takeWhile_append_dropWhile (p := isNumberBlank) (l := s.toList)
    unfold readInteger? at h
    dsimp only at h
    rw [← hsplit]
    split at h
    next rest hrest =>
      obtain ⟨k, hk, rfl⟩ := Option.map_eq_some_iff.mp h
      obtain ⟨m, hm, hk⟩ := Option.bind_eq_some_iff.mp hk
      cases hk
      have hminus : (['-'], -1) ∈ signs := by simp [signs]
      have hspells := Spells.mk hpadding hminus (readUnsigned?_eq_some_iff.mp hm)
      rwa [Int.neg_one_mul, List.singleton_append, ← hrest] at hspells
    next rest hrest =>
      obtain ⟨m, hm, rfl⟩ := Option.map_eq_some_iff.mp h
      have hplus : (['+'], 1) ∈ signs := by simp [signs]
      have hspells := Spells.mk hpadding hplus (readUnsigned?_eq_some_iff.mp hm)
      rwa [Int.one_mul, List.singleton_append, ← hrest] at hspells
    next =>
      obtain ⟨m, hm, rfl⟩ := Option.map_eq_some_iff.mp h
      have hnone : ([], 1) ∈ signs := by simp [signs]
      have hspells := Spells.mk hpadding hnone (readUnsigned?_eq_some_iff.mp hm)
      rwa [Int.one_mul, List.nil_append] at hspells
  · intro h
    unfold readInteger?
    dsimp only
    generalize s.toList = text at h
    obtain ⟨hpadding, hsign, hcs⟩ := h
    have hread := readUnsigned?_eq_some_iff.mpr hcs
    simp only [signs, List.mem_cons, List.not_mem_nil, or_false, Prod.mk.injEq] at hsign
    rcases hsign with ⟨rfl, rfl⟩ | ⟨rfl, rfl⟩ | ⟨rfl, rfl⟩
    · obtain ⟨c, rest, rfl, hblank, hminus, hplus⟩ := hcs.head
      rw [List.nil_append, dropWhile_padding hpadding hblank]
      simp [hminus, hplus, hread]
    · rw [List.singleton_append, dropWhile_padding hpadding (by decide)]
      simp [hread]
    · rw [List.singleton_append, dropWhile_padding hpadding (by decide)]
      simp [hread]

end

end UrlSigning.Text
