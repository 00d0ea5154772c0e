import Mathlib.Algebra.Ring.Int.Defs
import UrlSigning.Proofs.Decimal.Nearest
import UrlSigning.Time.Duration

/-!
# Whole numbers of seconds

So many seconds are a length of time unless their days have more than nine digits. The other way
round, the number of seconds of a length of time is one of double precision. Up to `2 ^ 34` seconds
it tells a microsecond, so that it is a whole number just when the length is. From there on half a
unit is a microsecond or more, and a length that is no further from a whole number of seconds is
taken for that many.
-/

namespace UrlSigning.Duration

open Time Binary64

/-- The microseconds that the number of seconds does not tell: half a unit of double precision,
which is known from the whole seconds. -/
def slack (d : Duration) : Nat :=
  1000000 / 2 ^ (53 - (d.micros.toNat / 1000000).log2)

/-- The number of seconds of a positive length is the whole number `n`. -/
def ComesTo (d : Duration) (n : Int) : Prop :=
  0 < d.micros ∧ (d.micros - n * second).natAbs ≤ d.slack

instance (d : Duration) (n : Int) : Decidable (d.ComesTo n) :=
  inferInstanceAs (Decidable (_ ∧ _))

variable {d : Duration} {n : Int}

/-! ## Lengths of so many seconds -/

theorem ofSeconds_eq_ok_iff : ofSeconds n = .ok d ↔ d.micros = n * second := by
  unfold ofSeconds ofMicros
  dsimp only
  split
  · constructor
    · rintro ⟨⟩
      rfl
    · intro h
      simp only [← h]
  · next hdays =>
      refine iff_of_false (by split <;> rintro ⟨⟩) fun h => hdays ?_
      rw [← h]
      exact d.bounded

theorem exists_ofSeconds_iff :
    (∃ d, ofSeconds n = .ok d) ↔ -86399999913600 ≤ n ∧ n < 86400000000000 := by
  have hdays : (n * second / day).natAbs ≤ 999999999 ↔
      -86399999913600 ≤ n ∧ n < 86400000000000 := by
    simp only [second, day]
    omega
  rw [← hdays]
  constructor
  · rintro ⟨d, hd⟩
    rw [← ofSeconds_eq_ok_iff.mp hd]
    exact d.bounded
  · intro h
    exact ⟨⟨_, h⟩, ofSeconds_eq_ok_iff.mpr rfl⟩

/-- Seconds that are no length of time are too many, forth or back. -/
theorem isOverflow_of_ofSeconds {fault : Fault} (h : ofSeconds n = .error fault) :
    fault.isOverflow = true := by
  unfold ofSeconds ofMicros at h
  dsimp only at h
  split at h
  · cases h
  · split at h <;> cases h <;> rfl

/-! ## How much is not told -/

theorem toNat_lt (d : Duration) : d.micros.toNat < 1000000000 * 86400000000 := by
  have hbounded := d.bounded
  simp only [day, second] at hbounded
  omega

theorem log2_lt (d : Duration) : (d.micros.toNat / 1000000).log2 < 47 := by
  by_cases hzero : d.micros.toNat / 1000000 = 0
  · rw [hzero]
    decide
  · rw [Nat.log2_lt hzero]
    have hlt := d.toNat_lt
    omega

/-- Less than a hundredth of a second is not told. -/
theorem slack_lt (d : Duration) : d.slack < 10000 := by
  have hpow : 2 ^ 7 ≤ 2 ^ (53 - (d.micros.toNat / 1000000).log2) :=
    Nat.pow_le_pow_right (by decide) (by have := d.log2_lt; omega)
  have hle : d.slack ≤ 1000000 / 2 ^ 7 := Nat.div_le_div_left hpow (by decide)
  omega

theorem slack_eq_zero (hsmall : d.micros < 2 ^ 34 * second) : d.slack = 0 := by
  have hlog : (d.micros.toNat / 1000000).log2 < 34 := by
    by_cases hzero : d.micros.toNat / 1000000 = 0
    · rw [hzero]
      decide
    · rw [Nat.log2_lt hzero]
      simp only [second] at hsmall
      omega
  have hpow : 2 ^ 20 ≤ 2 ^ (53 - (d.micros.toNat / 1000000).log2) :=
    Nat.pow_le_pow_right (by decide) (by omega)
  apply Nat.div_eq_of_lt
  omega

/-- The number of seconds is counted in units of twice the slack. -/
theorem exists_unit (hpos : 0 < d.micros) :
    ∃ j : Nat, exponentFor d.micros.toNat 1000000 = -((j + 1 : Nat) : Int) ∧
      d.slack = 1000000 / 2 ^ (j + 2) := by
  rcases Nat.lt_or_ge d.micros.toNat 1000000 with hless | hmore
  · have he : exponentFor d.micros.toNat 1000000 ≤ -52 := exponentFor_le_of_lt (by omega) hless
    obtain ⟨j, hj⟩ : ∃ j : Nat, exponentFor d.micros.toNat 1000000 = -((j + 1 : Nat) : Int) :=
      ⟨(-exponentFor d.micros.toNat 1000000 - 1).toNat, by omega⟩
    -- neither of the two units tells less than a microsecond
    have hpow : 2 ^ 20 ≤ 2 ^ (j + 2) := Nat.pow_le_pow_right (by decide) (by omega)
    refine ⟨j, hj, ?_⟩
    rw [slack_eq_zero (by simp only [second]; omega), Nat.div_eq_of_lt (by omega)]
  · have hlog : d.micros.toNat.log2 < Nat.log2 1000000 + 52 := by
      rw [show Nat.log2 1000000 = 19 by decide, Nat.log2_lt (by omega)]
      have hlt := d.toNat_lt
      omega
    have hunit := d.log2_lt
    refine ⟨51 - (d.micros.toNat / 1000000).log2, ?_, ?_⟩
    · rw [exponentFor_eq (by decide) hmore hlog]
      omega
    · rw [slack, show 51 - (d.micros.toNat / 1000000).log2 + 2 =
        53 - (d.micros.toNat / 1000000).log2 by omega]

/-! ## Lengths that come to a whole number -/

theorem ComesTo.pos (h : d.ComesTo n) : 0 < n := by
  obtain ⟨hpos, hclose⟩ := h
  by_contra hnot
  have hle : d.micros ≤ d.slack := by
    simp only [second] at hclose
    omega
  -- so little would be told, as the slack of less than a second is nothing
  have hmost := d.slack_lt
  have hnone := slack_eq_zero (d := d) (by simp only [second]; omega)
  omega

/-- The number of seconds is a positive whole one just when the length comes to it. -/
theorem comesTo_iff :
    d.seconds.isPositive = true ∧ d.seconds.isWhole = true ∧ d.seconds.truncate? = some n ↔
      d.ComesTo n := by
  unfold seconds ofIntRatio ComesTo
  rcases Int.lt_trichotomy d.micros 0 with hneg | hzero | hpos
  · rw [decide_eq_true hneg, isPositive_ofRatio_true]
    simp only [Bool.false_eq_true, false_and, false_iff, not_and]
    omega
  · rw [hzero]
    simp only [Int.lt_irrefl, decide_false, Int.natAbs_zero, false_and, iff_false]
    rintro ⟨⟨⟩, -⟩
  rw [decide_eq_false (by omega), show d.micros.natAbs = d.micros.toNat by omega]
  obtain ⟨j, hj, hslack⟩ := exists_unit hpos
  have hnear (k : Nat) := isWhole_ofRatio_iff_near (n := k) (show d.micros.toNat ≠ 0 by omega)
    (by decide) hj
  rw [← hslack] at hnear
  constructor
  · rintro ⟨-, hwhole, htruncate⟩
    obtain ⟨k, rfl⟩ := exists_of_truncate?_ofRatio htruncate
    have hclose := (hnear k).mp ⟨hwhole, htruncate⟩
    refine ⟨hpos, ?_⟩
    simp only [second]
    omega
  · intro hcomes
    have hn : 0 < n := ComesTo.pos hcomes
    obtain ⟨-, hclose⟩ := hcomes
    obtain ⟨k, rfl⟩ := Int.eq_ofNat_of_zero_le (Int.le_of_lt hn)
    have hsame : ((d.micros.toNat : Int) - (k * 1000000 : Nat)).natAbs ≤ d.slack := by
      simp only [second] at hclose
      omega
    obtain ⟨hwhole, htruncate⟩ := (hnear k).mpr hsame
    exact ⟨isPositive_of_truncate? htruncate hn, hwhole, htruncate⟩

theorem comesTo_of_whole (hpos : 0 < d.micros) (hwhole : d.micros = n * second) : d.ComesTo n := by
  refine ⟨hpos, ?_⟩
  rw [hwhole, Int.sub_self]
  exact Nat.zero_le _

/-- A length comes to one number at most. -/
theorem ComesTo.eq {k : Int} (h : d.ComesTo n) (h' : d.ComesTo k) : n = k := by
  have hslack := d.slack_lt
  obtain ⟨-, hclose⟩ := h
  obtain ⟨-, hclose'⟩ := h'
  simp only [second] at hclose hclose'
  omega

/-- A length of whole seconds comes to as many as it has, and so does one that is told to the
microsecond. -/
theorem ComesTo.micros_eq (h : d.ComesTo n)
    (htold : d.micros < 2 ^ 34 * second ∨ d.microOfSecond = 0) : d.micros = n * second := by
  obtain ⟨-, hclose⟩ := h
  rcases htold with hsmall | hwhole
  · rw [slack_eq_zero hsmall] at hclose
    omega
  · have hslack := d.slack_lt
    simp only [microOfSecond, second] at hclose hwhole ⊢
    omega

theorem exists_comesTo_iff (htold : d.micros < 2 ^ 34 * second ∨ d.microOfSecond = 0) :
    (∃ n, d.ComesTo n) ↔ 0 < d.micros ∧ d.microOfSecond = 0 := by
  constructor
  · rintro ⟨n, h⟩
    have hmicros := h.micros_eq htold
    refine ⟨h.1, ?_⟩
    rw [microOfSecond, hmicros]
    exact Int.mul_emod_left n second
  · rintro ⟨hpos, hwhole⟩
    refine ⟨d.micros / second, comesTo_of_whole hpos ?_⟩
    exact (Int.ediv_mul_cancel (Int.dvd_of_emod_eq_zero hwhole)).symm

end UrlSigning.Duration
