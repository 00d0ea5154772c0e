import Mathlib.Data.Rat.Floor
import UrlSigning.Decimal.Binary64

/-!
# The value of a number of double precision

A finite number is a ratio, and to cut it off is to round the ratio toward zero. Above zero that is
the greatest whole number that is not above the ratio.
-/

namespace UrlSigning.Binary64

/-- The ratio that a finite number is. -/
def magnitude (mantissa : Nat) (exponent : Int) : ℚ :=
  mantissa * 2 ^ exponent

/-- The value of a finite number. -/
inductive HasValue : Binary64 → ℚ → Prop
  | positive (m : Nat) (e : Int) : HasValue (finite false m e) (magnitude m e)
  | negative (m : Nat) (e : Int) : HasValue (finite true m e) (-magnitude m e)

/-- The whole part of a ratio without its sign. -/
def wholePart (mantissa : Nat) (exponent : Int) : Nat :=
  if 0 ≤ exponent then mantissa * Nat.pow 2 exponent.toNat
  else mantissa / Nat.pow 2 (-exponent).toNat

theorem floor_magnitude (m : Nat) (e : Int) : ⌊magnitude m e⌋ = wholePart m e := by
  unfold magnitude wholePart
  by_cases he : 0 ≤ e
  · obtain ⟨k, rfl⟩ := Int.eq_ofNat_of_zero_le he
    rw [if_pos he, zpow_natCast, Int.toNat_natCast]
    have hwhole : (m : ℚ) * 2 ^ k = ((m * Nat.pow 2 k : Nat) : ℚ) := by
      rw [Nat.cast_mul]
      congr 1
      exact (Nat.cast_pow 2 k).symm
    rw [hwhole, Int.floor_natCast]
  · obtain ⟨k, hk⟩ := Int.eq_ofNat_of_zero_le (by omega : 0 ≤ -e)
    obtain rfl : e = -(k : Int) := by omega
    rw [if_neg he, zpow_neg, zpow_natCast, neg_neg, Int.toNat_natCast, ← div_eq_mul_inv]
    have hratio : (m : ℚ) / 2 ^ k = (m : ℚ) / ((Nat.pow 2 k : Nat) : ℚ) := by
      congr 1
      exact (Nat.cast_pow 2 k).symm
    rw [hratio, Rat.floor_natCast_div_natCast]
    rfl

theorem magnitude_nonneg (m : Nat) (e : Int) : 0 ≤ magnitude m e :=
  mul_nonneg (Nat.cast_nonneg m) (zpow_nonneg zero_le_two e)

/-- To cut off a number gives a positive one just when that is the number rounded down. -/
theorem truncate?_eq_some_iff {x : Binary64} {n : Int} (hn : 1 ≤ n) :
    x.truncate? = some n ↔ ∃ q, x.HasValue q ∧ ⌊q⌋ = n := by
  match x with
  | finite false m e =>
      have htruncate : (finite false m e).truncate? = some (wholePart m e : Int) := rfl
      rw [htruncate, Option.some.injEq]
      constructor
      · intro h
        exact ⟨_, .positive m e, (floor_magnitude m e).trans h⟩
      · rintro ⟨_, ⟨⟩, h⟩
        exact (floor_magnitude m e).symm.trans h
  | finite true m e =>
      -- neither the number nor what is left of it is above zero
      have htruncate : (finite true m e).truncate? = some (-(wholePart m e : Int)) := rfl
      rw [htruncate, Option.some.injEq]
      constructor
      · intro h
        omega
      · rintro ⟨_, ⟨⟩, h⟩
        have hpos : (1 : ℚ) ≤ -magnitude m e := by
          have hfloor : (n : ℚ) ≤ -magnitude m e := h ▸ Int.floor_le _
          exact le_trans (by exact_mod_cast hn) hfloor
        have hnonneg := magnitude_nonneg m e
        linarith
  | infinite negative =>
      constructor
      · rintro ⟨⟩
      · rintro ⟨_, ⟨⟩, -⟩
  | nan =>
      constructor
      · rintro ⟨⟩
      · rintro ⟨_, ⟨⟩, -⟩

end UrlSigning.Binary64
