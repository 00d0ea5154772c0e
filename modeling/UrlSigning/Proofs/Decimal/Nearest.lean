import Mathlib.Algebra.Ring.Nat
import UrlSigning.Decimal.Binary64

/-!
# Rounded ratios

The number of double precision for a ratio is off by at most half a unit, and the unit is known from
the whole part of the ratio. So the ratio comes to a whole number just when it is at most half a
unit away from it: a whole number is an even count of units, and a half goes to the even neighbour.
-/

namespace UrlSigning.Binary64

/-! ## Rounding -/

/-- Rounding a ratio changes it by at most a half. -/
theorem divideRounded_bound (p : Nat) {q : Nat} (hq : 0 < q) :
    2 * (divideRounded p q * q) ≤ 2 * p + q ∧ 2 * p ≤ 2 * (divideRounded p q * q) + q := by
  have hp : p / q * q + p % q = p := Nat.div_add_mod' p q
  have hlt : p % q < q := Nat.mod_lt p hq
  have hnext : (p / q + 1) * q = p / q * q + q := Nat.succ_mul _ _
  unfold divideRounded
  dsimp only
  split
  · omega
  · split
    · omega
    · split <;> omega

/-- A ratio is rounded to an even number just when it is at most a half away from it. -/
theorem divideRounded_eq_even_iff {p q a : Nat} (hq : 0 < q) :
    divideRounded p q = 2 * a ↔ 2 * (2 * a * q) ≤ 2 * p + q ∧ 2 * p ≤ 2 * (2 * a * q) + q := by
  constructor
  · intro h
    rw [← h]
    exact divideRounded_bound p hq
  · rintro ⟨hupper, hlower⟩
    have hp : p / q * q + p % q = p := Nat.div_add_mod' p q
    have hlt : p % q < q := Nat.mod_lt p hq
    -- the quotient is the number or the one before it, which is odd
    have hquotient : p / q = 2 * a ∨ p / q + 1 = 2 * a := by
      rcases Nat.lt_or_ge (2 * a) (p / q) with hmore | hmost
      · have hstep : (2 * a + 1) * q ≤ p / q * q := Nat.mul_le_mul_right q hmore
        rw [Nat.succ_mul] at hstep
        omega
      · rcases Nat.lt_or_ge (p / q + 1) (2 * a) with hless | hleast
        · have hstep : (p / q + 1 + 1) * q ≤ 2 * a * q := Nat.mul_le_mul_right q hless
          rw [Nat.succ_mul, Nat.succ_mul] at hstep
          omega
        · omega
    unfold divideRounded
    dsimp only
    rcases hquotient with hsame | hbefore
    · have hcount : 2 * a * q = p / q * q := by rw [hsame]
      have hless : ¬q < 2 * (p % q) := by omega
      have heven : p / q % 2 = 0 := by omega
      rw [if_neg hless, if_pos heven, ite_self]
      exact hsame
    · have hcount : 2 * a * q = p / q * q + q := by rw [← hbefore, Nat.succ_mul]
      have hmore : ¬2 * (p % q) < q := by omega
      have hodd : ¬p / q % 2 = 0 := by omega
      rw [if_neg hmore, if_neg hodd, ite_self]
      exact hbefore

/-- Two numbers times `c` are at most `d` apart as each is at most the other and `d`. -/
theorem natAbs_sub_mul_le_iff {x y c d : Nat} :
    ((x : Int) - y).natAbs * c ≤ d ↔ y * c ≤ x * c + d ∧ x * c ≤ y * c + d := by
  rcases Nat.le_total x y with h | h
  · have hmul : x * c ≤ y * c := Nat.mul_le_mul_right c h
    rw [show ((x : Int) - y).natAbs = y - x by omega, Nat.sub_mul]
    omega
  · have hmul : y * c ≤ x * c := Nat.mul_le_mul_right c h
    rw [show ((x : Int) - y).natAbs = x - y by omega, Nat.sub_mul]
    omega

/-! ## Units -/

/-- In bits, the whole part of a ratio is as long as the lengths of its terms differ by, or one
longer. -/
theorem log2_div_bounds {num den : Nat} (hden : 0 < den) (hle : den ≤ num) :
    (num / den).log2 + den.log2 ≤ num.log2 ∧ num.log2 ≤ (num / den).log2 + den.log2 + 1 := by
  have hden' : den ≠ 0 := by omega
  have hnum : num ≠ 0 := by omega
  have hwhole : num / den ≠ 0 := Nat.pos_iff_ne_zero.mp (Nat.div_pos hle hden)
  constructor
  · rw [Nat.le_log2 hnum, Nat.pow_add]
    calc 2 ^ (num / den).log2 * 2 ^ den.log2
        ≤ num / den * den := Nat.mul_le_mul (Nat.log2_self_le hwhole) (Nat.log2_self_le hden')
      _ ≤ num := Nat.div_mul_le_self num den
  · have hlt : num < 2 ^ ((num / den).log2 + 1 + (den.log2 + 1)) :=
      calc num < (num / den + 1) * den := (Nat.div_lt_iff_lt_mul hden).mp (Nat.lt_succ_self _)
        _ ≤ 2 ^ ((num / den).log2 + 1) * 2 ^ (den.log2 + 1) :=
            Nat.mul_le_mul Nat.lt_log2_self (Nat.le_of_lt Nat.lt_log2_self)
        _ = _ := (Nat.pow_add ..).symm
    have hlog := (Nat.log2_lt hnum).mpr hlt
    omega

/-- The unit of a ratio of at least one is known from its whole part. -/
theorem exponentFor_eq {num den : Nat} (hden : 0 < den) (hle : den ≤ num)
    (hlt : num.log2 < den.log2 + 52) : exponentFor num den = ((num / den).log2 : Int) - 52 := by
  obtain ⟨hlower, hupper⟩ := log2_div_bounds hden hle
  obtain ⟨k, hk⟩ := Nat.exists_eq_add_of_le (Nat.le_trans (Nat.le_add_left _ _) hlower)
  have hwhole : num / den ≠ 0 := Nat.pos_iff_ne_zero.mp (Nat.div_pos hle hden)
  have hexact : num * 2 ^ (52 - k) < den * 2 ^ 52 ↔ (num / den).log2 < k := by
    have hsplit : den * 2 ^ 52 = 2 ^ k * den * 2 ^ (52 - k) := by
      rw [Nat.mul_comm (2 ^ k), Nat.mul_assoc, ← Nat.pow_add, show k + (52 - k) = 52 by omega]
    rw [hsplit, Nat.mul_lt_mul_right (Nat.two_pow_pos (52 - k)), Nat.log2_lt hwhole,
      Nat.div_lt_iff_lt_mul hden]
  have hunits : inUnits ((num.log2 : Int) - den.log2 - 52) num den = (num * 2 ^ (52 - k), den) := by
    have hneg : ¬(0 : Int) ≤ (num.log2 : Int) - den.log2 - 52 := by omega
    have hpow : (-((num.log2 : Int) - den.log2 - 52)).toNat = 52 - k := by omega
    rw [inUnits, if_neg hneg, hpow]
    rfl
  unfold exponentFor leastExponent
  dsimp only
  rw [hunits]
  change max _ (if num * 2 ^ (52 - k) < den * 2 ^ 52 then _ else _) = _
  simp only [hexact]
  split <;> omega

/-- A ratio below one is counted in units of at most `2 ^ -52`. -/
theorem exponentFor_le_of_lt {num den : Nat} (hnum : num ≠ 0) (hlt : num < den) :
    exponentFor num den ≤ -52 := by
  have hlog : num.log2 ≤ den.log2 :=
    (Nat.le_log2 (by omega)).mpr (Nat.le_trans (Nat.log2_self_le hnum) (Nat.le_of_lt hlt))
  unfold exponentFor leastExponent
  dsimp only
  refine Int.max_le.mpr ⟨by omega, ?_⟩
  split <;> omega

/-! ## Whole results -/

theorem truncate?_mul (n j : Nat) :
    (finite false (n * 2 ^ j) (-(j : Int))).truncate? = some (n : Int) := by
  rcases j with _ | j
  · show some ((n * 2 ^ 0 * Nat.pow 2 0 : Nat) : Int) = _
    simp
  · have hneg : ¬(0 : Int) ≤ -((j + 1 : Nat) : Int) := by omega
    have hpow : (-(-((j + 1 : Nat) : Int))).toNat = j + 1 := by omega
    have hdiv : n * 2 ^ (j + 1) / Nat.pow 2 (j + 1) = n :=
      Nat.mul_div_cancel n (Nat.two_pow_pos (j + 1))
    simp only [truncate?, hneg, hpow, hdiv, if_false]
    rfl

theorem isWhole_mul (n j : Nat) : (finite false (n * 2 ^ j) (-(j : Int))).isWhole = true := by
  have hmod : n * 2 ^ j % Nat.pow 2 j = 0 := Nat.mul_mod_left n (2 ^ j)
  simp only [isWhole, Int.neg_neg, Int.toNat_natCast, hmod]
  simp

/-- A number counted in units of `2 ^ -j` comes to a whole number just when it is so many units. -/
theorem isWhole_iff {m j n : Nat} :
    (finite false m (-(j : Int))).isWhole = true ∧
        (finite false m (-(j : Int))).truncate? = some (n : Int) ↔ m = n * 2 ^ j := by
  constructor
  · rintro ⟨hwhole, hn⟩
    have hdvd : 2 ^ j ∣ m := by
      rw [isWhole, Bool.or_eq_true, decide_eq_true_eq, beq_iff_eq, Int.neg_neg,
        Int.toNat_natCast] at hwhole
      rcases hwhole with hzero | hmod
      · obtain rfl : j = 0 := by omega
        exact Nat.one_dvd m
      · exact Nat.dvd_of_mod_eq_zero hmod
    obtain ⟨a, rfl⟩ := hdvd
    rw [Nat.mul_comm] at hn ⊢
    rw [truncate?_mul, Option.some.injEq, Int.natCast_inj] at hn
    rw [hn]
  · rintro rfl
    exact ⟨isWhole_mul n j, truncate?_mul n j⟩

/-- A ratio counted in units of less than one comes to a whole number just when it is rounded to so
many units. -/
theorem isWhole_ofRatio_iff {num den j n : Nat} (hnum : num ≠ 0)
    (he : exponentFor num den = -((j + 1 : Nat) : Int)) :
    (ofRatio false num den).isWhole = true ∧ (ofRatio false num den).truncate? = some (n : Int) ↔
      divideRounded (num * 2 ^ (j + 1)) den = n * 2 ^ (j + 1) := by
  have hunits : inUnits (-((j + 1 : Nat) : Int)) num den = (num * 2 ^ (j + 1), den) := by
    have hneg : ¬(0 : Int) ≤ -((j + 1 : Nat) : Int) := by omega
    have hpow : (-(-((j + 1 : Nat) : Int))).toNat = j + 1 := by omega
    rw [inUnits, if_neg hneg, hpow]
    rfl
  unfold ofRatio
  rw [if_neg hnum, he]
  dsimp only
  rw [hunits]
  dsimp only
  by_cases hcarry : divideRounded (num * 2 ^ (j + 1)) den = Nat.pow 2 53
  · -- the number is counted in twice the units, so in half as many of them
    have hexponent : -((j + 1 : Nat) : Int) + 1 = -(j : Int) := by omega
    have hsmall : ¬greatestExponent < -(j : Int) := by
      unfold greatestExponent
      omega
    rw [if_pos hcarry]
    dsimp only
    rw [hexponent, if_neg hsmall, isWhole_iff, hcarry, Nat.pow_succ, ← Nat.mul_assoc]
    change 2 ^ 52 = _ ↔ 2 ^ 53 = _
    omega
  · have hsmall : ¬greatestExponent < -((j + 1 : Nat) : Int) := by
      unfold greatestExponent
      omega
    rw [if_neg hcarry]
    dsimp only
    rw [if_neg hsmall]
    exact isWhole_iff

/-- A ratio counted in units of `2 ^ -(j + 1)` comes to a whole number just when it is at most half
a unit away from it. -/
theorem isWhole_ofRatio_iff_near {num den j n : Nat} (hnum : num ≠ 0) (hden : 0 < den)
    (he : exponentFor num den = -((j + 1 : Nat) : Int)) :
    (ofRatio false num den).isWhole = true ∧ (ofRatio false num den).truncate? = some (n : Int) ↔
      ((num : Int) - (n * den : Nat)).natAbs ≤ den / 2 ^ (j + 2) := by
  have heven : n * 2 ^ (j + 1) = 2 * (n * 2 ^ j) := by
    rw [Nat.pow_succ, ← Nat.mul_assoc, Nat.mul_comm]
  have hunits (x : Nat) : x * 2 ^ (j + 2) = 2 * (x * 2 ^ (j + 1)) := by
    rw [Nat.pow_succ 2 (j + 1), ← Nat.mul_assoc, Nat.mul_comm]
  have hswap : n * den * 2 ^ (j + 1) = n * 2 ^ (j + 1) * den := Nat.mul_right_comm _ _ _
  rw [isWhole_ofRatio_iff hnum he, Nat.le_div_iff_mul_le (Nat.two_pow_pos _),
    natAbs_sub_mul_le_iff, hunits, hunits, hswap, heven, divideRounded_eq_even_iff hden]

/-! ## Signs -/

/-- A rounded ratio has the sign that it was given. -/
theorem ofRatio_cases (negative : Bool) (num den : Nat) :
    (∃ m e, ofRatio negative num den = finite negative m e) ∨
      ofRatio negative num den = infinite negative := by
  fun_cases ofRatio negative num den
  · exact .inl ⟨_, _, rfl⟩
  · exact .inr rfl
  · exact .inl ⟨_, _, rfl⟩

theorem isPositive_ofRatio_true (num den : Nat) : (ofRatio true num den).isPositive = false := by
  rcases ofRatio_cases true num den with ⟨m, e, h⟩ | h <;> rw [h] <;> rfl

/-- The whole part of a ratio without a sign has none. -/
theorem exists_of_truncate?_ofRatio {num den : Nat} {n : Int}
    (h : (ofRatio false num den).truncate? = some n) : ∃ k : Nat, n = k := by
  rcases ofRatio_cases false num den with ⟨m, e, hratio⟩ | hratio <;> rw [hratio] at h
  · cases h
    exact ⟨_, rfl⟩
  · cases h

/-- A number with a positive whole part is positive. -/
theorem isPositive_of_truncate? {x : Binary64} {n : Int} (h : x.truncate? = some n) (hn : 0 < n) :
    x.isPositive = true := by
  cases x with
  | infinite => cases h
  | nan => cases h
  | finite negative m e =>
      simp only [truncate?, Option.some.injEq] at h
      cases negative with
      | true =>
          rw [if_pos rfl] at h
          omega
      | false =>
          have hne : m ≠ 0 := by
            rintro rfl
            simp at h
            omega
          simp [isPositive, hne]

end UrlSigning.Binary64
