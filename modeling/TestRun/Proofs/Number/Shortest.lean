import Mathlib.Algebra.Order.Field.Power
import Mathlib.Data.Rat.Cast.Order
import Mathlib.Tactic.FieldSimp
import Mathlib.Tactic.Linarith
import Mathlib.Tactic.Positivity
import Mathlib.Tactic.Ring
import TestRun.Number.Shortest

/-! The search for the fewest digits ends. -/

set_option autoImplicit false

namespace TestRun.Shortest

structure Interval.Proper (i : Interval) : Prop where
  positive : 0 < i.low
  above : i.low < i.value
  below : i.value < i.high

theorem holds_low (i : Interval) (power : Int) (n : Nat) (h : i.holds power n = true) :
    i.low * 10 ^ (-power).toNat ≤ n * 10 ^ power.toNat * i.denominator := by
  cases closed : i.closed with
  | true =>
      simp only [Interval.holds, closed, if_true, Bool.and_eq_true, decide_eq_true_eq] at h
      exact h.1
  | false =>
      simp only [Interval.holds, closed, Bool.false_eq_true, if_false, Bool.and_eq_true, decide_eq_true_eq] at h
      exact Nat.le_of_lt h.1

theorem inside_holds (i : Interval) (power : Int) (n : Nat)
    (above : i.low * 10 ^ (-power).toNat < n * 10 ^ power.toNat * i.denominator)
    (below : n * 10 ^ power.toNat * i.denominator < i.high * 10 ^ (-power).toNat) : i.holds power n = true := by
  cases closed : i.closed with
  | true =>
      simp only [Interval.holds, closed, if_true, Bool.and_eq_true, decide_eq_true_eq]
      exact ⟨Nat.le_of_lt above, Nat.le_of_lt below⟩
  | false =>
      simp only [Interval.holds, closed, Bool.false_eq_true, if_false, Bool.and_eq_true, decide_eq_true_eq]
      exact ⟨above, below⟩

theorem on_grid_holds (i : Interval) (power : Int) (n : Nat) (found : i.onGrid? power = some n) :
    i.holds power n = true := by
  unfold Interval.onGrid? at found
  dsimp only at found
  split at found
  · rename_i low high
    split at found <;> (obtain rfl := Option.some.inj found; assumption)
  · obtain rfl := Option.some.inj found
    assumption
  · obtain rfl := Option.some.inj found
    assumption
  · cases found

theorem on_grid_positive (i : Interval) (proper : i.Proper) (power : Int) (n : Nat) (found : i.onGrid? power = some n) :
    0 < n := by
  have low := holds_low i power n (on_grid_holds i power n found)
  have shifted : 0 < i.low * 10 ^ (-power).toNat := Nat.mul_pos proper.positive (Nat.pow_pos (by decide))
  rcases Nat.eq_zero_or_pos n with rfl | positive
  · omega
  · exact positive

theorem on_grid_some (i : Interval) (power : Int)
    (near : i.holds power (i.value * 10 ^ (-power).toNat / (10 ^ power.toNat * i.denominator)) = true ∨
      i.holds power (i.value * 10 ^ (-power).toNat / (10 ^ power.toNat * i.denominator) + 1) = true) :
    (i.onGrid? power).isSome = true := by
  rcases near with here | next
  · simp only [Interval.onGrid?, Nat.pow_eq, here]
    cases i.holds power (i.value * 10 ^ (-power).toNat / (10 ^ power.toNat * i.denominator) + 1) <;> rfl
  · simp only [Interval.onGrid?, Nat.pow_eq, next]
    cases i.holds power (i.value * 10 ^ (-power).toNat / (10 ^ power.toNat * i.denominator)) <;> rfl

theorem on_grid_found (i : Interval) (proper : i.Proper) (power : Int) (solid : 0 < i.denominator)
    (fine : 10 ^ power.toNat * i.denominator ≤ (i.high - i.value) * 10 ^ (-power).toNat) :
    (i.onGrid? power).isSome = true := by
  obtain ⟨shift, shifted⟩ : ∃ shift, shift = 10 ^ (-power).toNat := ⟨_, rfl⟩
  obtain ⟨step, stepped⟩ : ∃ step, step = 10 ^ power.toNat * i.denominator := ⟨_, rfl⟩
  have shiftPositive : 0 < shift := by rw [shifted]; exact Nat.pow_pos (by decide)
  have stepPositive : 0 < step := by rw [stepped]; exact Nat.mul_pos (Nat.pow_pos (by decide)) solid
  have low : i.low * shift < i.value * shift := Nat.mul_lt_mul_of_pos_right proper.above shiftPositive
  have high : i.value * shift < i.high * shift := Nat.mul_lt_mul_of_pos_right proper.below shiftPositive
  have reach : i.value * shift + step ≤ i.high * shift := by
    have width : i.value * shift + (i.high - i.value) * shift = i.high * shift := by
      rw [← Nat.add_mul, Nat.add_sub_cancel' (Nat.le_of_lt proper.below)]
    rw [← shifted, ← stepped] at fine
    omega
  have inside (n : Nat) (above : i.low * shift < n * step) (below : n * step < i.high * shift) :
      i.holds power n = true := by
    rw [shifted, stepped, ← Nat.mul_assoc] at above below
    exact inside_holds i power n above below
  have whole := Nat.div_add_mod (i.value * shift) step
  have part := Nat.mod_lt (i.value * shift) stepPositive
  -- Either the value is a point of the grid, or the next point above it is near enough.
  have near : i.holds power (i.value * shift / step) = true ∨ i.holds power (i.value * shift / step + 1) = true := by
    rw [Nat.mul_comm step] at whole
    by_cases exact' : i.value * shift % step = 0
    · exact .inl (inside _ (by omega) (by omega))
    · refine .inr (inside _ ?_ ?_)
      · rw [Nat.add_mul]
        omega
      · rw [Nat.add_mul]
        omega
  rw [shifted, stepped] at near
  exact on_grid_some i power near

theorem digits_positive (i : Interval) (proper : i.Proper) (place : Int) (tries count k : Nat) (within : k < tries)
    (found : (i.onGrid? (place - (count + k : Nat))).isSome = true) : 0 < (i.digitsFrom place tries count).1 := by
  induction tries generalizing count k with
  | zero => cases within
  | succ tries ih =>
      rw [Interval.digitsFrom]
      cases here : i.onGrid? (place - count) with
      | some n => exact on_grid_positive i proper _ n here
      | none =>
          cases k with
          | zero =>
              rw [Nat.add_zero, here] at found
              cases found
          | succ k =>
              refine ih (count + 1) k (by omega) ?_
              rwa [show count + 1 + k = count + (k + 1) by omega]

theorem power_split (base : Nat) (positive : 0 < base) (p : Int) :
    (base : ℚ) ^ p * (base : ℚ) ^ (-p).toNat = (base : ℚ) ^ p.toNat := by
  have nonzero : (base : ℚ) ≠ 0 := Nat.cast_ne_zero.mpr (Nat.ne_of_gt positive)
  rw [← zpow_natCast, ← zpow_natCast, ← zpow_add₀ nonzero]
  congr 1
  omega

theorem power_le_iff (n d : Nat) (solid : 0 < d) (p : Int) :
    (10 : ℚ) ^ p ≤ n / d ↔ 10 ^ p.toNat * d ≤ n * 10 ^ (-p).toNat := by
  have split := power_split 10 (by decide) p
  have shift : (0 : ℚ) < 10 ^ (-p).toNat := by positivity
  have solid' : (0 : ℚ) < d := Nat.cast_pos.mpr solid
  push_cast at split
  rw [le_div_iff₀ solid', ← mul_le_mul_iff_left₀ shift, ← @Nat.cast_le ℚ]
  push_cast
  rw [← split]
  constructor <;> intro h <;> linarith [h]

theorem place_low (i : Interval) (solid : 0 < i.denominator) (tries : Nat) (place : Int)
    (start : (10 : ℚ) ^ (place - 1) ≤ i.value / i.denominator) :
    (10 : ℚ) ^ (i.placeFrom tries place - 1) ≤ i.value / i.denominator := by
  induction tries generalizing place with
  | zero => exact start
  | succ tries ih =>
      rw [Interval.placeFrom]
      split
      · exact start
      · rename_i high
        apply ih
        rw [add_sub_cancel_right, power_le_iff _ _ solid]
        simpa only [Nat.pow_eq, Nat.not_lt] using high

theorem near_logarithm : 10 ^ 1233 ≤ 2 ^ 4096 ∧ 2 ^ 4096 ≤ 2 * 10 ^ 1233 := by
  decide +kernel

-- The estimate of a place: 1233 / 4096 is just below the logarithm of two, and near enough for any exponent.
theorem estimate_low (b : Int) (bounded : -4096 ≤ b) : (10 : ℚ) ^ (Int.fdiv (b * 1233) 4096 - 1) ≤ 2 ^ b := by
  obtain ⟨s, same⟩ : ∃ s, s = Int.fdiv (b * 1233) 4096 := ⟨_, rfl⟩
  have rounded : s * 4096 ≤ b * 1233 := by
    rw [same, Int.fdiv_eq_ediv_of_nonneg _ (by decide)]
    exact Int.ediv_mul_le _ (by decide)
  rw [← same, ← pow_le_pow_iff_left₀ (by positivity) (by positivity) (show 4096 ≠ 0 by decide)]
  obtain ⟨below, above⟩ := near_logarithm
  have belowCast : (10 : ℚ) ^ 1233 ≤ 2 ^ 4096 := by exact_mod_cast below
  have aboveCast : (2 : ℚ) ^ 4096 ≤ 2 * 10 ^ 1233 := by exact_mod_cast above
  calc ((10 : ℚ) ^ (s - 1)) ^ 4096
      = 10 ^ ((s - 1) * 4096) := by rw [zpow_mul, ← zpow_natCast]; rfl
    _ ≤ 10 ^ (b * 1233 - 4096) := zpow_le_zpow_right₀ (by norm_num) (by omega)
    _ ≤ ((2 : ℚ) ^ b) ^ 4096 := ?_
  rcases Int.le_total 0 b with positive | negative
  · obtain ⟨n, rfl⟩ := Int.eq_ofNat_of_zero_le positive
    calc (10 : ℚ) ^ ((n : Int) * 1233 - 4096)
        ≤ 10 ^ ((n : Int) * 1233) := zpow_le_zpow_right₀ (by norm_num) (by omega)
      _ = (10 ^ 1233) ^ n := by rw [← pow_mul, Nat.mul_comm, ← zpow_natCast]; push_cast; rfl
      _ ≤ (2 ^ 4096) ^ n := pow_le_pow_left₀ (by positivity) belowCast n
      _ = ((2 : ℚ) ^ (n : Int)) ^ 4096 := by rw [zpow_natCast, ← pow_mul, ← pow_mul, Nat.mul_comm]
  · obtain ⟨n, rfl⟩ : ∃ n : Nat, b = -(n : Int) := ⟨b.natAbs, by omega⟩
    have small : n ≤ 4096 := by omega
    have inverse : ((2 : ℚ) ^ 4096) ^ n ≤ 10 ^ (n * 1233 + 4096) :=
      calc ((2 : ℚ) ^ 4096) ^ n
          ≤ (2 * 10 ^ 1233) ^ n := pow_le_pow_left₀ (by positivity) aboveCast n
        _ = 10 ^ (n * 1233) * 2 ^ n := by rw [mul_pow, ← pow_mul, Nat.mul_comm 1233, mul_comm]
        _ ≤ 10 ^ (n * 1233) * 10 ^ 4096 := by
            gcongr ?_ * ?_
            exact (pow_le_pow_left₀ (by norm_num) (by norm_num) n).trans (pow_le_pow_right₀ (by norm_num) small)
        _ = 10 ^ (n * 1233 + 4096) := (pow_add _ _ _).symm
    have exponent : -(n : Int) * 1233 - 4096 = -((n * 1233 + 4096 : Nat) : Int) := by push_cast; ring
    have flipped : ((2 : ℚ) ^ n) ^ 4096 = (2 ^ 4096) ^ n := by rw [← pow_mul, ← pow_mul, Nat.mul_comm]
    rw [exponent, zpow_neg, zpow_neg, zpow_natCast, zpow_natCast, inv_pow, flipped]
    exact inv_anti₀ (pow_pos (pow_pos (by norm_num) _) _) inverse

theorem significand_small (x : Binary64) : x.significand < 2 ^ 53 := by
  have fraction : x.fractionField < 2 ^ 52 := Nat.mod_lt _ (by decide)
  rw [Binary64.significand, Nat.pow_eq]
  split <;> omega

theorem interval_value (x : Binary64) :
    ((interval x).value : ℚ) / (interval x).denominator = x.significand * 2 ^ x.exponent := by
  have split := power_split 2 (by decide) (x.exponent - 2)
  rw [neg_sub] at split
  have solid : (2 : ℚ) ^ (2 - x.exponent).toNat ≠ 0 := by positivity
  push_cast at split
  simp only [interval, Nat.pow_eq]
  push_cast
  rw [div_eq_iff solid, ← split, zpow_sub₀ (by norm_num)]
  ring

theorem interval_proper (x : Binary64) (some : x.significand ≠ 0) : (interval x).Proper := by
  have up : 0 < 2 ^ (x.exponent - 2).toNat := Nat.pow_pos (by decide)
  have least (gap : Nat) (small : gap ≤ 2) : 0 < (4 * x.significand - gap) * 2 ^ (x.exponent - 2).toNat :=
    Nat.mul_pos (by omega) up
  have lower (gap : Nat) (positive : 0 < gap) :
      (4 * x.significand - gap) * 2 ^ (x.exponent - 2).toNat < 4 * x.significand * 2 ^ (x.exponent - 2).toNat :=
    Nat.mul_lt_mul_of_pos_right (by omega) up
  constructor
  · simp only [interval, Nat.pow_eq]
    split
    · exact least 1 (by decide)
    · exact least 2 (by decide)
  · simp only [interval, Nat.pow_eq]
    split
    · exact lower 1 (by decide)
    · exact lower 2 (by decide)
  · simp only [interval, Nat.pow_eq]
    exact Nat.mul_lt_mul_of_pos_right (by omega) up

-- Behind the seventeenth digit the grid is finer than the interval, since the significand has fifty-three bits.
theorem grid_fine (x : Binary64) (place : Int)
    (low : (10 : ℚ) ^ (place - 1) ≤ (interval x).value / (interval x).denominator) :
    (10 : ℚ) ^ (place - 18) ≤ (((interval x).high - (interval x).value : Nat) : ℚ) / (interval x).denominator := by
  have solid : (0 : ℚ) < (interval x).denominator := by
    simp only [interval, Nat.pow_eq]
    positivity
  have shape : (interval x).value = 2 * x.significand * ((interval x).high - (interval x).value) := by
    simp only [interval, Nat.pow_eq]
    rw [← Nat.sub_mul, Nat.add_sub_cancel_left]
    ring
  have small : ((2 * x.significand : Nat) : ℚ) ≤ 10 ^ 17 := by
    have bound := significand_small x
    exact_mod_cast (show 2 * x.significand ≤ 10 ^ 17 by omega)
  have shift : (10 : ℚ) ^ (place - 1) = 10 ^ (place - 18) * 10 ^ 17 := by
    rw [← zpow_natCast, ← zpow_add₀ (by norm_num)]
    congr 1
    push_cast
    ring
  generalize (interval x).high - (interval x).value = width at shape ⊢
  rw [shape, shift, Nat.cast_mul, le_div_iff₀ solid] at low
  rw [le_div_iff₀ solid]
  have wide : ((2 * x.significand : Nat) : ℚ) * width ≤ 10 ^ 17 * width := by gcongr
  linarith

theorem digits_found (x : Binary64) (some : x.significand ≠ 0) :
    ∃ n, 0 < n ∧ (decimal x).digits = ((Nat.toDigits 10 n).reverse.dropWhile (· = '0')).reverse := by
  have solid : 0 < (interval x).denominator := Nat.pow_pos (by decide)
  have exponent : -1074 ≤ x.exponent := by
    rw [Binary64.exponent]
    omega
  have leading : (2 : ℚ) ^ ((x.significand.log2 : Int) + x.exponent) ≤
      (interval x).value / (interval x).denominator := by
    have below : ((2 ^ x.significand.log2 : Nat) : ℚ) ≤ x.significand := Nat.cast_le.mpr (Nat.log2_self_le some)
    rw [interval_value, zpow_add₀ (by norm_num), zpow_natCast]
    push_cast at below
    gcongr
  have start := (estimate_low ((x.significand.log2 : Int) + x.exponent) (by omega)).trans leading
  have place := place_low (interval x) solid 4 _ start
  have fine := (power_le_iff _ _ solid _).mp (grid_fine x _ place)
  have found := on_grid_found (interval x) (interval_proper x some) _ solid fine
  exact ⟨_, digits_positive (interval x) (interval_proper x some) _ 20 1 17 (by decide) found, rfl⟩

end TestRun.Shortest
