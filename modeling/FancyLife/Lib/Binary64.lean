import FancyLife.Lib.Decimal
import Mathlib.Data.Int.Log

/-! # Rounding to binary64

A rational number rounded to 53 significant bits, ties to the even one. The exponent
has a lower end only: whoever uses `round` decides what is too large. `round_lt_iff`
says which numbers are rounded to less than a power of two.
-/

namespace Binary64

/-- The exponent of the last bit: 53 significant bits, and none below `2 ^ (-1074)`. -/
def exponent (q : Rat) : ℤ := max (Int.log 2 |q| - 52) (-1074)

/-- The nearest number with 53 significant bits; ties go to the even one. -/
def round (q : Rat) : Rat := Decimal.nearest (q / 2 ^ exponent q) * 2 ^ exponent q

theorem exponent_of_pos {q : Rat} (hq : 0 < q) :
    exponent q = max (Int.log 2 q - 52) (-1074) := by
  unfold exponent
  rw [abs_of_pos hq]

/-- The power of two below a positive number. -/
theorem log_bounds {q : Rat} (hq : 0 < q) :
    (2 : Rat) ^ Int.log 2 q ≤ q ∧ q < (2 : Rat) ^ (Int.log 2 q + 1) := by
  have hle := Int.zpow_log_le_self (by decide : 1 < 2) hq
  have hlt := Int.lt_zpow_succ_log_self (by decide : 1 < 2) q
  rw [Nat.cast_ofNat] at hle hlt
  exact ⟨hle, hlt⟩

/-- Rounding moves a number by half of its last bit at most. -/
theorem round_le (q : Rat) : round q ≤ q + 2 ^ exponent q / 2 := by
  have hpow : (0 : Rat) < 2 ^ exponent q := zpow_pos two_pos _
  have hclose := (abs_le.1 (Decimal.abs_nearest_sub_le (q / 2 ^ exponent q))).2
  have hscaled : (Decimal.nearest (q / 2 ^ exponent q) - q / 2 ^ exponent q) * 2 ^ exponent q ≤
      1 / 2 * 2 ^ exponent q := mul_le_mul_of_nonneg_right hclose hpow.le
  rw [sub_mul, div_mul_cancel₀ _ hpow.ne'] at hscaled
  unfold round
  linarith

/-- A bound on the scaled number, which is an integer, bounds the rounded one. -/
theorem le_round {q : Rat} {n : ℤ} (h : (n : Rat) * 2 ^ exponent q ≤ q) :
    (n : Rat) * 2 ^ exponent q ≤ round q := by
  have hpow : (0 : Rat) < 2 ^ exponent q := zpow_pos two_pos _
  have hscaled : (n : Rat) ≤ q / 2 ^ exponent q := (le_div_iff₀ hpow).2 h
  have hnearest := Decimal.nearest_mono hscaled
  rw [Decimal.nearest_intCast] at hnearest
  have hcast : (n : Rat) ≤ Decimal.nearest (q / 2 ^ exponent q) := by exact_mod_cast hnearest
  exact mul_le_mul_of_nonneg_right hcast hpow.le

/-- The tie below `2 ^ 53` goes up. -/
theorem nearest_tie : Decimal.nearest (2 ^ 53 - 1 / 2) = 2 ^ 53 := by
  refine (Decimal.isNearest_nearest _).unique (Or.inr ⟨?_, by decide⟩)
  norm_num

section Bounds

variable {q : Rat} {n : ℤ}

theorem zpow_sub_one_le (n : ℤ) : (2 : Rat) ^ (n - 1) ≤ 2 ^ n - 2 ^ (n - 54) := by
  have hmono : (2 : Rat) ^ (n - 54) ≤ 2 ^ (n - 1) :=
    zpow_le_zpow_right₀ (by norm_num) (by omega)
  have hdouble : (2 : Rat) ^ n = 2 * 2 ^ (n - 1) := by
    rw [← zpow_one_add₀ (by norm_num)]
    congr 1
    omega
  linarith

/-- The power of two, scaled. -/
theorem zpow_eq_scaled (n : ℤ) : (2 : Rat) ^ n = 2 ^ 53 * 2 ^ (n - 53) := by
  rw [← zpow_natCast, ← zpow_add₀ (by norm_num)]
  congr 1
  omega

/-- The scaled halfway point below a power of two. -/
theorem halfway_eq (n : ℤ) :
    (2 : Rat) ^ n - 2 ^ (n - 54) = (2 ^ 53 - 1 / 2) * 2 ^ (n - 53) := by
  have hhalf : (2 : Rat) ^ (n - 53) = 2 * 2 ^ (n - 54) := by
    rw [← zpow_one_add₀ (by norm_num)]
    congr 1
    omega
  rw [zpow_eq_scaled n, sub_mul, hhalf]
  ring

/-- At the halfway point a number is rounded up to the power. -/
theorem zpow_le_round (hn : -1020 ≤ n) (hq : 0 < q) (h : 2 ^ n - 2 ^ (n - 54) ≤ q) :
    2 ^ n ≤ round q := by
  have hlog : n - 1 ≤ Int.log 2 q := by
    refine (Int.zpow_le_iff_le_log (by decide) hq).1 ?_
    rw [Nat.cast_ofNat]
    exact (zpow_sub_one_le n).trans h
  have hexp : exponent q = Int.log 2 q - 52 := by
    rw [exponent_of_pos hq]
    omega
  rcases eq_or_lt_of_le hlog with heq | hlt
  · -- the binade just below
    have hexp' : exponent q = n - 53 := by omega
    have hpow : (0 : Rat) < 2 ^ (n - 53) := zpow_pos two_pos _
    rw [halfway_eq] at h
    have hscaled := Decimal.nearest_mono ((le_div_iff₀ hpow).2 h)
    rw [nearest_tie] at hscaled
    have hcast : (2 : Rat) ^ 53 ≤ Decimal.nearest (q / 2 ^ (n - 53)) := by exact_mod_cast hscaled
    unfold round
    rw [hexp', zpow_eq_scaled n]
    exact mul_le_mul_of_nonneg_right hcast hpow.le
  · -- a power of two at or above the bound is below the number already
    have hbits : ((2 ^ 52 : ℤ) : Rat) * 2 ^ exponent q = 2 ^ Int.log 2 q := by
      rw [hexp, Int.cast_pow, Int.cast_ofNat, ← zpow_natCast, ← zpow_add₀ (by norm_num)]
      congr 1
      omega
    have hround := @le_round q (2 ^ 52) (hbits ▸ (log_bounds hq).1)
    rw [hbits] at hround
    exact (zpow_le_zpow_right₀ (by norm_num) (by omega)).trans hround

/-- Below the halfway point a number stays below the power. -/
theorem round_lt_zpow (hn : -1020 ≤ n) (hq : 0 < q) (h : q < 2 ^ n - 2 ^ (n - 54)) :
    round q < 2 ^ n := by
  have hpos : (0 : Rat) < 2 ^ (n - 54) := zpow_pos two_pos _
  have hlog : Int.log 2 q < n := by
    refine (Int.lt_zpow_iff_log_lt (by decide) hq).1 ?_
    rw [Nat.cast_ofNat]
    linarith
  rcases eq_or_lt_of_le (Int.le_sub_one_of_lt hlog) with heq | hlt
  · have hexp : exponent q = n - 53 := by
      rw [exponent_of_pos hq]
      omega
    have hpow : (0 : Rat) < 2 ^ (n - 53) := zpow_pos two_pos _
    rw [halfway_eq] at h
    have hscaled : q / 2 ^ (n - 53) < 2 ^ 53 - 1 / 2 := (div_lt_iff₀ hpow).2 h
    have hclose := (abs_le.1 (Decimal.abs_nearest_sub_le (q / 2 ^ (n - 53)))).2
    have hint : (Decimal.nearest (q / 2 ^ (n - 53)) : Rat) < 2 ^ 53 := by linarith
    unfold round
    rw [hexp, zpow_eq_scaled n]
    exact mul_lt_mul_of_pos_right hint hpow
  · -- a smaller binade leaves room for half a bit
    have hexp : exponent q ≤ n - 54 := by
      rw [exponent_of_pos hq]
      omega
    have hbit : (2 : Rat) ^ exponent q ≤ 2 ^ (n - 54) := zpow_le_zpow_right₀ (by norm_num) hexp
    have hbelow : q < 2 ^ (n - 1) := by
      refine (log_bounds hq).2.trans_le ?_
      exact zpow_le_zpow_right₀ (by norm_num) (by omega)
    have hround := round_le q
    have hroom := zpow_sub_one_le n
    linarith

/-- The numbers that are rounded to less than a power of two. -/
theorem round_lt_iff (hn : -1020 ≤ n) (hq : 0 < q) :
    round q < 2 ^ n ↔ q < 2 ^ n - 2 ^ (n - 54) := by
  constructor
  · intro hround
    by_contra hnot
    exact absurd hround (not_lt.2 (zpow_le_round hn hq (not_lt.1 hnot)))
  · exact round_lt_zpow hn hq

end Bounds

/-- A positive number is rounded to one that is not negative. -/
theorem round_nonneg {q : Rat} (hq : 0 < q) : 0 ≤ round q := by
  have hzero : ((0 : ℤ) : Rat) * 2 ^ exponent q ≤ q := by
    rw [Int.cast_zero, zero_mul]
    exact hq.le
  have hround := le_round hzero
  rwa [Int.cast_zero, zero_mul] at hround

end Binary64
