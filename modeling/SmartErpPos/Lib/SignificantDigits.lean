/-
  Lib/SignificantDigits.lean --- rounding to a number of significant digits.

  A decimal library keeps a fixed number of significant digits of a product, halves away
  from zero.  A number that has no more digits is kept as it is, a number from one up stays
  there, and the relative error is at most half a unit of the last digit kept.
-/
import Mathlib.Data.Int.Log
import Mathlib.Tactic.FieldSimp
import Mathlib.Tactic.Ring
import SmartErpPos.Lib.Numeric

set_option autoImplicit false

namespace SmartErpPos.Lib

open Numeric

/-! ## Rounding -/

/-- The power of ten that leaves the digits kept before the point. -/
def digitShift (digits : ℕ) (q : ℚ) : ℤ := digits - 1 - Int.log 10 |q|

/-- `q` to so many significant digits. -/
def roundSignificant (digits : ℕ) (q : ℚ) : ℚ :=
  roundHalfAway (q * 10 ^ digitShift digits q) / 10 ^ digitShift digits q

/-- A number of at most so many significant digits. -/
def HasDigits (digits : ℕ) (q : ℚ) : Prop := ∃ n k : ℤ, |n| < 10 ^ digits ∧ q = n * 10 ^ k

/-! ## What rounding keeps -/

theorem log_abs_le {q : ℚ} (hq : q ≠ 0) : (10 : ℚ) ^ Int.log 10 |q| ≤ |q| :=
  Int.zpow_log_le_self (by norm_num) (abs_pos.mpr hq)

/-- A number with few enough digits is kept. -/
theorem roundSignificant_eq_self {digits : ℕ} {q : ℚ} (h : HasDigits digits q) :
    roundSignificant digits q = q := by
  obtain ⟨n, k, hn, rfl⟩ := h
  by_cases hzero : (n : ℚ) = 0
  · rw [hzero, zero_mul, roundSignificant, zero_mul]
    have hround : roundHalfAway 0 = 0 := roundHalfAway_intCast 0
    rw [hround, Int.cast_zero, zero_div]
  have hten : (10 : ℚ) ≠ 0 := by norm_num
  have hne : (n : ℚ) * 10 ^ k ≠ 0 := mul_ne_zero hzero (zpow_ne_zero _ hten)
  -- The exponent of the leading digit is below `digits + k`.
  have hbound : |(n : ℚ) * 10 ^ k| < 10 ^ ((digits : ℤ) + k) := by
    rw [abs_mul, abs_of_pos (zpow_pos (by norm_num : (0 : ℚ) < 10) k), zpow_add₀ hten, zpow_natCast]
    have hcast : |(n : ℚ)| < 10 ^ digits := by exact_mod_cast hn
    exact mul_lt_mul_of_pos_right hcast (zpow_pos (by norm_num) k)
  have hlog : Int.log 10 |(n : ℚ) * 10 ^ k| < digits + k :=
    (zpow_lt_zpow_iff_right₀ (by norm_num : (1 : ℚ) < 10)).mp ((log_abs_le hne).trans_lt hbound)
  obtain ⟨m, hm⟩ : ∃ m : ℕ, k + digitShift digits ((n : ℚ) * 10 ^ k) = m :=
    ⟨_, (Int.toNat_of_nonneg (by unfold digitShift; omega)).symm⟩
  have hscaled : (n : ℚ) * 10 ^ k * 10 ^ digitShift digits ((n : ℚ) * 10 ^ k) =
      ((n * 10 ^ m : ℤ) : ℚ) := by
    rw [mul_assoc, ← zpow_add₀ hten, hm, zpow_natCast]
    push_cast
    rfl
  unfold roundSignificant
  rw [hscaled, roundHalfAway_intCast, ← hscaled, mul_div_assoc, div_self (zpow_ne_zero _ hten),
    mul_one]

/-- A number from one up is rounded to one from one up. -/
theorem one_le_roundSignificant {digits : ℕ} (hdigits : 0 < digits) {q : ℚ} (hq : 1 ≤ q) :
    1 ≤ roundSignificant digits q := by
  have hten : (10 : ℚ) ≠ 0 := by norm_num
  have hpos : (0 : ℚ) < q := by linarith
  have hlead := log_abs_le hpos.ne'
  have hlog : 0 ≤ Int.log 10 |q| := by
    rw [abs_of_pos hpos, Int.log_of_one_le_right _ hq]
    exact Int.natCast_nonneg _
  -- The scaled number is at least a power of ten, which rounding keeps.
  have hscaled : (((10 : ℤ) ^ (digits - 1) : ℤ) : ℚ) ≤ q * 10 ^ digitShift digits q := by
    have hsplit : (10 : ℚ) ^ Int.log 10 |q| * 10 ^ digitShift digits q = 10 ^ (digits - 1) := by
      rw [← zpow_add₀ hten, ← zpow_natCast]
      congr 1
      unfold digitShift
      omega
    push_cast
    rw [← hsplit]
    rw [abs_of_pos hpos] at hlead ⊢
    exact mul_le_mul_of_nonneg_right hlead (zpow_pos (by norm_num) _).le
  have hround := roundHalfAway_mono hscaled
  rw [roundHalfAway_intCast] at hround
  unfold roundSignificant
  rw [le_div_iff₀ (zpow_pos (by norm_num) _), one_mul]
  have hshift : (10 : ℚ) ^ digitShift digits q ≤ 10 ^ (digits - 1) := by
    rw [← zpow_natCast]
    refine zpow_le_zpow_right₀ (by norm_num) ?_
    unfold digitShift
    omega
  refine hshift.trans ?_
  exact_mod_cast hround

/-- The error is at most half a unit of the last digit kept. -/
theorem abs_roundSignificant_sub_le (digits : ℕ) (q : ℚ) :
    |roundSignificant digits q - q| ≤ |q| * (10 / (2 * 10 ^ digits)) := by
  by_cases hq : q = 0
  · subst hq
    have hround : roundHalfAway 0 = 0 := roundHalfAway_intCast 0
    rw [roundSignificant, zero_mul, hround, Int.cast_zero, zero_div, sub_self, abs_zero, zero_mul]
  have hten : (10 : ℚ) ≠ 0 := by norm_num
  have hpow : (0 : ℚ) < 10 ^ digitShift digits q := zpow_pos (by norm_num) _
  have herror := abs_roundHalfAway_sub_le (q * 10 ^ digitShift digits q)
  have hdiff : roundSignificant digits q - q =
      (roundHalfAway (q * 10 ^ digitShift digits q) - q * 10 ^ digitShift digits q) /
        10 ^ digitShift digits q := by
    rw [sub_div, mul_div_assoc, div_self hpow.ne', mul_one]
    rfl
  rw [hdiff, abs_div, abs_of_pos hpow, div_le_iff₀ hpow]
  refine herror.trans ?_
  have hshift : (10 : ℚ) ^ digitShift digits q = 10 ^ digits / 10 / 10 ^ Int.log 10 |q| := by
    rw [digitShift, zpow_sub₀ hten, zpow_sub₀ hten, zpow_natCast, zpow_one]
  have hlead := log_abs_le hq
  have hlog : (0 : ℚ) < 10 ^ Int.log 10 |q| := zpow_pos (by norm_num) _
  calc (1 / 2 : ℚ) = 1 / 2 * (10 ^ Int.log 10 |q| / 10 ^ Int.log 10 |q|) := by
        rw [div_self hlog.ne', mul_one]
    _ ≤ 1 / 2 * (|q| / 10 ^ Int.log 10 |q|) := by gcongr
    _ = |q| * (10 / (2 * 10 ^ digits)) * 10 ^ digitShift digits q := by
        rw [hshift]
        field_simp

end SmartErpPos.Lib
