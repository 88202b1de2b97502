/-
  Lib/RoundingResidue.lean --- what rounding the terms of a sum does to the sum.

  Rounding to a scale replaces what a number has beyond whole units by nothing or by one
  unit.  So a sum of rounded numbers differs from the exact sum by the units added less
  the fractions dropped, and agrees with it exactly when the two balance.
-/
import SmartErpPos.Lib.RoundedRat

set_option autoImplicit false

namespace SmartErpPos.Lib

variable {scale : ℕ}

/-! ## One number -/

/-- What a number has beyond whole units of the scale, in units. -/
def residue (scale : ℕ) (q : ℚ) : ℚ := Int.fract (q * 10 ^ scale)

/-- Is the number rounded up? -/
def RoundsUp (scale : ℕ) (q : ℚ) : Prop := 1 / 2 ≤ residue scale q

instance (scale : ℕ) (q : ℚ) : Decidable (RoundsUp scale q) := inferInstanceAs (Decidable (_ ≤ _))

/-- Above minus half a unit, rounding half away from zero is rounding half up. -/
theorem roundHalfAway_eq_floor {q : ℚ} (h : -(1 / 2) < q) :
    roundHalfAway q = ⌊q + 1 / 2⌋ := by
  rcases le_or_gt 0 q with hq | hq
  · exact Numeric.roundHalfAway_of_nonneg hq
  · have hfloor : ⌊q + 1 / 2⌋ = 0 := by
      rw [Int.floor_eq_iff]
      push_cast
      constructor <;> linarith
    have hceil : ⌈q - 1 / 2⌉ = 0 := by
      rw [Int.ceil_eq_iff]
      push_cast
      constructor <;> linarith
    rw [hfloor]
    unfold roundHalfAway
    rw [if_neg (not_le.mpr hq), hceil]

/-- Rounding drops the residue, and adds a unit where it rounds up. -/
theorem roundTo_eq_add {q : ℚ} (h : -(1 / 2) < q * 10 ^ scale) :
    roundTo scale q = q + ((if RoundsUp scale q then 1 else 0) - residue scale q) / 10 ^ scale := by
  have hpow : (0 : ℚ) < 10 ^ scale := by positivity
  have hsplit : q * 10 ^ scale = ⌊q * 10 ^ scale⌋ + residue scale q := (Int.floor_add_fract _).symm
  have hlow : 0 ≤ residue scale q := Int.fract_nonneg _
  have hhigh : residue scale q < 1 := Int.fract_lt_one _
  have hround : roundTo scale q = (⌊q * 10 ^ scale + 1 / 2⌋ : ℤ) / 10 ^ scale := by
    unfold roundTo Numeric.ofRat Numeric.toRat
    rw [roundHalfAway_eq_floor h]
  have hfloor : (⌊q * 10 ^ scale + 1 / 2⌋ : ℚ) =
      q * 10 ^ scale + ((if RoundsUp scale q then 1 else 0) - residue scale q) := by
    by_cases hup : RoundsUp scale q
    · have hnext : ⌊q * 10 ^ scale + 1 / 2⌋ = ⌊q * 10 ^ scale⌋ + 1 := by
        rw [Int.floor_eq_iff]
        unfold RoundsUp at hup
        push_cast
        constructor <;> linarith
      rw [if_pos hup, hnext]
      push_cast
      linarith
    · have hsame : ⌊q * 10 ^ scale + 1 / 2⌋ = ⌊q * 10 ^ scale⌋ := by
        rw [Int.floor_eq_iff]
        unfold RoundsUp at hup
        constructor <;> linarith
      rw [if_neg hup, hsame]
      linarith
  rw [hround, hfloor, add_div, mul_div_cancel_right₀ _ hpow.ne']

/-- Which numbers are not rounded below zero. -/
theorem roundTo_nonneg_iff {q : ℚ} : 0 ≤ roundTo scale q ↔ -(1 / 2) < q * 10 ^ scale := by
  have hpow : (0 : ℚ) < 10 ^ scale := by positivity
  have hunits : 0 ≤ roundTo scale q ↔ 0 ≤ roundHalfAway (q * 10 ^ scale) := by
    unfold roundTo Numeric.ofRat Numeric.toRat
    rw [le_div_iff₀ hpow, zero_mul]
    exact Int.cast_nonneg_iff
  rw [hunits]
  unfold roundHalfAway
  split
  · rename_i hq
    refine iff_of_true (Int.floor_nonneg.mpr (by linarith)) (by linarith)
  · have hceil : -1 < ⌈q * 10 ^ scale - 1 / 2⌉ ↔ ((-1 : ℤ) : ℚ) < q * 10 ^ scale - 1 / 2 :=
      Int.lt_ceil
    rw [Int.lt_iff_add_one_le, neg_add_cancel] at hceil
    rw [hceil]
    push_cast
    constructor <;> intro h <;> linarith

/-! ## Sums -/

/-- The units that rounding adds to a list of numbers, less the fractions it drops. -/
def gained (scale : ℕ) (qs : List ℚ) : ℚ :=
  qs.countP (fun q => decide (RoundsUp scale q)) - (qs.map (residue scale)).sum

theorem sum_roundTo {qs : List ℚ} (h : ∀ q ∈ qs, -(1 / 2) < q * 10 ^ scale) :
    (qs.map (roundTo scale)).sum = qs.sum + gained scale qs / 10 ^ scale := by
  unfold gained
  induction qs with
  | nil => simp
  | cons q rest ih =>
    obtain ⟨hq, hrest⟩ := List.forall_mem_cons.mp h
    simp only [List.map_cons, List.sum_cons, ih hrest, roundTo_eq_add hq, List.countP_cons,
      decide_eq_true_eq]
    push_cast
    ring

/-- Rounded numbers add up to the exact sum exactly when nothing is gained. -/
theorem sum_roundTo_eq_iff {qs : List ℚ} (h : ∀ q ∈ qs, -(1 / 2) < q * 10 ^ scale) :
    (qs.map (roundTo scale)).sum = qs.sum ↔ gained scale qs = 0 := by
  have hpow : (10 : ℚ) ^ scale ≠ 0 := by positivity
  rw [sum_roundTo h, add_eq_left, div_eq_zero_iff, or_iff_left hpow]

end SmartErpPos.Lib
