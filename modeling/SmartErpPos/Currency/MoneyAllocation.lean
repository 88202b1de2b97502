/-
  Currency/MoneyAllocation.lean --- splitting an amount by ratios.

  Source: `utils/money.ts` (`Money.allocate`).

  Every share is rounded to the decimals of the currency, and what the shares then miss of
  the amount is put on the first that is not zero.  The sum is the amount as it was given,
  fractions of a minor unit included.  Many shares that were rounded up take more than the
  amount; the first one pays for it, and may end below zero.
-/
import Mathlib.Algebra.BigOperators.Ring.List
import SmartErpPos.Lib.Apportion
import SmartErpPos.Lib.RoundedRat

set_option autoImplicit false

namespace SmartErpPos.Currency

open SmartErpPos.Lib

/-! ## The split -/

/-- The share of a ratio, rounded to the decimals of the currency. -/
def roundedShare (decimalPlaces : ℕ) (amount total ratio : ℚ) : ℚ :=
  roundTo decimalPlaces (amount * ratio / total)

/-- The first allocation that is not zero, or the first. -/
def remainderIndex (allocations : List ℚ) : ℕ :=
  (allocations.findIdx? fun a => decide (a ≠ 0)).getD 0

/-- `Money.allocate`. -/
def allocate (decimalPlaces : ℕ) (amount : ℚ) (ratios : List ℚ) : List ℚ :=
  let total := ratios.sum
  if total = 0 ∨ ratios = [] then ratios.map fun _ => 0
  else
    let allocations := ratios.map (roundedShare decimalPlaces amount total)
    let remainder := amount - allocations.sum
    if remainder = 0 then allocations
    else allocations.modify (remainderIndex allocations) fun a => a + remainder

theorem remainderIndex_lt {allocations : List ℚ} (h : allocations ≠ []) :
    remainderIndex allocations < allocations.length := by
  unfold remainderIndex
  cases hfind : allocations.findIdx? fun a => decide (a ≠ 0) with
  | none => exact List.length_pos_iff.mpr h
  | some i =>
    obtain ⟨hlt, -⟩ := List.findIdx?_eq_some_iff_getElem.mp hfind
    exact hlt

/-- The rounded shares, with the remainder on one of them. -/
theorem allocate_eq {ratios : List ℚ} (htotal : ratios.sum ≠ 0) (decimalPlaces : ℕ) (amount : ℚ) :
    let allocations := ratios.map (roundedShare decimalPlaces amount ratios.sum)
    allocate decimalPlaces amount ratios =
      settleOn allocations amount (remainderIndex allocations) := by
  intro allocations
  have hne : ratios ≠ [] := by
    rintro rfl
    exact htotal List.sum_nil
  unfold allocate settleOn
  dsimp only
  rw [if_neg (not_or.mpr ⟨htotal, hne⟩)]
  by_cases hzero : amount - allocations.sum = 0
  · rw [if_pos hzero, hzero]
    simp only [add_zero]
    exact (List.modify_id ..).symm
  · rw [if_neg hzero]

/-! ## What a split promises -/

/-- The shares that do not take the remainder come to no more than the amount. -/
def OthersFit (decimalPlaces : ℕ) (amount : ℚ) (ratios : List ℚ) : Prop :=
  let allocations := ratios.map (roundedShare decimalPlaces amount ratios.sum)
  (allocations.eraseIdx (remainderIndex allocations)).sum ≤ amount

instance (decimalPlaces : ℕ) (amount : ℚ) (ratios : List ℚ) :
    Decidable (OthersFit decimalPlaces amount ratios) :=
  inferInstanceAs (Decidable (_ ≤ amount))

/-- One amount for each ratio, which come to the amount and are close to their shares. -/
structure SplitExactly (decimalPlaces : ℕ) (amount : ℚ) (ratios allocations : List ℚ) : Prop where
  length : allocations.length = ratios.length
  sum : allocations.sum = amount
  close : ∀ (i : ℕ) (ratio allocation : ℚ), ratios[i]? = some ratio →
    allocations[i]? = some allocation →
      |allocation - amount * ratio / ratios.sum| < ratios.length * (1 / 10 ^ decimalPlaces)

/-- The exact shares come to the amount. -/
theorem sum_exactShares {ratios : List ℚ} (htotal : ratios.sum ≠ 0) (amount : ℚ) :
    (ratios.map fun ratio => amount * ratio / ratios.sum).sum = amount := by
  have hterm : (fun ratio : ℚ => amount * ratio / ratios.sum) =
      fun ratio => amount / ratios.sum * ratio := by
    funext ratio
    ring
  rw [hterm, List.sum_map_mul_left, List.map_id', div_mul_cancel₀ _ htotal]

end SmartErpPos.Currency
