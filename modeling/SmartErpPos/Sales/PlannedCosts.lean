/-
  Sales/PlannedCosts.lean --- the costs planned for the lines of one product.

  All lines but the last get their rounded share of the actual cost, and the last one what
  they leave.  So the planned costs always add up, and none is negative exactly when
  rounding the first shares does not gain more than the last line's exact share.
-/
import Mathlib.Algebra.BigOperators.Ring.List
import SmartErpPos.Lib.RoundingResidue
import SmartErpPos.Sales.CostReconciliation

set_option autoImplicit false

namespace SmartErpPos.Sales

open SmartErpPos.Lib

/-! ## The planned costs -/

/-- The exact shares of a product's lines in its actual cost. -/
def exactCosts (actualTotal : ℚ) (previews : List ℚ) : List ℚ :=
  previews.map fun part =>
    if 0 < previews.sum then actualTotal * (part / previews.sum) else actualTotal / previews.length

theorem sum_exactCosts {actualTotal : ℚ} {previews : List ℚ} (h : previews ≠ []) :
    (exactCosts actualTotal previews).sum = actualTotal := by
  unfold exactCosts
  split
  · rename_i hsum
    have hterms : (previews.map fun part => actualTotal * (part / previews.sum)) =
        previews.map fun part => actualTotal / previews.sum * part :=
      List.map_congr_left fun part _ => by ring
    rw [hterms, List.sum_map_mul_left, List.map_id', div_mul_cancel₀ _ hsum.ne']
  · have hlength : (previews.length : ℚ) ≠ 0 := by
      exact_mod_cast fun hzero => h (List.length_eq_zero_iff.mp hzero)
    rw [List.map_const', List.sum_replicate, nsmul_eq_mul, mul_div_cancel₀ _ hlength]

/-- The rounded shares of all lines but the last, and what they leave. -/
theorem lineActuals_eq (actualTotal previewSum : ℚ) (count : ℕ) :
    ∀ {parts : List ℚ} (_ : parts ≠ []) (allocated : ℚ),
      lineActuals actualTotal previewSum count parts allocated =
        parts.dropLast.map (roundedShare actualTotal previewSum count) ++
          [actualTotal - allocated -
            (parts.dropLast.map (roundedShare actualTotal previewSum count)).sum]
  | [], h, _ => absurd rfl h
  | [part], _, allocated => by simp [lineActuals]
  | part :: next :: rest, _, allocated => by
    have ih := lineActuals_eq actualTotal previewSum count (List.cons_ne_nil next rest)
      (allocated + roundedShare actualTotal previewSum count part)
    rw [lineActuals, ih, List.dropLast_cons_of_ne_nil (List.cons_ne_nil next rest), List.map_cons,
      List.sum_cons, List.cons_append]
    congr 3
    ring

/-- The planned costs of all lines of a product. -/
def plannedActuals (actualTotal : ℚ) (previews : List ℚ) : List ℚ :=
  lineActuals actualTotal previews.sum previews.length previews 0

section Planned

variable {actualTotal : ℚ} {previews : List ℚ}

theorem plannedActuals_eq (h : previews ≠ []) :
    plannedActuals actualTotal previews =
      (exactCosts actualTotal previews).dropLast.map (roundTo 2) ++
        [actualTotal - ((exactCosts actualTotal previews).dropLast.map (roundTo 2)).sum] := by
  have hrounded : previews.dropLast.map
      (roundedShare actualTotal previews.sum previews.length) =
        (exactCosts actualTotal previews).dropLast.map (roundTo 2) := by
    unfold exactCosts
    rw [← List.map_dropLast, List.map_map]
    refine List.map_congr_left fun part _ => ?_
    unfold roundedShare
    rw [Function.comp_apply]
    split <;> rfl
  unfold plannedActuals
  rw [lineActuals_eq _ _ _ h, hrounded, sub_zero]

theorem length_plannedActuals : (plannedActuals actualTotal previews).length = previews.length := by
  rcases eq_or_ne previews [] with rfl | h
  · rfl
  · have hlength := List.length_pos_iff.mpr h
    rw [plannedActuals_eq h, List.length_append, List.length_map, List.length_dropLast]
    simp only [exactCosts, List.length_map, List.length_singleton]
    omega

/-- They add up to the actual cost. -/
theorem sum_plannedActuals (h : previews ≠ []) :
    (plannedActuals actualTotal previews).sum = actualTotal := by
  rw [plannedActuals_eq h, List.sum_append, List.sum_singleton]
  ring

theorem onGrid_plannedActuals (hactual : OnGrid 2 actualTotal) :
    ∀ cost ∈ plannedActuals actualTotal previews, OnGrid 2 cost := by
  rcases eq_or_ne previews [] with rfl | h
  · intro cost hcost
    cases hcost
  · have hrounded : ∀ cost ∈ (exactCosts actualTotal previews).dropLast.map (roundTo 2),
        OnGrid 2 cost := by
      intro cost hcost
      obtain ⟨share, -, rfl⟩ := List.mem_map.mp hcost
      exact onGrid_roundTo share
    rw [plannedActuals_eq h]
    intro cost hcost
    rcases List.mem_append.mp hcost with hcost | hcost
    · exact hrounded cost hcost
    · rw [List.mem_singleton.mp hcost]
      exact hactual.sub (onGrid_sum hrounded)

/-- No share before the last is half a cent or more below zero, and what rounding them gains
is not above the exact share of the last. -/
structure CostsSplit (actualTotal : ℚ) (previews : List ℚ) : Prop where
  early : ∀ share ∈ (exactCosts actualTotal previews).dropLast, -(1 / 2) < share * 10 ^ 2
  last : ∀ share ∈ (exactCosts actualTotal previews).getLast?,
    gained 2 (exactCosts actualTotal previews).dropLast ≤ share * 10 ^ 2

/-- Exactly then no planned cost is negative. -/
theorem plannedActuals_nonneg_iff (h : previews ≠ []) :
    (∀ cost ∈ plannedActuals actualTotal previews, 0 ≤ cost) ↔ CostsSplit actualTotal previews := by
  have hexact : exactCosts actualTotal previews ≠ [] := by
    unfold exactCosts
    rw [ne_eq, List.map_eq_nil_iff]
    exact h
  have hsplit := List.dropLast_append_getLast hexact
  have hsum : (exactCosts actualTotal previews).dropLast.sum +
      (exactCosts actualTotal previews).getLast hexact = actualTotal := by
    have htotal : (exactCosts actualTotal previews).sum = actualTotal := sum_exactCosts h
    rw [← hsplit, List.sum_append, List.sum_singleton] at htotal
    exact htotal
  have hlast : ∀ {share : ℚ}, share ∈ (exactCosts actualTotal previews).getLast? ↔
      (exactCosts actualTotal previews).getLast hexact = share := by
    intro share
    rw [List.getLast?_eq_some_getLast hexact, Option.mem_some_iff]
  rw [plannedActuals_eq h, List.forall_mem_append, List.forall_mem_map, List.forall_mem_singleton]
  constructor
  · rintro ⟨hearly, hrest⟩
    have hbound : ∀ share ∈ (exactCosts actualTotal previews).dropLast,
        -(1 / 2) < share * 10 ^ 2 := fun share hshare => roundTo_nonneg_iff.mp (hearly share hshare)
    refine ⟨hbound, fun share hshare => ?_⟩
    rw [sum_roundTo hbound] at hrest
    rw [← hlast.mp hshare]
    linarith
  · rintro ⟨hearly, hrest⟩
    refine ⟨fun share hshare => roundTo_nonneg_iff.mpr (hearly share hshare), ?_⟩
    have hgain := hrest _ (hlast.mpr rfl)
    rw [sum_roundTo hearly]
    linarith

end Planned

end SmartErpPos.Sales
