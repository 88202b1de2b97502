/-
  Sales/ProfitShares.lean --- the cart discount spread over the lines' profit.

  Source: `src/shared/domain/saleDiscountSsot.ts` (`cartDiscountProfitShares`).

  Every share is rounded to cents when it is pushed, the last one included, while the
  remainder for the last line is taken before rounding.  So the shares add up to the cart
  discount only where the fractions of a cent that are dropped are the ones that are added.
-/
import SmartErpPos.Lib.RoundingResidue
import SmartErpPos.Sales.SaleDiscounts

set_option autoImplicit false

namespace SmartErpPos.Sales

open SmartErpPos.Lib

/-! ## The loop -/

/-- The loop over the lines: the last one takes what the exact shares of the others leave. -/
def profitShareLoop (cart sub : ℚ) : List ℚ → ℚ → List ℚ
  | [], _ => []
  | [_], allocated => [roundSaleMoney (cart - allocated)]
  | net :: next :: rest, allocated =>
    let share := net * cart / sub
    roundSaleMoney share :: profitShareLoop cart sub (next :: rest) (allocated + share)

/-- `cartDiscountProfitShares`. -/
def cartDiscountProfitShares (lineNets : List ℚ) (cartDiscount subtotal : ℚ) : List ℚ :=
  if cartDiscount ≤ 0 ∨ subtotal ≤ 0 ∨ lineNets.length = 0 then lineNets.map fun _ => 0
  else profitShareLoop cartDiscount subtotal lineNets 0

/-- One share for each line, within the line's net, and together the cart discount. -/
structure SharesClose (lineNets : List ℚ) (cart : ℚ) (shares : List ℚ) : Prop where
  lines : List.Forall₂ (fun net share => 0 ≤ share ∧ share ≤ net) lineNets shares
  total : shares.sum = cart

/-! ## The shares -/

/-- The exact shares of the lines. -/
def exactShares (lineNets : List ℚ) (cart sub : ℚ) : List ℚ :=
  lineNets.map fun net => net * cart / sub

theorem sum_exactShares (lineNets : List ℚ) (cart sub : ℚ) :
    (exactShares lineNets cart sub).sum = lineNets.sum * cart / sub := by
  unfold exactShares
  induction lineNets with
  | nil => simp
  | cons net rest ih =>
    simp only [List.map_cons, List.sum_cons, ih]
    ring

/-- Each pushed share is the line's exact share, rounded. -/
theorem profitShareLoop_eq {cart sub : ℚ} : ∀ (lineNets : List ℚ) (allocated : ℚ),
    allocated + (exactShares lineNets cart sub).sum = cart →
      profitShareLoop cart sub lineNets allocated =
        (exactShares lineNets cart sub).map roundSaleMoney
  | [], _, _ => rfl
  | [net], allocated, h => by
    have hlast : cart - allocated = net * cart / sub := by
      simp only [exactShares, List.map_cons, List.map_nil, List.sum_singleton] at h
      linarith
    simp only [profitShareLoop, exactShares, List.map_cons, List.map_nil, hlast]
  | net :: next :: rest, allocated, h => by
    have hrest : allocated + net * cart / sub + (exactShares (next :: rest) cart sub).sum = cart := by
      rw [exactShares, List.map_cons, List.sum_cons] at h
      rw [add_assoc]
      exact h
    have ih := profitShareLoop_eq (next :: rest) (allocated + net * cart / sub) hrest
    simp only [profitShareLoop, ih]
    rfl

theorem cartDiscountProfitShares_eq {lineNets : List ℚ} {cart sub : ℚ} (hsum : lineNets.sum = sub)
    (hsub : 0 < sub) (hcart : 0 ≤ cart) :
    cartDiscountProfitShares lineNets cart sub =
      (exactShares lineNets cart sub).map roundSaleMoney := by
  have hexact : (exactShares lineNets cart sub).sum = cart := by
    rw [sum_exactShares, hsum, mul_div_right_comm, div_self hsub.ne', one_mul]
  unfold cartDiscountProfitShares
  split
  · rename_i hnone
    obtain hzero | hneg | hempty := hnone
    · have hcart0 : cart = 0 := le_antisymm hzero hcart
      have hround : roundSaleMoney 0 = 0 := by decide +kernel
      simp only [exactShares, List.map_map, hcart0]
      refine List.map_congr_left fun net _ => ?_
      simp only [Function.comp_apply, mul_zero, zero_div, hround]
    · exact absurd hsub (not_lt.mpr hneg)
    · rw [List.length_eq_zero_iff.mp hempty]
      rfl
  · exact profitShareLoop_eq lineNets 0 (by rw [zero_add, hexact])

/-- A share that is rounded up needs a line net that reaches the next cent. -/
def ShareFits (cart sub net : ℚ) : Prop :=
  RoundsUp 2 (net * cart / sub) → (⌊net * cart / sub * 100⌋ + 1 : ℚ) ≤ net * 100

theorem share_le_iff {cart sub net : ℚ} (hnet : 0 ≤ net) (hsub : 0 < sub) (hcart : 0 ≤ cart)
    (hle : cart ≤ sub) : roundSaleMoney (net * cart / sub) ≤ net ↔ ShareFits cart sub net := by
  have hexact : 0 ≤ net * cart / sub := by positivity
  have hwithin : net * cart / sub ≤ net := by
    rw [div_le_iff₀ hsub]
    exact mul_le_mul_of_nonneg_left hle hnet
  have hfloor : net * cart / sub * 10 ^ 2 =
      ⌊net * cart / sub * 10 ^ 2⌋ + residue 2 (net * cart / sub) := (Int.floor_add_fract _).symm
  have hfraction : 0 ≤ residue 2 (net * cart / sub) := Int.fract_nonneg _
  have hround : roundSaleMoney (net * cart / sub) = _ := roundTo_eq_add (by linarith)
  rw [hround]
  norm_num at hfloor ⊢
  unfold ShareFits
  by_cases hup : RoundsUp 2 (net * cart / sub)
  · rw [if_pos hup, forall_prop_of_true hup]
    constructor <;> intro h <;> linarith
  · rw [if_neg hup]
    refine iff_of_true ?_ fun h => absurd h hup
    linarith

/-- The shares close exactly when rounding them gains nothing in sum and no share is rounded
above its net. -/
theorem profitShares_close_iff {lineNets : List ℚ} {cart sub : ℚ} (hnets : ∀ net ∈ lineNets, 0 ≤ net)
    (hsum : lineNets.sum = sub) (hsub : 0 < sub) (hcart : 0 ≤ cart) (hle : cart ≤ sub) :
    SharesClose lineNets cart (cartDiscountProfitShares lineNets cart sub) ↔
      gained 2 (exactShares lineNets cart sub) = 0 ∧ ∀ net ∈ lineNets, ShareFits cart sub net := by
  have hexact : ∀ net ∈ lineNets, 0 ≤ net * cart / sub := by
    intro net hmem
    have hnet := hnets net hmem
    positivity
  have htotal : (exactShares lineNets cart sub).sum = cart := by
    rw [sum_exactShares, hsum, mul_div_right_comm, div_self hsub.ne', one_mul]
  have hcents : ((exactShares lineNets cart sub).map roundSaleMoney).sum = cart ↔
      gained 2 (exactShares lineNets cart sub) = 0 := by
    have habove : ∀ q ∈ exactShares lineNets cart sub, -(1 / 2) < q * 10 ^ 2 :=
      List.forall_mem_map.mpr fun net hmem => by linarith [hexact net hmem]
    have hiff := sum_roundTo_eq_iff habove
    rw [htotal] at hiff
    exact hiff
  have hlines : List.Forall₂ (fun net share => 0 ≤ share ∧ share ≤ net) lineNets
      ((exactShares lineNets cart sub).map roundSaleMoney) ↔
        ∀ net ∈ lineNets, ShareFits cart sub net := by
    unfold exactShares
    rw [List.map_map, List.forall₂_map_right_iff, List.forall₂_same]
    refine forall₂_congr fun net hmem => ?_
    rw [Function.comp_apply, share_le_iff (hnets net hmem) hsub hcart hle]
    exact and_iff_right (roundTo_nonneg (hexact net hmem))
  rw [cartDiscountProfitShares_eq hsum hsub hcart]
  exact ⟨fun h => ⟨hcents.mp h.total, hlines.mp h.lines⟩,
    fun h => ⟨hlines.mpr h.2, hcents.mpr h.1⟩⟩

/-- A cart discount of 30.00 over three lines of 100.00. -/
theorem profitShares_close_thirty :
    ((∀ net ∈ [(100 : ℚ), 100, 100], 0 ≤ net) ∧ [(100 : ℚ), 100, 100].sum = 300 ∧
      (0 : ℚ) < 300 ∧ (0 : ℚ) ≤ 30 ∧ (30 : ℚ) ≤ 300) ∧
    (SharesClose [100, 100, 100] 30 (cartDiscountProfitShares [100, 100, 100] 30 300) ↔
      gained 2 (exactShares [100, 100, 100] 30 300) = 0 ∧
        ∀ net ∈ [(100 : ℚ), 100, 100], ShareFits 30 300 net) := by
  have hnets : ∀ net ∈ [(100 : ℚ), 100, 100], 0 ≤ net := by decide +kernel
  have hsum : [(100 : ℚ), 100, 100].sum = 300 := by decide +kernel
  exact ⟨⟨hnets, hsum, by norm_num, by norm_num, by norm_num⟩,
    profitShares_close_iff hnets hsum (by norm_num) (by norm_num) (by norm_num)⟩

/-- A cart discount of 10.00 over three lines of 100.00 is spread as 9.99. -/
theorem profitShares_lose_cent :
    (∀ net ∈ [(100 : ℚ), 100, 100], 0 ≤ net) ∧ [(100 : ℚ), 100, 100].sum = 300 ∧
      cartDiscountProfitShares [100, 100, 100] 10 300 = [333 / 100, 333 / 100, 333 / 100] ∧
      ¬ SharesClose [100, 100, 100] 10 (cartDiscountProfitShares [100, 100, 100] 10 300) := by
  have hshares : cartDiscountProfitShares [100, 100, 100] 10 300 =
      [333 / 100, 333 / 100, 333 / 100] := by decide +kernel
  refine ⟨by decide +kernel, by decide +kernel, hshares, fun h => ?_⟩
  have htotal := h.total
  rw [hshares] at htotal
  revert htotal
  decide +kernel

end SmartErpPos.Sales
