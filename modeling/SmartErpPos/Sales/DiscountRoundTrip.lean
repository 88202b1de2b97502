/-
  Sales/DiscountRoundTrip.lean --- what presenting a stored sale recovers.

  The stored figures do not say whether the prices include the tax.  The line discounts
  and the merchandise net come back in either mode.  The cart discount is inferred from
  the total: a total that is below the lines by the cart alone and one that is below them
  by the cart less the tax are told apart by guessing, and an exclusive sale whose tax is
  not above its cart discount is taken for an inclusive one.
-/
import SmartErpPos.Sales.SaleDiscounts

set_option autoImplicit false

namespace SmartErpPos.Sales

open SmartErpPos.Lib

/-! ## Rounded amounts -/

theorem onGrid_roundSaleMoney (n : ℚ) : OnGrid 2 (roundSaleMoney n) := onGrid_roundTo n

@[simp] theorem roundSaleMoney_roundSaleMoney (n : ℚ) :
    roundSaleMoney (roundSaleMoney n) = roundSaleMoney n := roundTo_roundTo n

theorem roundSaleMoney_of_onGrid {n : ℚ} (h : OnGrid 2 n) : roundSaleMoney n = n := h.roundTo_eq

theorem abs_roundSaleMoney_sub_le (n : ℚ) : |roundSaleMoney n - n| ≤ 1 / 200 := by
  have h := abs_roundTo_sub_le 2 n
  norm_num at h
  exact h

/-- Cents at or below two and a half are at or below two. -/
theorem le_tolerance_of_onGrid {d : ℚ} (hgrid : OnGrid 2 d) (h : d ≤ 1 / 40) :
    d ≤ SALE_DISCOUNT_MONEY_TOLERANCE := by
  obtain ⟨x, rfl⟩ := hgrid
  unfold Numeric.toRat at h
  have hlt : (x.units : ℚ) < 3 := by linarith
  have hunits : x.units < 3 := by exact_mod_cast hlt
  have hle : (x.units : ℚ) ≤ 2 := by exact_mod_cast (show x.units ≤ 2 by omega)
  unfold Numeric.toRat SALE_DISCOUNT_MONEY_TOLERANCE
  linarith

/-! ## Lines -/

/-- A markdown in cents is read off a rounded line net within the tolerance. -/
theorem appliedLineDiscount_close {quantity unitPrice lineNet d : ℚ} (hd : 0 ≤ d)
    (hgrid : OnGrid 2 d) (hnet : |lineNet - (quantity * unitPrice - d)| ≤ 1 / 200) :
    |appliedLineDiscount quantity unitPrice lineNet - d| ≤ SALE_DISCOUNT_MONEY_TOLERANCE := by
  obtain ⟨hlow, hhigh⟩ := abs_le.mp hnet
  unfold appliedLineDiscount
  dsimp only
  split
  · rename_i hsmall
    have happlied := (abs_le.mp hsmall).2
    have hle : d ≤ SALE_DISCOUNT_MONEY_TOLERANCE := by
      refine le_tolerance_of_onGrid hgrid ?_
      unfold SALE_DISCOUNT_MONEY_TOLERANCE at happlied
      linarith
    rw [zero_sub, abs_neg, abs_of_nonneg hd]
    exact hle
  · rename_i hlarge
    split
    · rename_i hneg
      refine absurd ?_ hlarge
      unfold SALE_DISCOUNT_MONEY_TOLERANCE
      rw [abs_le]
      constructor <;> linarith
    · obtain ⟨hl, hh⟩ := abs_le.mp (abs_roundSaleMoney_sub_le (quantity * unitPrice - lineNet))
      unfold SALE_DISCOUNT_MONEY_TOLERANCE
      rw [abs_le]
      constructor <;> linarith

/-! ## The cart discount -/

/-- Can the cart discount be told from the totals? -/
def CartRecoverable (taxInclusive : Bool) (cart tax : ℚ) : Prop :=
  taxInclusive = true ∨
    (-SALE_DISCOUNT_MONEY_TOLERANCE ≤ tax ∧
      (cart ≤ SALE_DISCOUNT_MONEY_TOLERANCE ∨ cart + SALE_DISCOUNT_MONEY_TOLERANCE < tax ∨
        (tax ≤ SALE_DISCOUNT_MONEY_TOLERANCE ∧ SALE_DISCOUNT_MONEY_TOLERANCE < cart - tax)))

/-- With the tax inside the prices the total is below the lines by the cart alone. -/
theorem remainingCartDiscount_inclusive {lines cart tax : ℚ} (hcart : 0 ≤ cart)
    (hgrid : OnGrid 2 cart) :
    |remainingCartDiscount lines (lines - cart) tax - cart| ≤ SALE_DISCOUNT_MONEY_TOLERANCE := by
  have htol : SALE_DISCOUNT_MONEY_TOLERANCE = 2 / 100 := rfl
  have hdiff : lines - (lines - cart) = cart := by ring
  have hexclusive : lines - (lines - cart - tax) = cart + tax := by ring
  have hround : roundSaleMoney cart = cart := roundSaleMoney_of_onGrid hgrid
  unfold remainingCartDiscount
  simp only [hdiff, hexclusive, hround, abs_of_nonneg hcart, add_sub_cancel_left]
  rw [htol]
  by_cases hsmall : cart ≤ 2 / 100
  · rw [if_pos hsmall, zero_sub, abs_neg, abs_of_nonneg hcart]
    exact hsmall
  rw [if_neg hsmall]
  have hlarge := not_le.mp hsmall
  by_cases htax : 2 / 100 < tax
  · have hsum : ¬ |cart + tax| ≤ 2 / 100 := by
      rw [abs_of_pos (by linarith)]
      linarith
    have hless : 2 / 100 < cart ∧ 2 / 100 < |tax| ∧ cart < cart + tax := by
      rw [abs_of_pos (by linarith)]
      exact ⟨hlarge, htax, by linarith⟩
    rw [if_pos htax, if_neg hsum, if_pos hless, sub_self, abs_zero]
    norm_num
  · rw [if_neg htax, if_pos hlarge, sub_self, abs_zero]
    norm_num

/-- With the tax on top of the prices it comes back exactly in these cases. -/
theorem remainingCartDiscount_exclusive_iff {lines cart tax : ℚ} (hcart : 0 ≤ cart)
    (hgrid : OnGrid 2 cart) (htaxGrid : OnGrid 2 tax) :
    |remainingCartDiscount lines (lines - cart + tax) tax - cart| ≤
        SALE_DISCOUNT_MONEY_TOLERANCE ↔ CartRecoverable false cart tax := by
  have htol : SALE_DISCOUNT_MONEY_TOLERANCE = 2 / 100 := rfl
  have hdiff : lines - (lines - cart + tax) = cart - tax := by ring
  have hexclusive : lines - (lines - cart + tax - tax) = cart := by ring
  have hround : roundSaleMoney cart = cart := roundSaleMoney_of_onGrid hgrid
  have hround' : roundSaleMoney (cart - tax) = cart - tax :=
    roundSaleMoney_of_onGrid (hgrid.sub htaxGrid)
  have hgap : cart - (cart - tax) = tax := by ring
  unfold remainingCartDiscount CartRecoverable
  simp only [hdiff, hexclusive, hround, hround', hgap, Bool.false_eq_true, false_or]
  rw [htol]
  have hnone : |0 - cart| ≤ 2 / 100 ↔ cart ≤ 2 / 100 := by
    rw [zero_sub, abs_neg, abs_of_nonneg hcart]
  have hless : |cart - tax - cart| ≤ 2 / 100 ↔ -(2 / 100) ≤ tax ∧ tax ≤ 2 / 100 := by
    rw [show cart - tax - cart = -tax by ring, abs_neg, abs_le]
  have hsame : |cart - cart| ≤ 2 / 100 ↔ True := by
    rw [sub_self, abs_zero]
    norm_num
  -- each branch is a linear condition on the cart discount and the tax
  split_ifs with h₁ h₂ h₃ h₄ h₅ h₆ h₇ <;> simp only [hnone, hless, hsame] <;>
    rw [abs_le] at h₁ <;> grind

/-! ## The round trip -/

/-- What is presented of a stored sale. -/
def SaleDiscountPersistProjection.present (stored : SaleDiscountPersistProjection) :
    SaleDiscountPresentation :=
  presentSaleDiscounts stored.chargedTotal stored.taxAmount
    (stored.items.map fun line => ⟨line.quantity, line.unitPrice, line.totalPrice⟩)

/-- The presented figures are the stored ones within the tolerance. -/
structure Recovers (stored : SaleDiscountPersistProjection) (shown : SaleDiscountPresentation) :
    Prop where
  lines : List.Forall₂ (fun line presented =>
    |presented.lineDiscount - line.discountAmount| ≤ SALE_DISCOUNT_MONEY_TOLERANCE)
      stored.items shown.lines
  merchandise : |shown.merchandiseNet - stored.merchandiseNet| ≤ SALE_DISCOUNT_MONEY_TOLERANCE
  cart : |shown.cartDiscount - stored.cartDiscount| ≤ SALE_DISCOUNT_MONEY_TOLERANCE

/-- A stored line as it is presented. -/
def SaleDiscountPersistLine.presented (line : SaleDiscountPersistLine) :
    SaleDiscountLinePresentation :=
  presentLine ⟨line.quantity, line.unitPrice, line.totalPrice⟩

theorem lineNet_presented (item : SaleDiscountLinePersistInput) :
    (persistLine item).presented.lineNet = (persistLine item).totalPrice :=
  roundSaleMoney_roundSaleMoney _

theorem lineDiscount_presented (item : SaleDiscountLinePersistInput) :
    |(persistLine item).presented.lineDiscount - (persistLine item).discountAmount| ≤
      SALE_DISCOUNT_MONEY_TOLERANCE := by
  have hprice : roundSaleMoney (persistLine item).unitPrice = (persistLine item).unitPrice :=
    roundSaleMoney_roundSaleMoney _
  have hnet : roundSaleMoney (persistLine item).totalPrice = (persistLine item).totalPrice :=
    roundSaleMoney_roundSaleMoney _
  unfold SaleDiscountPersistLine.presented presentLine
  dsimp only
  rw [hprice, hnet]
  exact appliedLineDiscount_close (roundTo_nonneg (le_max_left _ _)) (onGrid_roundTo _)
    (abs_roundSaleMoney_sub_le _)

theorem lines_present (params : SaleDiscountParams) :
    (projectSaleDiscountPersist params).present.lines =
      params.items.map fun item => (persistLine item).presented := by
  unfold SaleDiscountPersistProjection.present presentSaleDiscounts projectSaleDiscountPersist
  simp only [List.map_map]
  rfl

/-- The merchandise net comes back to the cent. -/
theorem merchandiseNet_present (params : SaleDiscountParams) :
    (projectSaleDiscountPersist params).present.merchandiseNet =
      (projectSaleDiscountPersist params).merchandiseNet := by
  have hshown : (projectSaleDiscountPersist params).present.merchandiseNet =
      roundSaleMoney (((projectSaleDiscountPersist params).present.lines).map (·.lineNet)).sum := rfl
  rw [hshown, lines_present]
  simp only [projectSaleDiscountPersist, List.map_map]
  congr 2
  exact List.map_congr_left fun item _ => lineNet_presented item

/-- The charged total in the terms of the rounded figures. -/
theorem chargedTotal_eq (params : SaleDiscountParams) :
    (projectSaleDiscountPersist params).chargedTotal =
      if params.taxInclusive ≠ some false then
        (projectSaleDiscountPersist params).merchandiseNet -
          (projectSaleDiscountPersist params).cartDiscount
      else (projectSaleDiscountPersist params).merchandiseNet -
        (projectSaleDiscountPersist params).cartDiscount +
          (projectSaleDiscountPersist params).taxAmount := by
  have hpretax : OnGrid 2 ((projectSaleDiscountPersist params).merchandiseNet -
      (projectSaleDiscountPersist params).cartDiscount) :=
    (onGrid_roundTo _).sub (onGrid_roundTo _)
  have htax : OnGrid 2 (projectSaleDiscountPersist params).taxAmount := onGrid_roundTo _
  rw [← roundSaleMoney_of_onGrid hpretax]
  split
  · rename_i hinclusive
    simp [projectSaleDiscountPersist, hinclusive]
  · rename_i hexclusive
    rw [← roundSaleMoney_of_onGrid ((onGrid_roundSaleMoney _).add htax)]
    simp [projectSaleDiscountPersist, hexclusive]

theorem cartDiscount_present (params : SaleDiscountParams) :
    (projectSaleDiscountPersist params).present.cartDiscount =
      remainingCartDiscount (projectSaleDiscountPersist params).merchandiseNet
        (projectSaleDiscountPersist params).chargedTotal
        (projectSaleDiscountPersist params).taxAmount := by
  have hshown : (projectSaleDiscountPersist params).present.cartDiscount =
      remainingCartDiscount (projectSaleDiscountPersist params).present.merchandiseNet
        (roundSaleMoney (projectSaleDiscountPersist params).chargedTotal)
        (roundSaleMoney (projectSaleDiscountPersist params).taxAmount) := rfl
  have htotal : OnGrid 2 (projectSaleDiscountPersist params).chargedTotal := by
    unfold projectSaleDiscountPersist
    dsimp only
    split <;> exact onGrid_roundTo _
  have htax : OnGrid 2 (projectSaleDiscountPersist params).taxAmount := onGrid_roundTo _
  rw [hshown, merchandiseNet_present, roundSaleMoney_of_onGrid htotal, roundSaleMoney_of_onGrid htax]

/-- Presenting a stored sale recovers its discounts exactly when the cart discount can be
told from the totals. -/
theorem present_recovers_iff (params : SaleDiscountParams) :
    Recovers (projectSaleDiscountPersist params) (projectSaleDiscountPersist params).present ↔
      CartRecoverable (decide (params.taxInclusive ≠ some false))
        (roundSaleMoney (max 0 params.cartDiscount)) (roundSaleMoney (params.taxAmount.getD 0)) := by
  have hlines : List.Forall₂ (fun (line : SaleDiscountPersistLine)
      (presented : SaleDiscountLinePresentation) =>
        |presented.lineDiscount - line.discountAmount| ≤ SALE_DISCOUNT_MONEY_TOLERANCE)
      (projectSaleDiscountPersist params).items (projectSaleDiscountPersist params).present.lines := by
    rw [lines_present]
    show List.Forall₂ _ (params.items.map persistLine) _
    rw [List.forall₂_map_left_iff, List.forall₂_map_right_iff, List.forall₂_same]
    exact fun item _ => lineDiscount_presented item
  have hmerchandise : |(projectSaleDiscountPersist params).present.merchandiseNet -
      (projectSaleDiscountPersist params).merchandiseNet| ≤ SALE_DISCOUNT_MONEY_TOLERANCE := by
    rw [merchandiseNet_present, sub_self, abs_zero]
    norm_num [SALE_DISCOUNT_MONEY_TOLERANCE]
  have hcart : |(projectSaleDiscountPersist params).present.cartDiscount -
      (projectSaleDiscountPersist params).cartDiscount| ≤ SALE_DISCOUNT_MONEY_TOLERANCE ↔
        CartRecoverable (decide (params.taxInclusive ≠ some false))
          (roundSaleMoney (max 0 params.cartDiscount))
          (roundSaleMoney (params.taxAmount.getD 0)) := by
    have hnonneg : 0 ≤ (projectSaleDiscountPersist params).cartDiscount :=
      roundTo_nonneg (le_max_left _ _)
    rw [cartDiscount_present, chargedTotal_eq]
    split
    · rename_i hinclusive
      rw [decide_eq_true hinclusive]
      exact iff_of_true (remainingCartDiscount_inclusive hnonneg (onGrid_roundTo _)) (.inl rfl)
    · rename_i hexclusive
      rw [decide_eq_false hexclusive]
      exact remainingCartDiscount_exclusive_iff hnonneg (onGrid_roundTo _) (onGrid_roundTo _)
  exact ⟨fun h => hcart.mp h.cart, fun h => ⟨hlines, hmerchandise, hcart.mpr h⟩⟩

/-! ## A sale with the tax on top -/

/-- One piece at 100.00 with a cart discount of 20.00 and 18.00 tax on top. -/
def exclusiveSale : SaleDiscountParams where
  items := [⟨1, 100, none⟩]
  cartDiscount := 20
  taxAmount := some 18
  taxInclusive := some false

/-- The total of 98.00 is read as a cart discount of 2.00. -/
theorem exclusive_cart_misread :
    (projectSaleDiscountPersist exclusiveSale).cartDiscount = 20 ∧
      (projectSaleDiscountPersist exclusiveSale).present.cartDiscount = 2 ∧
      ¬ Recovers (projectSaleDiscountPersist exclusiveSale)
        (projectSaleDiscountPersist exclusiveSale).present := by
  have hstored : (projectSaleDiscountPersist exclusiveSale).cartDiscount = 20 := by decide +kernel
  have hshown : (projectSaleDiscountPersist exclusiveSale).present.cartDiscount = 2 := by
    decide +kernel
  refine ⟨hstored, hshown, fun h => ?_⟩
  have hcart := h.cart
  rw [hstored, hshown] at hcart
  revert hcart
  decide +kernel

end SmartErpPos.Sales
