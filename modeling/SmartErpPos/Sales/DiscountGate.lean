/-
  Sales/DiscountGate.lean --- the check that a stored sale's discounts close.

  Source: `src/shared/domain/saleDiscountSsot.ts` (`inventedUnitFromCopiedDump`,
  `assertSaleDiscountPersistClosed`).

  The gate projects the stored lines again and compares.  A stored line is its own
  projection, so nothing differs; and a markdown above the tolerance is at least three
  cents, of which the rounding of the line net hides at most half a cent.
-/
import SmartErpPos.Lib.DecimalText
import SmartErpPos.Sales.DiscountRoundTrip

set_option autoImplicit false

namespace SmartErpPos.Sales

open SmartErpPos.Lib

/-! ## The gate -/

/-- `inventedUnitFromCopiedDump`: the unit price a copied discount would suggest. -/
def inventedUnitFromCopiedDump (lineNet storedLineDiscount quantity : ℚ) : ℚ :=
  if quantity ≤ 0 then 0 else roundSaleMoney ((lineNet + storedLineDiscount) / quantity)

/-- What the gate is given: the stored lines and the figures of the header. -/
structure PersistedDiscounts where
  items : List SaleDiscountPersistLine
  cartDiscount : ℚ
  chargedTotal : ℚ
  taxAmount : Option ℚ
  taxInclusive : Option Bool

structure ClosureVerdict where
  ok : Bool
  message : String
  deriving DecidableEq

/-- The loop's body: what is wrong with the `i`-th stored line. -/
def persistLineFault (i : ℕ) (actual : SaleDiscountPersistLine) :
    Option SaleDiscountPersistLine → Option String
  | none => some ("Persist line " ++ toString i ++ " has no projection")
  | some expected =>
    let tol := SALE_DISCOUNT_MONEY_TOLERANCE
    let impliedUnit :=
      inventedUnitFromCopiedDump actual.totalPrice actual.discountAmount actual.quantity
    let applied := appliedLineDiscount actual.quantity actual.unitPrice actual.totalPrice
    if tol < |actual.unitPrice - expected.unitPrice| then
      some ("Persist unit " ++ decimalText actual.unitPrice ++ " != submitted rung " ++
        decimalText expected.unitPrice)
    else if tol < |actual.discountAmount - expected.discountAmount| then
      some ("Persist line discount " ++ decimalText actual.discountAmount ++
        " != line markdown " ++ decimalText expected.discountAmount)
    else if tol < |actual.totalPrice - expected.totalPrice| then
      some ("Persist line net " ++ decimalText actual.totalPrice ++
        " != qty×unit−lineDisc " ++ decimalText expected.totalPrice)
    else if applied ≤ tol ∧ tol < actual.discountAmount ∧ tol < |impliedUnit - actual.unitPrice| then
      some ("Copied cart onto line would invent unit " ++ fixedText 2 impliedUnit ++
        " from net " ++ decimalText actual.totalPrice ++ " + dump " ++
        decimalText actual.discountAmount)
    else if applied ≤ tol ∧ tol < actual.discountAmount then
      some ("sale_items.discount_amount " ++ decimalText actual.discountAmount ++
        " is a copied dump; unit×qty already equals line net " ++ decimalText actual.totalPrice)
    else none

/-- The projection the gate compares with. -/
def PersistedDiscounts.projected (params : PersistedDiscounts) : SaleDiscountPersistProjection :=
  projectSaleDiscountPersist
    { items := params.items.map fun item =>
        ⟨item.quantity, item.unitPrice, some item.discountAmount⟩
      cartDiscount := params.cartDiscount
      taxAmount := params.taxAmount
      taxInclusive := params.taxInclusive }

/-- `assertSaleDiscountPersistClosed`; it reports what it finds and raises nothing itself. -/
def assertSaleDiscountPersistClosed (params : PersistedDiscounts) : ClosureVerdict :=
  let projected := params.projected
  let tol := SALE_DISCOUNT_MONEY_TOLERANCE
  let charged := roundSaleMoney params.chargedTotal
  match params.items.zipIdx.findSome? fun (actual, i) =>
      persistLineFault i actual projected.items[i]? with
  | some message => ⟨false, message⟩
  | none =>
    if tol < |projected.chargedTotal - charged| then
      ⟨false, "Charged " ++ fixedText 2 charged ++ " does not close to merchandise " ++
        fixedText 2 projected.merchandiseNet ++ " − cart " ++ fixedText 2 projected.cartDiscount ++
        (if tol < projected.taxAmount ∧ params.taxInclusive = some false then
          " + tax " ++ fixedText 2 projected.taxAmount else "")⟩
    else ⟨true, "sale discount persist closed"⟩

/-- A projection as it is handed to the gate. -/
def SaleDiscountPersistProjection.persisted (stored : SaleDiscountPersistProjection)
    (taxInclusive : Option Bool) : PersistedDiscounts where
  items := stored.items
  cartDiscount := stored.cartDiscount
  chargedTotal := stored.chargedTotal
  taxAmount := some stored.taxAmount
  taxInclusive := taxInclusive

/-! ## Projecting again -/

theorem roundSaleMoney_nonneg {n : ℚ} (h : 0 ≤ n) : 0 ≤ roundSaleMoney n := roundTo_nonneg h

/-- A stored line is its own projection. -/
theorem persistLine_persistLine (item : SaleDiscountLinePersistInput) :
    persistLine ⟨(persistLine item).quantity, (persistLine item).unitPrice,
      some (persistLine item).discountAmount⟩ = persistLine item := by
  have hprice : roundSaleMoney (roundSaleMoney item.unitPrice) = roundSaleMoney item.unitPrice :=
    roundSaleMoney_roundSaleMoney _
  have hdiscount : max 0 (roundSaleMoney (max 0 (item.lineDiscount.getD 0))) =
      roundSaleMoney (max 0 (item.lineDiscount.getD 0)) :=
    max_eq_right (roundSaleMoney_nonneg (le_max_left _ _))
  simp only [persistLine, Option.getD_some, hprice, hdiscount, roundSaleMoney_roundSaleMoney]

theorem projected_persisted (params : SaleDiscountParams) :
    ((projectSaleDiscountPersist params).persisted params.taxInclusive).projected =
      projectSaleDiscountPersist params := by
  have hitems : (params.items.map persistLine).map (fun item => persistLine
      ⟨item.quantity, item.unitPrice, some item.discountAmount⟩) = params.items.map persistLine := by
    rw [List.map_map]
    exact List.map_congr_left fun item _ => persistLine_persistLine item
  have hcart : roundSaleMoney (max 0 (roundSaleMoney (max 0 params.cartDiscount))) =
      roundSaleMoney (max 0 params.cartDiscount) := by
    rw [max_eq_right (roundSaleMoney_nonneg (le_max_left _ _)), roundSaleMoney_roundSaleMoney]
  have hagain : ∀ items : List SaleDiscountPersistLine,
      (items.map fun item => (⟨item.quantity, item.unitPrice, some item.discountAmount⟩ :
        SaleDiscountLinePersistInput)).map persistLine =
      items.map fun item => persistLine ⟨item.quantity, item.unitPrice, some item.discountAmount⟩ :=
    fun items => List.map_map
  unfold PersistedDiscounts.projected SaleDiscountPersistProjection.persisted
    projectSaleDiscountPersist
  dsimp only [Option.getD_some]
  rw [hagain, hitems, hcart, roundSaleMoney_roundSaleMoney]

/-! ## Markdowns above the tolerance -/

theorem tolerance_nonneg : 0 ≤ SALE_DISCOUNT_MONEY_TOLERANCE := by
  norm_num [SALE_DISCOUNT_MONEY_TOLERANCE]

/-- A markdown above the tolerance is still above it when it is read off the line. -/
theorem tolerance_lt_appliedLineDiscount {quantity unitPrice d : ℚ} (hgrid : OnGrid 2 d)
    (hd : SALE_DISCOUNT_MONEY_TOLERANCE < d) :
    SALE_DISCOUNT_MONEY_TOLERANCE <
      appliedLineDiscount quantity unitPrice (lineNetFromRung quantity unitPrice d) := by
  have hcents : 1 / 40 < d := by
    by_contra hle
    exact absurd (le_tolerance_of_onGrid hgrid (not_lt.mp hle)) (not_le.mpr hd)
  have hthree : 3 / 100 ≤ d := by
    obtain ⟨x, rfl⟩ := hgrid
    unfold Numeric.toRat at hcents ⊢
    have hlt : (2 : ℚ) < x.units := by linarith
    have hunits : 2 < x.units := by exact_mod_cast hlt
    have hle : (3 : ℚ) ≤ x.units := by exact_mod_cast (show 3 ≤ x.units by omega)
    linarith
  have hnet := abs_le.mp (abs_roundSaleMoney_sub_le (quantity * unitPrice - d))
  have hraw : 1 / 40 ≤ quantity * unitPrice - lineNetFromRung quantity unitPrice d := by
    unfold lineNetFromRung
    linarith [hnet.2]
  have hround : (3 : ℚ) / 100 = roundSaleMoney (1 / 40) := by decide +kernel
  unfold appliedLineDiscount
  dsimp only
  rw [if_neg, if_neg (by linarith)]
  · calc SALE_DISCOUNT_MONEY_TOLERANCE < 3 / 100 := by norm_num [SALE_DISCOUNT_MONEY_TOLERANCE]
      _ = roundSaleMoney (1 / 40) := hround
      _ ≤ _ := roundTo_mono hraw
  · rw [abs_of_nonneg (by linarith), not_le]
    unfold SALE_DISCOUNT_MONEY_TOLERANCE
    linarith

/-- The gate finds nothing on a stored line. -/
theorem persistLineFault_persistLine (i : ℕ) (item : SaleDiscountLinePersistInput) :
    persistLineFault i (persistLine item) (some (persistLine item)) = none := by
  have hsame : ∀ x : ℚ, ¬ SALE_DISCOUNT_MONEY_TOLERANCE < |x - x| := by
    intro x
    rw [sub_self, abs_zero, not_lt]
    exact tolerance_nonneg
  have hmarkdown : ¬ (appliedLineDiscount (persistLine item).quantity (persistLine item).unitPrice
      (persistLine item).totalPrice ≤ SALE_DISCOUNT_MONEY_TOLERANCE ∧
      SALE_DISCOUNT_MONEY_TOLERANCE < (persistLine item).discountAmount) := by
    rintro ⟨happlied, hdump⟩
    exact absurd happlied
      (not_le.mpr (tolerance_lt_appliedLineDiscount (onGrid_roundSaleMoney _) hdump))
  have hinvented : ∀ p : Prop, ¬ (appliedLineDiscount (persistLine item).quantity
      (persistLine item).unitPrice (persistLine item).totalPrice ≤ SALE_DISCOUNT_MONEY_TOLERANCE ∧
      SALE_DISCOUNT_MONEY_TOLERANCE < (persistLine item).discountAmount ∧ p) :=
    fun p h => hmarkdown ⟨h.1, h.2.1⟩
  simp only [persistLineFault, hsame, hmarkdown, hinvented, if_false]

/-! ## The gate on what the projector gives -/

end SmartErpPos.Sales
