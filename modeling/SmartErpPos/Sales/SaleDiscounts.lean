/-
  Sales/SaleDiscounts.lean --- what a sale stores of its discounts, and what is read back.

  Source: `src/shared/domain/saleDiscountSsot.ts` (`roundSaleMoney`, `lineNetFromRung`,
  `appliedLineDiscount`, `remainingCartDiscount`, `presentSaleDiscounts`,
  `projectSaleDiscountPersist`).

  Amounts and quantities are exact rationals; a missing number counts as 0.
-/
import SmartErpPos.Lib.RoundedRat

set_option autoImplicit false

namespace SmartErpPos.Sales

open SmartErpPos.Lib

/-! ## Amounts -/

def SALE_DISCOUNT_MONEY_TOLERANCE : ℚ := 2 / 100

/-- `roundSaleMoney`. -/
def roundSaleMoney (n : ℚ) : ℚ := roundTo 2 n

/-- `lineNetFromRung`. -/
def lineNetFromRung (quantity unitPrice lineDiscount : ℚ) : ℚ :=
  roundSaleMoney (quantity * unitPrice - lineDiscount)

/-- `appliedLineDiscount`: the markdown that left the line. -/
def appliedLineDiscount (quantity unitPrice lineNet : ℚ) : ℚ :=
  let applied := quantity * unitPrice - lineNet
  if |applied| ≤ SALE_DISCOUNT_MONEY_TOLERANCE then 0
  else if applied < 0 then 0
  else roundSaleMoney applied

/-- `remainingCartDiscount`: what the document total is below the lines, with the tax taken
out of the total where that looks like the reason. -/
def remainingCartDiscount (merchandiseNet totalAmount taxAmount : ℚ) : ℚ :=
  let tol := SALE_DISCOUNT_MONEY_TOLERANCE
  let cart := merchandiseNet - totalAmount
  let withoutTax := if tol < cart then roundSaleMoney cart else 0
  if |cart| ≤ tol then 0
  else if tol < taxAmount then
    let exclusiveCart := merchandiseNet - (totalAmount - taxAmount)
    let inclusiveCart := merchandiseNet - totalAmount
    if |exclusiveCart| ≤ tol then 0
    else if tol < inclusiveCart ∧ tol < |exclusiveCart - inclusiveCart| ∧
        inclusiveCart < exclusiveCart then roundSaleMoney inclusiveCart
    else if tol < exclusiveCart then roundSaleMoney exclusiveCart
    else withoutTax
  else withoutTax

/-! ## Presenting a sale -/

structure SaleDiscountLineInput where
  quantity : ℚ
  unitPrice : ℚ
  lineNet : ℚ

structure SaleDiscountLinePresentation where
  unitPrice : ℚ
  lineDiscount : ℚ
  lineNet : ℚ

structure SaleDiscountPresentation where
  lines : List SaleDiscountLinePresentation
  merchandiseNet : ℚ
  cartDiscount : ℚ
  taxAmount : ℚ
  totalAmount : ℚ
  hasLineDiscounts : Bool
  hasCartDiscount : Bool

def presentLine (item : SaleDiscountLineInput) : SaleDiscountLinePresentation :=
  let unitPrice := roundSaleMoney item.unitPrice
  let lineNet := roundSaleMoney item.lineNet
  { unitPrice := unitPrice
    lineDiscount := appliedLineDiscount item.quantity unitPrice lineNet
    lineNet := lineNet }

/-- `presentSaleDiscounts`. -/
def presentSaleDiscounts (totalAmount taxAmount : ℚ) (items : List SaleDiscountLineInput) :
    SaleDiscountPresentation :=
  let taxAmount := roundSaleMoney taxAmount
  let totalAmount := roundSaleMoney totalAmount
  let lines := items.map presentLine
  let merchandiseNet := roundSaleMoney (lines.map (·.lineNet)).sum
  let cartDiscount := remainingCartDiscount merchandiseNet totalAmount taxAmount
  { lines := lines
    merchandiseNet := merchandiseNet
    cartDiscount := cartDiscount
    taxAmount := taxAmount
    totalAmount := totalAmount
    hasLineDiscounts := lines.any fun line => decide (SALE_DISCOUNT_MONEY_TOLERANCE < line.lineDiscount)
    hasCartDiscount := decide (SALE_DISCOUNT_MONEY_TOLERANCE < cartDiscount) }

/-! ## Storing a sale -/

structure SaleDiscountLinePersistInput where
  quantity : ℚ
  unitPrice : ℚ
  lineDiscount : Option ℚ

structure SaleDiscountPersistLine where
  quantity : ℚ
  discountAmount : ℚ
  unitPrice : ℚ
  totalPrice : ℚ

structure SaleDiscountPersistProjection where
  items : List SaleDiscountPersistLine
  merchandiseNet : ℚ
  cartDiscount : ℚ
  headerDiscountDump : ℚ
  taxAmount : ℚ
  chargedTotal : ℚ

structure SaleDiscountParams where
  items : List SaleDiscountLinePersistInput
  cartDiscount : ℚ
  taxAmount : Option ℚ
  taxInclusive : Option Bool

def persistLine (item : SaleDiscountLinePersistInput) : SaleDiscountPersistLine :=
  let unitPrice := roundSaleMoney item.unitPrice
  let discountAmount := roundSaleMoney (max 0 (item.lineDiscount.getD 0))
  { quantity := item.quantity
    discountAmount := discountAmount
    unitPrice := unitPrice
    totalPrice := lineNetFromRung item.quantity unitPrice discountAmount }

/-- `projectSaleDiscountPersist`; prices include the tax unless it is said that they do not. -/
def projectSaleDiscountPersist (params : SaleDiscountParams) : SaleDiscountPersistProjection :=
  let cartDiscount := roundSaleMoney (max 0 params.cartDiscount)
  let taxAmount := roundSaleMoney (params.taxAmount.getD 0)
  let taxInclusive := decide (params.taxInclusive ≠ some false)
  let items := params.items.map persistLine
  let merchandiseNet := roundSaleMoney (items.map (·.totalPrice)).sum
  let chargedPretax := roundSaleMoney (merchandiseNet - cartDiscount)
  let chargedTotal :=
    if taxInclusive then chargedPretax else roundSaleMoney (chargedPretax + taxAmount)
  let headerDiscountDump := roundSaleMoney (cartDiscount + (items.map (·.discountAmount)).sum)
  { items := items
    merchandiseNet := merchandiseNet
    cartDiscount := cartDiscount
    headerDiscountDump := headerDiscountDump
    taxAmount := taxAmount
    chargedTotal := chargedTotal }

end SmartErpPos.Sales
