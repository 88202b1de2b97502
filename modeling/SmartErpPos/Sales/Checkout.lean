/-
  Sales/Checkout.lean --- from the lines of a checkout to the sale that is posted.

  Sources: `createSale` of `modules/sales/salesService.ts` (prices, total, payment and the
  call of `recordSaleToGL`), `resolveSaleHeaderTotal` of `modules/sales/saleIntegrity.ts`,
  `assertSaleDiscountPersistClosed` of `src/shared/domain/saleDiscountSsot.ts`, and the
  checks of the table `sales`.

  The tax is the one the server determined.  With prices that include it, it is part of
  the lines; otherwise it is added to them after the discount on the cart.
-/
import SmartErpPos.Sales.RevenueJournal
import SmartErpPos.Sales.SaleStore

set_option autoImplicit false

namespace SmartErpPos.Sales

open SmartErpPos.Lib

/-! ## Input -/

/-- A line as the schema of the request lets it through. -/
structure CheckoutLine where
  /-- The product id starts with `custom_`. -/
  isCustom : Bool
  quantity : ℚ
  unitPrice : ℚ
  discountAmount : ℚ
  quantity_pos : 0 < quantity
  unitPrice_nonneg : 0 ≤ unitPrice
  discountAmount_nonneg : 0 ≤ discountAmount

structure CheckoutInput where
  saleNumber : String
  customerId : Option String
  items : List CheckoutLine
  /-- The discount on the cart. -/
  discountAmount : ℚ
  /-- The total of the tax engine. -/
  taxAmount : ℚ
  taxInclusive : Bool
  /-- The total the client shows. -/
  totalAmount : Option ℚ
  paymentMethod : PaymentMethod
  paymentLines : List PaymentLine
  paymentReceived : ℚ
  giftReason : String
  mayGift : Bool
  mayUpdateAdmin : Bool
  customerId_text : ∀ id ∈ customerId, jsTrim id ≠ ""
  discountAmount_nonneg : 0 ≤ discountAmount
  taxAmount_nonneg : 0 ≤ taxAmount
  paymentLines_nonneg : ∀ l ∈ paymentLines, 0 ≤ l.amount

/-- Why a checkout is refused. -/
inductive CheckoutError where
  | sale (error : SaleError)
  /-- `ERR_SALE_005`. -/
  | depositNeedsCustomer
  /-- `ERR_SALE_TOTAL_MISMATCH`. -/
  | totalMismatch
  /-- `ERR_SALE_DISCOUNT_SSOT`. -/
  | discountNotClosed
  /-- A check of the table `sales`. -/
  | violates (constraint : String)
  deriving DecidableEq

/-! ## The total -/

/-- What a line comes to after its own discount. -/
def CheckoutLine.lineTotal (line : CheckoutLine) : ℚ :=
  line.quantity * line.unitPrice - line.discountAmount

/-- The lines after the discount on the cart. -/
def CheckoutInput.pricedAfterDiscount (input : CheckoutInput) : ℚ :=
  (input.items.map (·.lineTotal)).sum - input.discountAmount

/-- `resolveSaleHeaderTotal`: with prices that include the tax the total of the client is
replaced, otherwise it has to match. -/
def resolveSaleHeaderTotal (providedTotal : Option ℚ) (pricedLinesAfterDiscount taxAmount : ℚ)
    (taxInclusive : Bool) : Except CheckoutError ℚ :=
  let calculated :=
    if taxInclusive then pricedLinesAfterDiscount else pricedLinesAfterDiscount + taxAmount
  match providedTotal with
  | none => pure calculated
  | some provided => do
    require (|provided - calculated| ≤ 2 / 100 ∨ taxInclusive = true) .totalMismatch
    pure calculated

/-- A client that added the tax to prices with tax paid too much: its one line of cash is cut
back to the total. -/
def clampCashLine (input : CheckoutInput) (finalTotalAmount : ℚ) : List PaymentLine :=
  let exclusiveTrapAmt := input.pricedAfterDiscount + input.taxAmount
  match input.paymentLines with
  | [line] =>
    if input.taxInclusive = true ∧ |line.amount - exclusiveTrapAmt| ≤ 2 / 100 ∧
        2 / 100 < |finalTotalAmount - exclusiveTrapAmt| ∧ line.paymentMethod = .CASH then
      [⟨.CASH, finalTotalAmount⟩]
    else [line]
  | lines => lines

/-! ## The discounts -/

/-- A line whose columns agree with the price it was rung up at. -/
def persistLineClosed (actual : SaleDiscountPersistLine) : Bool :=
  let tol := SALE_DISCOUNT_MONEY_TOLERANCE
  let expected := persistLine ⟨actual.quantity, actual.unitPrice, some actual.discountAmount⟩
  let applied := appliedLineDiscount actual.quantity actual.unitPrice actual.totalPrice
  decide (|actual.unitPrice - expected.unitPrice| ≤ tol ∧
    |actual.discountAmount - expected.discountAmount| ≤ tol ∧
    |actual.totalPrice - expected.totalPrice| ≤ tol ∧
    ¬ (applied ≤ tol ∧ tol < actual.discountAmount))

/-- `assertSaleDiscountPersistClosed`; of its two refusals of a copied discount the second
covers the first. -/
def saleDiscountPersistClosed (items : List SaleDiscountPersistLine) (cartDiscount chargedTotal
    taxAmount : ℚ) (taxInclusive : Bool) : Bool :=
  let projected := projectSaleDiscountPersist
    { items := items.map fun item => ⟨item.quantity, item.unitPrice, some item.discountAmount⟩
      cartDiscount := cartDiscount
      taxAmount := some taxAmount
      taxInclusive := some taxInclusive }
  items.all persistLineClosed && decide
    (|projected.chargedTotal - roundSaleMoney chargedTotal| ≤ SALE_DISCOUNT_MONEY_TOLERANCE)

/-- The columns of a line. -/
def CheckoutLine.persisted (line : CheckoutLine) : SaleDiscountPersistLine where
  quantity := line.quantity
  discountAmount := line.discountAmount
  unitPrice := line.unitPrice
  totalPrice := line.lineTotal

/-! ## The sale -/

/-- The checks of the table `sales`. -/
def checkSaleRow (settlement : TenderSettlement) (hasCustomer : Bool) :
    Except CheckoutError Unit := do
  let total : Cents := .ofRat settlement.totalAmount
  let paid : Cents := .ofRat settlement.paymentReceived
  let gift : Cents := .ofRat settlement.giftAmount
  require (0 ≤ total) (.violates "chk_sales_amounts_positive")
  require (0 ≤ paid) (.violates "chk_sales_payment_valid")
  require (settlement.effectivePaymentMethod = .CREDIT → hasCustomer = true)
    (.violates "chk_sales_credit_has_customer")
  require (settlement.effectivePaymentMethod = .CREDIT → paid < total)
    (.violates "chk_sales_credit_has_debt")
  require (settlement.effectivePaymentMethod = .GIFT ∨ total ≤ paid + gift ∨
    (paid < total ∧ hasCustomer = true)) (.violates "chk_sales_outstanding_has_customer")

/-- What `createSale` gives to `settleTender`. -/
def CheckoutInput.tender (input : CheckoutInput) (finalTotalAmount : ℚ)
    (paymentLines : List PaymentLine) : TenderInput where
  paymentMethod := input.paymentMethod
  paymentLines := paymentLines
  paymentReceived := input.paymentReceived
  finalTotalAmount := finalTotalAmount
  hasCustomer := input.customerId.isSome
  giftReason := input.giftReason
  mayGift := input.mayGift
  mayUpdateAdmin := input.mayUpdateAdmin

/-- What it gives to `recordSaleToGL`: the columns of the stored sale and the priced lines. -/
def CheckoutInput.saleData (input : CheckoutInput) (settlement : TenderSettlement)
    (paymentLines : List PaymentLine) : SaleData where
  saleNumber := input.saleNumber
  totalAmount := (.ofRat settlement.totalAmount : Cents).toRat
  paymentMethod := settlement.effectivePaymentMethod
  amountPaid := (.ofRat settlement.paymentReceived : Cents).toRat
  paymentLines := paymentLines
  giftAmount := settlement.giftAmount
  taxAmount := (.ofRat input.taxAmount : Cents).toRat
  customerId := input.customerId
  customerName := none
  saleItems := input.items.map fun line =>
    ⟨if line.isCustom then .service else .inventory, line.lineTotal⟩

/-- `createSale`, from its lines to the sale it posts. -/
def checkoutSale (input : CheckoutInput) : Except CheckoutError SaleData := do
  require (input.items ≠ []) (.sale .noItems)
  require (input.paymentMethod = .CREDIT → input.customerId.isSome = true)
    (.sale .creditNeedsCustomer)
  require ((input.paymentMethod = .DEPOSIT ∨
    (input.paymentLines.any fun l => decide (l.paymentMethod = .DEPOSIT)) = true) →
      input.customerId.isSome = true) .depositNeedsCustomer
  let finalTotalAmount ← resolveSaleHeaderTotal input.totalAmount input.pricedAfterDiscount
    input.taxAmount input.taxInclusive
  let paymentLines := clampCashLine input finalTotalAmount
  let settlement ← (settleTender (input.tender finalTotalAmount paymentLines)).mapError .sale
  require (saleDiscountPersistClosed (input.items.map (·.persisted))
    (roundSaleMoney input.discountAmount) settlement.totalAmount input.taxAmount
    input.taxInclusive = true) .discountNotClosed
  checkSaleRow settlement input.customerId.isSome
  pure (input.saleData settlement paymentLines)

end SmartErpPos.Sales
