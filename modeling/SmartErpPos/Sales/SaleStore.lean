/-
  Sales/SaleStore.lean --- sales, their items and refunds, and the two daily rollups.

  Sources: `createSale`, `voidSale`, `refundSale` of `modules/sales/salesService.ts`,
  `voidSale`, `incrementRefundedQty`, `isSaleFullyRefunded`, `markSaleVoidedByReturn`,
  `markSalePartiallyReturned`, `incrementDailySummary`, `decrementDailySummary` of
  `modules/sales/salesRepository.ts`, `batchUpsertProductDailySummary` and
  `batchDecrementProductDailySummary` of `repositories/stateTablesRepository.ts`, and
  `projectSaleRollupDecrement` of `src/shared/domain/saleDiscountSsot.ts`.

  A call is one transaction: what it writes here stands when it succeeds.  Stock, invoices
  and journals of the same calls are apart.
-/
import SmartErpPos.Ledger.Types
import SmartErpPos.Lib.KeyedSum
import SmartErpPos.Sales.RefundCharged
import SmartErpPos.Sales.Tender

set_option autoImplicit false

namespace SmartErpPos.Sales

open SmartErpPos.Lib SmartErpPos.Ledger

/-! ## Rows -/

abbrev SaleId := ℕ
abbrev ProductId := ℕ
abbrev Cents := Numeric 2
abbrev Quantity := Numeric 4

inductive SaleStatus where
  | COMPLETED
  | PARTIALLY_RETURNED
  | VOID
  | REFUNDED
  | VOIDED_BY_RETURN
  deriving DecidableEq

/-- A row of `sale_items`; a custom item has no product. -/
structure SaleItem where
  id : ℕ
  productId : Option ProductId
  quantity : Quantity
  refundedQty : Quantity
  unitPrice : Cents
  unitCost : Cents
  totalPrice : Cents
  discountAmount : Cents
  deriving DecidableEq

inductive RefundType where
  | REFUND
  | EXCHANGE
  deriving DecidableEq

/-- A row of `sale_refunds`. -/
structure RefundDocument where
  totalAmount : Cents
  totalCost : Cents
  refundType : RefundType
  deriving DecidableEq

/-- A row of `sales`, with the rows that belong to it. -/
structure Sale where
  saleDate : IsoDate
  status : SaleStatus
  paymentMethod : PaymentMethod
  totalAmount : Cents
  taxAmount : Cents
  discountAmount : Cents
  totalCost : Cents
  amountPaid : Cents
  giftAmount : Cents
  items : List SaleItem
  refunds : List RefundDocument
  deriving DecidableEq

/-- A row of `sales_daily_summary`, by date and payment method. -/
structure DailySummaryRow where
  transactionCount : ℤ
  totalAmount : Cents
  totalCost : Cents
  totalProfit : Cents
  totalDiscounts : Cents
  creditCount : ℤ
  partialPaymentCount : ℤ
  deriving DecidableEq

/-- A row of `product_daily_summary`, by date and product. -/
structure ProductSummaryRow where
  unitsSold : Quantity
  revenue : Cents
  costOfGoods : Cents
  grossProfit : Cents
  discountGiven : Cents
  transactionCount : ℤ
  deriving DecidableEq

structure SaleStore where
  sales : OrderedMap SaleId Sale
  daily : OrderedMap (IsoDate × PaymentMethod) DailySummaryRow
  products : OrderedMap (IsoDate × ProductId) ProductSummaryRow
  deriving DecidableEq

/-- Before the first sale. -/
def SaleStore.empty : SaleStore := ⟨.empty, .empty, .empty⟩

/-! ## The product rollup -/

/-- What a call sums for one product. -/
@[ext] structure ProductTotals where
  unitsSold : ℚ
  revenue : ℚ
  costOfGoods : ℚ
  discountGiven : ℚ
  deriving DecidableEq

def ProductTotals.plus (a b : ProductTotals) : ProductTotals where
  unitsSold := a.unitsSold + b.unitsSold
  revenue := a.revenue + b.revenue
  costOfGoods := a.costOfGoods + b.costOfGoods
  discountGiven := a.discountGiven + b.discountGiven

/-- The aggregation by product that precedes every batch. -/
def aggregate (entries : List (ProductId × ProductTotals)) : OrderedMap ProductId ProductTotals :=
  entries.foldl (fun m e => m.set e.1 (((m.get? e.1).map (·.plus e.2)).getD e.2)) .empty

/-- One row of `batchUpsertProductDailySummary`. -/
def upsertProduct (date : IsoDate) (table : OrderedMap (IsoDate × ProductId) ProductSummaryRow)
    (item : ProductId × ProductTotals) : OrderedMap (IsoDate × ProductId) ProductSummaryRow :=
  let grossProfit := item.2.revenue - item.2.costOfGoods
  let before := (table.get? (date, item.1)).getD ⟨0, 0, 0, 0, 0, 0⟩
  table.set (date, item.1)
    { unitsSold := before.unitsSold + .ofRat item.2.unitsSold
      revenue := before.revenue + .ofRat item.2.revenue
      costOfGoods := before.costOfGoods + .ofRat item.2.costOfGoods
      grossProfit := before.grossProfit + .ofRat grossProfit
      discountGiven := before.discountGiven + .ofRat item.2.discountGiven
      transactionCount := before.transactionCount + 1 }

/-- `batchUpsertProductDailySummary`. -/
def batchUpsertProductDailySummary (table : OrderedMap (IsoDate × ProductId) ProductSummaryRow)
    (date : IsoDate) (items : OrderedMap ProductId ProductTotals) :
    OrderedMap (IsoDate × ProductId) ProductSummaryRow :=
  items.entries.foldl (upsertProduct date) table

/-- One row of `batchDecrementProductDailySummary`; a row that is not there is not made. -/
def decrementProduct (date : IsoDate)
    (table : OrderedMap (IsoDate × ProductId) ProductSummaryRow)
    (item : ProductId × ProductTotals) : OrderedMap (IsoDate × ProductId) ProductSummaryRow :=
  let grossProfit := item.2.revenue - item.2.costOfGoods
  table.modify (date, item.1) fun before =>
    { unitsSold := before.unitsSold - .ofRat item.2.unitsSold
      revenue := before.revenue - .ofRat item.2.revenue
      costOfGoods := before.costOfGoods - .ofRat item.2.costOfGoods
      grossProfit := before.grossProfit - .ofRat grossProfit
      discountGiven := before.discountGiven - .ofRat item.2.discountGiven
      transactionCount := max (before.transactionCount - 1) 0 }

/-- `batchDecrementProductDailySummary`. -/
def batchDecrementProductDailySummary (table : OrderedMap (IsoDate × ProductId) ProductSummaryRow)
    (date : IsoDate) (items : OrderedMap ProductId ProductTotals) :
    OrderedMap (IsoDate × ProductId) ProductSummaryRow :=
  items.entries.foldl (decrementProduct date) table

/-! ## The sales rollup -/

/-- `incrementDailySummary`. -/
def incrementDailySummary (table : OrderedMap (IsoDate × PaymentMethod) DailySummaryRow)
    (saleDate : IsoDate) (paymentMethod : PaymentMethod)
    (totalAmount totalCost discountAmount : ℚ) (isCredit isPartialPayment : Bool) :
    OrderedMap (IsoDate × PaymentMethod) DailySummaryRow :=
  let profit := totalAmount - totalCost
  let before := (table.get? (saleDate, paymentMethod)).getD ⟨0, 0, 0, 0, 0, 0, 0⟩
  table.set (saleDate, paymentMethod)
    { transactionCount := before.transactionCount + 1
      totalAmount := before.totalAmount + .ofRat totalAmount
      totalCost := before.totalCost + .ofRat totalCost
      totalProfit := before.totalProfit + .ofRat profit
      totalDiscounts := before.totalDiscounts + .ofRat discountAmount
      creditCount := before.creditCount + if isCredit then 1 else 0
      partialPaymentCount := before.partialPaymentCount + if isPartialPayment then 1 else 0 }

/-- The rows that `decrementDailySummary` deletes. -/
def DailySummaryRow.isSpent (row : DailySummaryRow) : Bool :=
  decide (row.transactionCount = 0 ∧ |row.totalAmount.toRat| < 1 / 100 ∧
    |row.totalDiscounts.toRat| < 1 / 100 ∧ |row.totalProfit.toRat| < 1 / 100 ∧
    |row.totalCost.toRat| < 1 / 100)

/-- The update of `decrementDailySummary`; the counts stop at zero. -/
def DailySummaryRow.lower (row : DailySummaryRow) (totalAmount totalCost discountAmount : ℚ)
    (isCredit isPartialPayment : Bool) : DailySummaryRow where
  transactionCount := max (row.transactionCount - 1) 0
  totalAmount := row.totalAmount - .ofRat totalAmount
  totalCost := row.totalCost - .ofRat totalCost
  totalProfit := row.totalProfit - .ofRat (totalAmount - totalCost)
  totalDiscounts := row.totalDiscounts - .ofRat discountAmount
  creditCount := max (row.creditCount - if isCredit then 1 else 0) 0
  partialPaymentCount := max (row.partialPaymentCount - if isPartialPayment then 1 else 0) 0

/-- `decrementDailySummary`; a spent row is deleted. -/
def decrementDailySummary (table : OrderedMap (IsoDate × PaymentMethod) DailySummaryRow)
    (saleDate : IsoDate) (paymentMethod : PaymentMethod)
    (totalAmount totalCost discountAmount : ℚ) (isCredit isPartialPayment : Bool) :
    OrderedMap (IsoDate × PaymentMethod) DailySummaryRow :=
  let lowered := table.modify (saleDate, paymentMethod)
    (·.lower totalAmount totalCost discountAmount isCredit isPartialPayment)
  if (lowered.get? (saleDate, paymentMethod)).any (·.isSpent) then
    lowered.erase (saleDate, paymentMethod)
  else lowered

structure RollupDecrement where
  reverseAmount : ℚ
  reverseDiscount : ℚ

/-- `projectSaleRollupDecrement`. -/
def projectSaleRollupDecrement (paymentMethod : PaymentMethod)
    (headerTotal headerDiscount amountPaid giftAmount : ℚ) : RollupDecrement :=
  let headerTotal := roundSaleMoney headerTotal
  let headerDiscount := roundSaleMoney (max 0 headerDiscount)
  let amountPaid := roundSaleMoney (max 0 amountPaid)
  let giftAmount := roundSaleMoney (max 0 giftAmount)
  if paymentMethod = .GIFT then ⟨headerTotal, headerDiscount⟩
  else if SALE_DISCOUNT_MONEY_TOLERANCE < giftAmount then
    ⟨roundSaleMoney (max 0 (headerTotal - giftAmount)), headerDiscount⟩
  else if paymentMethod ≠ .CREDIT ∧ headerDiscount ≤ SALE_DISCOUNT_MONEY_TOLERANCE ∧
      SALE_DISCOUNT_MONEY_TOLERANCE < amountPaid ∧
      amountPaid + SALE_DISCOUNT_MONEY_TOLERANCE < headerTotal then
    ⟨amountPaid, roundSaleMoney (headerTotal - amountPaid)⟩
  else ⟨headerTotal, headerDiscount⟩

/-- Whether a sale counts as a partly paid credit sale. -/
def isPartialPayment (paymentMethod : PaymentMethod) (amountPaid totalAmount : Cents) : Bool :=
  decide (paymentMethod = .CREDIT ∧ 0 < amountPaid ∧ amountPaid < totalAmount)

/-- What a new sale adds to the sales rollup. -/
def countSale (daily : OrderedMap (IsoDate × PaymentMethod) DailySummaryRow) (sale : Sale) :
    OrderedMap (IsoDate × PaymentMethod) DailySummaryRow :=
  let gift := sale.giftAmount.toRat
  let billed := sale.totalAmount.toRat - gift
  if sale.paymentMethod = .GIFT then
    incrementDailySummary daily sale.saleDate .GIFT
      (if 0 < gift then gift else sale.totalAmount.toRat) sale.totalCost.toRat 0 false false
  else
    let billedRow := incrementDailySummary daily sale.saleDate sale.paymentMethod billed
      sale.totalCost.toRat sale.discountAmount.toRat (decide (sale.paymentMethod = .CREDIT))
      (isPartialPayment sale.paymentMethod sale.amountPaid sale.totalAmount)
    if 9 / 1000 < gift then
      incrementDailySummary billedRow sale.saleDate .GIFT gift 0 0 false false
    else billedRow

/-- What a voided or fully returned sale takes from it (`reverseDailySummaryFromSale`). -/
def uncountSale (daily : OrderedMap (IsoDate × PaymentMethod) DailySummaryRow) (sale : Sale) :
    OrderedMap (IsoDate × PaymentMethod) DailySummaryRow :=
  let gift := sale.giftAmount.toRat
  let rollup := projectSaleRollupDecrement sale.paymentMethod sale.totalAmount.toRat
    sale.discountAmount.toRat sale.amountPaid.toRat gift
  let billedRow := decrementDailySummary daily sale.saleDate sale.paymentMethod
    rollup.reverseAmount sale.totalCost.toRat rollup.reverseDiscount
    (decide (sale.paymentMethod = .CREDIT))
    (isPartialPayment sale.paymentMethod sale.amountPaid sale.totalAmount)
  if 9 / 1000 < gift ∧ sale.paymentMethod ≠ .GIFT then
    decrementDailySummary billedRow sale.saleDate .GIFT gift 0 0 false false
  else billedRow

/-! ## Making a sale -/

/-- A line of a new sale, its cost reconciled with the lots it was taken from. -/
structure SaleLine where
  productId : Option ProductId
  quantity : ℚ
  unitPrice : ℚ
  lineTotal : ℚ
  costPrice : ℚ
  discountAmount : ℚ

structure CreateSaleInput where
  saleDate : IsoDate
  tender : TenderInput
  taxAmount : ℚ
  /-- Of the cart and the lines together. -/
  totalDiscountAmount : ℚ
  /-- What the lots lost. -/
  inventoryIssueCost : ℚ
  lines : List SaleLine
  /-- The amount paid that the invoice of a converted quotation writes back. -/
  quotationAmountPaid : Option ℚ

/-- The row of a line. -/
def SaleLine.stored (line : SaleLine) (id : ℕ) : SaleItem where
  id := id
  productId := line.productId
  quantity := .ofRat line.quantity
  refundedQty := 0
  unitPrice := .ofRat line.unitPrice
  unitCost := .ofRat line.costPrice
  totalPrice := .ofRat line.lineTotal
  discountAmount := .ofRat line.discountAmount

/-- `addSaleItems`. -/
def storedItems (lines : List SaleLine) : List SaleItem :=
  lines.mapIdx fun id line => line.stored id

/-- What a line adds to the product rollup. -/
def SaleLine.entry (line : SaleLine) : Option (ProductId × ProductTotals) :=
  line.productId.map fun productId =>
    (productId, ⟨line.quantity, line.lineTotal, line.costPrice * line.quantity,
      line.discountAmount⟩)

/-- What a row takes from it when its whole sale goes. -/
def SaleItem.entry (item : SaleItem) : Option (ProductId × ProductTotals) :=
  item.productId.map fun productId =>
    (productId, ⟨item.quantity.toRat, item.totalPrice.toRat,
      item.unitCost.toRat * item.quantity.toRat, item.discountAmount.toRat⟩)

/-- The new row, before the invoice of a quotation is paid. -/
def newSale (input : CreateSaleInput) (settlement : TenderSettlement) : Sale where
  saleDate := input.saleDate
  status := .COMPLETED
  paymentMethod := settlement.effectivePaymentMethod
  totalAmount := .ofRat settlement.totalAmount
  taxAmount := .ofRat input.taxAmount
  discountAmount := .ofRat input.totalDiscountAmount
  totalCost := .ofRat input.inventoryIssueCost
  amountPaid := .ofRat settlement.paymentReceived
  giftAmount := .ofRat settlement.giftAmount
  items := storedItems input.lines
  refunds := []

/-- `createSale`; the id is that of the new row.  The rollup is counted from the row as it was
inserted, also where the amount paid has been rewritten since. -/
def createSale (store : SaleStore) (id : SaleId) (input : CreateSaleInput) :
    Except SaleError SaleStore := do
  require (input.lines ≠ []) .noItems
  require (∀ line ∈ input.lines, 0 < line.quantity) .lineQuantity
  let settlement ← settleTender input.tender
  let sale := newSale input settlement
  let amountPaid := (input.quotationAmountPaid.map Numeric.ofRat).getD sale.amountPaid
  pure
    { sales := store.sales.set id { sale with amountPaid := amountPaid }
      daily := countSale store.daily sale
      products := batchUpsertProductDailySummary store.products sale.saleDate
        (aggregate (input.lines.filterMap SaleLine.entry)) }

/-! ## Voiding a sale -/

structure VoidEnv where
  periodOpen : IsoDate → Bool
  /-- The voider holds `admin.delete`. -/
  mayForceVoid : Bool
  /-- The voider holds `sales.approve`. -/
  mayApprove : Bool
  /-- The approver named, where it is another user, holds `sales.approve`. -/
  approverMayApprove : Bool
  amountThreshold : ℚ

structure VoidInput where
  saleId : SaleId
  voidReason : String
  hasApprover : Bool
  forceAdminVoid : Bool

/-- The checks of `voidSale`. -/
def checkVoid (env : VoidEnv) (sale : Sale) (input : VoidInput) : Except SaleError Unit := do
  if sale.status = .COMPLETED ∨ sale.status = .PARTIALLY_RETURNED then
    require (input.forceAdminVoid = true) .completedNoVoid
    require (env.mayForceVoid = true) .forceVoidAdminOnly
  require (sale.status ∉ [.VOID, .REFUNDED, .VOIDED_BY_RETURN]) .deadStatus
  require (env.periodOpen sale.saleDate = true) .periodClosed
  require (jsTrim input.voidReason ≠ "") .voidReasonRequired
  require (¬ (env.amountThreshold < sale.totalAmount.toRat ∧ input.hasApprover = false ∧
    env.mayApprove = false)) .managerApprovalRequired
  require (input.hasApprover = true → env.approverMayApprove = true) .approverPermission

/-- What the whole sale is worth to the product rollup. -/
def Sale.entries (sale : Sale) : List (ProductId × ProductTotals) :=
  sale.items.filterMap SaleItem.entry

/-- `voidSale`: the row is updated only while it is completed. -/
def voidSale (env : VoidEnv) (store : SaleStore) (input : VoidInput) :
    Except SaleError SaleStore := do
  let sale ← orThrow (store.sales.get? input.saleId) .notFound
  checkVoid env sale input
  require (sale.status = .COMPLETED) .alreadyVoided
  pure
    { sales := store.sales.set input.saleId { sale with status := .VOID }
      daily := uncountSale store.daily sale
      products := batchDecrementProductDailySummary store.products sale.saleDate
        (aggregate sale.entries) }

/-! ## Returning goods -/

structure RefundEnv where
  periodOpen : IsoDate → Bool
  /-- The sale is recent, or the user may take back an old one. -/
  agedReturnAllowed : IsoDate → Bool
  approverMayApprove : Bool

structure RefundInput where
  saleId : SaleId
  reason : String
  refundType : RefundType
  hasApprover : Bool
  /-- The item ids and their quantities. -/
  items : List (ℕ × ℚ)

structure ValidatedItem where
  saleItem : SaleItem
  refundQty : ℚ
  costTotal : ℚ

/-- The checks of `refundSale` before it looks at the items. -/
def checkRefund (env : RefundEnv) (sale : Sale) (input : RefundInput) : Except SaleError Unit := do
  require (sale.status = .COMPLETED ∨ sale.status = .PARTIALLY_RETURNED) .notReturnable
  require (env.periodOpen sale.saleDate = true) .periodClosed
  require (env.agedReturnAllowed sale.saleDate = true) .agedReturn
  require (jsTrim input.reason ≠ "") .refundReasonRequired
  require (input.items ≠ []) .noRefundItems
  require (input.hasApprover = true → env.approverMayApprove = true) .refundApproverPermission

/-- The check of one item against what remains of its line. -/
def validateItem (items : List SaleItem) (refundItem : ℕ × ℚ) : Except SaleError ValidatedItem := do
  let saleItem ← orThrow (items.find? fun item => decide (item.id = refundItem.1)) .refundItemUnknown
  let remainingQty := saleItem.quantity - saleItem.refundedQty
  require (0 < refundItem.2) .refundQtyInvalid
  require (refundItem.2 ≤ remainingQty.toRat) .refundQtyExceeds
  pure ⟨saleItem, refundItem.2, roundSaleMoney (refundItem.2 * saleItem.unitCost.toRat)⟩

/-- The quantity of a line in a refund: of an item named twice, the last one. -/
def thisQtyOf (validated : List ValidatedItem) (id : ℕ) : ℚ :=
  match validated.reverse.find? fun row => decide (row.saleItem.id = id) with
  | some row => row.refundQty
  | none => 0

/-- `getRefundedChargedTotal`. -/
def Sale.refundedChargedTotal (sale : Sale) : ℚ :=
  ((sale.refunds.map (·.totalAmount)).sum : Cents).toRat

/-- `projectSaleRefundChargedFromSale` on the rows of the sale. -/
def chargeRefund (sale : Sale) (alreadyRefundedCharged : ℚ) (validated : List ValidatedItem) :
    SaleRefundChargedProjection :=
  projectSaleRefundCharged sale.totalAmount.toRat sale.taxAmount.toRat alreadyRefundedCharged
    (sale.items.map fun item =>
      { saleItemId := item.id
        quantity := item.quantity.toRat
        remainingQty := (item.quantity - item.refundedQty).toRat
        unitPrice := item.unitPrice.toRat
        lineNet := item.totalPrice.toRat
        thisQty := thisQtyOf validated item.id })

/-- What a line of the refund gives back. -/
def lineTotalOf (charged : SaleRefundChargedProjection) (row : ValidatedItem) : ℚ :=
  match charged.lines.reverse.find? fun line => decide (line.saleItemId = row.saleItem.id) with
  | some line => roundSaleMoney line.lineCharged
  | none => 0

/-- `incrementRefundedQty` on the items of the sale. -/
def incrementRefundedQty (items : List SaleItem) (row : ValidatedItem) :
    Except SaleError (List SaleItem) := do
  let current ← orThrow (items.find? fun item => decide (item.id = row.saleItem.id))
    .refundQtyExceeds
  require (current.refundedQty.toRat + row.refundQty ≤ current.quantity.toRat) .refundQtyExceeds
  pure (items.map fun item =>
    if item.id = row.saleItem.id then
      { item with refundedQty := .ofRat (item.refundedQty.toRat + row.refundQty) }
    else item)

/-- `isSaleFullyRefunded`. -/
def isSaleFullyRefunded (items : List SaleItem) : Bool :=
  !items.isEmpty && items.all fun item => decide (item.quantity ≤ item.refundedQty)

/-- What a partial return takes from the product rollup. -/
def ValidatedItem.entry (charged : SaleRefundChargedProjection) (row : ValidatedItem) :
    Option (ProductId × ProductTotals) :=
  row.saleItem.productId.map fun productId =>
    (productId, ⟨row.refundQty, lineTotalOf charged row, row.costTotal,
      if 0 < row.saleItem.quantity then
        row.saleItem.discountAmount.toRat * row.refundQty / row.saleItem.quantity.toRat
      else 0⟩)

/-- `refundSale`. -/
def refundSale (env : RefundEnv) (store : SaleStore) (input : RefundInput) :
    Except SaleError SaleStore := do
  let sale ← orThrow (store.sales.get? input.saleId) .notFound
  checkRefund env sale input
  let validated ← input.items.mapM (validateItem sale.items)
  let charged := chargeRefund sale sale.refundedChargedTotal validated
  let refund : RefundDocument :=
    ⟨.ofRat (roundSaleMoney charged.refundChargedTotal),
      .ofRat (validated.map (·.costTotal)).sum, input.refundType⟩
  let items ← validated.foldlM incrementRefundedQty sale.items
  let returned := { sale with items := items, refunds := sale.refunds ++ [refund] }
  if isSaleFullyRefunded items then
    pure
      { sales := store.sales.set input.saleId { returned with status := .VOIDED_BY_RETURN }
        daily := uncountSale store.daily sale
        products := batchDecrementProductDailySummary store.products sale.saleDate
          (aggregate sale.entries) }
  else
    pure
      { sales := store.sales.set input.saleId { returned with status := .PARTIALLY_RETURNED }
        daily := store.daily
        products := batchDecrementProductDailySummary store.products sale.saleDate
          (aggregate (validated.filterMap (ValidatedItem.entry charged))) }

/-! ## Runs -/

inductive SaleCall where
  | create (id : SaleId) (input : CreateSaleInput)
  | void (env : VoidEnv) (input : VoidInput)
  | refund (env : RefundEnv) (input : RefundInput)

/-- What a call does. -/
def SaleCall.apply (store : SaleStore) : SaleCall → Except SaleError SaleStore
  | .create id input => createSale store id input
  | .void env input => voidSale env store input
  | .refund env input => refundSale env store input

/-- The id of a new sale is new. -/
def SaleCall.IsFresh (store : SaleStore) : SaleCall → Prop
  | .create id _ => store.sales.get? id = none
  | _ => True

instance (store : SaleStore) (call : SaleCall) : Decidable (call.IsFresh store) := by
  cases call <;> unfold SaleCall.IsFresh <;> infer_instance

/-- The store a call leaves. -/
def SaleCall.after (store : SaleStore) (call : SaleCall) : SaleStore :=
  settled (call.apply store) store

/-- A successful call. -/
structure SaleStep (store : SaleStore) (call : SaleCall) (store' : SaleStore) : Prop where
  fresh : call.IsFresh store
  after : call.apply store = .ok store'

theorem saleStep_after {store : SaleStore} {call : SaleCall} (hfresh : call.IsFresh store)
    (h : (call.apply store).toBool = true) : SaleStep store call (call.after store) :=
  ⟨hfresh, eq_ok_settled h store⟩

end SmartErpPos.Sales
