/-
  Sales/RefundDocument.lean --- the rows of a refund and what it puts back into stock.

  Sources: `refundSale` of `modules/sales/salesService.ts` (the refund items and the
  restoration loop), `addRefundItems` of `modules/sales/salesRepository.ts`, and
  `restoreCustomerReturn` of `modules/inventory/warehouse/warehouseReturnInventoryService.ts`.

  `Sales/SaleStore.lean` has the rest of the call: its checks, the header with its amount
  and the returned quantities.  The amount is charged for one quantity of each item, the
  rows and the stock follow the lines of the request.
-/
import SmartErpPos.Lot.OnHand
import SmartErpPos.Sales.ReturnedItems
import SmartErpPos.Sales.SaleStock

set_option autoImplicit false

namespace SmartErpPos.Sales

open SmartErpPos.Lib SmartErpPos.Lot

/-! ## Rows -/

/-- A row of `sale_refund_items`. -/
structure RefundItemRow where
  saleItemId : ℕ
  quantity : Quantity
  unitPrice : Cents
  unitCost : Cents
  lineTotal : Cents
  costTotal : Cents
  deriving DecidableEq

/-- The row of a line of the request. -/
def ValidatedItem.row (charged : SaleRefundChargedProjection) (item : ValidatedItem) :
    RefundItemRow where
  saleItemId := item.saleItem.id
  quantity := .ofRat item.refundQty
  unitPrice := item.saleItem.unitPrice
  unitCost := item.saleItem.unitCost
  lineTotal := .ofRat (lineTotalOf charged item)
  costTotal := .ofRat item.costTotal

/-! ## Stock -/

/-- The columns of a sale item that decide where its stock goes. -/
structure RefundStockItem extends SaleStockItem where
  /-- `item_type = 'custom'`. -/
  isCustom : Bool
  deriving DecidableEq

/-- The product whose stock a line returns to. -/
def RefundStockItem.stockProduct (item : RefundStockItem) : Option String :=
  if item.isCustom then none else item.productId

/-- What the texts of a refund show. -/
structure RefundHeader where
  refundId : String
  refundNumber : String
  saleNumber : String
  reason : String

/-- What a failed refund throws. -/
inductive RefundError where
  | sale (error : SaleError)
  | stock (error : LotError)
  /-- `ERR_REFUND_007` after the conversion. -/
  | invalidBaseQuantity
  deriving DecidableEq

/-- The call of `restoreCustomerReturn`; `none` without multistore balances. -/
def restoreCustomerReturn (env : LotEnv) (clock : Clock) (db : LotDb) (header : RefundHeader)
    (productId : String) (quantity : ℚ) (item : RefundStockItem) :
    Except LotError (Option LotDb) :=
  if env.multistore then do
    let requested := item.storeLocationId.bind fun id =>
      (db.stores.get? id).filter fun store => store.storeType = .SELLING
    let sellingStore ← orThrow
      ((item.storeLocationId.filter fun _ => requested.isSome).or
        ((getActivePosSellingStore env db).map (·.1)))
      (.failure "Cannot restore returned stock: no POS selling store")
    let batchId := item.batchId.or
      ((item.productLotId.bind db.productLots.get?).map (·.inventoryBatchId))
    let returned ← returnLot env clock db
      { productId := productId
        lotNumber := none
        batchId := batchId
        quantity := quantity
        expiryDate := none
        costPrice := item.unitCost.toRat
        targetStoreLocationId := some sellingStore
        referenceId := header.refundId
        notes := some ("Refund " ++ header.refundNumber ++ " for sale " ++ header.saleNumber ++
          ": " ++ header.reason) }
    pure (some returned.1)
  else pure none

/-- The call of `returnLot` where the stores are not told apart. -/
def RefundStockItem.returnInput (item : RefundStockItem) (header : RefundHeader)
    (productId : String) (quantity : ℚ) : LotReturnInput where
  productId := productId
  lotNumber := some ("REFUND-RESTORE-" ++ header.refundNumber)
  batchId := item.batchId
  quantity := quantity
  expiryDate := none
  costPrice := item.unitCost.toRat
  targetStoreLocationId := none
  referenceId := header.refundId
  notes := some ("Restored from refund " ++ header.refundNumber ++ " on sale " ++ header.saleNumber)

/-- One turn of the restoration loop. -/
def restoreRefundedItem (env : LotEnv) (clock : Clock) (header : RefundHeader)
    (stockItem : ℕ → RefundStockItem) (db : LotDb) (row : ValidatedItem) :
    Except RefundError LotDb := do
  let item := stockItem row.saleItem.id
  let quantity := row.refundQty * item.conversionFactor.toRat
  require (0 < quantity) .invalidBaseQuantity
  match item.stockProduct with
  | none => pure db
  | some productId =>
    let restored ← (restoreCustomerReturn env clock db header productId quantity item).mapError .stock
    match restored with
    | some db => pure db
    | none =>
      let returned ← (returnLot env clock db
        (item.returnInput header productId quantity)).mapError .stock
      pure returned.1

/-! ## The call -/

/-- What a refund leaves behind. -/
structure RefundOutcome where
  store : SaleStore
  rows : List RefundItemRow
  stock : LotDb

/-- `refundSale` with its rows and its stock.  `stockItem` has the stock columns of the items. -/
def refundWithStock (refundEnv : RefundEnv) (env : LotEnv) (clock : Clock) (header : RefundHeader)
    (stockItem : ℕ → RefundStockItem) (store : SaleStore) (db : LotDb) (input : RefundInput) :
    Except RefundError RefundOutcome := do
  let store' ← (refundSale refundEnv store input).mapError .sale
  let sale ← orThrow (store.sales.get? input.saleId) (.sale .notFound)
  let validated ← (input.items.mapM (validateItem sale.items)).mapError .sale
  let charged := chargeRefund sale sale.refundedChargedTotal validated
  let stock ← validated.foldlM (restoreRefundedItem env clock header stockItem) db
  pure ⟨store', validated.map (ValidatedItem.row charged), stock⟩

end SmartErpPos.Sales
