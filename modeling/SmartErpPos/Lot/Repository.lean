/-
  Lot/Repository.lean --- the statements on the lot tables.

  Sources: `modules/inventory-lot/postgresLotRepository.ts` and, for stores and
  balances, `storeLocationRepository.ts`, `multistoreReceiptStore.ts` and
  `warehouseInventoryRepository.ts` of `modules/inventory/warehouse`.

  Each function is one repository method.  A stored quantity is the rounding of
  the exact SQL expression to the column's four decimals.
-/
import SmartErpPos.Lot.Rules

set_option autoImplicit false

namespace SmartErpPos.Lot

open SmartErpPos.Lib

/-! ## Reading batches -/

/-- `rowToInventoryLot`.  The table has no manufacturing date. -/
def rowToInventoryLot (id : BatchId) (row : BatchRow) : InventoryLot where
  id := id
  productId := row.productId
  lotNumber := row.batchNumber
  attributes :=
    { expiryDate := row.expiryDate
      manufacturingDate := none
      receivedDate := some (dayOf (row.receivedDate.getD row.createdAt)) }
  quantity := row.quantity.toRat
  remainingQuantity := row.remainingQuantity.toRat
  costPrice := row.costPrice.toRat
  status := row.status
  genealogy :=
    { parentLotId := row.parentLotId
      sourceType := row.sourceType.getD .GOODS_RECEIPT
      goodsReceiptId := row.goodsReceiptId
      goodsReceiptItemId := row.goodsReceiptItemId }
  isBonus := row.isBonus

/-- `getLotByIdWithClient`. -/
def getLotById (db : LotDb) (lotId : BatchId) : Option InventoryLot :=
  (db.batches.get? lotId).map (rowToInventoryLot lotId)

/-- The batch with a product's batch number; the pair is unique. -/
def findBatch (db : LotDb) (productId batchNumber : String) : Option (BatchId × BatchRow) :=
  db.batches.entries.find? fun e => e.2.productId = productId ∧ e.2.batchNumber = batchNumber

/-- The oldest projection row of a batch. -/
def getProductLotIdByBatchId (db : LotDb) (inventoryBatchId : BatchId) : Option ProductLotId :=
  (db.productLots.entries.find? fun e => e.2.inventoryBatchId = inventoryBatchId).map Prod.fst

/-! ## Writing batches -/

/-- Insert a batch under a fresh key: the unique index and the enum type apply. -/
def insertBatch (env : LotEnv) (db : LotDb) (row : BatchRow) :
    Except LotError (LotDb × InventoryLot) := do
  let _ ← require ((findBatch db row.productId row.batchNumber).isNone = true)
    (.database "inventory_batches_product_batch_unique")
  let _ ← require (row.status ∈ env.batchStatusEnum) (.database "batch_status")
  pure ({ db with batches := db.batches.set db.nextId row, nextId := db.nextId + 1 },
    rowToInventoryLot db.nextId row)

/-- Overwrite a batch row. -/
def writeBatch (db : LotDb) (id : BatchId) (row : BatchRow) : LotDb × InventoryLot :=
  ({ db with batches := db.batches.set id row }, rowToInventoryLot id row)

structure LotMasterWrite where
  productId : String
  lotNumber : String
  attributes : LotAttributes
  quantity : ℚ
  remainingQuantity : ℚ
  costPrice : ℚ
  status : LotStoredStatus
  sourceType : LotSourceType
  goodsReceiptId : Option String
  goodsReceiptItemId : Option String
  purchaseOrderId : Option String
  purchaseOrderItemId : Option String
  isBonus : Bool
  parentLotId : Option BatchId

/-- The row `upsertMaster` and `upsertOpeningBalanceMaster` insert. -/
def LotMasterWrite.row (data : LotMasterWrite) (clock : Clock) : BatchRow where
  productId := data.productId
  batchNumber := data.lotNumber
  quantity := Numeric.ofRat data.quantity
  remainingQuantity := Numeric.ofRat data.remainingQuantity
  expiryDate := data.attributes.expiryDate
  costPrice := Numeric.ofRat data.costPrice
  receivedDate := some clock.now
  createdAt := clock.now
  status := data.status
  goodsReceiptId := data.goodsReceiptId
  goodsReceiptItemId := data.goodsReceiptItemId
  purchaseOrderId := data.purchaseOrderId
  purchaseOrderItemId := data.purchaseOrderItemId
  isBonus := data.isBonus
  sourceType := some data.sourceType
  parentLotId := data.parentLotId
  notes := none

/-- A plain INSERT, despite its name. -/
def upsertMaster (env : LotEnv) (clock : Clock) (db : LotDb) (data : LotMasterWrite) :
    Except LotError (LotDb × InventoryLot) :=
  insertBatch env db (data.row clock)

/-- The columns an opening import overwrites on conflict. -/
def LotMasterWrite.overwrite (data : LotMasterWrite) (existing : BatchRow) : BatchRow :=
  { existing with
    quantity := Numeric.ofRat data.quantity
    remainingQuantity := Numeric.ofRat data.remainingQuantity
    costPrice := Numeric.ofRat data.costPrice
    expiryDate := data.attributes.expiryDate }

/-- `none` when an existing batch is skipped. -/
def upsertOpeningBalanceMaster (env : LotEnv) (clock : Clock) (db : LotDb) (data : LotMasterWrite)
    (duplicateStrategy : OpeningLotDuplicateStrategy) :
    Except LotError (LotDb × Option InventoryLot) :=
  match duplicateStrategy, findBatch db data.productId data.lotNumber with
  | .UPDATE, some (id, existing) =>
    let written := writeBatch db id (data.overwrite existing)
    .ok (written.1, some written.2)
  | .SKIP, some _ => .ok (db, none)
  | _, _ => do
    let inserted ← insertBatch env db
      { data.row clock with
        purchaseOrderId := none
        purchaseOrderItemId := none
        sourceType := some .OPENING_BALANCE
        parentLotId := none }
    pure (inserted.1, some inserted.2)

/-- The row after adding to the remaining quantity: a batch with stock is `ACTIVE`,
whatever its status was. -/
def BatchRow.increased (row : BatchRow) (quantity : ℚ) : BatchRow :=
  let total := row.remainingQuantity.toRat + quantity
  { row with
    remainingQuantity := Numeric.ofRat total
    status := if 0 < total then .ACTIVE else row.status }

/-- The row after taking from the remaining quantity: an empty batch is `DEPLETED`. -/
def BatchRow.decremented (row : BatchRow) (quantity : ℚ) : BatchRow :=
  let rest := row.remainingQuantity.toRat - quantity
  { row with
    remainingQuantity := Numeric.ofRat rest
    status := if rest ≤ 0 then .DEPLETED else row.status }

def increaseMasterRemainingQuantity (db : LotDb) (batchId : BatchId) (quantity : ℚ) :
    Except LotError (LotDb × InventoryLot) := do
  let row ← orThrow (db.batches.get? batchId)
    (.failure ("Lot master not found: " ++ toString batchId))
  pure (writeBatch db batchId (row.increased quantity))

/-- The update is conditional: the batch must have the quantity. -/
def decrementMasterRemainingQuantity (db : LotDb) (batchId : BatchId) (quantity : ℚ) :
    Except LotError (LotDb × InventoryLot) := do
  let row ← orThrow ((db.batches.get? batchId).filter fun row => quantity ≤ row.remainingQuantity.toRat)
    (.failure ("Insufficient lot quantity for batch " ++ toString batchId))
  pure (writeBatch db batchId (row.decremented quantity))

structure ReturnMasterWrite where
  productId : String
  lotNumber : String
  quantity : ℚ
  costPrice : ℚ
  expiryDate : Option LotDate
  notes : Option String

/-- The row `createReturnMaster` inserts. -/
def ReturnMasterWrite.row (data : ReturnMasterWrite) (clock : Clock) : BatchRow where
  productId := data.productId
  batchNumber := data.lotNumber
  quantity := Numeric.ofRat data.quantity
  remainingQuantity := Numeric.ofRat data.quantity
  expiryDate := data.expiryDate
  costPrice := Numeric.ofRat data.costPrice
  receivedDate := some (clock.currentDate * 86400000)
  createdAt := clock.now
  status := .ACTIVE
  goodsReceiptId := none
  goodsReceiptItemId := none
  purchaseOrderId := none
  purchaseOrderItemId := none
  isBonus := false
  sourceType := some .CUSTOMER_RETURN
  parentLotId := none
  notes := data.notes

def createReturnMaster (env : LotEnv) (clock : Clock) (db : LotDb) (data : ReturnMasterWrite) :
    Except LotError (LotDb × InventoryLot) :=
  insertBatch env db (data.row clock)

/-- The row `ensureMainBatch` inserts. -/
def mainBatchRow (clock : Clock) (productId : String) (costPrice : ℚ) : BatchRow where
  productId := productId
  batchNumber := "MAIN"
  quantity := 0
  remainingQuantity := 0
  expiryDate := none
  costPrice := Numeric.ofRat costPrice
  receivedDate := some (clock.currentDate * 86400000)
  createdAt := clock.now
  status := .ACTIVE
  goodsReceiptId := none
  goodsReceiptItemId := none
  purchaseOrderId := none
  purchaseOrderItemId := none
  isBonus := false
  sourceType := none
  parentLotId := none
  notes := none

/-- Insert the `MAIN` batch, or set the existing one `ACTIVE`. -/
def ensureMainBatch (env : LotEnv) (clock : Clock) (db : LotDb) (productId : String)
    (costPrice : ℚ) : Except LotError (LotDb × InventoryLot) :=
  match findBatch db productId "MAIN" with
  | some (id, row) => .ok (writeBatch db id { row with status := .ACTIVE })
  | none => insertBatch env db (mainBatchRow clock productId costPrice)

/-- Set a batch `ACTIVE`; a missing batch is no error. -/
def reactivateMasterBatch (db : LotDb) (batchId : BatchId) : LotDb :=
  { db with batches := db.batches.modify batchId fun row => { row with status := .ACTIVE } }

/-- The statuses the check constraint of `product_lots` admits. -/
def productLotStatuses : List LotStoredStatus :=
  [.ACTIVE, .DEPLETED, .EXPIRED, .QUARANTINED, .BLOCKED]

/-- Set the status of a batch and of its projection rows. -/
def updateMasterStatus (env : LotEnv) (db : LotDb) (lotId : BatchId) (status : LotStoredStatus) :
    Except LotError LotDb := do
  let _ ← require (status ∈ env.batchStatusEnum) (.database "batch_status")
  let _ ← require (status ∈ productLotStatuses ∨ getProductLotIdByBatchId db lotId = none)
    (.database "product_lots_status_check")
  pure { db with
    batches := db.batches.modify lotId fun row => { row with status := status }
    productLots := db.productLots.mapValues fun row =>
      if row.inventoryBatchId = lotId then { row with status := status } else row }

/-! ## The projection -/

structure LotProjectionWrite where
  inventoryBatchId : BatchId
  productId : String
  lotNumber : String
  expiryDate : Option LotDate
  costPrice : ℚ
  goodsReceiptId : Option String
  isBonus : Bool
  status : LotStoredStatus

/-- The columns a projection write sets on an existing row. -/
def LotProjectionWrite.overwrite (data : LotProjectionWrite) (row : ProductLotRow) :
    ProductLotRow :=
  { row with
    expiryDate := data.expiryDate
    costPrice := Numeric.ofRat data.costPrice
    goodsReceiptId := data.goodsReceiptId.or row.goodsReceiptId
    isBonus := data.isBonus
    status := data.status }

/-- The row a projection write inserts. -/
def LotProjectionWrite.row (data : LotProjectionWrite) : ProductLotRow where
  productId := data.productId
  lotNumber := data.lotNumber
  expiryDate := data.expiryDate
  costPrice := Numeric.ofRat data.costPrice
  goodsReceiptId := data.goodsReceiptId
  inventoryBatchId := data.inventoryBatchId
  isBonus := data.isBonus
  status := data.status

/-- Update the batch's projection row when it has one; otherwise insert, and on a
clash of lot numbers take the existing row over. -/
def upsertProjection (db : LotDb) (data : LotProjectionWrite) : Except LotError LotDb := do
  let _ ← require (data.status ∈ productLotStatuses) (.database "product_lots_status_check")
  match getProductLotIdByBatchId db data.inventoryBatchId with
  | some id => pure { db with productLots := db.productLots.modify id data.overwrite }
  | none =>
    let clash := db.productLots.entries.find? fun e =>
      e.2.productId = data.productId ∧ e.2.lotNumber = data.lotNumber
    match clash with
    | some (id, row) =>
      pure { db with
        productLots := db.productLots.set id
          { data.overwrite row with inventoryBatchId := data.inventoryBatchId } }
    | none =>
      pure { db with
        productLots := db.productLots.set db.nextId data.row
        nextId := db.nextId + 1 }

/-! ## Stores -/

/-- The first active store of a list ordered by `code`. -/
def firstByCode (env : LotEnv) (stores : List (StoreId × StoreRow)) : Option (StoreId × StoreRow) :=
  (stores.insertionSort fun a b => env.textLe a.2.code b.2.code = true).head?

/-- The first of a list ordered by a flag, set before unset, then by `code`. -/
def firstByFlagThenCode (env : LotEnv) (flag : StoreRow → Bool)
    (stores : List (StoreId × StoreRow)) : Option (StoreId × StoreRow) :=
  let flagged := stores.filter fun e => flag e.2
  if flagged.isEmpty then firstByCode env stores else firstByCode env flagged

def getActivePosSellingStore (env : LotEnv) (db : LotDb) : Option (StoreId × StoreRow) :=
  firstByFlagThenCode env (·.isPosSelling)
    (db.stores.entries.filter fun e => e.2.isActive && e.2.storeType = .SELLING)

def getDefaultReceivingStore (env : LotEnv) (db : LotDb) : Option (StoreId × StoreRow) :=
  firstByFlagThenCode env (·.isDefaultReceiving)
    (db.stores.entries.filter fun e =>
      e.2.isActive && (e.2.isDefaultReceiving || e.2.storeType = .MAIN))

def getStoreByType (env : LotEnv) (db : LotDb) (storeType : StoreType) :
    Option (StoreId × StoreRow) :=
  firstByCode env (db.stores.entries.filter fun e => e.2.isActive && e.2.storeType = storeType)

/-- Insert a store, or overwrite and activate the one with the same code. -/
def upsertByCode (db : LotDb) (row : StoreRow) : LotDb × StoreId :=
  match db.stores.entries.find? fun e => e.2.code = row.code with
  | some (id, _) => ({ db with stores := db.stores.set id row }, id)
  | none => ({ db with stores := db.stores.set db.nextId row, nextId := db.nextId + 1 }, db.nextId)

/-- Seed the `MAIN`, `TRANSIT` and `SELLING` stores. -/
def ensureDefaultNetworkStores (db : LotDb) : LotDb :=
  let main := (upsertByCode db ⟨"MAIN", "Main Warehouse", .MAIN, true, false, true⟩).1
  let transit := (upsertByCode main ⟨"TRANSIT", "In Transit", .TRANSIT, false, false, true⟩).1
  (upsertByCode transit ⟨"SELLING", "Selling Floor", .SELLING, false, true, true⟩).1

/-- The store a receipt goes to: the explicit one, else the shop, else the main
warehouse. -/
def resolveMultistoreReceiptStoreId (env : LotEnv) (db : LotDb)
    (explicitTargetStoreId : Option StoreId) : Except LotError (LotDb × StoreId) :=
  let seeded := ensureDefaultNetworkStores db
  match explicitTargetStoreId with
  | some target => do
    let _ ← require ((seeded.stores.get? target).any (·.isActive) = true)
      (.validation ("Target store " ++ toString target ++ " is not active"))
    pure (seeded, target)
  | none =>
    match getActivePosSellingStore env seeded with
    | some (id, _) => .ok (seeded, id)
    | none => do
      let main ← orThrow (getDefaultReceivingStore env seeded) (.validation
        "Multistore GRN requires a SELLING (POS) or MAIN receiving store. Run store network setup.")
      pure (seeded, main.1)

def ensureReturnStore (env : LotEnv) (db : LotDb) : LotDb × StoreId :=
  match getStoreByType env db .RETURN with
  | some (id, _) => (db, id)
  | none => upsertByCode db ⟨"RETURN", "Customer Returns", .RETURN, false, false, true⟩

/-! ## Balances -/

/-- Which lot at which store, and how much of it. -/
structure BalanceChange where
  storeLocationId : StoreId
  productId : String
  productLotId : ProductLotId
  quantity : ℚ

def BalanceChange.key (params : BalanceChange) : StoreId × ProductLotId :=
  (params.storeLocationId, params.productLotId)

/-- The balance row an INSERT creates: the other columns take their defaults. -/
def BalanceChange.row (params : BalanceChange) : BalanceRow :=
  ⟨params.productId, Numeric.ofRat params.quantity, 0, 0, false⟩

/-- Add a receipt to a store's balance of a lot. -/
def incrementBalanceAtStore (db : LotDb) (params : BalanceChange) : Except LotError LotDb := do
  let _ ← require (0 < params.quantity) (.validation "Receipt quantity must be positive")
  let _ ← require ((db.stores.get? params.storeLocationId).isSome = true)
    (.database "inventory_balances_store_location_id_fkey")
  let row := match db.balances.get? params.key with
    | some existing =>
      { existing with
        quantityOnHand := existing.quantityOnHand + Numeric.ofRat params.quantity
        productId := params.productId }
    | none => params.row
  pure { db with balances := db.balances.set params.key row }

/-- What may leave a store. -/
def BalanceRow.available (row : BalanceRow) : ℚ :=
  row.quantityOnHand.toRat - row.quantityReserved.toRat - row.quantityCommitted.toRat

/-- `adjustSellableQuantity` with direction `OUT`. -/
def adjustSellableQuantityOut (db : LotDb) (params : BalanceChange) : Except LotError LotDb := do
  let _ ← require (0 < params.quantity) (.validation "Adjustment quantity must be positive")
  let row ← orThrow (db.balances.get? params.key)
    (.validation "No inventory balance at the selected store for this lot")
  let _ ← require (params.quantity ≤ row.available)
    (.validation ("Insufficient sellable stock at store. Available " ++ decimalText row.available ++
      ", requested " ++ decimalText params.quantity ++ "."))
  pure { db with
    balances := db.balances.set params.key
      { row with quantityOnHand := Numeric.ofRat (row.quantityOnHand.toRat - params.quantity) } }

end SmartErpPos.Lot
