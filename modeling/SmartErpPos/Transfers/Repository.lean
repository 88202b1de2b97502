/-
  Transfers/Repository.lean --- stores, balances of lots, transfers and their statements.

  Sources: `modules/inventory/warehouse/warehouseInventoryRepository.ts`,
  `storeTransferRepository.ts`, `storeLocationRepository.ts` and
  `shared/sql/525_warehouse_network_foundation.sql`.

  A quantity computed by the service is a number; a column keeps four decimals of it.  The
  source of a move loses what is left of it after rounding, its destination gets the rounded
  quantity.
-/
import Mathlib.Data.List.Sort
import SmartErpPos.Lib.DecimalText
import SmartErpPos.Lib.Fallible
import SmartErpPos.Lib.OrderedMap
import SmartErpPos.Transfers.Negotiation

set_option autoImplicit false

namespace SmartErpPos.Transfers

open SmartErpPos.Lib

/-! ## Tables -/

inductive StoreType where
  | MAIN
  | SELLING
  | TRANSIT
  | DAMAGE
  | EXPIRED
  | RETURN
  deriving DecidableEq

/-- A row of `store_locations`. -/
structure StoreLocation where
  code : String
  name : String
  storeType : StoreType
  isActive : Bool
  isDefaultReceiving : Bool
  isPosSelling : Bool
  deriving DecidableEq

/-- A row of `product_lots`. -/
structure ProductLot where
  productId : ProductId
  lotNumber : String
  inventoryBatchId : Option ℕ
  deriving DecidableEq

/-- A row of `inventory_balances`. -/
structure InventoryBalance where
  productId : ProductId
  quantityOnHand : Quantity
  quantityReserved : Quantity
  quantityCommitted : Quantity
  quantityTransferIn : Quantity
  quantityTransferOut : Quantity
  deriving DecidableEq

inductive TransferWorkflowMode where
  | REQUEST
  | DIRECT
  | EMERGENCY_OVERRIDE
  deriving DecidableEq

/-- A row of `store_transfers`. -/
structure StoreTransfer where
  transferNumber : String
  status : StoreTransferStatus
  workflowMode : TransferWorkflowMode
  sourceStoreId : StoreId
  transitStoreId : StoreId
  destinationStoreId : StoreId
  notes : Option String
  overrideReason : Option String
  overrideComments : Option String
  totalInventoryValue : Numeric 2
  permissionUsed : String
  deriving DecidableEq

/-- The tables, and the first unused id.  A balance is kept for a store and a lot. -/
structure WarehouseDb where
  stores : OrderedMap StoreId StoreLocation
  lots : OrderedMap LotId ProductLot
  balances : OrderedMap (StoreId × LotId) InventoryBalance
  transfers : OrderedMap TransferId StoreTransfer
  lines : OrderedMap LineId StoreTransferLine
  nextId : ℕ

/-- What a failed call throws. -/
inductive TransferError where
  /-- A `ValidationError`. -/
  | validation (message : String)
  /-- An `Error` or a `BusinessError` of another service. -/
  | service (message : String)
  /-- The database rejects the statement. -/
  | database (constraint : String)
  deriving DecidableEq

/-! ## Stores -/

structure StoreData where
  code : String
  name : String
  storeType : StoreType
  isDefaultReceiving : Bool
  isPosSelling : Bool

/-- The store with a code; `code` is unique. -/
def storeByCode (db : WarehouseDb) (code : String) : Option (StoreId × StoreLocation) :=
  db.stores.entries.find? fun e => e.2.code = code

/-- `upsertByCode`. -/
def upsertByCode (db : WarehouseDb) (data : StoreData) : StoreId × WarehouseDb :=
  let row : StoreLocation :=
    { code := data.code
      name := data.name
      storeType := data.storeType
      isActive := true
      isDefaultReceiving := data.isDefaultReceiving
      isPosSelling := data.isPosSelling }
  match storeByCode db data.code with
  | some (id, _) => (id, { db with stores := db.stores.set id row })
  | none =>
    (db.nextId, { db with stores := db.stores.set db.nextId row, nextId := db.nextId + 1 })

def mainStoreData : StoreData := ⟨"MAIN", "Main Warehouse", .MAIN, true, false⟩
def transitStoreData : StoreData := ⟨"TRANSIT", "In Transit", .TRANSIT, false, false⟩
def sellingStoreData : StoreData := ⟨"SELLING", "Selling Floor", .SELLING, false, true⟩
def damageStoreData : StoreData := ⟨"DAMAGE", "Damaged Quarantine", .DAMAGE, false, false⟩

/-- The ids of the three stores every network has. -/
structure NetworkStores where
  main : StoreId
  transit : StoreId
  selling : StoreId

/-- `ensureDefaultNetworkStores`. -/
def ensureDefaultNetworkStores (db : WarehouseDb) : NetworkStores × WarehouseDb :=
  let (main, db) := upsertByCode db mainStoreData
  let (transit, db) := upsertByCode db transitStoreData
  let (selling, db) := upsertByCode db sellingStoreData
  (⟨main, transit, selling⟩, db)

/-- `getStoreByType`: the active store of a type with the first code. -/
def getStoreByType (db : WarehouseDb) (storeType : StoreType) :
    Option (StoreId × StoreLocation) :=
  ((db.stores.entries.filter fun e => e.2.isActive && decide (e.2.storeType = storeType)).insertionSort
    fun a b => a.2.code ≤ b.2.code).head?

/-- `ensureDamageStore`. -/
def ensureDamageStore (db : WarehouseDb) : StoreId × WarehouseDb :=
  match getStoreByType db .DAMAGE with
  | some (id, _) => (id, db)
  | none => upsertByCode db damageStoreData

/-! ## Balances -/

/-- What a balance has free. -/
def InventoryBalance.available (row : InventoryBalance) : Quantity :=
  row.quantityOnHand - row.quantityReserved - row.quantityCommitted

/-- `getSellableQuantityAtStore`. -/
def getSellableQuantityAtStore (db : WarehouseDb) (storeId : StoreId) (lotId : LotId) : Quantity :=
  match db.balances.get? (storeId, lotId) with
  | none => 0
  | some row => max row.available 0

/-- `column + quantity`, as the column stores it. -/
def addToColumn (x : Quantity) (quantity : ℚ) : Quantity := Numeric.ofRat (x.toRat + quantity)

/-- `column - quantity`, as the column stores it. -/
def takeFromColumn (x : Quantity) (quantity : ℚ) : Quantity := Numeric.ofRat (x.toRat - quantity)

structure MoveLotQuantityParams where
  fromStoreId : StoreId
  toStoreId : StoreId
  productId : ProductId
  productLotId : LotId
  quantity : ℚ
  trackTransferMetrics : Bool

/-- The row of the source after a move. -/
def InventoryBalance.sent (row : InventoryBalance) (params : MoveLotQuantityParams) :
    InventoryBalance :=
  { row with
    quantityOnHand := takeFromColumn row.quantityOnHand params.quantity
    quantityTransferOut :=
      if params.trackTransferMetrics then addToColumn row.quantityTransferOut params.quantity
      else row.quantityTransferOut }

/-- The row of the destination after a move: a new one does not count the transfer. -/
def arrived (row : Option InventoryBalance) (params : MoveLotQuantityParams) : InventoryBalance :=
  let incoming : Quantity := Numeric.ofRat params.quantity
  match row with
  | none => ⟨params.productId, incoming, 0, 0, 0, 0⟩
  | some row =>
    { row with
      productId := params.productId
      quantityOnHand := row.quantityOnHand + incoming
      quantityTransferIn :=
        if params.trackTransferMetrics then row.quantityTransferIn + incoming
        else row.quantityTransferIn }

/-- `moveLotQuantityBetweenStores`. -/
def moveLotQuantityBetweenStores (db : WarehouseDb) (params : MoveLotQuantityParams) :
    Except TransferError WarehouseDb := do
  let _ ← require (0 < params.quantity) (.validation "Transfer quantity must be positive")
  let source ← orThrow (db.balances.get? (params.fromStoreId, params.productLotId))
    (.validation ("No inventory balance at source store for lot " ++ toString params.productLotId))
  let _ ← require (params.quantity ≤ source.available.toRat)
    (.validation ("Insufficient sellable stock at source store. Available " ++
      decimalText source.available.toRat ++ ", requested " ++ decimalText params.quantity ++ "."))
  let sent := db.balances.set (params.fromStoreId, params.productLotId) (source.sent params)
  let destination := (params.toStoreId, params.productLotId)
  pure { db with balances := sent.set destination (arrived (sent.get? destination) params) }

/-! ## Transfers -/

/-- The lines of a transfer, by their numbers. -/
def linesOf (db : WarehouseDb) (transferId : TransferId) : List (LineId × StoreTransferLine) :=
  (db.lines.entries.filter fun e => e.2.storeTransferId = transferId).insertionSort fun a b =>
    a.2.lineNumber ≤ b.2.lineNumber

/-- The quantities of a line are written. -/
def StoreTransferLine.write (line : StoreTransferLine) (approved : Option Quantity)
    (dispatched received shortage : Quantity) : Except TransferError StoreTransferLine :=
  if h : LineCheck line.quantity approved dispatched received shortage then
    .ok { line with
      quantityApproved := approved
      quantityDispatched := dispatched
      quantityReceived := received
      quantityShortage := shortage
      chk_transfer_line_qty := h }
  else .error (.database "chk_transfer_line_qty")

/-- An `UPDATE` of one line. -/
def updateLine (db : WarehouseDb) (lineId : LineId)
    (f : StoreTransferLine → Except TransferError StoreTransferLine) :
    Except TransferError WarehouseDb :=
  match db.lines.get? lineId with
  | none => pure db
  | some line => do
    let updated ← f line
    pure { db with lines := db.lines.set lineId updated }

/-- `markLineDispatched`. -/
def markLineDispatched (db : WarehouseDb) (lineId : LineId) (quantity : ℚ) :
    Except TransferError WarehouseDb :=
  updateLine db lineId fun line =>
    line.write line.quantityApproved (addToColumn line.quantityDispatched quantity)
      line.quantityReceived line.quantityShortage

/-- `markLineReceived`. -/
def markLineReceived (db : WarehouseDb) (lineId : LineId) (quantity : ℚ)
    (receiveComment : Option String) (shortageDelta : ℚ) : Except TransferError WarehouseDb :=
  updateLine db lineId fun line => do
    let written ← line.write line.quantityApproved line.quantityDispatched
      (addToColumn line.quantityReceived quantity) (addToColumn line.quantityShortage shortageDelta)
    pure { written with receiveComment := receiveComment.or written.receiveComment }

/-- `setLineApproval`. -/
def setLineApproval (db : WarehouseDb) (lineId : LineId) (quantityApproved : ℚ)
    (approvalComment : Option String) : Except TransferError WarehouseDb :=
  updateLine db lineId fun line => do
    let written ← line.write (some (Numeric.ofRat quantityApproved)) line.quantityDispatched
      line.quantityReceived line.quantityShortage
    pure { written with approvalComment := approvalComment.or written.approvalComment }

/-- `setLineDispatchComment`: an empty comment is none. -/
def setLineDispatchComment (db : WarehouseDb) (lineId : LineId) (dispatchComment : Option String) :
    WarehouseDb :=
  match dispatchComment.filter fun text => text ≠ "" with
  | none => db
  | some comment =>
    { db with
      lines := db.lines.modify lineId fun line => { line with dispatchComment := some comment } }

/-- `updateStatus`. -/
def updateStatus (db : WarehouseDb) (transferId : TransferId) (status : StoreTransferStatus) :
    WarehouseDb :=
  { db with transfers := db.transfers.modify transferId fun t => { t with status := status } }

/-- `createTransfer` of the repository. -/
def insertTransfer (db : WarehouseDb) (transfer : StoreTransfer) :
    Except TransferError (TransferId × WarehouseDb) := do
  let _ ← require (∀ e ∈ db.transfers.entries, e.2.transferNumber ≠ transfer.transferNumber)
    (.database "uq_store_transfers_number")
  pure (db.nextId, { db with
    transfers := db.transfers.set db.nextId transfer
    nextId := db.nextId + 1 })

/-- A line as the service resolved it. -/
structure ResolvedLine where
  productId : ProductId
  productLotId : LotId
  quantity : ℚ
  deriving DecidableEq

/-- How far the lines of a new transfer are inserted. -/
structure AddingLines where
  db : WarehouseDb
  inserted : List LineId

/-- One line of a new transfer. -/
def addLine (transferId : TransferId) (s : AddingLines) (line : ResolvedLine) :
    Except TransferError AddingLines := do
  let _ ← require ((s.db.lots.get? line.productLotId).any (fun lot => lot.productId = line.productId)
      = true)
    (.service ("Invalid product lot " ++ toString line.productLotId ++ " for product " ++
      toString line.productId))
  let quantity : Quantity := Numeric.ofRat line.quantity
  if hquantity : 0 < quantity then
    let row : StoreTransferLine :=
      { storeTransferId := transferId
        lineNumber := s.inserted.length + 1
        productId := line.productId
        productLotId := line.productLotId
        quantity := quantity
        quantityApproved := none
        quantityDispatched := 0
        quantityReceived := 0
        quantityShortage := 0
        approvalComment := none
        dispatchComment := none
        receiveComment := none
        quantity_positive := hquantity
        chk_transfer_line_qty :=
          ⟨le_rfl, le_rfl, le_rfl, fun _ h => (nomatch h), hquantity.le, le_rfl⟩ }
    pure
      { db := { s.db with
          lines := s.db.lines.set s.db.nextId row
          nextId := s.db.nextId + 1 }
        inserted := s.inserted ++ [s.db.nextId] }
  else .error (.database "store_transfer_lines_quantity_check")

/-- `addLines`. -/
def addLines (db : WarehouseDb) (transferId : TransferId) (lines : List ResolvedLine) :
    Except TransferError AddingLines :=
  lines.foldlM (addLine transferId) ⟨db, []⟩

end SmartErpPos.Transfers
