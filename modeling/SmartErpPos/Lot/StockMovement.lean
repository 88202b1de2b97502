/-
  Lot/StockMovement.lean --- the batch a stock movement acts on.

  Sources: `modules/inventory/stockMovementHandler.ts` (`resolveBatch`) and
  `transitionLotStatus` of `modules/inventory-lot/lotService.ts`.

  A movement without a batch goes to the product's `MAIN` batch, which is created
  or set active again on the way.  What the movement then does to the batch is a
  return or a consumption of `Lot/Service.lean`.
-/
import SmartErpPos.Lot.Service

set_option autoImplicit false

namespace SmartErpPos.Lot

open SmartErpPos.Lib

/-! ## Resolving the batch -/

inductive StockMovementType where
  | GOODS_RECEIPT
  | SALE
  | ADJUSTMENT_IN
  | ADJUSTMENT_OUT
  | TRANSFER_IN
  | TRANSFER_OUT
  | RETURN
  | DAMAGE
  | EXPIRY
  | PHYSICAL_COUNT
  deriving DecidableEq

/-- The outbound types of `resolveBatch`; a physical count is not among them. -/
def outboundMovements : List StockMovementType :=
  [.ADJUSTMENT_OUT, .DAMAGE, .EXPIRY, .SALE, .TRANSFER_OUT]

def StockMovementType.isOutbound (type : StockMovementType) : Bool := outboundMovements.contains type

structure StockMovementParams where
  productId : String
  batchId : Option BatchId
  movementType : StockMovementType
  allowDisposalStatuses : Bool

/-- The batch a movement acts on. -/
structure MovementBatch where
  id : BatchId
  productId : String
  batchNumber : String
  remainingQuantity : ℚ
  costPrice : ℚ

def MovementBatch.ofRow (id : BatchId) (row : BatchRow) : MovementBatch :=
  ⟨id, row.productId, row.batchNumber, row.remainingQuantity.toRat, row.costPrice.toRat⟩

def MovementBatch.ofLot (lot : SelectableLot) (productId : String) : MovementBatch :=
  ⟨lot.lotId, productId, lot.lotNumber, lot.remainingQuantity, lot.costPrice⟩

/-- The named batch must be active and of the product. -/
def resolveGivenBatch (db : LotDb) (params : StockMovementParams) (batchId : BatchId) :
    Except LotError MovementBatch := do
  let row ← orThrow ((db.batches.get? batchId).filter fun row =>
      statusAdmitted params.allowDisposalStatuses row.status)
    (.failure ("Batch " ++ toString batchId ++ " not found or inactive"))
  let _ ← require (row.productId = params.productId)
    (.failure ("Batch " ++ toString batchId ++ " does not belong to product " ++ params.productId))
  pure (.ofRow batchId row)

/-- Create the `MAIN` batch at the product's valuation cost, or set it active. -/
def createMainBatch (env : LotEnv) (clock : Clock) (costOf : String → Option ℚ) (db : LotDb)
    (productId : String) : Except LotError (LotDb × MovementBatch) := do
  let _ ← require ((db.products.find? fun p => p.id = productId).isSome = true)
    (.failure ("Product " ++ productId ++ " not found"))
  let main ← ensureMainBatch env clock db productId ((costOf productId).getD 0)
  pure (main.1, ⟨main.2.id, main.2.productId, main.2.lotNumber, main.2.remainingQuantity,
    main.2.costPrice⟩)

/-- The `MAIN` batch, set active when it is not and the movement is inbound. -/
def resolveMainBatch (env : LotEnv) (clock : Clock) (costOf : String → Option ℚ) (db : LotDb)
    (params : StockMovementParams) : Except LotError (LotDb × MovementBatch) :=
  match findBatch db params.productId "MAIN" with
  | some (id, row) =>
    if row.status ≠ .ACTIVE ∧ params.movementType.isOutbound = false then
      .ok (reactivateMasterBatch db id, .ofRow id row)
    else if row.status = .ACTIVE then .ok (db, .ofRow id row)
    else createMainBatch env clock costOf db params.productId
  | none => createMainBatch env clock costOf db params.productId

/-- An outbound movement without a batch takes the first selectable lot; the other
movements, and outbound ones that find none, take the `MAIN` batch. -/
def resolveBatch (env : LotEnv) (clock : Clock) (costOf : String → Option ℚ) (db : LotDb)
    (params : StockMovementParams) : Except LotError (LotDb × MovementBatch) :=
  match params.batchId with
  | some batchId => do
    let batch ← resolveGivenBatch db params batchId
    pure (db, batch)
  | none =>
    if params.movementType.isOutbound then
      match loadGlobalSelectableLots env clock db params.productId ⟨0, none, false⟩ with
      | first :: _ => .ok (db, .ofLot first params.productId)
      | [] => resolveMainBatch env clock costOf db params
    else resolveMainBatch env clock costOf db params

/-! ## Changing the status -/

/-- Any status may follow any other. -/
def transitionLotStatus (env : LotEnv) (db : LotDb) (input : LotStatusTransitionInput) :
    Except LotError (LotDb × InventoryLot) := do
  let db ← updateMasterStatus env db input.lotId input.newStatus
  let lot ← orThrow (getLotById db input.lotId) (.validation "Lot not found")
  pure (db, lot)

end SmartErpPos.Lot
