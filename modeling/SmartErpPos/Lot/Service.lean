/-
  Lot/Service.lean --- receiving, consuming, returning and splitting lots.

  Sources: `modules/inventory-lot/lotService.ts` and `postgresLotSelector.ts`.

  Every operation runs inside the caller's transaction: it maps the tables to new
  tables or fails, and a failed call leaves them as they were.  Stock movement
  records and the denormalised product quantity are written next to what is
  modelled here and read by none of it.
-/
import SmartErpPos.Lib.JsText
import SmartErpPos.Lot.Repository

set_option autoImplicit false

namespace SmartErpPos.Lot

open SmartErpPos.Lib

/-! ## Loading selectable lots -/

structure LoadSelectableLotsOptions where
  minDaysBeforeExpiry : ℤ
  specificLotId : Option BatchId
  allowDisposalStatuses : Bool

/-- The statuses a disposal may draw from. -/
def disposalStatuses : List LotStoredStatus := [.ACTIVE, .QUARANTINED, .EXPIRED, .BLOCKED]

/-- The status clause of both loaders. -/
def statusAdmitted (allowDisposalStatuses : Bool) (status : LotStoredStatus) : Bool :=
  if allowDisposalStatuses then disposalStatuses.contains status else status = .ACTIVE

/-- `expiry_date IS NULL OR expiry_date > CURRENT_DATE [+ minDays]`. -/
def expiryAdmitted (clock : Clock) (minDays : ℤ) (expiryDate : Option LotDate) : Bool :=
  match expiryDate with
  | none => true
  | some expiry =>
    if 0 < minDays then clock.currentDate + minDays < expiry else clock.currentDate < expiry

/-- `mapMasterRow`. -/
def mapMasterRow (id : BatchId) (row : BatchRow) : SelectableLot where
  lotId := id
  lotNumber := row.batchNumber
  productId := row.productId
  remainingQuantity := row.remainingQuantity.toRat
  costPrice := row.costPrice.toRat
  expiryDate := row.expiryDate
  receivedDate := some (dayOf (row.receivedDate.getD row.createdAt))
  storeLocationId := none
  productLotId := none

/-- Ascending order with NULL last. -/
def nullsLastLt : Option ℤ → Option ℤ → Bool
  | some a, some b => a < b
  | some _, none => true
  | none, _ => false

/-- `ORDER BY expiry_date ASC NULLS LAST, received_date ASC, <number> ASC`. -/
def fefoRowLe (textLe : String → String → Bool) (a b : BatchRow × String) : Bool :=
  if nullsLastLt a.1.expiryDate b.1.expiryDate then true
  else if nullsLastLt b.1.expiryDate a.1.expiryDate then false
  else if nullsLastLt a.1.receivedDate b.1.receivedDate then true
  else if nullsLastLt b.1.receivedDate a.1.receivedDate then false
  else textLe a.2 b.2

/-- Lots of the whole company, from the masters. -/
def loadGlobalSelectableLots (env : LotEnv) (clock : Clock) (db : LotDb) (productId : String)
    (options : LoadSelectableLotsOptions) : List SelectableLot :=
  let admitted := fun row : BatchRow =>
    decide (row.productId = productId) && decide (0 < row.remainingQuantity)
  match options.specificLotId with
  | some specificLotId =>
    let row := (db.batches.get? specificLotId).filter fun row =>
      admitted row && statusAdmitted options.allowDisposalStatuses row.status &&
        (options.allowDisposalStatuses ||
          expiryAdmitted clock options.minDaysBeforeExpiry row.expiryDate)
    (row.map (mapMasterRow specificLotId)).toList
  | none =>
    let rows := db.batches.entries.filter fun e =>
      admitted e.2 && statusAdmitted false e.2.status &&
        expiryAdmitted clock options.minDaysBeforeExpiry e.2.expiryDate
    let sorted := rows.insertionSort fun a b =>
      fefoRowLe env.textLe (a.2, a.2.batchNumber) (b.2, b.2.batchNumber) = true
    sorted.map fun e => mapMasterRow e.1 e.2

/-- A balance joined with its projection, its master and its store. -/
structure StoreLotRow where
  batchId : BatchId
  batch : BatchRow
  productLotId : ProductLotId
  productLot : ProductLotRow
  balance : BalanceRow
  store : StoreRow

/-- The join of `loadStoreSelectableLots` for one balance row. -/
def joinBalance (db : LotDb) (entry : (StoreId × ProductLotId) × BalanceRow) :
    Option StoreLotRow := do
  let productLot ← db.productLots.get? entry.1.2
  let batch ← db.batches.get? productLot.inventoryBatchId
  let store ← db.stores.get? entry.1.1
  pure ⟨productLot.inventoryBatchId, batch, entry.1.2, productLot, entry.2, store⟩

/-- The WHERE clause of `loadStoreSelectableLots`. -/
def storeRowAdmitted (clock : Clock) (productId : String) (options : LoadSelectableLotsOptions)
    (row : StoreLotRow) : Bool :=
  let storeTypes : List StoreType :=
    if options.allowDisposalStatuses then [.MAIN, .SELLING, .DAMAGE, .EXPIRED, .RETURN]
    else [.MAIN, .SELLING]
  decide (row.productLot.productId = productId) &&
    statusAdmitted options.allowDisposalStatuses row.productLot.status &&
    statusAdmitted options.allowDisposalStatuses row.batch.status && !row.balance.blocked &&
    storeTypes.contains row.store.storeType &&
    (options.allowDisposalStatuses ||
      expiryAdmitted clock options.minDaysBeforeExpiry row.batch.expiryDate) &&
    decide (0 < row.balance.available) &&
    options.specificLotId.all fun specificLotId => row.batchId = specificLotId

/-- Lots at one store; the quantity is what may leave the store. -/
def loadStoreSelectableLots (env : LotEnv) (clock : Clock) (db : LotDb) (productId : String)
    (storeLocationId : StoreId) (options : LoadSelectableLotsOptions) : List SelectableLot :=
  let atStore := db.balances.entries.filter fun e => e.1.1 = storeLocationId
  let rows := (atStore.filterMap (joinBalance db)).filter (storeRowAdmitted clock productId options)
  let sorted := rows.insertionSort fun a b =>
    fefoRowLe env.textLe (a.batch, a.productLot.lotNumber) (b.batch, b.productLot.lotNumber) = true
  sorted.map fun row =>
    { mapMasterRow row.batchId row.batch with
      remainingQuantity := max row.balance.available 0
      storeLocationId := some storeLocationId
      productLotId := some row.productLotId }

/-! ## Receiving -/

def fetchProductLotPolicy (db : LotDb) (productId : String) :
    Except LotError ProductLotPolicy := do
  let product ← orThrow (db.products.find? fun p => p.id = productId)
    (.validation ("Product " ++ productId ++ " not found"))
  pure ⟨product.trackExpiry⟩

/-- Put a received quantity on the balance of the target store.  Nothing happens
for a quantity that is not positive. -/
def allocateReceivedLotToStore (env : LotEnv) (db : LotDb) (input : LotReceiveInput)
    (inventoryBatchId : BatchId) : Except LotError LotDb :=
  if input.quantity ≤ 0 then .ok db
  else do
    let target ← resolveMultistoreReceiptStoreId env db input.targetStoreLocationId
    let productLotId ← orThrow (getProductLotIdByBatchId target.1 inventoryBatchId)
      (.validation ("Product lot projection missing for batch " ++ toString inventoryBatchId ++
        " after receipt"))
    incrementBalanceAtStore target.1 ⟨target.2, input.productId, productLotId, input.quantity⟩

/-- The projection and the balance of a received lot. -/
def projectReceivedLot (env : LotEnv) (db : LotDb) (input : LotReceiveInput) (lotId : BatchId) :
    Except LotError LotDb :=
  if env.multistore then do
    let db ← upsertProjection db
      { inventoryBatchId := lotId
        productId := input.productId
        lotNumber := input.lotNumber
        expiryDate := input.attributes.expiryDate
        costPrice := input.costPrice
        goodsReceiptId := input.goodsReceiptId
        isBonus := input.isBonus
        status := .ACTIVE }
    allocateReceivedLotToStore env db input lotId
  else .ok db

/-- The master a receipt writes. -/
def LotReceiveInput.master (input : LotReceiveInput) : LotMasterWrite where
  productId := input.productId
  lotNumber := input.lotNumber
  attributes := input.attributes
  quantity := input.quantity
  remainingQuantity := input.quantity
  costPrice := input.costPrice
  status := .ACTIVE
  sourceType := input.sourceType
  goodsReceiptId := input.goodsReceiptId
  goodsReceiptItemId := input.goodsReceiptItemId
  purchaseOrderId := input.purchaseOrderId
  purchaseOrderItemId := input.purchaseOrderItemId
  isBonus := input.isBonus
  parentLotId := none

def receiveLot (env : LotEnv) (clock : Clock) (db : LotDb) (input : LotReceiveInput) :
    Except LotError (LotDb × InventoryLot) := do
  let policy ← fetchProductLotPolicy db input.productId
  let validation := validateReceiptLot policy input.quantity input.attributes clock.businessDate
  let _ ← require (validation.valid = true)
    (.validation (validation.error.getD "Invalid lot receipt"))
  let received ← upsertMaster env clock db input.master
  let projected ← projectReceivedLot env received.1 input received.2.id
  pure (projected, received.2)

structure LotOpeningReceiveResult where
  lot : Option InventoryLot
  skipped : Bool

def receiveOpeningLot (env : LotEnv) (clock : Clock) (db : LotDb)
    (input : LotOpeningReceiveInput) : Except LotError (LotDb × LotOpeningReceiveResult) := do
  let policy ← fetchProductLotPolicy db input.productId
  let validation := validateReceiptLot policy input.quantity input.attributes clock.businessDate
  let _ ← require (validation.valid = true)
    (.validation (validation.error.getD "Invalid opening lot receipt"))
  let received ← upsertOpeningBalanceMaster env clock db
    { input.toLotReceiveInput.master with
      sourceType := .OPENING_BALANCE
      purchaseOrderId := none
      purchaseOrderItemId := none } input.duplicateStrategy
  match received.2 with
  | none => pure (received.1, ⟨none, true⟩)
  | some lot =>
    let projected ← projectReceivedLot env received.1 input.toLotReceiveInput lot.id
    pure (projected, ⟨some lot, false⟩)

/-! ## Drawing a quantity from several stores -/

/-- Walk over what the stores have, taking as much as is still missing.  The walk
stops once no more than `eps` is missing and passes over stores that could give no
more than `eps`.  Returns the takes and what is left over. -/
def greedyTakes (eps : ℚ) : List (StoreId × ℚ) → ℚ → List (StoreId × ℚ) × ℚ
  | [], left => ([], left)
  | (store, available) :: rest, left =>
    if left ≤ eps then ([], left)
    else
      let take := min left available
      if take ≤ eps then greedyTakes eps rest left
      else
        let tail := greedyTakes eps rest (left - take)
        ((store, take) :: tail.1, tail.2)

/-- The balances of a product lot with stock, largest first. -/
def stockedBalances (db : LotDb) (productLotId : ProductLotId) : List (StoreId × ℚ) :=
  let rows := db.balances.entries.filter fun e =>
    decide (e.1.2 = productLotId) && decide (0 < e.2.quantityOnHand)
  let sorted := rows.insertionSort fun a b => b.2.quantityOnHand ≤ a.2.quantityOnHand
  sorted.map fun e => (e.1.1, e.2.quantityOnHand.toRat)

def deductBalancesAcrossStores (db : LotDb) (productId : String) (inventoryBatchId : BatchId)
    (quantity : ℚ) : Except LotError LotDb := do
  let productLot ← orThrow (db.productLots.entries.find? fun e =>
      e.2.inventoryBatchId = inventoryBatchId ∧ e.2.productId = productId)
    (.validation "Multistore deduction requires a warehouse lot linked to this batch.")
  let rows := stockedBalances db productLot.1
  let _ ← require (rows ≠ []) (.validation "No warehouse stock balance found for the batch lot.")
  let takes := greedyTakes 0 rows quantity
  let db ← takes.1.foldlM (fun db take =>
    adjustSellableQuantityOut db ⟨take.1, productId, productLot.1, take.2⟩) db
  let _ ← require (takes.2 ≤ 1 / 10000)
    (.validation ("Insufficient warehouse stock for deduction. Short by " ++ decimalText takes.2 ++
      " base unit(s)."))
  pure db

/-! ## Consuming -/

/-- The caller asks for the master alone to be decremented. -/
def LotConsumeInput.skipsBalances (input : LotConsumeInput) : Bool :=
  input.skipStoreBalanceDeduction = some true

/-- Deduct from the named store. -/
def LotConsumeInput.useStore (env : LotEnv) (input : LotConsumeInput) : Bool :=
  env.multistore && !input.skipsBalances && input.storeLocationId.isSome

/-- Deduct the named lot from all stores. -/
def LotConsumeInput.crossStoreDeduct (env : LotEnv) (input : LotConsumeInput) : Bool :=
  env.multistore && !input.skipsBalances && input.specificLotId.isSome &&
    input.storeLocationId.isNone && decide (input.deductAcrossAllStoreBalances ≠ some false)

def LotConsumeInput.allowsDisposal (input : LotConsumeInput) : Bool :=
  input.allowDisposalStatuses = some true

/-- The store types a sale may not draw from. -/
def quarantineStoreTypes : List StoreType := [.DAMAGE, .EXPIRED, .RETURN, .TRANSIT]

/-- The lots `consumeLot` offers to the selection. -/
def consumableLots (env : LotEnv) (clock : Clock) (db : LotDb) (input : LotConsumeInput) :
    List SelectableLot :=
  let options : LoadSelectableLotsOptions :=
    ⟨input.minDaysBeforeExpiry.getD 0, input.specificLotId, input.allowsDisposal⟩
  match input.useStore env, input.storeLocationId with
  | true, some storeLocationId =>
    loadStoreSelectableLots env clock db input.productId storeLocationId options
  | _, _ => loadGlobalSelectableLots env clock db input.productId options

/-- The policy and the selection of a consumption. -/
def consumeSelection (env : LotEnv) (clock : Clock) (db : LotDb) (trackExpiry : Bool)
    (input : LotConsumeInput) : SelectionPolicy × LotSelectionResult :=
  let policy := input.selectionPolicy.getD
    (if input.specificLotId.isSome then .MANUAL else resolveDefaultSelectionPolicy trackExpiry)
  (policy, selectLots env.localeLe
    { policy := policy
      lots := consumableLots env clock db input
      quantity := input.quantity
      businessDate := clock.businessDate
      minDaysBeforeExpirySale := input.minDaysBeforeExpiry.getD 0
      specificLotId := input.specificLotId })

/-- The projection row of the lot a layer was taken from; of several rows for one
lot the last one counts. -/
def sourceProductLot (lots : List SelectableLot) (lotId : BatchId) : Option ProductLotId :=
  (lots.reverse.find? fun lot => lot.lotId = lotId).bind (·.productLotId)

/-- One pass of the loop over the selected layers. -/
def consumeLayer (env : LotEnv) (input : LotConsumeInput) (lots : List SelectableLot) (db : LotDb)
    (layer : LotSelectionLayer) : Except LotError LotDb := do
  let decremented ← decrementMasterRemainingQuantity db layer.lotId layer.quantity
  if input.crossStoreDeduct env && decide (input.specificLotId = some layer.lotId) then
    deductBalancesAcrossStores decremented.1 input.productId layer.lotId layer.quantity
  else
    match input.useStore env, input.storeLocationId, sourceProductLot lots layer.lotId with
    | true, some storeLocationId, some productLotId =>
      adjustSellableQuantityOut decremented.1
        ⟨storeLocationId, input.productId, productLotId, layer.quantity⟩
    | _, _, _ => pure decremented.1

structure LotConsumeLayer where
  lotId : BatchId
  lotNumber : String
  quantity : ℚ
  costPrice : ℚ
  productLotId : Option ProductLotId

structure LotConsumeResult where
  layers : List LotConsumeLayer
  totalCost : ℚ
  selectionPolicy : SelectionPolicy
  shortfall : ℚ

def consumeLot (env : LotEnv) (clock : Clock) (db : LotDb) (input : LotConsumeInput) :
    Except LotError (LotDb × LotConsumeResult) := do
  let _ ← require (0 < input.quantity) (.validation "Consume quantity must be positive")
  let productPolicy ← fetchProductLotPolicy db input.productId
  let storeType := (input.storeLocationId.bind db.stores.get?).map (·.storeType)
  let quarantined := storeType.filter fun t => quarantineStoreTypes.contains t
  let _ ← require (input.useStore env = false ∨ input.allowsDisposal = true ∨ quarantined = none)
    (.validation ("Cannot allocate/sell stock from " ++ (quarantined.map StoreType.text).getD "" ++
      " quarantine store (LQ-INV-5 / INV-005). Dispose via write-off instead."))
  let _ ← require (input.allowsDisposal = false ∨ input.specificLotId.isSome = true)
    (.validation "Disposal consume requires specificLotId")
  let lots := consumableLots env clock db input
  let (policy, selection) := consumeSelection env clock db productPolicy.trackExpiry input
  let _ ← require (selection.shortfall ≤ 1 / 1000 ∧
      input.quantity ≤ selection.totalAllocated + 1 / 1000)
    (.failure ("Insufficient stock for product " ++ (input.productName.filter fun n => n ≠ "").getD input.productId ++
      ": requested " ++ fixedText 4 input.quantity ++ ", short " ++
      fixedText 4 selection.shortfall))
  let db ← selection.layers.foldlM (consumeLayer env input lots) db
  pure (db,
    { layers := selection.layers.map fun layer =>
        ⟨layer.lotId, layer.lotNumber, layer.quantity, layer.costPrice,
          sourceProductLot lots layer.lotId⟩
      totalCost := selection.totalCost
      selectionPolicy := policy
      shortfall := selection.shortfall })

/-! ## Returning -/

/-- `ORDER BY received_date DESC NULLS LAST, created_at DESC`. -/
def newestFirstLe (a b : BatchId × BatchRow) : Bool :=
  match a.2.receivedDate, b.2.receivedDate with
  | some ra, some rb => if ra ≠ rb then rb < ra else b.2.createdAt ≤ a.2.createdAt
  | some _, none => true
  | none, some _ => false
  | none, none => b.2.createdAt ≤ a.2.createdAt

/-- The newest batch of a product among those that satisfy `p`. -/
def newestBatch (db : LotDb) (productId : String) (p : BatchRow → Bool) : Option BatchId :=
  let rows := db.batches.entries.filter fun e => decide (e.2.productId = productId) && p e.2
  ((rows.insertionSort fun a b => newestFirstLe a b = true).head?).map Prod.fst

/-- The lot number a return creates when the product has no batch. -/
def LotReturnInput.newLotNumber (input : LotReturnInput) : String :=
  (trimmedText input.lotNumber).getD ("RET-" ++ jsPrefix 8 input.referenceId)

/-- The master a return without a batch id goes to: the newest active batch, else
the newest of any status, else the one with the return's lot number. -/
def defaultReturnBatch (db : LotDb) (input : LotReturnInput) : Option BatchId :=
  (newestBatch db input.productId fun row => row.status = .ACTIVE).or
    ((newestBatch db input.productId fun _ => true).or
      ((findBatch db input.productId input.newLotNumber).map Prod.fst))

/-- Increase or create the master of a customer return. -/
def resolveReturnMasterLot (env : LotEnv) (clock : Clock) (db : LotDb) (input : LotReturnInput) :
    Except LotError (LotDb × InventoryLot) :=
  match input.batchId with
  | some batchId => do
    let existing ← orThrow
      ((getLotById db batchId).filter fun lot => lot.productId = input.productId)
      (.validation "Return batch not found for this product")
    let receivable := assertLotCanReceiveStock existing.status
    let _ ← require (receivable = none)
      (.validation ((receivable.map LotInvariantViolation.message).getD ""))
    increaseMasterRemainingQuantity db batchId input.quantity
  | none =>
    match defaultReturnBatch db input with
    | some batchId => increaseMasterRemainingQuantity db batchId input.quantity
    | none =>
      createReturnMaster env clock db
        { productId := input.productId
          lotNumber := input.newLotNumber
          quantity := input.quantity
          costPrice := input.costPrice
          expiryDate := input.expiryDate
          notes := input.notes }

def syncMultistoreProjectionAndBalance (db : LotDb) (lot : InventoryLot) (input : LotReturnInput)
    (storeLocationId : StoreId) : Except LotError LotDb := do
  let projected ← upsertProjection db
    { inventoryBatchId := lot.id
      productId := lot.productId
      lotNumber := lot.lotNumber
      expiryDate := lot.attributes.expiryDate
      costPrice := lot.costPrice
      goodsReceiptId := none
      isBonus := false
      status := lot.status }
  let productLotId ← orThrow (getProductLotIdByBatchId projected lot.id)
    (.validation ("Product lot projection missing for batch " ++ toString lot.id))
  incrementBalanceAtStore projected ⟨storeLocationId, lot.productId, productLotId, input.quantity⟩

def returnLot (env : LotEnv) (clock : Clock) (db : LotDb) (input : LotReturnInput) :
    Except LotError (LotDb × InventoryLot) := do
  let returned ← resolveReturnMasterLot env clock db input
  if env.multistore then
    let store := match input.targetStoreLocationId with
      | some target => (returned.1, target)
      | none => ensureReturnStore env returned.1
    let synced ← syncMultistoreProjectionAndBalance store.1 returned.2 input store.2
    pure (synced, returned.2)
  else pure returned

/-! ## Splitting -/

/-- The first free `<base>-S<n>` from `n` on, trying `fuel` numbers. -/
def freeSplitLotNumber (db : LotDb) (productId base : String) : ℕ → ℕ → Option String
  | 0, _ => none
  | fuel + 1, n =>
    let candidate := base ++ "-S" ++ toString n
    if (findBatch db productId candidate).isNone then some candidate
    else freeSplitLotNumber db productId base fuel (n + 1)

def allocateUniqueSplitLotNumber (db : LotDb) (productId parentLotNumber : String)
    (preferred : Option String) : Except LotError String :=
  match trimmedText preferred with
  | some number => do
    let _ ← require ((findBatch db productId number).isNone = true)
      (.validation ("Child lot number " ++ number ++ " already exists for this product"))
    pure (jsPrefix 100 number)
  | none =>
    orThrow (freeSplitLotNumber db productId (jsPrefix 90 parentLotNumber) 9999 1)
      (.validation "Unable to allocate unique split lot number")

/-- What each store could give of a product lot, in the order of the query: the
alias it sorts by is the text of the number, largest text first. -/
def availableBalances (env : LotEnv) (db : LotDb) (productLotId : ProductLotId) :
    List (StoreId × ℚ) :=
  let rows := db.balances.entries.filter fun e =>
    decide (e.1.2 = productLotId) && decide (0 < max e.2.available 0)
  let sorted := rows.insertionSort fun a b =>
    env.textLe (fixedText 4 (max b.2.available 0)) (fixedText 4 (max a.2.available 0)) = true
  sorted.map fun e => (e.1.1, max e.2.available 0)

structure SplitTransfer where
  productId : String
  parentProductLotId : ProductLotId
  childProductLotId : ProductLotId
  quantity : ℚ

/-- Move one take from the parent's balance to the child's at the same store. -/
def moveSplitTake (params : SplitTransfer) (db : LotDb) (take : StoreId × ℚ) :
    Except LotError LotDb := do
  let taken ← adjustSellableQuantityOut db
    ⟨take.1, params.productId, params.parentProductLotId, take.2⟩
  incrementBalanceAtStore taken ⟨take.1, params.productId, params.childProductLotId, take.2⟩

/-- Move warehouse balances from the parent's projection to the child's. -/
def transferBalancesForSplit (env : LotEnv) (db : LotDb) (params : SplitTransfer) :
    Except LotError LotDb := do
  let rows := availableBalances env db params.parentProductLotId
  if rows = [] then pure db
  else
    let takes := greedyTakes (1 / 10000) rows params.quantity
    let db ← takes.1.foldlM (moveSplitTake params) db
    let _ ← require (takes.2 ≤ 1 / 10000)
      (.validation ("Cannot split " ++ decimalText params.quantity ++ ": only " ++
        decimalText (params.quantity - takes.2) ++
        " available in warehouse balances (reserved/committed may block)."))
    pure db

structure LotSplitResult where
  parent : InventoryLot
  child : InventoryLot
  quantitySplit : ℚ

/-- The master a split inserts for the child. -/
def splitChildMaster (parent : InventoryLot) (childLotNumber : String) (qty : ℚ) :
    LotMasterWrite where
  productId := parent.productId
  lotNumber := childLotNumber
  attributes := parent.attributes
  quantity := qty
  remainingQuantity := qty
  costPrice := parent.costPrice
  status := .ACTIVE
  sourceType := .SPLIT
  goodsReceiptId := parent.genealogy.goodsReceiptId
  goodsReceiptItemId := parent.genealogy.goodsReceiptItemId
  purchaseOrderId := none
  purchaseOrderItemId := none
  isBonus := parent.isBonus
  parentLotId := some parent.id

/-- The projection a split writes for the child. -/
def splitChildProjection (child : InventoryLot) : LotProjectionWrite where
  inventoryBatchId := child.id
  productId := child.productId
  lotNumber := child.lotNumber
  expiryDate := child.attributes.expiryDate
  costPrice := child.costPrice
  goodsReceiptId := child.genealogy.goodsReceiptId
  isBonus := child.isBonus
  status := .ACTIVE

/-- The balances follow the split when both lots have a projection. -/
def splitBalances (env : LotEnv) (db : LotDb) (parent child : InventoryLot) (qty : ℚ) :
    Except LotError LotDb :=
  match getProductLotIdByBatchId db parent.id, getProductLotIdByBatchId db child.id with
  | some parentProductLotId, some childProductLotId =>
    transferBalancesForSplit env db ⟨parent.productId, parentProductLotId, childProductLotId, qty⟩
  | _, _ => .ok db

def splitLot (env : LotEnv) (clock : Clock) (db : LotDb) (input : LotSplitInput) :
    Except LotError (LotDb × LotSplitResult) := do
  let qty := input.quantity
  let _ ← require (1 / 10000 < qty) (.validation "Split quantity must be greater than zero")
  let parentBefore ← orThrow (getLotById db input.lotId) (.validation "Lot not found")
  let _ ← require (parentBefore.status = .ACTIVE ∨ parentBefore.status = .BLOCKED)
    (.validation ("Cannot split lot in status " ++ parentBefore.status.text ++
      " — only ACTIVE/BLOCKED sellable lots can be split"))
  let _ ← require (qty - parentBefore.remainingQuantity ≤ 1 / 10000)
    (.validation ("Cannot split " ++ decimalText qty ++ ": only " ++
      decimalText parentBefore.remainingQuantity ++ " remaining on lot " ++ parentBefore.lotNumber))
  let _ ← require (1 / 10000 < |qty - parentBefore.remainingQuantity|) (.validation
    "Split quantity must be less than lot remaining; use full-lot quarantine for the entire batch")
  let childLotNumber ← allocateUniqueSplitLotNumber db parentBefore.productId
    parentBefore.lotNumber input.childLotNumber
  let parentAfter ← decrementMasterRemainingQuantity db input.lotId qty
  let child ← upsertMaster env clock parentAfter.1 (splitChildMaster parentBefore childLotNumber qty)
  let projected ← upsertProjection child.1 (splitChildProjection child.2)
  let moved ← splitBalances env projected parentBefore child.2 qty
  let totalAfter := parentAfter.2.remainingQuantity + child.2.remainingQuantity
  let _ ← require (|totalAfter - parentBefore.remainingQuantity| ≤ 1 / 10000)
    (.validation "Lot split invariant failed: parent+child remaining must equal original remaining")
  pure (moved, ⟨parentAfter.2, child.2, qty⟩)

end SmartErpPos.Lot
