/-
  Transfers/Service.lean --- requesting, approving, dispatching and receiving transfers.

  Sources: `modules/inventory/warehouse/storeTransferService.ts`,
  `transferWorkflowService.ts` and `shared/types/transferWorkflow.ts`.

  A call runs in one database transaction; completing a request runs three, and counts as a
  call when all three succeed.  Checks that other services make on the way only refuse a
  call; what they refuse is part of the surroundings.
-/
import SmartErpPos.Lib.JsText
import SmartErpPos.Transfers.Repository

set_option autoImplicit false

namespace SmartErpPos.Transfers

open SmartErpPos.Lib

/-! ## Surroundings -/

structure TransferPolicy where
  requireApprovalAll : Bool
  allowDirect : Bool
  valueThreshold : Option ℚ
  qtyThreshold : Option ℚ
  specialStoresRequireApproval : Bool

/-- The setting, the actor, the policy and the checks of other services: the assortment of a
store, the status of a lot after a quarantine, and the warehouse layer of some products. -/
structure TransferEnv where
  multistoreEnabled : Bool
  permissions : List String
  policy : TransferPolicy
  averageCost : ProductId → ℚ
  transferNumber : String
  assortmentError : WarehouseDb → StoreId → List ProductId → Option String
  lotStatusError : WarehouseDb → LotId → Option String
  layerError : WarehouseDb → List ProductId → Option String

/-- The check of another service refuses. -/
def refuse (error : Option String) : Except TransferError Unit :=
  match error with
  | none => pure ()
  | some message => .error (.service message)

/-- `assertMultistore`. -/
def assertMultistore (env : TransferEnv) : Except TransferError Unit :=
  require (env.multistoreEnabled = true)
    (.validation "Store transfers require is_multistore_enabled = true on system_settings.")

/-! ## The mode of a transfer -/

namespace TransferPermission

def REQUEST : String := "inventory.transfer.request"
def APPROVE : String := "inventory.transfer.approve"
def DISPATCH : String := "inventory.transfer.dispatch"
def RECEIVE : String := "inventory.transfer.receive"
def DIRECT : String := "inventory.transfer.direct"
def OVERRIDE : String := "inventory.transfer.override"
def LEGACY_APPROVE : String := "inventory.approve"

end TransferPermission

/-- `hasPermission`: the legacy permission stands for all. -/
def hasPermission (permissions : List String) (key : String) : Bool :=
  permissions.contains key || permissions.contains TransferPermission.LEGACY_APPROVE

/-- `SPECIAL_STORE_TYPES_REQUIRING_APPROVAL`. -/
def isSpecialStore (storeType : StoreType) : Bool :=
  decide (storeType ∈ [StoreType.DAMAGE, .EXPIRED, .RETURN])

structure TransferTotals where
  totalQty : ℚ
  totalInventoryValue : ℚ

/-- `estimateTransferTotals`. -/
def estimateTransferTotals (env : TransferEnv) (lines : List ResolvedLine) : TransferTotals :=
  ⟨(lines.map (·.quantity)).sum, (lines.map fun l => env.averageCost l.productId * l.quantity).sum⟩

/-- `policyRequiresApproval`. -/
def policyRequiresApproval (env : TransferEnv) (source destination : StoreLocation)
    (totals : TransferTotals) : Bool :=
  env.policy.requireApprovalAll ||
    (env.policy.specialStoresRequireApproval &&
      (isSpecialStore source.storeType || isSpecialStore destination.storeType)) ||
    (env.policy.valueThreshold.any fun threshold => threshold < totals.totalInventoryValue) ||
    (env.policy.qtyThreshold.any fun threshold => threshold < totals.totalQty)

/-- `resolveCreateWorkflowMode`. -/
def resolveCreateWorkflowMode (env : TransferEnv) (source destination : StoreLocation)
    (totals : TransferTotals) (overrideReason : Option String) :
    Except TransferError TransferWorkflowMode :=
  if (trimmedText overrideReason).isSome &&
      hasPermission env.permissions TransferPermission.OVERRIDE then pure .EMERGENCY_OVERRIDE
  else if hasPermission env.permissions TransferPermission.DIRECT && env.policy.allowDirect &&
      !policyRequiresApproval env source destination totals then pure .DIRECT
  else if hasPermission env.permissions TransferPermission.REQUEST ||
      hasPermission env.permissions TransferPermission.APPROVE then pure .REQUEST
  else .error (.validation "Insufficient permissions to create a store transfer")

/-- `permissionForWorkflowMode`. -/
def permissionForWorkflowMode : TransferWorkflowMode → String
  | .EMERGENCY_OVERRIDE => TransferPermission.OVERRIDE
  | .DIRECT => TransferPermission.DIRECT
  | .REQUEST => TransferPermission.REQUEST

/-! ## Creating -/

structure CreateStoreTransferLineDto where
  productLotId : LotId
  quantity : ℚ

structure CreateStoreTransferDto where
  destinationStoreId : Option StoreId
  notes : Option String
  lines : List CreateStoreTransferLineDto
  overrideReason : Option String
  overrideComments : Option String

/-- The product of a line comes from its lot. -/
def resolveLine (db : WarehouseDb) (line : CreateStoreTransferLineDto) :
    Except TransferError ResolvedLine := do
  let lot ← orThrow (db.lots.get? line.productLotId)
    (.validation ("Product lot " ++ toString line.productLotId ++ " not found"))
  pure ⟨lot.productId, line.productLotId, line.quantity⟩

/-- A line of a direct transfer leaves the source. -/
def dispatchInserted (transfer : StoreTransfer) (db : WarehouseDb)
    (entry : LineId × StoreTransferLine) : Except TransferError WarehouseDb := do
  let line := entry.2
  let moved ← moveLotQuantityBetweenStores db
    { fromStoreId := transfer.sourceStoreId
      toStoreId := transfer.transitStoreId
      productId := line.productId
      productLotId := line.productLotId
      quantity := line.quantity.toRat
      trackTransferMetrics := true }
  markLineDispatched moved entry.1 line.quantity.toRat

/-- A line of a direct transfer reaches its destination. -/
def receiveInserted (transfer : StoreTransfer) (db : WarehouseDb)
    (entry : LineId × StoreTransferLine) : Except TransferError WarehouseDb :=
  let line := entry.2
  let qtyToReceive := line.quantityDispatched - line.quantityReceived
  if qtyToReceive ≤ 0 then pure db
  else do
    let moved ← moveLotQuantityBetweenStores db
      { fromStoreId := transfer.transitStoreId
        toStoreId := transfer.destinationStoreId
        productId := line.productId
        productLotId := line.productLotId
        quantity := qtyToReceive.toRat
        trackTransferMetrics := true }
    markLineReceived moved entry.1 qtyToReceive.toRat none 0

/-- `executeImmediateTransfer`: the whole way in one transaction. -/
def executeImmediateTransfer (env : TransferEnv) (db : WarehouseDb) (transfer : StoreTransfer)
    (lines : List ResolvedLine) : Except TransferError WarehouseDb := do
  lines.forM fun line => require
    (line.quantity ≤
      (getSellableQuantityAtStore db transfer.sourceStoreId line.productLotId).toRat)
    (.validation ("Insufficient stock at MAIN for lot " ++ toString line.productLotId ++
      ". Available " ++ decimalText
        (getSellableQuantityAtStore db transfer.sourceStoreId line.productLotId).toRat ++
      ", requested " ++ decimalText line.quantity ++ "."))
  let (id, inserted) ← insertTransfer db { transfer with status := .APPROVED }
  let added ← addLines inserted id lines
  let dispatched ← (linesOf added.db id).foldlM (dispatchInserted transfer) added.db
  let inTransit := updateStatus dispatched id .IN_TRANSIT
  let received ← (linesOf inTransit id).foldlM (receiveInserted transfer) inTransit
  let completed := updateStatus received id .RECEIVED
  refuse (env.layerError completed ((linesOf completed id).map fun e => e.2.productId))
  pure completed

/-- `createTransfer`. -/
def createTransfer (env : TransferEnv) (db : WarehouseDb) (dto : CreateStoreTransferDto) :
    Except TransferError WarehouseDb := do
  assertMultistore env
  let _ ← require (0 < dto.lines.length) (.validation "Transfer must have at least one line")
  let (network, db) := ensureDefaultNetworkStores db
  let destinationStoreId := dto.destinationStoreId.getD network.selling
  let destination ← orThrow ((db.stores.get? destinationStoreId).filter fun store =>
      store.isActive && decide (store.storeType = .SELLING))
    (.validation "Destination must be an active SELLING store")
  let source ← orThrow (db.stores.get? network.main) (.database "store_locations")
  let lines ← dto.lines.mapM (resolveLine db)
  refuse (env.assortmentError db destinationStoreId (lines.map (·.productId)))
  let totals := estimateTransferTotals env lines
  let mode ← resolveCreateWorkflowMode env source destination totals dto.overrideReason
  let direct := decide (mode ≠ .REQUEST)
  let transfer : StoreTransfer :=
    { transferNumber := env.transferNumber
      status := .DRAFT
      workflowMode := mode
      sourceStoreId := network.main
      transitStoreId := network.transit
      destinationStoreId := destinationStoreId
      notes := dto.notes
      overrideReason := if direct then dto.overrideReason else none
      overrideComments := if direct then dto.overrideComments else none
      totalInventoryValue := Numeric.ofRat totals.totalInventoryValue
      permissionUsed := permissionForWorkflowMode mode }
  if direct then executeImmediateTransfer env db transfer lines
  else do
    let (id, inserted) ← insertTransfer db transfer
    let added ← addLines inserted id lines
    pure added.db

/-! ## Stages -/

structure TransferStageLineDto where
  lineId : LineId
  quantity : ℚ
  comment : Option String

/-- What a caller says about a line; the last entry counts. -/
def stageInput (lines : List TransferStageLineDto) (lineId : LineId) :
    Option TransferStageLineDto :=
  lines.reverse.find? fun l => l.lineId = lineId

/-- A transfer in one of some statuses. -/
def requireTransfer (db : WarehouseDb) (transferId : TransferId)
    (allowed : List StoreTransferStatus) (verb : String) : Except TransferError StoreTransfer := do
  let transfer ← orThrow (db.transfers.get? transferId) (.validation "Transfer not found")
  let _ ← require (transfer.status ∈ allowed)
    (.validation ("Cannot " ++ verb ++ " transfer in status " ++ transfer.status.text))
  pure transfer

/-! ## Approving -/

/-- The quantity a line gets approved. -/
def approvalOf (dto : List TransferStageLineDto) (entry : LineId × StoreTransferLine) : ℚ :=
  ((stageInput dto entry.1).map (·.quantity)).getD (effectiveApprovedQty entry.2).toRat

/-- The checks of an approved quantity against the request. -/
def checkApproval (entry : LineId × StoreTransferLine) (qtyApproved : ℚ) :
    Except TransferError Unit := do
  let _ ← require (0 ≤ qtyApproved) (.validation ("Approved quantity cannot be negative for line " ++
    toString entry.2.lineNumber))
  require (qtyApproved ≤ entry.2.quantity.toRat + qtyTolerance)
    (.validation ("Approved quantity " ++ decimalText qtyApproved ++ " exceeds requested " ++
      decimalText entry.2.quantity.toRat ++ " on line " ++ toString entry.2.lineNumber))

/-- One line of `saveApprovalDraft`. -/
def draftLine (dto : List TransferStageLineDto) (db : WarehouseDb)
    (entry : LineId × StoreTransferLine) : Except TransferError WarehouseDb := do
  let qtyApproved := approvalOf dto entry
  checkApproval entry qtyApproved
  setLineApproval db entry.1 qtyApproved ((stageInput dto entry.1).bind (·.comment))

/-- `saveApprovalDraft`. -/
def saveApprovalDraft (env : TransferEnv) (db : WarehouseDb) (transferId : TransferId)
    (dto : List TransferStageLineDto) : Except TransferError WarehouseDb := do
  assertMultistore env
  let transfer ← orThrow (db.transfers.get? transferId) (.validation "Transfer not found")
  let _ ← require (transfer.status = .DRAFT)
    (.validation ("Cannot save approval draft in status " ++ transfer.status.text))
  let _ ← require (transfer.workflowMode = .REQUEST)
    (.validation "Approval drafts apply only to stock requests")
  (linesOf db transferId).foldlM (draftLine dto) db

/-- One line of `approveTransfer`. -/
def approveLine (dto : List TransferStageLineDto) (transfer : StoreTransfer) (db : WarehouseDb)
    (entry : LineId × StoreTransferLine) : Except TransferError WarehouseDb := do
  let qtyApproved := approvalOf dto entry
  checkApproval entry qtyApproved
  let available := getSellableQuantityAtStore db transfer.sourceStoreId entry.2.productLotId
  let _ ← require (0 < qtyApproved → qtyApproved ≤ available.toRat)
    (.validation ("Insufficient stock at MAIN for line " ++ toString entry.2.lineNumber ++
      ". Available " ++ decimalText available.toRat ++ ", approved " ++ decimalText qtyApproved ++
      "."))
  setLineApproval db entry.1 qtyApproved ((stageInput dto entry.1).bind (·.comment))

/-- `approveTransfer`. -/
def approveTransfer (env : TransferEnv) (db : WarehouseDb) (transferId : TransferId)
    (dto : List TransferStageLineDto) : Except TransferError WarehouseDb := do
  assertMultistore env
  let transfer ← requireTransfer db transferId [.DRAFT] "approve"
  let approved ← (linesOf db transferId).foldlM (approveLine dto transfer) db
  let nextStatus := deriveStatusAfterApproval ((linesOf approved transferId).map (·.2))
  pure (updateStatus approved transferId nextStatus)

/-! ## Dispatching -/

/-- The quantity a dispatch takes of a line. -/
def qtyToMove (dto : List TransferStageLineDto) (entry : LineId × StoreTransferLine) : ℚ :=
  ((stageInput dto entry.1).map (·.quantity)).getD (remainingToDispatch entry.2).toRat

/-- One line of `dispatchTransfer`. -/
def dispatchLine (dto : List TransferStageLineDto) (transfer : StoreTransfer) (db : WarehouseDb)
    (entry : LineId × StoreTransferLine) : Except TransferError WarehouseDb :=
  let line := entry.2
  let remaining := remainingToDispatch line
  let quantity := qtyToMove dto entry
  if remaining ≤ 0 ∨ quantity ≤ 0 then pure db
  else do
    let _ ← require (quantity ≤ remaining.toRat + qtyTolerance)
      (.validation ("Dispatch quantity " ++ decimalText quantity ++ " exceeds remaining " ++
        decimalText remaining.toRat ++ " on line " ++ toString line.lineNumber))
    let available := getSellableQuantityAtStore db transfer.sourceStoreId line.productLotId
    let _ ← require (quantity ≤ available.toRat)
      (.validation ("Insufficient stock at MAIN for line " ++ toString line.lineNumber ++
        ". Available " ++ decimalText available.toRat ++ ", dispatch " ++ decimalText quantity ++
        "."))
    let moved ← moveLotQuantityBetweenStores db
      { fromStoreId := transfer.sourceStoreId
        toStoreId := transfer.transitStoreId
        productId := line.productId
        productLotId := line.productLotId
        quantity := quantity
        trackTransferMetrics := true }
    let marked ← markLineDispatched moved entry.1 quantity
    pure (setLineDispatchComment marked entry.1 ((stageInput dto entry.1).bind (·.comment)))

/-- `dispatchTransfer`. -/
def dispatchTransfer (env : TransferEnv) (db : WarehouseDb) (transferId : TransferId)
    (dto : List TransferStageLineDto) : Except TransferError WarehouseDb := do
  assertMultistore env
  let transfer ← requireTransfer db transferId
    [.APPROVED, .PARTIALLY_APPROVED, .PARTIALLY_DISPATCHED] "dispatch"
  let dispatched ← (linesOf db transferId).foldlM (dispatchLine dto transfer) db
  let nextStatus := deriveStatusAfterDispatch ((linesOf dispatched transferId).map (·.2))
  pure (updateStatus dispatched transferId nextStatus)

/-! ## Receiving -/

/-- The quantity a receipt takes of a line. -/
def qtyToReceive (dto : List TransferStageLineDto) (entry : LineId × StoreTransferLine) : ℚ :=
  ((stageInput dto entry.1).map (·.quantity)).getD (remainingToReceive entry.2).toRat

/-- The shortage goes from transit to the quarantine store, when there is one. -/
def quarantineShortage (env : TransferEnv) (transfer : StoreTransfer) (db : WarehouseDb)
    (line : StoreTransferLine) (shortageDelta : ℚ) : Except TransferError WarehouseDb :=
  if shortageDelta ≤ qtyTolerance then pure db
  else do
    let (damageStoreId, db) := ensureDamageStore db
    let moved ← moveLotQuantityBetweenStores db
      { fromStoreId := transfer.transitStoreId
        toStoreId := damageStoreId
        productId := line.productId
        productLotId := line.productLotId
        quantity := shortageDelta
        trackTransferMetrics := false }
    if ((moved.lots.get? line.productLotId).bind (·.inventoryBatchId)).isSome then
      refuse (env.lotStatusError moved line.productLotId)
    pure moved

/-- One line of `receiveTransfer`. -/
def receiveLine (env : TransferEnv) (dto : List TransferStageLineDto) (transfer : StoreTransfer)
    (db : WarehouseDb) (entry : LineId × StoreTransferLine) : Except TransferError WarehouseDb :=
  let line := entry.2
  let inTransit := remainingToReceive line
  let quantity := qtyToReceive dto entry
  if inTransit ≤ 0 ∨ quantity ≤ 0 then pure db
  else do
    let _ ← require (quantity ≤ inTransit.toRat + qtyTolerance)
      (.validation ("Receive quantity " ++ decimalText quantity ++ " exceeds in-transit " ++
        decimalText inTransit.toRat ++ " on line " ++ toString line.lineNumber))
    let shortageDelta := inTransit.toRat - quantity
    let moved ← moveLotQuantityBetweenStores db
      { fromStoreId := transfer.transitStoreId
        toStoreId := transfer.destinationStoreId
        productId := line.productId
        productLotId := line.productLotId
        quantity := quantity
        trackTransferMetrics := true }
    let quarantined ← quarantineShortage env transfer moved line shortageDelta
    markLineReceived quarantined entry.1 quantity ((stageInput dto entry.1).bind (·.comment))
      shortageDelta

/-- `receiveTransfer`. -/
def receiveTransfer (env : TransferEnv) (db : WarehouseDb) (transferId : TransferId)
    (dto : List TransferStageLineDto) : Except TransferError WarehouseDb := do
  assertMultistore env
  let transfer ← requireTransfer db transferId
    [.IN_TRANSIT, .DISPATCHED, .PARTIALLY_DISPATCHED, .PARTIALLY_RECEIVED] "receive"
  let received ← (linesOf db transferId).foldlM (receiveLine env dto transfer) db
  let nextStatus := deriveStatusAfterReceive ((linesOf received transferId).map (·.2))
  let updated := updateStatus received transferId nextStatus
  refuse (env.layerError updated ((linesOf updated transferId).map fun e => e.2.productId))
  pure updated

/-! ## Completing and cancelling -/

/-- The stage lines of everything that is left, by one of the two measures. -/
def everythingLeft (db : WarehouseDb) (transferId : TransferId)
    (remaining : StoreTransferLine → Quantity) : List TransferStageLineDto :=
  ((linesOf db transferId).map fun e =>
    (⟨e.1, (remaining e.2).toRat, none⟩ : TransferStageLineDto)).filter fun l =>
      qtyTolerance < l.quantity

/-- `completeRequestTransfer`. -/
def completeRequestTransfer (env : TransferEnv) (db : WarehouseDb) (transferId : TransferId)
    (dto : List TransferStageLineDto) : Except TransferError WarehouseDb := do
  let approved ← approveTransfer env db transferId dto
  let transfer ← orThrow (approved.transfers.get? transferId) (.validation "Transfer not found")
  let _ ← require (transfer.status ≠ .CANCELLED)
    (.validation "Cannot complete a rejected request")
  let _ ← require (transfer.status ∈ [StoreTransferStatus.APPROVED, .PARTIALLY_APPROVED])
    (.validation ("Cannot complete transfer in status " ++ transfer.status.text))
  let dispatchLines := everythingLeft approved transferId remainingToDispatch
  let _ ← require (0 < dispatchLines.length) (.validation "No approved quantity to dispatch")
  let dispatched ← dispatchTransfer env approved transferId dispatchLines
  let receiveLines := everythingLeft dispatched transferId remainingToReceive
  let _ ← require (0 < receiveLines.length) (.validation "No in-transit quantity to receive")
  receiveTransfer env dispatched transferId receiveLines

/-- `cancelTransfer`. -/
def cancelTransfer (env : TransferEnv) (db : WarehouseDb) (transferId : TransferId) :
    Except TransferError WarehouseDb := do
  assertMultistore env
  let transfer ← requireTransfer db transferId [.DRAFT] "cancel"
  let _ ← require (transfer.workflowMode = .REQUEST)
    (.validation "Only request-mode transfers can be cancelled")
  pure (updateStatus db transferId .CANCELLED)

end SmartErpPos.Transfers
