/-
  Pos/EventReplayer.lean --- the server's replay of the till's offline events.

  Source: `SamplePOS.Server/src/modules/pos/posEventReplayer.ts`.

  A handler is given an event, the user who syncs it and the tables, and leaves a result and
  the tables.  Replays run one after the other, so an idempotency key that was free when the
  handler looked is still free when it inserts.  Handlers that change the lines of one check
  or its kitchen tickets (`ORDER_UPDATED`, `RESTAURANT_KOT_FIRED`) are not part of this file.
-/
import SmartErpPos.Pos.CheckService

set_option autoImplicit false

namespace SmartErpPos.Pos

open SmartErpPos.Lib SmartErpPos.Offline

/-! ## Results -/

inductive ReplayResult where
  /-- The fields of `data`. -/
  | SYNCED (data : List (String × Option String))
  | DUPLICATE (data : List (String × Option String))
  | REVIEW (error : String)
  | FAILED (error : String)
  | ACKNOWLEDGED (eventType : String)
  deriving DecidableEq

/-- What a replay leaves. -/
structure Replayed where
  result : ReplayResult
  state : PosState
  deriving DecidableEq

/-! ## Which check is meant -/

/-- `tableId` of an event, unless it is empty. -/
def eventTable (tableId : Option String) : Option String := tableId.filter fun id => id ≠ ""

/-- The check the table points at, as long as it is open. -/
def pendingCurrent (s : PosState) (tableId : String) : Option String :=
  ((s.tables.get? tableId).bind (·.currentOrderId)).filter fun id => s.isPending id

/-- `resolvePendingOrderIdForTable`. -/
def resolvePendingOrderIdForTable (s : PosState) (tableId : String) : Option String :=
  match pendingCurrent s tableId with
  | some id => some id
  | none => (PosState.newestFirst (s.pendingOn tableId)).head?.map (·.1)

/-- `ORDER_UUID_RE`. -/
def isOrderUuid (orderId : String) : Bool :=
  isVersionedUuidText ['1', '2', '3', '4', '5'] orderId

/-- `isPendingOrderOnTable`. -/
def isPendingOrderOnTable (s : PosState) (orderId tableId : String) : Bool :=
  isOrderUuid orderId && (s.pendingOn tableId).any fun row => row.1 = orderId

/-- One line of the event against the lines of a check; `used` lines are taken. -/
def matchSplitLine (items : List (PosState.Row OrderItem)) (event : RestaurantCheckSplit)
    (resolved : List SplitItem) (lineId : String) : List SplitItem :=
  let used := resolved.map (·.1)
  let moveQty := event.quantityByLineId.bind fun quantities => quantities.get? lineId
  match items.find? fun row => decide (row.1 = lineId) && decide (row.1 ∉ used) with
  | some row =>
    let quantity := moveQty.filter fun q => decide (0 < q) && decide (q < row.2.quantity.toRat)
    resolved ++ [(row.1, quantity)]
  | none =>
    let moved := (event.movedLines.find? fun l => l.lineId = some lineId).orElse fun _ =>
      event.movedLines[resolved.length]?
    match moved with
    | none => resolved
    | some moved =>
      let wantQty := moveQty.getD moved.quantity
      let free (row : PosState.Row OrderItem) : Bool :=
        decide (row.1 ∉ used) && decide (row.2.productId = some moved.productId)
      let enough := items.find? fun row =>
        free row && decide (wantQty - splitTolerance ≤ row.2.quantity.toRat)
      match enough.orElse fun _ => items.find? fun row =>
          free row && decide (row.2.quantity.toRat = moved.quantity) with
      | none => resolved
      | some row =>
        let part := decide (0 < wantQty) && decide (wantQty < row.2.quantity.toRat)
        resolved ++ [(row.1, if part then some wantQty else none)]

/-- `resolveSplitItems`. -/
def resolveSplitItems (s : PosState) (sourceOrderId : String) (event : RestaurantCheckSplit) :
    List SplitItem :=
  event.lineIds.foldl (matchSplitLine (s.orderItems sourceOrderId) event) []

/-- The open check on the source table whose lines match all lines of the event. -/
def siblingWithLines (s : PosState) (event : RestaurantCheckSplit) : Option String :=
  if event.lineIds = [] then none
  else
    ((PosState.oldestFirst (s.pendingOn event.sourceTableId)).find? fun row =>
      (resolveSplitItems s row.1 event).length = event.lineIds.length).map (·.1)

/-- `resolveSourceOrderIdForSplit`. -/
def resolveSourceOrderIdForSplit (s : PosState) (event : RestaurantCheckSplit) : Option String :=
  if isPendingOrderOnTable s event.sourceOrderId event.sourceTableId then some event.sourceOrderId
  else
    (siblingWithLines s event).orElse fun _ => resolvePendingOrderIdForTable s event.sourceTableId

/-- The two checks of a merge on one table: the one the table points at, or the oldest, and
the oldest other. -/
def mergeOnTable (s : PosState) (tableId : String) : Option (String × String) :=
  let ids := (PosState.oldestFirst (s.pendingOn tableId)).map (·.1)
  let current := (s.tables.get? tableId).bind (·.currentOrderId)
  let primary := (current.filter fun id => decide (id ∈ ids)).orElse fun _ => ids.head?
  primary.bind fun primaryId =>
    (ids.find? fun id => decide (id ≠ primaryId)).map fun secondaryId => (primaryId, secondaryId)

/-- The two checks a merge works on. -/
def mergeTargets (s : PosState) (primaryTableId secondaryTableId : String) :
    Option (String × String) :=
  if primaryTableId = secondaryTableId then mergeOnTable s primaryTableId
  else
    (resolvePendingOrderIdForTable s primaryTableId).bind fun primaryId =>
      (resolvePendingOrderIdForTable s secondaryTableId).map fun secondaryId =>
        (primaryId, secondaryId)

/-! ## Creating -/

/-- `isSyntheticProductId`, for a present id. -/
def isSyntheticProductId (id : String) : Bool :=
  decide (jsTrim id = "") || jsStartsWith "custom_" id || jsStartsWith "temp_" id ||
    jsStartsWith "default-" id ||
    !isVersionedUuidText ['1', '2', '3', '4', '5', '6', '7', '8'] id

section

variable (env : ServerEnv)

/-- One line of the event as a row of the new check. -/
def insertLine (orderId : String) (s : PosState) (line : EventLine) : Except String PosState := do
  let persisted := !isSyntheticProductId line.productId
  let units ← if persisted then
      (env.resolveSaleItemUom line.productId line.quantity line.uomId).map some
    else pure none
  let item : OrderItem :=
    { orderId := orderId
      productId := if persisted then some line.productId else none
      productName := line.productName
      quantity := Numeric.ofRat line.quantity
      unitPrice := Numeric.ofRat line.unitPrice
      lineTotal := Numeric.ofRat (line.quantity * line.unitPrice)
      discountAmount := 0
      baseQty := units.map (·.1)
      conversionFactor := units.map (·.2)
      lineNotes := (line.lineNotes.bind id).filter fun notes => notes ≠ ""
      addedAt := env.now }
  pure { s with items := s.items.set (env.newId s) item }

/-- The open order with a key, as `findByIdempotencyKey` looks for it. -/
def orderWithKey (s : PosState) (key : String) : Option String :=
  (s.orders.entries.find? fun row => row.2.idempotencyKey = some key).map (·.1)

/-- `ordersService.createOrder`: an order that has the key already is returned as it is. -/
def createOrder (s : PosState) (event : OrderCreated) : Except String (String × PosState) := do
  let _ ← require (event.lines ≠ []) "Order must have at least one item"
  match orderWithKey s event.key with
  | some orderId => pure (orderId, s)
  | none => do
    let orderId := env.newId s
    let order : PosOrder :=
      { orderNumber := env.nextOrderNumber s
        status := .PENDING
        tableId := none
        orderChannel := .RETAIL
        waiterId := none
        customerId := event.customerId.filter fun id => id ≠ ""
        idempotencyKey := some event.key
        notes := event.notes.orElse fun _ => event.tableCode.map fun code => "Restaurant " ++ code
        createdAt := env.now }
    let s' ← event.lines.foldlM (insertLine env orderId)
      { s with orders := s.orders.set orderId order }
    pure (orderId, s')

/-- The channel column for a channel of the till. -/
def orderChannel : RestaurantOrderChannel → OrderChannel
  | .DINE_IN => .DINE_IN
  | .TAKEAWAY => .TAKEAWAY
  | .DELIVERY => .DELIVERY

/-- The table link of a new check. -/
def linkTable (s : PosState) (event : OrderCreated) (orderId : String) : PosState :=
  match eventTable event.tableId, event.channel with
  | some tableId, some channel =>
    if s.restaurantMode then
      let placed := s.placeOrder orderId tableId (orderChannel channel)
      let owned : PosState := { placed with
        orders := placed.orders.modify orderId fun order => { order with waiterId := event.waiterId } }
      owned.occupyTable tableId orderId
    else s
  | _, _ => s

/-- Was the customer made offline and never synced? -/
def isOfflineCustomer (customerId : Option String) : Bool :=
  customerId.any fun id => jsStartsWith "offline_cust_" id

def offlineCustomerError : String :=
  "Customer was created offline and has not been synced yet."

/-- `createOrderDraft`. -/
def createOrderDraft (event : OrderCreated) (s : PosState) : Replayed :=
  if isOfflineCustomer event.customerId then ⟨.REVIEW offlineCustomerError, s⟩
  else
    match createOrder env s event with
    | .error error => ⟨.FAILED error, s⟩
    | .ok (orderId, s') =>
      ⟨.SYNCED [("orderId", some orderId), ("offlineId", some event.offlineId)],
        linkTable s' event orderId⟩

/-! ## Selling -/

/-- `releaseRestaurantFloorAfterSale`: the check it released for, and the floor after it. -/
def releaseRestaurantFloorAfterSale (s : PosState) (event : SaleCompleted)
    (knownFromOrderId : Option String) : Option String × PosState :=
  match eventTable event.tableId with
  | none => (knownFromOrderId, s)
  | some tableId =>
    if s.restaurantMode = false then (knownFromOrderId, s)
    else
      match knownFromOrderId.orElse fun _ => resolvePendingOrderIdForTable s tableId with
      | some orderId => (some orderId, releaseTableForOrder s orderId)
      | none => (none, s.releaseTable tableId)

/-- The check a sale completes: found by its table, where restaurant mode is on. -/
def saleTarget (s : PosState) (event : SaleCompleted) : Option String :=
  (eventTable event.tableId).bind fun tableId =>
    if s.restaurantMode then resolvePendingOrderIdForTable s tableId else none

/-- `serviceInput`. -/
def saleInput (event : SaleCompleted) (userId : String) (fromOrderId : Option String) :
    CreateSaleInput :=
  { customerId := event.customerId.filter fun id => id ≠ ""
    cashRegisterSessionId := env.openSession userId
    items := event.lines
    subtotal := event.subtotal
    discountAmount := event.discountAmount
    taxAmount := event.taxAmount
    totalAmount := event.totalAmount
    paymentMethod := (event.payments.head?.map (·.paymentMethod)).getD .CASH
    paymentLines := event.payments
    giftReason := event.giftReason
    soldBy := userId
    idempotencyKey := event.key
    offlineId := event.offlineId
    fromOrderId := fromOrderId }

/-- `createSale`, as far as it concerns the check: the check must be open, and it is completed
together with the sale. -/
def createSale (s : PosState) (input : CreateSaleInput) : Except String (String × PosState) := do
  let _ ← match input.fromOrderId with
    | none => pure ()
    | some orderId => do
      let order ← orThrow (s.orders.get? orderId) "Order not found"
      require (order.status = .PENDING)
        ("Cannot complete order " ++ order.orderNumber ++ " — status is " ++ order.status.text)
  match env.refuseSale input s with
  | some error => .error error
  | none =>
    let saleId := env.newId s
    let sale : SaleRow := ⟨some input.idempotencyKey, input.fromOrderId⟩
    let sold : PosState := { s with sales := s.sales.set saleId sale }
    match input.fromOrderId with
    | none => pure (saleId, sold)
    | some orderId => pure (saleId, sold.closeOrder orderId .COMPLETED)

/-- Is a message about stock?  Such a sale is for review. -/
def isStockConflict (error : String) : Bool :=
  jsIncludes "Insufficient" error || jsIncludes "stock" error || jsIncludes "inventory" error ||
    jsIncludes "cost layer" error

/-- `finalizeSale`. -/
def finalizeSale (event : SaleCompleted) (userId : String) (s : PosState) : Replayed :=
  if isOfflineCustomer event.customerId then ⟨.REVIEW offlineCustomerError, s⟩
  else
    match s.saleWithKey event.key with
    | some sale =>
      let (fromOrderId, s') := releaseRestaurantFloorAfterSale s event none
      ⟨.DUPLICATE [("saleId", some sale.1), ("fromOrderId", fromOrderId)], s'⟩
    | none =>
      let fromOrderId := saleTarget s event
      match createSale env s (saleInput env event userId fromOrderId) with
      | .error error => ⟨if isStockConflict error then .REVIEW error else .FAILED error, s⟩
      | .ok (saleId, s') =>
        let (released, s'') := releaseRestaurantFloorAfterSale s' event fromOrderId
        ⟨.SYNCED [("saleId", some saleId), ("offlineId", some event.offlineId),
          ("fromOrderId", released)], s''⟩

end

/-! ## Cancelling, moving, merging and splitting -/

/-- The check a cancellation means. -/
def cancelTarget (s : PosState) (event : OrderCancelled) : Option String :=
  if isUuidText event.orderId then some event.orderId
  else (eventTable event.tableId).bind (resolvePendingOrderIdForTable s)

/-- A cancellation of a check that is gone frees its table when nothing is open on it. -/
def releaseIfEmpty (s : PosState) (event : OrderCancelled) : PosState :=
  match eventTable event.tableId with
  | none => s
  | some tableId =>
    let onTable := (s.pendingOn tableId).filter fun row => row.2.orderChannel ≠ .RETAIL
    if s.restaurantMode = true ∧ onTable = [] then s.releaseTable tableId else s

/-- `cancelOrder`. -/
def cancelOrder (event : OrderCancelled) (userId : String) (s : PosState) : Replayed :=
  match cancelTarget s event with
  | none => ⟨.ACKNOWLEDGED "ORDER_CANCELLED", releaseIfEmpty s event⟩
  | some orderId =>
    match s.orders.get? orderId with
    | none => ⟨.REVIEW "Cannot cancel order in status unknown", s⟩
    | some order =>
      match order.status with
      | .CANCELLED => ⟨.DUPLICATE [("orderId", some orderId)], releaseTableForOrder s orderId⟩
      | .COMPLETED => ⟨.REVIEW "Cannot cancel order in status COMPLETED", s⟩
      | .PENDING =>
        let cancelled :=
          if order.orderChannel ≠ .RETAIL then
            if s.restaurantMode then cancelCheck s orderId userId
            else .error "Restaurant mode is disabled. Enable restaurant_mode_enabled in system settings."
          else (cancelOpenOrder s orderId).map fun s' => releaseTableForOrder s' orderId
        match cancelled with
        | .error error => ⟨.FAILED error, s⟩
        | .ok s' => ⟨.SYNCED [("orderId", some orderId), ("offlineId", event.offlineId)], s'⟩

/-- `transferRestaurantCheck`. -/
def transferRestaurantCheck (event : RestaurantCheckTransferred) (userId : String) (s : PosState) :
    Replayed :=
  if s.restaurantMode = false then ⟨.ACKNOWLEDGED "RESTAURANT_CHECK_TRANSFERRED", s⟩
  else
    let orderId :=
      if isPendingOrderOnTable s event.orderId event.fromTableId then some event.orderId
      else resolvePendingOrderIdForTable s event.fromTableId
    match orderId with
    | none => ⟨.REVIEW
        "Source check not found on server for offline transfer (sync ORDER_CREATED first)", s⟩
    | some orderId =>
      match transferCheck s orderId event.toTableId userId with
      | .error error =>
        let forReview := jsIncludes "already on that table" error ||
          jsIncludes "Target table must be free" error
        ⟨if forReview then .REVIEW error else .FAILED error, s⟩
      | .ok s' => ⟨.SYNCED [("orderId", some orderId), ("toTableId", some event.toTableId)], s'⟩

/-- `mergeRestaurantChecks`. -/
def mergeRestaurantChecks (event : RestaurantCheckMerged) (userId : String) (s : PosState) :
    Replayed :=
  if s.restaurantMode = false then ⟨.ACKNOWLEDGED "RESTAURANT_CHECK_MERGED", s⟩
  else
    match eventTable event.primaryTableId, eventTable event.secondaryTableId with
    | some primaryTableId, some secondaryTableId =>
      match mergeTargets s primaryTableId secondaryTableId with
      | none => ⟨.REVIEW (if primaryTableId = secondaryTableId then
          "Need two open sibling checks on table for offline merge"
          else "One or both checks not found on server for offline merge"), s⟩
      | some (primaryId, secondaryId) =>
        match mergeChecks s primaryId secondaryId userId with
        | .error error => ⟨.FAILED error, s⟩
        | .ok s' => ⟨.SYNCED [("primaryOrderId", some primaryId),
            ("cancelledOrderId", some secondaryId)], s'⟩
    | _, _ => ⟨.REVIEW "Merge event missing table ids", s⟩

/-- `splitRestaurantCheck`. -/
def splitRestaurantCheck (env : ServerEnv) (event : RestaurantCheckSplit) (userId : String)
    (s : PosState) : Replayed :=
  if s.restaurantMode = false then ⟨.ACKNOWLEDGED "RESTAURANT_CHECK_SPLIT", s⟩
  else
    match resolveSourceOrderIdForSplit s event with
    | none => ⟨.REVIEW "Source check not found on server for offline split", s⟩
    | some sourceId =>
      let items := resolveSplitItems s sourceId event
      if items.length ≠ event.lineIds.length then
        ⟨.REVIEW ("Could not match split lines on server (" ++ toString items.length ++ "/" ++
          toString event.lineIds.length ++ ")"), s⟩
      else
        match splitCheck env s sourceId items event.targetTableId event.sameTable userId with
        | .error error => ⟨.FAILED error, s⟩
        | .ok s' => ⟨.SYNCED [("sourceOrderId", some sourceId), ("newOrderId", some (env.newId s)),
            ("offlineNewOrderId", some event.newOrderId)], s'⟩

/-! ## Dispatch -/

/-- `replay`; there is no answer for the handlers that are not part of this file. -/
def replay (env : ServerEnv) (event : PosOfflineEvent) (userId : String) (s : PosState) :
    Option Replayed :=
  match event with
  | .ORDER_CREATED event => some (createOrderDraft env event s)
  | .SALE_COMPLETED event => some (finalizeSale env event userId s)
  | .ORDER_CANCELLED event => some (cancelOrder event userId s)
  | .ORDER_UPDATED _ => none
  | .RESTAURANT_CHECK_TRANSFERRED event => some (transferRestaurantCheck event userId s)
  | .RESTAURANT_CHECK_MERGED event => some (mergeRestaurantChecks event userId s)
  | .RESTAURANT_CHECK_SPLIT event => some (splitRestaurantCheck env event userId s)
  | .RESTAURANT_KOT_FIRED _ => none
  | .PAYMENT_ADDED _ => some ⟨.ACKNOWLEDGED "PAYMENT_ADDED", s⟩
  | .SALE_VOIDED _ => some ⟨.ACKNOWLEDGED "SALE_VOIDED", s⟩
  | .RESTAURANT_KOT_STATUS _ => some ⟨.ACKNOWLEDGED "RESTAURANT_KOT_STATUS", s⟩

end SmartErpPos.Pos
