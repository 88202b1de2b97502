/-
  Pos/CheckService.lean --- merging, splitting, moving and cancelling checks on the server.

  Source: `SamplePOS.Server/src/modules/restaurant/restaurantService.ts` (`mergeChecks`,
  `splitCheck`, `transferCheck`, `cancelCheck`, `releaseTableForOrder`),
  `modules/orders/ordersService.ts` (`createOrder`, `cancelOrder`) and
  `shared/utils/restaurantCheckOwnership.ts`.

  The calls come from the event replayer, whose actor is a user id without a role and
  without permissions.  Every call runs alone; a failed one leaves the tables as they were.
  Kitchen tickets, print jobs and the totals of a check are left out.
-/
import SmartErpPos.Lib.DecimalText
import SmartErpPos.Lib.Fallible
import SmartErpPos.Lib.JsText
import SmartErpPos.Offline.Journal
import SmartErpPos.Pos.Floor

set_option autoImplicit false

namespace SmartErpPos.Pos

open SmartErpPos.Lib

/-! ## What comes from outside -/

/-- What the replayer hands to `createSale`. -/
structure CreateSaleInput where
  customerId : Option String
  cashRegisterSessionId : Option String
  items : List Offline.EventLine
  subtotal : ℚ
  discountAmount : ℚ
  taxAmount : ℚ
  totalAmount : ℚ
  paymentMethod : Offline.PaymentMethod
  paymentLines : List Offline.EventPayment
  giftReason : Option String
  soldBy : String
  idempotencyKey : String
  offlineId : String
  fromOrderId : Option String

/-- What the server draws from outside: the clock, fresh ids and order numbers, the open till
session of a user, the units of a product, and whether `createSale` posts a sale.  A sale
stands or falls with its stock, its payments and its postings; which of them refuses it, and
with what message, does not matter here. -/
structure ServerEnv where
  now : ℤ
  newId : PosState → String
  newId_fresh : ∀ s : PosState, s.orders.get? (newId s) = none ∧ s.items.get? (newId s) = none ∧
    s.sales.get? (newId s) = none
  nextOrderNumber : PosState → String
  openSession : String → Option String
  resolveSaleItemUom : String → ℚ → Option String → Except String (Numeric 4 × Numeric 6)
  refuseSale : CreateSaleInput → PosState → Option String

/-! ## Who may change a check -/

def RESTAURANT_SERVICE_LANE_RESTRICTED_MESSAGE : String :=
  "Takeaway, Delivery, and Quick orders are for cashiers and managers only. Waiters use dining tables."

def RESTAURANT_CHECK_OWNED_MESSAGE : String :=
  "This table belongs to another waiter. Ask a manager to reassign, or use a role with Edit others / Pay."

/-- `ownsRestaurantCheck`: a check without a waiter is anyone's. -/
def ownsRestaurantCheck (checkWaiterId : Option String) (userId : String) : Bool :=
  checkWaiterId.all fun waiterId => decide (waiterId = "") || decide (waiterId = userId)

/-- `isSharedRestaurantServiceCounter`. -/
def isSharedRestaurantServiceCounter (tableCode tableZone : String) : Bool :=
  decide ((jsTrim tableCode).toUpper ∈ ["TA", "DL", "QK"]) ||
    decide ((jsTrim tableZone).toUpper = "SERVICE")

/-- `requireOrderMutationAccess` for a bare user id: no access to the service lanes, and
elsewhere to one's own checks. -/
def requireOrderMutationAccess (s : PosState) (order : PosOrder) (userId : String) :
    Except String Unit :=
  let shared := (order.tableId.bind s.tables.get?).any fun t =>
    isSharedRestaurantServiceCounter t.code t.zone
  if shared then .error RESTAURANT_SERVICE_LANE_RESTRICTED_MESSAGE
  else require (ownsRestaurantCheck order.waiterId userId = true) RESTAURANT_CHECK_OWNED_MESSAGE

/-- The check, unless it is missing or a retail order. -/
def restaurantCheck (s : PosState) (orderId message : String) : Except String PosOrder :=
  orThrow ((s.orders.get? orderId).filter fun order => order.orderChannel ≠ .RETAIL) message

/-- `channelForTable`. -/
def channelForTable (table : RestaurantTable) : OrderChannel :=
  let name := table.name.toLower.toList
  let takeAway := name.tails.any fun rest =>
    "take".toList.isPrefixOf rest && "away".toList.isPrefixOf ((rest.drop 4).dropWhile isJsSpace)
  if table.code.toUpper = "TA" ∨ (table.zone = "SERVICE" ∧ takeAway = true) then .TAKEAWAY
  else if table.code.toUpper = "DL" ∨ jsIncludes "delivery" table.name.toLower = true then .DELIVERY
  else .DINE_IN

/-! ## Cancelling -/

/-- `releaseTableForOrder`; without restaurant mode nothing happens. -/
def releaseTableForOrder (s : PosState) (orderId : String) : PosState :=
  if s.restaurantMode then s.releaseTableByOrderId orderId else s

/-- `ordersService.cancelOrder`. -/
def cancelOpenOrder (s : PosState) (orderId : String) : Except String PosState := do
  let order ← orThrow (s.orders.get? orderId) ("Order not found: " ++ orderId ++ " not found")
  let _ ← require (order.status = .PENDING)
    ("Cannot cancel order " ++ order.orderNumber ++ " — status is " ++ order.status.text)
  pure (s.closeOrder orderId .CANCELLED)

/-- `cancelCheck`. -/
def cancelCheck (s : PosState) (orderId userId : String) : Except String PosState := do
  let order ← restaurantCheck s orderId "Not a restaurant check"
  let _ ← requireOrderMutationAccess s order userId
  let s' ← cancelOpenOrder s orderId
  pure (releaseTableForOrder s' orderId)

/-! ## Merging -/

/-- The checks `mergeChecks` makes before it writes. -/
def mergeAllowed (s : PosState) (primaryOrderId secondaryOrderId userId : String) :
    Except String Unit := do
  let _ ← require (primaryOrderId ≠ secondaryOrderId) "Cannot merge a check into itself"
  let primary ← restaurantCheck s primaryOrderId "Primary is not a restaurant check"
  let secondary ← restaurantCheck s secondaryOrderId "Secondary is not a restaurant check"
  let _ ← requireOrderMutationAccess s primary userId
  let _ ← requireOrderMutationAccess s secondary userId
  let _ ← require (primary.status = .PENDING ∧ secondary.status = .PENDING)
    "Both checks must be open to merge"
  let _ ← require (primary.tableId.isSome = true ∧ primary.tableId = secondary.tableId)
    "Merge only works for tickets on the same table — use Change table first if needed"
  require (s.orderItems secondaryOrderId ≠ []) "Secondary check has no items"

/-- Point the primary's table at it, where it points nowhere or at the secondary. -/
def claimTable (s : PosState) (primaryOrderId secondaryOrderId : String) : PosState :=
  match (s.orders.get? primaryOrderId).bind (·.tableId) with
  | none => s
  | some tableId =>
    match s.tables.get? tableId with
    | none => s
    | some table =>
      if table.currentOrderId = none ∨ table.currentOrderId = some secondaryOrderId then
        s.occupyTable tableId primaryOrderId
      else s

/-- `mergeChecks`. -/
def mergeChecks (s : PosState) (primaryOrderId secondaryOrderId userId : String) :
    Except String PosState := do
  let _ ← mergeAllowed s primaryOrderId secondaryOrderId userId
  let itemIds := (s.orderItems secondaryOrderId).map (·.1)
  let moved := s.moveOrderItems itemIds primaryOrderId
  let s' ← cancelOpenOrder moved secondaryOrderId
  pure (claimTable (releaseTableForOrder s' secondaryOrderId) primaryOrderId secondaryOrderId)

/-! ## Splitting -/

/-- A requested line; without a quantity all of it moves. -/
abbrev SplitItem := String × Option ℚ

/-- `moveRequests`: one entry a line, a request for all of it beats the others. -/
def addMoveRequest (requests : OrderedMap String (Option ℚ)) (row : SplitItem) :
    Except String (OrderedMap String (Option ℚ)) :=
  match row.2 with
  | none => pure (requests.set row.1 none)
  | some quantity => do
    let _ ← require (0 < quantity) "Move quantity must be positive"
    match requests.get? row.1 with
    | some none => pure requests
    | some (some previous) => pure (requests.set row.1 (some (previous + quantity)))
    | none => pure (requests.set row.1 (some quantity))

structure MoveSlice where
  itemId : String
  onHand : ℚ
  moveQty : ℚ
  discountAmount : ℚ
  deriving DecidableEq

/-- The tolerance `1e-9`. -/
def splitTolerance : ℚ := 1 / 10 ^ 9

/-- One line of the request against the lines of the check. -/
def moveSlice (sourceItems : List (PosState.Row OrderItem)) (request : String × Option ℚ) :
    Except String MoveSlice := do
  let row ← orThrow (sourceItems.find? fun row => row.1 = request.1)
    "One or more lines are not on this check"
  let onHand := row.2.quantity.toRat
  let moveQty := request.2.getD onHand
  let _ ← require (moveQty ≤ onHand + splitTolerance)
    ("Cannot move " ++ decimalText moveQty ++ " of \"" ++ row.2.productName ++ "\" — only " ++
      decimalText onHand ++ " on the check")
  pure ⟨request.1, onHand, moveQty, row.2.discountAmount.toRat⟩

/-- What `splitCheck` has checked and found before it writes. -/
structure SplitPlan where
  source : PosOrder
  slices : List MoveSlice
  destTableId : String
  destChannel : OrderChannel
  sameTable : Bool

/-- The checks `splitCheck` makes before it writes. -/
def splitPlan (s : PosState) (sourceOrderId : String) (items : List SplitItem)
    (targetTableId : String) (sameTable : Bool) (userId : String) : Except String SplitPlan := do
  let requests ← items.foldlM addMoveRequest .empty
  let _ ← require (requests.entries ≠ []) "Select at least one line to split"
  let source ← restaurantCheck s sourceOrderId "Not a restaurant check"
  let _ ← requireOrderMutationAccess s source userId
  let _ ← require (source.status = .PENDING) "Only open checks can split"
  let sourceItems := s.orderItems sourceOrderId
  let slices ← requests.entries.mapM (moveSlice sourceItems)
  let units := (sourceItems.map fun row => row.2.quantity.toRat).sum
  let _ ← require (splitTolerance < units - (slices.map (·.moveQty)).sum)
    "Cannot split all lines — leave at least one on the source check"
  let onSameTable := sameTable || decide (source.tableId = some targetTableId)
  let target ← orThrow ((s.tables.get? targetTableId).filter (·.isActive)) "Target table not found"
  let _ ← require (onSameTable = true ∨ (target.status = .FREE ∧ target.currentOrderId = none))
    "Target table must be free"
  let destTableId ← orThrow (if onSameTable then source.tableId else some targetTableId)
    "Source check has no table for same-table split"
  let dest ← orThrow (s.tables.get? destTableId) "Table not found"
  pure ⟨source, slices, destTableId, channelForTable dest, onSameTable⟩

/-- Does the whole line move? -/
def MoveSlice.isFull (slice : MoveSlice) : Bool := decide (slice.onHand - splitTolerance ≤ slice.moveQty)

/-- The discount that stays with the rest of a line, in cents. -/
def MoveSlice.remainDiscount (slice : MoveSlice) : ℚ :=
  if 0 < slice.onHand then
    roundTo 2 (slice.discountAmount * (slice.onHand - slice.moveQty) / slice.onHand)
  else 0

section

variable (env : ServerEnv)

/-- Move a part of a line: a clone on the new check, the rest on the old one. -/
def movePartial (sourceOrderId newOrderId : String) (s : PosState) (slice : MoveSlice) :
    Except String PosState := do
  let item ← orThrow ((s.items.get? slice.itemId).filter fun item =>
    decide (item.orderId = sourceOrderId) && decide (slice.moveQty < item.quantity.toRat))
    "Failed to split partial quantity"
  let clone := item.partialClone newOrderId slice.moveQty env.now
  let cloned : PosState := { s with items := s.items.set (env.newId s) clone }
  pure (cloned.reduceOrderItemQuantity sourceOrderId slice.itemId (slice.onHand - slice.moveQty)
    slice.remainDiscount)

/-- The order row of the new check. -/
def splitOrder (s : PosState) (plan : SplitPlan) : PosOrder :=
  { orderNumber := env.nextOrderNumber s
    status := .PENDING
    tableId := some plan.destTableId
    orderChannel := plan.destChannel
    waiterId := plan.source.waiterId
    customerId := plan.source.customerId
    idempotencyKey := none
    notes := some ("Split from " ++ plan.source.orderNumber)
    createdAt := env.now }

/-- The writes of `splitCheck`. -/
def applySplit (s : PosState) (sourceOrderId : String) (plan : SplitPlan) :
    Except String PosState := do
  let newOrderId := env.newId s
  let opened : PosState := { s with orders := s.orders.set newOrderId (splitOrder env s plan) }
  let parted ← (plan.slices.filter fun slice => !slice.isFull).foldlM
    (movePartial env sourceOrderId newOrderId) opened
  let fullMoveIds := (plan.slices.filter (·.isFull)).map (·.itemId)
  let moved := parted.moveOrderItems fullMoveIds newOrderId
  pure (if plan.sameTable then moved else moved.occupyTable plan.destTableId newOrderId)

/-- `splitCheck`. -/
def splitCheck (s : PosState) (sourceOrderId : String) (items : List SplitItem)
    (targetTableId : String) (sameTable : Bool) (userId : String) : Except String PosState := do
  let plan ← splitPlan s sourceOrderId items targetTableId sameTable userId
  applySplit env s sourceOrderId plan

end

/-! ## Moving to another table -/

/-- `transferCheck`. -/
def transferCheck (s : PosState) (orderId toTableId userId : String) : Except String PosState := do
  let order ← restaurantCheck s orderId "Not a restaurant check"
  let _ ← requireOrderMutationAccess s order userId
  let _ ← require (order.status = .PENDING) "Only open checks can transfer"
  let fromTableId ← orThrow order.tableId "Check has no table"
  let _ ← require (fromTableId ≠ toTableId) "Check is already on that table"
  let _ ← orThrow (s.tables.get? fromTableId) "Restaurant table not found"
  let toTable ← orThrow ((s.tables.get? toTableId).filter (·.isActive)) "Restaurant table not found"
  let _ ← require (toTable.status = .FREE ∧ toTable.currentOrderId = none) "Target table must be free"
  let placed := s.placeOrder orderId toTableId (channelForTable toTable)
  let released := placed.releaseTableByOrderId orderId
  let stillThere := (released.tables.get? fromTableId).any fun t => t.currentOrderId = some orderId
  let cleared := if stillThere then released.releaseTable fromTableId else released
  pure (cleared.occupyTable toTableId orderId)

end SmartErpPos.Pos
