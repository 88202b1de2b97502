/-
  Offline/Journal.lean --- the offline event journal of the till.

  Source: `samplepos.client/src/lib/offlineEventJournal.ts`.

  The till records what happens while it has no server as an append-only list of
  events, each with its own idempotency key.  Whether an event has reached the
  server is kept apart, in a map from event keys to sync entries, so that the
  journal itself is never edited.  Everything the screens show is derived by
  replaying the list (`Offline/Selectors.lean`); only quota reclaim ever removes
  events (`Offline/Compaction.lean`).

  An optional field `f?: T` is an `Option`, and a field that may also be `null`
  is an `Option (Option T)`: the outer `none` is `undefined`, the inner one is
  `null`.  Quantities and amounts are exact rationals, timestamps are whole
  milliseconds since the epoch.
-/
import Mathlib.Data.Rat.Defs
import SmartErpPos.Lib.OrderedMap

set_option autoImplicit false

namespace SmartErpPos.Offline

open SmartErpPos.Lib

/-! ## Sync state -/

inductive SyncStatus where
  | PENDING
  | SYNCED
  | REVIEW
  | FAILED
  | CANCELLED
  deriving DecidableEq

/-- What is known about one event's way to the server. -/
structure SyncStateEntry where
  status : SyncStatus
  /-- Error message for `FAILED` or `REVIEW`. -/
  error : Option String
  deriving DecidableEq

abbrev SyncStateMap := OrderedMap String SyncStateEntry

/-- An event without an entry has not been sent: it counts as `PENDING`. -/
def statusFromEntry (entry : Option SyncStateEntry) : SyncStatus :=
  match entry with
  | some e => e.status
  | none => .PENDING

/-! ## Event shapes -/

structure EventLine where
  productId : String
  productName : String
  sku : String
  uom : String
  uomId : Option String
  quantity : ℚ
  unitPrice : ℚ
  costPrice : ℚ
  subtotal : ℚ
  taxAmount : ℚ
  discountAmount : Option ℚ
  /-- `inventory`, `consumable` or `service`. -/
  productType : Option String
  /-- Stable client line id, used to track kitchen tickets. -/
  lineId : Option String
  lineNotes : Option (Option String)
  /-- ISO timestamp of the kitchen ticket that carried this line. -/
  kitchenSentAt : Option (Option String)
  addedBy : Option (Option String)
  addedByName : Option (Option String)
  addedAt : Option (Option String)
  deriving DecidableEq

inductive RestaurantOrderChannel where
  | DINE_IN
  | TAKEAWAY
  | DELIVERY
  deriving DecidableEq

inductive PaymentMethod where
  | CASH
  | CARD
  | MOBILE_MONEY
  | AIRTEL_MONEY
  | CREDIT
  | GIFT
  deriving DecidableEq

structure EventPayment where
  paymentMethod : PaymentMethod
  amount : ℚ
  reference : Option String
  deriving DecidableEq

structure StockDeduction where
  productId : String
  quantity : ℚ
  deriving DecidableEq

structure OrderCreated where
  key : String
  orderId : String
  offlineId : String
  lines : List EventLine
  customerId : Option String
  notes : Option String
  ts : ℤ
  channel : Option RestaurantOrderChannel
  tableId : Option String
  tableCode : Option String
  tableName : Option String
  waiterId : Option String
  waiterName : Option String
  guestName : Option (Option String)
  guestPhone : Option (Option String)
  deliveryAddress : Option (Option String)
  pickupLabel : Option (Option String)
  deriving DecidableEq

structure OrderUpdated where
  key : String
  orderId : String
  offlineId : Option String
  lines : List EventLine
  customerId : Option String
  notes : Option String
  ts : ℤ
  channel : Option RestaurantOrderChannel
  tableId : Option String
  tableCode : Option String
  tableName : Option String
  waiterId : Option String
  waiterName : Option String
  guestName : Option (Option String)
  guestPhone : Option (Option String)
  deliveryAddress : Option (Option String)
  pickupLabel : Option (Option String)
  voidReason : Option String
  deriving DecidableEq

structure OrderCancelled where
  key : String
  orderId : String
  offlineId : Option String
  reason : Option String
  ts : ℤ
  tableId : Option String
  tableCode : Option String
  deriving DecidableEq

structure PaymentAdded where
  key : String
  orderId : String
  payments : List EventPayment
  subtotal : ℚ
  discountAmount : ℚ
  taxAmount : ℚ
  totalAmount : ℚ
  stockDeductions : List StockDeduction
  ts : ℤ
  deriving DecidableEq

structure SaleCompleted where
  key : String
  orderId : String
  offlineId : String
  customerId : Option String
  lines : List EventLine
  payments : List EventPayment
  subtotal : ℚ
  discountAmount : ℚ
  taxAmount : ℚ
  totalAmount : ℚ
  giftReason : Option String
  stockDeductions : List StockDeduction
  ts : ℤ
  tableId : Option String
  channel : Option RestaurantOrderChannel
  tableCode : Option String
  deriving DecidableEq

structure SaleVoided where
  key : String
  saleId : String
  reason : String
  ts : ℤ
  deriving DecidableEq

inductive TicketKind where
  | FIRE
  | VOID
  deriving DecidableEq

structure KotLine where
  lineId : String
  productName : String
  quantity : ℚ
  lineNotes : Option (Option String)
  deriving DecidableEq

structure RestaurantKotFired where
  key : String
  orderId : String
  kotOfflineId : String
  tableId : Option String
  tableCode : Option String
  tableName : Option String
  waiterName : Option String
  station : Option String
  orderChannel : Option String
  guestName : Option (Option String)
  ticketKind : Option TicketKind
  voidReason : Option String
  lines : List KotLine
  ts : ℤ
  deriving DecidableEq

/-- Move an entire check to another table. -/
structure RestaurantCheckTransferred where
  key : String
  orderId : String
  offlineId : Option String
  fromTableId : String
  toTableId : String
  toTableCode : Option String
  toTableName : Option String
  channel : Option RestaurantOrderChannel
  ts : ℤ
  deriving DecidableEq

/-- Merge the secondary check into the primary one, all lines. -/
structure RestaurantCheckMerged where
  key : String
  primaryOrderId : String
  secondaryOrderId : String
  primaryOfflineId : Option String
  secondaryOfflineId : Option String
  primaryTableId : Option String
  secondaryTableId : Option String
  ts : ℤ
  deriving DecidableEq

/-- Split selected lines onto a new check. -/
structure RestaurantCheckSplit where
  key : String
  sourceOrderId : String
  sourceOfflineId : Option String
  newOrderId : String
  newOfflineId : String
  lineIds : List String
  /-- When a line is listed, only that many units leave it. -/
  quantityByLineId : Option (OrderedMap String ℚ)
  movedLines : List EventLine
  sourceTableId : String
  targetTableId : String
  targetTableCode : Option String
  targetTableName : Option String
  sameTable : Bool
  channel : Option RestaurantOrderChannel
  waiterId : Option String
  waiterName : Option String
  guestName : Option (Option String)
  guestPhone : Option (Option String)
  deliveryAddress : Option (Option String)
  pickupLabel : Option (Option String)
  ts : ℤ
  deriving DecidableEq

inductive KotStatus where
  | SENT
  | PREPARING
  | READY
  | BUMPED
  deriving DecidableEq

structure RestaurantKotStatus where
  key : String
  orderId : String
  kotOfflineId : String
  status : KotStatus
  ts : ℤ
  deriving DecidableEq

inductive PosOfflineEvent where
  | ORDER_CREATED (event : OrderCreated)
  | ORDER_UPDATED (event : OrderUpdated)
  | ORDER_CANCELLED (event : OrderCancelled)
  | PAYMENT_ADDED (event : PaymentAdded)
  | SALE_COMPLETED (event : SaleCompleted)
  | SALE_VOIDED (event : SaleVoided)
  | RESTAURANT_KOT_FIRED (event : RestaurantKotFired)
  | RESTAURANT_CHECK_TRANSFERRED (event : RestaurantCheckTransferred)
  | RESTAURANT_CHECK_MERGED (event : RestaurantCheckMerged)
  | RESTAURANT_CHECK_SPLIT (event : RestaurantCheckSplit)
  | RESTAURANT_KOT_STATUS (event : RestaurantKotStatus)
  deriving DecidableEq

namespace PosOfflineEvent

/-- The idempotency key every event carries. -/
def key : PosOfflineEvent → String
  | ORDER_CREATED event => event.key
  | ORDER_UPDATED event => event.key
  | ORDER_CANCELLED event => event.key
  | PAYMENT_ADDED event => event.key
  | SALE_COMPLETED event => event.key
  | SALE_VOIDED event => event.key
  | RESTAURANT_KOT_FIRED event => event.key
  | RESTAURANT_CHECK_TRANSFERRED event => event.key
  | RESTAURANT_CHECK_MERGED event => event.key
  | RESTAURANT_CHECK_SPLIT event => event.key
  | RESTAURANT_KOT_STATUS event => event.key

end PosOfflineEvent

/-! ## Order ids and statuses of events -/

/-- The contents of the order id fields an event has. -/
def orderIdFields : PosOfflineEvent → List String
  | .ORDER_CREATED e => [e.orderId]
  | .ORDER_UPDATED e => [e.orderId]
  | .ORDER_CANCELLED e => [e.orderId]
  | .PAYMENT_ADDED e => [e.orderId]
  | .SALE_COMPLETED e => [e.orderId]
  | .SALE_VOIDED _ => []
  | .RESTAURANT_KOT_FIRED e => [e.orderId]
  | .RESTAURANT_CHECK_TRANSFERRED e => [e.orderId]
  | .RESTAURANT_CHECK_MERGED e => [e.primaryOrderId, e.secondaryOrderId]
  | .RESTAURANT_CHECK_SPLIT e => [e.sourceOrderId, e.newOrderId]
  | .RESTAURANT_KOT_STATUS e => [e.orderId]

/-- The order ids an event names.  Empty fields are skipped. -/
def orderIdsOnEvent (event : PosOfflineEvent) : List String :=
  (orderIdFields event).filter (fun id => id ≠ "")

/-- A missing status counts as `PENDING`; `SYNCED` and `CANCELLED` are final. -/
def isUnsyncedStatus (status : Option SyncStatus) : Bool :=
  match status.getD .PENDING with
  | .PENDING => true
  | .FAILED => true
  | .REVIEW => true
  | .SYNCED => false
  | .CANCELLED => false

/-! ## The store and its writers -/

/-- The two stored values: `pos_offline_events` and `pos_sync_state`. -/
structure JournalStore where
  journal : List PosOfflineEvent
  syncState : SyncStateMap

/-- Both storage keys absent. -/
def JournalStore.initial : JournalStore := ⟨[], OrderedMap.empty⟩

/-- Record `status` for `key`. -/
def JournalStore.mark (store : JournalStore) (key : String) (status : SyncStatus)
    (error : Option String) : JournalStore :=
  { store with syncState := store.syncState.set key ⟨status, error⟩ }

/-- Append an event; a key already in the journal is a no-op. -/
def appendEvent (store : JournalStore) (event : PosOfflineEvent) : JournalStore :=
  if store.journal.any (fun e => e.key = event.key) then store
  else
    let store' := { store with journal := store.journal ++ [event] }
    if (store.syncState.get? event.key).isSome then store'
    else store'.mark event.key .PENDING none

def markSynced (store : JournalStore) (key : String) : JournalStore :=
  store.mark key .SYNCED none

def markReview (store : JournalStore) (key : String) (error : Option String) : JournalStore :=
  store.mark key .REVIEW error

def markFailed (store : JournalStore) (key : String) (error : Option String) : JournalStore :=
  store.mark key .FAILED error

def markCancelled (store : JournalStore) (key : String) : JournalStore :=
  store.mark key .CANCELLED none

/-- Does the journal already hold an `ORDER_CREATED` for `orderId`? -/
def hasOrderCreated (journal : List PosOfflineEvent) (orderId : String) : Bool :=
  journal.any fun e =>
    match e with
    | .ORDER_CREATED c => c.orderId = orderId
    | _ => false

/-- Append an event the server already knows.  A second `ORDER_CREATED` of one
order is skipped. -/
def appendSyncedEvent (store : JournalStore) (event : PosOfflineEvent) : JournalStore :=
  if store.journal.any (fun e => e.key = event.key) then markSynced store event.key
  else
    let skip := match event with
      | .ORDER_CREATED c => hasOrderCreated store.journal c.orderId
      | _ => false
    if skip then store
    else markSynced { store with journal := store.journal ++ [event] } event.key

/-! ## Events without optional data -/

/-- A line of `quantity` units at price 1. -/
def plainLine (lineId : String) (quantity : ℚ) : EventLine where
  productId := "p-" ++ lineId
  productName := lineId
  sku := ""
  uom := "PIECE"
  uomId := none
  quantity := quantity
  unitPrice := 1
  costPrice := 0
  subtotal := quantity
  taxAmount := 0
  discountAmount := none
  productType := none
  lineId := some lineId
  lineNotes := none
  kitchenSentAt := none
  addedBy := none
  addedByName := none
  addedAt := none

/-- The creation of a check, with every optional field left out. -/
def plainOrder (key orderId : String) (lines : List EventLine) (ts : ℤ) : OrderCreated where
  key := key
  orderId := orderId
  offlineId := "OFF-" ++ orderId
  lines := lines
  customerId := none
  notes := none
  ts := ts
  channel := none
  tableId := none
  tableCode := none
  tableName := none
  waiterId := none
  waiterName := none
  guestName := none
  guestPhone := none
  deliveryAddress := none
  pickupLabel := none

/-- A cash sale of a check, with every optional field left out. -/
def plainSale (key orderId : String) (lines : List EventLine) (total : ℚ) (ts : ℤ) :
    SaleCompleted where
  key := key
  orderId := orderId
  offlineId := "OFF-" ++ orderId
  customerId := none
  lines := lines
  payments := [⟨.CASH, total, none⟩]
  subtotal := total
  discountAmount := 0
  taxAmount := 0
  totalAmount := total
  giftReason := none
  stockDeductions := []
  ts := ts
  tableId := none
  channel := none
  tableCode := none

/-- A split of whole lines onto a new check at the same table. -/
def plainSplit (key sourceOrderId newOrderId : String) (lineIds : List String)
    (movedLines : List EventLine) (ts : ℤ) : RestaurantCheckSplit where
  key := key
  sourceOrderId := sourceOrderId
  sourceOfflineId := none
  newOrderId := newOrderId
  newOfflineId := "OFF-" ++ newOrderId
  lineIds := lineIds
  quantityByLineId := none
  movedLines := movedLines
  sourceTableId := "t1"
  targetTableId := "t1"
  targetTableCode := none
  targetTableName := none
  sameTable := true
  channel := none
  waiterId := none
  waiterName := none
  guestName := none
  guestPhone := none
  deliveryAddress := none
  pickupLabel := none
  ts := ts

end SmartErpPos.Offline
