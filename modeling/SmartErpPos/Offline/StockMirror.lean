/-
  Offline/StockMirror.lean --- the stock the till keeps for itself, and who changes it.

  Sources: `samplepos.client/src/hooks/useOfflineMode.ts` (`saveSaleOffline`,
  `syncPendingSales`, `cancelOfflineSale`, `retryFailedSale`, `retryAllFailed`),
  `lib/restaurantOfflineOps.ts` (`payRestaurantCheckOffline`), the stock mirror of
  `services/offlineCatalogService.ts`, and the writes to storage of
  `lib/offlineEventJournal.ts` and `lib/originStorageQuota.ts`.

  The mirror and the journal are stored values of their own.  The journal is read through a
  copy in memory, which a write changes first.  A write that meets the quota is tried again
  after the caches are evicted and the journal is compacted; the writes of the compaction
  itself shrink what is stored and succeed.  A call that throws takes nothing back.
-/
import SmartErpPos.Lib.JsText
import SmartErpPos.Lib.Throwing
import SmartErpPos.Offline.Compaction
import SmartErpPos.Offline.SyncEngine

set_option autoImplicit false

namespace SmartErpPos.Offline

open SmartErpPos.Lib

/-! ## The till -/

/-- What the caches say of a product: its id and its type. -/
structure CachedType where
  id : String
  productType : Option String
  deriving DecidableEq

/-- The till: what is stored, the journal in memory, and a sync run that is going on. -/
structure Till where
  /-- `pos_local_stock`. -/
  localStock : OrderedMap String ℚ
  /-- `pos_product_catalog`. -/
  catalog : List CachedType
  /-- `restaurant_offline_menu`. -/
  menu : List CachedType
  /-- `journalCache` and `syncStateCache`. -/
  memory : JournalStore
  /-- `pos_offline_events` and `pos_sync_state`. -/
  disk : JournalStore
  pausedForAuth : Bool
  loop : Option (List PosOfflineEvent)

/-- How a write to storage goes. -/
inductive WriteOutcome where
  | written
  /-- The quota is exceeded, and not any more after the reclaim. -/
  | reclaimed
  /-- The quota is exceeded before and after the reclaim. -/
  | full
  /-- The write throws something else. -/
  | failed
  deriving DecidableEq

inductive TillError where
  | storage
  | text (message : String)
  deriving DecidableEq

/-- The till during a call, and how the call's next writes go. -/
structure Writing where
  till : Till
  writes : List WriteOutcome

abbrev TillCall := Call Writing TillError

/-! ## Writes to storage -/

/-- `reclaimOriginStorage`. -/
def Till.reclaim (till : Till) : Till :=
  let (store, dropped) := compactSyncedClosedJournal till.memory
  { till with
    catalog := []
    menu := []
    memory := store
    disk := if dropped = 0 then till.disk else store }

/-- Store a value with `put`; the call throws when the write fails. -/
def setItem (put : Till → Till) : TillCall PUnit := do
  let s ← get
  let rest := s.writes.tail
  match s.writes.head?.getD .written with
  | .written => set (⟨put s.till, rest⟩ : Writing)
  | .reclaimed => set (⟨put s.till.reclaim, rest⟩ : Writing)
  | .full => do
    set (⟨s.till.reclaim, rest⟩ : Writing)
    throw .storage
  | .failed => do
    set (⟨s.till, rest⟩ : Writing)
    throw .storage

/-- `setLocalStock`. -/
def setLocalStock (stock : OrderedMap String ℚ) : TillCall PUnit :=
  setItem fun till => { till with localStock := stock }

/-- `writeJournal`. -/
def writeJournal (events : List PosOfflineEvent) : TillCall PUnit := do
  modify fun s => { s with till.memory.journal := events }
  setItem fun till => { till with disk.journal := till.memory.journal }

/-- `writeSyncState`. -/
def writeSyncState (state : SyncStateMap) : TillCall PUnit := do
  modify fun s => { s with till.memory.syncState := state }
  setItem fun till => { till with disk.syncState := till.memory.syncState }

/-! ## The stock mirror -/

/-- `stock[productId] ?? 0`. -/
def Till.stockOf (till : Till) (productId : String) : ℚ := (till.localStock.get? productId).getD 0

/-- `decrementLocalStock`. -/
def decrementLocalStock (productId : String) (qty : ℚ) : TillCall Bool := do
  let s ← get
  let current := s.till.stockOf productId
  if current < qty then pure false
  else do
    setLocalStock (s.till.localStock.set productId (current - qty))
    pure true

/-- `restoreLocalStock`. -/
def restoreLocalStock (productId : String) (qty : ℚ) : TillCall PUnit := do
  let s ← get
  setLocalStock (s.till.localStock.set productId (s.till.stockOf productId + qty))

/-! ## Writers of the journal -/

/-- `appendEvent`, as its two writes. -/
def recordEvent (event : PosOfflineEvent) : TillCall PUnit := do
  let s ← get
  if s.till.memory.journal.any (fun e => e.key = event.key) then pure ⟨⟩
  else do
    writeJournal (s.till.memory.journal ++ [event])
    let s ← get
    if (s.till.memory.syncState.get? event.key).isSome then pure ⟨⟩
    else writeSyncState (s.till.memory.syncState.set event.key ⟨.PENDING, none⟩)

/-- `markSynced`, `markReview`, `markFailed` and `markCancelled`. -/
def recordStatus (key : String) (status : SyncStatus) (error : Option String) : TillCall PUnit := do
  let s ← get
  writeSyncState (s.till.memory.mark key status error).syncState

/-! ## Sales -/

/-- What the deduction of stock looks at in a line. -/
structure StockLine where
  productId : String
  productName : String
  quantity : ℚ
  productType : Option String

/-- `isServiceProductType`. -/
def isServiceProductType (productType : String) : Bool := decide (productType.toLower = "service")

def cachedType (cache : List CachedType) (productId : String) : Option String :=
  (cache.find? fun p => p.id = productId).bind (·.productType)

/-- The type of a line of a sale: its own, or that of the catalog. -/
def Till.saleType (till : Till) (line : StockLine) : String :=
  orText line.productType (orText (cachedType till.catalog line.productId) "inventory")

/-- `resolveOfflineProductType`. -/
def Till.checkType (till : Till) (line : StockLine) : String :=
  let fromCaches := orText (cachedType till.menu line.productId)
    ((cachedType till.catalog line.productId).getD "")
  if isServiceProductType fromCaches then "service"
  else orText line.productType (if fromCaches = "" then "inventory" else fromCaches)

/-- One line of the deduction: without enough stock, what the call has taken goes back. -/
def deductLine (skips : String → Bool) (typeOf : Till → StockLine → String)
    (taken : List StockDeduction) (line : StockLine) : TillCall (List StockDeduction) := do
  if skips line.productId then pure taken
  else do
    let s ← get
    if isServiceProductType (typeOf s.till line) then pure taken
    else do
      let ok ← decrementLocalStock line.productId line.quantity
      if ok = true then pure (taken ++ [⟨line.productId, line.quantity⟩])
      else do
        taken.forM fun d => restoreLocalStock d.productId d.quantity
        throw (.text ("Insufficient offline stock for \"" ++ line.productName ++ "\""))

/-- The stock a sale takes. -/
def deductStock (skips : String → Bool) (typeOf : Till → StockLine → String)
    (lines : List StockLine) : TillCall (List StockDeduction) :=
  lines.foldlM (deductLine skips typeOf) []

/-- What a sale draws: the key of its event, its ids and the time. -/
structure SaleDraws where
  key : String
  orderTail : String
  offlineTail : String
  now : ℤ

structure OfflineSaleLineItem where
  productId : String
  productName : String
  sku : String
  uom : String
  uomId : Option String
  quantity : ℚ
  unitPrice : ℚ
  costPrice : ℚ
  subtotal : ℚ
  taxAmount : ℚ
  productType : Option String

structure OfflineSaleData where
  customerId : Option String
  lineItems : List OfflineSaleLineItem
  subtotal : ℚ
  discountAmount : ℚ
  taxAmount : ℚ
  totalAmount : ℚ
  paymentLines : List EventPayment

def OfflineSaleLineItem.stockLine (item : OfflineSaleLineItem) : StockLine :=
  ⟨item.productId, item.productName, item.quantity, item.productType⟩

def OfflineSaleLineItem.eventLine (item : OfflineSaleLineItem) : EventLine where
  productId := item.productId
  productName := item.productName
  sku := item.sku
  uom := item.uom
  uomId := item.uomId
  quantity := item.quantity
  unitPrice := item.unitPrice
  costPrice := item.costPrice
  subtotal := item.subtotal
  taxAmount := item.taxAmount
  discountAmount := none
  productType := none
  lineId := none
  lineNotes := none
  kitchenSentAt := none
  addedBy := none
  addedByName := none
  addedAt := none

/-- The payments a till may take on its own; cash when none is left. -/
def OfflineSaleData.cleanedPayments (data : OfflineSaleData) : List EventPayment :=
  let hasCustomer := orText data.customerId "" ≠ ""
  let cleaned := data.paymentLines.filter fun line =>
    match line.paymentMethod with
    | .CASH | .CARD | .MOBILE_MONEY => true
    | .CREDIT => decide hasCustomer
    | .AIRTEL_MONEY | .GIFT => false
  if cleaned.length = 0 then [⟨.CASH, data.totalAmount, none⟩] else cleaned

/-- The event of a direct sale. -/
def OfflineSaleData.event (data : OfflineSaleData) (draws : SaleDraws)
    (stockDeductions : List StockDeduction) : SaleCompleted where
  key := draws.key
  orderId := "ofl_ord_" ++ draws.orderTail
  offlineId := "OFFLINE-" ++ draws.offlineTail
  customerId := data.customerId
  lines := data.lineItems.map (·.eventLine)
  payments := data.cleanedPayments
  subtotal := data.subtotal
  discountAmount := data.discountAmount
  taxAmount := data.taxAmount
  totalAmount := data.totalAmount
  giftReason := none
  stockDeductions := stockDeductions
  ts := draws.now
  tableId := none
  channel := none
  tableCode := none

def isCustomProduct (productId : String) : Bool := jsStartsWith "custom_" productId

/-- `saveSaleOffline`. -/
def saveSaleOffline (draws : SaleDraws) (data : OfflineSaleData) : TillCall PUnit := do
  let stockDeductions ← deductStock isCustomProduct Till.saleType
    (data.lineItems.map (·.stockLine))
  recordEvent (.SALE_COMPLETED (data.event draws stockDeductions))

def EventLine.stockLine (line : EventLine) : StockLine :=
  ⟨line.productId, line.productName, line.quantity, line.productType⟩

/-- The sum of a check: `totalsFromLines`, without taxes. -/
def totalOfLines (lines : List EventLine) : ℚ := (lines.map (·.subtotal)).sum

/-- The event of a paid check. -/
def checkSale (order : DerivedOrder) (draws : SaleDraws) (stockDeductions : List StockDeduction) :
    SaleCompleted where
  key := draws.key
  orderId := order.orderId
  offlineId := "OFF-R-PAY-" ++ draws.offlineTail
  customerId := order.customerId
  lines := order.lines
  payments := [⟨.CASH, totalOfLines order.lines, none⟩]
  subtotal := totalOfLines order.lines
  discountAmount := 0
  taxAmount := 0
  totalAmount := totalOfLines order.lines
  giftReason := none
  stockDeductions := stockDeductions
  ts := draws.now
  tableId := order.tableId
  channel := order.channel
  tableCode := order.tableCode

/-- `payRestaurantCheckOffline`. -/
def payRestaurantCheckOffline (draws : SaleDraws) (order : DerivedOrder)
    (tenderedAmount : Option ℚ) : TillCall PUnit := do
  if orText order.tableId "" = "" then throw (.text "Restaurant check missing table")
  else if order.lines.length = 0 then throw (.text "Cannot pay an empty check")
  else if tenderedAmount.getD (totalOfLines order.lines) < totalOfLines order.lines then
    throw (.text "Cash tendered is less than check total")
  else do
    let stockDeductions ← deductStock (fun id => decide (id = "") || isCustomProduct id)
      Till.checkType (order.lines.map (·.stockLine))
    recordEvent (.SALE_COMPLETED (checkSale order draws stockDeductions))

/-! ## Cancelling and trying again -/

/-- The stock an event of a sale has taken. -/
def stockTakenBy : PosOfflineEvent → List StockDeduction
  | .SALE_COMPLETED e => e.stockDeductions
  | _ => []

def isSaleCompleted : PosOfflineEvent → Bool
  | .SALE_COMPLETED _ => true
  | _ => false

/-- The sale with a key. -/
def findSale (events : List PosOfflineEvent) (key : String) : Option PosOfflineEvent :=
  events.find? fun e => decide (e.key = key) && isSaleCompleted e

/-- `cancelOfflineSale`. -/
def cancelOfflineSale (key : String) : TillCall PUnit := do
  let s ← get
  match findSale s.till.memory.journal key with
  | some event => (stockTakenBy event).forM fun d => restoreLocalStock d.productId d.quantity
  | none => pure ⟨⟩
  recordStatus key .CANCELLED none

/-- `resetToPending` for some keys, in one write. -/
def setPending (keys : Till → List String) : TillCall PUnit := do
  let s ← get
  writeSyncState (resetToPending s.till.memory (keys s.till)).syncState

/-- `retryFailedSale`. -/
def retryFailedSale (key : String) : TillCall PUnit := setPending fun _ => [key]

/-- `retryAllFailed`. -/
def retryAllFailed : TillCall PUnit := setPending fun till => till.memory.syncState.keys

/-! ## Sync runs -/

/-- `syncPendingSales` up to its first post. -/
def Till.started (till : Till) (online : Bool) : Till :=
  if till.pausedForAuth then till
  else if !online || till.loop.isSome then till
  else
    let unsynced := getUnsyncedEvents till.memory
    { till with loop := if unsynced.isEmpty then none else some unsynced }

/-- The run after one event. -/
def Till.goOn (till : Till) (rest : List PosOfflineEvent) : Till :=
  { till with loop := if rest.isEmpty then none else some rest }

/-- A post whose event gets a status.  A write that throws ends the run: inside the `try` it
is read as a lost network. -/
def Till.afterMark (till : Till) (event : PosOfflineEvent) (rest : List PosOfflineEvent)
    (writes : List WriteOutcome) (status : SyncStatus) (error : Option String) : Till :=
  match (recordStatus event.key status error).on ⟨till, writes⟩ with
  | (.ok _, s) => s.till.goOn rest
  | (.error _, s) => { s.till with loop := none }

/-- The status a post gives its event, if any. -/
def LoopVerdict.status : LoopVerdict → Option (SyncStatus × Option String)
  | .synced => some (.SYNCED, none)
  | .review error => some (.REVIEW, error)
  | .failed error => some (.FAILED, error)
  | .ignored | .offlineStop | .authStop => none

/-- One post of a run. -/
def Till.afterPost (till : Till) (event : PosOfflineEvent) (rest : List PosOfflineEvent)
    (writes : List WriteOutcome) (outcome : PostOutcome) : Till :=
  match (verdictOf outcome).status with
  | some (status, error) => till.afterMark event rest writes status error
  | none =>
    match verdictOf outcome with
    | .authStop =>
      { till with
        pausedForAuth := true
        loop := none }
    | .offlineStop => { till with loop := none }
    | _ => till.goOn rest

/-! ## Runs -/

inductive TillAction where
  | saveSaleOffline (writes : List WriteOutcome) (draws : SaleDraws) (data : OfflineSaleData)
  | payRestaurantCheckOffline (writes : List WriteOutcome) (draws : SaleDraws)
      (order : DerivedOrder) (tenderedAmount : Option ℚ)
  | cancelOfflineSale (writes : List WriteOutcome) (key : String)
  | retryFailedSale (writes : List WriteOutcome) (key : String)
  | retryAllFailed (writes : List WriteOutcome)
  /-- `syncPendingSales` is called. -/
  | startSync (online : Bool)
  /-- The next event of the run is posted. -/
  | post (writes : List WriteOutcome) (outcome : PostOutcome)
  /-- A new login. -/
  | resumeAuth

/-- The till after a call, whether it throws or not. -/
def Till.after (till : Till) (call : TillCall PUnit) (writes : List WriteOutcome) : Till :=
  (call.on ⟨till, writes⟩).2.till

/-- A step; nothing where there is no run to go on with. -/
def Till.exec (till : Till) : TillAction → Option Till
  | .saveSaleOffline writes draws data => some (till.after (Offline.saveSaleOffline draws data) writes)
  | .payRestaurantCheckOffline writes draws order tenderedAmount =>
    some (till.after (Offline.payRestaurantCheckOffline draws order tenderedAmount) writes)
  | .cancelOfflineSale writes key => some (till.after (Offline.cancelOfflineSale key) writes)
  | .retryFailedSale writes key => some (till.after (Offline.retryFailedSale key) writes)
  | .retryAllFailed writes => some (till.after Offline.retryAllFailed writes)
  | .startSync online => some (till.started online)
  | .post writes outcome =>
    match till.loop with
    | some (event :: rest) => some (till.afterPost event rest writes outcome)
    | _ => none
  | .resumeAuth => some { till with pausedForAuth := false }

end SmartErpPos.Offline
