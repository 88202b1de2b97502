/-
  Offline/RestaurantOps.lean --- moving lines and checks while the till is offline.

  Sources: `samplepos.client/src/lib/restaurantOfflineOps.ts` (transfer, merge, split
  and kitchen ticket) and the restaurant selectors of `offlineEventSelectors.ts`.

  An operation gets a check that was derived from the journal, appends events, and
  derives the check again.  The clock and the random ids it draws come in as
  `OfflineDraws`.  The printed tickets that firing returns are left out: nothing in
  the journal depends on them.
-/
import Mathlib.Data.List.Sort
import SmartErpPos.Lib.Fallible
import SmartErpPos.Offline.Selectors

set_option autoImplicit false

namespace SmartErpPos.Offline

open SmartErpPos.Lib

/-! ## Restaurant selectors -/

/-- A text that is neither missing nor empty. -/
def truthyText (s : Option String) : Option String := s.filter fun t => t ≠ ""

/-- `deriveRestaurantOpenChecks`: the open checks with a table and a channel. -/
def deriveRestaurantOpenChecks (events : List PosOfflineEvent) (syncState : SyncStateMap) :
    List DerivedOrder :=
  (deriveOpenOrders events syncState).filter fun o =>
    (truthyText o.tableId).isSome && o.channel.isSome

/-- `deriveRestaurantCheckForTable`: the preferred check, else the latest updated one. -/
def deriveRestaurantCheckForTable (tableId : String) (events : List PosOfflineEvent)
    (syncState : SyncStateMap) (preferredOrderId : Option String) : Option DerivedOrder :=
  let found := ((deriveRestaurantOpenChecks events syncState).filter fun o =>
    o.tableId = some tableId).insertionSort fun a b => b.updatedTs ≤ a.updatedTs
  match truthyText preferredOrderId with
  | some id => found.find? fun o => o.orderId = id
  | none => found.head?

/-- One check of `deriveRestaurantFloorOccupancy`: the latest updated one wins. -/
def occupy (occupancy : OrderedMap String DerivedOrder) (check : DerivedOrder) :
    OrderedMap String DerivedOrder :=
  match truthyText check.tableId with
  | none => occupancy
  | some tableId =>
    match occupancy.get? tableId with
    | some prev => if prev.updatedTs ≤ check.updatedTs then occupancy.set tableId check else occupancy
    | none => occupancy.set tableId check

/-- `deriveRestaurantFloorOccupancy`. -/
def deriveRestaurantFloorOccupancy (events : List PosOfflineEvent) (syncState : SyncStateMap) :
    OrderedMap String DerivedOrder :=
  (deriveRestaurantOpenChecks events syncState).foldl occupy OrderedMap.empty

/-! ## What an operation draws and throws -/

/-- The clock and the generated parts of the ids of one operation. -/
structure OfflineDraws where
  now : ℤ
  eventKeys : ℕ → String
  orderTail : String
  splitTail : String
  lineTails : ℕ → String
  kotTails : ℕ → String

/-- `newOfflineOrderId`. -/
def OfflineDraws.orderId (draws : OfflineDraws) : String := "ofl_ord_" ++ draws.orderTail

/-- `newOfflineLineId`. -/
def OfflineDraws.lineId (draws : OfflineDraws) (n : ℕ) : String := "ofl_line_" ++ draws.lineTails n

/-- `newKotOfflineId`. -/
def OfflineDraws.kotId (draws : OfflineDraws) (n : ℕ) : String := "KOT-OFF-" ++ draws.kotTails n

inductive RestaurantOpError where
  | text (message : String)
  /-- `Cannot move N — only M on the line`. -/
  | cannotMove (moveQty quantity : ℚ)
  deriving DecidableEq

/-! ## Transfer -/

structure TransferTarget where
  tableId : String
  tableCode : String
  tableName : String
  channel : Option RestaurantOrderChannel

/-- `transferRestaurantCheckOffline`. -/
def transferRestaurantCheckOffline (store : JournalStore) (order : DerivedOrder)
    (target : TransferTarget) (draws : OfflineDraws) :
    Except RestaurantOpError (JournalStore × DerivedOrder) := do
  let fromTableId ← orThrow (truthyText order.tableId) (.text "Check has no table")
  let _ ← require (fromTableId ≠ target.tableId) (.text "Check is already on that table")
  let occupancy := deriveRestaurantFloorOccupancy store.journal store.syncState
  let _ ← require ((occupancy.get? target.tableId).isNone = true)
    (.text "Target table must be free")
  let after := appendEvent store (.RESTAURANT_CHECK_TRANSFERRED
    { key := draws.eventKeys 0
      orderId := order.orderId
      offlineId := some order.offlineId
      fromTableId := fromTableId
      toTableId := target.tableId
      toTableCode := some target.tableCode
      toTableName := some target.tableName
      channel := target.channel.or order.channel
      ts := draws.now })
  let next ← orThrow (deriveRestaurantCheckForTable target.tableId after.journal after.syncState
    (some order.orderId)) (.text "Failed to derive check after transfer")
  pure (after, next)

/-! ## Merge -/

/-- `mergeRestaurantChecksOffline`. -/
def mergeRestaurantChecksOffline (store : JournalStore) (primary secondary : DerivedOrder)
    (draws : OfflineDraws) : Except RestaurantOpError (JournalStore × DerivedOrder) := do
  let _ ← require (primary.orderId ≠ secondary.orderId)
    (.text "Cannot merge a check into itself")
  let _ ← require (secondary.lines ≠ []) (.text "Secondary check has no items")
  let tableId ← orThrow (truthyText primary.tableId)
    (.text "Merge only works for tickets on the same table")
  let _ ← require (some tableId = secondary.tableId)
    (.text "Merge only works for tickets on the same table")
  let after := appendEvent store (.RESTAURANT_CHECK_MERGED
    { key := draws.eventKeys 0
      primaryOrderId := primary.orderId
      secondaryOrderId := secondary.orderId
      primaryOfflineId := some primary.offlineId
      secondaryOfflineId := some secondary.offlineId
      primaryTableId := primary.tableId
      secondaryTableId := secondary.tableId
      ts := draws.now })
  let next ← orThrow (deriveRestaurantCheckForTable tableId after.journal after.syncState
    (some primary.orderId)) (.text "Failed to derive check after merge")
  pure (after, next)

/-! ## Split -/

structure SplitInput where
  lineIds : List String
  /-- Without a number the whole line moves. -/
  quantityByLineId : Option (OrderedMap String ℚ)
  targetTableId : String
  targetTableCode : String
  targetTableName : String
  sameTable : Bool
  channel : Option RestaurantOrderChannel

/-- `qtyBy[lineId] ?? line.quantity`. -/
def SplitInput.requested (input : SplitInput) (line : EventLine) : ℚ :=
  (line.truthyLineId.bind (input.quantityByLineId.getD OrderedMap.empty).get?).getD line.quantity

/-- The units of a selected line that move. -/
def SplitInput.moveQty (input : SplitInput) (line : EventLine) : ℚ :=
  min line.quantity (max 0 (input.requested line))

/-- The lines of the source check that are selected. -/
def SplitInput.touching (input : SplitInput) (source : DerivedOrder) : List EventLine :=
  source.lines.filter (EventLine.isAmong input.lineIds)

/-- The moved part of a line; a part of a line gets an id of its own. -/
def SplitInput.movedLine (input : SplitInput) (newLineId : String) (line : EventLine) : EventLine :=
  { line with
    lineId := if line.quantity - 1 / 1000000000 ≤ input.moveQty line then line.lineId
      else some newLineId
    quantity := input.moveQty line
    subtotal := input.moveQty line * line.unitPrice
    discountAmount :=
      match line.discountAmount with
      | some discount =>
          some (if 0 < line.quantity then discount * input.moveQty line / line.quantity
            else discount)
      | none => none }

/-- How far the selected lines are moved. -/
structure SplitProgress where
  movedLines : List EventLine
  remainingUnits : ℚ

/-- One selected line. -/
def moveLine (input : SplitInput) (draws : OfflineDraws) (p : SplitProgress) (line : EventLine) :
    Except RestaurantOpError SplitProgress := do
  let _ ← require (0 < input.moveQty line) (.text "Move quantity must be positive")
  let _ ← require (input.moveQty line ≤ line.quantity + 1 / 1000000000)
    (.cannotMove (input.moveQty line) line.quantity)
  pure
    { movedLines := p.movedLines ++ [input.movedLine (draws.lineId p.movedLines.length) line]
      remainingUnits := p.remainingUnits - input.moveQty line }

/-- The quantities the event names, one for each selected line id. -/
def splitQuantities (input : SplitInput) (lines : List EventLine) : OrderedMap String ℚ :=
  lines.foldl (fun quantities line =>
    quantities.set (line.truthyLineId.getD "") (min line.quantity (input.requested line)))
    OrderedMap.empty

/-- The event of a split. -/
def splitEvent (source : DerivedOrder) (input : SplitInput) (draws : OfflineDraws)
    (sourceTableId : String) (movedLines : List EventLine) : RestaurantCheckSplit :=
  let sameTable := input.sameTable || decide (input.targetTableId = sourceTableId)
  { key := draws.eventKeys 0
    sourceOrderId := source.orderId
    sourceOfflineId := some source.offlineId
    newOrderId := draws.orderId
    newOfflineId := "OFF-R-SPLIT-" ++ draws.splitTail
    lineIds := input.lineIds
    quantityByLineId := some (splitQuantities input (input.touching source))
    movedLines := movedLines
    sourceTableId := sourceTableId
    targetTableId := if sameTable then sourceTableId else input.targetTableId
    targetTableCode := if sameTable then source.tableCode else some input.targetTableCode
    targetTableName := if sameTable then source.tableName else some input.targetTableName
    sameTable := sameTable
    channel := input.channel.or source.channel
    waiterId := source.waiterId
    waiterName := source.waiterName
    guestName := source.guestName
    guestPhone := source.guestPhone
    deliveryAddress := source.deliveryAddress
    pickupLabel := source.pickupLabel
    ts := draws.now }

/-- `splitRestaurantCheckOffline`. -/
def splitRestaurantCheckOffline (store : JournalStore) (source : DerivedOrder) (input : SplitInput)
    (draws : OfflineDraws) :
    Except RestaurantOpError (JournalStore × DerivedOrder × DerivedOrder) := do
  let sourceTableId ← orThrow (truthyText source.tableId) (.text "Source check has no table")
  let _ ← require (input.lineIds ≠ []) (.text "Select at least one line to split")
  let touching := input.touching source
  let _ ← require (touching.length = input.lineIds.length)
    (.text "One or more lines are not on this check")
  let p ← touching.foldlM (moveLine input draws) ⟨[], (source.lines.map (·.quantity)).sum⟩
  let _ ← require (1 / 1000000000 < p.remainingUnits)
    (.text "Cannot split all lines — leave at least one on the source check")
  let sameTable := input.sameTable || decide (input.targetTableId = sourceTableId)
  let occupancy := deriveRestaurantFloorOccupancy store.journal store.syncState
  let _ ← require (sameTable = true ∨ (occupancy.get? input.targetTableId).isNone = true)
    (.text "Target table must be free")
  let event := splitEvent source input draws sourceTableId p.movedLines
  let after := appendEvent store (.RESTAURANT_CHECK_SPLIT event)
  let failed := RestaurantOpError.text "Failed to derive checks after split"
  let nextSource ← orThrow (deriveRestaurantCheckForTable sourceTableId after.journal
    after.syncState (some source.orderId)) failed
  let nextSplit ← orThrow (deriveRestaurantCheckForTable event.targetTableId after.journal
    after.syncState (some draws.orderId)) failed
  pure (after, nextSource, nextSplit)

/-! ## Kitchen ticket -/

/-- A line the kitchen has not seen. -/
def EventLine.isUnsent (line : EventLine) : Bool :=
  line.truthyLineId.isSome && !line.isKitchenSent

/-- The lines of each station, in the order the stations come up. -/
def byStation (stationOf : String → String) (lines : List EventLine) :
    OrderedMap String (List EventLine) :=
  lines.foldl (fun buckets line =>
    let station := stationOf line.productId
    buckets.set station ((buckets.get? station).getD [] ++ [line])) OrderedMap.empty

/-- The line of a ticket. -/
def kotLineOf (line : EventLine) : KotLine where
  lineId := line.truthyLineId.getD ""
  productName := line.productName
  quantity := line.quantity
  lineNotes := some (line.lineNotes.getD none)

/-- The event of one station's ticket. -/
def kotEvent (order : DerivedOrder) (draws : OfflineDraws) (n : ℕ)
    (bucket : String × List EventLine) : RestaurantKotFired where
  key := draws.eventKeys n
  orderId := order.orderId
  kotOfflineId := draws.kotId n
  tableId := order.tableId
  tableCode := order.tableCode
  tableName := order.tableName
  waiterName := order.waiterName
  station := some bucket.1
  orderChannel := order.channel.map fun
    | .DINE_IN => "DINE_IN"
    | .TAKEAWAY => "TAKEAWAY"
    | .DELIVERY => "DELIVERY"
  guestName := order.guestName
  ticketKind := none
  voidReason := none
  lines := bucket.2.map kotLineOf
  ts := draws.now

/-- The line after the tickets of the lines with these ids. -/
def EventLine.sentAt (sentIds : List String) (firedAt : String) (line : EventLine) : EventLine :=
  if line.isAmong sentIds then { line with kitchenSentAt := some (some firedAt) } else line

/-- The update that follows the tickets. -/
def kotUpdate (order : DerivedOrder) (draws : OfflineDraws) (n : ℕ) : OrderUpdated where
  key := draws.eventKeys n
  orderId := order.orderId
  offlineId := some order.offlineId
  lines := order.lines.map (EventLine.sentAt
    ((order.lines.filter EventLine.isUnsent).filterMap EventLine.truthyLineId)
    (isoFromMillis draws.now))
  customerId := none
  notes := none
  ts := draws.now
  channel := order.channel
  tableId := order.tableId
  tableCode := order.tableCode
  tableName := order.tableName
  waiterId := order.waiterId
  waiterName := order.waiterName
  guestName := order.guestName
  guestPhone := order.guestPhone
  deliveryAddress := order.deliveryAddress
  pickupLabel := order.pickupLabel
  voidReason := none

/-- `fireRestaurantKotOffline`: one event for each station, then one update.  `stationOf` is
the station that the cached menu gives a product. -/
def fireRestaurantKotOffline (stationOf : String → String) (store : JournalStore)
    (order : DerivedOrder) (draws : OfflineDraws) : Except RestaurantOpError JournalStore := do
  let unsent := order.lines.filter EventLine.isUnsent
  let _ ← require (unsent ≠ []) (.text "No new lines to send to kitchen")
  let buckets := (byStation stationOf unsent).entries
  let tickets := buckets.zipIdx.map fun b => kotEvent order draws b.2 b.1
  let fired := tickets.foldl (fun s e => appendEvent s (.RESTAURANT_KOT_FIRED e)) store
  pure (appendEvent fired (.ORDER_UPDATED (kotUpdate order draws buckets.length)))

/-! ## Calls -/

inductive RestaurantOp where
  | split (source : DerivedOrder) (input : SplitInput)
  | merge (primary secondary : DerivedOrder)
  | transfer (order : DerivedOrder) (target : TransferTarget)
  | fire (order : DerivedOrder) (stationOf : String → String)

/-- The checks an operation is called with. -/
def RestaurantOp.checks : RestaurantOp → List DerivedOrder
  | .split source _ => [source]
  | .merge primary secondary => [primary, secondary]
  | .transfer order _ => [order]
  | .fire order _ => [order]

def RestaurantOp.run (store : JournalStore) (draws : OfflineDraws) :
    RestaurantOp → Except RestaurantOpError JournalStore
  | .split source input => (splitRestaurantCheckOffline store source input draws).map (·.1)
  | .merge primary secondary =>
    (mergeRestaurantChecksOffline store primary secondary draws).map (·.1)
  | .transfer order target => (transferRestaurantCheckOffline store order target draws).map (·.1)
  | .fire order stationOf => fireRestaurantKotOffline stationOf store order draws

structure RestaurantCall where
  op : RestaurantOp
  draws : OfflineDraws

/-- A successful operation on checks that its caller has just derived from the journal, with
a new order id that the journal does not name. -/
structure RestaurantStep (store : JournalStore) (call : RestaurantCall) (store' : JournalStore) :
    Prop where
  run : call.op.run store call.draws = .ok store'
  derived : ∀ o ∈ call.op.checks, o ∈ deriveRestaurantOpenChecks store.journal store.syncState
  fresh : ∀ e ∈ store.journal, call.draws.orderId ∉ orderIdFields e

end SmartErpPos.Offline
