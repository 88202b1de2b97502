/-
  Offline/Selectors.lean --- replaying the journal into open checks.

  Source: `samplepos.client/src/lib/offlineEventSelectors.ts`, `deriveOpenOrders`.

  The replay folds the journal in append order over a map from order ids to
  derived orders, and collects two sets of ids on the side: the sold ones and the
  cancelled ones.  `applyEvent` is the body of the loop; the orders it writes are
  built by the `DerivedOrder` functions above it.  Only the cancelled set is
  consulted at the end.
-/
import SmartErpPos.Lib.CivilDate
import SmartErpPos.Offline.Journal
import Mathlib.Data.Finset.Basic
import Mathlib.Algebra.Order.Ring.Rat

set_option autoImplicit false

namespace SmartErpPos.Offline

open SmartErpPos.Lib

/-! ## Derived orders -/

inductive OrderStatus where
  | OPEN
  | CANCELLED
  | COMPLETED
  deriving DecidableEq

/-- An offline order as the journal describes it. -/
structure DerivedOrder where
  orderId : String
  offlineId : String
  customerId : Option String
  notes : Option String
  lines : List EventLine
  status : OrderStatus
  createdTs : ℤ
  updatedTs : ℤ
  /-- Sync status of the event that created the order. -/
  syncStatus : SyncStatus
  /-- Key of the event that created the order. -/
  key : String
  channel : Option RestaurantOrderChannel
  tableId : Option String
  tableCode : Option String
  tableName : Option String
  waiterId : Option String
  waiterName : Option String
  guestName : Option (Option String)
  guestPhone : Option (Option String)
  deliveryAddress : Option (Option String)
  pickupLabel : Option (Option String)
  kotPrinted : Option Bool
  billPrinted : Option Bool
  deriving DecidableEq

namespace DerivedOrder

/-- The order an `ORDER_CREATED` event opens. -/
def ofCreated (syncState : SyncStateMap) (event : OrderCreated) : DerivedOrder where
  orderId := event.orderId
  offlineId := event.offlineId
  customerId := event.customerId
  notes := event.notes
  lines := event.lines
  status := .OPEN
  createdTs := event.ts
  updatedTs := event.ts
  syncStatus := statusFromEntry (syncState.get? event.key)
  key := event.key
  channel := event.channel
  tableId := event.tableId
  tableCode := event.tableCode
  tableName := event.tableName
  waiterId := event.waiterId
  waiterName := event.waiterName
  guestName := event.guestName
  guestPhone := event.guestPhone
  deliveryAddress := event.deliveryAddress
  pickupLabel := event.pickupLabel
  kotPrinted := some false
  billPrinted := some false

/-- An update replaces the lines and keeps every header field it leaves out. -/
def update (event : OrderUpdated) (existing : DerivedOrder) : DerivedOrder :=
  { existing with
    lines := event.lines
    customerId := event.customerId.or existing.customerId
    notes := event.notes.or existing.notes
    updatedTs := event.ts
    channel := event.channel.or existing.channel
    tableId := event.tableId.or existing.tableId
    tableCode := event.tableCode.or existing.tableCode
    tableName := event.tableName.or existing.tableName
    waiterId := event.waiterId.or existing.waiterId
    waiterName := event.waiterName.or existing.waiterName
    guestName := event.guestName.or existing.guestName
    guestPhone := event.guestPhone.or existing.guestPhone
    deliveryAddress := event.deliveryAddress.or existing.deliveryAddress
    pickupLabel := event.pickupLabel.or existing.pickupLabel }

end DerivedOrder

/-- A line's id when it is a usable one: neither missing nor empty. -/
def EventLine.truthyLineId (line : EventLine) : Option String :=
  line.lineId.filter (fun id => id ≠ "")

/-- Is the line's id one of `ids`? -/
def EventLine.isAmong (ids : List String) (line : EventLine) : Bool :=
  match line.truthyLineId with
  | some id => ids.contains id
  | none => false

/-- The kitchen timestamp after a ticket fired at `firedAt`: the first one stays. -/
def kitchenSentAtAfter (sent : Option (Option String)) (firedAt : String) : String :=
  match sent with
  | some (some at_) => if at_ = "" then firedAt else at_
  | _ => firedAt

namespace DerivedOrder

/-- A fired kitchen ticket stamps the lines it lists. -/
def fireKot (event : RestaurantKotFired) (existing : DerivedOrder) : DerivedOrder :=
  let sentIds := event.lines.map (·.lineId)
  let firedAt := isoFromMillis event.ts
  { existing with
    kotPrinted := some true
    updatedTs := event.ts
    lines := existing.lines.map fun line =>
      if line.isAmong sentIds then
        { line with kitchenSentAt := some (some (kitchenSentAtAfter line.kitchenSentAt firedAt)) }
      else line }

def transfer (event : RestaurantCheckTransferred) (existing : DerivedOrder) : DerivedOrder :=
  { existing with
    tableId := some event.toTableId
    tableCode := event.toTableCode.or existing.tableCode
    tableName := event.toTableName.or existing.tableName
    channel := event.channel.or existing.channel
    updatedTs := event.ts }

/-- The primary check after the secondary one joined it. -/
def absorb (event : RestaurantCheckMerged) (primary secondary : DerivedOrder) : DerivedOrder :=
  { primary with
    lines := primary.lines ++ secondary.lines
    updatedTs := event.ts }

/-- Close the order with a final status. -/
def close (status : OrderStatus) (ts : ℤ) (existing : DerivedOrder) : DerivedOrder :=
  { existing with status := status, updatedTs := ts }

end DerivedOrder

/-! ## Splitting a check -/

/-- The units of `line` that leave with the split: all of them unless the event
gives a number. -/
def splitMoveQty (event : RestaurantCheckSplit) (line : EventLine) : ℚ :=
  let qtyBy := event.quantityByLineId.getD OrderedMap.empty
  ((line.truthyLineId.bind qtyBy.get?).getD line.quantity)

/-- What stays of one line of the source check. -/
def splitRemainingLine (event : RestaurantCheckSplit) (line : EventLine) : Option EventLine :=
  if line.isAmong event.lineIds then
    let moveQty := splitMoveQty event line
    if line.quantity - 1 / 1000000000 ≤ moveQty then none
    else
      let left := line.quantity - moveQty
      some { line with
        quantity := left
        subtotal := left * line.unitPrice
        discountAmount :=
          match line.discountAmount with
          | some discount =>
              some (if 0 < line.quantity then discount * left / line.quantity else discount)
          | none => none }
  else some line

/-- The lines of the source check after the split. -/
def splitRemaining (event : RestaurantCheckSplit) (lines : List EventLine) : List EventLine :=
  lines.filterMap (splitRemainingLine event)

/-- The lines of the new check: those the event carries, or, when it carries
none, the selected source lines with the moved quantity. -/
def splitMoved (event : RestaurantCheckSplit) (lines : List EventLine) : List EventLine :=
  if event.movedLines.isEmpty then
    (lines.filter (EventLine.isAmong event.lineIds)).map fun line =>
      let moveQty := splitMoveQty event line
      { line with quantity := moveQty, subtotal := moveQty * line.unitPrice }
  else event.movedLines

/-- Has a kitchen ticket carried the line? -/
def EventLine.isKitchenSent (line : EventLine) : Bool :=
  match line.kitchenSentAt with
  | some (some at_) => at_ ≠ ""
  | _ => false

namespace DerivedOrder

/-- The source check after the split. -/
def splitSource (event : RestaurantCheckSplit) (source : DerivedOrder) : DerivedOrder :=
  { source with
    lines := splitRemaining event source.lines
    updatedTs := event.ts }

/-- The check the split opens. -/
def splitNew (syncState : SyncStateMap) (event : RestaurantCheckSplit) (source : DerivedOrder) :
    DerivedOrder where
  orderId := event.newOrderId
  offlineId := event.newOfflineId
  customerId := none
  notes := none
  lines := splitMoved event source.lines
  status := .OPEN
  createdTs := event.ts
  updatedTs := event.ts
  syncStatus := statusFromEntry (syncState.get? event.key)
  key := event.key
  channel := event.channel.or source.channel
  tableId := some event.targetTableId
  tableCode := event.targetTableCode.or source.tableCode
  tableName := event.targetTableName.or source.tableName
  waiterId := event.waiterId.or source.waiterId
  waiterName := event.waiterName.or source.waiterName
  guestName := event.guestName.or source.guestName
  guestPhone := event.guestPhone.or source.guestPhone
  deliveryAddress := event.deliveryAddress.or source.deliveryAddress
  pickupLabel := event.pickupLabel.or source.pickupLabel
  kotPrinted := some ((splitMoved event source.lines).any EventLine.isKitchenSent)
  billPrinted := some false

end DerivedOrder

/-! ## The replay -/

/-- The state of the loop of `deriveOpenOrders`. -/
structure Replay where
  orderMap : OrderedMap String DerivedOrder
  completedOrderIds : Finset String
  cancelledOrderIds : Finset String

/-- Nothing replayed yet. -/
def Replay.initial : Replay := ⟨OrderedMap.empty, ∅, ∅⟩

/-- The merge branch: the primary takes the lines when both checks are there, and
the secondary is cancelled in any case. -/
def applyMerge (event : RestaurantCheckMerged) (orderMap : OrderedMap String DerivedOrder) :
    OrderedMap String DerivedOrder :=
  let primary := orderMap.get? event.primaryOrderId
  let secondary := orderMap.get? event.secondaryOrderId
  let merged := match primary, secondary with
    | some p, some s => orderMap.set event.primaryOrderId (p.absorb event s)
    | _, _ => orderMap
  match secondary with
  | some s => merged.set event.secondaryOrderId (s.close .CANCELLED event.ts)
  | none => merged

/-- The split branch: nothing happens without the source check. -/
def applySplit (syncState : SyncStateMap) (event : RestaurantCheckSplit)
    (orderMap : OrderedMap String DerivedOrder) : OrderedMap String DerivedOrder :=
  match orderMap.get? event.sourceOrderId with
  | none => orderMap
  | some source =>
      (orderMap.set event.sourceOrderId (source.splitSource event)).set event.newOrderId
        (source.splitNew syncState event)

/-- One pass through the loop of `deriveOpenOrders`. -/
def applyEvent (syncState : SyncStateMap) (s : Replay) : PosOfflineEvent → Replay
  | .ORDER_CREATED event =>
      { s with orderMap := s.orderMap.set event.orderId (.ofCreated syncState event) }
  | .ORDER_UPDATED event =>
      { s with orderMap := s.orderMap.modify event.orderId (.update event) }
  | .RESTAURANT_KOT_FIRED event =>
      { s with orderMap := s.orderMap.modify event.orderId (.fireKot event) }
  | .RESTAURANT_CHECK_TRANSFERRED event =>
      { s with orderMap := s.orderMap.modify event.orderId (.transfer event) }
  | .RESTAURANT_CHECK_MERGED event =>
      { s with
        orderMap := applyMerge event s.orderMap
        cancelledOrderIds := insert event.secondaryOrderId s.cancelledOrderIds }
  | .RESTAURANT_CHECK_SPLIT event =>
      { s with orderMap := applySplit syncState event s.orderMap }
  | .ORDER_CANCELLED event =>
      { s with
        orderMap := s.orderMap.modify event.orderId (.close .CANCELLED event.ts)
        cancelledOrderIds := insert event.orderId s.cancelledOrderIds }
  | .SALE_COMPLETED event =>
      { s with
        orderMap := s.orderMap.modify event.orderId (.close .COMPLETED event.ts)
        completedOrderIds := insert event.orderId s.completedOrderIds }
  | .PAYMENT_ADDED _ => s
  | .SALE_VOIDED _ => s
  | .RESTAURANT_KOT_STATUS _ => s

/-- The journal replayed from the start. -/
def replay (events : List PosOfflineEvent) (syncState : SyncStateMap) : Replay :=
  events.foldl (applyEvent syncState) Replay.initial

/-- The filter at the end of `deriveOpenOrders`.  The set of completed ids plays
no part in it. -/
def Replay.isOpen (s : Replay) (o : DerivedOrder) : Bool :=
  o.status = .OPEN ∧ o.orderId ∉ s.cancelledOrderIds

/-- The open checks of a journal, in the order their ids first appeared. -/
def deriveOpenOrders (events : List PosOfflineEvent) (syncState : SyncStateMap) :
    List DerivedOrder :=
  let s := replay events syncState
  s.orderMap.values.filter s.isOpen

/-! ## What the replay keeps -/

/-- Every order in the map is filed under its own id. -/
def Replay.Keyed (s : Replay) : Prop :=
  ∀ id o, s.orderMap.get? id = some o → o.orderId = id

theorem replay_append (events rest : List PosOfflineEvent) (syncState : SyncStateMap) :
    replay (events ++ rest) syncState = rest.foldl (applyEvent syncState) (replay events syncState) :=
  List.foldl_append

theorem replay_concat (events : List PosOfflineEvent) (e : PosOfflineEvent)
    (syncState : SyncStateMap) :
    replay (events ++ [e]) syncState = applyEvent syncState (replay events syncState) e :=
  replay_append events [e] syncState

theorem Replay.Keyed.initial : Replay.initial.Keyed := by
  intro id o h
  simp [Replay.initial] at h

/-- Filing an order under its own id keeps the map keyed. -/
theorem keyed_set {m : OrderedMap String DerivedOrder}
    (hm : ∀ id o, m.get? id = some o → o.orderId = id) {id : String} {o : DerivedOrder}
    (ho : o.orderId = id) :
    ∀ id' o', (m.set id o).get? id' = some o' → o'.orderId = id' := by
  intro id' o' h
  rw [OrderedMap.get?_set] at h
  split at h
  · rename_i heq
    cases h
    rw [ho, heq]
  · exact hm id' o' h

/-- Rewriting an order without changing its id keeps the map keyed. -/
theorem keyed_modify {m : OrderedMap String DerivedOrder}
    (hm : ∀ id o, m.get? id = some o → o.orderId = id) (id : String)
    {f : DerivedOrder → DerivedOrder} (hf : ∀ o, (f o).orderId = o.orderId) :
    ∀ id' o', (m.modify id f).get? id' = some o' → o'.orderId = id' := by
  intro id' o' h
  rw [OrderedMap.get?_modify] at h
  split at h
  · obtain ⟨o, ho, rfl⟩ := Option.map_eq_some_iff.mp h
    rw [hf o]
    exact hm id' o ho
  · exact hm id' o' h

theorem keyed_applyMerge {m : OrderedMap String DerivedOrder}
    (hm : ∀ id o, m.get? id = some o → o.orderId = id) (event : RestaurantCheckMerged) :
    ∀ id o, (applyMerge event m).get? id = some o → o.orderId = id := by
  unfold applyMerge
  cases hs : m.get? event.secondaryOrderId with
  | none => cases m.get? event.primaryOrderId <;> exact hm
  | some s =>
    have hsid : (s.close .CANCELLED event.ts).orderId = event.secondaryOrderId := hm _ s hs
    cases hp : m.get? event.primaryOrderId with
    | none => exact keyed_set hm hsid
    | some p =>
      have hpid : (p.absorb event s).orderId = event.primaryOrderId := hm _ p hp
      exact keyed_set (keyed_set hm hpid) hsid

theorem keyed_applySplit {m : OrderedMap String DerivedOrder}
    (hm : ∀ id o, m.get? id = some o → o.orderId = id) (syncState : SyncStateMap)
    (event : RestaurantCheckSplit) :
    ∀ id o, (applySplit syncState event m).get? id = some o → o.orderId = id := by
  unfold applySplit
  cases hs : m.get? event.sourceOrderId with
  | none => exact hm
  | some source =>
    have hsid : (source.splitSource event).orderId = event.sourceOrderId := hm _ source hs
    exact keyed_set (keyed_set hm hsid) rfl

theorem Replay.Keyed.applyEvent {s : Replay} (hs : s.Keyed) (syncState : SyncStateMap)
    (e : PosOfflineEvent) : (applyEvent syncState s e).Keyed := by
  cases e with
  | ORDER_CREATED event => exact keyed_set hs rfl
  | ORDER_UPDATED event => exact keyed_modify hs event.orderId (fun _ => rfl)
  | ORDER_CANCELLED event => exact keyed_modify hs event.orderId (fun _ => rfl)
  | PAYMENT_ADDED event => exact hs
  | SALE_COMPLETED event => exact keyed_modify hs event.orderId (fun _ => rfl)
  | SALE_VOIDED event => exact hs
  | RESTAURANT_KOT_FIRED event => exact keyed_modify hs event.orderId (fun _ => rfl)
  | RESTAURANT_CHECK_TRANSFERRED event => exact keyed_modify hs event.orderId (fun _ => rfl)
  | RESTAURANT_CHECK_MERGED event => exact keyed_applyMerge hs event
  | RESTAURANT_CHECK_SPLIT event => exact keyed_applySplit hs syncState event
  | RESTAURANT_KOT_STATUS event => exact hs

theorem replay_keyed (events : List PosOfflineEvent) (syncState : SyncStateMap) :
    (replay events syncState).Keyed := by
  induction events using List.reverseRecOn with
  | nil => exact Replay.Keyed.initial
  | append_singleton events e ih =>
    rw [replay_concat]
    exact ih.applyEvent syncState e

/-- A check is reported exactly when its entry is `OPEN` and its id was never
cancelled. -/
theorem mem_deriveOpenOrders_iff {events : List PosOfflineEvent} {syncState : SyncStateMap}
    {id : String} :
    id ∈ (deriveOpenOrders events syncState).map (·.orderId) ↔
      ((replay events syncState).orderMap.get? id).map (·.status) = some .OPEN ∧
        id ∉ (replay events syncState).cancelledOrderIds := by
  have hkeyed := replay_keyed events syncState
  simp only [deriveOpenOrders, List.mem_map, List.mem_filter, OrderedMap.mem_values_iff,
    Replay.isOpen, decide_eq_true_eq, Option.map_eq_some_iff]
  constructor
  · rintro ⟨o, ⟨⟨k, hk⟩, hopen, hlive⟩, rfl⟩
    have hko : o.orderId = k := hkeyed k o hk
    exact ⟨⟨o, hko ▸ hk, hopen⟩, hlive⟩
  · rintro ⟨⟨o, ho, hopen⟩, hlive⟩
    have hko : o.orderId = id := hkeyed id o ho
    exact ⟨o, ⟨⟨id, ho⟩, hopen, hko ▸ hlive⟩, hko⟩

end SmartErpPos.Offline
