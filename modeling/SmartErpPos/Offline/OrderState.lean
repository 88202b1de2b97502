/-
  Offline/OrderState.lean --- the single-order projection beside the replay.

  Source: `samplepos.client/src/lib/offlineEventSelectors.ts`, `deriveOrderState`.

  `deriveOrderState` reads four kinds of events of one order in the order of their
  timestamps, and fills in neither the table nor any other restaurant field.  So what
  it shows is the status and the lines of the youngest events that write them, and no
  table; `deriveOpenOrders` shows what the events left behind in the order of the
  journal.  The last section says when an append keeps the two in step.
-/
import SmartErpPos.Lib.LatestWrite
import SmartErpPos.Offline.Selectors

set_option autoImplicit false

namespace SmartErpPos.Offline

open SmartErpPos.Lib

/-! ## The projection of one order -/

/-- The time every event carries. -/
def PosOfflineEvent.ts : PosOfflineEvent → ℤ
  | ORDER_CREATED event => event.ts
  | ORDER_UPDATED event => event.ts
  | ORDER_CANCELLED event => event.ts
  | PAYMENT_ADDED event => event.ts
  | SALE_COMPLETED event => event.ts
  | SALE_VOIDED event => event.ts
  | RESTAURANT_KOT_FIRED event => event.ts
  | RESTAURANT_CHECK_TRANSFERRED event => event.ts
  | RESTAURANT_CHECK_MERGED event => event.ts
  | RESTAURANT_CHECK_SPLIT event => event.ts
  | RESTAURANT_KOT_STATUS event => event.ts

/-- The filter of `deriveOrderState`. -/
def isOrderEvent (orderId : String) : PosOfflineEvent → Bool
  | .ORDER_CREATED event => event.orderId = orderId
  | .ORDER_UPDATED event => event.orderId = orderId
  | .ORDER_CANCELLED event => event.orderId = orderId
  | .SALE_COMPLETED event => event.orderId = orderId
  | _ => false

namespace DerivedOrder

/-- The order as `deriveOrderState` opens it: without the restaurant fields. -/
def stateOfCreated (syncState : SyncStateMap) (event : OrderCreated) : DerivedOrder where
  orderId := event.orderId
  offlineId := event.offlineId
  customerId := event.customerId
  notes := event.notes
  lines := event.lines
  status := .OPEN
  createdTs := event.ts
  updatedTs := event.ts
  syncStatus := statusFromEntry (syncState.get? event.key)
  key := event.key
  channel := none
  tableId := none
  tableCode := none
  tableName := none
  waiterId := none
  waiterName := none
  guestName := none
  guestPhone := none
  deliveryAddress := none
  pickupLabel := none
  kotPrinted := none
  billPrinted := none

/-- An update as `deriveOrderState` applies it. -/
def updateState (event : OrderUpdated) (d : DerivedOrder) : DerivedOrder :=
  { d with
    lines := event.lines
    customerId := event.customerId.or d.customerId
    notes := event.notes.or d.notes
    updatedTs := event.ts }

end DerivedOrder

/-- One pass through the loop of `deriveOrderState`. -/
def applyOrderEvent (syncState : SyncStateMap) (derived : Option DerivedOrder) :
    PosOfflineEvent → Option DerivedOrder
  | .ORDER_CREATED event => some (.stateOfCreated syncState event)
  | .ORDER_UPDATED event => derived.map (.updateState event)
  | .ORDER_CANCELLED event => derived.map (.close .CANCELLED event.ts)
  | .SALE_COMPLETED event => derived.map (.close .COMPLETED event.ts)
  | _ => derived

/-- The state of one order: its events in the order of their times. -/
def deriveOrderState (orderId : String) (events : List PosOfflineEvent)
    (syncState : SyncStateMap) : Option DerivedOrder :=
  (sortByKey PosOfflineEvent.ts (events.filter (isOrderEvent orderId))).foldl
    (applyOrderEvent syncState) none

/-! ## Agreement -/

/-- The items of a check: the product and the quantity of each line. -/
def itemsOf (lines : List EventLine) : List (String × ℚ) :=
  lines.map fun line => (line.productId, line.quantity)

/-- The single-order projection `d` shows the open check `o`. -/
structure Shows (d o : DerivedOrder) : Prop where
  status : d.status = .OPEN
  items : itemsOf d.lines = itemsOf o.lines
  table : d.tableId = o.tableId

/-- Every check that is reported open is open, with its items and its table, in the
projection of its own order. -/
def ProjectionsAgree (syncState : SyncStateMap) (events : List PosOfflineEvent) : Prop :=
  ∀ o ∈ deriveOpenOrders events syncState,
    ∃ d, deriveOrderState o.orderId events syncState = some d ∧ Shows d o

/-! ## The youngest writes -/

/-- The status an event gives its order. -/
def statusWritten : PosOfflineEvent → Option OrderStatus
  | .ORDER_CREATED _ => some .OPEN
  | .ORDER_CANCELLED _ => some .CANCELLED
  | .SALE_COMPLETED _ => some .COMPLETED
  | _ => none

/-- The lines an event gives its order. -/
def linesWritten : PosOfflineEvent → Option (List EventLine)
  | .ORDER_CREATED event => some event.lines
  | .ORDER_UPDATED event => some event.lines
  | _ => none

/-- What the youngest event of the order that writes a value writes. -/
def youngest {A : Type} (written : PosOfflineEvent → Option A) (orderId : String)
    (events : List PosOfflineEvent) : Option A :=
  (latest PosOfflineEvent.ts
    ((events.filter (isOrderEvent orderId)).filter fun e => (written e).isSome)).bind written

/-- By time the order is open, with the items of `lines`. -/
structure YoungestIs (orderId : String) (lines : List EventLine) (events : List PosOfflineEvent) :
    Prop where
  status : youngest statusWritten orderId events = some .OPEN
  items : (youngest linesWritten orderId events).map itemsOf = some (itemsOf lines)

/-- What the loop knows of the events behind it. -/
structure ShowsLast (seen : List PosOfflineEvent) (d : DerivedOrder) : Prop where
  status : (seen.filterMap statusWritten).getLast? = some d.status
  lines : (seen.filterMap linesWritten).getLast? = some d.lines
  table : d.tableId = none

theorem showsLast_applyOrderEvent (syncState : SyncStateMap) {seen : List PosOfflineEvent}
    {derived : Option DerivedOrder} (h : ∀ d, derived = some d → ShowsLast seen d)
    (e : PosOfflineEvent) (d : DerivedOrder) (hd : applyOrderEvent syncState derived e = some d) :
    ShowsLast (seen ++ [e]) d := by
  have hstatus := getLast?_filterMap_concat statusWritten seen e
  have hlines := getLast?_filterMap_concat linesWritten seen e
  cases e with
  | ORDER_CREATED event =>
    cases hd
    exact ⟨hstatus, hlines, rfl⟩
  | ORDER_UPDATED event =>
    obtain ⟨d', hd', rfl⟩ := Option.map_eq_some_iff.mp hd
    have hseen := h d' hd'
    exact ⟨hstatus.trans hseen.status, hlines, hseen.table⟩
  | ORDER_CANCELLED event =>
    obtain ⟨d', hd', rfl⟩ := Option.map_eq_some_iff.mp hd
    have hseen := h d' hd'
    exact ⟨hstatus, hlines.trans hseen.lines, hseen.table⟩
  | SALE_COMPLETED event =>
    obtain ⟨d', hd', rfl⟩ := Option.map_eq_some_iff.mp hd
    have hseen := h d' hd'
    exact ⟨hstatus, hlines.trans hseen.lines, hseen.table⟩
  | _ =>
    have hseen := h d hd
    exact ⟨hstatus.trans hseen.status, hlines.trans hseen.lines, hseen.table⟩

theorem showsLast_foldl (syncState : SyncStateMap) (seen : List PosOfflineEvent) (d : DerivedOrder)
    (hd : seen.foldl (applyOrderEvent syncState) none = some d) : ShowsLast seen d := by
  induction seen using List.reverseRecOn generalizing d with
  | nil => cases hd
  | append_singleton seen e ih =>
    rw [List.foldl_append] at hd
    exact showsLast_applyOrderEvent syncState ih e d hd

/-- Once an order is created the loop has a state. -/
theorem isSome_foldl_of_open (syncState : SyncStateMap) (seen : List PosOfflineEvent)
    (h : ∃ e ∈ seen, statusWritten e = some .OPEN) :
    (seen.foldl (applyOrderEvent syncState) none).isSome = true := by
  induction seen using List.reverseRecOn with
  | nil => simp at h
  | append_singleton seen e ih =>
    rw [List.foldl_append]
    obtain ⟨x, hx, hwritten⟩ := h
    rcases List.mem_append.mp hx with hx | hx
    · have hsome := ih ⟨x, hx, hwritten⟩
      cases e with
      | ORDER_CREATED event => rfl
      | ORDER_UPDATED event => exact (Option.isSome_map ..).trans hsome
      | ORDER_CANCELLED event => exact (Option.isSome_map ..).trans hsome
      | SALE_COMPLETED event => exact (Option.isSome_map ..).trans hsome
      | _ => exact hsome
    · rw [List.mem_singleton.mp hx] at hwritten
      cases e with
      | ORDER_CREATED event => rfl
      | _ => simp [statusWritten] at hwritten

/-- The projection of an order shows an open check exactly when the check has no table and
the youngest writes of the order say so. -/
theorem exists_shows_iff (syncState : SyncStateMap) (orderId : String)
    (events : List PosOfflineEvent) (o : DerivedOrder) :
    (∃ d, deriveOrderState orderId events syncState = some d ∧ Shows d o) ↔
      o.tableId = none ∧ YoungestIs orderId o.lines events := by
  have hstatus := getLast?_filterMap_sortByKey PosOfflineEvent.ts statusWritten
    (events.filter (isOrderEvent orderId))
  have hlines := getLast?_filterMap_sortByKey PosOfflineEvent.ts linesWritten
    (events.filter (isOrderEvent orderId))
  constructor
  · rintro ⟨d, hd, hshows⟩
    have hlast := showsLast_foldl syncState _ d hd
    refine ⟨hshows.table ▸ hlast.table, ⟨?_, ?_⟩⟩
    · rw [youngest, ← hstatus, hlast.status, hshows.status]
    · rw [youngest, ← hlines, hlast.lines, Option.map_some, hshows.items]
  · rintro ⟨htable, hyoungest⟩
    have hopen := hyoungest.status
    rw [youngest, ← hstatus] at hopen
    have hcreated := List.mem_filterMap.mp (List.mem_of_getLast? hopen)
    obtain ⟨d, hd⟩ := Option.isSome_iff_exists.mp (isSome_foldl_of_open syncState _ hcreated)
    have hlast := showsLast_foldl syncState _ d hd
    refine ⟨d, hd, ?_, ?_, ?_⟩
    · exact Option.some.inj (hlast.status.symm.trans hopen)
    · have hitems := hyoungest.items
      rw [youngest, ← hlines, hlast.lines, Option.map_some] at hitems
      exact Option.some.inj hitems
    · rw [hlast.table, htable]

end SmartErpPos.Offline
