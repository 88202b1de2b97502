/-
  Offline/Compaction.lean --- quota reclaim on the offline journal.

  Source: `compactSyncedClosedJournal` in
  `samplepos.client/src/lib/offlineEventJournal.ts`.

  Compaction drops the final (`SYNCED` or `CANCELLED`) events of checks that are
  neither open nor named by an unsynced event.  An event is kept as soon as one
  of its ids is protected, so a merge or a split between a protected check and an
  unprotected one survives while the events it builds on are dropped; such an
  event is called straddling here.  Without straddling events the replay of the
  compacted journal is the replay of the whole one, restricted to the protected
  ids, and nothing the till shows changes.
-/
import SmartErpPos.Lib.Passes
import SmartErpPos.Offline.Selectors

set_option autoImplicit false

namespace SmartErpPos.Offline

open SmartErpPos.Lib

/-! ## Compaction -/

namespace JournalStore

/-- Has the event not reached a final sync status? -/
def isUnsynced (store : JournalStore) (e : PosOfflineEvent) : Bool :=
  isUnsyncedStatus ((store.syncState.get? e.key).map (·.status))

/-- The ids of the open checks. -/
def openIds (store : JournalStore) : List String :=
  (deriveOpenOrders store.journal store.syncState).map (·.orderId)

/-- The ids named by unsynced events. -/
def unsyncedOrderIds (store : JournalStore) : List String :=
  (store.journal.filter store.isUnsynced).flatMap orderIdsOnEvent

/-- Is the check open, or named by an unsynced event? -/
def isProtected (store : JournalStore) (id : String) : Bool :=
  store.openIds.contains id || store.unsyncedOrderIds.contains id

/-- The test compaction filters the journal with. -/
def keeps (store : JournalStore) (e : PosOfflineEvent) : Bool :=
  if store.isUnsynced e then true
  else
    let ids := orderIdsOnEvent e
    if ids.length = 0 then false else ids.any store.isProtected

/-- The part of the journal that stays. -/
def keep (store : JournalStore) : List PosOfflineEvent :=
  store.journal.filter store.keeps

/-- The store after compaction has dropped something. -/
def compacted (store : JournalStore) : JournalStore where
  journal := store.keep
  syncState := store.syncState.restrict fun key => (store.keep.map (·.key)).contains key

end JournalStore

/-- Drop the final history of closed checks; returns the store and the number of
events removed. -/
def compactSyncedClosedJournal (store : JournalStore) : JournalStore × ℕ :=
  if store.journal.length = 0 then (store, 0)
  else
    let dropped := store.journal.length - store.keep.length
    if dropped = 0 then (store, 0)
    else (store.compacted, dropped)

/-- What the till shows of a store. -/
def JournalStore.openOrders (store : JournalStore) : List DerivedOrder :=
  deriveOpenOrders store.journal store.syncState

/-! ## Replay under a restriction -/

/-- The replay seen through the ids satisfying `p`. -/
def Replay.restrict (p : String → Bool) (s : Replay) : Replay where
  orderMap := s.orderMap.restrict p
  completedOrderIds := s.completedOrderIds.filter fun id => p id = true
  cancelledOrderIds := s.cancelledOrderIds.filter fun id => p id = true

variable {p : String → Bool} {e : PosOfflineEvent} {store : JournalStore}

theorem applyMerge_restrict_of_true {event : RestaurantCheckMerged}
    (hprim : p event.primaryOrderId = true) (hsec : p event.secondaryOrderId = true)
    (m : OrderedMap String DerivedOrder) :
    (applyMerge event m).restrict p = applyMerge event (m.restrict p) := by
  unfold applyMerge
  simp only [OrderedMap.get?_restrict hprim, OrderedMap.get?_restrict hsec]
  cases m.get? event.primaryOrderId with
  | none =>
    cases m.get? event.secondaryOrderId with
    | none => rfl
    | some s => exact OrderedMap.restrict_set_of_true hsec m _
  | some q =>
    cases m.get? event.secondaryOrderId with
    | none => rfl
    | some s =>
      simp only [OrderedMap.restrict_set_of_true hsec, OrderedMap.restrict_set_of_true hprim]

theorem applyMerge_restrict_of_false {event : RestaurantCheckMerged}
    (hprim : p event.primaryOrderId = false) (hsec : p event.secondaryOrderId = false)
    (m : OrderedMap String DerivedOrder) : (applyMerge event m).restrict p = m.restrict p := by
  unfold applyMerge
  cases m.get? event.primaryOrderId with
  | none =>
    cases m.get? event.secondaryOrderId with
    | none => rfl
    | some s => exact OrderedMap.restrict_set_of_false hsec m _
  | some q =>
    cases m.get? event.secondaryOrderId with
    | none => rfl
    | some s =>
      simp only [OrderedMap.restrict_set_of_false hsec, OrderedMap.restrict_set_of_false hprim]

theorem applySplit_restrict_of_true {event : RestaurantCheckSplit}
    (hsrc : p event.sourceOrderId = true) (hnew : p event.newOrderId = true)
    (syncState : SyncStateMap) (m : OrderedMap String DerivedOrder) :
    (applySplit syncState event m).restrict p = applySplit syncState event (m.restrict p) := by
  unfold applySplit
  rw [OrderedMap.get?_restrict hsrc]
  cases m.get? event.sourceOrderId with
  | none => rfl
  | some source =>
    simp only [OrderedMap.restrict_set_of_true hnew, OrderedMap.restrict_set_of_true hsrc]

theorem applySplit_restrict_of_false {event : RestaurantCheckSplit}
    (hsrc : p event.sourceOrderId = false) (hnew : p event.newOrderId = false)
    (syncState : SyncStateMap) (m : OrderedMap String DerivedOrder) :
    (applySplit syncState event m).restrict p = m.restrict p := by
  unfold applySplit
  cases m.get? event.sourceOrderId with
  | none => rfl
  | some source =>
    simp only [OrderedMap.restrict_set_of_false hnew, OrderedMap.restrict_set_of_false hsrc]

/-- An event whose order ids are all visible acts on the visible part alone. -/
theorem applyEvent_restrict_of_visible (he : ∀ id ∈ orderIdFields e, p id = true)
    (syncState : SyncStateMap) (s : Replay) :
    (applyEvent syncState s e).restrict p = applyEvent syncState (s.restrict p) e := by
  cases e <;> simp only [orderIdFields, List.forall_mem_cons] at he
  case ORDER_CREATED event =>
    simp only [applyEvent, Replay.restrict, OrderedMap.restrict_set_of_true he.1]
  case ORDER_UPDATED event =>
    simp only [applyEvent, Replay.restrict, OrderedMap.restrict_modify_of_true he.1]
  case ORDER_CANCELLED event =>
    simp only [applyEvent, Replay.restrict, OrderedMap.restrict_modify_of_true he.1,
      Finset.filter_insert, he.1, if_true]
  case SALE_COMPLETED event =>
    simp only [applyEvent, Replay.restrict, OrderedMap.restrict_modify_of_true he.1,
      Finset.filter_insert, he.1, if_true]
  case RESTAURANT_KOT_FIRED event =>
    simp only [applyEvent, Replay.restrict, OrderedMap.restrict_modify_of_true he.1]
  case RESTAURANT_CHECK_TRANSFERRED event =>
    simp only [applyEvent, Replay.restrict, OrderedMap.restrict_modify_of_true he.1]
  case RESTAURANT_CHECK_MERGED event =>
    simp only [applyEvent, Replay.restrict, applyMerge_restrict_of_true he.1 he.2.1,
      Finset.filter_insert, he.2.1, if_true]
  case RESTAURANT_CHECK_SPLIT event =>
    simp only [applyEvent, Replay.restrict, applySplit_restrict_of_true he.1 he.2.1]
  all_goals rfl

/-- An event whose order ids are all hidden does not change the visible part. -/
theorem applyEvent_restrict_of_hidden (he : ∀ id ∈ orderIdFields e, p id = false)
    (syncState : SyncStateMap) (s : Replay) :
    (applyEvent syncState s e).restrict p = s.restrict p := by
  cases e <;> simp only [orderIdFields, List.forall_mem_cons] at he
  case ORDER_CREATED event =>
    simp only [applyEvent, Replay.restrict, OrderedMap.restrict_set_of_false he.1]
  case ORDER_UPDATED event =>
    simp only [applyEvent, Replay.restrict, OrderedMap.restrict_modify_of_false he.1]
  case ORDER_CANCELLED event =>
    simp only [applyEvent, Replay.restrict, OrderedMap.restrict_modify_of_false he.1,
      Finset.filter_insert, he.1, Bool.false_eq_true, if_false]
  case SALE_COMPLETED event =>
    simp only [applyEvent, Replay.restrict, OrderedMap.restrict_modify_of_false he.1,
      Finset.filter_insert, he.1, Bool.false_eq_true, if_false]
  case RESTAURANT_KOT_FIRED event =>
    simp only [applyEvent, Replay.restrict, OrderedMap.restrict_modify_of_false he.1]
  case RESTAURANT_CHECK_TRANSFERRED event =>
    simp only [applyEvent, Replay.restrict, OrderedMap.restrict_modify_of_false he.1]
  case RESTAURANT_CHECK_MERGED event =>
    simp only [applyEvent, Replay.restrict, applyMerge_restrict_of_false he.1 he.2.1,
      Finset.filter_insert, he.2.1, Bool.false_eq_true, if_false]
  case RESTAURANT_CHECK_SPLIT event =>
    simp only [applyEvent, Replay.restrict, applySplit_restrict_of_false he.1 he.2.1]
  all_goals rfl

/-- An event reads the sync state at its own key only. -/
theorem applyEvent_congr_syncState {st st' : SyncStateMap} (he : st.get? e.key = st'.get? e.key)
    (s : Replay) : applyEvent st s e = applyEvent st' s e := by
  cases e with
  | ORDER_CREATED event =>
    simp only [PosOfflineEvent.key] at he
    simp only [applyEvent, DerivedOrder.ofCreated, he]
  | RESTAURANT_CHECK_SPLIT event =>
    simp only [PosOfflineEvent.key] at he
    simp only [applyEvent, applySplit, DerivedOrder.splitNew, he]
  | _ => rfl

/-! ## What survives -/

theorem mem_orderIdsOnEvent {id : String} :
    id ∈ orderIdsOnEvent e ↔ id ∈ orderIdFields e ∧ id ≠ "" := by
  simp [orderIdsOnEvent]

namespace JournalStore

variable {store : JournalStore} {e : PosOfflineEvent}

theorem keeps_eq_true_iff :
    store.keeps e = true ↔
      store.isUnsynced e = true ∨ ∃ id ∈ orderIdsOnEvent e, store.isProtected id = true := by
  unfold keeps
  by_cases h : store.isUnsynced e = true
  · simp [h]
  · cases hids : orderIdsOnEvent e with
    | nil => simp [h]
    | cons id ids => simp [h]

/-- The sync entry of a kept event survives compaction. -/
theorem get?_compacted_syncState (he : e ∈ store.keep) :
    store.compacted.syncState.get? e.key = store.syncState.get? e.key := by
  refine OrderedMap.get?_restrict ?_ store.syncState
  exact List.contains_iff_mem.mpr (List.mem_map_of_mem he)

theorem isUnsynced_compacted (he : e ∈ store.keep) :
    store.compacted.isUnsynced e = store.isUnsynced e := by
  simp only [isUnsynced, get?_compacted_syncState he]

/-- The unsynced events of the compacted journal are those of the whole one, in
the same order. -/
theorem unsynced_compacted (store : JournalStore) :
    store.compacted.journal.filter store.compacted.isUnsynced =
      store.journal.filter store.isUnsynced := by
  have hcongr : store.keep.filter store.compacted.isUnsynced =
      store.keep.filter store.isUnsynced :=
    List.filter_congr fun e he => isUnsynced_compacted he
  show store.keep.filter store.compacted.isUnsynced = _
  rw [hcongr, keep, List.filter_filter]
  refine List.filter_congr fun e _ => ?_
  cases h : store.isUnsynced e with
  | true => simp [keeps_eq_true_iff.mpr (.inl h)]
  | false => simp

/-- Does the event name both a protected check and an unprotected one? -/
def Straddles (store : JournalStore) (e : PosOfflineEvent) : Prop :=
  (∃ id ∈ orderIdFields e, store.isProtected id = true) ∧
    ∃ id ∈ orderIdFields e, store.isProtected id = false

/-- No order id is empty and no event joins a protected check to an unprotected
one. -/
structure Separated (store : JournalStore) : Prop where
  ids_nonempty : ∀ e ∈ store.journal, ∀ id ∈ orderIdFields e, id ≠ ""
  not_straddles : ∀ e ∈ store.journal, ¬ store.Straddles e

/-- In a separated journal a kept event names protected checks only. -/
theorem Separated.protected_of_keeps (hs : store.Separated) (he : e ∈ store.journal)
    (hkeep : store.keeps e = true) : ∀ id ∈ orderIdFields e, store.isProtected id = true := by
  intro id hid
  rcases keeps_eq_true_iff.mp hkeep with hunsynced | ⟨other, hother, hprot⟩
  · have hnamed : id ∈ orderIdsOnEvent e :=
      mem_orderIdsOnEvent.mpr ⟨hid, hs.ids_nonempty e he id hid⟩
    have hmem : id ∈ store.unsyncedOrderIds :=
      List.mem_flatMap.mpr ⟨e, List.mem_filter.mpr ⟨he, hunsynced⟩, hnamed⟩
    simp [isProtected, hmem]
  · by_contra hnot
    exact hs.not_straddles e he
      ⟨⟨other, (mem_orderIdsOnEvent.mp hother).1, hprot⟩, id, hid, by simpa using hnot⟩

/-- In a separated journal a dropped event names unprotected checks only. -/
theorem Separated.unprotected_of_drops (hs : store.Separated) (he : e ∈ store.journal)
    (hdrop : store.keeps e = false) : ∀ id ∈ orderIdFields e, store.isProtected id = false := by
  intro id hid
  by_contra hnot
  have hprot : store.isProtected id = true := by simpa using hnot
  have hnamed : id ∈ orderIdsOnEvent e :=
    mem_orderIdsOnEvent.mpr ⟨hid, hs.ids_nonempty e he id hid⟩
  have hkeep : store.keeps e = true := keeps_eq_true_iff.mpr (.inr ⟨id, hnamed, hprot⟩)
  rw [hdrop] at hkeep
  cases hkeep

end JournalStore

/-! ## What the till sees -/

/-- Replaying the compacted journal gives the protected part of the replay of the
whole one. -/
theorem replay_compacted (hs : store.Separated) :
    replay store.compacted.journal store.compacted.syncState =
      (replay store.journal store.syncState).restrict store.isProtected := by
  have hfilter := project_foldl_filter (applyEvent store.syncState) (applyEvent store.syncState)
    (Replay.restrict store.isProtected) store.keeps store.journal
    (fun s e he hkeep =>
      applyEvent_restrict_of_visible (hs.protected_of_keeps he hkeep) store.syncState s)
    (fun s e he hdrop =>
      applyEvent_restrict_of_hidden (hs.unprotected_of_drops he hdrop) store.syncState s)
    Replay.initial
  have hcongr := foldl_congr_mem (applyEvent store.compacted.syncState)
    (applyEvent store.syncState) store.keep
    (fun s e he =>
      applyEvent_congr_syncState (JournalStore.get?_compacted_syncState he) s)
    Replay.initial
  calc replay store.compacted.journal store.compacted.syncState
      = store.keep.foldl (applyEvent store.syncState) Replay.initial := hcongr
    _ = (replay store.journal store.syncState).restrict store.isProtected := hfilter.symm

/-- When every open check is visible, restricting the replay changes none of
them. -/
theorem openOrders_restrict {s : Replay} (hkeyed : s.Keyed)
    (hvisible : ∀ o ∈ s.orderMap.values.filter s.isOpen, p o.orderId = true) :
    (s.restrict p).orderMap.values.filter (s.restrict p).isOpen =
      s.orderMap.values.filter s.isOpen := by
  simp only [Replay.restrict, OrderedMap.restrict, OrderedMap.values, List.filter_map,
    List.filter_filter]
  congr 1
  refine List.filter_congr fun entry hentry => ?_
  obtain ⟨k, o⟩ := entry
  have hget : s.orderMap.get? k = some o := OrderedMap.get?_eq_some_iff.mpr hentry
  have hk : o.orderId = k := hkeyed k o hget
  subst hk
  simp only [Function.comp_apply, Replay.isOpen, Finset.mem_filter]
  cases hp : p o.orderId with
  | true => simp
  | false =>
    have hclosed : s.isOpen o = false := by
      by_contra hopen
      have hmem : o ∈ s.orderMap.values.filter s.isOpen :=
        List.mem_filter.mpr ⟨OrderedMap.mem_values_iff.mpr ⟨_, hget⟩, by simpa using hopen⟩
      rw [hvisible o hmem] at hp
      cases hp
    simpa [Replay.isOpen] using hclosed

theorem openOrders_compacted (hs : store.Separated) :
    store.compacted.openOrders = store.openOrders := by
  have hkeyed := replay_keyed store.journal store.syncState
  have hvisible : ∀ o ∈ store.openOrders, store.isProtected o.orderId = true := by
    intro o ho
    have hopen : o.orderId ∈ store.openIds := List.mem_map_of_mem ho
    simp [JournalStore.isProtected, hopen]
  have hrestrict := openOrders_restrict hkeyed hvisible
  unfold JournalStore.openOrders deriveOpenOrders
  rw [replay_compacted hs]
  exact hrestrict

/-- Compacting a compacted separated journal keeps every event. -/
theorem keep_compacted (hs : store.Separated) : store.compacted.keep = store.compacted.journal := by
  have hprot : store.compacted.isProtected = store.isProtected := by
    funext id
    have hopen : store.compacted.openIds = store.openIds :=
      congrArg (List.map DerivedOrder.orderId) (openOrders_compacted hs)
    simp only [JournalStore.isProtected, JournalStore.unsyncedOrderIds, hopen,
      JournalStore.unsynced_compacted]
  refine List.filter_eq_self.mpr fun e he => ?_
  have hkept : store.keeps e = true := (List.mem_filter.mp he).2
  rw [JournalStore.keeps_eq_true_iff] at hkept ⊢
  rw [hprot, JournalStore.isUnsynced_compacted he]
  exact hkept

/-! ## The guarantee -/

instance (store : JournalStore) (e : PosOfflineEvent) : Decidable (store.Straddles e) :=
  inferInstanceAs (Decidable (_ ∧ _))

/-- Compaction either leaves the store alone or replaces it by `compacted`. -/
theorem compactSyncedClosedJournal_cases (store : JournalStore) :
    compactSyncedClosedJournal store = (store, 0) ∨
      compactSyncedClosedJournal store =
        (store.compacted, store.journal.length - store.keep.length) := by
  unfold compactSyncedClosedJournal
  split
  · exact .inl rfl
  · dsimp only
    split
    · exact .inl rfl
    · exact .inr rfl

/-- When every event is kept, compaction changes nothing. -/
theorem compactSyncedClosedJournal_of_keep (h : store.keep = store.journal) :
    compactSyncedClosedJournal store = (store, 0) := by
  simp [compactSyncedClosedJournal, h]

/-- Compaction never loses an unsynced event: the unsynced events before and after
are the same list.  In a separated journal it also leaves every open check as it
is, and compacting a second time removes nothing. -/
theorem compactSyncedClosedJournal_faithful (store : JournalStore) :
    (compactSyncedClosedJournal store).1.journal.filter
          (compactSyncedClosedJournal store).1.isUnsynced =
        store.journal.filter store.isUnsynced ∧
      (store.Separated →
        (compactSyncedClosedJournal store).1.openOrders = store.openOrders ∧
          compactSyncedClosedJournal (compactSyncedClosedJournal store).1 =
            ((compactSyncedClosedJournal store).1, 0)) := by
  rcases compactSyncedClosedJournal_cases store with h | h
  · simp only [h, implies_true, and_self]
  · rw [h]
    exact ⟨JournalStore.unsynced_compacted store, fun hs =>
      ⟨openOrders_compacted hs, compactSyncedClosedJournal_of_keep (keep_compacted hs)⟩⟩

/-- A sold and synced check next to an open one. -/
def soldAndOpenStore : JournalStore :=
  let created := appendSyncedEvent JournalStore.initial
    (.ORDER_CREATED (plainOrder "k1" "ord-1" [plainLine "a" 2] 0))
  let sold := markSynced
    (appendEvent created (.SALE_COMPLETED (plainSale "k2" "ord-1" [plainLine "a" 2] 2 1))) "k2"
  appendEvent sold (.ORDER_CREATED (plainOrder "k3" "ord-2" [plainLine "b" 1] 2))

/-- Compacting it removes the two events of the sold check and keeps the open one
as it was. -/
theorem compactSyncedClosedJournal_faithful_soldAndOpen :
    (compactSyncedClosedJournal soldAndOpenStore).2 = 2 ∧
      (compactSyncedClosedJournal soldAndOpenStore).1.openOrders =
        soldAndOpenStore.openOrders := by
  have hs : soldAndOpenStore.Separated := ⟨by decide +kernel, by decide +kernel⟩
  exact ⟨by decide +kernel, ((compactSyncedClosedJournal_faithful soldAndOpenStore).2 hs).1⟩

/-- A check split off a source check that has since been sold, all synced. -/
def splitSoldStore : JournalStore :=
  let created := appendSyncedEvent JournalStore.initial
    (.ORDER_CREATED (plainOrder "k1" "ord-1" [plainLine "a" 2, plainLine "b" 1] 0))
  let split := appendSyncedEvent created (.RESTAURANT_CHECK_SPLIT
    (plainSplit "k2" "ord-1" "ord-2" ["b"] [plainLine "b" 1] 1))
  appendSyncedEvent split (.SALE_COMPLETED (plainSale "k3" "ord-1" [plainLine "a" 2] 2 2))

-- The split straddles the sold source and the open new check: its base is dropped.
example : splitSoldStore.openOrders.map (·.orderId) = ["ord-2"] ∧
    (compactSyncedClosedJournal splitSoldStore).1.openOrders = [] := by decide +kernel

/-- A sale whose only event was cancelled before it reached the server. -/
def cancelledSaleStore : JournalStore :=
  markCancelled
    (appendEvent JournalStore.initial (.SALE_COMPLETED (plainSale "k1" "ord-1" [] 10 0))) "k1"

/-- Compaction drops the cancelled event, which is not `SYNCED`. -/
theorem cancelled_event_is_dropped :
    ¬ ((compactSyncedClosedJournal cancelledSaleStore).1.openOrders =
          cancelledSaleStore.openOrders ∧
        (∀ e ∈ cancelledSaleStore.journal,
          statusFromEntry (cancelledSaleStore.syncState.get? e.key) ≠ .SYNCED →
            e ∈ (compactSyncedClosedJournal cancelledSaleStore).1.journal) ∧
        compactSyncedClosedJournal (compactSyncedClosedJournal cancelledSaleStore).1 =
          ((compactSyncedClosedJournal cancelledSaleStore).1, 0)) := by
  rintro ⟨-, hsurvive, -⟩
  have hdropped : (compactSyncedClosedJournal cancelledSaleStore).1.journal = [] := by
    decide +kernel
  have hmem := hsurvive (.SALE_COMPLETED (plainSale "k1" "ord-1" [] 10 0)) (by decide +kernel)
    (by decide +kernel)
  rw [hdropped] at hmem
  cases hmem

end SmartErpPos.Offline
