/-
  Offline/QuantityConservation.lean --- what moving lines does to the totals.

  The total of a product over the open checks is a sum over the replayed orders, so
  every event changes it by what it changes on one or two of them.  A transfer and a
  kitchen ticket change nothing, a merge hands the lines over, and a split divides
  every selected line.  A remainder of at most 1e-9 counts as nothing: the source
  check drops it.
-/
import Mathlib.Tactic.Ring
import Mathlib.Tactic.FieldSimp
import SmartErpPos.Lib.KeyedSum
import SmartErpPos.Lib.Transition
import SmartErpPos.Offline.ClosedChecks
import SmartErpPos.Offline.Compaction
import SmartErpPos.Offline.RestaurantOps

set_option autoImplicit false

namespace SmartErpPos.Offline

open SmartErpPos.Lib

/-! ## Measures -/

/-- What is added up over the open checks. -/
inductive Measured where
  | quantity (productId : String)
  | discount

def EventLine.measure (line : EventLine) : Measured → ℚ
  | .quantity productId => if line.productId = productId then line.quantity else 0
  | .discount => line.discountAmount.getD 0

def lineTotal (m : Measured) (lines : List EventLine) : ℚ := (lines.map (·.measure m)).sum

/-- The total over all open checks. -/
def JournalStore.openTotal (store : JournalStore) (m : Measured) : ℚ :=
  ((deriveOpenOrders store.journal store.syncState).map fun o => lineTotal m o.lines).sum

/-- What an order adds to the total. -/
def DerivedOrder.openValue (m : Measured) (o : DerivedOrder) : ℚ :=
  if o.status = .OPEN then lineTotal m o.lines else 0

/-- The same total, read off the replay. -/
def Replay.openTotal (m : Measured) (s : Replay) : ℚ :=
  s.orderMap.sumWhere (fun id => id ∉ s.cancelledOrderIds) (DerivedOrder.openValue m)

@[simp] theorem lineTotal_nil (m : Measured) : lineTotal m [] = 0 := rfl

@[simp] theorem lineTotal_append (m : Measured) (a b : List EventLine) :
    lineTotal m (a ++ b) = lineTotal m a + lineTotal m b := by
  simp [lineTotal]

variable {m : Measured} {s : Replay} {events : List PosOfflineEvent} {syncState : SyncStateMap}
  {id : String} {event : RestaurantCheckSplit} {input : SplitInput} {line : EventLine}
  {draws : OfflineDraws} {store store' : JournalStore} {order : DerivedOrder}

/-- A kitchen time is not measured. -/
theorem lineTotal_map {f : EventLine → EventLine} (hf : ∀ line, (f line).measure m = line.measure m)
    (lines : List EventLine) : lineTotal m (lines.map f) = lineTotal m lines := by
  simp [lineTotal, Function.comp_def, hf]

/-- Orders filed under their ids: the open ones add up to the values of the live ones. -/
theorem sum_isOpen (m : Measured) {es : List (String × DerivedOrder)}
    (hes : ∀ e ∈ es, e.2.orderId = e.1) :
    (((es.map Prod.snd).filter s.isOpen).map fun o => lineTotal m o.lines).sum =
      ((es.filter fun e => decide (e.1 ∉ s.cancelledOrderIds)).map fun e => e.2.openValue m).sum := by
  induction es with
  | nil => rfl
  | cons e rest ih =>
    obtain ⟨hid, hrest⟩ := List.forall_mem_cons.mp hes
    have ih := ih hrest
    simp only [List.map_cons, List.filter_cons, Replay.isOpen, hid] at ih ⊢
    by_cases hopen : e.2.status = .OPEN
    · by_cases hlive : e.1 ∈ s.cancelledOrderIds
      · simpa [hopen, hlive] using ih
      · simpa [hopen, hlive, DerivedOrder.openValue] using ih
    · by_cases hlive : e.1 ∈ s.cancelledOrderIds
      · simpa [hopen, hlive] using ih
      · simpa [hopen, hlive, DerivedOrder.openValue] using ih

theorem openTotal_eq (store : JournalStore) (m : Measured) :
    store.openTotal m = (replay store.journal store.syncState).openTotal m := by
  have hkeyed := replay_keyed store.journal store.syncState
  exact sum_isOpen m fun e he => hkeyed e.1 e.2 (OrderedMap.get?_eq_some_iff.mpr he)

/-! ## What an event does to the total -/

/-- The check is there, open, and never cancelled. -/
structure Replay.Open (s : Replay) (o : DerivedOrder) : Prop where
  get : s.orderMap.get? o.orderId = some o
  status : o.status = .OPEN
  live : o.orderId ∉ s.cancelledOrderIds

theorem Replay.Open.valueAt {o : DerivedOrder} (h : s.Open o) (m : Measured) :
    s.orderMap.valueAt (DerivedOrder.openValue m) o.orderId = lineTotal m o.lines := by
  rw [OrderedMap.valueAt_of_get? h.get, DerivedOrder.openValue, if_pos h.status]

theorem open_of_mem_openChecks {o : DerivedOrder}
    (h : o ∈ deriveRestaurantOpenChecks events syncState) : (replay events syncState).Open o := by
  have hopen := (List.mem_filter.mp h).1
  unfold deriveOpenOrders at hopen
  obtain ⟨hmem, hstatus⟩ := List.mem_filter.mp hopen
  simp only [Replay.isOpen, decide_eq_true_eq] at hstatus
  obtain ⟨k, hk⟩ := OrderedMap.mem_values_iff.mp hmem
  have hid := replay_keyed events syncState k o hk
  exact ⟨hid ▸ hk, hstatus.1, hstatus.2⟩

/-- Rewriting an order without changing its value. -/
theorem openTotal_modify {f : DerivedOrder → DerivedOrder}
    (hf : ∀ o, s.orderMap.get? id = some o → (f o).openValue m = o.openValue m) :
    ({ s with orderMap := s.orderMap.modify id f } : Replay).openTotal m = s.openTotal m := by
  unfold Replay.openTotal
  cases hget : s.orderMap.get? id with
  | none => simp [OrderedMap.modify, hget]
  | some o =>
    rw [OrderedMap.modify_eq_set hget]
    show OrderedMap.sumWhere _ _ (s.orderMap.set id (f o)) = _
    rw [OrderedMap.sumWhere_set, OrderedMap.valueAt_of_get? hget, hf o hget, sub_self, ite_self,
      add_zero]

/-- A kitchen ticket keeps the lines but for their times. -/
theorem measure_fireKot (m : Measured) (event : RestaurantKotFired) (o : DerivedOrder) :
    lineTotal m (o.fireKot event).lines = lineTotal m o.lines := by
  refine lineTotal_map (fun line => ?_) o.lines
  cases m <;> split <;> rfl

theorem openTotal_fireKot (syncState : SyncStateMap) (s : Replay) (event : RestaurantKotFired)
    (m : Measured) :
    (applyEvent syncState s (.RESTAURANT_KOT_FIRED event)).openTotal m = s.openTotal m := by
  refine openTotal_modify fun o _ => ?_
  unfold DerivedOrder.openValue
  rw [measure_fireKot]
  rfl

theorem openTotal_transfer (syncState : SyncStateMap) (s : Replay)
    (event : RestaurantCheckTransferred) (m : Measured) :
    (applyEvent syncState s (.RESTAURANT_CHECK_TRANSFERRED event)).openTotal m = s.openTotal m :=
  openTotal_modify fun _ _ => rfl

/-- A merge of two open checks hands the lines of the second over. -/
theorem openTotal_merge {event : RestaurantCheckMerged} {primary secondary : DerivedOrder}
    (hp : s.Open primary) (hs : s.Open secondary) (hpid : event.primaryOrderId = primary.orderId)
    (hsid : event.secondaryOrderId = secondary.orderId) (hne : primary.orderId ≠ secondary.orderId)
    (m : Measured) :
    (applyEvent syncState s (.RESTAURANT_CHECK_MERGED event)).openTotal m = s.openTotal m := by
  have hmap : applyMerge event s.orderMap =
      (s.orderMap.set primary.orderId (primary.absorb event secondary)).set secondary.orderId
        (secondary.close .CANCELLED event.ts) := by
    unfold applyMerge
    simp only [hpid, hsid, hp.get, hs.get]
  have hclosed : (secondary.close .CANCELLED event.ts).openValue m = 0 := rfl
  have habsorb : (primary.absorb event secondary).openValue m =
      lineTotal m primary.lines + lineTotal m secondary.lines := by
    unfold DerivedOrder.openValue
    rw [if_pos (show (primary.absorb event secondary).status = .OPEN from hp.status)]
    exact lineTotal_append m primary.lines secondary.lines
  simp only [applyEvent, Replay.openTotal, hmap, hsid]
  -- the cancelled check counts as nothing, so the larger set of cancelled ids does not matter
  rw [OrderedMap.sumWhere_congr_of_zero (q := fun id => decide (id ∉ s.cancelledOrderIds))]
  · rw [OrderedMap.sumWhere_set, OrderedMap.sumWhere_set, OrderedMap.valueAt_set, if_neg hne.symm,
      hs.valueAt, hp.valueAt, hclosed, habsorb]
    simp only [hp.live, hs.live, not_false_eq_true, decide_true, if_true]
    ring
  · rintro ⟨id, o⟩ he
    rcases eq_or_ne id secondary.orderId with rfl | hid
    · have hget := OrderedMap.get?_eq_some_iff.mpr he
      rw [OrderedMap.get?_set_self] at hget
      cases hget
      exact .inr hclosed
    · refine .inl ?_
      simp [hid]

/-- A split of an open check: the lines that stay and the lines that move replace the lines
of the source. -/
theorem openTotal_split {source : DerivedOrder} (hs : s.Open source)
    (hsid : event.sourceOrderId = source.orderId) (hnew : s.orderMap.get? event.newOrderId = none)
    (hlive : event.newOrderId ∉ s.cancelledOrderIds) (m : Measured) :
    (applyEvent syncState s (.RESTAURANT_CHECK_SPLIT event)).openTotal m =
      s.openTotal m - lineTotal m source.lines + lineTotal m (splitRemaining event source.lines) +
        lineTotal m (splitMoved event source.lines) := by
  have hmap : applySplit syncState event s.orderMap =
      (s.orderMap.set source.orderId (source.splitSource event)).set event.newOrderId
        (source.splitNew syncState event) := by
    unfold applySplit
    simp only [hsid, hs.get]
  have hne : event.newOrderId ≠ source.orderId := by
    intro heq
    rw [heq, hs.get] at hnew
    cases hnew
  have hstays : (source.splitSource event).openValue m =
      lineTotal m (splitRemaining event source.lines) := by
    unfold DerivedOrder.openValue
    rw [if_pos (show (source.splitSource event).status = .OPEN from hs.status)]
    rfl
  have hmoves : (source.splitNew syncState event).openValue m =
      lineTotal m (splitMoved event source.lines) := rfl
  simp only [applyEvent, Replay.openTotal, hmap]
  rw [OrderedMap.sumWhere_set, OrderedMap.sumWhere_set, OrderedMap.valueAt_set, if_neg hne,
    OrderedMap.valueAt_of_get?_none hnew, hs.valueAt, hstays, hmoves]
  simp only [hs.live, hlive, not_false_eq_true, decide_true, if_true]
  ring

/-! ## Appending -/

/-- A replay reads the sync state at the keys of its events only. -/
theorem replay_congr_syncState {st st' : SyncStateMap}
    (h : ∀ e ∈ events, st.get? e.key = st'.get? e.key) : replay events st = replay events st' :=
  List.foldl_ext _ _ _ fun s e he => applyEvent_congr_syncState (h e he) s

/-- An appended event is replayed last; one whose key is there already changes nothing. -/
theorem replay_appendEvent (store : JournalStore) (e : PosOfflineEvent) :
    appendEvent store e = store ∨
      replay (appendEvent store e).journal (appendEvent store e).syncState =
        applyEvent (appendEvent store e).syncState (replay store.journal store.syncState) e := by
  unfold appendEvent
  split
  · exact .inl rfl
  · rename_i hfree
    refine .inr ?_
    have hkeys : ∀ x ∈ store.journal, x.key ≠ e.key := by
      simpa using hfree
    dsimp only
    split
    · rw [replay_concat]
    · show replay (store.journal ++ [e]) (store.syncState.set e.key ⟨.PENDING, none⟩) = _
      rw [replay_concat]
      congr 1
      refine replay_congr_syncState fun x hx => ?_
      rw [OrderedMap.get?_set_of_ne (hkeys x hx)]

/-! ## The lines of a split -/

/-- What a split loses of a selected line: a remainder of at most 1e-9 is not kept. -/
def SplitInput.dropped (input : SplitInput) (m : Measured) (line : EventLine) : ℚ :=
  if line.quantity - 1 / 1000000000 ≤ input.moveQty line then
    line.measure m * (line.quantity - input.moveQty line) / line.quantity
  else 0

theorem measure_movedLine (hmoves : 0 < input.moveQty line) (newLineId : String) (m : Measured) :
    (input.movedLine newLineId line).measure m =
      line.measure m * input.moveQty line / line.quantity := by
  have hq : 0 < line.quantity := lt_of_lt_of_le hmoves (min_le_left _ _)
  cases m with
  | quantity productId =>
    show (if line.productId = productId then input.moveQty line else 0) =
      (if line.productId = productId then line.quantity else 0) * input.moveQty line / line.quantity
    split
    · field_simp
    · simp
  | discount =>
    unfold EventLine.measure SplitInput.movedLine
    cases line.discountAmount with
    | none => simp
    | some discount => simp [hq]

/-- What stays of a selected line. -/
theorem measure_splitRemainingLine (hmoves : 0 < input.moveQty line)
    (hamong : line.isAmong event.lineIds = true)
    (hqty : splitMoveQty event line = input.moveQty line) (m : Measured) :
    lineTotal m (splitRemainingLine event line).toList =
      if line.quantity - 1 / 1000000000 ≤ input.moveQty line then 0
      else line.measure m * (line.quantity - input.moveQty line) / line.quantity := by
  have hq : 0 < line.quantity := lt_of_lt_of_le hmoves (min_le_left _ _)
  unfold splitRemainingLine
  rw [if_pos hamong, hqty]
  dsimp only
  by_cases hdust : line.quantity - 1 / 1000000000 ≤ input.moveQty line
  · rw [if_pos hdust, if_pos hdust]
    rfl
  · rw [if_neg hdust, if_neg hdust]
    cases m with
    | quantity productId =>
      by_cases hproduct : line.productId = productId
      · simp only [lineTotal, EventLine.measure, Option.toList_some, List.map_cons, List.map_nil,
          List.sum_cons, List.sum_nil, if_pos hproduct, add_zero]
        field_simp
      · simp [lineTotal, EventLine.measure, hproduct]
    | discount =>
      cases hdiscount : line.discountAmount with
      | none => simp [lineTotal, EventLine.measure, hdiscount]
      | some discount => simp [lineTotal, EventLine.measure, hdiscount, hq]

/-- A line is what moves, what stays and what is dropped. -/
theorem measure_split (hmoves : 0 < input.moveQty line) (hamong : line.isAmong event.lineIds = true)
    (hqty : splitMoveQty event line = input.moveQty line) (m : Measured) :
    line.measure m = line.measure m * input.moveQty line / line.quantity +
      lineTotal m (splitRemainingLine event line).toList + input.dropped m line := by
  have hq : 0 < line.quantity := lt_of_lt_of_le hmoves (min_le_left _ _)
  rw [measure_splitRemainingLine hmoves hamong hqty]
  unfold SplitInput.dropped
  split
  · field_simp
    ring
  · field_simp
    ring

/-- The loop over the selected lines. -/
theorem moveLines_ok {lines : List EventLine} {p p' : SplitProgress}
    (h : lines.foldlM (moveLine input draws) p = .ok p') :
    (∀ line ∈ lines, 0 < input.moveQty line) ∧
      p'.movedLines.length = p.movedLines.length + lines.length ∧
      ∀ m, lineTotal m p'.movedLines = lineTotal m p.movedLines +
        (lines.map fun line => line.measure m * input.moveQty line / line.quantity).sum := by
  induction lines generalizing p with
  | nil =>
    rw [List.foldlM_nil, pure_eq_ok] at h
    subst h
    exact ⟨by simp, rfl, by simp⟩
  | cons line rest ih =>
    rw [List.foldlM_cons, bind_eq_ok] at h
    obtain ⟨q, hq, hrest⟩ := h
    unfold moveLine at hq
    simp only [bind_eq_ok, require_eq_ok, pure_eq_ok] at hq
    obtain ⟨-, hmoves, -, -, rfl⟩ := hq
    obtain ⟨hall, hlength, htotal⟩ := ih hrest
    refine ⟨List.forall_mem_cons.mpr ⟨hmoves, hall⟩, ?_, fun m => ?_⟩
    · rw [hlength, List.length_append, List.length_cons, List.length_cons, List.length_nil]
      omega
    · rw [htotal, lineTotal_append, List.map_cons, List.sum_cons]
      have hmeasure := measure_movedLine hmoves (draws.lineId p.movedLines.length) m
      simp only [lineTotal, List.map_cons, List.map_nil, List.sum_cons, List.sum_nil, hmeasure]
      ring

/-- With one line for each selected id, the event names the quantity that moves. -/
theorem splitMoveQty_splitEvent {source : DerivedOrder} {tableId : String} {moved : List EventLine}
    (honce : ((input.touching source).map EventLine.truthyLineId).Nodup)
    (hline : line ∈ input.touching source) (hmoves : 0 < input.moveQty line) :
    splitMoveQty (splitEvent source input draws tableId moved) line = input.moveQty line := by
  have hids : ∀ l ∈ input.touching source, ∃ id, l.truthyLineId = some id := by
    intro l hl
    have hamong := (List.mem_filter.mp hl).2
    unfold EventLine.isAmong at hamong
    cases hid : l.truthyLineId with
    | none => simp [hid] at hamong
    | some id => exact ⟨id, rfl⟩
  have hkeys : ((input.touching source).map fun l => l.truthyLineId.getD "").Nodup := by
    rw [List.nodup_map_iff_inj_on (List.Nodup.of_map _ honce)]
    intro a ha b hb hab
    refine List.inj_on_of_nodup_map honce ha hb ?_
    obtain ⟨ida, hida⟩ := hids a ha
    obtain ⟨idb, hidb⟩ := hids b hb
    rw [hida, hidb] at hab ⊢
    exact congrArg some hab
  obtain ⟨id, hid⟩ := hids line hline
  have hget : (splitQuantities input (input.touching source)).get? (line.truthyLineId.getD "") =
      some (min line.quantity (input.requested line)) :=
    OrderedMap.get?_foldl_set hkeys OrderedMap.empty hline
  unfold splitMoveQty
  simp only [splitEvent, Option.getD_some, hid, Option.bind_some] at hget ⊢
  rw [hget, Option.getD_some]
  have hrequested : 0 < max 0 (input.requested line) := lt_of_lt_of_le hmoves (min_le_right _ _)
  have hpos : 0 < input.requested line := by
    rcases lt_max_iff.mp hrequested with h | h
    · exact absurd h (lt_irrefl _)
    · exact h
  rw [SplitInput.moveQty, max_eq_right hpos.le]

/-- All lines of a split source: what stays, what moves and what is dropped. -/
theorem lineTotal_split {lines : List EventLine} (hids : event.lineIds = input.lineIds)
    (hmoves : ∀ line ∈ lines.filter (EventLine.isAmong input.lineIds), 0 < input.moveQty line)
    (hqty : ∀ line ∈ lines.filter (EventLine.isAmong input.lineIds),
      splitMoveQty event line = input.moveQty line) (m : Measured) :
    lineTotal m lines = lineTotal m (splitRemaining event lines) +
      (((lines.filter (EventLine.isAmong input.lineIds)).map fun line =>
        line.measure m * input.moveQty line / line.quantity).sum +
      ((lines.filter (EventLine.isAmong input.lineIds)).map (input.dropped m)).sum) := by
  induction lines with
  | nil => simp [splitRemaining]
  | cons line rest ih =>
    have hstays : lineTotal m (splitRemaining event (line :: rest)) =
        lineTotal m (splitRemainingLine event line).toList +
          lineTotal m (splitRemaining event rest) := by
      unfold splitRemaining
      cases hl : splitRemainingLine event line with
      | none => simp [hl]
      | some l => simp [hl, lineTotal]
    have htotal : lineTotal m (line :: rest) = line.measure m + lineTotal m rest := by
      simp [lineTotal]
    rw [hstays, htotal]
    cases hamong : line.isAmong input.lineIds with
    | true =>
      simp only [List.filter_cons, hamong, if_true, List.forall_mem_cons] at hmoves hqty
      rw [ih hmoves.2 hqty.2,
        measure_split hmoves.1 (by rw [hids]; exact hamong) hqty.1 m]
      simp only [List.filter_cons, hamong, if_true, List.map_cons, List.sum_cons]
      ring
    | false =>
      simp only [List.filter_cons, hamong, Bool.false_eq_true, if_false] at hmoves hqty ⊢
      have hkept : splitRemainingLine event line = some line := by
        unfold splitRemainingLine
        rw [hids, hamong]
        rfl
      rw [ih hmoves hqty, hkept]
      simp only [lineTotal, Option.toList_some, List.map_cons, List.map_nil, List.sum_cons,
        List.sum_nil]
      ring

/-! ## The operations -/

/-- Every selected line has an id of its own. -/
def RestaurantOp.SelectsOnce : RestaurantOp → Prop
  | .split source input => ((input.touching source).map EventLine.truthyLineId).Nodup
  | _ => True

instance : DecidablePred RestaurantOp.SelectsOnce
  | .split source input =>
    inferInstanceAs (Decidable ((input.touching source).map EventLine.truthyLineId).Nodup)
  | .merge _ _ => isTrue trivial
  | .transfer _ _ => isTrue trivial
  | .fire _ _ => isTrue trivial

/-- What an operation loses: the remainders a split drops. -/
def RestaurantOp.dropped (m : Measured) : RestaurantOp → ℚ
  | .split source input => ((input.touching source).map (input.dropped m)).sum
  | _ => 0

/-- The lines an operation selects. -/
def RestaurantOp.selected : RestaurantOp → List EventLine
  | .split source input => input.touching source
  | _ => []

/-- An id that no event names has no order. -/
theorem notMem_knownOrders (hfresh : ∀ e ∈ events, id ∉ orderIdFields e) :
    id ∉ knownOrders events := by
  induction events using List.reverseRecOn with
  | nil => simp [knownOrders]
  | append_singleton events e ih =>
    have hnot := ih fun x hx => hfresh x (List.mem_append_left _ hx)
    have hlast := hfresh e (by simp)
    rw [knownOrders_concat]
    cases e with
    | ORDER_CREATED event =>
      simp only [orderIdFields, List.mem_singleton] at hlast
      simp [knownOrdersStep, hlast, hnot]
    | RESTAURANT_CHECK_SPLIT event =>
      simp only [orderIdFields, List.mem_cons, not_or] at hlast
      unfold knownOrdersStep
      dsimp only
      split
      · simp [hlast.2.1, hnot]
      · exact hnot
    | _ => exact hnot

/-- The new id of a split is not in use. -/
theorem fresh_order (hfresh : ∀ e ∈ events, id ∉ orderIdFields e) :
    (replay events syncState).orderMap.get? id = none ∧
      id ∉ (replay events syncState).cancelledOrderIds := by
  constructor
  · have hnone := mt (isSome_get?_replay_iff events syncState id).mp (notMem_knownOrders hfresh)
    simpa using hnone
  · rw [mem_cancelledOrderIds_iff]
    rintro ⟨e, he, hcancels⟩
    refine hfresh e he ?_
    cases e with
    | ORDER_CANCELLED event => simpa [cancels, orderIdFields, eq_comm] using hcancels
    | RESTAURANT_CHECK_MERGED event =>
      simp only [cancels, decide_eq_true_eq] at hcancels
      simp [orderIdFields, hcancels]
    | _ => cases hcancels

/-- An appended event that keeps the total of the replay keeps the total of the store. -/
theorem openTotal_appendEvent {e : PosOfflineEvent}
    (h : ∀ syncState, (applyEvent syncState (replay store.journal store.syncState) e).openTotal m =
      (replay store.journal store.syncState).openTotal m) :
    (appendEvent store e).openTotal m = store.openTotal m := by
  rcases replay_appendEvent store e with hsame | happend
  · rw [hsame]
  · rw [openTotal_eq, openTotal_eq, happend, h]

theorem merge_conserves {primary secondary next : DerivedOrder}
    (hp : (replay store.journal store.syncState).Open primary)
    (hs : (replay store.journal store.syncState).Open secondary)
    (h : mergeRestaurantChecksOffline store primary secondary draws = .ok (store', next))
    (m : Measured) : store'.openTotal m = store.openTotal m := by
  unfold mergeRestaurantChecksOffline at h
  simp only [bind_eq_ok, require_eq_ok, orThrow_eq_ok, pure_eq_ok, Prod.mk.injEq] at h
  obtain ⟨-, hne, -, -, tableId, -, -, -, next', -, rfl, rfl⟩ := h
  exact openTotal_appendEvent fun _ => openTotal_merge hp hs rfl rfl hne m

theorem transfer_conserves {next : DerivedOrder} {target : TransferTarget}
    (h : transferRestaurantCheckOffline store order target draws = .ok (store', next))
    (m : Measured) : store'.openTotal m = store.openTotal m := by
  unfold transferRestaurantCheckOffline at h
  simp only [bind_eq_ok, require_eq_ok, orThrow_eq_ok, pure_eq_ok, Prod.mk.injEq] at h
  obtain ⟨tableId, -, -, -, -, -, next', -, rfl, rfl⟩ := h
  exact openTotal_appendEvent fun _ => openTotal_transfer _ _ _ m

/-- A check during the tickets of a kitchen run: still open, its lines measured as before. -/
def StillOpen (store : JournalStore) (order : DerivedOrder) (m : Measured) : Prop :=
  ∃ o, (replay store.journal store.syncState).Open o ∧ o.orderId = order.orderId ∧
    lineTotal m o.lines = lineTotal m order.lines

/-- One ticket keeps the check and the total. -/
theorem stillOpen_appendKot (hopen : StillOpen store order m) (event : RestaurantKotFired) :
    StillOpen (appendEvent store (.RESTAURANT_KOT_FIRED event)) order m ∧
      (appendEvent store (.RESTAURANT_KOT_FIRED event)).openTotal m = store.openTotal m := by
  refine ⟨?_, openTotal_appendEvent fun _ => openTotal_fireKot _ _ event m⟩
  rcases replay_appendEvent store (.RESTAURANT_KOT_FIRED event) with hsame | happend
  · rw [hsame]
    exact hopen
  · obtain ⟨o, ho, hid, htotal⟩ := hopen
    unfold StillOpen
    rw [happend]
    by_cases hfired : o.orderId = event.orderId
    · refine ⟨o.fireKot event, ⟨?_, ho.status, ho.live⟩, hid, ?_⟩
      · show (OrderedMap.modify _ event.orderId _).get? o.orderId = _
        rw [hfired, OrderedMap.get?_modify_self, ← hfired, ho.get]
        rfl
      · rw [measure_fireKot, htotal]
    · refine ⟨o, ⟨?_, ho.status, ho.live⟩, hid, htotal⟩
      show (OrderedMap.modify _ event.orderId _).get? o.orderId = _
      rw [OrderedMap.get?_modify_of_ne hfired, ho.get]

/-- All tickets of a kitchen run. -/
theorem stillOpen_appendKots (events : List RestaurantKotFired) (hopen : StillOpen store order m) :
    StillOpen (events.foldl (fun s e => appendEvent s (.RESTAURANT_KOT_FIRED e)) store) order m ∧
      (events.foldl (fun s e => appendEvent s (.RESTAURANT_KOT_FIRED e)) store).openTotal m =
        store.openTotal m := by
  induction events generalizing store with
  | nil => exact ⟨hopen, rfl⟩
  | cons event rest ih =>
    obtain ⟨hnext, htotal⟩ := stillOpen_appendKot hopen event
    obtain ⟨hlast, hrest⟩ := ih hnext
    exact ⟨hlast, hrest.trans htotal⟩

theorem fire_conserves {stationOf : String → String}
    (ho : (replay store.journal store.syncState).Open order)
    (h : fireRestaurantKotOffline stationOf store order draws = .ok store') (m : Measured) :
    store'.openTotal m = store.openTotal m := by
  unfold fireRestaurantKotOffline at h
  simp only [bind_eq_ok, require_eq_ok, pure_eq_ok] at h
  obtain ⟨-, -, rfl⟩ := h
  obtain ⟨⟨o, hopen, hid, htotal⟩, hsame⟩ := stillOpen_appendKots
    ((byStation stationOf (order.lines.filter EventLine.isUnsent)).entries.zipIdx.map fun b =>
      kotEvent order draws b.2 b.1) (m := m) ⟨order, ho, rfl, rfl⟩
  rw [← hsame]
  refine openTotal_appendEvent fun syncState => openTotal_modify fun x hx => ?_
  have hx : _ = some x := hx
  rw [show (kotUpdate order draws _).orderId = o.orderId from hid.symm, hopen.get] at hx
  cases hx
  unfold DerivedOrder.openValue
  rw [if_pos hopen.status, if_pos (show (DerivedOrder.update _ o).status = .OPEN from hopen.status),
    htotal]
  refine lineTotal_map (fun line => ?_) order.lines
  unfold EventLine.sentAt
  cases m <;> split <;> rfl

theorem orderId_ne_empty (draws : OfflineDraws) : draws.orderId ≠ "" := by
  intro h
  have hlist := congrArg String.toList h
  simp [OfflineDraws.orderId] at hlist

/-- The check that is asked for by its id. -/
theorem mem_of_deriveCheckForTable {tableId : String} {o : DerivedOrder} (hid : id ≠ "")
    (h : deriveRestaurantCheckForTable tableId events syncState (some id) = some o) :
    o ∈ deriveRestaurantOpenChecks events syncState ∧ o.orderId = id := by
  unfold deriveRestaurantCheckForTable at h
  have htruthy : truthyText (some id) = some id := by simp [truthyText, hid]
  simp only [htruthy] at h
  have hmem := List.mem_of_find?_eq_some h
  have hfound := List.find?_some h
  have hfilter := (List.perm_insertionSort _ _).mem_iff.mp hmem
  exact ⟨(List.mem_filter.mp hfilter).1, by simpa using hfound⟩

theorem split_conserves {source nextSource nextSplit : DerivedOrder}
    (hs : (replay store.journal store.syncState).Open source)
    (honce : ((input.touching source).map EventLine.truthyLineId).Nodup)
    (hfresh : ∀ e ∈ store.journal, draws.orderId ∉ orderIdFields e)
    (h : splitRestaurantCheckOffline store source input draws = .ok (store', nextSource, nextSplit))
    (m : Measured) : store.openTotal m =
      store'.openTotal m + ((input.touching source).map (input.dropped m)).sum := by
  unfold splitRestaurantCheckOffline at h
  simp only [bind_eq_ok, require_eq_ok, orThrow_eq_ok, pure_eq_ok, Prod.mk.injEq] at h
  obtain ⟨tableId, -, -, hids, -, hlength, p, hloop, -, -, -, -, a, -, b, hb, rfl, rfl, rfl⟩ := h
  obtain ⟨hmoves, hmoved, htotal⟩ := moveLines_ok hloop
  obtain ⟨hnew, hlive⟩ : (replay store.journal store.syncState).orderMap.get? draws.orderId = none ∧
      draws.orderId ∉ (replay store.journal store.syncState).cancelledOrderIds :=
    fresh_order hfresh
  rcases replay_appendEvent store
    (.RESTAURANT_CHECK_SPLIT (splitEvent source input draws tableId p.movedLines)) with
    hsame | happend
  · -- without the event there is no new check, and the call has failed
    rw [hsame] at hb
    obtain ⟨hmem, hid⟩ := mem_of_deriveCheckForTable (orderId_ne_empty draws) hb
    have hget := (open_of_mem_openChecks hmem).get
    rw [hid, hnew] at hget
    cases hget
  · have hqty : ∀ line ∈ source.lines.filter (EventLine.isAmong input.lineIds),
        splitMoveQty (splitEvent source input draws tableId p.movedLines) line =
          input.moveQty line := fun line hline =>
      splitMoveQty_splitEvent honce hline (hmoves line hline)
    have hids' : (splitEvent source input draws tableId p.movedLines).lineIds = input.lineIds := rfl
    have hlines := lineTotal_split hids' hmoves hqty m
    have hcarried : splitMoved (splitEvent source input draws tableId p.movedLines) source.lines =
        p.movedLines := by
      have hne : p.movedLines ≠ [] := by
        intro hnil
        rw [hnil] at hmoved
        have hzero : input.lineIds.length = 0 := by
          rw [← hlength]
          simpa using hmoved.symm
        exact hids (List.length_eq_zero_iff.mp hzero)
      exact if_neg (by simpa [splitEvent] using hne)
    have hsplit : (applyEvent (appendEvent store (.RESTAURANT_CHECK_SPLIT
        (splitEvent source input draws tableId p.movedLines))).syncState
        (replay store.journal store.syncState) (.RESTAURANT_CHECK_SPLIT
        (splitEvent source input draws tableId p.movedLines))).openTotal m = _ :=
      openTotal_split hs rfl hnew hlive m
    have htotal := htotal m
    rw [lineTotal_nil, zero_add] at htotal
    unfold SplitInput.touching at *
    rw [openTotal_eq, openTotal_eq, happend, hsplit, hcarried, htotal, hlines]
    ring

/-- One operation: the totals differ by what a split drops. -/
theorem restaurantStep_conserves {call : RestaurantCall} (h : RestaurantStep store call store')
    (honce : call.op.SelectsOnce) (m : Measured) :
    store.openTotal m = store'.openTotal m + call.op.dropped m := by
  obtain ⟨hrun, hderived, hfresh⟩ := h
  have hopen : ∀ o ∈ call.op.checks, (replay store.journal store.syncState).Open o :=
    fun o ho => open_of_mem_openChecks (hderived o ho)
  obtain ⟨op, draws⟩ := call
  cases op with
  | split source input =>
    obtain ⟨r, hr, rfl⟩ := map_eq_ok hrun
    exact split_conserves (hopen source (by simp [RestaurantOp.checks])) honce hfresh hr m
  | merge primary secondary =>
    obtain ⟨r, hr, rfl⟩ := map_eq_ok hrun
    rw [merge_conserves (hopen primary (by simp [RestaurantOp.checks]))
      (hopen secondary (by simp [RestaurantOp.checks])) hr m]
    exact (add_zero _).symm
  | transfer order target =>
    obtain ⟨r, hr, rfl⟩ := map_eq_ok hrun
    rw [transfer_conserves hr m]
    exact (add_zero _).symm
  | fire order stationOf =>
    rw [fire_conserves (hopen order (by simp [RestaurantOp.checks])) hrun m]
    exact (add_zero _).symm

/-- What one selected line loses of its quantity. -/
theorem dropped_quantity_bounds (input : SplitInput) (line : EventLine) (productId : String) :
    0 ≤ input.dropped (.quantity productId) line ∧
      input.dropped (.quantity productId) line ≤ 1 / 1000000000 := by
  have hle : input.moveQty line ≤ line.quantity := min_le_left _ _
  unfold SplitInput.dropped
  dsimp only [EventLine.measure]
  by_cases hdust : line.quantity - 1 / 1000000000 ≤ input.moveQty line
  · by_cases hproduct : line.productId = productId
    · rw [if_pos hdust, if_pos hproduct]
      by_cases hzero : line.quantity = 0
      · rw [hzero]
        norm_num
      · rw [mul_div_assoc, mul_div_cancel₀ _ hzero]
        exact ⟨sub_nonneg.mpr hle, by linarith⟩
    · rw [if_pos hdust, if_neg hproduct]
      norm_num
  · rw [if_neg hdust]
    norm_num

/-- The loss of an operation is at most 1e-9 for each selected line. -/
theorem RestaurantOp.dropped_bounds (op : RestaurantOp) (productId : String) :
    0 ≤ op.dropped (.quantity productId) ∧
      op.dropped (.quantity productId) ≤ op.selected.length * (1 / 1000000000) := by
  cases op with
  | split source input =>
    refine ⟨List.sum_nonneg fun x hx => ?_, ?_⟩
    · obtain ⟨line, -, rfl⟩ := List.mem_map.mp hx
      exact (dropped_quantity_bounds input line productId).1
    · have hbound := List.sum_le_card_nsmul
        ((input.touching source).map (input.dropped (.quantity productId))) (1 / 1000000000)
        fun x hx => by
          obtain ⟨line, -, rfl⟩ := List.mem_map.mp hx
          exact (dropped_quantity_bounds input line productId).2
      rw [nsmul_eq_mul, List.length_map] at hbound
      exact hbound
  | _ => simp [RestaurantOp.dropped, RestaurantOp.selected]

/-- Along every run of operations, each one keeps the total of every product and of the
discounts but for the remainders of at most 1e-9 that a split drops. -/
theorem quantities_conserved {store store' : JournalStore}
    {ts : List (JournalStore × RestaurantCall × JournalStore)}
    (h : Run RestaurantStep store ts store') :
    ∀ t ∈ ts, t.2.1.op.SelectsOnce →
      (∀ m, t.1.openTotal m = t.2.2.openTotal m + t.2.1.op.dropped m) ∧
        ∀ productId, 0 ≤ t.2.1.op.dropped (.quantity productId) ∧
          t.2.1.op.dropped (.quantity productId) ≤
            t.2.1.op.selected.length * (1 / 1000000000) :=
  fun _ ht honce => ⟨restaurantStep_conserves (h.step_of_mem ht) honce,
    RestaurantOp.dropped_bounds _⟩

/-! ## A table for two -/

/-- The clock and the ids of the `n`th operation. -/
def drawsAt (n : ℕ) : OfflineDraws where
  now := 1000 + n
  eventKeys k := "ofl_op" ++ toString n ++ "_" ++ toString k
  orderTail := "o" ++ toString n
  splitTail := "s" ++ toString n
  lineTails k := "l" ++ toString n ++ "_" ++ toString k
  kotTails k := "k" ++ toString n ++ "_" ++ toString k

/-- A dine-in check at table `t1`. -/
def tableOrder (lines : List EventLine) : OrderCreated :=
  { plainOrder "ofl_new" "ord-1" lines 1 with channel := some .DINE_IN, tableId := some "t1" }

def tableStore (lines : List EventLine) : JournalStore :=
  appendEvent JournalStore.initial (.ORDER_CREATED (tableOrder lines))

/-- Move lines of the check to a second check at its table. -/
def splitCall (lines : List EventLine) (lineIds : List String)
    (quantityByLineId : Option (OrderedMap String ℚ)) : RestaurantCall where
  op := .split (DerivedOrder.ofCreated (tableStore lines).syncState (tableOrder lines))
    { lineIds := lineIds
      quantityByLineId := quantityByLineId
      targetTableId := "t1"
      targetTableCode := "T1"
      targetTableName := "Table 1"
      sameTable := true
      channel := none }
  draws := drawsAt 1

/-- The journal after a call; the same one when the call fails. -/
def RestaurantCall.after (call : RestaurantCall) (store : JournalStore) : JournalStore :=
  ((call.op.run store call.draws).toOption).getD store

theorem RestaurantCall.step_after (call : RestaurantCall) (store : JournalStore)
    (hok : (call.op.run store call.draws).toOption.isSome = true)
    (hderived : ∀ o ∈ call.op.checks,
      o ∈ deriveRestaurantOpenChecks store.journal store.syncState)
    (hfresh : ∀ e ∈ store.journal, call.draws.orderId ∉ orderIdFields e) :
    RestaurantStep store call (call.after store) := by
  refine ⟨?_, hderived, hfresh⟩
  unfold RestaurantCall.after
  cases hrun : call.op.run store call.draws with
  | ok s => rfl
  | error e => simp [hrun, Except.toOption] at hok

/-- One of two pieces moves to a second check; both checks together hold two. -/
theorem one_of_two_moves :
    ((splitCall [plainLine "a" 2] ["a"] (some (OrderedMap.empty.set "a" 1))).after
      (tableStore [plainLine "a" 2])).openTotal (.quantity "p-a") = 2 := by
  have hstep := RestaurantCall.step_after
    (splitCall [plainLine "a" 2] ["a"] (some (OrderedMap.empty.set "a" 1)))
    (tableStore [plainLine "a" 2])
    (by decide +kernel) (by decide +kernel) (by decide +kernel)
  have htotal := (quantities_conserved (Run.cons hstep (Run.nil _)) _ (List.mem_singleton.mpr rfl)
    (show RestaurantOp.SelectsOnce _ by decide +kernel)).1 (.quantity "p-a")
  have hbefore : (tableStore [plainLine "a" 2]).openTotal (.quantity "p-a") = 2 := by
    decide +kernel
  have hdropped : (splitCall [plainLine "a" 2] ["a"]
      (some (OrderedMap.empty.set "a" 1))).op.dropped (.quantity "p-a") = 0 := by
    decide +kernel
  rw [hbefore, hdropped, add_zero] at htotal
  exact htotal.symm

/-- Two pieces of one product, and one of another. -/
def crumbLines : List EventLine := [plainLine "a" 2, plainLine "b" 1]

/-- All but half of 1e-9 of the first line moves. -/
def crumbCall : RestaurantCall :=
  splitCall crumbLines ["a"] (some (OrderedMap.empty.set "a" (2 - 1 / 2000000000)))

/-- Two lines under one id. -/
def sharedIdLines : List EventLine := [plainLine "a" 5, plainLine "a" 2, plainLine "b" 1]

/-- Both lines are selected, by naming their id twice. -/
def sharedIdCall : RestaurantCall := splitCall sharedIdLines ["a", "a"] none

/-- A split loses a remainder of half of 1e-9; and where two selected lines share an id, the
event carries both lines but takes the quantity of the last one off each of them. -/
theorem split_changes_totals :
    (RestaurantStep (tableStore crumbLines) crumbCall (crumbCall.after (tableStore crumbLines)) ∧
      (tableStore crumbLines).openTotal (.quantity "p-a") = 2 ∧
      (crumbCall.after (tableStore crumbLines)).openTotal (.quantity "p-a") =
        2 - 1 / 2000000000) ∧
    RestaurantStep (tableStore sharedIdLines) sharedIdCall
        (sharedIdCall.after (tableStore sharedIdLines)) ∧
      (tableStore sharedIdLines).openTotal (.quantity "p-a") = 7 ∧
      (sharedIdCall.after (tableStore sharedIdLines)).openTotal (.quantity "p-a") = 10 :=
  ⟨⟨RestaurantCall.step_after _ _ (by decide +kernel) (by decide +kernel) (by decide +kernel),
      by decide +kernel, by decide +kernel⟩,
    RestaurantCall.step_after _ _ (by decide +kernel) (by decide +kernel) (by decide +kernel),
    by decide +kernel, by decide +kernel⟩

end SmartErpPos.Offline
