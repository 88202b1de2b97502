/-
  Offline/ProjectionAgreement.lean --- when the two order projections stay in step.

  Source: `samplepos.client/src/lib/offlineEventSelectors.ts`, `deriveOpenOrders` and
  `deriveOrderState`.

  The journal is append-only, so its prefixes are the journals the till had before.
  An append keeps the projections in step when it changes neither more nor other items
  than the youngest write of the order shows, and gives no open order a table:
  `KeepsInStep` says so for each kind of event.
-/
import SmartErpPos.Lib.Grouping
import SmartErpPos.Offline.OrderState

set_option autoImplicit false

namespace SmartErpPos.Offline

open SmartErpPos.Lib

/-! ## What an append must do -/

/-- The check reported open under `id`, if there is one. -/
def Replay.openCheck (s : Replay) (id : String) : Option DerivedOrder :=
  if id ∈ s.cancelledOrderIds then none
  else (s.orderMap.get? id).filter fun o => o.status = .OPEN

/-- The split takes no units off the lines. -/
def NothingMoves (event : RestaurantCheckSplit) (lines : List EventLine) : Prop :=
  ∀ line ∈ lines, line.isAmong event.lineIds = true →
    splitMoveQty event line = 0 ∧ 1 / 1000000000 < line.quantity

/-- The append of an event to a journal on which the projections agree keeps them so. -/
def KeepsInStep (syncState : SyncStateMap) (events : List PosOfflineEvent)
    (e : PosOfflineEvent) : Prop :=
  let s := replay events syncState
  match e with
  | .ORDER_CREATED event =>
    event.orderId ∈ s.cancelledOrderIds ∨
      (event.tableId = none ∧ YoungestIs event.orderId event.lines (events ++ [e]))
  | .ORDER_UPDATED event =>
    s.openCheck event.orderId = none ∨
      (event.tableId = none ∧ YoungestIs event.orderId event.lines (events ++ [e]))
  | .RESTAURANT_CHECK_TRANSFERRED event => s.openCheck event.orderId = none
  | .RESTAURANT_CHECK_MERGED event =>
    s.openCheck event.primaryOrderId = none ∨ event.primaryOrderId = event.secondaryOrderId ∨
      ∀ secondary, s.orderMap.get? event.secondaryOrderId = some secondary → secondary.lines = []
  | .RESTAURANT_CHECK_SPLIT event =>
    s.orderMap.get? event.sourceOrderId = none ∨
      (event.newOrderId ∈ s.cancelledOrderIds ∧
        ∀ source, s.openCheck event.sourceOrderId = some source → NothingMoves event source.lines)
  | _ => True

/-! ## Items -/

variable {id : String} {e : PosOfflineEvent}

theorem YoungestIs.congr {lines lines' : List EventLine} {events : List PosOfflineEvent}
    (h : YoungestIs id lines events) (hitems : itemsOf lines' = itemsOf lines) :
    YoungestIs id lines' events :=
  ⟨h.status, h.items.trans (congrArg some hitems.symm)⟩

theorem YoungestIs.items_eq {lines lines' : List EventLine} {events : List PosOfflineEvent}
    (h : YoungestIs id lines events) (h' : YoungestIs id lines' events) :
    itemsOf lines' = itemsOf lines :=
  Option.some.inj (h'.items.symm.trans h.items)

/-- An event that the single-order projection skips writes nothing. -/
theorem youngestIs_concat_of_skipped (h : isOrderEvent id e = false) (lines : List EventLine)
    (events : List PosOfflineEvent) :
    YoungestIs id lines (events ++ [e]) ↔ YoungestIs id lines events := by
  have hown : (events ++ [e]).filter (isOrderEvent id) = events.filter (isOrderEvent id) := by
    rw [List.filter_append, List.filter_cons_of_neg (by simp [h]), List.filter_nil, List.append_nil]
  constructor
  · rintro ⟨hstatus, hitems⟩
    exact ⟨by rwa [youngest, hown] at hstatus, by rwa [youngest, hown] at hitems⟩
  · rintro ⟨hstatus, hitems⟩
    exact ⟨by rwa [youngest, hown], by rwa [youngest, hown]⟩

theorem itemsOf_fireKot (event : RestaurantKotFired) (o : DerivedOrder) :
    itemsOf (o.fireKot event).lines = itemsOf o.lines := by
  simp only [itemsOf, DerivedOrder.fireKot, List.map_map]
  refine List.map_congr_left fun line _ => ?_
  rw [Function.comp_apply]
  split
  · rfl
  · rfl

theorem itemsOf_absorb_iff (event : RestaurantCheckMerged) (primary secondary : DerivedOrder) :
    itemsOf (primary.absorb event secondary).lines = itemsOf primary.lines ↔
      secondary.lines = [] := by
  simp [itemsOf, DerivedOrder.absorb]

/-- A split leaves a line its units exactly when it takes none. -/
theorem splitRemainingLine_eq_iff (event : RestaurantCheckSplit) (line : EventLine) :
    (splitRemainingLine event line).map (fun l => (l.productId, l.quantity)) =
        some (line.productId, line.quantity) ↔
      (line.isAmong event.lineIds = true →
        splitMoveQty event line = 0 ∧ 1 / 1000000000 < line.quantity) := by
  unfold splitRemainingLine
  split
  · rename_i hamong
    rw [forall_prop_of_true hamong]
    rcases le_or_gt (line.quantity - 1 / 1000000000) (splitMoveQty event line) with hle | hlt
    · simp only [if_pos hle, Option.map_none, reduceCtorEq, false_iff, not_and, not_lt]
      intro hzero
      linarith
    · simp only [if_neg hlt.not_ge, Option.map_some, Option.some.injEq, Prod.mk.injEq, true_and,
        sub_eq_self]
      constructor
      · intro hzero
        exact ⟨hzero, by linarith⟩
      · exact fun h => h.1
  · rename_i hamong
    simp [hamong]

theorem itemsOf_splitRemaining_iff (event : RestaurantCheckSplit) (lines : List EventLine) :
    itemsOf (splitRemaining event lines) = itemsOf lines ↔ NothingMoves event lines := by
  have hleft : itemsOf (splitRemaining event lines) = lines.filterMap fun line =>
      (splitRemainingLine event line).map fun l => (l.productId, l.quantity) :=
    List.map_filterMap
  have hall : itemsOf lines = lines.filterMap fun line => some (line.productId, line.quantity) :=
    (congrFun List.filterMap_eq_map lines).symm
  rw [hleft, hall, filterMap_eq_iff fun _ _ => rfl]
  exact forall₂_congr fun line _ => splitRemainingLine_eq_iff event line

/-! ## The open check of an id, event by event -/

theorem openCheck_eq_some_iff {s : Replay} {o : DerivedOrder} :
    s.openCheck id = some o ↔
      s.orderMap.get? id = some o ∧ o.status = .OPEN ∧ id ∉ s.cancelledOrderIds := by
  unfold Replay.openCheck
  split
  · rename_i hcancelled
    simp [hcancelled]
  · rename_i hlive
    simp [Option.filter_eq_some_iff, hlive]

theorem openCheck_of_cancelled {s : Replay} (h : id ∈ s.cancelledOrderIds) :
    s.openCheck id = none := if_pos h

/-- The checks that are reported are the open checks of their ids. -/
theorem mem_deriveOpenOrders_iff_openCheck {events : List PosOfflineEvent}
    {syncState : SyncStateMap} {o : DerivedOrder} :
    o ∈ deriveOpenOrders events syncState ↔
      (replay events syncState).openCheck o.orderId = some o := by
  have hkeyed := replay_keyed events syncState
  simp only [deriveOpenOrders, List.mem_filter, OrderedMap.mem_values_iff, Replay.isOpen,
    decide_eq_true_eq, openCheck_eq_some_iff]
  constructor
  · rintro ⟨⟨k, hk⟩, hopen, hlive⟩
    exact ⟨hkeyed k o hk ▸ hk, hopen, hlive⟩
  · rintro ⟨hget, hopen, hlive⟩
    exact ⟨⟨o.orderId, hget⟩, hopen, hlive⟩

theorem openCheck_congr {s s' : Replay} (hget : s'.orderMap.get? id = s.orderMap.get? id)
    (hcancelled : id ∈ s'.cancelledOrderIds ↔ id ∈ s.cancelledOrderIds) :
    s'.openCheck id = s.openCheck id := by
  unfold Replay.openCheck
  rw [hget]
  simp only [hcancelled]

/-- Rewriting an order without touching its status. -/
theorem openCheck_modify (s : Replay) (id : String) (f : DerivedOrder → DerivedOrder)
    (hf : ∀ o, (f o).status = o.status) :
    ({ s with orderMap := s.orderMap.modify id f } : Replay).openCheck id =
      (s.openCheck id).map f := by
  unfold Replay.openCheck
  simp only [OrderedMap.get?_modify_self]
  split
  · rfl
  · cases s.orderMap.get? id with
    | none => rfl
    | some o => simp [Option.filter, hf, apply_ite]

/-- Closing an order. -/
theorem openCheck_close (s : Replay) (id : String) (status : OrderStatus) (ts : ℤ)
    (completed cancelled : Finset String) (hstatus : status ≠ .OPEN) :
    ({ orderMap := s.orderMap.modify id (.close status ts)
       completedOrderIds := completed
       cancelledOrderIds := cancelled } : Replay).openCheck id = none := by
  refine Option.eq_none_iff_forall_ne_some.mpr fun o ho => ?_
  obtain ⟨hget, hopen, _⟩ := openCheck_eq_some_iff.mp ho
  simp only [OrderedMap.get?_modify_self, Option.map_eq_some_iff] at hget
  obtain ⟨o', _, rfl⟩ := hget
  exact hstatus hopen

/-- Filing an open order under its id. -/
theorem openCheck_set (s : Replay) (id : String) {o : DerivedOrder} (ho : o.status = .OPEN) :
    ({ s with orderMap := s.orderMap.set id o } : Replay).openCheck id =
      if id ∈ s.cancelledOrderIds then none else some o := by
  unfold Replay.openCheck
  simp [Option.filter, ho]

/-- A merge touches the two checks it names. -/
theorem get?_applyMerge_of_ne (event : RestaurantCheckMerged) (m : OrderedMap String DerivedOrder)
    (hp : id ≠ event.primaryOrderId) (hs : id ≠ event.secondaryOrderId) :
    (applyMerge event m).get? id = m.get? id := by
  unfold applyMerge
  cases m.get? event.secondaryOrderId with
  | none => cases m.get? event.primaryOrderId <;> rfl
  | some secondary =>
    cases m.get? event.primaryOrderId with
    | none => exact OrderedMap.get?_set_of_ne hs _ _
    | some primary =>
      exact (OrderedMap.get?_set_of_ne hs _ _).trans (OrderedMap.get?_set_of_ne hp _ _)

/-- The primary check takes the secondary one's lines, if that one is there. -/
theorem get?_applyMerge_primary (event : RestaurantCheckMerged)
    (m : OrderedMap String DerivedOrder) (hne : event.primaryOrderId ≠ event.secondaryOrderId) :
    (applyMerge event m).get? event.primaryOrderId =
      match m.get? event.secondaryOrderId with
      | none => m.get? event.primaryOrderId
      | some secondary => (m.get? event.primaryOrderId).map (·.absorb event secondary) := by
  unfold applyMerge
  cases m.get? event.secondaryOrderId with
  | none => cases hp : m.get? event.primaryOrderId <;> exact hp
  | some secondary =>
    cases hp : m.get? event.primaryOrderId with
    | none => exact (OrderedMap.get?_set_of_ne hne _ _).trans hp
    | some primary =>
      exact (OrderedMap.get?_set_of_ne hne _ _).trans (OrderedMap.get?_set_self _ _ _)

/-- The primary check is reported after a merge as it was, with the lines it takes. -/
theorem openCheck_applyMerge_primary (event : RestaurantCheckMerged) (s : Replay)
    (hne : event.primaryOrderId ≠ event.secondaryOrderId) :
    ({ s with
        orderMap := applyMerge event s.orderMap
        cancelledOrderIds := insert event.secondaryOrderId s.cancelledOrderIds } :
      Replay).openCheck event.primaryOrderId =
      match s.orderMap.get? event.secondaryOrderId with
      | none => s.openCheck event.primaryOrderId
      | some secondary => (s.openCheck event.primaryOrderId).map (·.absorb event secondary) := by
  have hlive : event.primaryOrderId ∈ insert event.secondaryOrderId s.cancelledOrderIds ↔
      event.primaryOrderId ∈ s.cancelledOrderIds := by simp [hne]
  have hget := get?_applyMerge_primary event s.orderMap hne
  cases hsecondary : s.orderMap.get? event.secondaryOrderId with
  | none =>
    rw [hsecondary] at hget
    exact openCheck_congr hget hlive
  | some secondary =>
    rw [hsecondary] at hget
    exact (openCheck_congr (hget.trans (OrderedMap.get?_modify_self ..).symm) hlive).trans
      (openCheck_modify s event.primaryOrderId _ fun _ => rfl)

/-- A split writes the source check, then the new one. -/
theorem get?_applySplit (syncState : SyncStateMap) (event : RestaurantCheckSplit)
    {m : OrderedMap String DerivedOrder} {source : DerivedOrder}
    (hsource : m.get? event.sourceOrderId = some source) (id : String) :
    (applySplit syncState event m).get? id =
      if id = event.newOrderId then some (source.splitNew syncState event)
      else if id = event.sourceOrderId then some (source.splitSource event) else m.get? id := by
  rw [applySplit, hsource, OrderedMap.get?_set, OrderedMap.get?_set]

/-! ## One append -/

/-- The open checks of the replay have no table, and the items of their youngest writes. -/
def InStep (s : Replay) (events : List PosOfflineEvent) : Prop :=
  ∀ id o, s.openCheck id = some o → o.tableId = none ∧ YoungestIs id o.lines events

theorem projectionsAgree_iff_inStep (syncState : SyncStateMap) (events : List PosOfflineEvent) :
    ProjectionsAgree syncState events ↔ InStep (replay events syncState) events := by
  simp only [ProjectionsAgree, exists_shows_iff, mem_deriveOpenOrders_iff_openCheck]
  constructor
  · intro h id o ho
    have hid : o.orderId = id :=
      replay_keyed events syncState id o (openCheck_eq_some_iff.mp ho).1
    exact hid ▸ h o (hid.symm ▸ ho)
  · exact fun h o ho => h o.orderId o ho

/-- An event that leaves the other checks alone is judged at one id. -/
theorem inStep_iff_at {s s' : Replay} {events : List PosOfflineEvent} (h : InStep s events)
    (e : PosOfflineEvent) (k : String)
    (hother : ∀ id, id ≠ k → isOrderEvent id e = false ∧
      ∀ o, s'.openCheck id = some o → s.openCheck id = some o) :
    InStep s' (events ++ [e]) ↔
      ∀ o, s'.openCheck k = some o → o.tableId = none ∧ YoungestIs k o.lines (events ++ [e]) := by
  constructor
  · exact fun hafter o ho => hafter k o ho
  · intro hk id o ho
    rcases eq_or_ne id k with rfl | hne
    · exact hk o ho
    · obtain ⟨hskip, hsame⟩ := hother id hne
      obtain ⟨htable, hyoungest⟩ := h id o (hsame o ho)
      exact ⟨htable, (youngestIs_concat_of_skipped hskip o.lines events).mpr hyoungest⟩

/-- An event about one order keeps every other check. -/
theorem openCheck_of_ne {s : Replay} {m : OrderedMap String DerivedOrder}
    {completed cancelled : Finset String} (hget : m.get? id = s.orderMap.get? id)
    (hcancelled : id ∈ cancelled ↔ id ∈ s.cancelledOrderIds) (o : DerivedOrder)
    (ho : ({ orderMap := m
             completedOrderIds := completed
             cancelledOrderIds := cancelled } : Replay).openCheck id = some o) :
    s.openCheck id = some o := by
  rwa [openCheck_congr (s := s) hget hcancelled] at ho

section Steps

variable {s : Replay} {events : List PosOfflineEvent} (h : InStep s events)
  (syncState : SyncStateMap)

include h

theorem inStep_created (event : OrderCreated) :
    InStep (applyEvent syncState s (.ORDER_CREATED event)) (events ++ [.ORDER_CREATED event]) ↔
      (event.orderId ∈ s.cancelledOrderIds ∨ (event.tableId = none ∧
        YoungestIs event.orderId event.lines (events ++ [.ORDER_CREATED event]))) := by
  refine (inStep_iff_at h (.ORDER_CREATED event) event.orderId fun id hne => ⟨decide_eq_false (Ne.symm hne),
    fun o ho => openCheck_of_ne (OrderedMap.get?_set_of_ne hne _ _) Iff.rfl o ho⟩).trans ?_
  rw [openCheck_set s event.orderId rfl]
  split
  · rename_i hcancelled
    simp [hcancelled]
  · rename_i hlive
    simp only [Option.some.injEq, forall_eq', hlive, false_or]
    exact Iff.rfl

theorem inStep_updated (event : OrderUpdated) :
    InStep (applyEvent syncState s (.ORDER_UPDATED event)) (events ++ [.ORDER_UPDATED event]) ↔
      (s.openCheck event.orderId = none ∨ (event.tableId = none ∧
        YoungestIs event.orderId event.lines (events ++ [.ORDER_UPDATED event]))) := by
  refine (inStep_iff_at h (.ORDER_UPDATED event) event.orderId fun id hne => ⟨decide_eq_false (Ne.symm hne),
    fun o ho => openCheck_of_ne (OrderedMap.get?_modify_of_ne hne _ _) Iff.rfl o ho⟩).trans ?_
  rw [openCheck_modify s event.orderId (.update event) fun _ => rfl]
  cases hopen : s.openCheck event.orderId with
  | none => simp
  | some o =>
    have htable : (o.update event).tableId = event.tableId := by
      rw [DerivedOrder.update, (h _ o hopen).1, Option.or_none]
    simp only [Option.map_some, Option.some.injEq, forall_eq', reduceCtorEq, false_or, htable]
    exact Iff.rfl

theorem inStep_kotFired (event : RestaurantKotFired) :
    InStep (applyEvent syncState s (.RESTAURANT_KOT_FIRED event))
      (events ++ [.RESTAURANT_KOT_FIRED event]) := by
  refine (inStep_iff_at h (.RESTAURANT_KOT_FIRED event) event.orderId fun id hne => ⟨rfl,
    fun o ho => openCheck_of_ne (OrderedMap.get?_modify_of_ne hne _ _) Iff.rfl o ho⟩).mpr ?_
  rw [openCheck_modify s event.orderId (.fireKot event) fun _ => rfl]
  intro o' ho'
  obtain ⟨o, ho, rfl⟩ := Option.map_eq_some_iff.mp ho'
  obtain ⟨htable, hyoungest⟩ := h _ o ho
  exact ⟨htable, (youngestIs_concat_of_skipped rfl _ events).mpr
    (hyoungest.congr (itemsOf_fireKot event o))⟩

theorem inStep_transferred (event : RestaurantCheckTransferred) :
    InStep (applyEvent syncState s (.RESTAURANT_CHECK_TRANSFERRED event))
        (events ++ [.RESTAURANT_CHECK_TRANSFERRED event]) ↔
      s.openCheck event.orderId = none := by
  refine (inStep_iff_at h (.RESTAURANT_CHECK_TRANSFERRED event) event.orderId fun id hne => ⟨rfl,
    fun o ho => openCheck_of_ne (OrderedMap.get?_modify_of_ne hne _ _) Iff.rfl o ho⟩).trans ?_
  rw [openCheck_modify s event.orderId (.transfer event) fun _ => rfl]
  cases s.openCheck event.orderId with
  | none => simp
  | some o => simp [DerivedOrder.transfer]

/-- A cancellation closes the check. -/
theorem inStep_cancelled (event : OrderCancelled) :
    InStep (applyEvent syncState s (.ORDER_CANCELLED event))
      (events ++ [.ORDER_CANCELLED event]) := by
  refine (inStep_iff_at h (.ORDER_CANCELLED event) event.orderId fun id hne => ⟨decide_eq_false (Ne.symm hne),
    fun o ho => openCheck_of_ne (OrderedMap.get?_modify_of_ne hne _ _) (by simp [hne]) o ho⟩).mpr ?_
  rw [openCheck_close s event.orderId .CANCELLED event.ts _ _ (by decide)]
  simp

/-- A sale closes the check. -/
theorem inStep_completed (event : SaleCompleted) :
    InStep (applyEvent syncState s (.SALE_COMPLETED event))
      (events ++ [.SALE_COMPLETED event]) := by
  refine (inStep_iff_at h (.SALE_COMPLETED event) event.orderId fun id hne => ⟨decide_eq_false (Ne.symm hne),
    fun o ho => openCheck_of_ne (OrderedMap.get?_modify_of_ne hne _ _) Iff.rfl o ho⟩).mpr ?_
  rw [openCheck_close s event.orderId .COMPLETED event.ts _ _ (by decide)]
  simp

/-- An event of no order in the map changes nothing. -/
theorem inStep_skipped {e : PosOfflineEvent} (hskip : ∀ id, isOrderEvent id e = false) :
    InStep s (events ++ [e]) := by
  intro id o ho
  obtain ⟨htable, hyoungest⟩ := h id o ho
  exact ⟨htable, (youngestIs_concat_of_skipped (hskip id) o.lines events).mpr hyoungest⟩

theorem inStep_merged (event : RestaurantCheckMerged) :
    InStep (applyEvent syncState s (.RESTAURANT_CHECK_MERGED event))
        (events ++ [.RESTAURANT_CHECK_MERGED event]) ↔
      (s.openCheck event.primaryOrderId = none ∨ event.primaryOrderId = event.secondaryOrderId ∨
        ∀ secondary, s.orderMap.get? event.secondaryOrderId = some secondary →
          secondary.lines = []) := by
  have hsecondary : (applyEvent syncState s (.RESTAURANT_CHECK_MERGED event)).openCheck
      event.secondaryOrderId = none := openCheck_of_cancelled (Finset.mem_insert_self _ _)
  have hlive : ∀ id, id ≠ event.secondaryOrderId →
      (id ∈ insert event.secondaryOrderId s.cancelledOrderIds ↔ id ∈ s.cancelledOrderIds) :=
    fun id hne => by simp [hne]
  refine (inStep_iff_at h (.RESTAURANT_CHECK_MERGED event) event.primaryOrderId fun id hne => ⟨rfl, fun o ho => ?_⟩).trans ?_
  · rcases eq_or_ne id event.secondaryOrderId with rfl | hne'
    · rw [hsecondary] at ho
      cases ho
    · exact openCheck_of_ne (get?_applyMerge_of_ne event _ hne hne') (hlive id hne') o ho
  rcases eq_or_ne event.primaryOrderId event.secondaryOrderId with heq | hne
  · simp [heq, hsecondary]
  have hafter := openCheck_applyMerge_primary event s hne
  rw [applyEvent, hafter]
  cases hopen : s.openCheck event.primaryOrderId with
  | none =>
    simp only [Option.map_none, true_or, iff_true]
    intro o ho
    split at ho
    · cases ho
    · cases ho
  | some primary =>
    obtain ⟨htable, hyoungest⟩ := h _ primary hopen
    have hkept := (youngestIs_concat_of_skipped (e := .RESTAURANT_CHECK_MERGED event) rfl
      primary.lines events).mpr hyoungest
    cases s.orderMap.get? event.secondaryOrderId with
    | none =>
      have hsame : primary.tableId = none ∧
          YoungestIs event.primaryOrderId primary.lines
            (events ++ [.RESTAURANT_CHECK_MERGED event]) := ⟨htable, hkept⟩
      simpa using hsame
    | some secondary =>
      simp only [Option.map_some, Option.some.injEq, forall_eq', reduceCtorEq, hne, false_or]
      rw [← itemsOf_absorb_iff event primary secondary]
      constructor
      · exact fun hmerged => hkept.items_eq hmerged.2
      · exact fun hitems => ⟨htable, hkept.congr hitems⟩

theorem inStep_split (event : RestaurantCheckSplit) :
    InStep (applyEvent syncState s (.RESTAURANT_CHECK_SPLIT event))
        (events ++ [.RESTAURANT_CHECK_SPLIT event]) ↔
      (s.orderMap.get? event.sourceOrderId = none ∨
        (event.newOrderId ∈ s.cancelledOrderIds ∧
          ∀ source, s.openCheck event.sourceOrderId = some source →
            NothingMoves event source.lines)) := by
  cases hsource : s.orderMap.get? event.sourceOrderId with
  | none =>
    have hsame : applyEvent syncState s (.RESTAURANT_CHECK_SPLIT event) = s := by
      rw [applyEvent, applySplit, hsource]
    rw [hsame]
    simpa using inStep_skipped h (e := .RESTAURANT_CHECK_SPLIT event) fun _ => rfl
  | some source =>
    have hget := get?_applySplit syncState event hsource
    have hkept : ∀ id lines, YoungestIs id lines (events ++ [.RESTAURANT_CHECK_SPLIT event]) ↔
        YoungestIs id lines events := fun id lines =>
      youngestIs_concat_of_skipped (e := .RESTAURANT_CHECK_SPLIT event) rfl lines events
    constructor
    · intro hafter
      have hcancelled : event.newOrderId ∈ s.cancelledOrderIds := by
        by_contra hlive
        have hnew := hafter event.newOrderId (source.splitNew syncState event)
          (openCheck_eq_some_iff.mpr ⟨by rw [applyEvent, hget, if_pos rfl], rfl, hlive⟩)
        cases hnew.1
      refine .inr ⟨hcancelled, fun o ho => ?_⟩
      obtain ⟨hsome, hopen, hlive⟩ := openCheck_eq_some_iff.mp ho
      have hne : event.sourceOrderId ≠ event.newOrderId := fun heq => hlive (heq ▸ hcancelled)
      have hsplit := hafter event.sourceOrderId (o.splitSource event)
        (openCheck_eq_some_iff.mpr ⟨by
          rw [applyEvent, hget, if_neg hne, if_pos rfl, ← Option.some.inj (hsource.symm.trans hsome)],
          hopen, hlive⟩)
      exact (itemsOf_splitRemaining_iff event o.lines).mp
        ((h _ o ho).2.items_eq ((hkept _ _).mp hsplit.2))
    · rintro (hnone | ⟨hcancelled, hmoves⟩)
      · cases hnone
      · intro id o ho
        obtain ⟨hsome, hopen, hlive⟩ := openCheck_eq_some_iff.mp ho
        have hne : id ≠ event.newOrderId := fun heq => hlive (heq ▸ hcancelled)
        rw [applyEvent, hget, if_neg hne] at hsome
        rw [hkept]
        split at hsome
        · rename_i heq
          subst heq
          cases hsome
          have hsourceOpen : s.openCheck event.sourceOrderId = some source :=
            openCheck_eq_some_iff.mpr ⟨hsource, hopen, hlive⟩
          obtain ⟨htable, hyoungest⟩ := h _ source hsourceOpen
          exact ⟨htable, hyoungest.congr
            ((itemsOf_splitRemaining_iff event source.lines).mpr (hmoves source hsourceOpen))⟩
        · exact h id o (openCheck_eq_some_iff.mpr ⟨hsome, hopen, hlive⟩)

end Steps

theorem inStep_applyEvent_iff (syncState : SyncStateMap) (events : List PosOfflineEvent)
    (h : InStep (replay events syncState) events) (e : PosOfflineEvent) :
    InStep (applyEvent syncState (replay events syncState) e) (events ++ [e]) ↔
      KeepsInStep syncState events e := by
  cases e with
  | ORDER_CREATED event => exact inStep_created h syncState event
  | ORDER_UPDATED event => exact inStep_updated h syncState event
  | ORDER_CANCELLED event => exact iff_of_true (inStep_cancelled h syncState event) trivial
  | PAYMENT_ADDED event => exact iff_of_true (inStep_skipped h fun _ => rfl) trivial
  | SALE_COMPLETED event => exact iff_of_true (inStep_completed h syncState event) trivial
  | SALE_VOIDED event => exact iff_of_true (inStep_skipped h fun _ => rfl) trivial
  | RESTAURANT_KOT_FIRED event => exact iff_of_true (inStep_kotFired h syncState event) trivial
  | RESTAURANT_CHECK_TRANSFERRED event => exact inStep_transferred h syncState event
  | RESTAURANT_CHECK_MERGED event => exact inStep_merged h syncState event
  | RESTAURANT_CHECK_SPLIT event => exact inStep_split h syncState event
  | RESTAURANT_KOT_STATUS event => exact iff_of_true (inStep_skipped h fun _ => rfl) trivial

/-! ## The whole journal -/

/-- The projections agree all along a journal exactly when every append keeps them in
step. -/
theorem projections_agree_iff (syncState : SyncStateMap) (journal : List PosOfflineEvent) :
    (∀ events, events <+: journal → ProjectionsAgree syncState events) ↔
      ∀ events e, events ++ [e] <+: journal → KeepsInStep syncState events e := by
  refine forall_prefix_iff ?_ (fun events e hagree => ?_) journal
  · intro o ho
    cases ho
  · rw [projectionsAgree_iff_inStep, replay_concat]
    exact inStep_applyEvent_iff syncState events
      ((projectionsAgree_iff_inStep syncState events).mp hagree) e

/-- A check opened at a table. -/
def openedAtTable : PosOfflineEvent :=
  .ORDER_CREATED { plainOrder "k1" "o1" [plainLine "l1" 2] 1 with
    channel := some .DINE_IN
    tableId := some "t1" }

/-- The single-order projection shows the check without its table. -/
theorem openedAtTable_disagrees : ¬ ProjectionsAgree OrderedMap.empty [openedAtTable] := by
  intro h
  have hshown := (projectionsAgree_iff_inStep OrderedMap.empty [openedAtTable]).mp h "o1"
  have hopen : ((replay [openedAtTable] OrderedMap.empty).openCheck "o1").map (·.tableId) =
      some (some "t1") := by decide +kernel
  obtain ⟨o, ho, htable⟩ := Option.map_eq_some_iff.mp hopen
  rw [(hshown o ho).1] at htable
  cases htable

/-! ## Counter tickets -/

/-- The events of a till without tables. -/
def IsCounterEvent : PosOfflineEvent → Prop
  | .ORDER_CREATED event => event.tableId = none
  | .ORDER_UPDATED event => event.tableId = none
  | .RESTAURANT_CHECK_TRANSFERRED _ => False
  | .RESTAURANT_CHECK_MERGED _ => False
  | .RESTAURANT_CHECK_SPLIT _ => False
  | _ => True

/-- The youngest write is the event that comes last by time. -/
theorem youngest_concat {A : Type} {written : PosOfflineEvent → Option A}
    {events : List PosOfflineEvent} {a : A} (hown : isOrderEvent id e = true)
    (hwritten : written e = some a) (hlast : ∀ x ∈ events, x.ts ≤ e.ts) :
    youngest written id (events ++ [e]) = some a := by
  have hfilter : ((events ++ [e]).filter (isOrderEvent id)).filter (fun x => (written x).isSome) =
      (events.filter (isOrderEvent id)).filter (fun x => (written x).isSome) ++ [e] := by
    rw [List.filter_append, List.filter_cons_of_pos hown, List.filter_nil, List.filter_append,
      List.filter_cons_of_pos (by rw [hwritten]; rfl), List.filter_nil]
  rw [youngest, hfilter, latest_concat_of_le _ fun x hx => ?_]
  · exact hwritten
  · exact hlast x (List.mem_filter.mp (List.mem_filter.mp hx).1).1

/-- An event that writes no value leaves the youngest one. -/
theorem youngest_concat_of_none {A : Type} {written : PosOfflineEvent → Option A}
    (hwritten : written e = none) (events : List PosOfflineEvent) :
    youngest written id (events ++ [e]) = youngest written id events := by
  rw [youngest, youngest, List.filter_filter, List.filter_filter, List.filter_append,
    List.filter_cons_of_neg (by simp [hwritten]), List.filter_nil, List.append_nil]

/-- Without tables, and appended in the order of their times, events keep the projections in
step. -/
theorem keepsInStep_of_counter {syncState : SyncStateMap} {events : List PosOfflineEvent}
    (h : InStep (replay events syncState) events) (he : IsCounterEvent e)
    (hlast : ∀ x ∈ events, x.ts ≤ e.ts) : KeepsInStep syncState events e := by
  cases e with
  | ORDER_CREATED event =>
    have hstatus : youngest statusWritten event.orderId (events ++ [.ORDER_CREATED event]) =
        some .OPEN := youngest_concat (decide_eq_true rfl) rfl hlast
    have hlines : youngest linesWritten event.orderId (events ++ [.ORDER_CREATED event]) =
        some event.lines := youngest_concat (decide_eq_true rfl) rfl hlast
    exact .inr ⟨he, hstatus, by rw [hlines]; rfl⟩
  | ORDER_UPDATED event =>
    cases hopen : (replay events syncState).openCheck event.orderId with
    | none => exact .inl hopen
    | some o =>
      have hlines : youngest linesWritten event.orderId (events ++ [.ORDER_UPDATED event]) =
          some event.lines := youngest_concat (decide_eq_true rfl) rfl hlast
      refine .inr ⟨he, ?_, by rw [hlines]; rfl⟩
      rw [youngest_concat_of_none rfl]
      exact (h _ o hopen).2.status
  | RESTAURANT_CHECK_TRANSFERRED event => exact he.elim
  | RESTAURANT_CHECK_MERGED event => exact he.elim
  | RESTAURANT_CHECK_SPLIT event => exact he.elim
  | _ => trivial

/-- A ticket of the counter, and the sale that closes it. -/
def counterTicket : List PosOfflineEvent :=
  [.ORDER_CREATED (plainOrder "k1" "o1" [plainLine "l1" 2] 1),
    .SALE_COMPLETED (plainSale "k2" "o1" [] 10 2)]

end SmartErpPos.Offline
