/-
  Pos/ReplayFrame.lean --- which checks a replayed event changes.

  An event names its checks by id.  A cancellation works on the check it names.  A sale and
  a merge are resolved by table: they work on the check the table points at, or on the
  newest or oldest open check on it, whatever the event names.  A split works on the check it
  names as long as that check is open on its table, and else on one that has such lines.

  `frame_kept_iff` says when everything but the named checks stays as it was.
-/
import SmartErpPos.Pos.CheckFrame
import SmartErpPos.Pos.EventReplayer

set_option autoImplicit false

namespace SmartErpPos.Pos

open SmartErpPos.Lib SmartErpPos.Offline

/-! ## The events and their frame -/

/-- The events that close, merge or split checks. -/
inductive CheckEvent where
  | saleCompleted (event : SaleCompleted)
  | merged (event : RestaurantCheckMerged)
  | split (event : RestaurantCheckSplit)
  | cancelled (event : OrderCancelled)

namespace CheckEvent

/-- The checks the event names. -/
def named : CheckEvent → List String
  | saleCompleted event => [event.orderId]
  | merged event => [event.primaryOrderId, event.secondaryOrderId]
  | split event => [event.sourceOrderId]
  | cancelled event => [event.orderId]

end CheckEvent

/-- `replay`, for these events. -/
def replayCheckEvent (env : ServerEnv) (userId : String) : CheckEvent → PosState → Replayed
  | .saleCompleted event, s => finalizeSale env event userId s
  | .merged event, s => mergeRestaurantChecks event userId s
  | .split event, s => splitRestaurantCheck env event userId s
  | .cancelled event, s => cancelOrder event userId s

/-- The event names checks of the server by their UUIDs. -/
def NamesServerOrders (event : CheckEvent) (s : PosState) : Prop :=
  ∀ id ∈ event.named, isUuidText id = true ∧ (s.orders.get? id).isSome = true

/-- Every check the event does not name keeps its status, its table and its lines. -/
def FrameKept (event : CheckEvent) (s s' : PosState) : Prop :=
  ∀ id order, s.orders.get? id = some order → id ∉ event.named →
    ∃ order', s'.orders.get? id = some order' ∧ order'.status = order.status ∧
      order'.tableId = order.tableId ∧ s'.itemsOf id = s.itemsOf id

/-- The checks found for the event are the ones it names, or nothing comes of it. -/
def FindsNamed (env : ServerEnv) (userId : String) (s : PosState) : CheckEvent → Prop
  | .saleCompleted event =>
    isOfflineCustomer event.customerId = true ∨ (s.saleWithKey event.key).isSome = true ∨
      ∀ orderId, saleTarget s event = some orderId → orderId = event.orderId ∨
        (env.refuseSale (saleInput env event userId (some orderId)) s).isSome = true
  | .merged event =>
    s.restaurantMode = true → ∀ primaryTableId secondaryTableId primaryId secondaryId,
      eventTable event.primaryTableId = some primaryTableId →
      eventTable event.secondaryTableId = some secondaryTableId →
      mergeTargets s primaryTableId secondaryTableId = some (primaryId, secondaryId) →
      mergeAllowed s primaryId secondaryId userId = .ok () →
      primaryId ∈ [event.primaryOrderId, event.secondaryOrderId] ∧
        secondaryId ∈ [event.primaryOrderId, event.secondaryOrderId]
  | .split event =>
    s.restaurantMode = true → ∀ sourceId plan,
      resolveSourceOrderIdForSplit s event = some sourceId →
      (resolveSplitItems s sourceId event).length = event.lineIds.length →
      splitPlan s sourceId (resolveSplitItems s sourceId event) event.targetTableId event.sameTable
        userId = .ok plan →
      sourceId = event.sourceOrderId ∨ LeavesLines s plan
  | .cancelled _ => True

variable {s : PosState} {orderId : String} {env : ServerEnv}

/-- The frame of an event whose checks include all that may have changed. -/
theorem SameOutside.frameKept {P : String → Prop} {s' : PosState} {event : CheckEvent}
    (h : SameOutside P s s') (hnamed : ∀ id, P id → id ∈ event.named) : FrameKept event s s' := by
  intro id order hget hout
  obtain ⟨hget', hitems⟩ := h id order hget fun hin => hout (hnamed id hin)
  exact ⟨order, hget', rfl, rfl, hitems⟩

/-! ## Cancelling -/

/-- A cancellation changes the check it names. -/
theorem sameOutside_cancelOrder (event : OrderCancelled) (userId : String) (s : PosState)
    (huuid : isUuidText event.orderId = true) :
    SameOutside (· = event.orderId) s (cancelOrder event userId s).state := by
  unfold cancelOrder
  rw [cancelTarget, if_pos huuid]
  dsimp only
  cases s.orders.get? event.orderId with
  | none => exact .of_eq rfl rfl
  | some order =>
    dsimp only
    cases order.status with
    | COMPLETED => exact .of_eq rfl rfl
    | CANCELLED => exact sameOutside_release (.of_eq rfl rfl)
    | PENDING =>
      dsimp only
      split
      · exact .of_eq rfl rfl
      · rename_i s' hcancelled
        split at hcancelled
        · split at hcancelled
          · exact sameOutside_cancelCheck hcancelled
          · cases hcancelled
        · obtain ⟨s₁, hcancel, rfl⟩ := map_eq_ok hcancelled
          obtain ⟨-, -, -, rfl⟩ := cancelOpenOrder_eq_ok hcancel
          exact sameOutside_release (s.sameOutside_closeOrder event.orderId .CANCELLED)

/-! ## Selling -/

/-- The check a table stands for is open. -/
theorem resolvePendingOrderIdForTable_pending {tableId : String}
    (h : resolvePendingOrderIdForTable s tableId = some orderId) :
    ∃ order, s.orders.get? orderId = some order ∧ order.status = .PENDING := by
  unfold resolvePendingOrderIdForTable at h
  cases hcurrent : pendingCurrent s tableId with
  | some id =>
    rw [hcurrent] at h
    obtain rfl : id = orderId := Option.some_inj.mp h
    have hpending := (Option.filter_eq_some_iff.mp hcurrent).2
    rw [PosState.isPending, Option.any_eq_true] at hpending
    obtain ⟨order, hget, hopen⟩ := hpending
    exact ⟨order, hget, of_decide_eq_true hopen⟩
  | none =>
    rw [hcurrent] at h
    obtain ⟨row, hhead, rfl⟩ := Option.map_eq_some_iff.mp h
    have hmem : row ∈ PosState.newestFirst (s.pendingOn tableId) := List.mem_of_head? hhead
    rw [PosState.newestFirst, List.mem_insertionSort, PosState.pendingOn, List.mem_filter] at hmem
    obtain ⟨hrow, hopen⟩ := hmem
    rw [Bool.and_eq_true] at hopen
    exact ⟨row.2, OrderedMap.get?_eq_some_iff.mpr hrow, of_decide_eq_true hopen.1⟩

theorem saleTarget_pending {event : SaleCompleted} (h : saleTarget s event = some orderId) :
    ∃ order, s.orders.get? orderId = some order ∧ order.status = .PENDING := by
  obtain ⟨tableId, -, hmode⟩ := Option.bind_eq_some_iff.mp h
  split at hmode
  · exact resolvePendingOrderIdForTable_pending hmode
  · cases hmode

theorem releaseFloor_rows (s : PosState) (event : SaleCompleted) (known : Option String) :
    (releaseRestaurantFloorAfterSale s event known).2.orders = s.orders ∧
      (releaseRestaurantFloorAfterSale s event known).2.items = s.items ∧
      (releaseRestaurantFloorAfterSale s event known).2.sales = s.sales := by
  unfold releaseRestaurantFloorAfterSale
  cases eventTable event.tableId with
  | none => exact ⟨rfl, rfl, rfl⟩
  | some tableId =>
    dsimp only
    split
    · exact ⟨rfl, rfl, rfl⟩
    · split
      · exact releaseTableForOrder_rows _ _
      · exact ⟨rfl, rfl, rfl⟩

/-- The tables with a sale added. -/
def withSale (env : ServerEnv) (s : PosState) (input : CreateSaleInput) : PosState :=
  { s with sales := s.sales.set (env.newId s) ⟨some input.idempotencyKey, input.fromOrderId⟩ }

/-- A sale without a check is refused, or added. -/
theorem createSale_of_none {input : CreateSaleInput} (h : input.fromOrderId = none) :
    createSale env s input =
      match env.refuseSale input s with
      | some error => .error error
      | none => .ok (env.newId s, withSale env s input) := by
  unfold createSale withSale
  rw [h]
  rfl

/-- A sale of an open check is refused, or added and the check completed. -/
theorem createSale_of_some {input : CreateSaleInput} {order : PosOrder}
    (h : input.fromOrderId = some orderId) (hget : s.orders.get? orderId = some order)
    (hopen : order.status = .PENDING) :
    createSale env s input =
      match env.refuseSale input s with
      | some error => .error error
      | none => .ok (env.newId s, (withSale env s input).closeOrder orderId .COMPLETED) := by
  unfold createSale withSale
  rw [h]
  simp only [hget, orThrow, require]
  change ((if order.status = .PENDING then (Except.ok () : Except String Unit) else _) >>= _) = _
  rw [if_pos hopen]
  rfl

/-- A sale completes the check found for it and touches no other. -/
theorem sale_frame_iff (env : ServerEnv) (userId : String) (event : SaleCompleted) (s : PosState) :
    FrameKept (.saleCompleted event) s (finalizeSale env event userId s).state ↔
      FindsNamed env userId s (.saleCompleted event) := by
  unfold finalizeSale
  by_cases hoffline : isOfflineCustomer event.customerId = true
  · rw [if_pos hoffline]
    exact iff_of_true ((SameOutside.of_eq (P := fun _ => False) rfl rfl).frameKept
      fun _ h => h.elim) (.inl hoffline)
  rw [if_neg hoffline]
  cases hrecorded : s.saleWithKey event.key with
  | some sale =>
    obtain ⟨horders, hitems, -⟩ := releaseFloor_rows s event none
    exact iff_of_true ((SameOutside.of_eq (P := fun _ => False) horders hitems).frameKept
      fun _ h => h.elim) (.inr (.inl (by rw [hrecorded]; rfl)))
  | none =>
    dsimp only
    cases htarget : saleTarget s event with
    | none =>
      have hfinds : FindsNamed env userId s (.saleCompleted event) := by
        refine .inr (.inr fun orderId hsome => ?_)
        rw [htarget] at hsome
        cases hsome
      refine iff_of_true ?_ hfinds
      rw [createSale_of_none rfl]
      cases env.refuseSale (saleInput env event userId none) s with
      | some error =>
        exact (SameOutside.of_eq (P := fun _ => False) rfl rfl).frameKept fun _ h => h.elim
      | none =>
        obtain ⟨horders, hitems, -⟩ :=
          releaseFloor_rows (withSale env s (saleInput env event userId none)) event none
        exact (SameOutside.of_eq (P := fun _ => False) horders hitems).frameKept fun _ h => h.elim
    | some orderId =>
      obtain ⟨order, hget, hopen⟩ := saleTarget_pending htarget
      rw [createSale_of_some rfl hget hopen]
      cases hrefuse : env.refuseSale (saleInput env event userId (some orderId)) s with
      | some error =>
        refine iff_of_true ((SameOutside.of_eq (P := fun _ => False) rfl rfl).frameKept
          fun _ h => h.elim) (.inr (.inr fun id hsome => .inr ?_))
        obtain rfl : orderId = id := Option.some_inj.mp (htarget.symm.trans hsome)
        rw [hrefuse]
        rfl
      | none =>
        dsimp only
        generalize hsold : (withSale env s (saleInput env event userId (some orderId))).closeOrder
          orderId .COMPLETED = sold
        obtain ⟨horders, hitems, -⟩ := releaseFloor_rows sold event (some orderId)
        have hsame : SameOutside (· = orderId) s sold := by
          rw [← hsold]
          exact (SameOutside.of_eq rfl rfl).trans (PosState.sameOutside_closeOrder _ _ _)
        constructor
        · -- the check that was found is completed, so it is a named one
          intro hframe
          refine .inr (.inr fun id hsome => .inl ?_)
          obtain rfl : orderId = id := Option.some_inj.mp (htarget.symm.trans hsome)
          by_contra hne
          obtain ⟨order', hget', hstatus, -⟩ := hframe orderId order hget
            fun hin => hne (List.mem_singleton.mp hin)
          rw [horders, ← hsold, PosState.closeOrder_get? (s := withSale env s _) hget hopen] at hget'
          obtain rfl := Option.some_inj.mp hget'
          rw [hopen] at hstatus
          cases hstatus
        · rintro (honline | hdone | hfound)
          · exact absurd honline hoffline
          · rw [hrecorded] at hdone
            cases hdone
          · rcases hfound orderId htarget with heq | hrefused
            · refine (hsame.trans (.of_eq horders hitems)).frameKept ?_
              rintro id rfl
              exact List.mem_singleton.mpr heq
            · rw [hrefuse] at hrefused
              cases hrefused

/-! ## Merging -/

/-- A merge changes both checks found for it and no other. -/
theorem merge_frame_iff (env : ServerEnv) (userId : String) (event : RestaurantCheckMerged)
    (s : PosState) :
    FrameKept (.merged event) s (mergeRestaurantChecks event userId s).state ↔
      FindsNamed env userId s (.merged event) := by
  have hkept : FrameKept (.merged event) s s :=
    (SameOutside.of_eq (P := fun _ => False) rfl rfl).frameKept fun _ h => h.elim
  unfold mergeRestaurantChecks
  by_cases hmode : s.restaurantMode = false
  · rw [if_pos hmode]
    refine iff_of_true hkept fun hon => ?_
    rw [hmode] at hon
    cases hon
  rw [if_neg hmode]
  cases hprimary : eventTable event.primaryTableId with
  | none =>
    refine iff_of_true hkept fun _ _ _ _ _ hsome => ?_
    rw [hprimary] at hsome
    cases hsome
  | some primaryTableId =>
    cases hsecondary : eventTable event.secondaryTableId with
    | none =>
      refine iff_of_true hkept fun _ _ _ _ _ _ hsome => ?_
      rw [hsecondary] at hsome
      cases hsome
    | some secondaryTableId =>
      dsimp only
      cases htargets : mergeTargets s primaryTableId secondaryTableId with
      | none =>
        refine iff_of_true hkept fun _ pt st pid sid hpt hst hsome => ?_
        obtain rfl := Option.some_inj.mp (hprimary.symm.trans hpt)
        obtain rfl := Option.some_inj.mp (hsecondary.symm.trans hst)
        rw [htargets] at hsome
        cases hsome
      | some targets =>
        obtain ⟨primaryId, secondaryId⟩ := targets
        dsimp only
        have hfinds : FindsNamed env userId s (.merged event) ↔
            (mergeAllowed s primaryId secondaryId userId = .ok () →
              primaryId ∈ [event.primaryOrderId, event.secondaryOrderId] ∧
                secondaryId ∈ [event.primaryOrderId, event.secondaryOrderId]) := by
          constructor
          · intro hall hallowed
            exact hall (by simpa using hmode) _ _ _ _ hprimary hsecondary htargets hallowed
          · intro hone _ pt st pid sid hpt hst hsome hallowed
            obtain rfl := Option.some_inj.mp (hprimary.symm.trans hpt)
            obtain rfl := Option.some_inj.mp (hsecondary.symm.trans hst)
            obtain ⟨rfl, rfl⟩ := Prod.mk.inj (Option.some_inj.mp (htargets.symm.trans hsome))
            exact hone hallowed
        rw [hfinds]
        cases hallowed : mergeAllowed s primaryId secondaryId userId with
        | error error =>
          have herror : mergeChecks s primaryId secondaryId userId = .error error := by
            simp only [mergeChecks, hallowed]
            rfl
          rw [herror]
          exact iff_of_true hkept fun h => by cases h
        | ok u =>
          obtain ⟨s', hmerge, -⟩ := mergeChecks_eq hallowed
          obtain ⟨⟨order', hget', hcancelled⟩, hlines⟩ := mergeChecks_changes hallowed hmerge
          have hready := mergeAllowed_ready hallowed
          rw [hmerge]
          constructor
          · intro hframe _
            constructor
            · -- the primary check has more lines than before
              by_contra hout
              obtain ⟨order, hget⟩ := hready.primary
              obtain ⟨_, -, -, -, hitems⟩ := hframe primaryId order hget hout
              exact hlines hitems
            · -- the secondary check is cancelled
              by_contra hout
              obtain ⟨order, hget, hopen⟩ := hready.secondary
              obtain ⟨order'', hget'', hstatus, -⟩ := hframe secondaryId order hget hout
              obtain rfl := Option.some_inj.mp (hget'.symm.trans hget'')
              rw [hcancelled, hopen] at hstatus
              cases hstatus
          · intro hnamed
            obtain ⟨hp, hs⟩ := hnamed rfl
            refine (sameOutside_mergeChecks hallowed hmerge).frameKept ?_
            rintro id (rfl | rfl)
            · exact hp
            · exact hs

/-! ## Splitting -/

/-- A split keeps all other checks if its source is a named one, or if it leaves the lines of
its source as they are. -/
theorem SplitDone.frame_iff {s' : PosState} {sourceId : String} {plan : SplitPlan}
    (event : RestaurantCheckSplit) (hready : SplitReady s sourceId plan)
    (h : SplitDone env s sourceId plan s') :
    FrameKept (.split event) s s' ↔ sourceId = event.sourceOrderId ∨ LeavesLines s plan := by
  have hsame := sameOutside_split hready h
  constructor
  · intro hframe
    by_cases hnamed : sourceId = event.sourceOrderId
    · exact .inl hnamed
    · obtain ⟨_, -, -, -, hitems⟩ := hframe sourceId plan.source hready.source
        fun hin => hnamed (List.mem_singleton.mp hin)
      exact .inr ((applySplit_leaves_iff hready h).mp hitems)
  · rintro (hnamed | hleaves)
    · refine hsame.frameKept ?_
      rintro id rfl
      exact List.mem_singleton.mpr hnamed
    · have hall : SameOutside (fun _ => False) s s' := by
        intro id order hget _
        by_cases hid : id = sourceId
        · subst hid
          refine ⟨?_, (applySplit_leaves_iff hready h).mpr hleaves⟩
          rw [h.orders, OrderedMap.get?_set_of_ne hready.source_ne, hget]
        · exact hsame id order hget hid
      exact hall.frameKept fun _ hin => hin.elim

/-- A split changes the check it was resolved to and no other. -/
theorem split_frame_iff (env : ServerEnv) (userId : String) (event : RestaurantCheckSplit)
    (s : PosState) :
    FrameKept (.split event) s (splitRestaurantCheck env event userId s).state ↔
      FindsNamed env userId s (.split event) := by
  have hkept : FrameKept (.split event) s s :=
    (SameOutside.of_eq (P := fun _ => False) rfl rfl).frameKept fun _ h => h.elim
  unfold splitRestaurantCheck
  by_cases hmode : s.restaurantMode = false
  · rw [if_pos hmode]
    refine iff_of_true hkept fun hon => ?_
    rw [hmode] at hon
    cases hon
  rw [if_neg hmode]
  cases hsource : resolveSourceOrderIdForSplit s event with
  | none =>
    refine iff_of_true hkept fun _ _ _ hsome => ?_
    rw [hsource] at hsome
    cases hsome
  | some sourceId =>
    dsimp only
    by_cases hlength : (resolveSplitItems s sourceId event).length ≠ event.lineIds.length
    · rw [if_pos hlength]
      refine iff_of_true hkept fun _ id _ hsome hall => ?_
      obtain rfl := Option.some_inj.mp (hsource.symm.trans hsome)
      exact absurd hall hlength
    rw [if_neg hlength]
    have hfinds : FindsNamed env userId s (.split event) ↔ ∀ plan, splitPlan s sourceId
        (resolveSplitItems s sourceId event) event.targetTableId event.sameTable userId = .ok plan →
          sourceId = event.sourceOrderId ∨ LeavesLines s plan := by
      constructor
      · intro hall plan hplan
        exact hall (by simpa using hmode) sourceId plan hsource (not_not.mp hlength) hplan
      · intro hone _ id plan hsome _ hplan
        obtain rfl := Option.some_inj.mp (hsource.symm.trans hsome)
        exact hone plan hplan
    rw [hfinds]
    cases hplan : splitPlan s sourceId (resolveSplitItems s sourceId event) event.targetTableId
        event.sameTable userId with
    | error error =>
      have herror : splitCheck env s sourceId (resolveSplitItems s sourceId event)
          event.targetTableId event.sameTable userId = .error error := by
        rw [splitCheck, hplan]
        rfl
      rw [herror]
      exact iff_of_true hkept fun _ h => by cases h
    | ok plan =>
      have hready := splitPlan_ready hplan
      obtain ⟨s', happly, hdone⟩ := applySplit_eq env hready
      have hok : splitCheck env s sourceId (resolveSplitItems s sourceId event)
          event.targetTableId event.sameTable userId = .ok s' := by
        rw [splitCheck, hplan]
        exact happly
      rw [hok]
      refine (hdone.frame_iff event hready).trans ⟨?_, fun h => h plan rfl⟩
      rintro h plan' hplan'
      obtain rfl := Except.ok.inj hplan'
      exact h

/-! ## All events -/

/-- **A replayed event leaves the checks it does not name alone exactly when the checks found
for it are the ones it names**, or nothing comes of the ones that were found. -/
theorem frame_kept_iff (env : ServerEnv) (userId : String) (event : CheckEvent) (s : PosState)
    (hnames : NamesServerOrders event s) :
    FrameKept event s (replayCheckEvent env userId event s).state ↔
      FindsNamed env userId s event := by
  cases event with
  | saleCompleted event => exact sale_frame_iff env userId event s
  | merged event => exact merge_frame_iff env userId event s
  | split event => exact split_frame_iff env userId event s
  | cancelled event =>
    obtain ⟨huuid, -⟩ := hnames event.orderId (List.mem_singleton.mpr rfl)
    refine iff_of_true ((sameOutside_cancelOrder event userId s huuid).frameKept ?_) trivial
    rintro id rfl
    exact List.mem_singleton.mpr rfl

/-! ## A table with two checks -/

/-- A text longer than all of `ids`. -/
def longerId (ids : List String) : String :=
  String.ofList (List.replicate ((ids.map String.length).sum + 1) 'x')

theorem longerId_notMem (ids : List String) : longerId ids ∉ ids := by
  intro hin
  have hle : (longerId ids).length ≤ (ids.map String.length).sum :=
    List.single_le_sum (fun _ _ => Nat.zero_le _) _ (List.mem_map_of_mem hin)
  rw [longerId, String.length_ofList, List.length_replicate] at hle
  omega

/-- A server that refuses no sale. -/
def openServer : ServerEnv where
  now := 100
  newId s := longerId (s.orders.keys ++ s.items.keys ++ s.sales.keys)
  newId_fresh s := by
    have hfresh := longerId_notMem (s.orders.keys ++ s.items.keys ++ s.sales.keys)
    rw [List.mem_append, List.mem_append, not_or, not_or] at hfresh
    exact ⟨lookupEntry_eq_none_iff.mpr hfresh.1.1, lookupEntry_eq_none_iff.mpr hfresh.1.2,
      lookupEntry_eq_none_iff.mpr hfresh.2⟩
  nextOrderNumber _ := "ORD-9"
  openSession _ := none
  resolveSaleItemUom _ quantity _ := .ok (Numeric.ofRat quantity, Numeric.ofRat 1)
  refuseSale _ _ := none

/-- The check that was opened first. -/
def firstCheckId : String := "0a000000-0000-4000-8000-000000000001"

/-- The check the table points at. -/
def secondCheckId : String := "0a000000-0000-4000-8000-000000000002"

/-- An open check on table `T1`. -/
def openCheck (orderNumber : String) (createdAt : ℤ) : PosOrder :=
  { orderNumber := orderNumber
    status := .PENDING
    tableId := some "T1"
    orderChannel := .DINE_IN
    waiterId := none
    customerId := none
    idempotencyKey := none
    notes := none
    createdAt := createdAt }

/-- Table `T1` with two open checks. -/
def sharedTable : PosState where
  restaurantMode := true
  tables := OrderedMap.empty.set "T1" ⟨"T1", "Table 1", "MAIN", true, .OCCUPIED, some secondCheckId⟩
  orders := (OrderedMap.empty.set firstCheckId (openCheck "ORD-1" 1)).set secondCheckId
    (openCheck "ORD-2" 2)
  items := .empty
  sales := .empty

/-- The payment of a check of table `T1`. -/
def checkPaid (orderId : String) : SaleCompleted :=
  { key := "sale-1"
    orderId := orderId
    offlineId := "offline-1"
    customerId := none
    lines := []
    payments := []
    subtotal := 10
    discountAmount := 0
    taxAmount := 0
    totalAmount := 10
    giftReason := none
    stockDeductions := []
    ts := 50
    tableId := some "T1"
    channel := some .DINE_IN
    tableCode := some "T1" }

theorem checkPaid_named (huuid : isUuidText orderId = true)
    (hget : (sharedTable.orders.get? orderId).isSome = true) :
    NamesServerOrders (.saleCompleted (checkPaid orderId)) sharedTable := by
  intro id hid
  obtain rfl := List.mem_singleton.mp hid
  exact ⟨huuid, hget⟩

/-- Paying the check the table points at leaves the other one alone. -/
theorem second_check_paid :
    NamesServerOrders (.saleCompleted (checkPaid secondCheckId)) sharedTable ∧
      FrameKept (.saleCompleted (checkPaid secondCheckId)) sharedTable
        (replayCheckEvent openServer "user" (.saleCompleted (checkPaid secondCheckId))
          sharedTable).state := by
  have hnames : NamesServerOrders (.saleCompleted (checkPaid secondCheckId)) sharedTable :=
    checkPaid_named (by decide +kernel) (by decide +kernel)
  have htarget : saleTarget sharedTable (checkPaid secondCheckId) = some secondCheckId := by
    decide +kernel
  refine ⟨hnames, (frame_kept_iff openServer "user" _ sharedTable hnames).mpr ?_⟩
  refine .inr (.inr fun orderId hsome => .inl ?_)
  exact Option.some_inj.mp (hsome.symm.trans htarget)

/-- Paying the first check completes the second one: the sale is resolved by table. -/
theorem first_check_paid :
    NamesServerOrders (.saleCompleted (checkPaid firstCheckId)) sharedTable ∧
      ¬ FrameKept (.saleCompleted (checkPaid firstCheckId)) sharedTable
        (replayCheckEvent openServer "user" (.saleCompleted (checkPaid firstCheckId))
          sharedTable).state := by
  refine ⟨checkPaid_named (by decide +kernel) (by decide +kernel), fun hframe => ?_⟩
  have hcompleted : (replayCheckEvent openServer "user" (.saleCompleted (checkPaid firstCheckId))
      sharedTable).state.orders.get? secondCheckId =
        some { openCheck "ORD-2" 2 with status := .COMPLETED } := by
    decide +kernel
  have hget : sharedTable.orders.get? secondCheckId = some (openCheck "ORD-2" 2) := by
    decide +kernel
  have hout : secondCheckId ∉ (CheckEvent.saleCompleted (checkPaid firstCheckId)).named := by
    decide +kernel
  obtain ⟨order', hget', hstatus, -⟩ := hframe secondCheckId _ hget hout
  obtain rfl := Option.some_inj.mp (hcompleted.symm.trans hget')
  cases hstatus

end SmartErpPos.Pos
