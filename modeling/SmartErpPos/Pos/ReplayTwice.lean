/-
  Pos/ReplayTwice.lean --- a sale that is replayed a second time.

  A sale that is recorded under its key is not recorded again, but the duplicate branch of
  `finalizeSale` still frees the floor: it looks for the check that is on the table now and
  releases the table for it, as if that check had been paid.  So a second delivery is without
  effect exactly when there is nothing to free (`FloorAtRest`).

  `second_replay_iff` says this after any run of other replays and other work that lies
  between the two deliveries; all it needs of the run is that a recorded sale stays recorded.
-/
import Mathlib.Logic.Relation
import SmartErpPos.Pos.CheckFrame
import SmartErpPos.Pos.EventReplayer
import SmartErpPos.Pos.ReplayFrame

set_option autoImplicit false

namespace SmartErpPos.Pos

open SmartErpPos.Lib SmartErpPos.Offline

/-! ## The floor at rest -/

/-- The table is free, if there is one. -/
def TableFree (s : PosState) (tableId : String) : Prop :=
  ∀ table, s.tables.get? tableId = some table → table.status = .FREE ∧ table.currentOrderId = none

/-- There is nothing to free on a table: it is free, and if there is an open check on it all
the same, no table points at that check and it is the only one. -/
def TableAtRest (s : PosState) (tableId : String) : Prop :=
  TableFree s tableId ∧ ∀ orderId, resolvePendingOrderIdForTable s tableId = some orderId →
    s.tablePointingAt orderId = none ∧
      (s.tables.get? tableId = none ∨ s.siblingOn tableId orderId = none)

/-- There is nothing to free for a sale. -/
def FloorAtRest (s : PosState) (event : SaleCompleted) : Prop :=
  s.restaurantMode = true → ∀ tableId, eventTable event.tableId = some tableId →
    TableAtRest s tableId

namespace PosState

variable {s : PosState} {tableId orderId : String}

theorem withTables_eq_self_iff {tables : OrderedMap String RestaurantTable} :
    ({ s with tables := tables } : PosState) = s ↔ tables = s.tables := by
  constructor
  · exact congrArg PosState.tables
  · intro h
    rw [h]

/-- Releasing a free table does nothing. -/
theorem releaseTable_eq_self_iff : s.releaseTable tableId = s ↔ TableFree s tableId := by
  refine withTables_eq_self_iff.trans (OrderedMap.modify_eq_self_iff.trans ?_)
  refine forall_congr' fun table => imp_congr_right fun _ => ?_
  constructor
  · intro h
    rw [← h]
    exact ⟨rfl, rfl⟩
  · rintro ⟨hstatus, hcurrent⟩
    rw [← hstatus, ← hcurrent]

/-- After a table has been given to a check it points at that check. -/
theorem current_of_occupyTable_eq_self (h : s.occupyTable tableId orderId = s)
    {table : RestaurantTable} (hget : s.tables.get? tableId = some table) :
    table.currentOrderId = some orderId := by
  have hrow := OrderedMap.modify_eq_self_iff.mp (withTables_eq_self_iff.mp h) table hget
  rw [← hrow]

theorem tablePointingAt_eq_some {row : Row RestaurantTable}
    (h : s.tablePointingAt orderId = some row) :
    s.tables.get? row.1 = some row.2 ∧ row.2.currentOrderId = some orderId :=
  ⟨OrderedMap.get?_eq_some_iff.mpr (List.mem_of_find?_eq_some h),
    by simpa using List.find?_some h⟩

theorem tablePointingAt_ne_none {table : RestaurantTable} (hget : s.tables.get? tableId = some table)
    (hcurrent : table.currentOrderId = some orderId) : s.tablePointingAt orderId ≠ none := by
  intro hnone
  have hall := List.find?_eq_none.mp hnone (tableId, table) (OrderedMap.get?_eq_some_iff.mp hget)
  exact hall (decide_eq_true hcurrent)

theorem siblingOn_eq_some {row : Row PosOrder} (h : s.siblingOn tableId orderId = some row) :
    row ∈ s.pendingOn tableId ∧ row.1 ≠ orderId := by
  have hmem : row ∈ oldestFirst _ := List.mem_of_head? h
  rw [oldestFirst, List.mem_insertionSort, List.mem_filter, Bool.and_eq_true] at hmem
  exact ⟨hmem.1, of_decide_eq_true hmem.2.1⟩

theorem mem_pendingOn {row : Row PosOrder} :
    row ∈ s.pendingOn tableId ↔ s.orders.get? row.1 = some row.2 ∧ row.2.status = .PENDING ∧
      row.2.tableId = some tableId := by
  rw [pendingOn, List.mem_filter, Bool.and_eq_true, decide_eq_true_eq, decide_eq_true_eq,
    OrderedMap.get?_eq_some_iff]

/-- A table that points at a check does not do so after it was released for it. -/
theorem releaseTableByOrderId_ne_self (h : s.tablePointingAt orderId ≠ none) :
    s.releaseTableByOrderId orderId ≠ s := by
  obtain ⟨row, hrow⟩ := Option.ne_none_iff_exists'.mp h
  obtain ⟨hget, hcurrent⟩ := tablePointingAt_eq_some hrow
  have htable : s.tableOfOrder orderId = some row.1 := by
    rw [tableOfOrder, hrow]
  intro hself
  rw [releaseTableByOrderId, htable] at hself
  dsimp only at hself
  cases hsibling : s.siblingOn row.1 orderId with
  | none =>
    rw [hsibling] at hself
    have hfree := (releaseTable_eq_self_iff.mp hself _ hget).2
    rw [hcurrent] at hfree
    cases hfree
  | some sibling =>
    rw [hsibling] at hself
    have hsame := hcurrent.symm.trans (current_of_occupyTable_eq_self hself hget)
    exact (siblingOn_eq_some hsibling).2 (Option.some_inj.mp hsame).symm

end PosState

/-- An open check that a table stands for and that no table points at is on that table, and
the table points at no open check. -/
theorem resolved_unpointed {s : PosState} {tableId orderId : String}
    (h : resolvePendingOrderIdForTable s tableId = some orderId)
    (hpointing : s.tablePointingAt orderId = none) :
    pendingCurrent s tableId = none ∧ (s.orders.get? orderId).bind (·.tableId) = some tableId := by
  unfold resolvePendingOrderIdForTable at h
  cases hcurrent : pendingCurrent s tableId with
  | some id =>
    rw [hcurrent] at h
    obtain rfl : id = orderId := Option.some_inj.mp h
    obtain ⟨table, hget, hid⟩ := Option.bind_eq_some_iff.mp (Option.filter_eq_some_iff.mp hcurrent).1
    exact absurd hpointing (PosState.tablePointingAt_ne_none hget hid)
  | none =>
    rw [hcurrent] at h
    obtain ⟨row, hhead, rfl⟩ := Option.map_eq_some_iff.mp h
    have hmem : row ∈ PosState.newestFirst (s.pendingOn tableId) := List.mem_of_head? hhead
    rw [PosState.newestFirst, List.mem_insertionSort] at hmem
    obtain ⟨hget, -, htable⟩ := PosState.mem_pendingOn.mp hmem
    exact ⟨rfl, by rw [hget]; exact htable⟩

/-- Releasing the table for the check on it does nothing exactly when the table is at rest. -/
theorem releaseTableByOrderId_eq_self_iff {s : PosState} {tableId orderId : String}
    (h : resolvePendingOrderIdForTable s tableId = some orderId) :
    s.releaseTableByOrderId orderId = s ↔ TableAtRest s tableId := by
  have hrest : TableAtRest s tableId ↔ TableFree s tableId ∧ s.tablePointingAt orderId = none ∧
      (s.tables.get? tableId = none ∨ s.siblingOn tableId orderId = none) := by
    constructor
    · rintro ⟨hfree, hall⟩
      exact ⟨hfree, hall orderId h⟩
    · rintro ⟨hfree, hone⟩
      refine ⟨hfree, fun id hid => ?_⟩
      obtain rfl := Option.some_inj.mp (h.symm.trans hid)
      exact hone
  rw [hrest]
  by_cases hpointing : s.tablePointingAt orderId = none
  · obtain ⟨hcurrent, htable⟩ := resolved_unpointed h hpointing
    have htableOf : s.tableOfOrder orderId =
        (some tableId).filter fun id => (s.tables.get? id).isSome := by
      rw [PosState.tableOfOrder, hpointing, htable]
    cases hget : s.tables.get? tableId with
    | none =>
      have hfree : TableFree s tableId := by
        intro table hsome
        rw [hget] at hsome
        cases hsome
      have hnone : s.tableOfOrder orderId = none := by simp [htableOf, Option.filter, hget]
      rw [PosState.releaseTableByOrderId, hnone]
      exact iff_of_true rfl ⟨hfree, hpointing, .inl rfl⟩
    | some table =>
      have hsome : s.tableOfOrder orderId = some tableId := by simp [htableOf, Option.filter, hget]
      rw [PosState.releaseTableByOrderId, hsome]
      dsimp only
      cases hsibling : s.siblingOn tableId orderId with
      | none => simp [PosState.releaseTable_eq_self_iff, hpointing]
      | some sibling =>
        -- the sibling would be the open check the table points at
        refine iff_of_false (fun hself => ?_) (by simp)
        have hid := PosState.current_of_occupyTable_eq_self hself hget
        obtain ⟨hrow, hopen, -⟩ := PosState.mem_pendingOn.mp (PosState.siblingOn_eq_some hsibling).1
        rw [pendingCurrent, hget, Option.bind_some, hid] at hcurrent
        simp [Option.filter, PosState.isPending, hrow, hopen] at hcurrent
  · exact iff_of_false (PosState.releaseTableByOrderId_ne_self hpointing) fun hall => hpointing hall.2.1

/-- The duplicate branch frees nothing exactly when the floor is at rest. -/
theorem releaseFloor_eq_self_iff (s : PosState) (event : SaleCompleted) :
    (releaseRestaurantFloorAfterSale s event none).2 = s ↔ FloorAtRest s event := by
  unfold releaseRestaurantFloorAfterSale FloorAtRest
  cases heventTable : eventTable event.tableId with
  | none => simp
  | some tableId =>
    dsimp only
    by_cases hmode : s.restaurantMode = false
    · simp [hmode]
    · have hon : s.restaurantMode = true := by simpa using hmode
      rw [if_neg hmode]
      have hrest : (s.restaurantMode = true → ∀ id, some tableId = some id → TableAtRest s id) ↔
          TableAtRest s tableId := by simp [hon]
      rw [hrest]
      cases hresolved : resolvePendingOrderIdForTable s tableId with
      | none =>
        refine PosState.releaseTable_eq_self_iff.trans ⟨fun hfree => ⟨hfree, ?_⟩, And.left⟩
        intro orderId hsome
        rw [hresolved] at hsome
        cases hsome
      | some orderId =>
        simp only [Option.orElse, releaseTableForOrder, hon, if_true]
        exact releaseTableByOrderId_eq_self_iff hresolved

/-! ## Recorded sales -/

/-- No recorded sale gets lost or changes its key. -/
def KeepsSales (s s' : PosState) : Prop :=
  ∀ id sale, s.sales.get? id = some sale → s'.sales.get? id = some sale

namespace KeepsSales

variable {s s' s'' : PosState}

theorem of_eq (h : s'.sales = s.sales) : KeepsSales s s' := by
  intro id sale hget
  rwa [h]

instance : Std.Refl KeepsSales := ⟨fun _ => .of_eq rfl⟩

instance : IsTrans PosState KeepsSales :=
  ⟨fun _ _ _ h h' id sale hget => h' id sale (h id sale hget)⟩

/-- A recorded key stays recorded. -/
theorem recorded (h : KeepsSales s s') {key : String} (hrecorded : (s.saleWithKey key).isSome = true) :
    (s'.saleWithKey key).isSome = true := by
  rw [PosState.saleWithKey, List.find?_isSome] at hrecorded ⊢
  obtain ⟨row, hrow, hkey⟩ := hrecorded
  refine ⟨row, ?_, hkey⟩
  exact OrderedMap.get?_eq_some_iff.mp (h row.1 row.2 (OrderedMap.get?_eq_some_iff.mpr hrow))

end KeepsSales

/-- A sale without a check, or of an open check, is refused or recorded. -/
theorem createSale_eq {env : ServerEnv} {s : PosState} {input : CreateSaleInput}
    (h : ∀ orderId, input.fromOrderId = some orderId →
      ∃ order, s.orders.get? orderId = some order ∧ order.status = .PENDING) :
    (∃ error, env.refuseSale input s = some error ∧ createSale env s input = .error error) ∨
      (env.refuseSale input s = none ∧ ∃ sold, createSale env s input = .ok (env.newId s, sold) ∧
        sold.sales = (withSale env s input).sales) := by
  cases hfrom : input.fromOrderId with
  | none =>
    rw [createSale_of_none hfrom]
    cases hrefuse : env.refuseSale input s with
    | some error => exact .inl ⟨error, rfl, rfl⟩
    | none => exact .inr ⟨rfl, _, rfl, rfl⟩
  | some orderId =>
    obtain ⟨order, hget, hopen⟩ := h orderId hfrom
    rw [createSale_of_some hfrom hget hopen]
    cases hrefuse : env.refuseSale input s with
    | some error => exact .inl ⟨error, rfl, rfl⟩
    | none => exact .inr ⟨rfl, _, rfl, rfl⟩

/-- The sale of a replay that was not recorded before. -/
theorem createSale_saleInput_eq (env : ServerEnv) (userId : String) (event : SaleCompleted)
    (s : PosState) :
    (∃ error, env.refuseSale (saleInput env event userId (saleTarget s event)) s = some error ∧
        createSale env s (saleInput env event userId (saleTarget s event)) = .error error) ∨
      (env.refuseSale (saleInput env event userId (saleTarget s event)) s = none ∧ ∃ sold,
        createSale env s (saleInput env event userId (saleTarget s event)) =
          .ok (env.newId s, sold) ∧
        sold.sales = s.sales.set (env.newId s) ⟨some event.key, saleTarget s event⟩) :=
  createSale_eq fun _ htarget => saleTarget_pending htarget

/-- The sale is recorded, or has been found recorded. -/
def ReplayResult.isRecorded : ReplayResult → Bool
  | .SYNCED _ => true
  | .DUPLICATE _ => true
  | _ => false

/-- A replay keeps the recorded sales, and records its own unless it is refused. -/
theorem finalizeSale_keepsSales (env : ServerEnv) (userId : String) (event : SaleCompleted)
    (s : PosState) :
    KeepsSales s (finalizeSale env event userId s).state ∧
      ((finalizeSale env event userId s).result.isRecorded = true →
        isOfflineCustomer event.customerId = false ∧
          ((finalizeSale env event userId s).state.saleWithKey event.key).isSome = true) := by
  unfold finalizeSale
  by_cases hoffline : isOfflineCustomer event.customerId = true
  · rw [if_pos hoffline]
    exact ⟨.of_eq rfl, fun h => by cases h⟩
  have honline : isOfflineCustomer event.customerId = false := by simpa using hoffline
  rw [if_neg hoffline]
  cases hrecorded : s.saleWithKey event.key with
  | some sale =>
    have hkeeps : KeepsSales s (releaseRestaurantFloorAfterSale s event none).2 :=
      .of_eq (releaseFloor_rows s event none).2.2
    exact ⟨hkeeps, fun _ => ⟨honline, hkeeps.recorded (by rw [hrecorded]; rfl)⟩⟩
  | none =>
    dsimp only
    rcases createSale_saleInput_eq env userId event s with ⟨error, -, hsale⟩ | ⟨-, sold, hsale, hsales⟩
    · rw [hsale]
      refine ⟨.of_eq rfl, fun h => ?_⟩
      dsimp only at h
      split at h
      · cases h
      · cases h
    · rw [hsale]
      dsimp only
      have hafter := (releaseFloor_rows sold event (saleTarget s event)).2.2.trans hsales
      refine ⟨fun id sale hget => ?_, fun _ => ⟨honline, ?_⟩⟩
      · have hne : id ≠ env.newId s := by
          rintro rfl
          rw [(env.newId_fresh s).2.2] at hget
          cases hget
        rw [hafter, OrderedMap.get?_set_of_ne hne, hget]
      · rw [PosState.saleWithKey, List.find?_isSome]
        refine ⟨(env.newId s, ⟨some event.key, saleTarget s event⟩), ?_, decide_eq_true rfl⟩
        rw [← OrderedMap.get?_eq_some_iff, hafter, OrderedMap.get?_set_self]

/-! ## Other replays keep the sales -/

theorem releaseTableForOrder_sales (s : PosState) (orderId : String) :
    (releaseTableForOrder s orderId).sales = s.sales :=
  (releaseTableForOrder_rows s orderId).2.2

theorem cancelOrder_sales (event : OrderCancelled) (userId : String) (s : PosState) :
    (cancelOrder event userId s).state.sales = s.sales := by
  unfold cancelOrder
  cases cancelTarget s event with
  | none =>
    dsimp only [releaseIfEmpty]
    cases eventTable event.tableId with
    | none => rfl
    | some tableId =>
      dsimp only
      split
      · rfl
      · rfl
  | some orderId =>
    dsimp only
    cases s.orders.get? orderId with
    | none => rfl
    | some order =>
      dsimp only
      cases order.status with
      | COMPLETED => rfl
      | CANCELLED => exact releaseTableForOrder_sales s orderId
      | PENDING =>
        dsimp only
        split
        · rfl
        · rename_i s' hcancelled
          split at hcancelled
          · split at hcancelled
            · simp only [cancelCheck, bind_eq_ok, pure_eq_ok] at hcancelled
              obtain ⟨_, -, _, -, s₁, hcancel, rfl⟩ := hcancelled
              obtain ⟨-, -, -, rfl⟩ := cancelOpenOrder_eq_ok hcancel
              exact releaseTableForOrder_sales _ orderId
            · cases hcancelled
          · obtain ⟨s₁, hcancel, rfl⟩ := map_eq_ok hcancelled
            obtain ⟨-, -, -, rfl⟩ := cancelOpenOrder_eq_ok hcancel
            exact releaseTableForOrder_sales _ orderId

theorem transferCheck_sales {s s' : PosState} {orderId toTableId userId : String}
    (h : transferCheck s orderId toTableId userId = .ok s') : s'.sales = s.sales := by
  simp only [transferCheck, bind_eq_ok, pure_eq_ok] at h
  obtain ⟨_, -, _, -, _, -, _, -, _, -, _, -, toTable, -, _, -, rfl⟩ := h
  have hreleased := ((s.placeOrder orderId toTableId
    (channelForTable toTable)).releaseTableByOrderId_rows orderId).2.2
  dsimp only [PosState.occupyTable]
  split
  · exact hreleased
  · exact hreleased

theorem transferRestaurantCheck_sales (event : RestaurantCheckTransferred) (userId : String)
    (s : PosState) : (transferRestaurantCheck event userId s).state.sales = s.sales := by
  unfold transferRestaurantCheck
  split
  · rfl
  · generalize (if isPendingOrderOnTable s event.orderId event.fromTableId then some event.orderId
      else resolvePendingOrderIdForTable s event.fromTableId) = source
    cases source with
    | none => rfl
    | some orderId =>
      dsimp only
      split
      · rfl
      · rename_i s' htransfer
        exact transferCheck_sales htransfer

theorem mergeRestaurantChecks_sales (event : RestaurantCheckMerged) (userId : String)
    (s : PosState) : (mergeRestaurantChecks event userId s).state.sales = s.sales := by
  unfold mergeRestaurantChecks
  split
  · rfl
  · split
    · split
      · rfl
      · split
        · rfl
        · rename_i primaryId secondaryId _ _ s' hmerge
          have hallowed : mergeAllowed s primaryId secondaryId userId = .ok () := by
            obtain ⟨u, hu, -⟩ := bind_eq_ok.mp hmerge
            exact hu
          obtain ⟨s₁, hok, -, -, hsales⟩ := mergeChecks_eq hallowed
          obtain rfl : s₁ = s' := Except.ok.inj (hok.symm.trans hmerge)
          exact hsales
    · rfl

theorem splitRestaurantCheck_sales (env : ServerEnv) (event : RestaurantCheckSplit)
    (userId : String) (s : PosState) :
    (splitRestaurantCheck env event userId s).state.sales = s.sales := by
  unfold splitRestaurantCheck
  split
  · rfl
  · split
    · rfl
    · dsimp only
      split
      · rfl
      · split
        · rfl
        · rename_i sourceId _ _ _ s' hsplit
          obtain ⟨plan, hplan, happly⟩ := bind_eq_ok.mp hsplit
          obtain ⟨s₁, hok, hdone⟩ := applySplit_eq env (splitPlan_ready hplan)
          obtain rfl : s₁ = s' := Except.ok.inj (hok.symm.trans happly)
          exact hdone.sales

theorem insertLine_sales {env : ServerEnv} {orderId : String} {s s' : PosState} {line : EventLine}
    (h : insertLine env orderId s line = .ok s') : s'.sales = s.sales := by
  unfold insertLine at h
  dsimp only at h
  split at h
  · obtain ⟨_, -, hok⟩ := bind_eq_ok.mp h
    cases hok
    rfl
  · cases h
    rfl

theorem createOrder_sales {env : ServerEnv} {s s' : PosState} {event : OrderCreated}
    {orderId : String} (h : createOrder env s event = .ok (orderId, s')) : s'.sales = s.sales := by
  simp only [createOrder, bind_eq_ok] at h
  obtain ⟨_, -, hrest⟩ := h
  split at hrest
  · cases hrest
    rfl
  · simp only [bind_eq_ok, pure_eq_ok] at hrest
    obtain ⟨s₁, hlines, hpair⟩ := hrest
    obtain ⟨rfl, rfl⟩ := Prod.mk.inj hpair
    exact foldlM_invariant (P := fun a => a.sales = s.sales)
      (fun _ _ _ _ ha hb => (insertLine_sales hb).trans ha) rfl hlines

theorem createOrderDraft_sales (env : ServerEnv) (event : OrderCreated) (s : PosState) :
    (createOrderDraft env event s).state.sales = s.sales := by
  unfold createOrderDraft
  split
  · rfl
  · split
    · rfl
    · rename_i orderId s' hcreate
      refine Eq.trans ?_ (createOrder_sales hcreate)
      dsimp only [linkTable]
      split
      · split
        · rfl
        · rfl
      · rfl

/-! ## What happens between two deliveries -/

/-- The server replays an event, or does other work that keeps the recorded sales. -/
inductive ServerStep : PosState → PosState → Prop
  | replayed {env : ServerEnv} {event : PosOfflineEvent} {userId : String} {s : PosState}
      {r : Replayed} (h : replay env event userId s = some r) : ServerStep s r.state
  | other {s s' : PosState} (h : KeepsSales s s') : ServerStep s s'

/-- Every step keeps the recorded sales. -/
theorem ServerStep.keepsSales {s s' : PosState} (h : ServerStep s s') : KeepsSales s s' := by
  cases h with
  | other h => exact h
  | @replayed env event userId _ r h =>
    cases event with
    | ORDER_CREATED event =>
      cases h
      exact .of_eq (createOrderDraft_sales env event s)
    | SALE_COMPLETED event =>
      cases h
      exact (finalizeSale_keepsSales env userId event s).1
    | ORDER_CANCELLED event =>
      cases h
      exact .of_eq (cancelOrder_sales event userId s)
    | RESTAURANT_CHECK_TRANSFERRED event =>
      cases h
      exact .of_eq (transferRestaurantCheck_sales event userId s)
    | RESTAURANT_CHECK_MERGED event =>
      cases h
      exact .of_eq (mergeRestaurantChecks_sales event userId s)
    | RESTAURANT_CHECK_SPLIT event =>
      cases h
      exact .of_eq (splitRestaurantCheck_sales env event userId s)
    | ORDER_UPDATED _ => cases h
    | RESTAURANT_KOT_FIRED _ => cases h
    | PAYMENT_ADDED _ | SALE_VOIDED _ | RESTAURANT_KOT_STATUS _ =>
      cases h
      exact .of_eq rfl

/-- Every run keeps the recorded sales. -/
theorem run_keepsSales {s s' : PosState} (h : Relation.ReflTransGen ServerStep s s') :
    KeepsSales s s' :=
  Relation.reflTransGen_le_of_le (fun _ _ hstep => hstep.keepsSales) s s' h

/-! ## The second replay -/

/-- The replay of a sale has nothing left to do: the sale is for review whatever happens, or it
is recorded and the floor is at rest, or it is refused. -/
def Settled (env : ServerEnv) (userId : String) (event : SaleCompleted) (s : PosState) : Prop :=
  isOfflineCustomer event.customerId = true ∨
    match s.saleWithKey event.key with
    | some _ => FloorAtRest s event
    | none => (env.refuseSale (saleInput env event userId (saleTarget s event)) s).isSome = true

/-- A replay of a sale changes nothing exactly when it has nothing left to do. -/
theorem finalizeSale_eq_self_iff (env : ServerEnv) (userId : String) (event : SaleCompleted)
    (s : PosState) :
    (finalizeSale env event userId s).state = s ↔ Settled env userId event s := by
  unfold finalizeSale Settled
  by_cases hoffline : isOfflineCustomer event.customerId = true
  · rw [if_pos hoffline]
    exact iff_of_true rfl (.inl hoffline)
  rw [if_neg hoffline, or_iff_right hoffline]
  cases hrecorded : s.saleWithKey event.key with
  | some sale => exact releaseFloor_eq_self_iff s event
  | none =>
    dsimp only
    rcases createSale_saleInput_eq env userId event s with
      ⟨error, hrefuse, hsale⟩ | ⟨hrefuse, sold, hsale, hsales⟩
    · rw [hsale, hrefuse]
      exact iff_of_true rfl rfl
    · rw [hsale, hrefuse]
      refine iff_of_false (fun hself => ?_) (by simp)
      -- the new sale has an id that was not there
      have hafter := (releaseFloor_rows sold event (saleTarget s event)).2.2.trans hsales
      have hfresh := (env.newId_fresh s).2.2
      rw [← congrArg PosState.sales hself] at hfresh
      dsimp only at hfresh
      rw [hafter, OrderedMap.get?_set_self] at hfresh
      cases hfresh

/-- **A second replay of a sale, after any run of the server, changes nothing exactly when it
has nothing left to do**; for a sale that the first replay left recorded, exactly when the
floor is at rest. -/
theorem second_replay_iff {env₁ env₂ : ServerEnv} {user₁ user₂ : String} {event : SaleCompleted}
    {s₀ s₂ : PosState}
    (hrun : Relation.ReflTransGen ServerStep (finalizeSale env₁ event user₁ s₀).state s₂) :
    ((finalizeSale env₂ event user₂ s₂).state = s₂ ↔ Settled env₂ user₂ event s₂) ∧
      ((finalizeSale env₁ event user₁ s₀).result.isRecorded = true →
        ((finalizeSale env₂ event user₂ s₂).state = s₂ ↔ FloorAtRest s₂ event)) := by
  refine ⟨finalizeSale_eq_self_iff env₂ user₂ event s₂, fun hfirst => ?_⟩
  obtain ⟨honline, hafter⟩ := (finalizeSale_keepsSales env₁ user₁ event s₀).2 hfirst
  have hstill := (run_keepsSales hrun).recorded hafter
  rw [finalizeSale_eq_self_iff, Settled, honline]
  obtain ⟨sale, hsale⟩ := Option.isSome_iff_exists.mp hstill
  simp [hsale]

/-! ## A table that is used again -/

/-- Table `T1` with one open check. -/
def soloTable : PosState where
  restaurantMode := true
  tables := OrderedMap.empty.set "T1" ⟨"T1", "Table 1", "MAIN", true, .OCCUPIED, some firstCheckId⟩
  orders := OrderedMap.empty.set firstCheckId (openCheck "ORD-1" 1)
  items := .empty
  sales := .empty

/-- The check is paid. -/
def paidTable : PosState := (finalizeSale openServer (checkPaid firstCheckId) "user" soloTable).state

/-- A line without a stored product. -/
def cupOfTea : EventLine :=
  { productId := "custom_1"
    productName := "Tea"
    sku := "TEA"
    uom := "cup"
    uomId := none
    quantity := 1
    unitPrice := 3
    costPrice := 1
    subtotal := 3
    taxAmount := 0
    discountAmount := none
    productType := none
    lineId := none
    lineNotes := none
    kitchenSentAt := none
    addedBy := none
    addedByName := none
    addedAt := none }

/-- New guests at table `T1`. -/
def nextGuests : OrderCreated :=
  { key := "order-2"
    orderId := "offline-order-2"
    offlineId := "offline-2"
    lines := [cupOfTea]
    customerId := none
    notes := none
    ts := 60
    channel := some .DINE_IN
    tableId := some "T1"
    tableCode := some "T1"
    tableName := none
    waiterId := none
    waiterName := none
    guestName := none
    guestPhone := none
    deliveryAddress := none
    pickupLabel := none }

/-- Replayed again at once, the sale has nothing to free. -/
theorem paid_replayed_at_once :
    (finalizeSale openServer (checkPaid firstCheckId) "user" soloTable).result.isRecorded = true ∧
      (finalizeSale openServer (checkPaid firstCheckId) "user" paidTable).state = paidTable := by
  have hrecorded : (finalizeSale openServer (checkPaid firstCheckId) "user"
      soloTable).result.isRecorded = true := by decide +kernel
  have htable : paidTable.tables.get? "T1" = some ⟨"T1", "Table 1", "MAIN", true, .FREE, none⟩ := by
    decide +kernel
  have hnone : resolvePendingOrderIdForTable paidTable "T1" = none := by decide +kernel
  refine ⟨hrecorded, ((second_replay_iff .refl).2 hrecorded).mpr ?_⟩
  intro _ tableId htableId
  obtain rfl : "T1" = tableId := Option.some_inj.mp htableId
  constructor
  · intro table hget
    obtain rfl := Option.some_inj.mp (htable.symm.trans hget)
    exact ⟨rfl, rfl⟩
  · intro orderId hsome
    have habsurd := hnone.symm.trans hsome
    cases habsurd

/-- The table with the new guests. -/
def reopenedTable : PosState := (createOrderDraft openServer nextGuests paidTable).state

/-- Replayed again after new guests were seated, the sale frees their table. -/
theorem reopened_table_freed :
    Relation.ReflTransGen ServerStep paidTable reopenedTable ∧
      (reopenedTable.tables.get? "T1").map (·.status) = some .OCCUPIED ∧
      ((finalizeSale openServer (checkPaid firstCheckId) "user" reopenedTable).state.tables.get?
        "T1").map (·.status) = some .FREE ∧
      (finalizeSale openServer (checkPaid firstCheckId) "user" reopenedTable).state ≠
        reopenedTable := by
  have hstep : ServerStep paidTable reopenedTable :=
    @ServerStep.replayed openServer (.ORDER_CREATED nextGuests) "user" paidTable _ rfl
  have hbefore : (reopenedTable.tables.get? "T1").map (·.status) = some .OCCUPIED := by
    decide +kernel
  have hafter : ((finalizeSale openServer (checkPaid firstCheckId) "user"
      reopenedTable).state.tables.get? "T1").map (·.status) = some .FREE := by
    decide +kernel
  refine ⟨.single hstep, hbefore, hafter, fun hself => ?_⟩
  rw [hself, hbefore] at hafter
  cases hafter

end SmartErpPos.Pos
