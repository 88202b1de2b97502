/-
  Offline/ClosedChecks.lean --- which checks the replay reports as closed.

  A check is closed in a journal that contains its `SALE_COMPLETED`, its
  `ORDER_CANCELLED`, or a merge with it as the secondary check.  Cancelled and
  merged ids are remembered in a set that the final filter consults, so they stay
  closed whatever is appended later.  Sold ids are collected as well, but nothing
  reads that set: a sold check is closed only through the status of its map entry,
  and any later event that opens the id overwrites it.

  `mem_deriveOpenOrders_iff_opened` says exactly which ids are reported, in terms
  of the events alone.
-/
import SmartErpPos.Offline.Selectors

set_option autoImplicit false

namespace SmartErpPos.Offline

open SmartErpPos.Lib

/-! ## Events that open and close a check -/

/-- A sale of the check. -/
def sells (id : String) : PosOfflineEvent → Bool
  | .SALE_COMPLETED event => event.orderId = id
  | _ => false

/-- A cancellation of the check, or a merge that takes it away. -/
def cancels (id : String) : PosOfflineEvent → Bool
  | .ORDER_CANCELLED event => event.orderId = id
  | .RESTAURANT_CHECK_MERGED event => event.secondaryOrderId = id
  | _ => false

/-- The ids a replay has an entry for, after one more event: a creation always
makes one, a split only when its source has one. -/
def knownOrdersStep (known : Finset String) : PosOfflineEvent → Finset String
  | .ORDER_CREATED event => insert event.orderId known
  | .RESTAURANT_CHECK_SPLIT event =>
      if event.sourceOrderId ∈ known then insert event.newOrderId known else known
  | _ => known

/-- The ids of a journal that a creation or an effective split introduced. -/
def knownOrders (events : List PosOfflineEvent) : Finset String :=
  events.foldl knownOrdersStep ∅

/-- Does the event open the check, when `known` are the ids introduced before it? -/
def opens (known : Finset String) (id : String) : PosOfflineEvent → Bool
  | .ORDER_CREATED event => event.orderId = id
  | .RESTAURANT_CHECK_SPLIT event => event.newOrderId = id ∧ event.sourceOrderId ∈ known
  | _ => false

/-- Some event opens the check and no sale of it follows. -/
def OpenedUnsold (id : String) (events : List PosOfflineEvent) : Prop :=
  ∃ before e after, events = before ++ e :: after ∧
    opens (knownOrders before) id e = true ∧ ∀ x ∈ after, sells id x = false

/-- A check is closed: sold, cancelled, or merged into another one. -/
def Terminal (id : String) (events : List PosOfflineEvent) : Prop :=
  ∃ e ∈ events, sells id e = true ∨ cancels id e = true

/-- A sold check is opened again, is not sold after that, and is nowhere
cancelled or merged away. -/
def ReopenedAfterSale (id : String) (events : List PosOfflineEvent) : Prop :=
  (∀ e ∈ events, cancels id e = false) ∧
    ∃ before e after, events = before ++ e :: after ∧ (∃ x ∈ before, sells id x = true) ∧
      opens (knownOrders before) id e = true ∧ ∀ x ∈ after, sells id x = false

/-! ## The map entry of one check -/

/-- The status of the map entry of `id`, if there is one. -/
def Replay.statusOf (s : Replay) (id : String) : Option OrderStatus :=
  (s.orderMap.get? id).map (·.status)

theorem knownOrders_concat (events : List PosOfflineEvent) (e : PosOfflineEvent) :
    knownOrders (events ++ [e]) = knownOrdersStep (knownOrders events) e := by
  simp [knownOrders]

theorem statusOf_isSome_iff {s : Replay} {id : String} :
    (s.statusOf id).isSome ↔ (s.orderMap.get? id).isSome := by
  simp [Replay.statusOf]

/-- Rewriting an entry without touching its status leaves every status alone. -/
theorem status_modify_of_frame (m : OrderedMap String DerivedOrder) (k id : String)
    {f : DerivedOrder → DerivedOrder} (hf : ∀ o, (f o).status = o.status) :
    ((m.modify k f).get? id).map (·.status) = (m.get? id).map (·.status) := by
  rw [OrderedMap.get?_modify]
  split
  · rw [Option.map_map]
    exact congrArg (fun g => (m.get? id).map g) (funext hf)
  · rfl

/-- Closing an entry sets its status and no other. -/
theorem status_modify_close (m : OrderedMap String DerivedOrder) (k id : String)
    (status : OrderStatus) (ts : ℤ) :
    ((m.modify k (.close status ts)).get? id).map (·.status) =
      if id = k then (m.get? id).map (fun _ => status) else (m.get? id).map (·.status) := by
  rw [OrderedMap.get?_modify]
  split
  · rw [Option.map_map]
    rfl
  · rfl

/-- A merge cancels the secondary check's entry and leaves every other status. -/
theorem status_applyMerge (event : RestaurantCheckMerged)
    (m : OrderedMap String DerivedOrder) (id : String) :
    ((applyMerge event m).get? id).map (·.status) =
      if id = event.secondaryOrderId then (m.get? id).map (fun _ => .CANCELLED)
      else (m.get? id).map (·.status) := by
  unfold applyMerge
  cases hs : m.get? event.secondaryOrderId with
  | none =>
    have hmap : ∀ f : DerivedOrder → OrderStatus,
        id = event.secondaryOrderId → (m.get? id).map f = none := by
      intro f hid
      rw [hid, hs]
      rfl
    cases m.get? event.primaryOrderId <;>
    · split
      · rename_i hid
        rw [hmap _ hid, hmap _ hid]
      · rfl
  | some s =>
    split
    · rename_i hid
      subst hid
      simp [hs, DerivedOrder.close]
    · rename_i hid
      cases hp : m.get? event.primaryOrderId with
      | none => simp only [OrderedMap.get?_set_of_ne hid]
      | some p =>
        simp only [OrderedMap.get?_set_of_ne hid, OrderedMap.get?_set]
        split
        · rename_i hprim
          rw [hprim, hp]
          rfl
        · rfl

/-- A split opens the new check when the source is there, and changes no other
status. -/
theorem status_applySplit (syncState : SyncStateMap) (event : RestaurantCheckSplit)
    (m : OrderedMap String DerivedOrder) (id : String) :
    ((applySplit syncState event m).get? id).map (·.status) =
      if event.newOrderId = id ∧ (m.get? event.sourceOrderId).isSome then some .OPEN
      else (m.get? id).map (·.status) := by
  unfold applySplit
  cases hs : m.get? event.sourceOrderId with
  | none => simp
  | some source =>
    by_cases hnew : id = event.newOrderId
    · subst hnew
      simp [DerivedOrder.splitNew]
    · have hne : ¬ event.newOrderId = id := fun h => hnew h.symm
      simp only [OrderedMap.get?_set_of_ne hnew, hne, false_and, if_false, OrderedMap.get?_set]
      split
      · rename_i hsrc
        rw [hsrc, hs]
        rfl
      · rfl

/-- What one event does to the status of a check: opening, cancelling and selling
set it, and nothing else does. -/
theorem statusOf_applyEvent (syncState : SyncStateMap) (s : Replay) (known : Finset String)
    (hknown : ∀ id, (s.orderMap.get? id).isSome ↔ id ∈ known) (e : PosOfflineEvent)
    (id : String) :
    (applyEvent syncState s e).statusOf id =
      if opens known id e then some .OPEN
      else if cancels id e then (s.statusOf id).map (fun _ => .CANCELLED)
      else if sells id e then (s.statusOf id).map (fun _ => .COMPLETED)
      else s.statusOf id := by
  cases e with
  | ORDER_CREATED event =>
    simp only [applyEvent, Replay.statusOf, OrderedMap.get?_set, opens, cancels, sells]
    by_cases h : id = event.orderId
    · simp [h, DerivedOrder.ofCreated]
    · simp [h, Ne.symm h]
  | ORDER_UPDATED event =>
    simpa [opens, cancels, sells, Replay.statusOf, applyEvent] using
      status_modify_of_frame (f := .update event) s.orderMap event.orderId id (fun _ => rfl)
  | ORDER_CANCELLED event =>
    have h := status_modify_close s.orderMap event.orderId id .CANCELLED event.ts
    simp only [applyEvent, Replay.statusOf, opens, cancels, sells, h, eq_comm (a := id)]
    simp [Function.comp_def]
  | PAYMENT_ADDED event => simp [opens, cancels, sells, applyEvent]
  | SALE_COMPLETED event =>
    have h := status_modify_close s.orderMap event.orderId id .COMPLETED event.ts
    simp only [applyEvent, Replay.statusOf, opens, cancels, sells, h, eq_comm (a := id)]
    simp [Function.comp_def]
  | SALE_VOIDED event => simp [opens, cancels, sells, applyEvent]
  | RESTAURANT_KOT_FIRED event =>
    simpa [opens, cancels, sells, Replay.statusOf, applyEvent] using
      status_modify_of_frame (f := .fireKot event) s.orderMap event.orderId id (fun _ => rfl)
  | RESTAURANT_CHECK_TRANSFERRED event =>
    simpa [opens, cancels, sells, Replay.statusOf, applyEvent] using
      status_modify_of_frame (f := .transfer event) s.orderMap event.orderId id (fun _ => rfl)
  | RESTAURANT_CHECK_MERGED event =>
    have h := status_applyMerge event s.orderMap id
    simp only [applyEvent, Replay.statusOf, opens, cancels, sells, h, eq_comm (a := id)]
    simp [Function.comp_def]
  | RESTAURANT_CHECK_SPLIT event =>
    have h := status_applySplit syncState event s.orderMap id
    simp only [applyEvent, Replay.statusOf, opens, cancels, sells, h, hknown]
    simp
  | RESTAURANT_KOT_STATUS event => simp [opens, cancels, sells, applyEvent]

/-- The ids with an entry are the introduced ones. -/
theorem isSome_get?_replay_iff (events : List PosOfflineEvent) (syncState : SyncStateMap)
    (id : String) :
    ((replay events syncState).orderMap.get? id).isSome ↔ id ∈ knownOrders events := by
  induction events using List.reverseRecOn generalizing id with
  | nil => simp [replay, Replay.initial, knownOrders]
  | append_singleton events e ih =>
    have hstep := statusOf_applyEvent syncState (replay events syncState) (knownOrders events)
      ih e id
    rw [replay_concat, knownOrders_concat, ← statusOf_isSome_iff, hstep]
    have hprev : ((replay events syncState).statusOf id).isSome ↔ id ∈ knownOrders events := by
      rw [statusOf_isSome_iff, ih]
    cases e with
    | ORDER_CREATED event =>
      by_cases h : event.orderId = id
      · simp [opens, knownOrdersStep, h]
      · simp [opens, cancels, sells, knownOrdersStep, h, Ne.symm h, hprev]
    | RESTAURANT_CHECK_SPLIT event =>
      by_cases hsrc : event.sourceOrderId ∈ knownOrders events
      · by_cases h : event.newOrderId = id
        · simp [opens, knownOrdersStep, h, hsrc]
        · simp [opens, cancels, sells, knownOrdersStep, h, hsrc, Ne.symm h, hprev]
      · simp [opens, cancels, sells, knownOrdersStep, hsrc, hprev]
    | ORDER_CANCELLED event => simp [opens, cancels, sells, knownOrdersStep, apply_ite, hprev]
    | SALE_COMPLETED event => simp [opens, cancels, sells, knownOrdersStep, apply_ite, hprev]
    | RESTAURANT_CHECK_MERGED event =>
      simp [opens, cancels, sells, knownOrdersStep, apply_ite, hprev]
    | ORDER_UPDATED event => simp [opens, cancels, sells, knownOrdersStep, hprev]
    | PAYMENT_ADDED event => simp [opens, cancels, sells, knownOrdersStep, hprev]
    | SALE_VOIDED event => simp [opens, cancels, sells, knownOrdersStep, hprev]
    | RESTAURANT_KOT_FIRED event => simp [opens, cancels, sells, knownOrdersStep, hprev]
    | RESTAURANT_CHECK_TRANSFERRED event => simp [opens, cancels, sells, knownOrdersStep, hprev]
    | RESTAURANT_KOT_STATUS event => simp [opens, cancels, sells, knownOrdersStep, hprev]

theorem mem_cancelledOrderIds_applyEvent (syncState : SyncStateMap) (s : Replay)
    (e : PosOfflineEvent) (id : String) :
    id ∈ (applyEvent syncState s e).cancelledOrderIds ↔
      id ∈ s.cancelledOrderIds ∨ cancels id e = true := by
  cases e with
  | ORDER_CANCELLED event =>
    simp only [applyEvent, cancels, Finset.mem_insert, decide_eq_true_eq, eq_comm (a := id)]
    exact or_comm
  | RESTAURANT_CHECK_MERGED event =>
    simp only [applyEvent, cancels, Finset.mem_insert, decide_eq_true_eq, eq_comm (a := id)]
    exact or_comm
  | _ => simp [applyEvent, cancels]

/-- The cancelled set holds the ids some event cancelled or merged away. -/
theorem mem_cancelledOrderIds_iff (events : List PosOfflineEvent) (syncState : SyncStateMap)
    (id : String) :
    id ∈ (replay events syncState).cancelledOrderIds ↔ ∃ e ∈ events, cancels id e = true := by
  induction events using List.reverseRecOn with
  | nil => simp [replay, Replay.initial]
  | append_singleton events e ih =>
    rw [replay_concat, mem_cancelledOrderIds_applyEvent, ih]
    simp [or_and_right, exists_or]

/-! ## Which ids are reported -/

/-- One more event opens the check, sells it, or leaves open what was open. -/
theorem openedUnsold_concat (id : String) (events : List PosOfflineEvent)
    (e : PosOfflineEvent) :
    OpenedUnsold id (events ++ [e]) ↔
      opens (knownOrders events) id e = true ∨ (sells id e = false ∧ OpenedUnsold id events) := by
  constructor
  · rintro ⟨before, o, after, hsplit, hopen, hunsold⟩
    rcases List.eq_nil_or_concat after with rfl | ⟨after', last, rfl⟩
    · obtain ⟨rfl, hlast⟩ := List.append_inj' hsplit rfl
      cases hlast
      exact .inl hopen
    · have hsplit' : events ++ [e] = (before ++ o :: after') ++ [last] := by
        rw [hsplit]
        simp
      obtain ⟨rfl, hlast⟩ := List.append_inj' hsplit' rfl
      cases hlast
      refine .inr ⟨hunsold e (by simp), before, o, after', rfl, hopen, ?_⟩
      intro x hx
      exact hunsold x (by simp [hx])
  · rintro (hopen | ⟨hsell, before, o, after, rfl, hopen, hunsold⟩)
    · exact ⟨events, e, [], rfl, hopen, by simp⟩
    · refine ⟨before, o, after ++ [e], by simp, hopen, ?_⟩
      intro x hx
      rcases List.mem_append.mp hx with hx | hx
      · exact hunsold x hx
      · rw [List.mem_singleton.mp hx]
        exact hsell

/-- In a journal that never cancels the check, its entry is `OPEN` exactly when
it was opened and not sold since. -/
theorem statusOf_replay_eq_open_iff (events : List PosOfflineEvent) (syncState : SyncStateMap)
    (id : String) (hlive : ∀ e ∈ events, cancels id e = false) :
    (replay events syncState).statusOf id = some .OPEN ↔ OpenedUnsold id events := by
  induction events using List.reverseRecOn with
  | nil =>
    constructor
    · intro h
      simp [replay, Replay.initial, Replay.statusOf] at h
    · rintro ⟨before, e, after, hsplit, _⟩
      simp at hsplit
  | append_singleton events e ih =>
    have hrest := ih (fun x hx => hlive x (by simp [hx]))
    have he : cancels id e = false := hlive e (by simp)
    have hstep := statusOf_applyEvent syncState (replay events syncState) (knownOrders events)
      (isSome_get?_replay_iff events syncState) e id
    rw [replay_concat, hstep, openedUnsold_concat, ← hrest]
    by_cases hopen : opens (knownOrders events) id e = true
    · simp [hopen]
    · by_cases hsell : sells id e = true
      · simp [hopen, he, hsell]
      · simp [hopen, he, hsell]

/-- An id is reported exactly when it was never cancelled or merged away and some
event that opened it is not followed by a sale. -/
theorem mem_deriveOpenOrders_iff_opened (events : List PosOfflineEvent)
    (syncState : SyncStateMap) (id : String) :
    id ∈ (deriveOpenOrders events syncState).map (·.orderId) ↔
      (∀ e ∈ events, cancels id e = false) ∧ OpenedUnsold id events := by
  rw [mem_deriveOpenOrders_iff, mem_cancelledOrderIds_iff]
  simp only [not_exists, not_and, Bool.not_eq_true]
  constructor
  · rintro ⟨hopen, hlive⟩
    exact ⟨hlive, (statusOf_replay_eq_open_iff events syncState id hlive).mp hopen⟩
  · rintro ⟨hlive, hopened⟩
    exact ⟨(statusOf_replay_eq_open_iff events syncState id hlive).mpr hopened, hlive⟩

/-- A closed check is reported exactly when it was opened again after its sale. -/
theorem terminal_and_mem_iff_reopened (events : List PosOfflineEvent)
    (syncState : SyncStateMap) (id : String) :
    (Terminal id events ∧ id ∈ (deriveOpenOrders events syncState).map (·.orderId)) ↔
      ReopenedAfterSale id events := by
  rw [mem_deriveOpenOrders_iff_opened]
  constructor
  · rintro ⟨⟨x, hx, hterm⟩, hlive, before, e, after, rfl, hopen, hunsold⟩
    have hsold : sells id x = true := by
      rcases hterm with h | h
      · exact h
      · rw [hlive x hx] at h
        cases h
    refine ⟨hlive, before, e, after, rfl, ⟨x, ?_, hsold⟩, hopen, hunsold⟩
    rcases List.mem_append.mp hx with h | h
    · exact h
    · exfalso
      rcases List.mem_cons.mp h with rfl | h
      · cases x <;> simp [sells, opens] at hsold hopen
      · rw [hunsold x h] at hsold
        cases hsold
  · rintro ⟨hlive, before, e, after, rfl, ⟨x, hx, hsold⟩, hopen, hunsold⟩
    exact ⟨⟨x, by simp [hx], .inl hsold⟩, hlive, before, e, after, rfl, hopen, hunsold⟩

/-- Closed checks are not reported if and only if no sold check is opened again
without a later sale, cancellation or merge. -/
theorem closedChecks_stay_closed_iff (events : List PosOfflineEvent)
    (syncState : SyncStateMap) :
    (∀ id, Terminal id events →
        id ∉ (deriveOpenOrders events syncState).map (·.orderId)) ↔
      ∀ id, ¬ ReopenedAfterSale id events := by
  constructor
  · intro h id hre
    obtain ⟨hterm, hmem⟩ := (terminal_and_mem_iff_reopened events syncState id).mpr hre
    exact h id hterm hmem
  · intro h id hterm hmem
    exact h id ((terminal_and_mem_iff_reopened events syncState id).mp ⟨hterm, hmem⟩)

/-! ## A server re-seed after the sale -/

/-- The till records the sale, then hydration appends the server's order: the
journal holds no `ORDER_CREATED` yet, so the duplicate guard lets it through. -/
def reseededStore : JournalStore :=
  appendSyncedEvent
    (appendEvent JournalStore.initial (.SALE_COMPLETED (plainSale "ofl_sale" "ord-1" [] 10 0)))
    (.ORDER_CREATED (plainOrder "srv_ord" "ord-1" [] 1))

/-- After a re-seed the sold check is reported as open. -/
theorem reseeded_sale_is_reported_open :
    ¬ ∀ id, Terminal id reseededStore.journal →
        id ∉ (deriveOpenOrders reseededStore.journal reseededStore.syncState).map (·.orderId) := by
  intro h
  have hterm : Terminal "ord-1" reseededStore.journal :=
    ⟨.SALE_COMPLETED (plainSale "ofl_sale" "ord-1" [] 10 0), by decide +kernel, .inl (by decide)⟩
  exact h "ord-1" hterm (by decide +kernel)

end SmartErpPos.Offline
