/-
  Offline/MirrorRuns.lean --- the stock mirror over whole runs.

  The calls are followed write by write.  Up to its last writes a call only moves stock, and
  its compactions are quiet; then the event is recorded, or its status, and the balance of
  the journal moves by what the call has taken or given back.
-/
import SmartErpPos.Lib.Transition
import SmartErpPos.Offline.DeliveryOrder
import SmartErpPos.Offline.MirrorBalance

set_option autoImplicit false

namespace SmartErpPos.Offline

open SmartErpPos.Lib

/-! ## One write -/

variable {s : Writing} {refreshed : String → ℚ} {store : JournalStore} {key : String}

theorem on_setItem_of_goesThrough (put : Till → Till) (h : GoesThrough s.till.memory s.writes) :
    ∃ till,
      (setItem put).on s = (.ok ⟨⟩, ⟨put till, s.writes.tail⟩) ∧
      (till = s.till ∨ (till = s.till.reclaim ∧ s.till.memory.NothingToLose)) := by
  cases hwrites : s.writes with
  | nil =>
    refine ⟨s.till, ?_, .inl rfl⟩
    unfold setItem
    rw [Call.on_bind, Call.on_get]
    simp only [hwrites]
    rfl
  | cons w rest =>
    rcases h w (by rw [hwrites]; exact List.mem_cons_self) with rfl | ⟨rfl, hsafe⟩
    · refine ⟨s.till, ?_, .inl rfl⟩
      unfold setItem
      rw [Call.on_bind, Call.on_get]
      simp only [hwrites]
      rfl
    · refine ⟨s.till.reclaim, ?_, .inr ⟨rfl, hsafe⟩⟩
      unfold setItem
      rw [Call.on_bind, Call.on_get]
      simp only [hwrites]
      rfl

theorem reclaim_quiet {till : Till} (h : till.memory.NothingToLose) :
    Quiet till.memory till.reclaim.memory := by
  rcases till.reclaim_cases with ⟨hmemory, -⟩ | ⟨hmemory, -⟩
  · rw [hmemory]
    exact .refl _
  · rw [hmemory]
    exact h.quiet_compacted

theorem SameBalance.reclaim {till : Till} (h : SameBalance till.memory till.disk) :
    SameBalance till.reclaim.memory till.reclaim.disk := by
  rcases till.reclaim_cases with ⟨hmemory, hdisk⟩ | ⟨hmemory, hdisk⟩
  · rw [hmemory, hdisk]
    exact h
  · rw [hmemory, hdisk]
    exact .refl _

/-! ## Calls that move stock -/

/-- In the course of a call that began on `before`: the stock is `stock`, the journal as it
was up to quiet compactions, and the writes to come go through. -/
structure Moving (before : Till) (stock : String → ℚ) (s : Writing) : Prop where
  stock : ∀ productId, s.till.stockOf productId = stock productId
  quiet : Quiet before.memory s.till.memory
  agree : SameBalance s.till.memory s.till.disk
  disk : ∀ key, before.disk.syncState.get? key = none → before.memory.syncState.get? key = none →
    s.till.disk.syncState.get? key = none
  writes : GoesThrough before.memory s.writes

variable {before : Till} {stock : String → ℚ}

theorem Moving.goesThrough (h : Moving before stock s) : GoesThrough s.till.memory s.writes := by
  intro w hw
  rcases h.writes w hw with hwritten | ⟨hreclaimed, hsafe⟩
  · exact .inl hwritten
  · exact .inr ⟨hreclaimed, h.quiet.nothingToLose hsafe⟩

theorem Moving.stock_congr {stock' : String → ℚ} (h : Moving before stock s)
    (heq : ∀ productId, stock productId = stock' productId) : Moving before stock' s :=
  ⟨fun productId => (h.stock productId).trans (heq productId), h.quiet, h.agree, h.disk, h.writes⟩

/-- A reclaim in the course of such a call. -/
theorem Moving.reclaimed (h : Moving before stock s) {till : Till}
    (htill : till = s.till ∨ (till = s.till.reclaim ∧ s.till.memory.NothingToLose)) :
    Moving before stock ⟨till, s.writes.tail⟩ := by
  have hwrites : GoesThrough before.memory s.writes.tail :=
    fun w hw => h.writes w (List.mem_of_mem_tail hw)
  rcases htill with rfl | ⟨rfl, hsafe⟩
  · exact ⟨h.stock, h.quiet, h.agree, h.disk, hwrites⟩
  · refine ⟨h.stock, h.quiet.trans (reclaim_quiet hsafe), h.agree.reclaim, ?_, hwrites⟩
    intro key hdisk hmemory
    rcases s.till.reclaim_cases with ⟨-, hsame⟩ | ⟨-, hcompacted⟩
    · change s.till.reclaim.disk.syncState.get? key = none
      rw [hsame]
      exact h.disk key hdisk hmemory
    · change s.till.reclaim.disk.syncState.get? key = none
      rw [hcompacted]
      rcases (h.quiet.trans hsafe.quiet_compacted).entry key with hsame | hnone
      · rw [hsame]
        exact hmemory
      · exact hnone

/-- Setting the stock of one product. -/
theorem moving_setLocalStock {productId : String} {quantity : ℚ} (h : Moving before stock s) :
    Triple (fun s' => s' = s) (setLocalStock (s.till.localStock.set productId quantity))
      (fun _ => Moving before fun p => if p = productId then quantity else stock p)
      (fun _ _ => False) := by
  rintro s rfl
  obtain ⟨till, hon, htill⟩ := on_setItem_of_goesThrough
    (fun till => { till with localStock := s.till.localStock.set productId quantity }) h.goesThrough
  unfold setLocalStock
  rw [hon]
  obtain ⟨-, hquiet, hagree, hdisk, hwrites⟩ := h.reclaimed htill
  refine ⟨fun p => ?_, hquiet, hagree, hdisk, hwrites⟩
  change ((s.till.localStock.set productId quantity).get? p).getD 0 = _
  rw [OrderedMap.get?_set]
  split
  · rfl
  · exact h.stock p

theorem moving_restoreLocalStock (productId : String) (quantity : ℚ) :
    Triple (Moving before stock) (restoreLocalStock productId quantity)
      (fun _ => Moving before fun p => stock p + if productId = p then quantity else 0)
      (fun _ _ => False) := by
  refine Triple.get_bind fun s hs => ?_
  refine (moving_setLocalStock hs).conseq (fun _ h => h) (fun _ s' hs' => ?_) fun _ _ h => h
  refine hs'.stock_congr fun p => ?_
  split
  · rename_i hp
    rw [hp, if_pos rfl, hs.stock]
  · rename_i hp
    rw [if_neg (Ne.symm hp), add_zero]

/-- Giving back a list of deductions. -/
theorem moving_restore (before : Till) (stock : String → ℚ) (deductions : List StockDeduction) :
    Triple (Moving before stock)
      (deductions.forM fun d => restoreLocalStock d.productId d.quantity)
      (fun _ => Moving before fun p => stock p + takenOf deductions p) (fun _ _ => False) := by
  refine (Triple.forM (I := fun rest => Moving before fun p =>
    stock p + takenOf deductions p - takenOf rest p) fun d rest => ?_).conseq
      (fun s hs => ?_) (fun _ s hs => ?_) fun _ _ h => h
  · refine (moving_restoreLocalStock d.productId d.quantity).conseq (fun _ h => h)
      (fun _ s hs => hs.stock_congr fun p => ?_) fun _ _ h => h
    rw [takenOf_cons]
    ring
  · exact hs.stock_congr fun p => (add_sub_cancel_right _ _).symm
  · exact hs.stock_congr fun p => by rw [takenOf_nil, sub_zero]

theorem moving_decrementLocalStock (productId : String) (quantity : ℚ) :
    Triple (Moving before stock) (decrementLocalStock productId quantity)
      (fun ok s => if ok = true then
          quantity ≤ stock productId ∧
            Moving before (fun p => stock p - if productId = p then quantity else 0) s
        else Moving before stock s)
      (fun _ _ => False) := by
  refine Triple.get_bind fun s hs => ?_
  refine Triple.ite (fun _ => ?_) fun henough => ?_
  · rintro _ rfl
    exact hs
  · refine (moving_setLocalStock hs).bind fun _ => ?_
    intro s' hs'
    refine ⟨hs.stock productId ▸ not_lt.mp henough, hs'.stock_congr fun p => ?_⟩
    split
    · rename_i hp
      rw [hp, if_pos rfl, hs.stock]
    · rename_i hp
      rw [if_neg (Ne.symm hp), sub_zero]

/-- The stock a sale takes; a sale that throws has given back what it took. -/
theorem moving_deductStock (skips : String → Bool) (typeOf : Till → StockLine → String)
    (lines : List StockLine) (hnonneg : ∀ p, 0 ≤ stock p) :
    Triple (Moving before stock) (deductStock skips typeOf lines)
      (fun taken s => Moving before (fun p => stock p - takenOf taken p) s ∧
        ∀ p, 0 ≤ stock p - takenOf taken p)
      (fun _ => Moving before stock) := by
  refine (Triple.foldlM (I := fun taken _ s => Moving before (fun p => stock p - takenOf taken p) s ∧
    ∀ p, 0 ≤ stock p - takenOf taken p) fun taken line rest => ?_).pre fun s hs => ?_
  · unfold deductLine
    refine Triple.ite (fun _ _ hs => hs) fun _ => ?_
    refine Triple.get_bind fun s hs => ?_
    refine Triple.ite (fun _ => ?_) fun _ => ?_
    · rintro _ rfl
      exact hs
    · refine ((moving_decrementLocalStock line.productId line.quantity).conseq
        (fun s' (h : s' = s) => h ▸ hs.1) (fun _ _ h => h)
        fun _ _ h => h.elim).bind fun ok => ?_
      refine Triple.ite (fun hok => ?_) fun hok => ?_
      · rintro s' hs'
        rw [if_pos hok] at hs'
        obtain ⟨henough, hmoved⟩ := hs'
        refine ⟨hmoved.stock_congr fun p => ?_, fun p => ?_⟩
        · rw [takenOf_append, takenOf_cons, takenOf_nil, add_zero, sub_sub]
        · rw [takenOf_append, takenOf_cons, takenOf_nil, add_zero, ← sub_sub]
          split
          · rename_i hp
            rw [← hp]
            exact sub_nonneg.mpr henough
          · rw [sub_zero]
            exact hs.2 p
      · refine ((moving_restore before (fun p => stock p - takenOf taken p) taken).conseq (fun s' hs' => ?_) (fun _ s' hs' => ?_)
          fun _ _ h => h.elim).bind fun _ => .throw _
        · rw [if_neg hok] at hs'
          exact hs'
        · exact hs'.stock_congr fun p => sub_add_cancel _ _
  · refine ⟨hs.stock_congr fun p => ?_, fun p => ?_⟩
    · rw [takenOf_nil, sub_zero]
    · rw [takenOf_nil, sub_zero]
      exact hnonneg p

/-! ## Recording a sale -/

/-- What holds between the steps of a run. -/
structure MirrorInv (refreshed : String → ℚ) (till : Till) : Prop where
  stock : ∀ productId, till.stockOf productId = refreshed productId - till.memory.totalTaken productId
  nonneg : ∀ productId, 0 ≤ till.stockOf productId
  agree : SameBalance till.memory till.disk
  keys : (till.memory.journal.map (·.key)).Nodup

theorem MirrorInv.balanced {till : Till} (h : MirrorInv refreshed till) :
    MirrorBalanced refreshed till := by
  intro productId
  refine ⟨?_, h.stock productId, h.nonneg productId⟩
  rw [h.agree.totalTaken]
  exact h.stock productId

theorem MirrorInv.moving {till : Till} (h : MirrorInv refreshed till) {writes : List WriteOutcome}
    (hwrites : GoesThrough till.memory writes) : Moving till till.stockOf ⟨till, writes⟩ :=
  ⟨fun _ => rfl, .refl _, h.agree, fun _ hdisk _ => hdisk, hwrites⟩

/-- A call that has only moved stock, and to where it began. -/
theorem Moving.inv (h : Moving before before.stockOf s) (hinv : MirrorInv refreshed before) :
    MirrorInv refreshed s.till where
  stock productId := by
    rw [h.stock, hinv.stock, h.quiet.totalTaken]
  nonneg productId := by
    rw [h.stock]
    exact hinv.nonneg productId
  agree := h.agree
  keys := hinv.keys.sublist (h.quiet.journal.map _)

/-- The end of a call that began on `before`: the stock, and what the journal has taken more. -/
structure Ends (before : Till) (stock more : String → ℚ) (s : Writing) : Prop where
  stock : ∀ productId, s.till.stockOf productId = stock productId
  totalTaken : ∀ productId, s.till.memory.totalTaken productId =
    before.memory.totalTaken productId + more productId
  agree : SameBalance s.till.memory s.till.disk
  keys : (s.till.memory.journal.map (·.key)).Nodup

/-- What the journal has taken more has left the stock. -/
theorem Ends.inv {more : String → ℚ} (h : Ends before stock more s)
    (hinv : MirrorInv refreshed before) (hstock : ∀ p, stock p = before.stockOf p - more p)
    (hnonneg : ∀ p, 0 ≤ stock p) : MirrorInv refreshed s.till where
  stock p := by
    rw [h.stock, h.totalTaken, hstock, hinv.stock, sub_sub]
  nonneg p := by
    rw [h.stock]
    exact hnonneg p
  agree := h.agree
  keys := h.keys

theorem statusAt_mark (store : JournalStore) (key k : String) (status : SyncStatus)
    (error : Option String) :
    (store.mark key status error).statusAt k = if k = key then status else store.statusAt k := by
  unfold JournalStore.statusAt JournalStore.mark
  dsimp only
  rw [OrderedMap.get?_set]
  split
  · rfl
  · rfl

/-- One more event under a fresh key. -/
theorem totalTaken_append {e : PosOfflineEvent} (hfresh : store.syncState.get? e.key = none)
    (productId : String) :
    ({ store with journal := store.journal ++ [e] } : JournalStore).totalTaken productId =
      store.totalTaken productId + takenOf (stockTakenBy e) productId := by
  have hpending : store.statusAt e.key = .PENDING := by
    unfold JournalStore.statusAt
    rw [hfresh]
    rfl
  unfold JournalStore.totalTaken
  rw [List.map_append, List.sum_append, List.map_singleton, List.sum_singleton]
  congr 1
  unfold JournalStore.taken
  change (if store.statusAt e.key = .CANCELLED then 0 else _) = _
  rw [hpending]
  exact if_neg nofun

/-- A write of the stored journal or of its sync state, after the one in memory has changed:
the stock stays, the compaction on the way is quiet, and the two copies agree. -/
structure Stored (till : Till) (s : Writing) : Prop where
  stock : ∀ productId, s.till.stockOf productId = till.stockOf productId
  quiet : Quiet till.memory s.till.memory
  agree : SameBalance s.till.memory s.till.disk

section Stored

variable {put : JournalStore → JournalStore → JournalStore} (hput : ∀ store, put store store = store)
  {till : Till} {writes : List WriteOutcome}

include hput

/-- A write that goes through, with or without a reclaim. -/
theorem stored_put (hagree : SameBalance till.memory (put till.memory till.disk)) {t : Till}
    (ht : t = till ∨ (t = till.reclaim ∧ till.memory.NothingToLose)) (rest : List WriteOutcome) :
    Stored till ⟨{ t with disk := put t.memory t.disk }, rest⟩ := by
  rcases ht with rfl | ⟨rfl, hsafe⟩
  · exact ⟨fun _ => rfl, .refl _, hagree⟩
  · refine ⟨fun _ => rfl, reclaim_quiet hsafe, ?_⟩
    change SameBalance till.reclaim.memory (put till.reclaim.memory till.reclaim.disk)
    rcases till.reclaim_cases with ⟨hmemory, hdisk⟩ | ⟨hmemory, hdisk⟩
    · rw [hmemory, hdisk]
      exact hagree
    · rw [hmemory, hdisk, hput]
      exact .refl _

theorem stored_of_goesThrough (h : GoesThrough till.memory writes)
    (hagree : SameBalance till.memory (put till.memory till.disk)) : ∃ s,
      (setItem fun t => { t with disk := put t.memory t.disk }).on ⟨till, writes⟩ = (.ok ⟨⟩, s) ∧
      Stored till s ∧ s.writes = writes.tail := by
  obtain ⟨t, hon, ht⟩ := on_setItem_of_goesThrough (s := ⟨till, writes⟩)
    (fun t => { t with disk := put t.memory t.disk }) h
  exact ⟨_, hon, stored_put hput hagree ht _, rfl⟩

/-- A write that may fail as well. -/
theorem stored_setItem (hsafe : ∀ w ∈ writes, w.reclaims = true → till.memory.NothingToLose)
    (hbefore : SameBalance till.memory till.disk)
    (hagree : SameBalance till.memory (put till.memory till.disk)) : Stored till
      ((setItem fun t => { t with disk := put t.memory t.disk }).on ⟨till, writes⟩).2 := by
  have hfailed : ∀ rest, Stored till ⟨till, rest⟩ := fun _ => ⟨fun _ => rfl, .refl _, hbefore⟩
  unfold setItem
  rw [Call.on_bind, Call.on_get]
  cases writes with
  | nil => exact stored_put hput hagree (.inl rfl) _
  | cons w rest =>
    have hsafe' := hsafe w List.mem_cons_self
    cases w with
    | written => exact stored_put hput hagree (.inl rfl) _
    | reclaimed => exact stored_put hput hagree (.inr ⟨rfl, hsafe' rfl⟩) _
    | full => exact ⟨fun _ => rfl, reclaim_quiet (hsafe' rfl), hbefore.reclaim⟩
    | failed => exact hfailed _

end Stored

/-- The stored journal after `writeJournal`. -/
def putJournal (memory disk : JournalStore) : JournalStore := { disk with journal := memory.journal }

/-- The stored sync state after `writeSyncState`. -/
def putSyncState (memory disk : JournalStore) : JournalStore :=
  { disk with syncState := memory.syncState }

theorem putJournal_self (store : JournalStore) : putJournal store store = store := rfl

theorem putSyncState_self (store : JournalStore) : putSyncState store store = store := rfl

/-- Writing the journal: in memory at once, then on disk. -/
theorem triple_writeJournal (first : Till) {events : List PosOfflineEvent}
    (hfirst : first = { s.till with memory.journal := events })
    (hthrough : GoesThrough first.memory s.writes)
    (hagree : SameBalance first.memory (putJournal first.memory first.disk)) :
    Triple (fun s' => s' = s) (writeJournal events)
      (fun _ s' => Stored first s' ∧ s'.writes = s.writes.tail) (fun _ _ => False) := by
  rintro s rfl
  subst hfirst
  obtain ⟨mid, hon, hstored⟩ := stored_of_goesThrough putJournal_self hthrough hagree
  have hrun : (writeJournal events).on s = (.ok ⟨⟩, mid) := hon
  rw [hrun]
  exact hstored

theorem triple_writeSyncState (first : Till) {state : SyncStateMap}
    (hfirst : first = { s.till with memory.syncState := state })
    (hthrough : GoesThrough first.memory s.writes)
    (hagree : SameBalance first.memory (putSyncState first.memory first.disk)) :
    Triple (fun s' => s' = s) (writeSyncState state)
      (fun _ s' => Stored first s' ∧ s'.writes = s.writes.tail) (fun _ _ => False) := by
  rintro s rfl
  subst hfirst
  obtain ⟨mid, hon, hstored⟩ := stored_of_goesThrough putSyncState_self hthrough hagree
  have hrun : (writeSyncState state).on s = (.ok ⟨⟩, mid) := hon
  rw [hrun]
  exact hstored

/-- The event recorded, with what it takes; the stock is left alone. -/
theorem moving_recordEvent (event : PosOfflineEvent) (hfresh : FreshKey before event.key)
    (hkeys : (before.memory.journal.map (·.key)).Nodup) :
    Triple (Moving before stock) (recordEvent event)
      (fun _ => Ends before stock (takenOf (stockTakenBy event))) (fun _ _ => False) := by
  refine Triple.get_bind fun s hs => ?_
  have hnew : ∀ e ∈ s.till.memory.journal, e.key ≠ event.key :=
    fun e he => hfresh.journal e (hs.quiet.journal.subset he)
  have hentry : s.till.memory.syncState.get? event.key = none := by
    rcases hs.quiet.entry event.key with hsame | hnone
    · rw [hsame]
      exact hfresh.memory
    · exact hnone
  have hany : ¬ (s.till.memory.journal.any fun e => e.key = event.key) = true := by
    rw [List.any_eq_true]
    rintro ⟨e, he, hkey⟩
    exact hnew e he (of_decide_eq_true hkey)
  rw [if_neg hany]
  -- the journal with the event, in memory
  let first : Till := { s.till with memory.journal := s.till.memory.journal ++ [event] }
  have hstatus : ∀ e ∈ first.memory.journal, e ∈ s.till.memory.journal ∨ e = event := by
    intro e he
    rcases List.mem_append.mp he with hold | hlast
    · exact .inl hold
    · exact .inr (List.mem_singleton.mp hlast)
  have hpending : s.till.memory.statusAt event.key = .PENDING := by
    unfold JournalStore.statusAt
    rw [hentry]
    rfl
  have hdiskPending : s.till.disk.statusAt event.key = .PENDING := by
    unfold JournalStore.statusAt
    rw [hs.disk _ hfresh.disk hfresh.memory]
    rfl
  have hthrough : GoesThrough first.memory s.writes := by
    intro w hw
    rcases hs.goesThrough w hw with hwritten | ⟨hreclaimed, hsafe⟩
    · exact .inl hwritten
    · refine .inr ⟨hreclaimed, fun e he hmoves => ?_⟩
      rcases hstatus e he with hold | rfl
      · exact hsafe e hold hmoves
      · change s.till.memory.statusAt e.key ≠ .SYNCED
        rw [hpending]
        exact nofun
  have hagree : SameBalance first.memory { first.disk with journal := first.memory.journal } := by
    refine ⟨rfl, fun e he hmoves => ?_⟩
    rcases hstatus e he with hold | rfl
    · exact hs.agree.cancelled e hold hmoves
    · change s.till.disk.statusAt e.key = .CANCELLED ↔ s.till.memory.statusAt e.key = .CANCELLED
      rw [hpending, hdiskPending]
  refine (triple_writeJournal first rfl hthrough hagree).bind fun _ => ?_
  refine Triple.get_bind fun mid ⟨hmid, hrest⟩ => ?_
  have hmidEntry : mid.till.memory.syncState.get? event.key = none := by
    rcases hmid.quiet.entry event.key with hsame | hnone
    · rw [hsame]
      exact hentry
    · exact hnone
  have hmidPending : mid.till.memory.statusAt event.key = .PENDING := by
    unfold JournalStore.statusAt
    rw [hmidEntry]
    rfl
  rw [if_neg (by rw [hmidEntry]; exact nofun)]
  -- its sync entry, in memory
  let second : Till :=
    { mid.till with
      memory.syncState := mid.till.memory.syncState.set event.key ⟨.PENDING, none⟩ }
  have hsecond : ∀ key, second.memory.statusAt key = mid.till.memory.statusAt key := by
    intro key
    refine (statusAt_mark mid.till.memory event.key key .PENDING none).trans ?_
    split
    · rename_i heq
      rw [heq, hmidPending]
    · rfl
  have hthrough' : GoesThrough second.memory mid.writes := by
    intro w hw
    rw [hrest] at hw
    rcases hthrough w (List.mem_of_mem_tail hw) with hwritten | ⟨hreclaimed, hsafe⟩
    · exact .inl hwritten
    · refine .inr ⟨hreclaimed, fun e he hmoves => ?_⟩
      rw [hsecond]
      exact hmid.quiet.nothingToLose hsafe e he hmoves
  refine (triple_writeSyncState second rfl hthrough' ⟨hmid.agree.journal, fun _ _ _ => Iff.rfl⟩).conseq
    (fun _ h => h) (fun _ s' hs' => ?_) fun _ _ h => h
  obtain ⟨hlast, -⟩ := hs'
  refine ⟨fun p => ?_, fun p => ?_, hlast.agree, ?_⟩
  · exact (hlast.stock p).trans ((hmid.stock p).trans (hs.stock p))
  · have htaken : second.memory.totalTaken p = mid.till.memory.totalTaken p := by
      refine congrArg List.sum (List.map_congr_left fun e _ => ?_)
      exact JournalStore.taken_congr (fun _ => by rw [hsecond]) p
    rw [hlast.quiet.totalTaken, htaken, hmid.quiet.totalTaken, ← hs.quiet.totalTaken]
    exact totalTaken_append hentry p
  · refine List.Nodup.sublist (hlast.quiet.journal.map _) ?_
    refine List.Nodup.sublist (hmid.quiet.journal.map _) ?_
    change ((s.till.memory.journal ++ [event]).map (·.key)).Nodup
    rw [List.map_append, List.map_singleton]
    refine List.Nodup.append (hkeys.sublist (hs.quiet.journal.map _)) (List.nodup_singleton _) ?_
    intro key hkey hsame
    obtain ⟨e, he, rfl⟩ := List.mem_map.mp hkey
    exact hnew e he (List.mem_singleton.mp hsame)

/-- What a sale does, when its writes go through: it throws and nothing has happened, or it
takes stock and records it. -/
theorem MirrorInv.sells {till : Till} (h : MirrorInv refreshed till) {writes : List WriteOutcome}
    (hwrites : GoesThrough till.memory writes) {skips : String → Bool}
    {typeOf : Till → StockLine → String} {lines : List StockLine}
    {event : List StockDeduction → SaleCompleted} (hfresh : FreshKey till key)
    (hkey : ∀ taken, (event taken).key = key)
    (htaken : ∀ taken, (event taken).stockDeductions = taken) :
    MirrorInv refreshed (till.after (do
      let taken ← deductStock skips typeOf lines
      recordEvent (.SALE_COMPLETED (event taken))) writes) := by
  have htriple : Triple (Moving till till.stockOf)
      (do
        let taken ← deductStock skips typeOf lines
        recordEvent (.SALE_COMPLETED (event taken)))
      (fun _ s => MirrorInv refreshed s.till) (fun _ s => MirrorInv refreshed s.till) := by
    refine Triple.bind ((moving_deductStock skips typeOf lines h.nonneg).conseq (fun _ hs => hs)
      (fun _ _ hs => hs) fun _ s hs => hs.inv h) fun taken => ?_
    intro s ⟨hs, hnonneg⟩
    have hfresh' : FreshKey till (event taken).key := by
      rw [hkey]
      exact hfresh
    refine ((moving_recordEvent (.SALE_COMPLETED (event taken)) hfresh' h.keys).conseq
      (fun _ hs => hs) (fun _ s' hs' => hs'.inv h (fun p => ?_) hnonneg) fun _ _ hs => hs.elim) s hs
    change _ = _ - takenOf (event taken).stockDeductions p
    rw [htaken]
  have hrun := htriple ⟨till, writes⟩ (h.moving hwrites)
  unfold Till.after
  split at hrun
  · rename_i hon
    rw [hon]
    exact hrun
  · rename_i hon
    rw [hon]
    exact hrun

/-! ## Cancelling a sale -/

/-- The sum after one element has changed its value. -/
theorem sum_map_of_one {A : Type} [DecidableEq A] {l : List A} {f g : A → ℚ} {a : A} (ha : a ∈ l)
    (hnodup : l.Nodup) (hother : ∀ b ∈ l, b ≠ a → g b = f b) :
    (l.map g).sum = (l.map f).sum + (g a - f a) := by
  have hrest : (l.erase a).map g = (l.erase a).map f := by
    refine List.map_congr_left fun b hb => ?_
    obtain ⟨hne, hmem⟩ := hnodup.mem_erase_iff.mp hb
    exact hother b hmem hne
  rw [← List.sum_map_erase f ha, ← List.sum_map_erase g ha, hrest]
  ring

/-- Cancelling takes what the event holds out of the balance of the journal. -/
theorem totalTaken_cancelled (hkeys : (store.journal.map (·.key)).Nodup) {productId : String}
    {amount : ℚ} (h : (∃ e ∈ store.journal, e.key = key ∧ store.taken productId e = amount) ∨
      (amount = 0 ∧ ∀ e ∈ store.journal, e.key = key → store.taken productId e = 0)) :
    (store.mark key .CANCELLED none).totalTaken productId = store.totalTaken productId - amount := by
  have hmarked : ∀ e, (store.mark key .CANCELLED none).taken productId e =
      if e.key = key then 0 else store.taken productId e := by
    intro e
    unfold JournalStore.taken
    rw [statusAt_mark]
    by_cases hkey : e.key = key
    · simp [hkey]
    · simp [hkey]
  unfold JournalStore.totalTaken
  rcases h with ⟨e, he, hkey, hamount⟩ | ⟨rfl, hnone⟩
  · have hother : ∀ b ∈ store.journal, b ≠ e →
        (store.mark key .CANCELLED none).taken productId b = store.taken productId b := by
      intro b hb hne
      rw [hmarked, if_neg]
      intro heq
      exact hne (List.inj_on_of_nodup_map hkeys hb he (heq.trans hkey.symm))
    change (store.journal.map _).sum = _
    rw [sum_map_of_one he hkeys.of_map hother, hmarked, if_pos hkey, hamount]
    ring
  · rw [sub_zero]
    refine congrArg List.sum (List.map_congr_left fun e he => ?_)
    rw [hmarked]
    split
    · rename_i hkey
      exact (hnone e he hkey).symm
    · rfl

theorem findSale_eq_some {events : List PosOfflineEvent} {e : PosOfflineEvent}
    (h : findSale events key = some e) : e ∈ events ∧ e.key = key := by
  refine ⟨List.mem_of_find?_eq_some h, ?_⟩
  have hfound := List.find?_some h
  rw [Bool.and_eq_true, decide_eq_true_eq] at hfound
  exact hfound.1

theorem not_moves_of_findSale_none {events : List PosOfflineEvent} (h : findSale events key = none)
    {e : PosOfflineEvent} (he : e ∈ events) (hkey : e.key = key) : ¬ MovesStock e := by
  rintro ⟨d, hd, -⟩
  have hnot := List.find?_eq_none.mp h e he
  cases e with
  | SALE_COMPLETED sale => simp [hkey, isSaleCompleted] at hnot
  | _ => exact nomatch hd

/-- A cancellation in the course of a call that has given back what the event took. -/
theorem moving_cancel (amount : String → ℚ) (hkeys : (before.memory.journal.map (·.key)).Nodup)
    (h : (∃ e ∈ before.memory.journal, e.key = key ∧ MovesStock e ∧
        before.memory.statusAt key ≠ .CANCELLED ∧ amount = takenOf (stockTakenBy e)) ∨
      ((∀ p, amount p = 0) ∧ ∀ e ∈ before.memory.journal, e.key = key → ¬ MovesStock e)) :
    Triple (Moving before stock) (recordStatus key .CANCELLED none)
      (fun _ => Ends before stock fun p => -amount p) (fun _ _ => False) := by
  refine Triple.get_bind fun s hs => ?_
  let first : Till :=
    { s.till with memory.syncState := (s.till.memory.mark key .CANCELLED none).syncState }
  have hthrough : GoesThrough first.memory s.writes := by
    intro w hw
    rcases hs.goesThrough w hw with hwritten | ⟨hreclaimed, hsafe⟩
    · exact .inl hwritten
    · refine .inr ⟨hreclaimed, fun e he hmoves => ?_⟩
      change (s.till.memory.mark key .CANCELLED none).statusAt e.key ≠ .SYNCED
      rw [statusAt_mark]
      split
      · exact nofun
      · exact hsafe e he hmoves
  refine (triple_writeSyncState first rfl hthrough ⟨hs.agree.journal, fun _ _ _ => Iff.rfl⟩).conseq
    (fun _ h => h) (fun _ s' hs' => ?_) fun _ _ h => h
  obtain ⟨hlast, -⟩ := hs'
  have hsub : (s.till.memory.journal.map (·.key)).Nodup := hkeys.sublist (hs.quiet.journal.map _)
  refine ⟨fun p => (hlast.stock p).trans (hs.stock p), fun p => ?_, hlast.agree,
    hsub.sublist (hlast.quiet.journal.map _)⟩
  rw [hlast.quiet.totalTaken, ← hs.quiet.totalTaken, ← sub_eq_add_neg]
  refine totalTaken_cancelled hsub ?_
  rcases h with ⟨e, he, hkey, hmoves, hstatus, rfl⟩ | ⟨hzero, hnone⟩
  · obtain ⟨hmem, hopen⟩ := hs.quiet.moving e he hmoves (hkey ▸ hstatus)
    refine .inl ⟨e, hmem, hkey, ?_⟩
    unfold JournalStore.taken
    exact if_neg hopen
  · refine .inr ⟨hzero p, fun e he hkey => ?_⟩
    have hnot := hnone e (hs.quiet.journal.subset he) hkey
    unfold JournalStore.taken
    rw [takenOf_eq_zero hnot, ite_self]

theorem MirrorInv.cancels {till : Till} (h : MirrorInv refreshed till) {writes : List WriteOutcome}
    (hwrites : GoesThrough till.memory writes)
    (hmay : ∀ e ∈ findSale till.memory.journal key, MayGiveBack till e) :
    MirrorInv refreshed (till.after (cancelOfflineSale key) writes) := by
  have htriple : Triple (fun s => s = ⟨till, writes⟩) (cancelOfflineSale key)
      (fun _ s => MirrorInv refreshed s.till) (fun _ _ => False) := by
    refine Triple.get_bind fun s hs => ?_
    subst hs
    dsimp only
    cases hfound : findSale till.memory.journal key with
    | some e =>
      obtain ⟨hmem, hkey⟩ := findSale_eq_some hfound
      obtain ⟨hopen, henough⟩ := hmay e hfound
      have hnonneg : ∀ p, 0 ≤ till.stockOf p + takenOf (stockTakenBy e) p := by
        intro p
        by_cases hzero : takenOf (stockTakenBy e) p = 0
        · rw [hzero, add_zero]
          exact h.nonneg p
        · obtain ⟨d, hd, rfl⟩ := exists_of_takenOf_ne hzero
          exact henough d hd
      refine ((moving_restore till till.stockOf (stockTakenBy e)).pre ?_).bind fun _ => ?_
      · rintro _ rfl
        exact h.moving hwrites
      · refine (moving_cancel (takenOf (stockTakenBy e)) h.keys ?_).conseq (fun _ hs => hs)
          (fun _ s hs => hs.inv h (fun p => (sub_neg_eq_add _ _).symm) hnonneg) fun _ _ hs => hs
        by_cases hmoves : MovesStock e
        · exact .inl ⟨e, hmem, hkey, hmoves, hkey ▸ hopen hmoves, rfl⟩
        · refine .inr ⟨takenOf_eq_zero hmoves, fun other hother hsame => ?_⟩
          rwa [List.inj_on_of_nodup_map h.keys hother hmem (hsame.trans hkey.symm)]
    | none =>
      refine (moving_cancel (fun _ => 0) h.keys
        (.inr ⟨fun _ => rfl, fun _ => not_moves_of_findSale_none hfound⟩)).conseq
        (fun _ hs => hs ▸ h.moving hwrites)
        (fun _ s hs => hs.inv h (fun p => ?_) h.nonneg) fun _ _ hs => hs
      rw [neg_zero, sub_zero]
  have hrun := htriple ⟨till, writes⟩ rfl
  unfold Till.after
  split at hrun
  · rename_i hon
    rw [hon]
    exact hrun
  · exact hrun.elim

/-! ## Statuses -/

/-- A write of a sync state that cancels the same sales, however it goes. -/
theorem MirrorInv.marks {refreshed : String → ℚ} {till : Till} (h : MirrorInv refreshed till)
    {state : SyncStateMap} {writes : List WriteOutcome}
    (hcancelled : SameBalance till.memory { till.memory with syncState := state })
    (hsafe : ∀ w ∈ writes, w.reclaims = true →
      ({ till.memory with syncState := state } : JournalStore).NothingToLose) :
    MirrorInv refreshed ((writeSyncState state).on ⟨till, writes⟩).2.till := by
  let first : Till := { till with memory.syncState := state }
  have hbefore : SameBalance first.memory first.disk := by
    refine ⟨h.agree.journal, fun e he hmoves => ?_⟩
    exact (h.agree.cancelled e he hmoves).trans (hcancelled.cancelled e he hmoves).symm
  have hstored : Stored first ((writeSyncState state).on ⟨till, writes⟩).2 :=
    stored_setItem putSyncState_self hsafe hbefore ⟨h.agree.journal, fun _ _ _ => Iff.rfl⟩
  refine ⟨fun p => ?_, fun p => ?_, hstored.agree, h.keys.sublist (hstored.quiet.journal.map _)⟩
  · rw [hstored.quiet.totalTaken]
    exact (hstored.stock p).trans ((h.stock p).trans (by rw [hcancelled.totalTaken]))
  · rw [hstored.stock]
    exact h.nonneg p

/-- A new loop, or a pause. -/
theorem MirrorInv.of_run {till : Till} (h : MirrorInv refreshed till) (pausedForAuth : Bool)
    (loop : Option (List PosOfflineEvent)) :
    MirrorInv refreshed { till with
      pausedForAuth := pausedForAuth
      loop := loop } :=
  ⟨h.stock, h.nonneg, h.agree, h.keys⟩

theorem sameBalance_mark {status : SyncStatus} {error : Option String}
    (hstatus : status ≠ .CANCELLED)
    (hopen : ∀ e ∈ store.journal, e.key = key → MovesStock e → store.statusAt key ≠ .CANCELLED) :
    SameBalance store (store.mark key status error) := by
  refine ⟨rfl, fun e he hmoves => ?_⟩
  rw [statusAt_mark]
  split
  · rename_i hkey
    rw [hkey]
    exact iff_of_false hstatus (hopen e he hkey hmoves)
  · rfl

theorem sameBalance_resetToPending (store : JournalStore) (keys : List String) :
    SameBalance store (resetToPending store keys) := by
  induction keys generalizing store with
  | nil => exact .refl store
  | cons key rest ih =>
    have hfirst : SameBalance store (setBack store key) := by
      unfold setBack
      split
      · rename_i entry hentry
        split
        · rename_i hstatus
          refine sameBalance_mark nofun fun e he hkey hmoves => ?_
          unfold JournalStore.statusAt
          rw [hentry]
          change entry.status ≠ .CANCELLED
          rcases hstatus with hfailed | hreview
          · rw [hfailed]
            exact nofun
          · rw [hreview]
            exact nofun
        · exact .refl store
      · exact .refl store
    have hrest := ih (setBack store key)
    refine ⟨hrest.journal.trans hfirst.journal, fun e he hmoves => ?_⟩
    have hmid : e ∈ (setBack store key).journal := by
      rw [hfirst.journal]
      exact he
    exact (hrest.cancelled e hmid hmoves).trans (hfirst.cancelled e he hmoves)

/-- Setting back makes nothing synced. -/
theorem nothingToLose_resetToPending (h : store.NothingToLose) (keys : List String) :
    (resetToPending store keys).NothingToLose := by
  intro e he hmoves hsynced
  rw [(sameBalance_resetToPending store keys).journal] at he
  unfold JournalStore.statusAt statusFromEntry at hsynced
  split at hsynced
  · rename_i entry hentry
    refine h e he hmoves ?_
    unfold JournalStore.statusAt
    rw [get?_resetToPending hentry hsynced]
    exact hsynced
  · cases hsynced

theorem MirrorInv.retries {till : Till} (h : MirrorInv refreshed till) {writes : List WriteOutcome}
    (hsafe : ∀ w ∈ writes, w.reclaims = true → till.memory.NothingToLose)
    (keys : Till → List String) : MirrorInv refreshed (till.after (setPending keys) writes) := by
  have hjournal : { till.memory with
      syncState := (resetToPending till.memory (keys till)).syncState } =
        resetToPending till.memory (keys till) := by
    have hsame := (sameBalance_resetToPending till.memory (keys till)).journal
    show JournalStore.mk till.memory.journal _ = _
    rw [← hsame]
  refine h.marks (hjournal ▸ sameBalance_resetToPending till.memory (keys till)) fun w hw hreclaims => ?_
  rw [hjournal]
  exact nothingToLose_resetToPending (hsafe w hw hreclaims) _

theorem MirrorInv.posts {till : Till} (h : MirrorInv refreshed till) {event : PosOfflineEvent}
    {rest : List PosOfflineEvent} {writes : List WriteOutcome} {outcome : PostOutcome}
    (hmay : ∀ mark ∈ (verdictOf outcome).status, MayMark till event.key mark.1 mark.2 writes) :
    MirrorInv refreshed (till.afterPost event rest writes outcome) := by
  unfold Till.afterPost
  split
  · rename_i status error hstatus
    obtain ⟨hopen, hsafe⟩ := hmay _ hstatus
    have hnotCancelled : status ≠ .CANCELLED := by
      rintro rfl
      cases hverdict : verdictOf outcome <;> rw [hverdict] at hstatus <;> cases hstatus
    have hmarked : MirrorInv refreshed ((recordStatus event.key status error).on ⟨till, writes⟩).2.till :=
      h.marks (sameBalance_mark hnotCancelled hopen) hsafe
    unfold Till.afterMark
    split
    · rename_i s hon
      rw [hon] at hmarked
      exact hmarked.of_run _ _
    · rename_i s hon
      rw [hon] at hmarked
      exact hmarked.of_run _ _
  · split
    · exact h.of_run _ _
    · exact h.of_run _ _
    · exact h.of_run _ _

/-! ## Runs -/

theorem MirrorInv.exec {till till' : Till} (h : MirrorInv refreshed till) {action : TillAction}
    (hstep : till.exec action = some till') (hkeeps : KeepsMirror till action) :
    MirrorInv refreshed till' := by
  cases action with
  | saveSaleOffline writes draws data =>
    cases hstep
    exact h.sells hkeeps.2 hkeeps.1 (fun _ => rfl) fun _ => rfl
  | payRestaurantCheckOffline writes draws order tenderedAmount =>
    cases hstep
    unfold Till.after payRestaurantCheckOffline
    split
    · exact h
    · split
      · exact h
      · split
        · exact h
        · exact h.sells hkeeps.2 hkeeps.1 (fun _ => rfl) fun _ => rfl
  | cancelOfflineSale writes key =>
    cases hstep
    exact h.cancels hkeeps.2 hkeeps.1
  | retryFailedSale writes key =>
    cases hstep
    exact h.retries hkeeps _
  | retryAllFailed writes =>
    cases hstep
    exact h.retries hkeeps _
  | startSync online =>
    cases hstep
    unfold Till.started
    split
    · exact h
    · split
      · exact h
      · exact h.of_run _ _
  | post writes outcome =>
    dsimp only [Till.exec] at hstep
    split at hstep
    · rename_i event rest hloop
      cases hstep
      refine h.posts (hkeeps event ?_)
      rw [hloop]
      rfl
    · cases hstep
  | resumeAuth =>
    cases hstep
    exact h.of_run _ _

/-- Right after a refresh: the stock is what the server said, none of it negative, and the
journal holds no sale that moved stock and is not cancelled. -/
structure Till.Refreshed (till : Till) (refreshed : String → ℚ) : Prop where
  stock : ∀ productId, till.stockOf productId = refreshed productId
  nonneg : ∀ productId, 0 ≤ refreshed productId
  stored : till.disk = till.memory
  keys : (till.memory.journal.map (·.key)).Nodup
  settled : ∀ e ∈ till.memory.journal, MovesStock e → till.memory.statusAt e.key = .CANCELLED

theorem Till.Refreshed.inv {till : Till} (h : till.Refreshed refreshed) :
    MirrorInv refreshed till := by
  have hnone : ∀ p, till.memory.totalTaken p = 0 := by
    intro p
    unfold JournalStore.totalTaken
    refine List.sum_eq_zero fun q hq => ?_
    obtain ⟨e, he, rfl⟩ := List.mem_map.mp hq
    unfold JournalStore.taken
    split
    · rfl
    · rename_i hopen
      exact takenOf_eq_zero (fun hmoves => hopen (h.settled e he hmoves)) p
  refine ⟨fun p => ?_, fun p => ?_, h.stored ▸ .refl _, h.keys⟩
  · rw [h.stock, hnone, sub_zero]
  · rw [h.stock]
    exact h.nonneg p

/-- Between two refreshes, along every run whose steps meet the condition, the stock mirror is
the balance of the journal in every state. -/
theorem mirrorBalanced_of_run {refreshed : String → ℚ} {ts : List (Till × TillAction × Till)}
    {start till : Till} (hstart : start.Refreshed refreshed)
    (hrun : Run (fun s a s' => Till.exec s a = some s') start ts till)
    (hkeeps : ∀ t ∈ ts, KeepsMirror t.1 t.2.1) :
    MirrorBalanced refreshed start ∧ ∀ t ∈ ts, MirrorBalanced refreshed t.2.2 := by
  obtain ⟨-, hall⟩ := hrun.holds (P := MirrorInv refreshed) (K := KeepsMirror)
    (fun _ _ _ hs hstep hkeep => hs.exec hstep hkeep) hkeeps hstart.inv
  exact ⟨hstart.inv.balanced, fun t ht => (hall t ht).2.balanced⟩

/-! ## A counter -/

/-- Five pieces of one product, and an empty journal. -/
def counter : Till where
  localStock := .set .empty "p-a" 5
  catalog := [⟨"p-a", some "inventory"⟩]
  menu := []
  memory := .initial
  disk := .initial
  pausedForAuth := false
  loop := none

theorem counter_refreshed : counter.Refreshed counter.stockOf where
  stock _ := rfl
  nonneg p := by
    unfold Till.stockOf
    change 0 ≤ ((OrderedMap.empty.set "p-a" (5 : ℚ)).get? p).getD 0
    rw [OrderedMap.get?_set]
    split
    · exact (by decide : (0 : ℚ) ≤ 5)
    · exact le_rfl
  stored := rfl
  keys := List.nodup_nil
  settled _ he := nomatch he

/-- Two pieces sold for cash. -/
def twoPieces : OfflineSaleData where
  customerId := none
  lineItems := [⟨"p-a", "a", "", "PIECE", none, 2, 10, 6, 20, 0, none⟩]
  subtotal := 20
  discountAmount := 0
  taxAmount := 0
  totalAmount := 20
  paymentLines := [⟨.CASH, 20, none⟩]

def sellTwo (writes : List WriteOutcome) (key : String) : TillAction :=
  .saveSaleOffline writes ⟨key, "x", "X", 0⟩ twoPieces

def Till.next (till : Till) (action : TillAction) : Till := (till.exec action).getD till

/-- Two sales, one of them over a full quota; the first is refused by the server, set back and
cancelled, and the second is synced although the status cannot be stored. -/
def dayAtTheCounter : List TillAction :=
  [sellTwo [.written, .reclaimed] "k1", sellTwo [] "k2", .startSync true,
    .post [] unavailable, .post [.failed] taken, .retryFailedSale [] "k1",
    .cancelOfflineSale [] "k1"]

/-- A sale is cancelled, and cancelled again. -/
def cancelledTwice : List TillAction :=
  [sellTwo [] "k1", .cancelOfflineSale [] "k1", .cancelOfflineSale [] "k1"]

theorem dayAtTheCounter_balanced : MirrorBalanced counter.stockOf counter ∧
    ∀ t ∈ transitions Till.next counter dayAtTheCounter, MirrorBalanced counter.stockOf t.2.2 :=
  mirrorBalanced_of_run counter_refreshed (.of_exec (by decide +kernel)) (by decide +kernel)

/-- Seven pieces are left of five. -/
theorem cancelledTwice_not_balanced :
    counter.Refreshed counter.stockOf ∧
      Run (fun s a s' => Till.exec s a = some s') counter
        (transitions Till.next counter cancelledTwice) (cancelledTwice.foldl .next counter) ∧
      ¬ MirrorBalanced counter.stockOf (cancelledTwice.foldl .next counter) := by
  refine ⟨counter_refreshed, .of_exec (by decide +kernel), fun h => ?_⟩
  exact absurd (h "p-a").1 (by decide +kernel)

end SmartErpPos.Offline
