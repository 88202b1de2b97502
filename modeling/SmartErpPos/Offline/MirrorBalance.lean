/-
  Offline/MirrorBalance.lean --- the stock mirror as the balance of the journal.

  Since a refresh of the catalog the stock of a product is what the refresh said, less what
  the sales of the journal that are not cancelled have taken.  Stock and journal are written
  one after the other, so a failing write in between leaves them apart; a cancellation gives
  back what the event took whatever its status is; a sync run marks an event whatever
  happened to it since the run began; and the compaction drops sales that are synced.

  A compaction that drops no such sale is quiet: the balance of the journal stays.
-/
import SmartErpPos.Offline.StockMirror

set_option autoImplicit false

namespace SmartErpPos.Offline

open SmartErpPos.Lib

/-! ## The balance -/

/-- What deductions take of a product. -/
def takenOf (deductions : List StockDeduction) (productId : String) : ℚ :=
  ((deductions.filter fun d => d.productId = productId).map (·.quantity)).sum

/-- The event takes something of some product. -/
def MovesStock (e : PosOfflineEvent) : Prop :=
  ∃ d ∈ stockTakenBy e, takenOf (stockTakenBy e) d.productId ≠ 0

instance (e : PosOfflineEvent) : Decidable (MovesStock e) :=
  inferInstanceAs (Decidable (∃ d ∈ stockTakenBy e, takenOf (stockTakenBy e) d.productId ≠ 0))

namespace JournalStore

variable (store : JournalStore)

def statusAt (key : String) : SyncStatus := statusFromEntry (store.syncState.get? key)

/-- What an event that is not cancelled takes of a product. -/
def taken (productId : String) (e : PosOfflineEvent) : ℚ :=
  if store.statusAt e.key = .CANCELLED then 0 else takenOf (stockTakenBy e) productId

/-- What the sales of the journal that are not cancelled take of a product. -/
def totalTaken (productId : String) : ℚ := (store.journal.map (store.taken productId)).sum

/-- No sale that moved stock is synced, so a compaction finds none to drop. -/
def NothingToLose : Prop := ∀ e ∈ store.journal, MovesStock e → store.statusAt e.key ≠ .SYNCED

instance : Decidable store.NothingToLose :=
  inferInstanceAs (Decidable (∀ e ∈ store.journal, MovesStock e → store.statusAt e.key ≠ .SYNCED))

end JournalStore

/-- The stock of every product is what the refresh said, less what the journal has taken,
stored and in memory; and it is not negative. -/
def MirrorBalanced (refreshed : String → ℚ) (till : Till) : Prop :=
  ∀ productId, till.stockOf productId = refreshed productId - till.disk.totalTaken productId ∧
    till.stockOf productId = refreshed productId - till.memory.totalTaken productId ∧
    0 ≤ till.stockOf productId

/-! ## The condition on a step -/

def WriteOutcome.reclaims : WriteOutcome → Bool
  | .reclaimed | .full => true
  | .written | .failed => false

/-- Every write goes through, and a compaction on the way has nothing to lose. -/
def GoesThrough (store : JournalStore) (writes : List WriteOutcome) : Prop :=
  ∀ w ∈ writes, w = .written ∨ (w = .reclaimed ∧ store.NothingToLose)

/-- Nothing is known under the key. -/
structure FreshKey (till : Till) (key : String) : Prop where
  journal : ∀ e ∈ till.memory.journal, e.key ≠ key
  memory : till.memory.syncState.get? key = none
  disk : till.disk.syncState.get? key = none

instance (till : Till) (key : String) : Decidable (FreshKey till key) :=
  decidable_of_iff ((∀ e ∈ till.memory.journal, e.key ≠ key) ∧
      till.memory.syncState.get? key = none ∧ till.disk.syncState.get? key = none)
    ⟨fun h => ⟨h.1, h.2.1, h.2.2⟩, fun h => ⟨h.journal, h.memory, h.disk⟩⟩

/-- Cancelling the event gives back stock it still holds, and no more than there is. -/
def MayGiveBack (till : Till) (e : PosOfflineEvent) : Prop :=
  (MovesStock e → till.memory.statusAt e.key ≠ .CANCELLED) ∧
    ∀ d ∈ stockTakenBy e, 0 ≤ till.stockOf d.productId + takenOf (stockTakenBy e) d.productId

/-- Marking the event does not bring back a cancelled sale, and a compaction on the way has
nothing to lose. -/
def MayMark (till : Till) (key : String) (status : SyncStatus) (error : Option String)
    (writes : List WriteOutcome) : Prop :=
  (∀ e ∈ till.memory.journal, e.key = key → MovesStock e → till.memory.statusAt key ≠ .CANCELLED) ∧
    ∀ w ∈ writes, w.reclaims = true → (till.memory.mark key status error).NothingToLose

/-- The condition on a step. -/
def KeepsMirror (till : Till) : TillAction → Prop
  | .saveSaleOffline writes draws _ => FreshKey till draws.key ∧ GoesThrough till.memory writes
  | .payRestaurantCheckOffline writes draws _ _ =>
    FreshKey till draws.key ∧ GoesThrough till.memory writes
  | .cancelOfflineSale writes key =>
    (∀ e ∈ findSale till.memory.journal key, MayGiveBack till e) ∧ GoesThrough till.memory writes
  | .retryFailedSale writes _ => ∀ w ∈ writes, w.reclaims = true → till.memory.NothingToLose
  | .retryAllFailed writes => ∀ w ∈ writes, w.reclaims = true → till.memory.NothingToLose
  | .startSync _ => True
  | .post writes outcome =>
    ∀ event ∈ till.loop.bind List.head?, ∀ mark ∈ (verdictOf outcome).status,
      MayMark till event.key mark.1 mark.2 writes
  | .resumeAuth => True

instance (till : Till) (action : TillAction) : Decidable (KeepsMirror till action) := by
  cases action <;> unfold KeepsMirror <;> try unfold GoesThrough
  all_goals try unfold MayGiveBack
  all_goals try unfold MayMark
  all_goals infer_instance

/-! ## What deductions take -/

@[simp] theorem takenOf_nil (productId : String) : takenOf [] productId = 0 := rfl

theorem takenOf_append (xs ys : List StockDeduction) (productId : String) :
    takenOf (xs ++ ys) productId = takenOf xs productId + takenOf ys productId := by
  unfold takenOf
  rw [List.filter_append, List.map_append, List.sum_append]

theorem takenOf_cons (d : StockDeduction) (ds : List StockDeduction) (productId : String) :
    takenOf (d :: ds) productId =
      (if d.productId = productId then d.quantity else 0) + takenOf ds productId := by
  unfold takenOf
  rw [List.filter_cons]
  by_cases h : d.productId = productId
  · simp [h]
  · simp [h]

theorem exists_of_takenOf_ne {deductions : List StockDeduction} {productId : String}
    (h : takenOf deductions productId ≠ 0) : ∃ d ∈ deductions, d.productId = productId := by
  by_contra hnone
  have hnil : deductions.filter (fun d => d.productId = productId) = [] := by
    refine List.filter_eq_nil_iff.mpr fun d hd hsame => hnone ⟨d, hd, ?_⟩
    exact of_decide_eq_true hsame
  refine h ?_
  unfold takenOf
  rw [hnil]
  rfl

theorem takenOf_eq_zero {e : PosOfflineEvent} (h : ¬ MovesStock e) (productId : String) :
    takenOf (stockTakenBy e) productId = 0 := by
  by_contra hne
  obtain ⟨d, hd, hproduct⟩ := exists_of_takenOf_ne hne
  exact h ⟨d, hd, hproduct ▸ hne⟩

/-! ## Two copies of the journal -/

theorem JournalStore.taken_congr {store store' : JournalStore} {e : PosOfflineEvent}
    (h : MovesStock e → (store'.statusAt e.key = .CANCELLED ↔ store.statusAt e.key = .CANCELLED))
    (productId : String) : store'.taken productId e = store.taken productId e := by
  unfold JournalStore.taken
  by_cases hmoves : MovesStock e
  · simp only [h hmoves]
  · simp [takenOf_eq_zero hmoves]

/-- The same events, and the same sales cancelled of those that moved stock. -/
structure SameBalance (store store' : JournalStore) : Prop where
  journal : store'.journal = store.journal
  cancelled : ∀ e ∈ store.journal, MovesStock e →
    (store'.statusAt e.key = .CANCELLED ↔ store.statusAt e.key = .CANCELLED)

theorem SameBalance.refl (store : JournalStore) : SameBalance store store :=
  ⟨rfl, fun _ _ _ => Iff.rfl⟩

theorem SameBalance.totalTaken {store store' : JournalStore} (h : SameBalance store store')
    (productId : String) : store'.totalTaken productId = store.totalTaken productId := by
  unfold JournalStore.totalTaken
  rw [h.journal]
  refine congrArg List.sum (List.map_congr_left fun e he => ?_)
  exact JournalStore.taken_congr (h.cancelled e he) productId

/-! ## Compaction -/

/-- The journal lost nothing that counts, and nothing was cancelled or synced. -/
structure Quiet (before after : JournalStore) : Prop where
  journal : after.journal.Sublist before.journal
  moving : ∀ e ∈ before.journal, MovesStock e → before.statusAt e.key ≠ .CANCELLED →
    e ∈ after.journal ∧ after.statusAt e.key ≠ .CANCELLED
  entry : ∀ key, after.syncState.get? key = before.syncState.get? key ∨
    after.syncState.get? key = none
  totalTaken : ∀ productId, after.totalTaken productId = before.totalTaken productId

theorem Quiet.refl (store : JournalStore) : Quiet store store :=
  ⟨.refl _, fun _ he _ hstatus => ⟨he, hstatus⟩, fun _ => .inl rfl, fun _ => rfl⟩

theorem Quiet.trans {a b c : JournalStore} (h : Quiet a b) (h' : Quiet b c) : Quiet a c where
  journal := h'.journal.trans h.journal
  moving e he hmoves hstatus := by
    obtain ⟨hmid, hmidStatus⟩ := h.moving e he hmoves hstatus
    exact h'.moving e hmid hmoves hmidStatus
  entry key := by
    rcases h'.entry key with hsame | hnone
    · rw [hsame]
      exact h.entry key
    · exact .inr hnone
  totalTaken productId := (h'.totalTaken productId).trans (h.totalTaken productId)

theorem Quiet.status_cases {before after : JournalStore} (h : Quiet before after) (key : String) :
    after.statusAt key = before.statusAt key ∨ after.statusAt key = .PENDING := by
  unfold JournalStore.statusAt
  rcases h.entry key with hsame | hnone
  · exact .inl (congrArg _ hsame)
  · exact .inr (congrArg statusFromEntry hnone)

theorem Quiet.nothingToLose {before after : JournalStore} (h : Quiet before after)
    (hsafe : before.NothingToLose) : after.NothingToLose := by
  intro e he hmoves
  rcases h.status_cases e.key with hsame | hpending
  · rw [hsame]
    exact hsafe e (h.journal.subset he) hmoves
  · rw [hpending]
    exact nofun

/-- An event that moved stock is not dropped, unless it is cancelled. -/
theorem JournalStore.NothingToLose.keeps {store : JournalStore} (h : store.NothingToLose)
    {e : PosOfflineEvent} (he : e ∈ store.journal) (hmoves : MovesStock e)
    (hstatus : store.statusAt e.key ≠ .CANCELLED) : store.keeps e = true := by
  have hunsynced : store.isUnsynced e = true := by
    have hsynced := h e he hmoves
    unfold JournalStore.statusAt at hstatus hsynced
    unfold JournalStore.isUnsynced isUnsyncedStatus
    cases hentry : store.syncState.get? e.key with
    | none => rfl
    | some entry =>
      rw [hentry] at hstatus hsynced
      change entry.status ≠ _ at hstatus hsynced
      rw [Option.map_some, Option.getD_some]
      cases hs : entry.status with
      | PENDING => rfl
      | FAILED => rfl
      | REVIEW => rfl
      | SYNCED => exact absurd hs hsynced
      | CANCELLED => exact absurd hs hstatus
  unfold JournalStore.keeps
  rw [if_pos hunsynced]

theorem JournalStore.NothingToLose.quiet_compacted {store : JournalStore}
    (h : store.NothingToLose) : Quiet store store.compacted := by
  have hentry : ∀ key, store.compacted.syncState.get? key = store.syncState.get? key ∨
      store.compacted.syncState.get? key = none := by
    intro key
    unfold JournalStore.compacted
    dsimp only
    by_cases hkept : (store.keep.map (·.key)).contains key = true
    · exact .inl (OrderedMap.get?_restrict hkept _)
    · exact .inr (OrderedMap.get?_restrict_of_false (Bool.eq_false_iff.mpr hkept) _)
  have hsame : ∀ e ∈ store.keep, store.compacted.syncState.get? e.key =
      store.syncState.get? e.key := by
    intro e he
    refine OrderedMap.get?_restrict ?_ _
    exact List.contains_iff_mem.mpr (List.mem_map_of_mem he)
  have hstatus : ∀ e ∈ store.keep, store.compacted.statusAt e.key = store.statusAt e.key :=
    fun e he => congrArg statusFromEntry (hsame e he)
  constructor
  case journal => exact List.filter_sublist
  case moving =>
    intro e he hmoves hnot
    have hkept : e ∈ store.keep := List.mem_filter.mpr ⟨he, h.keeps he hmoves hnot⟩
    exact ⟨hkept, hstatus e hkept ▸ hnot⟩
  case entry => exact hentry
  case totalTaken =>
    intro productId
    have hkept : store.compacted.totalTaken productId =
        (store.keep.map (store.taken productId)).sum := by
      refine congrArg List.sum (List.map_congr_left fun e he => ?_)
      unfold JournalStore.taken
      rw [hstatus e he]
    have hdropped : ∀ events : List PosOfflineEvent, (∀ e ∈ events, e ∈ store.journal) →
        ((events.filter store.keeps).map (store.taken productId)).sum =
          (events.map (store.taken productId)).sum := by
      intro events hevents
      induction events with
      | nil => rfl
      | cons e rest ih =>
        obtain ⟨he, hrest⟩ := List.forall_mem_cons.mp hevents
        rw [List.filter_cons]
        split
        · rw [List.map_cons, List.sum_cons, List.map_cons, List.sum_cons, ih hrest]
        · rename_i hnot
          have hzero : store.taken productId e = 0 := by
            unfold JournalStore.taken
            split
            · rfl
            · rename_i hnotCancelled
              refine takenOf_eq_zero (fun hmoves => hnot ?_) productId
              exact h.keeps he hmoves hnotCancelled
          rw [List.map_cons, List.sum_cons, ih hrest, hzero, zero_add]
    exact hkept.trans (hdropped store.journal fun _ he => he)

/-- A reclaim either compacts the stored journal with the one in memory, or leaves both. -/
theorem Till.reclaim_cases (till : Till) :
    (till.reclaim.memory = till.memory ∧ till.reclaim.disk = till.disk) ∨
      (till.reclaim.memory = till.memory.compacted ∧ till.reclaim.disk = till.memory.compacted) := by
  unfold Till.reclaim compactSyncedClosedJournal
  dsimp only
  split
  · exact .inl ⟨rfl, rfl⟩
  · split
    · exact .inl ⟨rfl, rfl⟩
    · exact .inr ⟨rfl, rfl⟩

end SmartErpPos.Offline
