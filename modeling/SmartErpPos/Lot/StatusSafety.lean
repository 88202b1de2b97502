/-
  Lot/StatusSafety.lean --- INV-004: which lots may gain stock or become active.

  Every operation here overwrites at most one batch, and `lotWritten` says which
  one and how: it adds to the remaining quantity, sets the batch active, or sets a
  given status.  Only the first of the return paths asks for the status of the lot,
  and only for `DISPOSED` and `ARCHIVED`; the others write whatever lot they find.
  `StatusWrite.allowed` is what they would have to ask, and the run theorem says
  that it is exactly what keeps the invariant.
-/
import SmartErpPos.Lib.Transition
import SmartErpPos.Lot.StockMovement
import SmartErpPos.Lot.Wiring

set_option autoImplicit false

namespace SmartErpPos.Lot

open SmartErpPos.Lib

/-! ## Operations -/

inductive StatusOp where
  | returnLot (input : LotReturnInput)
  | increaseMasterRemainingQuantity (batchId : BatchId) (quantity : ℚ)
  | resolveBatch (costOf : String → Option ℚ) (params : StockMovementParams)
  | transitionLotStatus (input : LotStatusTransitionInput)

/-- The tables after a successful operation. -/
def applyStatusOp (env : LotEnv) (clock : Clock) (db : LotDb) : StatusOp → Except LotError LotDb
  | .returnLot input => (returnLot env clock db input).map Prod.fst
  | .increaseMasterRemainingQuantity batchId quantity =>
    (increaseMasterRemainingQuantity db batchId quantity).map Prod.fst
  | .resolveBatch costOf params => (resolveBatch env clock costOf db params).map Prod.fst
  | .transitionLotStatus input => (transitionLotStatus env db input).map Prod.fst

def StatusOp.isTransition : StatusOp → Bool
  | .transitionLotStatus _ => true
  | _ => false

/-- One step of a run; a failed call is rolled back. -/
def statusStep (env : LotEnv) (db : LotDb) (call : Clock × StatusOp) : LotDb :=
  settled (applyStatusOp env call.1 db call.2) db

/-! ## The invariant of a step -/

/-- Statuses a lot leaves for `ACTIVE` only by a status transition. -/
def heldStatuses : List LotStoredStatus := [.QUARANTINED, .RECALLED, .BLOCKED]

/-- What may become of one lot. -/
structure RowSafe (op : StatusOp) (row row' : BatchRow) : Prop where
  no_gain : row.status ∈ NON_RECEIVABLE_LOT_STATUSES →
    row'.remainingQuantity ≤ row.remainingQuantity
  not_active : row.status ∈ NON_RECEIVABLE_LOT_STATUSES → row'.status ≠ .ACTIVE
  held : row.status ∈ heldStatuses → row'.status = .ACTIVE → op.isTransition = true

/-- INV-004 for one step. -/
def StatusSafe (db : LotDb) (op : StatusOp) (db' : LotDb) : Prop :=
  ∀ id row row', db.batches.get? id = some row → db'.batches.get? id = some row' →
    RowSafe op row row'

/-! ## What an operation writes -/

inductive StatusWrite where
  | increase (quantity : ℚ)
  | activate
  | setStatus (status : LotStoredStatus)

def StatusWrite.apply : StatusWrite → BatchRow → BatchRow
  | .increase quantity, row => row.increased quantity
  | .activate, row => { row with status := .ACTIVE }
  | .setStatus status, row => { row with status := status }

/-- The `MAIN` batch a movement sets active, if it comes to that. -/
def reactivatedBatch (env : LotEnv) (clock : Clock) (db : LotDb) (params : StockMovementParams) :
    Option BatchId :=
  if params.batchId.isSome ∨ (params.movementType.isOutbound = true ∧
      loadGlobalSelectableLots env clock db params.productId ⟨0, none, false⟩ ≠ []) then none
  else ((findBatch db params.productId "MAIN").filter fun e => e.2.status ≠ .ACTIVE).map Prod.fst

/-- The lot an operation overwrites, and how. -/
def lotWritten (env : LotEnv) (clock : Clock) (db : LotDb) : StatusOp → Option (BatchId × StatusWrite)
  | .returnLot input =>
    (input.batchId.or (defaultReturnBatch db input)).map fun id => (id, .increase input.quantity)
  | .increaseMasterRemainingQuantity batchId quantity => some (batchId, .increase quantity)
  | .resolveBatch _ params =>
    (reactivatedBatch env clock db params).map fun id => (id, .activate)
  | .transitionLotStatus input => some (input.lotId, .setStatus input.newStatus)

/-- Statuses a lot may leave for `ACTIVE` by any operation. -/
def freeStatuses : List LotStoredStatus := [.ACTIVE, .DEPLETED, .EXPIRED]

/-- When overwriting a lot is safe.  An increase that leaves nothing in the lot does
not touch its status. -/
def StatusWrite.allowed (row : BatchRow) : StatusWrite → Prop
  | .increase quantity =>
    row.status ∈ freeStatuses ∨
      (row.remainingQuantity.toRat + quantity ≤ 0 ∧
        (row.status ∈ NON_RECEIVABLE_LOT_STATUSES →
          (row.increased quantity).remainingQuantity ≤ row.remainingQuantity))
  | .activate => row.status ∈ freeStatuses
  | .setStatus status => status = .ACTIVE → row.status ∉ NON_RECEIVABLE_LOT_STATUSES

/-- The lot an operation overwrites may be overwritten so. -/
def WriteAllowed (env : LotEnv) (clock : Clock) (db : LotDb) (op : StatusOp) : Prop :=
  ∀ id w row, lotWritten env clock db op = some (id, w) → db.batches.get? id = some row →
    w.allowed row

theorem status_classes (status : LotStoredStatus) :
    status ∈ freeStatuses ∨ status ∈ NON_RECEIVABLE_LOT_STATUSES ∨ status ∈ heldStatuses := by
  cases status <;> decide

theorem not_held_of_free {status : LotStoredStatus} (h : status ∈ freeStatuses) :
    status ∉ NON_RECEIVABLE_LOT_STATUSES ∧ status ∉ heldStatuses := by
  cases status
  case ACTIVE => decide
  case DEPLETED => decide
  case EXPIRED => decide
  all_goals exact absurd h (by decide)

variable {op : StatusOp} {db db' : LotDb} {env : LotEnv} {clock : Clock}

/-- A lot that a step other than a transition makes active was free to become so. -/
theorem free_of_active (hop : op.isTransition = false) {row row' : BatchRow}
    (hsafe : RowSafe op row row') (hactive : row'.status = .ACTIVE) :
    row.status ∈ freeStatuses := by
  rcases status_classes row.status with h | h | h
  · exact h
  · exact absurd hactive (hsafe.not_active h)
  · rw [hsafe.held h hactive] at hop
    cases hop

theorem RowSafe.of_free {row row' : BatchRow} (h : row.status ∈ freeStatuses) :
    RowSafe op row row' :=
  ⟨fun hn => absurd hn (not_held_of_free h).1, fun hn => absurd hn (not_held_of_free h).1,
    fun hh => absurd hh (not_held_of_free h).2⟩

/-- A step that keeps the status and adds nothing to a disposed lot is safe. -/
theorem RowSafe.of_status_eq {row row' : BatchRow} (hstatus : row'.status = row.status)
    (hgain : row.status ∈ NON_RECEIVABLE_LOT_STATUSES →
      row'.remainingQuantity ≤ row.remainingQuantity) : RowSafe op row row' := by
  refine ⟨hgain, fun hn hactive => ?_, fun hh hactive => ?_⟩
  · rw [hstatus] at hactive
    rw [hactive] at hn
    exact absurd hn (by decide)
  · rw [hstatus] at hactive
    rw [hactive] at hh
    exact absurd hh (by decide)

theorem rowSafe_increased_iff (hop : op.isTransition = false) (row : BatchRow) (quantity : ℚ) :
    RowSafe op row (row.increased quantity) ↔ (StatusWrite.increase quantity).allowed row := by
  constructor
  · intro hsafe
    by_cases htotal : 0 < row.remainingQuantity.toRat + quantity
    · exact .inl (free_of_active hop hsafe (by simp [BatchRow.increased, htotal]))
    · exact .inr ⟨not_lt.mp htotal, hsafe.no_gain⟩
  · rintro (hfree | ⟨htotal, hgain⟩)
    · exact .of_free hfree
    · exact .of_status_eq (by simp [BatchRow.increased, not_lt.mpr htotal]) hgain

theorem rowSafe_activate_iff (hop : op.isTransition = false) (row : BatchRow) :
    RowSafe op row (StatusWrite.activate.apply row) ↔ StatusWrite.activate.allowed row :=
  ⟨fun hsafe => free_of_active hop hsafe rfl, fun hfree => .of_free hfree⟩

theorem rowSafe_setStatus_iff (hop : op.isTransition = true) (row : BatchRow)
    (status : LotStoredStatus) :
    RowSafe op row ((StatusWrite.setStatus status).apply row) ↔
      (StatusWrite.setStatus status).allowed row := by
  constructor
  · intro hsafe hactive hn
    exact hsafe.not_active hn hactive
  · intro hallowed
    exact ⟨fun _ => le_rfl, fun hn hactive => hallowed hactive hn, fun _ _ => hop⟩

/-! ## One inversion for every operation -/

/-- What an operation does to the batches: it overwrites the lot `lotWritten` names,
or leaves them alone, or inserts one under the next key. -/
inductive BatchesAfter (env : LotEnv) (clock : Clock) (db : LotDb) (op : StatusOp) (db' : LotDb) :
    Prop where
  | overwritten (id : BatchId) (w : StatusWrite) (row : BatchRow)
      (hwritten : lotWritten env clock db op = some (id, w))
      (hrow : db.batches.get? id = some row)
      (hbatches : db'.batches = db.batches.set id (w.apply row)) (hnext : db.nextId ≤ db'.nextId)
  | unchanged (hwritten : lotWritten env clock db op = none) (hbatches : db'.batches = db.batches)
      (hnext : db.nextId ≤ db'.nextId)
  | inserted (row : BatchRow) (hwritten : lotWritten env clock db op = none)
      (hbatches : db'.batches = db.batches.set db.nextId row) (hnext : db.nextId < db'.nextId)

/-- Nothing the projection, the balances or the stores do touches a batch. -/
theorem upsertProjection_batches {data : LotProjectionWrite}
    (h : upsertProjection db data = .ok db') :
    db'.batches = db.batches ∧ db.nextId ≤ db'.nextId := by
  simp only [upsertProjection, bind_eq_ok] at h
  obtain ⟨_, _, h⟩ := h
  split at h
  · cases h
    exact ⟨rfl, le_rfl⟩
  · split at h
    · cases h
      exact ⟨rfl, le_rfl⟩
    · cases h
      exact ⟨rfl, Nat.le_succ _⟩

theorem upsertByCode_batches (db : LotDb) (row : StoreRow) :
    (upsertByCode db row).1.batches = db.batches ∧ db.nextId ≤ (upsertByCode db row).1.nextId := by
  unfold upsertByCode
  split
  · exact ⟨rfl, le_rfl⟩
  · exact ⟨rfl, Nat.le_succ _⟩

theorem incrementBalanceAtStore_batches {params : BalanceChange}
    (h : incrementBalanceAtStore db params = .ok db') :
    db'.batches = db.batches ∧ db'.nextId = db.nextId := by
  simp only [incrementBalanceAtStore, bind_eq_ok, pure_eq_ok] at h
  obtain ⟨_, _, _, _, rfl⟩ := h
  exact ⟨rfl, rfl⟩

/-- The store a return goes to leaves the batches as they are. -/
theorem returnTarget_batches (env : LotEnv) (db : LotDb) (targetStoreLocationId : Option StoreId) :
    (match targetStoreLocationId with
      | some target => (db, target)
      | none => ensureReturnStore env db).1.batches = db.batches ∧
    db.nextId ≤ (match targetStoreLocationId with
      | some target => (db, target)
      | none => ensureReturnStore env db).1.nextId := by
  split
  · exact ⟨rfl, le_rfl⟩
  · unfold ensureReturnStore
    split
    · exact ⟨rfl, le_rfl⟩
    · exact upsertByCode_batches db _

theorem returnLot_batches {input : LotReturnInput} {r : LotDb × InventoryLot}
    (h : returnLot env clock db input = .ok r) :
    ∃ m, resolveReturnMasterLot env clock db input = .ok m ∧ r.1.batches = m.1.batches ∧
      m.1.nextId ≤ r.1.nextId := by
  simp only [returnLot, bind_eq_ok] at h
  obtain ⟨m, hm, h⟩ := h
  refine ⟨m, hm, ?_⟩
  split at h
  · simp only [bind_eq_ok, pure_eq_ok, syncMultistoreProjectionAndBalance, orThrow_eq_ok] at h
    obtain ⟨synced, ⟨projected, hproj, _, _, hinc⟩, rfl⟩ := h
    obtain ⟨hb, hn⟩ := upsertProjection_batches hproj
    obtain ⟨hb', hn'⟩ := incrementBalanceAtStore_batches hinc
    have hstore := returnTarget_batches env m.1 input.targetStoreLocationId
    refine ⟨(hb'.trans hb).trans hstore.1, ?_⟩
    rw [hn']
    exact hstore.2.trans hn
  · rw [pure_eq_ok] at h
    subst h
    exact ⟨rfl, le_rfl⟩

theorem resolveReturnMasterLot_cases {input : LotReturnInput} {m : LotDb × InventoryLot}
    (h : resolveReturnMasterLot env clock db input = .ok m) :
    BatchesAfter env clock db (.returnLot input) m.1 := by
  have hraised : ∀ id, (input.batchId.or (defaultReturnBatch db input)) = some id →
      increaseMasterRemainingQuantity db id input.quantity = .ok m →
      BatchesAfter env clock db (.returnLot input) m.1 := by
    intro id hid hinc
    obtain ⟨row, hrow, rfl⟩ := increaseMaster_ok hinc
    exact .overwritten id (.increase input.quantity) row (by simp [lotWritten, hid]) hrow rfl le_rfl
  unfold resolveReturnMasterLot at h
  split at h
  · rename_i batchId hbatch
    simp only [bind_eq_ok] at h
    obtain ⟨_, _, _, _, hinc⟩ := h
    exact hraised batchId (by simp [hbatch]) hinc
  · rename_i hbatch
    split at h
    · rename_i batchId hdefault
      exact hraised batchId (by simp [hbatch, hdefault]) h
    · rename_i hdefault
      obtain ⟨-, rfl⟩ := insertBatch_ok h
      exact .inserted _ (by simp [lotWritten, hbatch, hdefault]) rfl (Nat.lt_succ_self _)

/-- Later writes that leave the batches alone do not change the case. -/
theorem BatchesAfter.congr {mid : LotDb} (h : BatchesAfter env clock db op mid)
    (hbatches : db'.batches = mid.batches) (hnext : mid.nextId ≤ db'.nextId) :
    BatchesAfter env clock db op db' := by
  cases h with
  | overwritten id w row hwritten hrow hmid hle =>
    exact .overwritten id w row hwritten hrow (hbatches.trans hmid) (hle.trans hnext)
  | unchanged hwritten hmid hle =>
    exact .unchanged hwritten (hbatches.trans hmid) (hle.trans hnext)
  | inserted row hwritten hmid hlt =>
    exact .inserted row hwritten (hbatches.trans hmid) (lt_of_lt_of_le hlt hnext)

theorem createMainBatch_ok {costOf : String → Option ℚ} {productId : String}
    {r : LotDb × MovementBatch} (h : createMainBatch env clock costOf db productId = .ok r) :
    ∃ lot, ensureMainBatch env clock db productId ((costOf productId).getD 0) = .ok (r.1, lot) := by
  simp only [createMainBatch, bind_eq_ok, pure_eq_ok] at h
  obtain ⟨_, _, main, hmain, rfl⟩ := h
  exact ⟨main.2, hmain⟩

/-- Once it comes to the `MAIN` batch, that batch is set active unless it is. -/
theorem resolveMainBatch_cases {costOf : String → Option ℚ} {params : StockMovementParams}
    {r : LotDb × MovementBatch} (hmain : reactivatedBatch env clock db params =
      ((findBatch db params.productId "MAIN").filter fun e => e.2.status ≠ .ACTIVE).map Prod.fst)
    (h : resolveMainBatch env clock costOf db params = .ok r) :
    BatchesAfter env clock db (.resolveBatch costOf params) r.1 := by
  unfold resolveMainBatch at h
  cases hfind : findBatch db params.productId "MAIN" with
  | none =>
    rw [hfind] at hmain
    simp only [hfind] at h
    obtain ⟨lot, hensure⟩ := createMainBatch_ok h
    simp only [ensureMainBatch, hfind] at hensure
    obtain ⟨-, hr⟩ := insertBatch_ok hensure
    rw [Prod.mk.injEq] at hr
    rw [hr.1]
    exact .inserted _ (by simp [lotWritten, hmain]) rfl (Nat.lt_succ_self _)
  | some found =>
    obtain ⟨id, row⟩ := found
    obtain ⟨hrow, -, -⟩ := findBatch_eq_some hfind
    rw [hfind] at hmain
    simp only [hfind] at h
    by_cases hactive : row.status = .ACTIVE
    · simp only [hactive, ne_eq, not_true_eq_false, false_and, if_false, if_true] at h
      cases h
      exact .unchanged (by simp [lotWritten, hmain, hactive]) rfl le_rfl
    · have hwritten : lotWritten env clock db (.resolveBatch costOf params) = some (id, .activate) := by
        simp [lotWritten, hmain, hactive]
      by_cases hin : params.movementType.isOutbound = false
      · rw [if_pos ⟨hactive, hin⟩] at h
        cases h
        exact .overwritten id .activate row hwritten hrow (OrderedMap.modify_eq_set hrow _)
          le_rfl
      · rw [if_neg fun hc => hin hc.2, if_neg hactive] at h
        obtain ⟨lot, hensure⟩ := createMainBatch_ok h
        simp only [ensureMainBatch, hfind, Except.ok.injEq, writeBatch, Prod.mk.injEq] at hensure
        rw [← hensure.1]
        exact .overwritten id .activate row hwritten hrow rfl le_rfl

theorem resolveBatch_cases {costOf : String → Option ℚ} {params : StockMovementParams}
    {r : LotDb × MovementBatch} (h : resolveBatch env clock costOf db params = .ok r) :
    BatchesAfter env clock db (.resolveBatch costOf params) r.1 := by
  unfold resolveBatch at h
  split at h
  · rename_i batchId hbatch
    simp only [bind_eq_ok, pure_eq_ok] at h
    obtain ⟨_, _, rfl⟩ := h
    exact .unchanged (by simp [lotWritten, reactivatedBatch, hbatch]) rfl le_rfl
  · rename_i hbatch
    split at h
    · rename_i hout
      split at h
      · rename_i first rest hlots
        cases h
        exact .unchanged (by simp [lotWritten, reactivatedBatch, hout, hlots]) rfl le_rfl
      · rename_i hlots
        exact resolveMainBatch_cases (by simp [reactivatedBatch, hbatch, hlots]) h
    · rename_i hin
      exact resolveMainBatch_cases (by simp [reactivatedBatch, hbatch, hin]) h

theorem transitionLotStatus_cases {input : LotStatusTransitionInput} {r : LotDb × InventoryLot}
    (h : transitionLotStatus env db input = .ok r) :
    BatchesAfter env clock db (.transitionLotStatus input) r.1 := by
  simp only [transitionLotStatus, updateMasterStatus, bind_eq_ok, pure_eq_ok, orThrow_eq_ok] at h
  obtain ⟨db', ⟨_, _, _, _, rfl⟩, lot, hlot, rfl⟩ := h
  obtain ⟨row', hrow', -⟩ := Option.map_eq_some_iff.mp hlot
  rw [OrderedMap.get?_modify_self] at hrow'
  obtain ⟨row, hrow, -⟩ := Option.map_eq_some_iff.mp hrow'
  exact .overwritten input.lotId (.setStatus input.newStatus) row rfl hrow
    (OrderedMap.modify_eq_set hrow _) le_rfl

theorem applyStatusOp_cases (h : applyStatusOp env clock db op = .ok db') :
    BatchesAfter env clock db op db' := by
  cases op with
  | returnLot input =>
    obtain ⟨r, hr, rfl⟩ := map_eq_ok h
    obtain ⟨m, hm, hbatches, hnext⟩ := returnLot_batches hr
    exact (resolveReturnMasterLot_cases hm).congr hbatches hnext
  | increaseMasterRemainingQuantity batchId quantity =>
    obtain ⟨r, hr, rfl⟩ := map_eq_ok h
    obtain ⟨row, hrow, rfl⟩ := increaseMaster_ok hr
    exact .overwritten batchId (.increase quantity) row rfl hrow rfl le_rfl
  | resolveBatch costOf params =>
    obtain ⟨r, hr, rfl⟩ := map_eq_ok h
    exact resolveBatch_cases hr
  | transitionLotStatus input =>
    obtain ⟨r, hr, rfl⟩ := map_eq_ok h
    exact transitionLotStatus_cases hr

/-! ## Runs -/

/-- Keys of batches are drawn from the counter. -/
def KeysDrawn (db : LotDb) : Prop := ∀ id row, db.batches.get? id = some row → id < db.nextId

theorem BatchesAfter.keysDrawn (h : BatchesAfter env clock db op db') (hdrawn : KeysDrawn db) :
    KeysDrawn db' := by
  intro id row' hrow'
  cases h with
  | overwritten id' w row hwritten hrow hbatches hnext =>
    rw [hbatches, OrderedMap.get?_set] at hrow'
    split at hrow'
    · rename_i hid
      rw [hid]
      exact lt_of_lt_of_le (hdrawn id' row hrow) hnext
    · exact lt_of_lt_of_le (hdrawn id row' hrow') hnext
  | unchanged hwritten hbatches hnext =>
    rw [hbatches] at hrow'
    exact lt_of_lt_of_le (hdrawn id row' hrow') hnext
  | inserted row hwritten hbatches hlt =>
    rw [hbatches, OrderedMap.get?_set] at hrow'
    split at hrow'
    · rename_i hid
      rw [hid]
      exact hlt
    · exact (hdrawn id row' hrow').trans hlt

theorem isTransition_of_lotWritten {id : BatchId} {w : StatusWrite}
    (h : lotWritten env clock db op = some (id, w)) :
    (∃ s, w = .setStatus s) ↔ op.isTransition = true := by
  cases op with
  | returnLot input =>
    obtain ⟨_, _, hw⟩ := Option.map_eq_some_iff.mp h
    cases hw
    simp [StatusOp.isTransition]
  | increaseMasterRemainingQuantity batchId quantity =>
    cases h
    simp [StatusOp.isTransition]
  | resolveBatch costOf params =>
    obtain ⟨_, _, hw⟩ := Option.map_eq_some_iff.mp h
    cases hw
    simp [StatusOp.isTransition]
  | transitionLotStatus input =>
    cases h
    simp [StatusOp.isTransition]

/-- Overwriting a lot is safe exactly when it is allowed. -/
theorem rowSafe_apply_iff {w : StatusWrite} (hw : (∃ s, w = .setStatus s) ↔ op.isTransition = true)
    (row : BatchRow) : RowSafe op row (w.apply row) ↔ w.allowed row := by
  cases w with
  | increase quantity =>
    exact rowSafe_increased_iff (Bool.eq_false_iff.mpr fun h => by simpa using hw.mpr h) row quantity
  | activate => exact rowSafe_activate_iff (Bool.eq_false_iff.mpr fun h => by simpa using hw.mpr h) row
  | setStatus status => exact rowSafe_setStatus_iff (hw.mp ⟨status, rfl⟩) row status

theorem RowSafe.refl (op : StatusOp) (row : BatchRow) : RowSafe op row row :=
  .of_status_eq rfl fun _ => le_rfl

/-- A successful step is safe exactly when what it writes is allowed. -/
theorem BatchesAfter.statusSafe_iff (hdrawn : KeysDrawn db) (h : BatchesAfter env clock db op db') :
    StatusSafe db op db' ↔ WriteAllowed env clock db op := by
  have hunwritten : lotWritten env clock db op = none → WriteAllowed env clock db op := by
    intro hnone id w row hwritten
    rw [hnone] at hwritten
    cases hwritten
  have hsame : ∀ {row row' : BatchRow} {id : BatchId}, db.batches.get? id = some row →
      db.batches.get? id = some row' → RowSafe op row row' := by
    intro row row' id hrow hrow'
    rw [hrow] at hrow'
    cases hrow'
    exact .refl op row
  cases h with
  | overwritten id w row hwritten hrow hbatches hnext =>
    have hiff := rowSafe_apply_iff (isTransition_of_lotWritten hwritten) row
    constructor
    · intro hsafe id' w' row' hwritten' hrow'
      rw [hwritten] at hwritten'
      cases hwritten'
      rw [hrow] at hrow'
      cases hrow'
      exact hiff.mp (hsafe id row _ hrow (by rw [hbatches]; simp))
    · intro hallowed id' row₁ row₂ h₁ h₂
      rw [hbatches, OrderedMap.get?_set] at h₂
      split at h₂
      · rename_i hid
        cases h₂
        rw [hid, hrow] at h₁
        cases h₁
        exact hiff.mpr (hallowed id w row hwritten hrow)
      · exact hsame h₁ h₂
  | unchanged hwritten hbatches hnext =>
    refine ⟨fun _ => hunwritten hwritten, fun _ id row row' hrow hrow' => ?_⟩
    rw [hbatches] at hrow'
    exact hsame hrow hrow'
  | inserted row hwritten hbatches hlt =>
    refine ⟨fun _ => hunwritten hwritten, fun _ id row₁ row₂ h₁ h₂ => ?_⟩
    rw [hbatches, OrderedMap.get?_set_of_ne (hdrawn id row₁ h₁).ne] at h₂
    exact hsame h₁ h₂

/-- The call fails, or the lot it overwrites may be overwritten so. -/
def RespectsStatus (env : LotEnv) (db : LotDb) (call : Clock × StatusOp) : Prop :=
  (applyStatusOp env call.1 db call.2).toBool = true → WriteAllowed env call.1 db call.2

theorem statusStep_keysDrawn (hdrawn : KeysDrawn db) (call : Clock × StatusOp) :
    KeysDrawn (statusStep env db call) := by
  unfold statusStep
  cases h : applyStatusOp env call.1 db call.2 with
  | error e => exact hdrawn
  | ok db' => exact (applyStatusOp_cases h).keysDrawn hdrawn

theorem statusStep_safe_iff (hdrawn : KeysDrawn db) (call : Clock × StatusOp) :
    StatusSafe db call.2 (statusStep env db call) ↔ RespectsStatus env db call := by
  unfold statusStep RespectsStatus
  cases h : applyStatusOp env call.1 db call.2 with
  | error e =>
    refine ⟨fun _ hok => (by cases hok), fun _ id row row' hrow hrow' => ?_⟩
    have heq : row = row' := Option.some.inj (hrow.symm.trans hrow')
    rw [heq]
    exact .refl call.2 row'
  | ok db' =>
    have hiff := (applyStatusOp_cases h).statusSafe_iff hdrawn
    exact ⟨fun hsafe _ => hiff.mp hsafe, fun hallowed => hiff.mpr (hallowed rfl)⟩

/-- INV-004 over runs: the steps are safe exactly when each of them respects the
status of the lot it overwrites. -/
theorem statusSafe_run_iff {env : LotEnv} {db : LotDb} (hdrawn : KeysDrawn db)
    (calls : List (Clock × StatusOp)) :
    (∀ t ∈ transitions (statusStep env) db calls, StatusSafe t.1 t.2.1.2 t.2.2) ↔
      ∀ t ∈ transitions (statusStep env) db calls, RespectsStatus env t.1 t.2.1 := by
  have hstep : ∀ t ∈ transitions (statusStep env) db calls,
      (StatusSafe t.1 t.2.1.2 t.2.2 ↔ RespectsStatus env t.1 t.2.1) := by
    intro t ht
    have hbefore : KeysDrawn t.1 :=
      transitions_invariant (P := KeysDrawn) (fun s a hs => statusStep_keysDrawn hs a) hdrawn ht
    rw [eq_apply_of_mem_transitions ht]
    exact statusStep_safe_iff hbefore t.2.1
  exact ⟨fun h t ht => (hstep t ht).mp (h t ht), fun h t ht => (hstep t ht).mpr (h t ht)⟩

/-! ## A quarantined lot -/

/-- A tenant without multistore balances. -/
def shelfEnv : LotEnv where
  multistore := false
  batchStatusEnum := [.ACTIVE, .DEPLETED, .EXPIRED, .QUARANTINED]
  textLe := fun a b => decide (a ≤ b)
  localeLe := fun a b => decide (a ≤ b)

/-- One lot of soap, five pieces. -/
def shelf : LotDb where
  products := [⟨"soap", false⟩]
  stores := OrderedMap.empty
  batches := OrderedMap.empty.set 0 ((mainBatchRow ⟨0, 0⟩ "soap" 1).increased 5)
  productLots := OrderedMap.empty
  balances := OrderedMap.empty
  nextId := 1

theorem shelf_keysDrawn : KeysDrawn shelf := by
  intro id row hrow
  simp only [shelf, OrderedMap.get?_set] at hrow
  split at hrow
  · rename_i hid
    rw [hid]
    decide
  · cases hrow

/-- A customer returns one piece of the lot. -/
def soapReturn : LotReturnInput where
  productId := "soap"
  lotNumber := none
  batchId := some 0
  quantity := 1
  expiryDate := none
  costPrice := 1
  targetStoreLocationId := none
  referenceId := "REF-1"
  notes := none

def quarantineCall : Clock × StatusOp := (⟨0, 0⟩, .transitionLotStatus ⟨0, .QUARANTINED⟩)

def returnCall : Clock × StatusOp := (⟨0, 0⟩, .returnLot soapReturn)

/-- The shelf with its lot in quarantine. -/
def quarantinedShelf : LotDb := statusStep shelfEnv shelf quarantineCall

instance (row : BatchRow) : (w : StatusWrite) → Decidable (w.allowed row)
  | .increase quantity => inferInstanceAs (Decidable (row.status ∈ freeStatuses ∨
      (row.remainingQuantity.toRat + quantity ≤ 0 ∧
        (row.status ∈ NON_RECEIVABLE_LOT_STATUSES →
          (row.increased quantity).remainingQuantity ≤ row.remainingQuantity))))
  | .activate => inferInstanceAs (Decidable (row.status ∈ freeStatuses))
  | .setStatus status => inferInstanceAs
      (Decidable (status = .ACTIVE → row.status ∉ NON_RECEIVABLE_LOT_STATUSES))

/-- Without the quarantine the return is safe. -/
theorem soapReturn_safe : KeysDrawn shelf ∧
    ∀ t ∈ transitions (statusStep shelfEnv) shelf [returnCall], StatusSafe t.1 t.2.1.2 t.2.2 := by
  refine ⟨shelf_keysDrawn, (statusSafe_run_iff shelf_keysDrawn _).mpr
    fun t ht _ id w row hwritten hrow => ?_⟩
  rw [List.mem_singleton.mp ht] at hwritten hrow
  cases hwritten
  cases hrow
  decide +kernel

/-- The return makes the quarantined lot active. -/
theorem quarantined_lot_becomes_active :
    ¬ ∀ (env : LotEnv) (db : LotDb) (calls : List (Clock × StatusOp)), KeysDrawn db →
        ∀ t ∈ transitions (statusStep env) db calls, StatusSafe t.1 t.2.1.2 t.2.2 := by
  intro h
  have hmem : (quarantinedShelf, returnCall, statusStep shelfEnv quarantinedShelf returnCall) ∈
      transitions (statusStep shelfEnv) shelf [quarantineCall, returnCall] :=
    List.mem_cons_of_mem _ List.mem_cons_self
  have hsafe := h shelfEnv shelf _ shelf_keysDrawn _ hmem
  have hheld : (quarantinedShelf.batches.get? 0).map (·.status) = some .QUARANTINED := by
    decide +kernel
  have hactive : ((statusStep shelfEnv quarantinedShelf returnCall).batches.get? 0).map (·.status) =
      some .ACTIVE := by
    decide +kernel
  obtain ⟨row, hrow, hstatus⟩ := Option.map_eq_some_iff.mp hheld
  obtain ⟨row', hrow', hstatus'⟩ := Option.map_eq_some_iff.mp hactive
  have hrowSafe := hsafe 0 row row' hrow hrow'
  have htransition := hrowSafe.held (by rw [hstatus]; decide) hstatus'
  cases htransition

end SmartErpPos.Lot
