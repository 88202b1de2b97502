/-
  Lot/Coupling.lean --- INV-002: master quantity and store balances.

  The invariant says that a lot's remaining quantity is the sum of its balances.
  It is proved through the gaps of `Lot/Wiring.lean`: an operation that succeeds
  opens a gap when it writes the master and closes it when it writes the
  balances.

  Four branches do not close the gap they open; `KeepsCoupling` describes the
  inputs that stay clear of them.  A receipt of a negative quantity writes the
  master only, an opening import with strategy `UPDATE` replaces the master and
  adds to the balances, a consumption without a store and without a specific lot
  (or with the cross-store deduction switched off) leaves the balances alone, and
  a split forgets up to 0.0001 units when the parent's stores run out first.
-/
import SmartErpPos.Lib.Transition
import SmartErpPos.Lot.Deduction

set_option autoImplicit false

namespace SmartErpPos.Lot

open SmartErpPos.Lib

/-! ## The invariant -/

/-- INV-002: the remaining quantity of every lot is the stock its balances record. -/
def Coupled (db : LotDb) : Prop :=
  ∀ id row, db.batches.get? id = some row → row.remainingQuantity = onHand db id

/-- The invariant the operations keep: the wiring, a projection for every lot, and
no gap anywhere. -/
structure Good (db : LotDb) : Prop where
  wired : Wired db
  projected : Projected db
  gap_zero : ∀ id, gap db id = 0

namespace Good

variable {db : LotDb}

theorem coupled (h : Good db) : Coupled db := by
  intro id row hrow
  have hgap := h.gap_zero id
  rw [gap, sub_eq_zero, remainingOf, OrderedMap.valueAt_of_get? hrow] at hgap
  exact hgap

theorem remaining_nonneg (h : Good db) {id : BatchId} {row : BatchRow}
    (hrow : db.batches.get? id = some row) : 0 ≤ row.remainingQuantity := by
  rw [h.coupled id row hrow]
  exact onHand_nonneg h.wired id

end Good

/-- No lots yet: any products and stores, and unused keys beyond theirs. -/
structure NoLots (db : LotDb) : Prop where
  batches : db.batches = OrderedMap.empty
  productLots : db.productLots = OrderedMap.empty
  balances : db.balances = OrderedMap.empty

theorem NoLots.good {db : LotDb} (h : NoLots db) : Good db := by
  have hb : ∀ id, db.batches.get? id = none := fun id => by rw [h.batches]; rfl
  have hl : ∀ id, db.productLots.get? id = none := fun id => by rw [h.productLots]; rfl
  have hs : ∀ key, db.balances.get? key = none := fun key => by rw [h.balances]; rfl
  refine ⟨⟨?_, ?_, ?_, ?_, ?_, ?_, ?_⟩, ?_, ?_⟩
  · intro id row hrow
    rw [hb] at hrow
    cases hrow
  · intro id row hrow
    rw [hl] at hrow
    cases hrow
  · intro id id' row row' hrow
    rw [hb] at hrow
    cases hrow
  · intro id row hrow
    rw [hl] at hrow
    cases hrow
  · intro id id' row row' hrow
    rw [hl] at hrow
    cases hrow
  · intro key row hrow
    rw [hs] at hrow
    cases hrow
  · intro key row hrow
    rw [hs] at hrow
    cases hrow
  · intro id row hrow
    rw [hb] at hrow
    cases hrow
  · intro id
    have hrem : remainingOf db id = 0 := OrderedMap.valueAt_of_get?_none (hb id)
    have hon : onHand db id = 0 := by
      unfold onHand
      rw [h.balances]
      rfl
    rw [gap, hrem, hon, sub_self]

/-- Every projection row of `db` still stands in `db'`, for the same lot. -/
def LotsKept (db db' : LotDb) : Prop :=
  ∀ id row, db.productLots.get? id = some row →
    ∃ row', db'.productLots.get? id = some row' ∧ row'.inventoryBatchId = row.inventoryBatchId

theorem LotsKept.of_eq {db db' : LotDb} (h : db'.productLots = db.productLots) :
    LotsKept db db' := by
  intro id row hrow
  exact ⟨row, by rw [h]; exact hrow, rfl⟩

theorem LotsKept.trans {a b c : LotDb} (hab : LotsKept a b) (hbc : LotsKept b c) :
    LotsKept a c := by
  intro id row hrow
  obtain ⟨row', hrow', hb⟩ := hab id row hrow
  obtain ⟨row'', hrow'', hb'⟩ := hbc id row' hrow'
  exact ⟨row'', hrow'', hb'.trans hb⟩

theorem LotsKept.isSome {db db' : LotDb} (h : LotsKept db db') {id : BatchId}
    (hid : (getProductLotIdByBatchId db id).isSome = true) :
    (getProductLotIdByBatchId db' id).isSome = true := by
  obtain ⟨lotId, row, hrow, hb⟩ := getProductLotId_isSome_iff.mp hid
  obtain ⟨row', hrow', hb'⟩ := h lotId row hrow
  exact getProductLotId_isSome_iff.mpr ⟨lotId, row', hrow', hb'.trans hb⟩

/-! ## Receiving -/

variable {env : LotEnv} {clock : Clock} {r : LotDb × InventoryLot}

/-- The projection part of a receipt closes the gap of its lot by the quantity
received, when that is positive. -/
theorem projectReceivedLot_ok (hmulti : env.multistore = true) {db db' : LotDb} (hw : Wired db)
    {input : LotReceiveInput} {lotId : BatchId} {batch : BatchRow}
    (hbatch : db.batches.get? lotId = some batch) (hp : batch.productId = input.productId)
    (hn : batch.batchNumber = input.lotNumber)
    (h : projectReceivedLot env db input lotId = .ok db') :
    Wired db' ∧ db'.batches = db.batches ∧ LotsKept db db' ∧
      (getProductLotIdByBatchId db' lotId).isSome = true ∧
      ∀ id, gap db' id = gap db id -
        if lotId = id ∧ 0 < input.quantity then Numeric.ofRat input.quantity else 0 := by
  simp only [projectReceivedLot, hmulti, if_true, bind_eq_ok] at h
  obtain ⟨mid, hproj, halloc⟩ := h
  have hwritten := upsertProjection_ok hw hbatch hp hn hproj
  unfold allocateReceivedLotToStore at halloc
  split at halloc
  · rename_i hq
    cases halloc
    refine ⟨hwritten.wired, hwritten.batches, hwritten.kept, hwritten.written, fun id => ?_⟩
    rw [hwritten.gap_eq id, if_neg fun h => absurd h.2 (not_lt.mpr hq), sub_zero]
  · simp only [bind_eq_ok, orThrow_eq_ok] at halloc
    obtain ⟨target, htarget, productLotId, hlotId, hinc⟩ := halloc
    have hsame := sameLots_resolveReceiptStore htarget
    have hwt := hsame.wired hwritten.wired
    obtain ⟨lot, hlot, hb⟩ := getProductLotId_eq_some hlotId
    obtain ⟨hbal, hpos, hgap⟩ := incrementBalance_ok hwt hlot hinc
    have hkept : LotsKept mid db' := LotsKept.of_eq (hbal.productLots.trans hsame.productLots)
    refine ⟨hbal.wired, (hbal.batches.trans hsame.batches).trans hwritten.batches,
      LotsKept.trans hwritten.kept hkept, hkept.isSome hwritten.written, fun id => ?_⟩
    rw [hgap id, hsame.gap_eq id, hwritten.gap_eq id, hb]
    by_cases hid : lotId = id
    · rw [if_pos hid, if_pos ⟨hid, hpos⟩]
    · rw [if_neg hid, if_neg fun h => hid h.1]

/-- A master write that opens a gap of the received quantity at one lot, followed by
the projection part, restores the invariant. -/
theorem good_of_received (hmulti : env.multistore = true) {db mid db' : LotDb} (hgood : Good db)
    {input : LotReceiveInput} {lotId : BatchId} {batch : BatchRow} (hw : Wired mid)
    (hlots : mid.productLots = db.productLots)
    (hold : ∀ id, id ≠ lotId → mid.batches.get? id = db.batches.get? id)
    (hbatch : mid.batches.get? lotId = some batch) (hp : batch.productId = input.productId)
    (hn : batch.batchNumber = input.lotNumber)
    (hopened : ∀ id, gap mid id = if id = lotId then Numeric.ofRat input.quantity else 0)
    (hnn : 0 ≤ (Numeric.ofRat input.quantity : Quantity))
    (h : projectReceivedLot env mid input lotId = .ok db') : Good db' := by
  obtain ⟨hw', hbatches, hkept, hwritten, hgap⟩ :=
    projectReceivedLot_ok hmulti hw hbatch hp hn h
  refine ⟨hw', ?_, fun id => ?_⟩
  · intro id row hrow
    by_cases hid : id = lotId
    · rw [hid]
      exact hwritten
    · rw [hbatches, hold id hid] at hrow
      have hproj := (LotsKept.of_eq hlots).isSome (hgood.projected id row hrow)
      exact hkept.isSome hproj
  · rw [hgap id, hopened id]
    by_cases hid : id = lotId
    · subst hid
      by_cases hq : 0 < input.quantity
      · simp [hq]
      · have hzero : (Numeric.ofRat input.quantity : Quantity) = 0 :=
          le_antisymm (Numeric.ofRat_nonpos (not_lt.mp hq)) hnn
        simp [hq, hzero]
    · have hid' : ¬ lotId = id := fun h => hid h.symm
      simp [hid, hid']

theorem receiveLot_good (hmulti : env.multistore = true) {db : LotDb} (hgood : Good db)
    {input : LotReceiveInput} (hnn : 0 ≤ (Numeric.ofRat input.quantity : Quantity))
    (h : receiveLot env clock db input = .ok r) : Good r.1 := by
  simp only [receiveLot, bind_eq_ok, pure_eq_ok] at h
  obtain ⟨_, _, _, _, received, hmaster, projected, hproj, rfl⟩ := h
  have hw := hgood.wired.insertBatch hmaster
  have hgap := gap_insertBatch hgood.wired hmaster
  obtain ⟨-, rfl⟩ := insertBatch_ok hmaster
  refine good_of_received hmulti hgood hw rfl (fun id hid => ?_)
    (OrderedMap.get?_set_self _ _ _) rfl rfl (fun id => ?_) hnn hproj
  · exact OrderedMap.get?_set_of_ne hid _ _
  · rw [hgap id, hgood.gap_zero id, zero_add]
    rfl

/-- What an opening receipt may find: nothing under its number, a batch it skips, or,
when it replaces the quantity of a batch, a batch with nothing remaining. -/
def openingKeeps (db : LotDb) (input : LotOpeningReceiveInput) : Prop :=
  match input.duplicateStrategy, findBatch db input.productId input.lotNumber with
  | .SKIP, some _ => True
  | .UPDATE, some (_, existing) =>
    existing.remainingQuantity = 0 ∧ 0 ≤ (Numeric.ofRat input.quantity : Quantity)
  | _, _ => 0 ≤ (Numeric.ofRat input.quantity : Quantity)

theorem upsertOpening_good (hmulti : env.multistore = true) {db db' : LotDb} (hgood : Good db)
    {input : LotOpeningReceiveInput} (hkeeps : openingKeeps db input) {data : LotMasterWrite}
    (hdata : data.productId = input.productId ∧ data.lotNumber = input.lotNumber ∧
      data.remainingQuantity = input.quantity) {received : LotDb × Option InventoryLot}
    (hmaster : upsertOpeningBalanceMaster env clock db data input.duplicateStrategy = .ok received)
    (hproj : match received.2 with
      | none => db' = received.1
      | some lot => projectReceivedLot env received.1 input.toLotReceiveInput lot.id = .ok db') :
    Good db' := by
  obtain ⟨hdp, hdn, hdq⟩ := hdata
  have hinsert : ∀ row inserted, insertBatch env db row = .ok inserted →
      row.productId = input.productId → row.batchNumber = input.lotNumber →
      row.remainingQuantity = Numeric.ofRat input.quantity →
      projectReceivedLot env inserted.1 input.toLotReceiveInput inserted.2.id = .ok db' →
      0 ≤ (Numeric.ofRat input.quantity : Quantity) → Good db' := by
    intro row inserted hins hp hn hq hpr hnn
    have hw := hgood.wired.insertBatch hins
    have hgap := gap_insertBatch hgood.wired hins
    obtain ⟨-, rfl⟩ := insertBatch_ok hins
    refine good_of_received hmulti hgood hw rfl (fun id hid => ?_)
      (OrderedMap.get?_set_self _ _ _) hp hn (fun id => ?_) hnn hpr
    · exact OrderedMap.get?_set_of_ne hid _ _
    · rw [hgap id, hgood.gap_zero id, zero_add, hq]
  unfold upsertOpeningBalanceMaster at hmaster
  rw [hdp, hdn] at hmaster
  unfold openingKeeps at hkeeps
  cases hfind : findBatch db input.productId input.lotNumber with
  | none =>
    have hnn : 0 ≤ (Numeric.ofRat input.quantity : Quantity) := by
      rw [hfind] at hkeeps
      cases hs : input.duplicateStrategy <;> simpa [hs] using hkeeps
    have hins : ∃ inserted, insertBatch env db
        { data.row clock with
          purchaseOrderId := none
          purchaseOrderItemId := none
          sourceType := some .OPENING_BALANCE
          parentLotId := none } = .ok inserted ∧ (inserted.1, some inserted.2) = received := by
      rw [hfind] at hmaster
      cases hs : input.duplicateStrategy <;>
        simpa only [hs, bind_eq_ok, pure_eq_ok] using hmaster
    obtain ⟨inserted, hins, rfl⟩ := hins
    exact hinsert _ inserted hins hdp hdn (congrArg Numeric.ofRat hdq) hproj hnn
  | some found =>
    obtain ⟨id, existing⟩ := found
    obtain ⟨hrow, hfp, hfn⟩ := findBatch_eq_some hfind
    cases hs : input.duplicateStrategy with
    | SKIP =>
      simp only [hs, hfind] at hmaster
      cases hmaster
      exact hproj ▸ hgood
    | FAIL =>
      simp only [hs, hfind, bind_eq_ok, pure_eq_ok] at hmaster
      obtain ⟨inserted, hins, -⟩ := hmaster
      have hfree := (insertBatch_ok hins).1
      exact (ne_of_findBatch_eq_none hfree hrow ⟨hfp.trans hdp.symm, hfn.trans hdn.symm⟩).elim
    | UPDATE =>
      simp only [hs, hfind] at hmaster hkeeps
      cases hmaster
      have hw : Wired (writeBatch db id (data.overwrite existing)).1 :=
        hgood.wired.writeBatch hrow rfl rfl
      have hnew : (writeBatch db id (data.overwrite existing)).1.batches.get? id =
          some (data.overwrite existing) := OrderedMap.get?_set_self _ _ _
      refine good_of_received hmulti hgood hw rfl (fun id' hid => ?_) hnew hfp hfn
        (fun id' => ?_) hkeeps.2 hproj
      · exact OrderedMap.get?_set_of_ne hid _ _
      · rw [gap_writeBatch hrow, hgood.gap_zero, hkeeps.1, zero_add, sub_zero, ← hdq]
        rfl

theorem receiveOpeningLot_good (hmulti : env.multistore = true) {db : LotDb} (hgood : Good db)
    {input : LotOpeningReceiveInput} {r : LotDb × LotOpeningReceiveResult}
    (hkeeps : openingKeeps db input) (h : receiveOpeningLot env clock db input = .ok r) :
    Good r.1 := by
  simp only [receiveOpeningLot, bind_eq_ok] at h
  obtain ⟨_, _, _, _, received, hmaster, hrest⟩ := h
  refine upsertOpening_good hmulti hgood hkeeps ⟨rfl, rfl, rfl⟩ hmaster ?_
  cases hlot : received.2 with
  | none =>
    simp only [hlot, pure_eq_ok] at hrest
    rw [← hrest]
  | some lot =>
    simp only [hlot, bind_eq_ok, pure_eq_ok] at hrest
    obtain ⟨projected, hproj, rfl⟩ := hrest
    exact hproj

/-! ## Returning -/

/-- What a return leaves of the master: the gap of one lot is open by the returned
quantity, if that is positive. -/
structure MasterReturned (db mid : LotDb) (lot : InventoryLot) (quantity : ℚ) : Prop where
  wired : Wired mid
  productLots : mid.productLots = db.productLots
  old : ∀ id, id ≠ lot.id → mid.batches.get? id = db.batches.get? id
  row : ∃ row, mid.batches.get? lot.id = some row ∧ row.productId = lot.productId ∧
    row.batchNumber = lot.lotNumber
  opened : 0 < quantity → ∀ id, gap mid id = if id = lot.id then Numeric.ofRat quantity else 0

theorem masterReturned_of_increase {db : LotDb} (hgood : Good db) {batchId : BatchId} {quantity : ℚ}
    (h : increaseMasterRemainingQuantity db batchId quantity = .ok r) :
    MasterReturned db r.1 r.2 quantity := by
  obtain ⟨row, hrow, rfl⟩ := increaseMaster_ok h
  refine ⟨hgood.wired.writeBatch hrow rfl rfl, rfl, fun id hid => ?_,
    ⟨row.increased quantity, ?_, rfl, rfl⟩, fun hpos id => ?_⟩
  · exact OrderedMap.get?_set_of_ne hid _ _
  · exact OrderedMap.get?_set_self _ _ _
  · have hnn : 0 ≤ row.remainingQuantity.toRat + quantity :=
      add_nonneg (Numeric.toRat_nonneg_iff.mpr (hgood.remaining_nonneg hrow)) hpos.le
    have hrem : (row.increased quantity).remainingQuantity =
        row.remainingQuantity + Numeric.ofRat quantity := Numeric.ofRat_toRat_add hpos.le hnn
    rw [gap_writeBatch hrow, hgood.gap_zero, hrem, zero_add, add_sub_cancel_left]
    rfl

theorem masterReturned_of_insert {db : LotDb} (hgood : Good db) {row : BatchRow} {quantity : ℚ}
    (hq : row.remainingQuantity = Numeric.ofRat quantity) (h : insertBatch env db row = .ok r) :
    MasterReturned db r.1 r.2 quantity := by
  have hw := hgood.wired.insertBatch h
  have hgap := gap_insertBatch hgood.wired h
  obtain ⟨-, rfl⟩ := insertBatch_ok h
  refine ⟨hw, rfl, fun id hid => ?_, ⟨row, ?_, rfl, rfl⟩, fun _ id => ?_⟩
  · exact OrderedMap.get?_set_of_ne hid _ _
  · exact OrderedMap.get?_set_self _ _ _
  · rw [hgap id, hgood.gap_zero, zero_add, hq]
    rfl

theorem resolveReturnMasterLot_ok {db : LotDb} (hgood : Good db) {input : LotReturnInput}
    (h : resolveReturnMasterLot env clock db input = .ok r) :
    MasterReturned db r.1 r.2 input.quantity := by
  unfold resolveReturnMasterLot at h
  split at h
  · simp only [bind_eq_ok] at h
    obtain ⟨_, _, _, _, hinc⟩ := h
    exact masterReturned_of_increase hgood hinc
  · split at h
    · exact masterReturned_of_increase hgood h
    · exact masterReturned_of_insert hgood rfl h

/-- The store a return goes to leaves the lots as they are. -/
theorem sameLots_returnTarget (env : LotEnv) (db : LotDb) (targetStoreLocationId : Option StoreId) :
    SameLots db (match targetStoreLocationId with
      | some target => (db, target)
      | none => ensureReturnStore env db).1 := by
  split
  · exact .refl _
  · exact sameLots_ensureReturnStore env db

theorem returnLot_good (hmulti : env.multistore = true) {db : LotDb} (hgood : Good db)
    {input : LotReturnInput} (h : returnLot env clock db input = .ok r) : Good r.1 := by
  simp only [returnLot, hmulti, if_true, bind_eq_ok, pure_eq_ok, syncMultistoreProjectionAndBalance,
    orThrow_eq_ok] at h
  obtain ⟨returned, hmaster, synced, ⟨projected, hproj, productLotId, hlotId, hinc⟩, rfl⟩ := h
  have hmr := resolveReturnMasterLot_ok hgood hmaster
  obtain ⟨row, hrow, hp, hn⟩ := hmr.row
  have hsame := sameLots_returnTarget env returned.1 input.targetStoreLocationId
  have hwritten := upsertProjection_ok (hsame.wired hmr.wired)
    (by rw [hsame.batches]; exact hrow) hp hn hproj
  obtain ⟨lot, hlot, hb⟩ := getProductLotId_eq_some hlotId
  obtain ⟨hbal, hpos, hgap⟩ := incrementBalance_ok hwritten.wired hlot hinc
  have hkept : LotsKept returned.1 synced :=
    (LotsKept.of_eq hsame.productLots).trans
      (LotsKept.trans hwritten.kept (LotsKept.of_eq hbal.productLots))
  refine ⟨hbal.wired, ?_, fun id => ?_⟩
  · intro id row' hrow'
    by_cases hid : id = returned.2.id
    · rw [hid]
      exact (LotsKept.of_eq hbal.productLots).isSome hwritten.written
    · rw [hbal.batches, hwritten.batches, hsame.batches, hmr.old id hid] at hrow'
      exact hkept.isSome ((LotsKept.of_eq hmr.productLots).isSome (hgood.projected id row' hrow'))
  · rw [hgap id, hwritten.gap_eq, hsame.gap_eq, hmr.opened hpos, hb]
    by_cases hid : id = returned.2.id
    · simp [hid]
    · have hid' : ¬ returned.2.id = id := fun h => hid h.symm
      simp [hid, hid']

/-! ## Consuming -/

/-- A decrement makes the master fall behind the stores by the units deducted. -/
theorem gap_decremented {db : LotDb} {batchId : BatchId} {row : BatchRow} {quantity : ℚ}
    (hrow : db.batches.get? batchId = some row) (hle : quantity ≤ row.remainingQuantity.toRat)
    (id : BatchId) :
    gap (writeBatch db batchId (row.decremented quantity)).1 id =
      gap db id + if id = batchId then -Numeric.deducted quantity else 0 := by
  have hrem : (row.decremented quantity).remainingQuantity =
      row.remainingQuantity - Numeric.deducted quantity := Numeric.ofRat_toRat_sub hle
  rw [gap_writeBatch hrow, hrem, sub_sub_cancel_left]

/-- Every lot offered from a store names its projection row. -/
def StoreLots (db : LotDb) (lots : List SelectableLot) : Prop :=
  ∀ lot ∈ lots, ∃ id row, lot.productLotId = some id ∧ db.productLots.get? id = some row ∧
    row.inventoryBatchId = lot.lotId

theorem storeLots_loadStoreSelectableLots (env : LotEnv) (clock : Clock) (db : LotDb)
    (productId : String) (store : StoreId) (options : LoadSelectableLotsOptions) :
    StoreLots db (loadStoreSelectableLots env clock db productId store options) := by
  intro lot hlot
  simp only [loadStoreSelectableLots, List.mem_map, List.mem_insertionSort, List.mem_filter,
    List.mem_filterMap] at hlot
  obtain ⟨row, ⟨⟨entry, -, hjoin⟩, -⟩, rfl⟩ := hlot
  simp only [joinBalance, Option.bind_eq_bind, Option.pure_def, Option.bind_eq_some_iff,
    Option.some.injEq] at hjoin
  obtain ⟨productLot, hpl, batch, -, store', -, rfl⟩ := hjoin
  exact ⟨entry.1.2, productLot, rfl, hpl, rfl⟩

theorem sourceProductLot_of_storeLots {db : LotDb} {lots : List SelectableLot}
    (h : StoreLots db lots) {lot : SelectableLot} (hlot : lot ∈ lots) :
    ∃ id row, sourceProductLot lots lot.lotId = some id ∧ db.productLots.get? id = some row ∧
      row.inventoryBatchId = lot.lotId := by
  have hsome : (lots.reverse.find? fun l => l.lotId = lot.lotId).isSome = true := by
    rw [List.find?_isSome]
    exact ⟨lot, List.mem_reverse.mpr hlot, by simp⟩
  obtain ⟨found, hfound⟩ := Option.isSome_iff_exists.mp hsome
  have hid : found.lotId = lot.lotId := by simpa using List.find?_some hfound
  have hmem := List.mem_reverse.mp (List.mem_of_find?_eq_some hfound)
  obtain ⟨id, row, hpl, hrow, hb⟩ := h found hmem
  exact ⟨id, row, by simp [sourceProductLot, hfound, hpl], hrow, hb.trans hid⟩

/-- What must hold of a layer for its consumption to keep the two ledgers together. -/
structure LayerKeeps (env : LotEnv) (input : LotConsumeInput) (lots : List SelectableLot)
    (db : LotDb) (layer : LotSelectionLayer) : Prop where
  pos : 0 < layer.quantity
  dual : input.useStore env = true ∨ input.crossStoreDeduct env = true ∨
    layer.quantity ≤ 1 / 20000
  specific : input.crossStoreDeduct env = true → input.specificLotId = some layer.lotId
  source : input.useStore env = true →
    ∃ id row, sourceProductLot lots layer.lotId = some id ∧ db.productLots.get? id = some row ∧
      row.inventoryBatchId = layer.lotId

theorem consumeLayer_good {input : LotConsumeInput} {lots : List SelectableLot} {db db' : LotDb}
    (hgood : Good db) {layer : LotSelectionLayer} (hkeeps : LayerKeeps env input lots db layer)
    (h : consumeLayer env input lots db layer = .ok db') :
    Good db' ∧ db'.productLots = db.productLots := by
  simp only [consumeLayer, bind_eq_ok] at h
  obtain ⟨decremented, hdec, h⟩ := h
  obtain ⟨row, hrow, hle, rfl⟩ := decrementMaster_ok hdec
  have hw : Wired (writeBatch db layer.lotId (row.decremented layer.quantity)).1 :=
    hgood.wired.writeBatch hrow rfl rfl
  have hgap := gap_decremented hrow hle
  -- Whatever the balances do next, it is enough that it closes the gap of this lot.
  have hclose : BalanceWritten (writeBatch db layer.lotId (row.decremented layer.quantity)).1 db' →
      (∀ id, gap db' id = gap (writeBatch db layer.lotId (row.decremented layer.quantity)).1 id +
        if layer.lotId = id then Numeric.deducted layer.quantity else 0) →
      Good db' ∧ db'.productLots = db.productLots := by
    intro hwritten hgap'
    refine ⟨⟨hwritten.wired, fun id row' hrow' => ?_, fun id => ?_⟩, hwritten.productLots⟩
    · have hlots : LotsKept db db' := LotsKept.of_eq hwritten.productLots
      rw [hwritten.batches] at hrow'
      by_cases hid : id = layer.lotId
      · rw [hid]
        exact hlots.isSome (hgood.projected _ row hrow)
      · have hold : db.batches.get? id = some row' := by
          rw [← hrow']
          exact (OrderedMap.get?_set_of_ne hid _ _).symm
        exact hlots.isSome (hgood.projected id row' hold)
    · rw [hgap' id, hgap id, hgood.gap_zero id]
      by_cases hid : id = layer.lotId
      · simp [hid]
      · have hid' : ¬ layer.lotId = id := fun h => hid h.symm
        simp [hid, hid']
  by_cases hcross : input.crossStoreDeduct env = true
  · have hspec := hkeeps.specific hcross
    simp only [hcross, hspec, decide_true, Bool.and_self, if_true] at h
    have hon : onHand (writeBatch db layer.lotId (row.decremented layer.quantity)).1 layer.lotId =
        onHand db layer.lotId := rfl
    have hcover : layer.quantity ≤
        (onHand (writeBatch db layer.lotId (row.decremented layer.quantity)).1 layer.lotId).toRat := by
      rw [hon, ← hgood.coupled layer.lotId row hrow]
      exact hle
    obtain ⟨hwritten, hgap'⟩ := deductBalancesAcrossStores_ok hw hkeeps.pos.le hcover h
    exact hclose hwritten hgap'
  · simp only [hcross, Bool.false_and, Bool.false_eq_true, if_false] at h
    by_cases hstore : input.useStore env = true
    · obtain ⟨id, lot, hsource, hlot, hb⟩ := hkeeps.source hstore
      have hloc : ∃ store, input.storeLocationId = some store := by
        simp only [LotConsumeInput.useStore, Bool.and_eq_true] at hstore
        exact Option.isSome_iff_exists.mp hstore.2
      obtain ⟨store, hloc⟩ := hloc
      simp only [hstore, hloc, hsource] at h
      have hlot' : (writeBatch db layer.lotId
          (row.decremented layer.quantity)).1.productLots.get?
            (BalanceChange.productLotId ⟨store, input.productId, id, layer.quantity⟩) = some lot :=
        hlot
      obtain ⟨hwritten, -, hgap'⟩ := adjustOut_ok hw hlot' h
      rw [hb] at hgap'
      exact hclose hwritten hgap'
    · simp only [hstore, pure_eq_ok] at h
      subst h
      have htiny : layer.quantity ≤ 1 / 20000 := by
        rcases hkeeps.dual with h | h | h
        · exact absurd h hstore
        · exact absurd h hcross
        · exact h
      have hzero : (Numeric.deducted layer.quantity : Quantity) = 0 :=
        Numeric.deducted_eq_zero hkeeps.pos.le (by norm_num; linarith)
      refine hclose ⟨hw, rfl, rfl⟩ fun id => ?_
      simp [hzero]

/-- The master alone is decremented only for a store, for a specific lot across all
stores, or by layers too small to be stored. -/
def consumeKeeps (env : LotEnv) (clock : Clock) (db : LotDb) (input : LotConsumeInput) : Prop :=
  input.useStore env = true ∨ input.crossStoreDeduct env = true ∨
    ∀ policy, fetchProductLotPolicy db input.productId = .ok policy →
      ∀ layer ∈ (consumeSelection env clock db policy.trackExpiry input).2.layers,
        layer.quantity ≤ 1 / 20000

theorem consumeLot_good {db : LotDb} (hgood : Good db) {input : LotConsumeInput}
    {r : LotDb × LotConsumeResult} (hkeeps : consumeKeeps env clock db input)
    (h : consumeLot env clock db input = .ok r) : Good r.1 := by
  simp only [consumeLot, bind_eq_ok, pure_eq_ok] at h
  obtain ⟨_, _, policy, hpolicy, _, _, _, _, _, _, final, hfold, rfl⟩ := h
  have hlayers : ∀ layer ∈ (consumeSelection env clock db policy.trackExpiry input).2.layers,
      ∀ mid, mid.productLots = db.productLots →
        LayerKeeps env input (consumableLots env clock db input) mid layer := by
    intro layer hlayer mid hmid
    obtain ⟨hof, hspec⟩ := layerOf_selectLots hlayer
    refine ⟨hof.pos, ?_, fun hcross => ?_, fun hstore => ?_⟩
    · rcases hkeeps with h | h | h
      · exact .inl h
      · exact .inr (.inl h)
      · exact .inr (.inr (h policy hpolicy layer hlayer))
    · simp only [LotConsumeInput.crossStoreDeduct, Bool.and_eq_true] at hcross
      obtain ⟨id, hid⟩ := Option.isSome_iff_exists.mp hcross.1.1.2
      rw [hid, hspec id hid]
    · obtain ⟨lot, hlot, hlotId, -⟩ := hof.covered
      have hloc : ∃ store, input.storeLocationId = some store := by
        have hu := hstore
        simp only [LotConsumeInput.useStore, Bool.and_eq_true] at hu
        exact Option.isSome_iff_exists.mp hu.2
      obtain ⟨store, hloc⟩ := hloc
      have hstoreLots : StoreLots db (consumableLots env clock db input) := by
        simp only [consumableLots, hstore, hloc]
        exact storeLots_loadStoreSelectableLots env clock db _ _ _
      obtain ⟨id, row, hsource, hrow, hb⟩ := sourceProductLot_of_storeLots hstoreLots hlot
      rw [hlotId] at hsource hb
      exact ⟨id, row, hsource, by rw [hmid]; exact hrow, hb⟩
  have hinv := foldlM_invariant
    (P := fun mid => Good mid ∧ mid.productLots = db.productLots)
    (fun mid layer hlayer next hmid hnext => by
      obtain ⟨hg, hl⟩ := consumeLayer_good hmid.1 (hlayers layer hlayer mid hmid.2) hnext
      exact ⟨hg, hl.trans hmid.2⟩)
    ⟨hgood, rfl⟩ hfold
  exact hinv.1

end SmartErpPos.Lot
