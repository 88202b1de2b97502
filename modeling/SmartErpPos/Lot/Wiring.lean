/-
  Lot/Wiring.lean --- how masters, projections and balances hang together.

  `Wired` collects what the keys and unique indexes of the three tables guarantee
  for a database the lot service has written: generated keys are unused, a
  projection row belongs to the batch with its number, a batch has at most one,
  and a balance belongs to a projection row.  `gap` measures how far the two
  ledgers of one lot are apart.  Every repository method keeps `Wired`, and each
  comes with one lemma that says by how much it moves the gaps.
-/
import SmartErpPos.Lib.KeyedSum
import SmartErpPos.Lot.Service

set_option autoImplicit false

namespace SmartErpPos.Lot

open SmartErpPos.Lib

/-! ## The two ledgers of a lot -/

/-- Does a balance row belong to a projection of the batch? -/
def projects (db : LotDb) (batchId : BatchId) (key : StoreId × ProductLotId) : Bool :=
  (db.productLots.get? key.2).any fun row => row.inventoryBatchId = batchId

/-- The stock of a lot summed over the stores. -/
def onHand (db : LotDb) (batchId : BatchId) : Quantity :=
  db.balances.sumWhere (projects db batchId) (·.quantityOnHand)

/-- The remaining quantity of a lot's master; zero without one. -/
def remainingOf (db : LotDb) (batchId : BatchId) : Quantity :=
  db.batches.valueAt (·.remainingQuantity) batchId

/-- How much the master is ahead of the stores. -/
def gap (db : LotDb) (batchId : BatchId) : Quantity := remainingOf db batchId - onHand db batchId

structure Wired (db : LotDb) : Prop where
  batch_fresh : ∀ id row, db.batches.get? id = some row → id < db.nextId
  lot_fresh : ∀ id row, db.productLots.get? id = some row → id < db.nextId
  batch_unique : ∀ id id' row row', db.batches.get? id = some row →
    db.batches.get? id' = some row' → row.productId = row'.productId →
    row.batchNumber = row'.batchNumber → id = id'
  lot_of_batch : ∀ id row, db.productLots.get? id = some row →
    ∃ batch, db.batches.get? row.inventoryBatchId = some batch ∧
      batch.productId = row.productId ∧ batch.batchNumber = row.lotNumber
  lot_unique : ∀ id id' row row', db.productLots.get? id = some row →
    db.productLots.get? id' = some row' → row.inventoryBatchId = row'.inventoryBatchId → id = id'
  lot_of_balance : ∀ key row, db.balances.get? key = some row →
    ∃ lot, db.productLots.get? key.2 = some lot
  balance_clean : ∀ key row, db.balances.get? key = some row →
    0 ≤ row.quantityOnHand ∧ row.quantityReserved = 0 ∧ row.quantityCommitted = 0

/-- Every lot has a projection row. -/
def Projected (db : LotDb) : Prop :=
  ∀ id row, db.batches.get? id = some row → (getProductLotIdByBatchId db id).isSome = true

/-- The lot tables of two states agree; stores may differ. -/
structure SameLots (db db' : LotDb) : Prop where
  batches : db'.batches = db.batches
  productLots : db'.productLots = db.productLots
  balances : db'.balances = db.balances
  nextId : db.nextId ≤ db'.nextId

namespace SameLots

theorem refl (db : LotDb) : SameLots db db := ⟨rfl, rfl, rfl, le_rfl⟩

theorem trans {a b c : LotDb} (hab : SameLots a b) (hbc : SameLots b c) : SameLots a c :=
  ⟨hbc.batches.trans hab.batches, hbc.productLots.trans hab.productLots,
    hbc.balances.trans hab.balances, hab.nextId.trans hbc.nextId⟩

theorem wired {db db' : LotDb} (h : SameLots db db') (hw : Wired db) : Wired db' := by
  constructor
  · intro id row hrow
    rw [h.batches] at hrow
    exact lt_of_lt_of_le (hw.batch_fresh id row hrow) h.nextId
  · intro id row hrow
    rw [h.productLots] at hrow
    exact lt_of_lt_of_le (hw.lot_fresh id row hrow) h.nextId
  · rw [h.batches]
    exact hw.batch_unique
  · rw [h.batches, h.productLots]
    exact hw.lot_of_batch
  · rw [h.productLots]
    exact hw.lot_unique
  · rw [h.balances, h.productLots]
    exact hw.lot_of_balance
  · rw [h.balances]
    exact hw.balance_clean

theorem gap_eq {db db' : LotDb} (h : SameLots db db') (id : BatchId) : gap db' id = gap db id := by
  have hproj : projects db' id = projects db id := by
    funext key
    simp only [projects, h.productLots]
  simp only [gap, remainingOf, onHand, hproj, h.batches, h.balances]

end SameLots

theorem sameLots_upsertByCode (db : LotDb) (row : StoreRow) :
    SameLots db (upsertByCode db row).1 := by
  unfold upsertByCode
  split
  · exact ⟨rfl, rfl, rfl, le_rfl⟩
  · exact ⟨rfl, rfl, rfl, Nat.le_succ _⟩

theorem sameLots_ensureDefaultNetworkStores (db : LotDb) :
    SameLots db (ensureDefaultNetworkStores db) :=
  ((sameLots_upsertByCode db _).trans (sameLots_upsertByCode _ _)).trans
    (sameLots_upsertByCode _ _)

theorem sameLots_resolveReceiptStore {env : LotEnv} {db : LotDb} {target : Option StoreId}
    {r : LotDb × StoreId} (h : resolveMultistoreReceiptStoreId env db target = .ok r) :
    SameLots db r.1 := by
  have hseed := sameLots_ensureDefaultNetworkStores db
  unfold resolveMultistoreReceiptStoreId at h
  cases target with
  | some target =>
    simp only [bind_eq_ok, pure_eq_ok] at h
    obtain ⟨_, _, rfl⟩ := h
    exact hseed
  | none =>
    simp only at h
    split at h
    · cases h
      exact hseed
    · simp only [bind_eq_ok, pure_eq_ok] at h
      obtain ⟨_, _, rfl⟩ := h
      exact hseed

theorem sameLots_ensureReturnStore (env : LotEnv) (db : LotDb) :
    SameLots db (ensureReturnStore env db).1 := by
  unfold ensureReturnStore
  split
  · exact .refl db
  · exact sameLots_upsertByCode db _

/-! ## Look-ups -/

variable {row : BatchRow} {batchId : BatchId} {r : LotDb × InventoryLot} {lot : ProductLotRow}

theorem findBatch_eq_some {db : LotDb} {productId number : String} {id : BatchId}
    (h : findBatch db productId number = some (id, row)) :
    db.batches.get? id = some row ∧ row.productId = productId ∧ row.batchNumber = number := by
  have hp := List.find?_some h
  simp only [decide_eq_true_eq] at hp
  exact ⟨OrderedMap.get?_eq_some_iff.mpr (List.mem_of_find?_eq_some h), hp.1, hp.2⟩

theorem ne_of_findBatch_eq_none {db : LotDb} {productId number : String}
    (h : findBatch db productId number = none) {id : BatchId}
    (hrow : db.batches.get? id = some row) :
    ¬ (row.productId = productId ∧ row.batchNumber = number) := by
  have hall := List.find?_eq_none.mp h (id, row) (OrderedMap.get?_eq_some_iff.mp hrow)
  simpa using hall

theorem getProductLotId_eq_some {db : LotDb} {id : ProductLotId}
    (h : getProductLotIdByBatchId db batchId = some id) :
    ∃ row, db.productLots.get? id = some row ∧ row.inventoryBatchId = batchId := by
  obtain ⟨⟨id', row⟩, hfind, rfl⟩ := Option.map_eq_some_iff.mp h
  have hp := List.find?_some hfind
  exact ⟨row, OrderedMap.get?_eq_some_iff.mpr (List.mem_of_find?_eq_some hfind), by simpa using hp⟩

theorem getProductLotId_isSome_iff {db : LotDb} :
    (getProductLotIdByBatchId db batchId).isSome = true ↔
      ∃ id row, db.productLots.get? id = some row ∧ row.inventoryBatchId = batchId := by
  constructor
  · intro h
    obtain ⟨id, hid⟩ := Option.isSome_iff_exists.mp h
    obtain ⟨row, hrow, hb⟩ := getProductLotId_eq_some hid
    exact ⟨id, row, hrow, hb⟩
  · rintro ⟨id, row, hrow, hb⟩
    simp only [getProductLotIdByBatchId, Option.isSome_map, List.find?_isSome]
    exact ⟨(id, row), OrderedMap.get?_eq_some_iff.mp hrow, by simpa using hb⟩

theorem projects_of_get? {db : LotDb} {key : StoreId × ProductLotId} {row : ProductLotRow}
    (h : db.productLots.get? key.2 = some row) (id : BatchId) :
    projects db id key = decide (row.inventoryBatchId = id) := by
  simp [projects, h]

/-! ## Writing a batch -/

theorem gap_of_batches (db db' : LotDb) (hlots : db'.productLots = db.productLots)
    (hbal : db'.balances = db.balances) (id : BatchId) :
    gap db' id = gap db id + (remainingOf db' id - remainingOf db id) := by
  have hproj : projects db' id = projects db id := by
    funext key
    simp only [projects, hlots]
  simp only [gap, onHand, hproj, hbal]
  abel

/-- What a successful insert does. -/
theorem insertBatch_ok {env : LotEnv} {db : LotDb} (h : insertBatch env db row = .ok r) :
    findBatch db row.productId row.batchNumber = none ∧
      r = ({ db with batches := db.batches.set db.nextId row, nextId := db.nextId + 1 },
        rowToInventoryLot db.nextId row) := by
  simp only [insertBatch, bind_eq_ok, require_eq_ok, pure_eq_ok, Option.isNone_iff_eq_none] at h
  obtain ⟨_, hfree, _, _, rfl⟩ := h
  exact ⟨hfree, rfl⟩

/-- What an increase of a master does. -/
theorem increaseMaster_ok {db : LotDb} {quantity : ℚ}
    (h : increaseMasterRemainingQuantity db batchId quantity = .ok r) :
    ∃ row, db.batches.get? batchId = some row ∧
      r = writeBatch db batchId (row.increased quantity) := by
  simp only [increaseMasterRemainingQuantity, bind_eq_ok, orThrow_eq_ok, pure_eq_ok] at h
  obtain ⟨row, hrow, rfl⟩ := h
  exact ⟨row, hrow, rfl⟩

/-- What a decrement of a master does. -/
theorem decrementMaster_ok {db : LotDb} {quantity : ℚ}
    (h : decrementMasterRemainingQuantity db batchId quantity = .ok r) :
    ∃ row, db.batches.get? batchId = some row ∧ quantity ≤ row.remainingQuantity.toRat ∧
      r = writeBatch db batchId (row.decremented quantity) := by
  simp only [decrementMasterRemainingQuantity, bind_eq_ok, orThrow_eq_ok, pure_eq_ok,
    Option.filter_eq_some_iff, decide_eq_true_eq] at h
  obtain ⟨row, ⟨hrow, hle⟩, rfl⟩ := h
  exact ⟨row, hrow, hle, rfl⟩

namespace Wired

variable {db : LotDb}

theorem batches_get?_nextId (hw : Wired db) : db.batches.get? db.nextId = none := by
  cases h : db.batches.get? db.nextId with
  | none => rfl
  | some row => exact absurd (hw.batch_fresh _ row h) (lt_irrefl _)

theorem productLots_get?_nextId (hw : Wired db) : db.productLots.get? db.nextId = none := by
  cases h : db.productLots.get? db.nextId with
  | none => rfl
  | some row => exact absurd (hw.lot_fresh _ row h) (lt_irrefl _)

/-- An insert keeps the wiring. -/
theorem insertBatch (hw : Wired db) {env : LotEnv} {row : BatchRow} {r : LotDb × InventoryLot}
    (h : insertBatch env db row = .ok r) : Wired r.1 := by
  obtain ⟨hfree, rfl⟩ := insertBatch_ok h
  have hclash : ∀ id' row', db.batches.get? id' = some row' →
      row'.productId = row.productId → row'.batchNumber = row.batchNumber → False :=
    fun id' row' hrow' hp hn => ne_of_findBatch_eq_none hfree hrow' ⟨hp, hn⟩
  constructor
  · intro id row' hrow'
    simp only [OrderedMap.get?_set] at hrow'
    split at hrow'
    · rename_i hid
      rw [hid]
      exact Nat.lt_succ_self _
    · exact Nat.lt_succ_of_lt (hw.batch_fresh id row' hrow')
  · intro id row' hrow'
    exact Nat.lt_succ_of_lt (hw.lot_fresh id row' hrow')
  · intro id id' row₁ row₂ h₁ h₂ hp hn
    simp only [OrderedMap.get?_set] at h₁ h₂
    split at h₁
    · rename_i hid
      split at h₂
      · rename_i hid'
        rw [hid, hid']
      · cases h₁
        exact (hclash id' row₂ h₂ hp.symm hn.symm).elim
    · split at h₂
      · cases h₂
        exact (hclash id row₁ h₁ hp hn).elim
      · exact hw.batch_unique id id' row₁ row₂ h₁ h₂ hp hn
  · intro id lot hlot
    obtain ⟨batch, hbatch, hp, hn⟩ := hw.lot_of_batch id lot hlot
    have hne : lot.inventoryBatchId ≠ db.nextId := (hw.batch_fresh _ batch hbatch).ne
    exact ⟨batch, by rw [OrderedMap.get?_set_of_ne hne]; exact hbatch, hp, hn⟩
  · exact hw.lot_unique
  · exact hw.lot_of_balance
  · exact hw.balance_clean

/-- Overwriting a batch without renaming it keeps the wiring. -/
theorem writeBatch (hw : Wired db) {id : BatchId} {old new : BatchRow}
    (hold : db.batches.get? id = some old) (hp : new.productId = old.productId)
    (hn : new.batchNumber = old.batchNumber) : Wired (writeBatch db id new).1 := by
  have hback : ∀ id' row', (db.batches.set id new).get? id' = some row' →
      ∃ row₀, db.batches.get? id' = some row₀ ∧ row₀.productId = row'.productId ∧
        row₀.batchNumber = row'.batchNumber := by
    intro id' row' h'
    rw [OrderedMap.get?_set] at h'
    split at h'
    · rename_i hid
      cases h'
      exact ⟨old, hid ▸ hold, hp.symm, hn.symm⟩
    · exact ⟨row', h', rfl, rfl⟩
  constructor
  · intro id' row' h'
    obtain ⟨row₀, h₀, -, -⟩ := hback id' row' h'
    exact hw.batch_fresh id' row₀ h₀
  · exact hw.lot_fresh
  · intro id₁ id₂ row₁ row₂ h₁ h₂ hpp hnn
    obtain ⟨r₁, hr₁, hp₁, hn₁⟩ := hback id₁ row₁ h₁
    obtain ⟨r₂, hr₂, hp₂, hn₂⟩ := hback id₂ row₂ h₂
    exact hw.batch_unique id₁ id₂ r₁ r₂ hr₁ hr₂ (hp₁.trans (hpp.trans hp₂.symm))
      (hn₁.trans (hnn.trans hn₂.symm))
  · intro lotId lot hlot
    obtain ⟨batch, hbatch, hbp, hbn⟩ := hw.lot_of_batch lotId lot hlot
    show ∃ batch, (db.batches.set id new).get? lot.inventoryBatchId = some batch ∧ _
    by_cases hid : lot.inventoryBatchId = id
    · rw [hid, hold] at hbatch
      cases hbatch
      exact ⟨new, by rw [hid]; simp, hp.trans hbp, hn.trans hbn⟩
    · exact ⟨batch, by rw [OrderedMap.get?_set_of_ne hid]; exact hbatch, hbp, hbn⟩
  · exact hw.lot_unique
  · exact hw.lot_of_balance
  · exact hw.balance_clean

end Wired

/-- An insert opens a gap of the inserted quantity at the new batch. -/
theorem gap_insertBatch {db : LotDb} (hw : Wired db) {env : LotEnv}
    (h : insertBatch env db row = .ok r) (id : BatchId) :
    gap r.1 id = gap db id + if id = db.nextId then row.remainingQuantity else 0 := by
  obtain ⟨-, rfl⟩ := insertBatch_ok h
  have hgap := gap_of_batches db
    { db with batches := db.batches.set db.nextId row, nextId := db.nextId + 1 } rfl rfl id
  rw [hgap]
  congr 1
  simp only [remainingOf, OrderedMap.valueAt_set]
  split
  · rename_i hid
    rw [hid, OrderedMap.valueAt_of_get?_none hw.batches_get?_nextId, sub_zero]
  · rw [sub_self]

/-- Overwriting a batch moves its gap by the change of the remaining quantity. -/
theorem gap_writeBatch {db : LotDb} {id : BatchId} {old new : BatchRow}
    (hold : db.batches.get? id = some old) (id' : BatchId) :
    gap (writeBatch db id new).1 id' =
      gap db id' + if id' = id then new.remainingQuantity - old.remainingQuantity else 0 := by
  have hgap := gap_of_batches db (writeBatch db id new).1 rfl rfl id'
  rw [hgap]
  congr 1
  simp only [writeBatch, remainingOf, OrderedMap.valueAt_set]
  split
  · rename_i hid
    rw [hid, OrderedMap.valueAt_of_get? hold]
  · rw [sub_self]

/-! ## Writing a projection -/

/-- What a projection write leaves behind. -/
structure ProjectionWritten (db db' : LotDb) (batchId : BatchId) : Prop where
  wired : Wired db'
  batches : db'.batches = db.batches
  balances : db'.balances = db.balances
  gap_eq : ∀ id, gap db' id = gap db id
  written : (getProductLotIdByBatchId db' batchId).isSome = true
  kept : ∀ id row, db.productLots.get? id = some row →
    ∃ row', db'.productLots.get? id = some row' ∧ row'.inventoryBatchId = row.inventoryBatchId

/-- Rewriting a projection row without moving it to another lot. -/
theorem projectionWritten_of_modify {db : LotDb} (hw : Wired db) {id : ProductLotId}
    {row : ProductLotRow} (hrow : db.productLots.get? id = some row)
    {f : ProductLotRow → ProductLotRow}
    (hf : ∀ r, (f r).productId = r.productId ∧ (f r).lotNumber = r.lotNumber ∧
      (f r).inventoryBatchId = r.inventoryBatchId) :
    ProjectionWritten db { db with productLots := db.productLots.modify id f }
      row.inventoryBatchId := by
  have hfwd : ∀ k r, db.productLots.get? k = some r →
      ∃ r', (db.productLots.modify id f).get? k = some r' ∧
        r'.inventoryBatchId = r.inventoryBatchId := by
    intro k r hr
    rw [OrderedMap.get?_modify, hr]
    split
    · exact ⟨f r, rfl, (hf r).2.2⟩
    · exact ⟨r, rfl, rfl⟩
  have hback : ∀ k r', (db.productLots.modify id f).get? k = some r' →
      ∃ r, db.productLots.get? k = some r ∧ r'.productId = r.productId ∧
        r'.lotNumber = r.lotNumber ∧ r'.inventoryBatchId = r.inventoryBatchId := by
    intro k r' hr'
    rw [OrderedMap.get?_modify] at hr'
    split at hr'
    · obtain ⟨r, hr, rfl⟩ := Option.map_eq_some_iff.mp hr'
      exact ⟨r, hr, (hf r).1, (hf r).2.1, (hf r).2.2⟩
    · exact ⟨r', hr', rfl, rfl, rfl⟩
  refine ⟨?_, rfl, rfl, fun b => ?_, ?_, hfwd⟩
  · constructor
    · exact hw.batch_fresh
    · intro k r' hr'
      obtain ⟨r, hr, -⟩ := hback k r' hr'
      exact hw.lot_fresh k r hr
    · exact hw.batch_unique
    · intro k r' hr'
      obtain ⟨r, hr, hp, hn, hb⟩ := hback k r' hr'
      rw [hp, hn, hb]
      exact hw.lot_of_batch k r hr
    · intro k k' r₁ r₂ h₁ h₂ hb
      obtain ⟨r₁', hr₁, -, -, hb₁⟩ := hback k r₁ h₁
      obtain ⟨r₂', hr₂, -, -, hb₂⟩ := hback k' r₂ h₂
      exact hw.lot_unique k k' r₁' r₂' hr₁ hr₂ (hb₁.symm.trans (hb.trans hb₂))
    · intro key bal hbal
      obtain ⟨lot, hlot⟩ := hw.lot_of_balance key bal hbal
      obtain ⟨lot', hlot', -⟩ := hfwd key.2 lot hlot
      exact ⟨lot', hlot'⟩
    · exact hw.balance_clean
  · have hproj : projects { db with productLots := db.productLots.modify id f } b =
        projects db b := by
      funext key
      simp only [projects, OrderedMap.get?_modify]
      split
      · cases db.productLots.get? key.2 with
        | none => rfl
        | some r => simp [(hf r).2.2]
      · rfl
    simp only [gap, remainingOf, onHand, hproj]
  · obtain ⟨r', hr', hb'⟩ := hfwd id row hrow
    exact getProductLotId_isSome_iff.mpr ⟨id, r', hr', hb'⟩

/-- Inserting a projection row under a fresh key for a batch that has none. -/
theorem projectionWritten_of_insert {db : LotDb} (hw : Wired db) {row : ProductLotRow}
    {batch : BatchRow} (hbatch : db.batches.get? row.inventoryBatchId = some batch)
    (hp : batch.productId = row.productId) (hn : batch.batchNumber = row.lotNumber)
    (hnone : getProductLotIdByBatchId db row.inventoryBatchId = none) :
    ProjectionWritten db
      { db with productLots := db.productLots.set db.nextId row, nextId := db.nextId + 1 }
      row.inventoryBatchId := by
  have hfresh := hw.productLots_get?_nextId
  have hother : ∀ k r, db.productLots.get? k = some r → r.inventoryBatchId ≠ row.inventoryBatchId := by
    intro k r hr hb
    have hsome := getProductLotId_isSome_iff.mpr ⟨k, r, hr, hb⟩
    rw [hnone] at hsome
    cases hsome
  have hfwd : ∀ k r, db.productLots.get? k = some r →
      (db.productLots.set db.nextId row).get? k = some r := by
    intro k r hr
    rw [OrderedMap.get?_set_of_ne (hw.lot_fresh k r hr).ne]
    exact hr
  refine ⟨?_, rfl, rfl, fun b => ?_, ?_, fun k r hr => ⟨r, hfwd k r hr, rfl⟩⟩
  · constructor
    · intro k r hr
      exact Nat.lt_succ_of_lt (hw.batch_fresh k r hr)
    · intro k r hr
      simp only [OrderedMap.get?_set] at hr
      split at hr
      · rename_i hk
        rw [hk]
        exact Nat.lt_succ_self _
      · exact Nat.lt_succ_of_lt (hw.lot_fresh k r hr)
    · exact hw.batch_unique
    · intro k r hr
      simp only [OrderedMap.get?_set] at hr
      split at hr
      · cases hr
        exact ⟨batch, hbatch, hp, hn⟩
      · exact hw.lot_of_batch k r hr
    · intro k k' r₁ r₂ h₁ h₂ hb
      simp only [OrderedMap.get?_set] at h₁ h₂
      split at h₁
      · rename_i hk
        cases h₁
        split at h₂
        · rename_i hk'
          rw [hk, hk']
        · exact absurd hb.symm (hother k' r₂ h₂)
      · split at h₂
        · cases h₂
          exact absurd hb (hother k r₁ h₁)
        · exact hw.lot_unique k k' r₁ r₂ h₁ h₂ hb
    · intro key bal hbal
      obtain ⟨lot, hlot⟩ := hw.lot_of_balance key bal hbal
      exact ⟨lot, hfwd key.2 lot hlot⟩
    · exact hw.balance_clean
  · have hsum : onHand { db with
          productLots := db.productLots.set db.nextId row, nextId := db.nextId + 1 } b =
        onHand db b := by
      refine OrderedMap.sumWhere_congr fun e he => ?_
      obtain ⟨lot, hlot⟩ := hw.lot_of_balance e.1 e.2 (OrderedMap.get?_eq_some_iff.mpr he)
      simp only [projects, hfwd e.1.2 lot hlot, hlot]
    simp only [gap, remainingOf, hsum]
  · exact getProductLotId_isSome_iff.mpr ⟨db.nextId, row, by simp, rfl⟩

/-- A projection write for a batch, under the batch's own product and number,
keeps the wiring and every gap. -/
theorem upsertProjection_ok {db db' : LotDb} (hw : Wired db) {data : LotProjectionWrite}
    {batch : BatchRow} (hbatch : db.batches.get? data.inventoryBatchId = some batch)
    (hp : batch.productId = data.productId) (hn : batch.batchNumber = data.lotNumber)
    (h : upsertProjection db data = .ok db') : ProjectionWritten db db' data.inventoryBatchId := by
  simp only [upsertProjection, bind_eq_ok, require_eq_ok] at h
  obtain ⟨_, _, h⟩ := h
  cases hlot : getProductLotIdByBatchId db data.inventoryBatchId with
  | some id =>
    simp only [hlot, pure_eq_ok] at h
    subst h
    obtain ⟨row, hrow, hb⟩ := getProductLotId_eq_some hlot
    rw [← hb]
    exact projectionWritten_of_modify hw hrow fun r => ⟨rfl, rfl, rfl⟩
  | none =>
    have hnoclash : (db.productLots.entries.find? fun e =>
        e.2.productId = data.productId ∧ e.2.lotNumber = data.lotNumber) = none := by
      rw [List.find?_eq_none]
      rintro ⟨k, row⟩ hmem hclash
      simp only [decide_eq_true_eq] at hclash
      have hrow := OrderedMap.get?_eq_some_iff.mpr hmem
      obtain ⟨batch', hbatch', hp', hn'⟩ := hw.lot_of_batch k row hrow
      have hid := hw.batch_unique _ _ batch' batch hbatch' hbatch
        (hp'.trans (hclash.1.trans hp.symm)) (hn'.trans (hclash.2.trans hn.symm))
      have hsome := getProductLotId_isSome_iff.mpr ⟨k, row, hrow, hid⟩
      rw [hlot] at hsome
      cases hsome
    simp only [hlot, hnoclash, pure_eq_ok] at h
    subst h
    have hrow : db.batches.get? data.row.inventoryBatchId = some batch := hbatch
    exact projectionWritten_of_insert hw hrow hp hn hlot

/-! ## Writing a balance -/

/-- Writing a clean balance row of a projected lot keeps the wiring. -/
theorem Wired.setBalance {db : LotDb} (hw : Wired db) {key : StoreId × ProductLotId}
    (hlot : db.productLots.get? key.2 = some lot) {row : BalanceRow}
    (hclean : 0 ≤ row.quantityOnHand ∧ row.quantityReserved = 0 ∧ row.quantityCommitted = 0) :
    Wired { db with balances := db.balances.set key row } := by
  refine ⟨hw.batch_fresh, hw.lot_fresh, hw.batch_unique, hw.lot_of_batch, hw.lot_unique, ?_, ?_⟩
  · intro key' row' h'
    simp only [OrderedMap.get?_set] at h'
    split at h'
    · rename_i hk
      exact ⟨lot, hk ▸ hlot⟩
    · exact hw.lot_of_balance key' row' h'
  · intro key' row' h'
    simp only [OrderedMap.get?_set] at h'
    split at h'
    · cases h'
      exact hclean
    · exact hw.balance_clean key' row' h'

/-- Writing a balance row lowers the gap of its lot by the stock gained. -/
theorem gap_setBalance {db : LotDb} {key : StoreId × ProductLotId}
    (hlot : db.productLots.get? key.2 = some lot) (row : BalanceRow) (id : BatchId) :
    gap { db with balances := db.balances.set key row } id =
      gap db id -
        if lot.inventoryBatchId = id then
          row.quantityOnHand - db.balances.valueAt (·.quantityOnHand) key
        else 0 := by
  have hproj : projects db id key = decide (lot.inventoryBatchId = id) := projects_of_get? hlot id
  have hsum := OrderedMap.sumWhere_set (projects db id) BalanceRow.quantityOnHand db.balances key row
  have honHand : onHand { db with balances := db.balances.set key row } id = onHand db id +
      if lot.inventoryBatchId = id then
        row.quantityOnHand - db.balances.valueAt (·.quantityOnHand) key
      else 0 := by
    rw [hproj] at hsum
    simp only [decide_eq_true_eq] at hsum
    exact hsum
  simp only [gap, honHand, remainingOf]
  abel

/-- What a receipt at a store does. -/
structure BalanceWritten (db db' : LotDb) : Prop where
  wired : Wired db'
  batches : db'.batches = db.batches
  productLots : db'.productLots = db.productLots

theorem incrementBalance_ok {db db' : LotDb} (hw : Wired db) {params : BalanceChange}
    (hlot : db.productLots.get? params.productLotId = some lot)
    (h : incrementBalanceAtStore db params = .ok db') :
    BalanceWritten db db' ∧ 0 < params.quantity ∧
      ∀ id, gap db' id =
        gap db id - if lot.inventoryBatchId = id then Numeric.ofRat params.quantity else 0 := by
  simp only [incrementBalanceAtStore, bind_eq_ok, require_eq_ok, pure_eq_ok] at h
  obtain ⟨_, hpos, _, _, rfl⟩ := h
  have hadd : (0 : Quantity) ≤ Numeric.ofRat params.quantity := Numeric.ofRat_nonneg hpos.le
  cases hold : db.balances.get? params.key with
  | some old =>
    have hclean := hw.balance_clean _ old hold
    refine ⟨⟨hw.setBalance hlot ⟨add_nonneg hclean.1 hadd, hclean.2⟩, rfl, rfl⟩, hpos, fun id => ?_⟩
    rw [gap_setBalance hlot, OrderedMap.valueAt_of_get? hold]
    simp
  | none =>
    refine ⟨⟨hw.setBalance hlot ⟨hadd, rfl, rfl⟩, rfl, rfl⟩, hpos, fun id => ?_⟩
    rw [gap_setBalance hlot, OrderedMap.valueAt_of_get?_none hold]
    simp [BalanceChange.row]

theorem BalanceRow.available_eq {row : BalanceRow} (hres : row.quantityReserved = 0)
    (hcom : row.quantityCommitted = 0) : row.available = row.quantityOnHand.toRat := by
  simp [BalanceRow.available, hres, hcom]

theorem adjustOut_ok {db db' : LotDb} (hw : Wired db) {params : BalanceChange}
    (hlot : db.productLots.get? params.productLotId = some lot)
    (h : adjustSellableQuantityOut db params = .ok db') :
    BalanceWritten db db' ∧ 0 < params.quantity ∧
      ∀ id, gap db' id =
        gap db id + if lot.inventoryBatchId = id then Numeric.deducted params.quantity else 0 := by
  simp only [adjustSellableQuantityOut, bind_eq_ok, require_eq_ok, orThrow_eq_ok, pure_eq_ok] at h
  obtain ⟨_, hpos, old, hold, _, hle, rfl⟩ := h
  have hclean := hw.balance_clean _ old hold
  rw [BalanceRow.available_eq hclean.2.1 hclean.2.2] at hle
  have hnew : Numeric.ofRat (old.quantityOnHand.toRat - params.quantity) =
      old.quantityOnHand - Numeric.deducted params.quantity := Numeric.ofRat_toRat_sub hle
  refine ⟨⟨hw.setBalance hlot ⟨?_, hclean.2⟩, rfl, rfl⟩, hpos, fun id => ?_⟩
  · exact Numeric.ofRat_nonneg (sub_nonneg.mpr hle)
  · rw [gap_setBalance hlot, OrderedMap.valueAt_of_get? hold, hnew, sub_sub_cancel_left]
    split
    · rw [sub_neg_eq_add]
    · rw [sub_zero, add_zero]

end SmartErpPos.Lot
