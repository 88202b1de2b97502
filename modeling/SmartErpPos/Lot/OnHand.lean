/-
  Lot/OnHand.lean --- totals over the lots, and what consuming and returning do to them.

  The stock of a product is the sum of the remaining quantities of its lots.  A consumption
  takes what is asked for, as far as the lots offered cover it, rounded once: all layers but
  the last are whole lots.  A return raises one lot of the product, or makes one.
-/
import SmartErpPos.Lib.RoundedRat
import SmartErpPos.Lot.StatusSafety

set_option autoImplicit false

namespace SmartErpPos.Lot

open SmartErpPos.Lib

/-! ## Totals -/

/-- The sum of `f` over all lots. -/
def totalOf {M : Type*} [AddCommGroup M] (f : BatchRow → M) (db : LotDb) : M :=
  db.batches.sumWhere (fun _ => true) f

/-- The stock of a product. -/
def stockOf (db : LotDb) (productId : String) : Quantity :=
  totalOf (fun row => if row.productId = productId then row.remainingQuantity else 0) db

variable {db db' : LotDb} {id : BatchId} {env : LotEnv} {clock : Clock} {lots : List SelectableLot}
  {input : LotConsumeInput}

/-- Overwriting a lot. -/
theorem totalOf_overwrite {M : Type*} [AddCommGroup M] (f : BatchRow → M) {old new : BatchRow}
    (hold : db.batches.get? id = some old) (h : db'.batches = db.batches.set id new) :
    totalOf f db' = totalOf f db + (f new - f old) := by
  unfold totalOf
  rw [h, OrderedMap.sumWhere_set, if_pos rfl, OrderedMap.valueAt_of_get? hold]

/-- A new lot. -/
theorem totalOf_insert {M : Type*} [AddCommGroup M] (f : BatchRow → M) {row : BatchRow}
    (hfresh : db.batches.get? id = none) (h : db'.batches = db.batches.set id row) :
    totalOf f db' = totalOf f db + f row := by
  unfold totalOf
  rw [h, OrderedMap.sumWhere_set, if_pos rfl, OrderedMap.valueAt_of_get?_none hfresh, sub_zero]

/-! ## Returning -/

/-- The lot a return puts its quantity on. -/
inductive PutOn (db : LotDb) (input : LotReturnInput) (db' : LotDb) (lot : InventoryLot) : Prop where
  | increased (id : BatchId) (row : BatchRow) (hrow : db.batches.get? id = some row)
      (hproduct : row.productId = input.productId)
      (hafter : db'.batches = db.batches.set id (row.increased input.quantity))
      (hlot : lot = rowToInventoryLot id (row.increased input.quantity))
  | created (row : BatchRow) (hfresh : db.batches.get? db.nextId = none)
      (hproduct : row.productId = input.productId)
      (hremaining : row.remainingQuantity = .ofRat input.quantity)
      (hafter : db'.batches = db.batches.set db.nextId row)
      (hlot : lot = rowToInventoryLot db.nextId row)

theorem newestBatch_eq_some {productId : String} {p : BatchRow → Bool}
    (h : newestBatch db productId p = some id) :
    ∃ row, db.batches.get? id = some row ∧ row.productId = productId := by
  unfold newestBatch at h
  rw [Option.map_eq_some_iff] at h
  obtain ⟨e, he, rfl⟩ := h
  have hmem := (List.mem_insertionSort _).mp (List.mem_of_mem_head? he)
  obtain ⟨hentry, hp⟩ := List.mem_filter.mp hmem
  rw [Bool.and_eq_true, decide_eq_true_eq] at hp
  exact ⟨e.2, OrderedMap.get?_eq_some_iff.mpr hentry, hp.1⟩

theorem defaultReturnBatch_eq_some {input : LotReturnInput}
    (h : defaultReturnBatch db input = some id) :
    ∃ row, db.batches.get? id = some row ∧ row.productId = input.productId := by
  unfold defaultReturnBatch at h
  rcases Option.or_eq_some_iff.mp h with h | ⟨-, h⟩
  · exact newestBatch_eq_some h
  · rcases Option.or_eq_some_iff.mp h with h | ⟨-, h⟩
    · exact newestBatch_eq_some h
    · rw [Option.map_eq_some_iff] at h
      obtain ⟨e, he, rfl⟩ := h
      obtain ⟨hrow, hproduct, -⟩ := findBatch_eq_some he
      exact ⟨e.2, hrow, hproduct⟩

/-- A return puts its quantity on one lot of its product. -/
theorem returnLot_putOn {input : LotReturnInput} {r : LotDb × InventoryLot} (hdrawn : KeysDrawn db)
    (h : returnLot env clock db input = .ok r) : PutOn db input r.1 r.2 := by
  have hlot : ∃ m, resolveReturnMasterLot env clock db input = .ok m ∧
      r.1.batches = m.1.batches ∧ r.2 = m.2 := by
    obtain ⟨m, hm, hbatches, -⟩ := returnLot_batches h
    simp only [returnLot, bind_eq_ok] at h
    obtain ⟨m', hm', h⟩ := h
    obtain rfl : m' = m := Except.ok.inj (hm'.symm.trans hm)
    refine ⟨m', hm, hbatches, ?_⟩
    split at h
    · simp only [bind_eq_ok, pure_eq_ok] at h
      obtain ⟨_, -, rfl⟩ := h
      rfl
    · rw [pure_eq_ok] at h
      rw [h]
  obtain ⟨m, hm, hbatches, hsame⟩ := hlot
  rw [hsame]
  have hraised : ∀ id, (∃ row, db.batches.get? id = some row ∧ row.productId = input.productId) →
      increaseMasterRemainingQuantity db id input.quantity = .ok m → PutOn db input r.1 m.2 := by
    intro id hid hinc
    obtain ⟨row, hrow, hproduct⟩ := hid
    obtain ⟨row', hrow', rfl⟩ := increaseMaster_ok hinc
    rw [hrow] at hrow'
    cases hrow'
    exact .increased id row hrow hproduct hbatches rfl
  unfold resolveReturnMasterLot at hm
  split at hm
  · simp only [bind_eq_ok, orThrow_eq_ok, Option.filter_eq_some_iff, getLotById,
      Option.map_eq_some_iff, decide_eq_true_eq] at hm
    obtain ⟨existing, ⟨⟨row, hrow, rfl⟩, hproduct⟩, -, -, hinc⟩ := hm
    exact hraised _ ⟨row, hrow, hproduct⟩ hinc
  · split at hm
    · rename_i hdefault
      exact hraised _ (defaultReturnBatch_eq_some hdefault) hm
    · obtain ⟨-, rfl⟩ := insertBatch_ok hm
      refine .created _ ?_ rfl rfl hbatches rfl
      cases hnone : db.batches.get? db.nextId with
      | none => rfl
      | some row => exact absurd (hdrawn _ row hnone) (lt_irrefl _)

theorem returnLot_keysDrawn {input : LotReturnInput} {r : LotDb × InventoryLot}
    (hdrawn : KeysDrawn db) (h : returnLot env clock db input = .ok r) : KeysDrawn r.1 := by
  obtain ⟨m, hm, hbatches, hnext⟩ := returnLot_batches h
  exact ((resolveReturnMasterLot_cases hm).congr hbatches hnext).keysDrawn hdrawn

/-- A return of a stored quantity raises the stock of its product by it. -/
theorem returnLot_stockOf {input : LotReturnInput} {r : LotDb × InventoryLot}
    (hdrawn : KeysDrawn db) {n : Quantity} (hquantity : input.quantity = n.toRat)
    (h : returnLot env clock db input = .ok r) (productId : String) :
    stockOf r.1 productId = stockOf db productId + if input.productId = productId then n else 0 := by
  unfold stockOf
  cases returnLot_putOn hdrawn h with
  | increased id row hrow hproduct hafter hlot =>
    have hraised : (row.increased input.quantity).remainingQuantity = row.remainingQuantity + n := by
      unfold BatchRow.increased
      dsimp only
      rw [hquantity, ← Numeric.toRat_add, Numeric.ofRat_toRat]
    have hsame : (row.increased input.quantity).productId = row.productId := rfl
    rw [totalOf_overwrite _ hrow hafter, hsame, hraised, hproduct]
    split
    · rw [add_sub_cancel_left]
    · rw [sub_zero]
  | created row hfresh hproduct hremaining hafter hlot =>
    rw [totalOf_insert _ hfresh hafter, hproduct, hremaining, hquantity, Numeric.ofRat_toRat]

/-! ## Selecting -/

/-- A lot offers a positive stored quantity. -/
def OffersStock (lot : SelectableLot) : Prop :=
  0 < lot.remainingQuantity ∧ OnGrid 4 lot.remainingQuantity

/-- The quantity offered. -/
def offeredBy (lots : List SelectableLot) : ℚ := (lots.map (·.remainingQuantity)).sum

/-- What is left over is what the lots do not cover, and the layers take the rest, rounded
once. -/
theorem allocateLayers_spec (hlots : ∀ lot ∈ lots, OffersStock lot) {q : ℚ} (hq : 0 ≤ q) :
    (allocateLayers lots q).2 = max 0 (q - offeredBy lots) ∧
      ((allocateLayers lots q).1.map fun layer => (.deducted layer.quantity : Quantity)).sum =
        .deducted (min q (offeredBy lots)) := by
  induction lots generalizing q with
  | nil =>
    have hnone : offeredBy [] = 0 := rfl
    rw [hnone, sub_zero, max_eq_right hq, min_eq_right hq, Numeric.deducted_zero]
    exact ⟨rfl, rfl⟩
  | cons lot rest ih =>
    obtain ⟨⟨hpos, n, hn⟩, hrest⟩ := List.forall_mem_cons.mp hlots
    have hnonneg : 0 ≤ offeredBy rest := by
      refine List.sum_nonneg fun x hx => ?_
      obtain ⟨l, hl, rfl⟩ := List.mem_map.mp hx
      exact (hrest l hl).1.le
    have hoffered : offeredBy (lot :: rest) = lot.remainingQuantity + offeredBy rest := rfl
    rw [hoffered]
    unfold allocateLayers
    by_cases hzero : q ≤ 0
    · have hq0 : q = 0 := le_antisymm hzero hq
      subst hq0
      rw [if_pos le_rfl, min_eq_left (add_nonneg hpos.le hnonneg), Numeric.deducted_zero]
      refine ⟨(max_eq_left ?_).symm, rfl⟩
      linarith
    · have htake : 0 < min q lot.remainingQuantity := lt_min (not_le.mp hzero) hpos
      rw [if_neg hzero]
      dsimp only
      rw [if_neg (not_le.mpr htake), List.map_cons, List.sum_cons]
      rcases le_total lot.remainingQuantity q with hle | hle
      · -- the whole lot
        obtain ⟨hleft, hsum⟩ := ih hrest (sub_nonneg.mpr hle)
        rw [min_eq_right hle, hleft, hsum]
        constructor
        · rw [sub_sub]
        · have hmin : min q (lot.remainingQuantity + offeredBy rest) =
              lot.remainingQuantity + min (q - lot.remainingQuantity) (offeredBy rest) := by
            rw [← min_add_add_left, add_sub_cancel]
          have hwhole : (Numeric.deducted lot.remainingQuantity : Quantity) = n := by
            have hadd := Numeric.deducted_toRat_add n 0
            rw [add_zero, Numeric.deducted_zero, add_zero, hn] at hadd
            exact hadd
          rw [hmin, ← hn, Numeric.deducted_toRat_add, hn, hwhole]
      · -- the last layer
        rw [min_eq_left hle, sub_self, min_eq_left (le_add_of_le_of_nonneg hle hnonneg)]
        obtain ⟨hleft, hsum⟩ := ih hrest le_rfl
        rw [hleft, hsum, min_eq_left hnonneg, Numeric.deducted_zero, add_zero]
        refine ⟨?_, rfl⟩
        rw [max_eq_left (by linarith), max_eq_left (by linarith)]

/-- The lots a selection without a lot of its own may draw from. -/
def LotSelectionRequest.eligible (request : LotSelectionRequest) : List SelectableLot :=
  filterLotsEligibleForSelection request.lots request.businessDate request.minDaysBeforeExpirySale

/-- What a FEFO selection takes of stored quantities. -/
theorem selectLots_fefo_spec (localeLe : String → String → Bool) {request : LotSelectionRequest}
    (hpolicy : request.policy = .FEFO) (hany : request.specificLotId = none)
    (hgrid : ∀ lot ∈ request.lots, OnGrid 4 lot.remainingQuantity) (hq : 0 ≤ request.quantity) :
    ((selectLots localeLe request).layers.map fun layer =>
        (.deducted layer.quantity : Quantity)).sum =
      .deducted (min request.quantity (offeredBy request.eligible)) := by
  have hselect : (selectLots localeLe request).layers =
      (allocateLayers (sortLotsFefo localeLe request.eligible) request.quantity).1 := by
    unfold selectLots
    rw [hpolicy, hany]
    dsimp only
    unfold fefoSelect selectSorted
    rw [hany]
    rfl
  have hperm : (sortLotsFefo localeLe request.eligible).Perm request.eligible :=
    List.perm_insertionSort _ _
  have hoffers : ∀ lot ∈ sortLotsFefo localeLe request.eligible, OffersStock lot := by
    intro lot hlot
    obtain ⟨hmem, helig⟩ := List.mem_filter.mp (hperm.mem_iff.mp hlot)
    rw [Bool.and_eq_true, decide_eq_true_eq] at helig
    exact ⟨helig.1, hgrid lot hmem⟩
  have hsame : offeredBy (sortLotsFefo localeLe request.eligible) = offeredBy request.eligible :=
    (hperm.map _).sum_eq
  rw [hselect, (allocateLayers_spec hoffers hq).2, hsame]

/-! ## Consuming -/

/-- Keys come from the counter, and a projection has the product of its master. -/
structure StockKeys (db : LotDb) : Prop where
  drawn : KeysDrawn db
  owned : ∀ id lot batch, db.productLots.get? id = some lot →
    db.batches.get? lot.inventoryBatchId = some batch → batch.productId = lot.productId

/-- Every lot still is of the product it was of, and no lot is new. -/
structure SameOwners (db db' : LotDb) : Prop where
  products : ∀ id, (db'.batches.get? id).map (·.productId) = (db.batches.get? id).map (·.productId)
  productLots : db'.productLots = db.productLots
  nextId : db'.nextId = db.nextId

theorem SameOwners.refl (db : LotDb) : SameOwners db db := ⟨fun _ => rfl, rfl, rfl⟩

theorem SameOwners.trans {a b c : LotDb} (hab : SameOwners a b) (hbc : SameOwners b c) :
    SameOwners a c :=
  ⟨fun id => (hbc.products id).trans (hab.products id), hbc.productLots.trans hab.productLots,
    hbc.nextId.trans hab.nextId⟩

theorem SameOwners.product (h : SameOwners db db') {row' : BatchRow}
    (hrow : db'.batches.get? id = some row') :
    ∃ row, db.batches.get? id = some row ∧ row.productId = row'.productId := by
  have hid := h.products id
  rw [hrow, Option.map_some, eq_comm, Option.map_eq_some_iff] at hid
  exact hid

theorem StockKeys.same (hkeys : StockKeys db) (h : SameOwners db db') : StockKeys db' := by
  constructor
  · intro id row' hrow'
    obtain ⟨row, hrow, -⟩ := h.product hrow'
    rw [h.nextId]
    exact hkeys.drawn id row hrow
  · intro id lot batch' hlot hbatch'
    rw [h.productLots] at hlot
    obtain ⟨batch, hbatch, hproduct⟩ := h.product hbatch'
    rw [← hproduct]
    exact hkeys.owned id lot batch hlot hbatch

/-- A layer without a lot of its own lowers one lot. -/
theorem consumeLayer_lowers {layer : LotSelectionLayer} (hany : input.specificLotId = none)
    (h : consumeLayer env input lots db layer = .ok db') :
    (∃ row, db.batches.get? layer.lotId = some row ∧ layer.quantity ≤ row.remainingQuantity.toRat ∧
      db'.batches = db.batches.set layer.lotId (row.decremented layer.quantity)) ∧
    db'.productLots = db.productLots ∧ db'.nextId = db.nextId := by
  simp only [consumeLayer, bind_eq_ok] at h
  obtain ⟨decremented, hdec, h⟩ := h
  obtain ⟨row, hrow, hle, rfl⟩ := decrementMaster_ok hdec
  have hcross : input.crossStoreDeduct env = false := by
    simp [LotConsumeInput.crossStoreDeduct, hany]
  simp only [hcross, Bool.false_and, Bool.false_eq_true, if_false] at h
  split at h
  · simp only [adjustSellableQuantityOut, bind_eq_ok, pure_eq_ok] at h
    obtain ⟨-, -, -, -, -, -, rfl⟩ := h
    exact ⟨⟨row, hrow, hle, rfl⟩, rfl, rfl⟩
  · rw [pure_eq_ok] at h
    subst h
    exact ⟨⟨row, hrow, hle, rfl⟩, rfl, rfl⟩

theorem consumeLayer_stockOf {layer : LotSelectionLayer} (hany : input.specificLotId = none)
    (howned : ∀ row, db.batches.get? layer.lotId = some row → row.productId = input.productId)
    (h : consumeLayer env input lots db layer = .ok db') :
    SameOwners db db' ∧ ∀ productId, stockOf db' productId = stockOf db productId -
      if input.productId = productId then .deducted layer.quantity else 0 := by
  obtain ⟨⟨row, hrow, hle, hafter⟩, hlots, hnext⟩ := consumeLayer_lowers hany h
  refine ⟨⟨fun id => ?_, hlots, hnext⟩, fun productId => ?_⟩
  · rw [hafter, OrderedMap.get?_set]
    split
    · rename_i hid
      rw [hid, hrow]
      rfl
    · rfl
  · have hlowered : (row.decremented layer.quantity).remainingQuantity =
        row.remainingQuantity - .deducted layer.quantity := Numeric.ofRat_toRat_sub hle
    have hsame : (row.decremented layer.quantity).productId = row.productId := rfl
    unfold stockOf
    rw [totalOf_overwrite _ hrow hafter, hsame, hlowered, howned row hrow]
    split
    · abel
    · abel

/-- Layer by layer, every lot keeping its product. -/
theorem consumeLayers_stockOf (hany : input.specificLotId = none) {layers : List LotSelectionLayer}
    {mid : LotDb} (hmid : SameOwners db mid)
    (howned : ∀ layer ∈ layers, ∀ row, db.batches.get? layer.lotId = some row →
      row.productId = input.productId)
    (h : layers.foldlM (consumeLayer env input lots) mid = .ok db') :
    SameOwners db db' ∧ ∀ productId, stockOf db' productId = stockOf mid productId -
      if input.productId = productId then
        (layers.map fun layer => (.deducted layer.quantity : Quantity)).sum
      else 0 := by
  induction layers generalizing mid with
  | nil =>
    rw [List.foldlM_nil, pure_eq_ok] at h
    subst h
    exact ⟨hmid, fun productId => by simp⟩
  | cons layer rest ih =>
    rw [List.foldlM_cons, bind_eq_ok] at h
    obtain ⟨next, hnext, h⟩ := h
    obtain ⟨hfirst, hrest⟩ := List.forall_mem_cons.mp howned
    obtain ⟨hsame, hstock⟩ := consumeLayer_stockOf hany (fun row hrow => by
      obtain ⟨row₀, hrow₀, hproduct⟩ := hmid.product hrow
      rw [← hproduct]
      exact hfirst row₀ hrow₀) hnext
    obtain ⟨hlast, hall⟩ := ih (hmid.trans hsame) hrest h
    refine ⟨hlast, fun productId => ?_⟩
    rw [hall, hstock, List.map_cons, List.sum_cons]
    split
    · abel
    · abel

/-- The lots offered to a consumption are lots of its product. -/
theorem consumableLots_owned (hkeys : StockKeys db) (hany : input.specificLotId = none)
    {lot : SelectableLot} (hlot : lot ∈ consumableLots env clock db input) {row : BatchRow}
    (hrow : db.batches.get? lot.lotId = some row) : row.productId = input.productId := by
  unfold consumableLots at hlot
  split at hlot
  · simp only [loadStoreSelectableLots, List.mem_map, List.mem_insertionSort, List.mem_filter,
      List.mem_filterMap] at hlot
    obtain ⟨joined, ⟨⟨entry, -, hjoin⟩, hadmitted⟩, rfl⟩ := hlot
    simp only [joinBalance, Option.bind_eq_bind, Option.pure_def, Option.bind_eq_some_iff,
      Option.some.injEq] at hjoin
    obtain ⟨productLot, hpl, batch, hbatch, store, -, rfl⟩ := hjoin
    simp only [storeRowAdmitted, Bool.and_eq_true, decide_eq_true_eq] at hadmitted
    change db.batches.get? productLot.inventoryBatchId = some row at hrow
    rw [hkeys.owned _ productLot row hpl hrow]
    exact hadmitted.1.1.1.1.1.1.1
  · simp only [loadGlobalSelectableLots, hany, List.mem_map, List.mem_insertionSort,
      List.mem_filter] at hlot
    obtain ⟨e, ⟨hentry, hadmitted⟩, rfl⟩ := hlot
    simp only [Bool.and_eq_true, decide_eq_true_eq] at hadmitted
    have hget := OrderedMap.get?_eq_some_iff.mpr hentry
    change db.batches.get? e.1 = some row at hrow
    rw [hget] at hrow
    cases hrow
    exact hadmitted.1.1.1

/-- The lots offered carry stored quantities. -/
theorem consumableLots_onGrid (hany : input.specificLotId = none) {lot : SelectableLot}
    (hlot : lot ∈ consumableLots env clock db input) : OnGrid 4 lot.remainingQuantity := by
  unfold consumableLots at hlot
  split at hlot
  · simp only [loadStoreSelectableLots, List.mem_map] at hlot
    obtain ⟨joined, -, rfl⟩ := hlot
    dsimp only
    rcases max_choice joined.balance.available 0 with hmax | hmax
    · rw [hmax]
      exact ⟨joined.balance.quantityOnHand - joined.balance.quantityReserved -
        joined.balance.quantityCommitted, by simp [BalanceRow.available]⟩
    · rw [hmax]
      exact onGrid_zero
  · simp only [loadGlobalSelectableLots, hany, List.mem_map] at hlot
    obtain ⟨e, -, rfl⟩ := hlot
    exact ⟨e.2.remainingQuantity, rfl⟩

/-- What a consumption is offered. -/
def LotConsumeInput.offered (input : LotConsumeInput) (env : LotEnv) (clock : Clock) (db : LotDb) :
    ℚ :=
  offeredBy (filterLotsEligibleForSelection (consumableLots env clock db input) clock.businessDate
    (input.minDaysBeforeExpiry.getD 0))

/-- What it takes: what is asked for, as far as it is there, rounded. -/
def LotConsumeInput.drawn (input : LotConsumeInput) (env : LotEnv) (clock : Clock) (db : LotDb) :
    Quantity :=
  .deducted (min input.quantity (input.offered env clock db))

/-- A FEFO consumption lowers the stock of its product by what it takes. -/
theorem consumeLot_stockOf {r : LotDb × LotConsumeResult} (hkeys : StockKeys db)
    (hany : input.specificLotId = none) (hpolicy : input.selectionPolicy = some .FEFO)
    (h : consumeLot env clock db input = .ok r) :
    SameOwners db r.1 ∧ ∀ productId, stockOf r.1 productId = stockOf db productId -
      if input.productId = productId then input.drawn env clock db else 0 := by
  simp only [consumeLot, bind_eq_ok, pure_eq_ok, require_eq_ok] at h
  obtain ⟨-, hpos, policy, -, -, -, -, -, -, -, db', hfold, rfl⟩ := h
  let request : LotSelectionRequest :=
    { policy := .FEFO
      lots := consumableLots env clock db input
      quantity := input.quantity
      businessDate := clock.businessDate
      minDaysBeforeExpirySale := input.minDaysBeforeExpiry.getD 0
      specificLotId := none }
  have hdrawn : ((selectLots env.localeLe request).layers.map fun layer =>
      (.deducted layer.quantity : Quantity)).sum = input.drawn env clock db :=
    selectLots_fefo_spec env.localeLe rfl rfl
      (fun lot hlot => consumableLots_onGrid hany hlot) hpos.le
  have hlayers : ∀ layer ∈ (consumeSelection env clock db policy.trackExpiry input).2.layers,
      ∀ row, db.batches.get? layer.lotId = some row → row.productId = input.productId := by
    intro layer hlayer row hrow
    obtain ⟨lot, hlot, hid, -⟩ := (layerOf_selectLots hlayer).1.covered
    rw [← hid] at hrow
    exact consumableLots_owned hkeys hany hlot hrow
  have hselection : (consumeSelection env clock db policy.trackExpiry input).2 =
      selectLots env.localeLe request := by
    unfold consumeSelection
    rw [hpolicy, hany]
    rfl
  rw [hselection] at hlayers hfold
  rw [← hdrawn]
  exact consumeLayers_stockOf hany (.refl db) hlayers hfold

end SmartErpPos.Lot
