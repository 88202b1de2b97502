/-
  Lot/Splitting.lean --- a split keeps master and balances together.

  A split lowers the parent's master, inserts a child with the split quantity and
  moves balances from the parent's projection to the child's, store by store.  The
  walk over the stores may stop with up to 0.0001 units still to move; the two
  masters have by then been written for the whole quantity.
-/
import SmartErpPos.Lot.Coupling

set_option autoImplicit false

namespace SmartErpPos.Lot

open SmartErpPos.Lib

/-- Some run of the stores, in the order a split visits them and without those that
could give at most 0.0001, falls short of the quantity by 0.00005 up to 0.0001. -/
def splitShort (env : LotEnv) (db : LotDb) (id : ProductLotId) (qty : ℚ) : Prop :=
  let rows := (availableBalances env db id).filter fun r => 1 / 10000 < r.2
  ∃ k, 1 / 20000 ≤ qty - ((rows.take k).map Prod.snd).sum ∧
    qty - ((rows.take k).map Prod.snd).sum ≤ 1 / 10000

/-- The parent's stores do not stop the walk just short of the quantity. -/
def splitKeeps (env : LotEnv) (db : LotDb) (input : LotSplitInput) : Prop :=
  ∀ id, getProductLotIdByBatchId db input.lotId = some id →
    ¬ splitShort env db id input.quantity

theorem splitShort_congr (env : LotEnv) {db db' : LotDb} (h : db'.balances = db.balances)
    (id : ProductLotId) (qty : ℚ) : splitShort env db' id qty = splitShort env db id qty := by
  simp only [splitShort, availableBalances, h]

/-- What the walk moves is the whole quantity, up to less than half a unit. -/
theorem TakesSpec.moves_all {q : ℚ} {takes : List (StoreId × ℚ)} {left : ℚ}
    (h : TakesSpec q takes left) (hleft : left < 1 / 20000) :
    (takes.map fun t => (Numeric.deducted t.2 : Quantity)).sum = Numeric.deducted q ∧
      (takes.map fun t => (Numeric.ofRat t.2 : Quantity)).sum = Numeric.ofRat q := by
  rw [h.deducted, h.stored]
  rcases h.whole with hzero | ⟨n, hn, hnq⟩
  · rw [hzero, sub_zero]
    exact ⟨rfl, rfl⟩
  · have hq : q = n.toRat + left := by rw [hnq]; ring
    have hd : (Numeric.deducted left : Quantity) = 0 :=
      Numeric.deducted_eq_zero h.left_nonneg (by norm_num; linarith)
    have ho : (Numeric.ofRat left : Quantity) = 0 :=
      Numeric.ofRat_eq_zero h.left_nonneg (by norm_num; linarith)
    have hn' : 0 ≤ n.toRat := Numeric.toRat_nonneg_iff.mpr hn
    have hdn : (Numeric.deducted n.toRat : Quantity) = n := by
      have hadd := Numeric.deducted_toRat_add n 0
      rwa [add_zero, Numeric.deducted_zero, add_zero] at hadd
    constructor
    · rw [← hnq, hdn, hq, Numeric.deducted_toRat_add, hd, add_zero]
    · rw [← hnq, Numeric.ofRat_toRat, hq,
        Numeric.ofRat_toRat_add h.left_nonneg (add_nonneg hn' h.left_nonneg), ho, add_zero]

/-- A lot has one projection, so keeping its row keeps the look-up. -/
theorem getProductLotId_of_kept {db db' : LotDb} (hw' : Wired db') (hkept : LotsKept db db')
    {batchId : BatchId} {id : ProductLotId} (h : getProductLotIdByBatchId db batchId = some id) :
    getProductLotIdByBatchId db' batchId = some id := by
  obtain ⟨row, hrow, hb⟩ := getProductLotId_eq_some h
  obtain ⟨row', hrow', hb'⟩ := hkept id row hrow
  obtain ⟨id', hid'⟩ := Option.isSome_iff_exists.mp
    (getProductLotId_isSome_iff.mpr ⟨id, row', hrow', hb'.trans hb⟩)
  obtain ⟨row'', hrow'', hb''⟩ := getProductLotId_eq_some hid'
  have hsame := hw'.lot_unique id' id row'' row' hrow'' hrow' (hb''.trans (hb'.trans hb).symm)
  rw [hid', hsame]

/-- The balances follow the masters: the parent's gap closes and the child's too. -/
theorem splitBalances_ok {env : LotEnv} {db db' : LotDb} (hw : Wired db)
    {parent child : InventoryLot} {parentId childId : ProductLotId} {qty : ℚ}
    (hparent : getProductLotIdByBatchId db parent.id = some parentId)
    (hchild : getProductLotIdByBatchId db child.id = some childId) (hqty : 0 ≤ qty)
    (hstock : 0 < onHand db parent.id)
    (hkeeps : ¬ splitShort env db parentId qty)
    (h : splitBalances env db parent child qty = .ok db') :
    BalanceWritten db db' ∧ ∀ b, gap db' b = gap db b +
      (if parent.id = b then Numeric.deducted qty else 0) -
      (if child.id = b then Numeric.ofRat qty else 0) := by
  obtain ⟨parentRow, hparentRow, hpb⟩ := getProductLotId_eq_some hparent
  obtain ⟨childRow, hchildRow, hcb⟩ := getProductLotId_eq_some hchild
  have hrows := storedRows_availableBalances env hw parentId
  have hne : availableBalances env db parentId ≠ [] :=
    availableBalances_ne_nil env hw hparentRow (by rw [hpb]; exact hstock)
  simp only [splitBalances, hparent, hchild, transferBalancesForSplit, if_neg hne, bind_eq_ok,
    require_eq_ok, pure_eq_ok] at h
  obtain ⟨moved, hfold, _, hle, rfl⟩ := h
  have hstep : (0 : ℚ) ≤ 1 / 10000 := by norm_num
  have hleft : (greedyTakes (1 / 10000) (availableBalances env db parentId) qty).2 < 1 / 20000 := by
    rcases greedyTakes_left hstep (availableBalances env db parentId) qty with hz | ⟨k, hk⟩
    · rw [hz]
      norm_num
    · rw [hk] at hle ⊢
      exact not_le.mp fun hge => hkeeps ⟨k, hge, hle⟩
  have hspec := greedyTakes_spec hstep hrows hqty
  obtain ⟨hd, ho⟩ := hspec.moves_all hleft
  obtain ⟨hwritten, hgap⟩ := moveSplitTakes_ok hw hparentRow hchildRow hfold
  refine ⟨hwritten, fun b => ?_⟩
  rw [hgap b, hd, ho, hpb, hcb]

theorem splitLot_good {env : LotEnv} {clock : Clock} {db : LotDb} (hgood : Good db)
    {input : LotSplitInput} {r : LotDb × LotSplitResult} (hkeeps : splitKeeps env db input)
    (h : splitLot env clock db input = .ok r) : Good r.1 := by
  simp only [splitLot, bind_eq_ok, require_eq_ok, orThrow_eq_ok, pure_eq_ok] at h
  obtain ⟨_, hqty, parentBefore, hparent, _, _, _, _, _, _, number, _, parentAfter, hdec, child,
    hins, projected, hproj, moved, hmoved, _, _, rfl⟩ := h
  obtain ⟨row, hrow, hle, rfl⟩ := decrementMaster_ok hdec
  have hpb : parentBefore = rowToInventoryLot input.lotId row := by
    simp only [getLotById, hrow, Option.map_some, Option.some.injEq] at hparent
    exact hparent.symm
  subst hpb
  have hq : 0 < input.quantity := by linarith
  -- The parent's master falls behind by the units deducted.
  have hwA : Wired (writeBatch db input.lotId (row.decremented input.quantity)).1 :=
    hgood.wired.writeBatch hrow rfl rfl
  have hgapA := gap_decremented hrow hle
  -- The child's master is ahead by the units inserted.
  have hwB := hwA.insertBatch hins
  have hgapB := gap_insertBatch hwA hins
  obtain ⟨-, rfl⟩ := insertBatch_ok hins
  have hne : input.lotId ≠ db.nextId := (hgood.wired.batch_fresh _ row hrow).ne
  have hwritten : ProjectionWritten _ projected db.nextId :=
    upsertProjection_ok hwB (OrderedMap.get?_set_self _ _ _) rfl rfl hproj
  have hkept : LotsKept db projected := hwritten.kept
  obtain ⟨parentId, hparentId⟩ := Option.isSome_iff_exists.mp (hgood.projected _ row hrow)
  obtain ⟨childId, hchildId⟩ := Option.isSome_iff_exists.mp hwritten.written
  have hbal : projected.balances = db.balances := hwritten.balances
  have hgapP : ∀ id, gap projected id = (if id = input.lotId then -Numeric.deducted input.quantity
      else 0) + if id = db.nextId then Numeric.ofRat input.quantity else 0 := by
    intro id
    rw [hwritten.gap_eq, hgapB id, hgapA id, hgood.gap_zero id, zero_add]
    rfl
  have hstock : 0 < onHand projected input.lotId := by
    have hrem : remainingOf projected input.lotId =
        row.remainingQuantity - Numeric.deducted input.quantity := by
      have hrowP : projected.batches.get? input.lotId = some (row.decremented input.quantity) := by
        rw [hwritten.batches]
        exact (OrderedMap.get?_set_of_ne hne _ _).trans (OrderedMap.get?_set_self _ _ _)
      rw [remainingOf, OrderedMap.valueAt_of_get? hrowP]
      exact Numeric.ofRat_toRat_sub hle
    have honHand : onHand projected input.lotId = row.remainingQuantity := by
      have hgap := hgapP input.lotId
      rw [if_pos rfl, if_neg hne, add_zero, gap, hrem, sub_eq_iff_eq_add] at hgap
      rw [sub_eq_add_neg, add_comm] at hgap
      exact (add_left_cancel hgap).symm
    rw [honHand, ← Numeric.toRat_pos_iff]
    linarith
  have hmoves := splitBalances_ok hwritten.wired
    (getProductLotId_of_kept hwritten.wired hkept hparentId) hchildId hq.le hstock
    (by rw [splitShort_congr env hbal]; exact hkeeps parentId hparentId) hmoved
  obtain ⟨hbalW, hgapM⟩ := hmoves
  have hkeptM : LotsKept projected moved := LotsKept.of_eq hbalW.productLots
  refine ⟨hbalW.wired, fun id row' hrow' => ?_, fun id => ?_⟩
  · by_cases hid : id = db.nextId
    · subst hid
      exact hkeptM.isSome hwritten.written
    · refine (hkept.trans hkeptM).isSome ?_
      by_cases hid' : id = input.lotId
      · subst hid'
        exact hgood.projected _ row hrow
      · have hold : db.batches.get? id = some row' := by
          rw [← hrow', hbalW.batches, hwritten.batches]
          exact ((OrderedMap.get?_set_of_ne hid _ _).trans
            (OrderedMap.get?_set_of_ne hid' _ _)).symm
        exact hgood.projected id row' hold
  · rw [hgapM id, hgapP id]
    show _ + (if input.lotId = id then _ else _) - (if db.nextId = id then _ else _) = _
    by_cases hid : id = input.lotId
    · have hid' : id ≠ db.nextId := fun h => hne (hid.symm.trans h)
      simp [hid, hne, hne.symm]
    · by_cases hid' : id = db.nextId
      · have hne' : ¬ db.nextId = input.lotId := hne.symm
        simp [hid', hne, hne']
      · have h₁ : ¬ input.lotId = id := fun h => hid h.symm
        have h₂ : ¬ db.nextId = id := fun h => hid' h.symm
        simp [hid, hid', h₁, h₂]

end SmartErpPos.Lot
