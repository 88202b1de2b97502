/-
  Transfers/LineSteps.lean --- what the calls do to one line after the other.

  The books of the transfers: the store in transit holds what the lines have on their way,
  and the shortage of a line is what was left of it when it was received.  Every line step
  keeps them, a receipt only when the line was not short before and what it leaves out is
  moved to quarantine.
-/
import SmartErpPos.Lib.Passes
import SmartErpPos.Transfers.StockMoves

set_option autoImplicit false

namespace SmartErpPos.Transfers

open SmartErpPos.Lib

/-! ## The books -/

/-- The stores of a transfer: only one of them is the one in transit. -/
structure Places (db : WarehouseDb) (transfer : StoreTransfer) : Prop where
  transit : ∃ row, db.stores.get? transfer.transitStoreId = some row ∧ row.code = transitCode ∧
    row.storeType = .TRANSIT
  source : ∃ row, db.stores.get? transfer.sourceStoreId = some row ∧ row.code ≠ transitCode
  destination : ∃ row, db.stores.get? transfer.destinationStoreId = some row ∧
    row.code ≠ transitCode

variable {db db' : WarehouseDb} {transfer : StoreTransfer} {lotId : LotId} {x : Quantity}
  {quantity : ℚ} {id : LineId} {line line' : StoreTransferLine} {e : LineId × StoreTransferLine}
  {dto : List TransferStageLineDto}

theorem Places.kept (h : Places db transfer) (hkept : StoresKept db db') : Places db' transfer where
  transit := by
    obtain ⟨row, hrow, hcode, htype⟩ := h.transit
    obtain ⟨row', hrow', hcode', htype'⟩ := hkept.kept _ row hrow
    exact ⟨row', hrow', hcode'.trans hcode, htype' hcode htype⟩
  source := by
    obtain ⟨row, hrow, hcode⟩ := h.source
    obtain ⟨row', hrow', hcode', -⟩ := hkept.kept _ row hrow
    exact ⟨row', hrow', hcode' ▸ hcode⟩
  destination := by
    obtain ⟨row, hrow, hcode⟩ := h.destination
    obtain ⟨row', hrow', hcode', -⟩ := hkept.kept _ row hrow
    exact ⟨row', hrow', hcode' ▸ hcode⟩

theorem Places.source_ne (h : Places db transfer) :
    transfer.sourceStoreId ≠ transfer.transitStoreId := by
  obtain ⟨row, hrow, hcode, -⟩ := h.transit
  obtain ⟨row', hrow', hcode'⟩ := h.source
  intro heq
  rw [heq, hrow] at hrow'
  exact hcode' (Option.some.inj hrow' ▸ hcode)

theorem Places.destination_ne (h : Places db transfer) :
    transfer.destinationStoreId ≠ transfer.transitStoreId := by
  obtain ⟨row, hrow, hcode, -⟩ := h.transit
  obtain ⟨row', hrow', hcode'⟩ := h.destination
  intro heq
  rw [heq, hrow] at hrow'
  exact hcode' (Option.some.inj hrow' ▸ hcode)

/-- The shortage of a line is what was left of it when it was received.  A line short by the
tolerance may be received once more. -/
structure ShortageCounted (line : StoreTransferLine) : Prop where
  whole : line.quantityShortage = 0 ∨
    line.quantityReceived + line.quantityShortage = line.quantityDispatched ∨
    (line.quantityReceived = line.quantityDispatched ∧ line.quantityShortage.toRat ≤ qtyTolerance)
  small : 0 < line.quantityShortage → line.quantityShortage.toRat ≤ qtyTolerance →
    0 < line.quantityReceived

/-- The books of the transfers. -/
structure Books (db : WarehouseDb) : Prop where
  stores : StoresOk db
  transferIds : ∀ id t, db.transfers.get? id = some t → id < db.nextId
  lineIds : ∀ id line, db.lines.get? id = some line → id < db.nextId
  lineTransfer : ∀ id line, db.lines.get? id = some line →
    ∃ t, db.transfers.get? line.storeTransferId = some t
  places : ∀ id t, db.transfers.get? id = some t → Places db t
  transit : ∀ id row, db.stores.get? id = some row → row.code = transitCode →
    ∀ lot, onHandAt db id lot = inTransitTotal db lot
  counted : ∀ id line, db.lines.get? id = some line → ShortageCounted line

/-! ## One line -/

/-- What moving stock for one line does, up to what it changes in transit. -/
structure StockStep (transfer : StoreTransfer) (lotId : LotId) (change : Quantity)
    (db db' : WarehouseDb) : Prop where
  lines : db'.lines = db.lines
  transfers : db'.transfers = db.transfers
  kept : StoresKept db db'
  ok : StoresOk db'
  total : ∀ lot, totalOnHand db' lot = totalOnHand db lot
  transit : ∀ lot, onHandAt db' transfer.transitStoreId lot =
    onHandAt db transfer.transitStoreId lot + if lot = lotId then change else 0

theorem StockStep.trans {y : Quantity} {db'' : WarehouseDb} (h : StockStep transfer lotId x db db')
    (h' : StockStep transfer lotId y db' db'') : StockStep transfer lotId (x + y) db db'' where
  lines := h'.lines.trans h.lines
  transfers := h'.transfers.trans h.transfers
  kept := h.kept.trans h'.kept
  ok := h'.ok
  total lot := (h'.total lot).trans (h.total lot)
  transit lot := by
    rw [h'.transit, h.transit]
    split
    · rw [add_assoc]
    · rw [add_zero]

theorem LotMoved.stockStep {fromStoreId toStoreId : StoreId} (hdb : StoresOk db)
    (hto : ∃ row, db.stores.get? toStoreId = some row)
    (h : LotMoved fromStoreId toStoreId lotId x db db') :
    StockStep transfer lotId ((if transfer.transitStoreId = toStoreId then x else 0) -
      if transfer.transitStoreId = fromStoreId then x else 0) db db' where
  lines := by rw [h.eq]
  transfers := by rw [h.eq]
  kept := .of_eq (by rw [h.eq]) (by rw [h.eq])
  ok :=
    { ids := by
        rw [h.eq]
        exact hdb.ids
      codes := by
        rw [h.eq]
        exact hdb.codes
      balances := fun key row hrow => by
        have hstores : db'.stores = db.stores := by rw [h.eq]
        rw [hstores]
        rcases h.keys key row hrow with rfl | ⟨row, hrow⟩
        · exact hto
        · exact hdb.balances key row hrow }
  total := h.total
  transit lot := h.onHand _ lot

/-- Stock leaves the source of a transfer. -/
theorem stockStep_dispatch {productId : ProductId} {track : Bool} (hdb : StoresOk db)
    (hplaces : Places db transfer) (htie : ¬ Numeric.IsTie 4 quantity)
    (h : moveLotQuantityBetweenStores db ⟨transfer.sourceStoreId, transfer.transitStoreId, productId,
      lotId, quantity, track⟩ = .ok db') :
    StockStep transfer lotId (Numeric.ofRat quantity) db db' := by
  obtain ⟨row, hrow, -⟩ := hplaces.transit
  have hstep : StockStep transfer lotId _ db db' :=
    (moveLotQuantity_ok htie h).stockStep hdb ⟨row, hrow⟩
  rwa [if_pos rfl, if_neg hplaces.source_ne.symm, sub_zero] at hstep

/-- Stock leaves the store in transit for another one. -/
theorem stockStep_leave {toStoreId : StoreId} {productId : ProductId} {track : Bool}
    (hdb : StoresOk db) (hto : ∃ row, db.stores.get? toStoreId = some row)
    (hne : toStoreId ≠ transfer.transitStoreId) (htie : ¬ Numeric.IsTie 4 quantity)
    (h : moveLotQuantityBetweenStores db ⟨transfer.transitStoreId, toStoreId, productId, lotId,
      quantity, track⟩ = .ok db') : StockStep transfer lotId (-Numeric.ofRat quantity) db db' := by
  have hstep : StockStep transfer lotId _ db db' := (moveLotQuantity_ok htie h).stockStep hdb hto
  rwa [if_neg hne.symm, if_pos rfl, zero_sub] at hstep

/-- What a line step does. -/
structure LineStep (transfer : StoreTransfer) (id : LineId) (line line' : StoreTransferLine)
    (db db' : WarehouseDb) : Prop where
  same : SameLine line line'
  lines : db'.lines = db.lines.set id line'
  transfers : db'.transfers = db.transfers
  kept : StoresKept db db'
  ok : StoresOk db'
  total : ∀ lot, totalOnHand db' lot = totalOnHand db lot
  transit : ∀ lot, onHandAt db' transfer.transitStoreId lot =
    onHandAt db transfer.transitStoreId lot + (line'.inTransitOf lot - line.inTransitOf lot)

/-- Stock is moved, and the line written. -/
theorem StockStep.lineStep {change : Quantity} {mid : WarehouseDb}
    (h : StockStep transfer line.productLotId change db mid) (hsame : SameLine line line')
    (hchange : line'.inTransit - line.inTransit = change) :
    LineStep transfer id line line' db { mid with lines := mid.lines.set id line' } where
  same := hsame
  lines := by rw [h.lines]
  transfers := h.transfers
  kept := ⟨h.kept.nextId_le, h.kept.kept, h.kept.added⟩
  ok := ⟨h.ok.ids, h.ok.codes, h.ok.balances⟩
  total := h.total
  transit lot := by
    refine (h.transit lot).trans ?_
    unfold StoreTransferLine.inTransitOf
    rw [hsame.productLotId, ← hchange]
    by_cases hlot : lot = line.productLotId
    · rw [if_pos hlot, if_pos hlot.symm, if_pos hlot.symm]
    · rw [if_neg hlot, if_neg (Ne.symm hlot), if_neg (Ne.symm hlot), sub_zero]

/-- A line is written without moving stock. -/
theorem lineStep_of_written (hdb : StoresOk db) (hsame : SameLine line line')
    (htransit : line'.inTransit = line.inTransit) :
    LineStep transfer id line line' db { db with lines := db.lines.set id line' } := by
  have hstep : StockStep transfer line.productLotId 0 db db :=
    { lines := rfl
      transfers := rfl
      kept := .of_eq rfl le_rfl
      ok := hdb
      total := fun _ => rfl
      transit := fun lot => by rw [ite_self, add_zero] }
  exact hstep.lineStep hsame (by rw [htransit, sub_self])

/-- A line that is left out. -/
theorem lineStep_refl (hdb : StoresOk db) (hline : db.lines.get? id = some line) :
    LineStep transfer id line line db db := by
  have hstep : LineStep transfer id line line db { db with lines := db.lines.set id line } :=
    lineStep_of_written hdb ⟨rfl, rfl, rfl, rfl⟩ rfl
  rwa [OrderedMap.set_get? hline] at hstep

theorem LineStep.inTransitTotal_eq (hline : db.lines.get? id = some line)
    (h : LineStep transfer id line line' db db') (lot : LotId) :
    inTransitTotal db' lot =
      inTransitTotal db lot + (line'.inTransitOf lot - line.inTransitOf lot) := by
  unfold inTransitTotal
  rw [h.lines, OrderedMap.sumWhere_set, OrderedMap.valueAt_of_get? hline, if_pos rfl]

/-- A line step keeps the books. -/
theorem LineStep.books (hdb : Books db) (hplaces : Places db transfer)
    (hline : db.lines.get? id = some line) (h : LineStep transfer id line line' db db')
    (hcounted : ShortageCounted line') : Books db' where
  stores := h.ok
  transferIds k t ht := (hdb.transferIds k t (h.transfers ▸ ht)).trans_le h.kept.nextId_le
  lineIds k l hl := by
    rw [h.lines, OrderedMap.get?_set] at hl
    refine lt_of_lt_of_le ?_ h.kept.nextId_le
    split at hl
    · rename_i hk
      exact hk ▸ hdb.lineIds id line hline
    · exact hdb.lineIds k l hl
  lineTransfer k l hl := by
    rw [h.transfers]
    rw [h.lines, OrderedMap.get?_set] at hl
    split at hl
    · obtain rfl := Option.some.inj hl
      rw [h.same.storeTransferId]
      exact hdb.lineTransfer id line hline
    · exact hdb.lineTransfer k l hl
  places k t ht := (hdb.places k t (h.transfers ▸ ht)).kept h.kept
  transit k row hrow hcode lot := by
    obtain ⟨row', hrow', hcode', -⟩ := (hplaces.kept h.kept).transit
    obtain rfl : k = transfer.transitStoreId :=
      h.ok.codes k _ row row' hrow hrow' (hcode.trans hcode'.symm)
    obtain ⟨old, hold, hcodeOld, -⟩ := hplaces.transit
    rw [h.transit, h.inTransitTotal_eq hline, hdb.transit _ old hold hcodeOld]
  counted k l hl := by
    rw [h.lines, OrderedMap.get?_set] at hl
    split at hl
    · exact Option.some.inj hl ▸ hcounted
    · exact hdb.counted k l hl

/-! ## Quantities as units -/

theorem toRat_le_tolerance : x.toRat ≤ qtyTolerance ↔ x.units ≤ 1 := by
  have hunit : qtyTolerance = 1 / 10 ^ 4 := by norm_num [qtyTolerance]
  rw [hunit, Numeric.toRat, div_le_div_iff_of_pos_right (by norm_num)]
  exact_mod_cast Iff.rfl

theorem remainingToReceive_eq (line : StoreTransferLine) :
    remainingToReceive line = line.quantityDispatched - line.quantityReceived := by
  obtain ⟨-, -, -, -, -, hle⟩ := line.chk_transfer_line_qty
  exact max_eq_right (sub_nonneg.mpr hle)

theorem ShortageCounted.of_no_shortage (h : line.quantityShortage = 0) : ShortageCounted line where
  whole := .inl h
  small hpos := by
    rw [h] at hpos
    exact absurd hpos (lt_irrefl _)

/-! ## Approving a line -/

/-- What approving a line does to its quantities. -/
structure LineApproved (line line' : StoreTransferLine) : Prop where
  same : SameLine line line'
  dispatched : line'.quantityDispatched = line.quantityDispatched
  received : line'.quantityReceived = line.quantityReceived
  shortage : line'.quantityShortage = line.quantityShortage

theorem LineApproved.counted (h : LineApproved line line') (hline : ShortageCounted line) :
    ShortageCounted line' where
  whole := by
    rw [h.dispatched, h.received, h.shortage]
    exact hline.whole
  small := by
    rw [h.received, h.shortage]
    exact hline.small

theorem LineApproved.inTransit_eq (h : LineApproved line line') :
    line'.inTransit = line.inTransit := by
  unfold StoreTransferLine.inTransit
  rw [h.dispatched, h.received, h.shortage]

theorem setLineApproval_step {quantityApproved : ℚ} {comment : Option String} (hdb : StoresOk db)
    (hline : db.lines.get? e.1 = some e.2)
    (h : setLineApproval db e.1 quantityApproved comment = .ok db') :
    ∃ line', LineApproved e.2 line' ∧ LineStep transfer e.1 e.2 line' db db' := by
  obtain ⟨line', hwritten, rfl⟩ := setLineApproval_ok hline h
  have happroved : LineApproved e.2 line' := ⟨hwritten.same, hwritten.quantityDispatched,
    hwritten.quantityReceived, hwritten.quantityShortage⟩
  exact ⟨line', happroved, lineStep_of_written hdb hwritten.same happroved.inTransit_eq⟩

theorem approveLine_step (hdb : StoresOk db) (hline : db.lines.get? e.1 = some e.2)
    (h : approveLine dto transfer db e = .ok db') :
    ∃ line', LineApproved e.2 line' ∧ LineStep transfer e.1 e.2 line' db db' := by
  unfold approveLine at h
  simp only [bind_eq_ok] at h
  obtain ⟨-, -, -, -, h⟩ := h
  exact setLineApproval_step hdb hline h

theorem draftLine_step (hdb : StoresOk db) (hline : db.lines.get? e.1 = some e.2)
    (h : draftLine dto db e = .ok db') :
    ∃ line', LineApproved e.2 line' ∧ LineStep transfer e.1 e.2 line' db db' := by
  unfold draftLine at h
  simp only [bind_eq_ok] at h
  obtain ⟨-, -, h⟩ := h
  exact setLineApproval_step hdb hline h

/-! ## Dispatching a line -/

/-- What dispatching `x` of a line does to its quantities. -/
structure LineDispatched (line line' : StoreTransferLine) (x : Quantity) : Prop where
  same : SameLine line line'
  dispatched : line'.quantityDispatched = line.quantityDispatched + x
  received : line'.quantityReceived = line.quantityReceived
  shortage : line'.quantityShortage = line.quantityShortage

theorem LineDispatched.refl (line : StoreTransferLine) : LineDispatched line line 0 :=
  ⟨⟨rfl, rfl, rfl, rfl⟩, (add_zero _).symm, rfl, rfl⟩

theorem LineDispatched.inTransit_sub (h : LineDispatched line line' x) :
    line'.inTransit - line.inTransit = x := by
  unfold StoreTransferLine.inTransit
  rw [h.dispatched, h.received, h.shortage]
  abel

theorem Written.dispatched {approved : Option Quantity}
    (h : Written line line' approved (line.quantityDispatched + x)
      line.quantityReceived line.quantityShortage) : LineDispatched line line' x :=
  ⟨h.same, h.quantityDispatched, h.quantityReceived, h.quantityShortage⟩

theorem dispatchLine_step (hdb : StoresOk db) (hplaces : Places db transfer)
    (hline : db.lines.get? e.1 = some e.2)
    (hsound : 0 < remainingToDispatch e.2 → 0 < qtyToMove dto e →
      ¬ Numeric.IsTie 4 (qtyToMove dto e)) (h : dispatchLine dto transfer db e = .ok db') :
    ∃ line' x, LineDispatched e.2 line' x ∧ LineStep transfer e.1 e.2 line' db db' := by
  unfold dispatchLine at h
  dsimp only at h
  split at h
  · rw [pure_eq_ok] at h
    subst h
    exact ⟨e.2, 0, .refl e.2, lineStep_refl hdb hline⟩
  · rename_i hopen
    rw [not_or, not_le, not_le] at hopen
    have htie := hsound hopen.1 hopen.2
    simp only [bind_eq_ok, pure_eq_ok] at h
    obtain ⟨-, -, -, -, moved, hmove, marked, hmark, rfl⟩ := h
    have hstock := stockStep_dispatch hdb hplaces htie hmove
    obtain ⟨written, hwritten, rfl⟩ := markLineDispatched_ok (hstock.lines ▸ hline) htie hmark
    obtain ⟨line', hwritten', heq⟩ := setLineDispatchComment_eq hwritten
      ((stageInput dto e.1).bind (·.comment))
    rw [heq]
    have hdispatched := hwritten'.dispatched
    exact ⟨line', _, hdispatched, hstock.lineStep hdispatched.same hdispatched.inTransit_sub⟩

/-! ## Receiving a line -/

/-- What receiving `x` of a line does to its quantities: what is left of it is short. -/
structure LineReceived (line line' : StoreTransferLine) (x : Quantity) : Prop where
  same : SameLine line line'
  dispatched : line'.quantityDispatched = line.quantityDispatched
  received : line'.quantityReceived = line.quantityReceived + x
  shortage : line'.quantityShortage = line.quantityShortage + (remainingToReceive line - x)
  nonneg : 0 ≤ x
  remaining_pos : 0 < remainingToReceive line
  le_remaining : x ≤ remainingToReceive line
  pos_of_small : (remainingToReceive line - x).units = 1 → 0 < x

theorem LineReceived.inTransit_sub (h : LineReceived line line' x) :
    line'.inTransit - line.inTransit = -x + -(remainingToReceive line - x) := by
  unfold StoreTransferLine.inTransit
  rw [h.dispatched, h.received, h.shortage]
  abel

/-- Receiving a line that was not short before, or by no more than the tolerance. -/
theorem LineReceived.counted (h : LineReceived line line' x) (hline : ShortageCounted line)
    (hshort : line.quantityShortage.toRat ≤ qtyTolerance) : ShortageCounted line' := by
  obtain ⟨-, hr, hs, -, -, -⟩ := line.chk_transfer_line_qty
  have hwhole := hline.whole
  have hnonneg := h.nonneg
  have hremaining := h.remaining_pos
  have hle := h.le_remaining
  have hsmall := h.pos_of_small
  have hmarked := h.shortage
  simp only [remainingToReceive_eq, toRat_le_tolerance, Numeric.lt_iff_units, Numeric.le_iff_units,
    Numeric.ext_iff, Numeric.units_add, Numeric.units_sub, Numeric.units_zero]
    at hwhole hnonneg hremaining hle hsmall hshort hr hs hmarked
  refine ⟨?_, ?_⟩
  · simp only [toRat_le_tolerance, Numeric.ext_iff, Numeric.units_add, Numeric.units_zero,
      h.dispatched, h.received, hmarked]
    omega
  · simp only [toRat_le_tolerance, Numeric.lt_iff_units, Numeric.units_add, Numeric.units_zero,
      h.received]
    omega

/-- The condition on receiving a line: it is short by no more than the tolerance so far, the
quantity is no tie, and a shortage that is recorded is moved to quarantine. -/
structure LineSound (line : StoreTransferLine) (quantity : ℚ) : Prop where
  shortage_le : line.quantityShortage.toRat ≤ qtyTolerance
  not_tie : ¬ Numeric.IsTie 4 quantity
  moved : (remainingToReceive line).toRat - quantity ≤ qtyTolerance →
    (remainingToReceive line).toRat - quantity < qtyTolerance / 2

theorem LineSound.delta_not_tie (h : LineSound line quantity) :
    ¬ Numeric.IsTie 4 ((remainingToReceive line).toRat - quantity) := by
  rw [sub_eq_add_neg, Numeric.isTie_toRat_add_iff, Numeric.isTie_neg_iff]
  exact h.not_tie

theorem LineSound.ofRat_delta (h : LineSound line quantity) :
    (Numeric.ofRat ((remainingToReceive line).toRat - quantity) : Quantity) =
      remainingToReceive line - Numeric.ofRat quantity :=
  Numeric.ofRat_toRat_sub_of_not_tie h.not_tie

/-- What stays in transit by less than the tolerance is recorded as nothing. -/
theorem LineSound.ofRat_delta_nonpos (h : LineSound line quantity)
    (hle : (remainingToReceive line).toRat - quantity ≤ qtyTolerance) :
    remainingToReceive line - Numeric.ofRat quantity ≤ 0 := by
  rw [← h.ofRat_delta]
  have hlt := h.moved hle
  rcases le_or_gt 0 ((remainingToReceive line).toRat - quantity) with hpos | hneg
  · refine (Numeric.ofRat_eq_zero hpos ?_).le
    unfold qtyTolerance at hlt
    norm_num
    linarith
  · exact Numeric.ofRat_nonpos hneg.le

/-- A shortage of one unit that is moved leaves something received. -/
theorem ofRat_pos_of_moved (hpos : 0 < quantity)
    (hgt : qtyTolerance < (remainingToReceive line).toRat - quantity)
    (hunit : (remainingToReceive line - Numeric.ofRat quantity).units = 1) :
    0 < (Numeric.ofRat quantity : Quantity) := by
  have hnonneg : (0 : Quantity) ≤ Numeric.ofRat quantity := Numeric.ofRat_nonneg hpos.le
  refine lt_of_le_of_ne hnonneg fun hzero => ?_
  rw [← hzero, sub_zero] at hunit
  have htolerance : (remainingToReceive line).toRat ≤ qtyTolerance :=
    toRat_le_tolerance.mpr hunit.le
  linarith

/-- The shortage of a line goes to quarantine. -/
theorem quarantineShortage_step {env : TransferEnv} {delta : ℚ} (hdb : StoresOk db)
    (hplaces : Places db transfer) (htie : ¬ Numeric.IsTie 4 delta) (hgt : qtyTolerance < delta)
    (h : quarantineShortage env transfer db line delta = .ok db') :
    StockStep transfer line.productLotId (-Numeric.ofRat delta) db db' := by
  unfold quarantineShortage at h
  rw [if_neg (not_le.mpr hgt)] at h
  obtain ⟨code, hensured⟩ := ensureDamageStore_ensured hdb
  generalize ensureDamageStore db = out at h hensured
  obtain ⟨damageStoreId, ensured⟩ := out
  obtain ⟨heq, hok, hkept, row, hrow, -, htype⟩ := hensured
  dsimp only at heq hok hkept hrow h
  rw [bind_eq_ok] at h
  obtain ⟨moved, hmove, h⟩ := h
  have hsame : moved = db' := by
    split at h
    · rw [bind_eq_ok] at h
      obtain ⟨-, -, h⟩ := h
      exact pure_eq_ok.mp h
    · exact pure_eq_ok.mp h
  subst hsame
  have hne : damageStoreId ≠ transfer.transitStoreId := by
    obtain ⟨row', hrow', -, htype'⟩ := (hplaces.kept hkept).transit
    rintro rfl
    rw [hrow] at hrow'
    obtain rfl := Option.some.inj hrow'
    rw [htype] at htype'
    cases htype'
  have hfirst : StockStep transfer line.productLotId 0 db ensured :=
    { lines := by rw [heq]
      transfers := by rw [heq]
      kept := hkept
      ok := hok
      total := fun lot => by rw [heq]; rfl
      transit := fun lot => by rw [heq, ite_self, add_zero]; rfl }
  have hsecond := stockStep_leave hok ⟨row, hrow⟩ hne htie hmove
  have hboth := hfirst.trans hsecond
  rwa [zero_add] at hboth

theorem receiveLine_step {env : TransferEnv} (hdb : StoresOk db) (hplaces : Places db transfer)
    (hline : db.lines.get? e.1 = some e.2)
    (hsound : 0 < remainingToReceive e.2 → 0 < qtyToReceive dto e →
      LineSound e.2 (qtyToReceive dto e)) (h : receiveLine env dto transfer db e = .ok db') :
    ∃ line', LineStep transfer e.1 e.2 line' db db' ∧
      ((line' = e.2 ∧ (remainingToReceive e.2 ≤ 0 ∨ qtyToReceive dto e ≤ 0)) ∨
        (0 < qtyToReceive dto e ∧
          LineReceived e.2 line' (Numeric.ofRat (qtyToReceive dto e)))) := by
  unfold receiveLine at h
  dsimp only at h
  split at h
  · rename_i hskip
    rw [pure_eq_ok] at h
    subst h
    exact ⟨e.2, lineStep_refl hdb hline, .inl ⟨rfl, hskip⟩⟩
  · rename_i hopen
    rw [not_or, not_le, not_le] at hopen
    obtain ⟨hremaining, hpos⟩ := hopen
    have hsound := hsound hremaining hpos
    simp only [bind_eq_ok] at h
    obtain ⟨-, -, moved, hmove, quarantined, hquarantine, hmark⟩ := h
    obtain ⟨destination, hdestination, -⟩ := hplaces.destination
    have hfirst := stockStep_leave hdb ⟨destination, hdestination⟩ hplaces.destination_ne
      hsound.not_tie hmove
    -- the second move is made exactly when something is recorded as short
    have hstock : (remainingToReceive e.2 - Numeric.ofRat (qtyToReceive dto e) ≤ 0 ∧
          StockStep transfer e.2.productLotId (-Numeric.ofRat (qtyToReceive dto e)) db
            quarantined) ∨
        (qtyTolerance < (remainingToReceive e.2).toRat - qtyToReceive dto e ∧
          StockStep transfer e.2.productLotId (-Numeric.ofRat (qtyToReceive dto e) +
            -(remainingToReceive e.2 - Numeric.ofRat (qtyToReceive dto e))) db quarantined) := by
      rcases le_or_gt ((remainingToReceive e.2).toRat - qtyToReceive dto e) qtyTolerance with
        hle | hgt
      · unfold quarantineShortage at hquarantine
        rw [if_pos hle, pure_eq_ok] at hquarantine
        exact .inl ⟨hsound.ofRat_delta_nonpos hle, hquarantine ▸ hfirst⟩
      · have hsecond := quarantineShortage_step hfirst.ok (hplaces.kept hfirst.kept)
          hsound.delta_not_tie hgt hquarantine
        rw [hsound.ofRat_delta] at hsecond
        exact .inr ⟨hgt, hfirst.trans hsecond⟩
    have hlines : quarantined.lines = db.lines := by
      rcases hstock with ⟨-, hstock⟩ | ⟨-, hstock⟩ <;> exact hstock.lines
    obtain ⟨line', hwritten, rfl⟩ := markLineReceived_ok (hlines ▸ hline) hsound.not_tie
      hsound.delta_not_tie hmark
    have hreceived : LineReceived e.2 line' (Numeric.ofRat (qtyToReceive dto e)) :=
      { same := hwritten.same
        dispatched := hwritten.quantityDispatched
        received := hwritten.quantityReceived
        shortage := by rw [hwritten.quantityShortage, hsound.ofRat_delta]
        nonneg := Numeric.ofRat_nonneg hpos.le
        remaining_pos := hremaining
        le_remaining := by
          obtain ⟨-, -, -, -, -, hle⟩ := line'.chk_transfer_line_qty
          rw [hwritten.quantityReceived, hwritten.quantityDispatched] at hle
          rw [remainingToReceive_eq]
          exact le_sub_iff_add_le'.mpr hle
        pos_of_small := fun hunit => by
          rcases hstock with ⟨hnonpos, -⟩ | ⟨hgt, -⟩
          · rw [Numeric.le_iff_units, hunit] at hnonpos
            exact absurd hnonpos (by decide)
          · exact ofRat_pos_of_moved hpos hgt hunit }
    refine ⟨line', ?_, .inr ⟨hpos, hreceived⟩⟩
    rcases hstock with ⟨hnonpos, hstock⟩ | ⟨-, hstock⟩
    · refine hstock.lineStep hreceived.same ?_
      have hzero : remainingToReceive e.2 - Numeric.ofRat (qtyToReceive dto e) = 0 :=
        le_antisymm hnonpos (sub_nonneg.mpr hreceived.le_remaining)
      rw [hreceived.inTransit_sub, hzero, neg_zero, add_zero]
    · exact hstock.lineStep hreceived.same hreceived.inTransit_sub

end SmartErpPos.Transfers
