/-
  Transfers/Conservation.lean --- what a run of transfers keeps.

  No call creates or destroys stock, the store in transit holds what the lines have on their
  way, and a transfer is received when nothing is left on its way: in every run that
  dispatches and receives no ties, quarantines what it records as short, receives no line
  again that was short before, and leaves a line open as long as one of them is short.
-/
import SmartErpPos.Lib.Transition
import SmartErpPos.Transfers.Creation

set_option autoImplicit false

namespace SmartErpPos.Transfers

open SmartErpPos.Lib

/-! ## Runs -/

/-- A call of the transfer service. -/
inductive TransferCall where
  | create (env : TransferEnv) (dto : CreateStoreTransferDto)
  | saveDraft (env : TransferEnv) (transferId : TransferId) (dto : List TransferStageLineDto)
  | approve (env : TransferEnv) (transferId : TransferId) (dto : List TransferStageLineDto)
  | dispatch (env : TransferEnv) (transferId : TransferId) (dto : List TransferStageLineDto)
  | receive (env : TransferEnv) (transferId : TransferId) (dto : List TransferStageLineDto)
  | complete (env : TransferEnv) (transferId : TransferId) (dto : List TransferStageLineDto)
  | cancel (env : TransferEnv) (transferId : TransferId)

/-- What a call does. -/
def TransferCall.run (db : WarehouseDb) : TransferCall → Except TransferError WarehouseDb
  | .create env dto => createTransfer env db dto
  | .saveDraft env transferId dto => saveApprovalDraft env db transferId dto
  | .approve env transferId dto => approveTransfer env db transferId dto
  | .dispatch env transferId dto => dispatchTransfer env db transferId dto
  | .receive env transferId dto => receiveTransfer env db transferId dto
  | .complete env transferId dto => completeRequestTransfer env db transferId dto
  | .cancel env transferId => cancelTransfer env db transferId

/-- A successful call. -/
def TransferStep (db : WarehouseDb) (call : TransferCall) (db' : WarehouseDb) : Prop :=
  call.run db = .ok db'

/-- The condition on a step, in the state before it. -/
def Sound (db : WarehouseDb) : TransferCall → Prop
  | .dispatch _ transferId dto => DispatchSound db transferId dto
  | .receive _ transferId dto => ReceiveSound db transferId dto
  | .create _ _ | .saveDraft _ _ _ | .approve _ _ _ | .complete _ _ _ | .cancel _ _ => True

/-- A sound step keeps the books, the statuses and the totals. -/
theorem TransferStep.kept {db db' : WarehouseDb} {call : TransferCall} (hdb : Sane db)
    (hsound : Sound db call) (h : TransferStep db call db') : Kept db db' := by
  cases call with
  | create env dto => exact createTransfer_kept hdb h
  | saveDraft env transferId dto => exact saveApprovalDraft_kept hdb h
  | approve env transferId dto => exact approveTransfer_kept hdb h
  | dispatch env transferId dto => exact (dispatchTransfer_kept hdb hsound h).1
  | receive env transferId dto => exact receiveTransfer_kept hdb hsound h
  | complete env transferId dto => exact completeRequestTransfer_kept hdb h
  | cancel env transferId => exact cancelTransfer_kept hdb h

/-- Stores and balances before the first transfer: nothing is in transit. -/
structure NoTransfers (db : WarehouseDb) : Prop where
  transfers : db.transfers = OrderedMap.empty
  lines : db.lines = OrderedMap.empty
  stores : StoresOk db
  transit : ∀ id row, db.stores.get? id = some row → row.code = transitCode →
    ∀ lot, onHandAt db id lot = 0

theorem NoTransfers.sane {db : WarehouseDb} (h : NoTransfers db) : Sane db := by
  have hnone : ∀ id t, db.transfers.get? id ≠ some t := by
    intro id t ht
    rw [h.transfers] at ht
    cases ht
  have hnone' : ∀ id line, db.lines.get? id ≠ some line := by
    intro id line hline
    rw [h.lines] at hline
    cases hline
  exact
    { books :=
        { stores := h.stores
          transferIds := fun id t ht => absurd ht (hnone id t)
          lineIds := fun id line hline => absurd hline (hnone' id line)
          lineTransfer := fun id line hline => absurd hline (hnone' id line)
          places := fun id t ht => absurd ht (hnone id t)
          transit := fun id row hrow hcode lot => by
            rw [h.transit id row hrow hcode, inTransitTotal, h.lines]
            rfl
          counted := fun id line hline => absurd hline (hnone' id line) }
      statuses := fun id t ht => absurd ht (hnone id t) }

/-- The order of the quantities of a line, up to the tolerance. -/
structure LineInOrder (line : StoreTransferLine) : Prop where
  accounted : line.quantityReceived.toRat + line.quantityShortage.toRat ≤
    line.quantityDispatched.toRat + qtyTolerance
  dispatched : line.quantityDispatched ≤ effectiveApprovedQty line
  approved : effectiveApprovedQty line ≤ line.quantity

theorem ShortageCounted.inOrder {line : StoreTransferLine} (h : ShortageCounted line) :
    LineInOrder line := by
  obtain ⟨-, -, -, happroved, hdispatched, hreceived⟩ := line.chk_transfer_line_qty
  have htolerance : 0 ≤ qtyTolerance := by norm_num [qtyTolerance]
  refine ⟨?_, hdispatched, ?_⟩
  · rw [← Numeric.toRat_add]
    rcases h.whole with hnone | hwhole | ⟨hall, hsmall⟩
    · have hle := Numeric.toRat_nonneg_iff.mpr (sub_nonneg.mpr hreceived)
      rw [Numeric.toRat_sub] at hle
      rw [hnone, add_zero]
      linarith
    · rw [hwhole]
      linarith
    · rw [hall, Numeric.toRat_add]
      linarith
  · unfold effectiveApprovedQty
    cases hvalue : line.quantityApproved with
    | none => exact le_rfl
    | some a => exact (happroved a hvalue).2

/-- What a run keeps. -/
structure StockConserved (before after : WarehouseDb) : Prop where
  total : ∀ lot, totalOnHand after lot = totalOnHand before lot
  lines : ∀ id line, after.lines.get? id = some line → LineInOrder line
  transit : ∀ id row, after.stores.get? id = some row → row.code = transitCode →
    ∀ lot, onHandAt after id lot = inTransitTotal after lot
  received : ∀ id t, after.transfers.get? id = some t →
    (t.status = .RECEIVED ↔ AccountedFor ((linesOf after id).map (·.2)))

/-- In a run whose dispatches and receipts are sound, transfers conserve stock and respect the
quantities of their lines. -/
theorem stock_conserved {db db' : WarehouseDb} {steps : List (WarehouseDb × TransferCall × WarehouseDb)}
    (hdb : NoTransfers db) (hrun : Run TransferStep db steps db')
    (hsound : ∀ t ∈ steps, Sound t.1 t.2.1) : StockConserved db db' := by
  have hkept : Kept db db' := hrun.ends (P := Kept db) (K := Sound)
    (fun s call s' hs hstep hsound => hs.trans (TransferStep.kept hs.sane hsound hstep))
    hsound ⟨hdb.sane, fun _ => rfl⟩
  exact
    { total := hkept.total
      lines := fun id line hline => (hkept.sane.books.counted id line hline).inOrder
      transit := hkept.sane.books.transit
      received := fun id t ht => (hkept.sane.statuses id t ht).received }

/-! ## Two runs -/

/-- Thirty units of a lot in the main store, and none on the way. -/
def warehouse : WarehouseDb where
  stores := (((OrderedMap.empty.set 1 ⟨"MAIN", "Main Warehouse", .MAIN, true, true, false⟩).set 2
    ⟨"TRANSIT", "In Transit", .TRANSIT, true, false, false⟩).set 3
    ⟨"SELLING", "Selling Floor", .SELLING, true, false, true⟩)
  lots := OrderedMap.empty.set 1 ⟨1, "L1", none⟩
  balances := OrderedMap.empty.set (1, 1) ⟨1, ⟨300000⟩, 0, 0, 0, 0⟩
  transfers := OrderedMap.empty
  lines := OrderedMap.empty
  nextId := 10

/-- A clerk who may request, under no thresholds. -/
def clerk (transferNumber : String) : TransferEnv where
  multistoreEnabled := true
  permissions := [TransferPermission.REQUEST]
  policy := ⟨false, false, none, none, false⟩
  averageCost _ := 1
  transferNumber := transferNumber
  assortmentError _ _ _ := none
  lotStatusError _ _ := none
  layerError _ _ := none

/-- The state after a call. -/
def afterCall (db : WarehouseDb) (call : TransferCall) : WarehouseDb := settled (call.run db) db

theorem afterCall_step (db : WarehouseDb) (call : TransferCall)
    (h : (call.run db).toBool = true) : TransferStep db call (afterCall db call) :=
  eq_ok_settled h db

def requestOf (transferNumber : String) (quantities : List ℚ) : TransferCall :=
  .create (clerk transferNumber) ⟨none, none, quantities.map fun q => ⟨1, q⟩, none, none⟩

theorem warehouse_noTransfers : NoTransfers warehouse := by
  have hstores : ∀ e ∈ warehouse.stores.entries, e.1 < warehouse.nextId ∧
      (e.2.code = transitCode → e.1 = 2) := by decide +kernel
  have hcodes : ∀ e ∈ warehouse.stores.entries, ∀ e' ∈ warehouse.stores.entries,
      e.2.code = e'.2.code → e.1 = e'.1 := by decide +kernel
  have hbalances : ∀ e ∈ warehouse.balances.entries, e.1.1 = 1 := by decide +kernel
  exact
    { transfers := rfl
      lines := rfl
      stores :=
        { ids := fun id row hrow => (hstores _ (OrderedMap.get?_eq_some_iff.mp hrow)).1
          codes := fun id id' row row' hrow hrow' => hcodes _ (OrderedMap.get?_eq_some_iff.mp hrow) _
            (OrderedMap.get?_eq_some_iff.mp hrow')
          balances := fun key row hrow => by
            rw [hbalances _ (OrderedMap.get?_eq_some_iff.mp hrow)]
            exact ⟨_, rfl⟩ }
      transit := fun id row hrow hcode lot => by
        obtain rfl : id = 2 := (hstores _ (OrderedMap.get?_eq_some_iff.mp hrow)).2 hcode
        refine OrderedMap.valueAt_of_get?_none ?_
        rcases Option.eq_none_or_eq_some (warehouse.balances.get? (2, lot)) with hnone | ⟨b, hb⟩
        · exact hnone
        · exact absurd (hbalances _ (OrderedMap.get?_eq_some_iff.mp hb)) (show (2 : ℕ) ≠ 1 by decide) }

/-- One transfer with two lines of 10 and 5, dispatched. -/
def twoLines : WarehouseDb :=
  afterCall (afterCall (afterCall warehouse (requestOf "T1" [10, 5])) (.approve (clerk "") 10 []))
    (.dispatch (clerk "") 10 [])

/-- Seven of the first line are received; the second is left out. -/
def sevenOfTen : List TransferStageLineDto := [⟨11, 7, none⟩, ⟨12, 0, none⟩]

theorem sevenOfTen_sound : ReceiveSound twoLines 10 sevenOfTen := by
  have hlines : (linesOf twoLines 10).map (fun e => (qtyToReceive sevenOfTen e,
      remainingToReceive e.2, e.2.quantityShortage, e.2.inTransit)) =
      [(7, ⟨100000⟩, 0, ⟨100000⟩), (0, ⟨50000⟩, 0, ⟨50000⟩)] := by decide +kernel
  have hseven : ((⟨70000⟩ : Quantity).toRat) = 7 := by norm_num [Numeric.toRat]
  have hten : ((⟨100000⟩ : Quantity).toRat) = 10 := by norm_num [Numeric.toRat]
  have hfive : ((⟨50000⟩ : Quantity).toRat) = 5 := by norm_num [Numeric.toRat]
  refine ⟨fun e he _ hpos => ?_, fun _ => ?_⟩
  · have hmem := List.mem_map_of_mem (f := fun e => (qtyToReceive sevenOfTen e,
      remainingToReceive e.2, e.2.quantityShortage, e.2.inTransit)) he
    rw [hlines] at hmem
    simp only [List.mem_cons, List.not_mem_nil, or_false, Prod.mk.injEq] at hmem
    rcases hmem with ⟨hq, hr, hs, -⟩ | ⟨hq, -, -, -⟩
    · refine ⟨?_, ?_, fun hle => ?_⟩
      · rw [hs, Numeric.toRat_zero]
        norm_num [qtyTolerance]
      · rw [hq, ← hseven]
        exact Numeric.not_isTie_toRat _
      · rw [hq, hr, hten] at hle
        norm_num [qtyTolerance] at hle
    · rw [hq] at hpos
      exact absurd hpos (lt_irrefl _)
  · have hmem : ((0 : ℚ), (⟨50000⟩ : Quantity), (0 : Quantity), (⟨50000⟩ : Quantity)) ∈
        (linesOf twoLines 10).map (fun e => (qtyToReceive sevenOfTen e,
          remainingToReceive e.2, e.2.quantityShortage, e.2.inTransit)) := by
      rw [hlines]
      exact List.mem_cons_of_mem _ List.mem_cons_self
    obtain ⟨e, he, heq⟩ := List.mem_map.mp hmem
    simp only [Prod.mk.injEq] at heq
    obtain ⟨hq, -, -, hopen⟩ := heq
    refine ⟨e, he, hq.le, ?_⟩
    rw [hopen, hfive]
    norm_num [qtyTolerance]

/-- Seven of ten received, three in quarantine, and five still on their way. -/
theorem stock_conserved_sevenOfTen :
    StockConserved warehouse (afterCall twoLines (.receive (clerk "") 10 sevenOfTen)) := by
  have hdispatch : DispatchSound
      (afterCall (afterCall warehouse (requestOf "T1" [10, 5])) (.approve (clerk "") 10 [])) 10 [] :=
    fun e _ _ _ => Numeric.not_isTie_toRat (remainingToDispatch e.2)
  refine stock_conserved warehouse_noTransfers
    (.cons (afterCall_step _ (requestOf "T1" [10, 5]) (by decide +kernel))
      (.cons (afterCall_step _ (.approve (clerk "") 10 []) (by decide +kernel))
        (.cons (afterCall_step _ (.dispatch (clerk "") 10 []) (by decide +kernel))
          (.cons (afterCall_step _ (.receive (clerk "") 10 sevenOfTen) (by decide +kernel))
            (.nil _))))) ?_
  simp only [List.forall_mem_cons]
  exact ⟨trivial, trivial, hdispatch, sevenOfTen_sound, List.forall_mem_nil _⟩

/-- Two transfers of ten units of one lot, both dispatched. -/
def twoTransfers : WarehouseDb :=
  [requestOf "T1" [10], requestOf "T2" [10], .approve (clerk "") 10 [], .approve (clerk "") 12 [],
    .dispatch (clerk "") 10 [], .dispatch (clerk "") 12 []].foldl afterCall warehouse

/-- Seven units of the first transfer arrive; three go to quarantine. -/
def shortOnce : WarehouseDb := afterCall twoTransfers (.receive (clerk "") 10 [⟨11, 7, none⟩])

/-- The first transfer is received once more. -/
def shortTwice : WarehouseDb := afterCall shortOnce (.receive (clerk "") 10 [])

/-- What is dispatched, received and short on the lines of a transfer, in ten-thousandths. -/
def countsOf (db : WarehouseDb) (transferId : TransferId) : List (ℤ × ℤ × ℤ) :=
  (linesOf db transferId).map fun e =>
    (e.2.quantityDispatched.units, e.2.quantityReceived.units, e.2.quantityShortage.units)

theorem run_twoTransfers {db : WarehouseDb} {steps : List (WarehouseDb × TransferCall × WarehouseDb)}
    (h : Run TransferStep twoTransfers steps db) : ∃ steps, Run TransferStep warehouse steps db :=
  ⟨_, .cons (afterCall_step _ (requestOf "T1" [10]) (by decide +kernel))
    (.cons (afterCall_step _ (requestOf "T2" [10]) (by decide +kernel))
      (.cons (afterCall_step _ (.approve (clerk "") 10 []) (by decide +kernel))
        (.cons (afterCall_step _ (.approve (clerk "") 12 []) (by decide +kernel))
          (.cons (afterCall_step _ (.dispatch (clerk "") 10 []) (by decide +kernel))
            (.cons (afterCall_step _ (.dispatch (clerk "") 12 []) (by decide +kernel)) h)))))⟩

/-- A transfer all of whose ten units are received or short is not RECEIVED; received again, its
line counts thirteen, and the store in transit holds seven of the ten units of the other. -/
theorem shortage_received_again :
    NoTransfers warehouse ∧ (∃ steps, Run TransferStep warehouse steps shortOnce) ∧
    countsOf shortOnce 10 = [(100000, 70000, 30000)] ∧
    (shortOnce.transfers.get? 10).map (·.status) = some .PARTIALLY_RECEIVED ∧
    (∃ steps, Run TransferStep warehouse steps shortTwice) ∧
    countsOf shortTwice 10 = [(100000, 100000, 30000)] ∧
    countsOf shortTwice 12 = [(100000, 0, 0)] ∧ onHandAt shortTwice 2 1 = ⟨70000⟩ ∧
    ¬ StockConserved warehouse shortOnce ∧ ¬ StockConserved warehouse shortTwice := by
  have hfirst : TransferStep twoTransfers (.receive (clerk "") 10 [⟨11, 7, none⟩]) shortOnce :=
    afterCall_step _ _ (by decide +kernel)
  have hsecond : TransferStep shortOnce (.receive (clerk "") 10 []) shortTwice :=
    afterCall_step _ _ (by decide +kernel)
  refine ⟨warehouse_noTransfers, run_twoTransfers (.cons hfirst (.nil _)), by decide +kernel,
    by decide +kernel, run_twoTransfers (.cons hfirst (.cons hsecond (.nil _))), by decide +kernel,
    by decide +kernel, by decide +kernel, fun h => ?_, fun h => ?_⟩
  · have hstatus : ∀ t ∈ shortOnce.transfers.get? 10, t.status ≠ .RECEIVED ∧
        AccountedFor ((linesOf shortOnce 10).map (·.2)) := by decide +kernel
    obtain ⟨t, ht⟩ : ∃ t, shortOnce.transfers.get? 10 = some t :=
      Option.isSome_iff_exists.mp (by decide +kernel)
    obtain ⟨hne, haccounted⟩ := hstatus t ht
    exact hne ((h.received 10 t ht).mpr haccounted)
  · have hcounts : ∀ line ∈ shortTwice.lines.get? 11, ¬ (line.quantityReceived.toRat +
        line.quantityShortage.toRat ≤ line.quantityDispatched.toRat + qtyTolerance) := by
      decide +kernel
    obtain ⟨line, hline⟩ : ∃ line, shortTwice.lines.get? 11 = some line :=
      Option.isSome_iff_exists.mp (by decide +kernel)
    exact hcounts line hline (h.lines 11 line hline).accounted

end SmartErpPos.Transfers
