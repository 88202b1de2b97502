/-
  Transfers/Stages.lean --- approving, dispatching, receiving and completing a transfer.

  Between calls the books are right and the status of a transfer says how far its lines are.
  Every stage keeps both and the total of each lot.  A dispatch has to move no ties; a receipt
  has to be sound line by line, and to leave a line open as long as one of them is short.
-/
import SmartErpPos.Transfers.LineSteps

set_option autoImplicit false

namespace SmartErpPos.Transfers

open SmartErpPos.Lib

/-! ## Statuses -/

/-- Every dispatched unit is received or short: something is, and of no line more than the
tolerance is left. -/
def AccountedFor (lines : List StoreTransferLine) : Prop :=
  (∃ l ∈ lines, 0 < l.quantityReceived ∨ 0 < l.quantityShortage) ∧
    ∀ l ∈ lines, l.inTransit.toRat ≤ qtyTolerance

instance (lines : List StoreTransferLine) : Decidable (AccountedFor lines) :=
  inferInstanceAs (Decidable ((∃ l ∈ lines, 0 < l.quantityReceived ∨ 0 < l.quantityShortage) ∧
    ∀ l ∈ lines, l.inTransit.toRat ≤ qtyTolerance))

/-- The statuses in which nothing is received yet. -/
def beforeReceipt : List StoreTransferStatus :=
  [.DRAFT, .APPROVED, .PARTIALLY_APPROVED, .PARTIALLY_DISPATCHED, .CANCELLED]

/-- Nothing of a line is received or short. -/
def Unreceived (line : StoreTransferLine) : Prop :=
  line.quantityReceived = 0 ∧ line.quantityShortage = 0

/-- The status of a transfer says how far its lines are. -/
structure StatusOk (status : StoreTransferStatus) (lines : List StoreTransferLine) : Prop where
  unreceived : status ∈ beforeReceipt → ∀ l ∈ lines, Unreceived l
  received : status = .RECEIVED ↔ AccountedFor lines

variable {status : StoreTransferStatus} {lines : List StoreTransferLine} {db db' : WarehouseDb}
  {transferId : TransferId} {env : TransferEnv} {dto : List TransferStageLineDto}

theorem StatusOk.congr {lines' : List StoreTransferLine} (h : StatusOk status lines)
    (hmem : ∀ l, l ∈ lines' ↔ l ∈ lines) : StatusOk status lines' where
  unreceived hstatus l hl := h.unreceived hstatus l ((hmem l).mp hl)
  received := by
    rw [h.received]
    unfold AccountedFor
    simp only [hmem]

theorem StatusOk.of_unreceived (hlines : ∀ l ∈ lines, Unreceived l) (hstatus : status ≠ .RECEIVED) :
    StatusOk status lines where
  unreceived _ := hlines
  received := by
    refine iff_of_false hstatus fun ⟨⟨l, hl, hpos⟩, _⟩ => ?_
    obtain ⟨hr, hs⟩ := hlines l hl
    rw [hr, hs] at hpos
    exact hpos.elim (lt_irrefl _) (lt_irrefl _)

theorem deriveStatusAfterApproval_ne (lines : List StoreTransferLine) :
    deriveStatusAfterApproval lines ≠ .RECEIVED := by
  unfold deriveStatusAfterApproval
  split
  · exact (nomatch ·)
  · split
    · exact (nomatch ·)
    · split <;> exact (nomatch ·)

theorem deriveStatusAfterDispatch_ne (lines : List StoreTransferLine) :
    deriveStatusAfterDispatch lines ≠ .RECEIVED := by
  unfold deriveStatusAfterDispatch
  split
  · exact (nomatch ·)
  · split <;> exact (nomatch ·)

theorem deriveStatusAfterReceive_eq_received :
    deriveStatusAfterReceive lines = .RECEIVED ↔
      (∃ l ∈ lines, 0 < l.quantityReceived) ∧
        ∀ l ∈ lines, (remainingToReceive l).toRat ≤ qtyTolerance := by
  unfold deriveStatusAfterReceive
  split
  · rename_i hnone
    exact iff_of_false (nomatch ·) fun h => hnone h.1
  · rename_i hsome
    rw [not_not] at hsome
    split
    · rename_i hall
      exact iff_of_true rfl ⟨hsome, hall⟩
    · rename_i hnot
      exact iff_of_false (nomatch ·) fun h => hnot h.2

theorem deriveStatusAfterReceive_notMem (lines : List StoreTransferLine) :
    deriveStatusAfterReceive lines ∉ beforeReceipt := by
  unfold deriveStatusAfterReceive
  split
  · decide
  · split <;> decide

/-- What is left to receive is on its way or short. -/
theorem inTransit_eq_remaining_sub (line : StoreTransferLine) :
    line.inTransit = remainingToReceive line - line.quantityShortage := by
  rw [remainingToReceive_eq]
  rfl

theorem shortage_nonneg (line : StoreTransferLine) : 0 ≤ line.quantityShortage :=
  line.chk_transfer_line_qty.2.2.1

/-- The status after a receipt, when a transfer with a short line has an open one. -/
theorem statusOk_received (hcounted : ∀ l ∈ lines, ShortageCounted l)
    (hopen : (∃ l ∈ lines, qtyTolerance < l.quantityShortage.toRat) →
      ∃ l ∈ lines, qtyTolerance < l.inTransit.toRat) :
    StatusOk (deriveStatusAfterReceive lines) lines where
  unreceived h := absurd h (deriveStatusAfterReceive_notMem lines)
  received := by
    rw [deriveStatusAfterReceive_eq_received]
    constructor
    · rintro ⟨⟨l, hl, hpos⟩, hall⟩
      refine ⟨⟨l, hl, .inl hpos⟩, fun l hl => ?_⟩
      have hle := hall l hl
      have hs := Numeric.toRat_nonneg_iff.mpr (shortage_nonneg l)
      rw [inTransit_eq_remaining_sub, Numeric.toRat_sub]
      linarith
    · rintro ⟨⟨l, hl, hsome⟩, hall⟩
      have hshort : ∀ l ∈ lines, l.quantityShortage.toRat ≤ qtyTolerance := by
        by_contra hnot
        push Not at hnot
        obtain ⟨l, hl, hlt⟩ := hopen hnot
        exact absurd (hall l hl) (not_le.mpr hlt)
      refine ⟨⟨l, hl, hsome.elim id fun hs => (hcounted l hl).small hs (hshort l hl)⟩, ?_⟩
      intro l hl
      have hleft := hall l hl
      have hs := hshort l hl
      have hwhole := (hcounted l hl).whole
      rw [inTransit_eq_remaining_sub, remainingToReceive_eq] at hleft
      rw [remainingToReceive_eq]
      simp only [toRat_le_tolerance, Numeric.ext_iff, Numeric.units_add, Numeric.units_sub,
        Numeric.units_zero] at hleft hs hwhole ⊢
      omega

/-! ## The state between calls -/

/-- The books, and the statuses of all transfers but one. -/
structure SaneBut (transferId : TransferId) (db : WarehouseDb) : Prop where
  books : Books db
  statuses : ∀ id t, id ≠ transferId → db.transfers.get? id = some t →
    StatusOk t.status ((linesOf db id).map (·.2))

/-- The books and the statuses. -/
structure Sane (db : WarehouseDb) : Prop where
  books : Books db
  statuses : ∀ id t, db.transfers.get? id = some t →
    StatusOk t.status ((linesOf db id).map (·.2))

theorem Sane.but (h : Sane db) (transferId : TransferId) : SaneBut transferId db where
  books := h.books
  statuses id t _ ht := h.statuses id t ht

theorem updateStatus_get? {id : TransferId} {t' : StoreTransfer}
    (h : (updateStatus db transferId status).transfers.get? id = some t') :
    ∃ t, db.transfers.get? id = some t ∧
      t' = if id = transferId then { t with status := status } else t := by
  unfold updateStatus at h
  dsimp only at h
  rw [OrderedMap.get?_modify] at h
  split at h
  · obtain ⟨t, ht, rfl⟩ := Option.map_eq_some_iff.mp h
    exact ⟨t, ht, (if_pos ‹_›).symm⟩
  · exact ⟨t', h, (if_neg ‹_›).symm⟩

theorem Books.updateStatus (h : Books db) (transferId : TransferId) (status : StoreTransferStatus) :
    Books (updateStatus db transferId status) where
  stores := ⟨h.stores.ids, h.stores.codes, h.stores.balances⟩
  transferIds id t' ht := by
    obtain ⟨t, ht, -⟩ := updateStatus_get? ht
    exact h.transferIds id t ht
  lineIds := h.lineIds
  lineTransfer id line hline := by
    obtain ⟨t, ht⟩ := h.lineTransfer id line hline
    refine ⟨if line.storeTransferId = transferId then { t with status := status } else t, ?_⟩
    show (db.transfers.modify transferId _).get? _ = _
    rw [OrderedMap.get?_modify, ht]
    split <;> rfl
  places id t' ht := by
    obtain ⟨t, hold, rfl⟩ := updateStatus_get? ht
    have hplaces := h.places id t hold
    split
    · exact ⟨hplaces.transit, hplaces.source, hplaces.destination⟩
    · exact ⟨hplaces.transit, hplaces.source, hplaces.destination⟩
  transit := h.transit
  counted := h.counted

theorem SaneBut.updateStatus (h : SaneBut transferId db) (status : StoreTransferStatus) :
    SaneBut transferId (updateStatus db transferId status) where
  books := h.books.updateStatus transferId status
  statuses id t' hne ht := by
    obtain ⟨t, hold, rfl⟩ := updateStatus_get? ht
    rw [if_neg hne]
    exact h.statuses id t hne hold

/-- The status of the transfer that is left out is written. -/
theorem SaneBut.sane (h : SaneBut transferId db)
    (hstatus : StatusOk status ((linesOf db transferId).map (·.2))) :
    Sane (Transfers.updateStatus db transferId status) where
  books := h.books.updateStatus transferId status
  statuses id t' ht := by
    obtain ⟨t, hold, rfl⟩ := updateStatus_get? ht
    by_cases hid : id = transferId
    · rw [if_pos hid, hid]
      exact hstatus
    · rw [if_neg hid]
      exact h.statuses id t hid hold

/-! ## A pass over the lines of a transfer -/

/-- What a pass over the lines of a transfer does. -/
structure Passed (transferId : TransferId) (R : LineId × StoreTransferLine → StoreTransferLine → Prop)
    (db db' : WarehouseDb) : Prop where
  books : Books db'
  transfers : db'.transfers = db.transfers
  total : ∀ lot, totalOnHand db' lot = totalOnHand db lot
  each : ∀ e ∈ linesOf db transferId, ∃ line', R e line' ∧ (e.1, line') ∈ linesOf db' transferId
  back : ∀ e' ∈ linesOf db' transferId,
    ∃ line, (e'.1, line) ∈ linesOf db transferId ∧ R (e'.1, line) e'.2
  others : ∀ id, id ≠ transferId → ∀ e, e ∈ linesOf db' id ↔ e ∈ linesOf db id

/-- A pass whose steps are line steps. -/
theorem passed_of_foldlM {transfer : StoreTransfer}
    {step : WarehouseDb → LineId × StoreTransferLine → Except TransferError WarehouseDb}
    {R : LineId × StoreTransferLine → StoreTransferLine → Prop}
    (hstep : ∀ mid, ∀ e ∈ linesOf db transferId, ∀ mid', Books mid → Places mid transfer →
      mid.lines.get? e.1 = some e.2 → step mid e = .ok mid' →
      ∃ line', R e line' ∧ LineStep transfer e.1 e.2 line' mid mid' ∧ ShortageCounted line')
    (hdb : Books db) (hplaces : Places db transfer)
    (h : (linesOf db transferId).foldlM step db = .ok db') : Passed transferId R db db' := by
  have hpass := foldlM_rows WarehouseDb.lines
    (P := fun mid => Books mid ∧ Places mid transfer ∧ mid.transfers = db.transfers ∧
      ∀ lot, totalOnHand mid lot = totalOnHand db lot)
    (R := fun e line' => R e line' ∧ SameLine e.2 line')
    (fun mid e he mid' ⟨hbooks, hplaces, htransfers, htotal⟩ hline hok => by
      obtain ⟨line', hR, hline', hcounted⟩ := hstep mid e he mid' hbooks hplaces hline hok
      refine ⟨⟨hline'.books hbooks hplaces hline hcounted, hplaces.kept hline'.kept,
        hline'.transfers.trans htransfers, fun lot => (hline'.total lot).trans (htotal lot)⟩, ?_⟩
      exact ⟨line', ⟨hR, hline'.same⟩, hline'.lines⟩)
    (linesOf_nodup db transferId) (fun e he => (mem_linesOf.mp he).1)
    ⟨hdb, hplaces, rfl, fun _ => rfl⟩ h
  obtain ⟨⟨hbooks, -, htransfers, htotal⟩, hdone, hothers⟩ := hpass
  have hmoved : ∀ e ∈ linesOf db transferId, ∀ line', db'.lines.get? e.1 = some line' →
      R e line' ∧ line'.storeTransferId = transferId := by
    intro e he line' hline'
    obtain ⟨v, ⟨hR, hsame⟩, hget⟩ := hdone e he
    obtain rfl := Option.some.inj (hget.symm.trans hline')
    exact ⟨hR, hsame.storeTransferId.trans (mem_linesOf.mp he).2⟩
  refine ⟨hbooks, htransfers, htotal, fun e he => ?_, fun e' he' => ?_, fun id hid e => ?_⟩
  · obtain ⟨line', ⟨hR, hsame⟩, hget⟩ := hdone e he
    exact ⟨line', hR, mem_linesOf.mpr ⟨hget, hsame.storeTransferId.trans (mem_linesOf.mp he).2⟩⟩
  · obtain ⟨hget, hid⟩ := mem_linesOf.mp he'
    by_cases hkey : e'.1 ∈ (linesOf db transferId).map (·.1)
    · obtain ⟨e, he, heq⟩ := List.mem_map.mp hkey
      refine ⟨e.2, heq ▸ he, ?_⟩
      have hR := (hmoved e he e'.2 (heq ▸ hget)).1
      rwa [← heq]
    · refine absurd (List.mem_map.mpr ⟨e', mem_linesOf.mpr ⟨?_, hid⟩, rfl⟩) hkey
      exact (hothers e'.1 hkey).symm.trans hget
  · by_cases hkey : e.1 ∈ (linesOf db transferId).map (·.1)
    · obtain ⟨x, hx, heq⟩ := List.mem_map.mp hkey
      refine iff_of_false (fun he => ?_) fun he => ?_
      · obtain ⟨hget, hid'⟩ := mem_linesOf.mp he
        exact hid (hid'.symm.trans (hmoved x hx e.2 (heq ▸ hget)).2)
      · obtain ⟨hget, hid'⟩ := mem_linesOf.mp he
        obtain ⟨hgetx, hidx⟩ := mem_linesOf.mp hx
        have hsame : e.2 = x.2 := Option.some.inj (hget.symm.trans (heq ▸ hgetx))
        exact hid (hid'.symm.trans (hsame ▸ hidx))
    · rw [mem_linesOf, mem_linesOf, hothers e.1 hkey]

/-- A pass keeps the statuses of the other transfers. -/
theorem Passed.saneBut {R : LineId × StoreTransferLine → StoreTransferLine → Prop}
    (h : Passed transferId R db db') (hdb : SaneBut transferId db) : SaneBut transferId db' where
  books := h.books
  statuses id t hne ht := by
    rw [h.transfers] at ht
    refine (hdb.statuses id t hne ht).congr fun l => ?_
    simp only [List.mem_map, h.others id hne]

/-- What holds of every line after a pass. -/
theorem Passed.forall_lines {R : LineId × StoreTransferLine → StoreTransferLine → Prop}
    (h : Passed transferId R db db') {Q : StoreTransferLine → Prop}
    (hQ : ∀ e ∈ linesOf db transferId, ∀ line', R e line' → Q line') :
    ∀ l ∈ (linesOf db' transferId).map (·.2), Q l := by
  intro l hl
  obtain ⟨e', he', rfl⟩ := List.mem_map.mp hl
  obtain ⟨line, hline, hR⟩ := h.back e' he'
  exact hQ (e'.1, line) hline e'.2 hR

/-! ## Approving -/

theorem requireTransfer_ok {allowed : List StoreTransferStatus} {verb : String} {t : StoreTransfer}
    (h : requireTransfer db transferId allowed verb = .ok t) :
    db.transfers.get? transferId = some t ∧ t.status ∈ allowed := by
  unfold requireTransfer at h
  simp only [bind_eq_ok, orThrow_eq_ok, require_eq_ok, pure_eq_ok] at h
  obtain ⟨t', ht, -, hallowed, rfl⟩ := h
  exact ⟨ht, hallowed⟩

/-- A pass that approves lines. -/
theorem approvalPass {transfer : StoreTransfer}
    {step : WarehouseDb → LineId × StoreTransferLine → Except TransferError WarehouseDb}
    (hdb : Books db) (ht : db.transfers.get? transferId = some transfer)
    (hstep : ∀ mid e mid', StoresOk mid → mid.lines.get? e.1 = some e.2 → step mid e = .ok mid' →
      ∃ line', LineApproved e.2 line' ∧ LineStep transfer e.1 e.2 line' mid mid')
    (h : (linesOf db transferId).foldlM step db = .ok db') :
    Passed transferId (fun e line' => LineApproved e.2 line') db db' :=
  passed_of_foldlM (fun mid e _ mid' hbooks _ hline hok => by
    obtain ⟨line', happroved, hstep'⟩ := hstep mid e mid' hbooks.stores hline hok
    exact ⟨line', happroved, hstep', happroved.counted (hbooks.counted e.1 e.2 hline)⟩)
    hdb (hdb.places transferId transfer ht) h

theorem LineApproved.unreceived {line line' : StoreTransferLine} (h : LineApproved line line')
    (hline : Unreceived line) : Unreceived line' :=
  ⟨h.received.trans hline.1, h.shortage.trans hline.2⟩

/-- What a successful call keeps. -/
structure Kept (db db' : WarehouseDb) : Prop where
  sane : Sane db'
  total : ∀ lot, totalOnHand db' lot = totalOnHand db lot

theorem Kept.trans {db'' : WarehouseDb} (h : Kept db db') (h' : Kept db' db'') : Kept db db'' :=
  ⟨h'.sane, fun lot => (h'.total lot).trans (h.total lot)⟩

/-- The lines of a transfer whose status comes before any receipt. -/
theorem Sane.unreceived (hdb : Sane db) {t : StoreTransfer}
    (ht : db.transfers.get? transferId = some t) (hstatus : t.status ∈ beforeReceipt)
    {e : LineId × StoreTransferLine} (he : e ∈ linesOf db transferId) : Unreceived e.2 :=
  (hdb.statuses transferId t ht).unreceived hstatus e.2 (List.mem_map.mpr ⟨e, he, rfl⟩)

theorem approveTransfer_kept (hdb : Sane db) (h : approveTransfer env db transferId dto = .ok db') :
    Kept db db' := by
  unfold approveTransfer at h
  simp only [bind_eq_ok, pure_eq_ok] at h
  obtain ⟨-, -, t, ht, approved, hfold, rfl⟩ := h
  obtain ⟨ht, hstatus⟩ := requireTransfer_ok ht
  have hpass := approvalPass hdb.books ht
    (fun mid e mid' hmid hline hok => approveLine_step hmid hline hok) hfold
  have hbefore : t.status ∈ beforeReceipt := by
    rw [List.mem_singleton.mp hstatus]
    decide
  have hlines := hpass.forall_lines (Q := Unreceived) fun e he line' happroved =>
    happroved.unreceived (hdb.unreceived ht hbefore he)
  exact ⟨(hpass.saneBut (hdb.but transferId)).sane
    (.of_unreceived hlines (deriveStatusAfterApproval_ne _)), hpass.total⟩

theorem saveApprovalDraft_kept (hdb : Sane db)
    (h : saveApprovalDraft env db transferId dto = .ok db') : Kept db db' := by
  unfold saveApprovalDraft at h
  simp only [bind_eq_ok, orThrow_eq_ok, require_eq_ok] at h
  obtain ⟨-, -, t, ht, -, hstatus, -, -, hfold⟩ := h
  have hpass := approvalPass hdb.books ht
    (fun mid e mid' hmid hline hok => draftLine_step hmid hline hok) hfold
  have hbefore : t.status ∈ beforeReceipt := by
    rw [hstatus]
    decide
  have hlines := hpass.forall_lines (Q := Unreceived) fun e he line' happroved =>
    happroved.unreceived (hdb.unreceived ht hbefore he)
  have hbut := hpass.saneBut (hdb.but transferId)
  refine ⟨⟨hbut.books, fun id t' ht' => ?_⟩, hpass.total⟩
  by_cases hid : id = transferId
  · subst hid
    obtain rfl : t = t' := Option.some.inj (ht.symm.trans (hpass.transfers ▸ ht'))
    exact .of_unreceived hlines (by rw [hstatus]; exact (nomatch ·))
  · exact hbut.statuses id t' hid ht'

theorem cancelTransfer_kept (hdb : Sane db) (h : cancelTransfer env db transferId = .ok db') :
    Kept db db' := by
  unfold cancelTransfer at h
  simp only [bind_eq_ok, pure_eq_ok] at h
  obtain ⟨-, -, t, ht, -, -, rfl⟩ := h
  obtain ⟨ht, hstatus⟩ := requireTransfer_ok ht
  have hbefore : t.status ∈ beforeReceipt := by
    rw [List.mem_singleton.mp hstatus]
    decide
  refine ⟨(hdb.but transferId).sane (.of_unreceived ?_ fun h => (by cases h)), fun _ => rfl⟩
  exact (hdb.statuses transferId t ht).unreceived hbefore

/-! ## Dispatching -/

/-- The condition on a dispatch: no quantity it moves is a tie. -/
def DispatchSound (db : WarehouseDb) (transferId : TransferId) (dto : List TransferStageLineDto) :
    Prop :=
  ∀ e ∈ linesOf db transferId, 0 < remainingToDispatch e.2 → 0 < qtyToMove dto e →
    ¬ Numeric.IsTie 4 (qtyToMove dto e)

theorem LineDispatched.unreceived {line line' : StoreTransferLine} {x : Quantity}
    (h : LineDispatched line line' x) (hline : Unreceived line) : Unreceived line' :=
  ⟨h.received.trans hline.1, h.shortage.trans hline.2⟩

theorem dispatchTransfer_kept (hdb : Sane db) (hsound : DispatchSound db transferId dto)
    (h : dispatchTransfer env db transferId dto = .ok db') :
    Kept db db' ∧ ∀ e ∈ linesOf db' transferId, Unreceived e.2 := by
  unfold dispatchTransfer at h
  simp only [bind_eq_ok, pure_eq_ok] at h
  obtain ⟨-, -, t, ht, dispatched, hfold, rfl⟩ := h
  obtain ⟨ht, hstatus⟩ := requireTransfer_ok ht
  have hbefore : t.status ∈ beforeReceipt := by
    simp only [List.mem_cons, List.not_mem_nil, or_false] at hstatus
    rcases hstatus with hstatus | hstatus | hstatus <;> rw [hstatus] <;> decide
  have hunreceived : ∀ e ∈ linesOf db transferId, Unreceived e.2 := fun e he =>
    hdb.unreceived ht hbefore he
  have hpass : Passed transferId (fun e line' => ∃ x, LineDispatched e.2 line' x) db dispatched :=
    passed_of_foldlM (fun mid e he mid' hbooks hplaces hline hok => by
      obtain ⟨line', x, hdispatched, hstep⟩ :=
        dispatchLine_step hbooks.stores hplaces hline (hsound e he) hok
      have hnew := hdispatched.unreceived (hunreceived e he)
      exact ⟨line', ⟨x, hdispatched⟩, hstep, .of_no_shortage hnew.2⟩)
      hdb.books (hdb.books.places transferId t ht) hfold
  have hlines := hpass.forall_lines (Q := Unreceived) fun e he line' ⟨x, hdispatched⟩ =>
    hdispatched.unreceived (hunreceived e he)
  refine ⟨⟨(hpass.saneBut (hdb.but transferId)).sane
    (.of_unreceived hlines (deriveStatusAfterDispatch_ne _)), hpass.total⟩, fun e he => ?_⟩
  exact hlines e.2 (List.mem_map.mpr ⟨e, he, rfl⟩)

/-! ## Receiving -/

/-- After the receipt the line is short by more than the tolerance. -/
def ShortAfter (dto : List TransferStageLineDto) (e : LineId × StoreTransferLine) : Prop :=
  qtyTolerance < e.2.quantityShortage.toRat ∨
    (0 < remainingToReceive e.2 ∧ 0 < qtyToReceive dto e ∧
      qtyTolerance < (remainingToReceive e.2 - Numeric.ofRat (qtyToReceive dto e)).toRat)

/-- The receipt leaves the line out, and something of it is on its way. -/
def LeftOpen (dto : List TransferStageLineDto) (e : LineId × StoreTransferLine) : Prop :=
  qtyToReceive dto e ≤ 0 ∧ qtyTolerance < e.2.inTransit.toRat

/-- The condition on a receipt. -/
structure ReceiveSound (db : WarehouseDb) (transferId : TransferId)
    (dto : List TransferStageLineDto) : Prop where
  lines : ∀ e ∈ linesOf db transferId, 0 < remainingToReceive e.2 → 0 < qtyToReceive dto e →
    LineSound e.2 (qtyToReceive dto e)
  leftOpen : (∃ e ∈ linesOf db transferId, ShortAfter dto e) →
    ∃ e ∈ linesOf db transferId, LeftOpen dto e

/-- What a receipt does to a line. -/
def ReceiptOf (dto : List TransferStageLineDto) (e : LineId × StoreTransferLine)
    (line' : StoreTransferLine) : Prop :=
  (line' = e.2 ∧ (remainingToReceive e.2 ≤ 0 ∨ qtyToReceive dto e ≤ 0)) ∨
    (0 < qtyToReceive dto e ∧ LineReceived e.2 line' (Numeric.ofRat (qtyToReceive dto e)))

/-- A line that is short after the receipt was so before, or is received short. -/
theorem ReceiptOf.shortAfter {e : LineId × StoreTransferLine} {line' : StoreTransferLine}
    (h : ReceiptOf dto e line') (hcounted : ShortageCounted e.2)
    (hsound : 0 < remainingToReceive e.2 → 0 < qtyToReceive dto e →
      LineSound e.2 (qtyToReceive dto e)) (hshort : qtyTolerance < line'.quantityShortage.toRat) :
    ShortAfter dto e := by
  rcases h with ⟨rfl, -⟩ | ⟨hpos, h⟩
  · exact .inl hshort
  · refine .inr ⟨h.remaining_pos, hpos, ?_⟩
    have hwhole := hcounted.whole
    have hbefore := (hsound h.remaining_pos hpos).shortage_le
    have hremaining := h.remaining_pos
    have hle := h.le_remaining
    have hnonneg := h.nonneg
    have hsmall := h.pos_of_small
    rw [← not_le] at hshort ⊢
    rw [h.shortage] at hshort
    simp only [toRat_le_tolerance, remainingToReceive_eq, Numeric.ext_iff, Numeric.le_iff_units,
      Numeric.lt_iff_units, Numeric.units_add, Numeric.units_sub, Numeric.units_zero]
      at hshort hwhole hbefore hremaining hle hnonneg hsmall ⊢
    omega

theorem receiveTransfer_kept (hdb : Sane db) (hsound : ReceiveSound db transferId dto)
    (h : receiveTransfer env db transferId dto = .ok db') : Kept db db' := by
  unfold receiveTransfer at h
  simp only [bind_eq_ok, pure_eq_ok] at h
  obtain ⟨-, -, t, ht, received, hfold, -, -, rfl⟩ := h
  obtain ⟨ht, -⟩ := requireTransfer_ok ht
  have hcounted : ∀ e ∈ linesOf db transferId, ShortageCounted e.2 := fun e he =>
    hdb.books.counted e.1 e.2 (mem_linesOf.mp he).1
  have hpass : Passed transferId (ReceiptOf dto) db received :=
    passed_of_foldlM (fun mid e he mid' hbooks hplaces hline hok => by
      obtain ⟨line', hstep, hreceipt⟩ :=
        receiveLine_step hbooks.stores hplaces hline (hsound.lines e he) hok
      refine ⟨line', hreceipt, hstep, ?_⟩
      rcases hreceipt with ⟨rfl, -⟩ | ⟨hpos, hreceived⟩
      · exact hcounted e he
      · exact hreceived.counted (hcounted e he)
          (hsound.lines e he hreceived.remaining_pos hpos).shortage_le)
      hdb.books (hdb.books.places transferId t ht) hfold
  refine ⟨(hpass.saneBut (hdb.but transferId)).sane (statusOk_received ?_ ?_), hpass.total⟩
  · intro l hl
    obtain ⟨e', he', rfl⟩ := List.mem_map.mp hl
    exact hpass.books.counted e'.1 e'.2 (mem_linesOf.mp he').1
  · rintro ⟨l, hl, hshort⟩
    obtain ⟨e', he', rfl⟩ := List.mem_map.mp hl
    obtain ⟨line, hline, hreceipt⟩ := hpass.back e' he'
    obtain ⟨e, he, hskip, hleft⟩ := hsound.leftOpen ⟨(e'.1, line), hline,
      hreceipt.shortAfter (hcounted _ hline) (hsound.lines _ hline) hshort⟩
    obtain ⟨line', hreceipt', hmem⟩ := hpass.each e he
    rcases hreceipt' with ⟨rfl, -⟩ | ⟨hpos, -⟩
    · exact ⟨e.2, List.mem_map.mpr ⟨_, hmem, rfl⟩, hleft⟩
    · exact absurd hskip (not_le.mpr hpos)

/-! ## Completing -/

/-- A line of the transfer gets everything that is left of it. -/
theorem stageInput_everythingLeft (remaining : StoreTransferLine → Quantity)
    {e : LineId × StoreTransferLine} (he : e ∈ linesOf db transferId) :
    ((stageInput (everythingLeft db transferId remaining) e.1).map (·.quantity)).getD
      (remaining e.2).toRat = (remaining e.2).toRat := by
  cases hinput : stageInput (everythingLeft db transferId remaining) e.1 with
  | none => rfl
  | some l =>
    have hid := List.find?_some hinput
    have hmem := List.mem_reverse.mp (List.mem_of_find?_eq_some hinput)
    obtain ⟨e', he', rfl⟩ := List.mem_map.mp (List.mem_filter.mp hmem).1
    have hkey : e'.1 = e.1 := of_decide_eq_true hid
    have hsame : e'.2 = e.2 := by
      have hget := (mem_linesOf.mp he').1
      rw [hkey, (mem_linesOf.mp he).1] at hget
      exact (Option.some.inj hget).symm
    show (remaining e'.2).toRat = _
    rw [hsame]

theorem dispatchSound_everythingLeft (db : WarehouseDb) (transferId : TransferId) :
    DispatchSound db transferId (everythingLeft db transferId remainingToDispatch) := by
  intro e he _ _
  have hqty : qtyToMove (everythingLeft db transferId remainingToDispatch) e =
      (remainingToDispatch e.2).toRat := stageInput_everythingLeft remainingToDispatch he
  rw [hqty]
  exact Numeric.not_isTie_toRat _

theorem receiveSound_everythingLeft (hlines : ∀ e ∈ linesOf db transferId, Unreceived e.2) :
    ReceiveSound db transferId (everythingLeft db transferId remainingToReceive) := by
  have hqty : ∀ e ∈ linesOf db transferId,
      qtyToReceive (everythingLeft db transferId remainingToReceive) e =
        (remainingToReceive e.2).toRat :=
    fun e he => stageInput_everythingLeft remainingToReceive he
  have hshortage : ∀ e ∈ linesOf db transferId, e.2.quantityShortage.toRat ≤ qtyTolerance := by
    intro e he
    rw [(hlines e he).2, Numeric.toRat_zero]
    norm_num [qtyTolerance]
  refine ⟨fun e he _ _ => ?_, ?_⟩
  · rw [hqty e he]
    refine ⟨hshortage e he, Numeric.not_isTie_toRat _, fun _ => ?_⟩
    rw [sub_self]
    norm_num [qtyTolerance]
  · rintro ⟨e, he, hshort | ⟨-, -, hshort⟩⟩
    · exact absurd (hshortage e he) (not_le.mpr hshort)
    · rw [hqty e he, Numeric.ofRat_toRat, sub_self, Numeric.toRat_zero] at hshort
      norm_num [qtyTolerance] at hshort

theorem completeRequestTransfer_kept (hdb : Sane db)
    (h : completeRequestTransfer env db transferId dto = .ok db') : Kept db db' := by
  unfold completeRequestTransfer at h
  simp only [bind_eq_ok] at h
  obtain ⟨approved, happrove, -, -, -, -, -, -, -, -, dispatched, hdispatch, -, -, hreceive⟩ := h
  have happroved := approveTransfer_kept hdb happrove
  obtain ⟨hdispatched, hlines⟩ := dispatchTransfer_kept happroved.sane
    (dispatchSound_everythingLeft approved transferId) hdispatch
  have hreceived := receiveTransfer_kept hdispatched.sane (receiveSound_everythingLeft hlines)
    hreceive
  exact (happroved.trans hdispatched).trans hreceived

end SmartErpPos.Transfers
