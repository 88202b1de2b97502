/-
  Transfers/Creation.lean --- creating a transfer.

  The stores of the network are there first, and the one in transit is neither the source nor
  the destination.  A requested transfer starts with nothing dispatched; a direct one is
  dispatched and received in the same call.
-/
import SmartErpPos.Transfers.Stages

set_option autoImplicit false

namespace SmartErpPos.Transfers

open SmartErpPos.Lib

/-! ## The network -/

variable {db db' : WarehouseDb} {transfer : StoreTransfer} {transferId : TransferId}

/-- Before the first transfer there is nothing in transit. -/
theorem Books.inTransitTotal_eq_zero (hdb : Books db)
    (hnone : ∀ id row, db.stores.get? id = some row → row.code ≠ transitCode) (lot : LotId) :
    inTransitTotal db lot = 0 := by
  refine OrderedMap.sumWhere_eq_zero fun e he _ => ?_
  obtain ⟨t, ht⟩ := hdb.lineTransfer e.1 e.2 (OrderedMap.get?_eq_some_iff.mpr he)
  obtain ⟨row, hrow, hcode, -⟩ := (hdb.places _ t ht).transit
  exact absurd hcode (hnone _ row hrow)

/-- A store that has no balances holds nothing. -/
theorem StoresOk.onHandAt_eq_zero (hdb : StoresOk db) {id : StoreId} (hid : db.nextId ≤ id)
    (lot : LotId) : onHandAt db id lot = 0 := by
  refine OrderedMap.valueAt_of_get?_none ?_
  rcases Option.eq_none_or_eq_some (db.balances.get? (id, lot)) with hnone | ⟨row, hrow⟩
  · exact hnone
  · obtain ⟨store, hstore⟩ := hdb.balances _ row hrow
    exact absurd (hdb.ids id store hstore) (not_lt.mpr hid)

/-- Ensuring stores keeps the state. -/
theorem Sane.storesKept (hdb : Sane db)
    (heq : db' = { db with stores := db'.stores, nextId := db'.nextId }) (hok : StoresOk db')
    (hkept : StoresKept db db') : Sane db' := by
  have htransfers : db'.transfers = db.transfers := by rw [heq]
  have hlines : db'.lines = db.lines := by rw [heq]
  have honHand : ∀ id lot, onHandAt db' id lot = onHandAt db id lot := fun id lot => by
    rw [heq]
    rfl
  have htotal : ∀ lot, inTransitTotal db' lot = inTransitTotal db lot := fun lot => by
    rw [heq]
    rfl
  have hlinesOf : ∀ id, linesOf db' id = linesOf db id := fun id => by
    rw [heq]
    rfl
  exact
    { books :=
        { stores := hok
          transferIds := fun id t ht =>
            (hdb.books.transferIds id t (htransfers ▸ ht)).trans_le hkept.nextId_le
          lineIds := fun id line hline =>
            (hdb.books.lineIds id line (hlines ▸ hline)).trans_le hkept.nextId_le
          lineTransfer := fun id line hline => by
            rw [htransfers]
            exact hdb.books.lineTransfer id line (hlines ▸ hline)
          places := fun id t ht => (hdb.books.places id t (htransfers ▸ ht)).kept hkept
          transit := fun id row hrow hcode lot => by
            rw [honHand, htotal]
            rcases hkept.added id row hrow with ⟨old, hold, hsame⟩ | hnew
            · exact hdb.books.transit id old hold (hsame ▸ hcode) lot
            · rw [hdb.books.stores.onHandAt_eq_zero hnew, hdb.books.inTransitTotal_eq_zero]
              intro k old hold hcodeOld
              obtain ⟨row', hrow', hcode', -⟩ := hkept.kept k old hold
              obtain rfl : k = id :=
                hok.codes k id row' row hrow' hrow ((hcode'.trans hcodeOld).trans hcode.symm)
              exact absurd (hdb.books.stores.ids k old hold) (not_lt.mpr hnew)
          counted := fun id line hline => hdb.books.counted id line (hlines ▸ hline) }
      statuses := fun id t ht => by
        rw [hlinesOf]
        exact hdb.statuses id t (htransfers ▸ ht) }

theorem StoreEnsured.kept_sane {code : String} {storeType : StoreType} {out : StoreId × WarehouseDb}
    (hdb : Sane db) (h : StoreEnsured code storeType db out) : Kept db out.2 where
  sane := hdb.storesKept h.eq h.ok h.kept
  total lot := by
    rw [h.eq]
    rfl

/-- What ensuring the stores of the network gives. -/
structure NetworkEnsured (db : WarehouseDb) (network : NetworkStores) (db' : WarehouseDb) : Prop where
  kept : Kept db db'
  transit : ∃ row, db'.stores.get? network.transit = some row ∧ row.code = transitCode ∧
    row.storeType = .TRANSIT
  main : ∃ row, db'.stores.get? network.main = some row ∧ row.code ≠ transitCode

theorem ensureDefaultNetworkStores_ensured (hdb : Sane db) :
    NetworkEnsured db (ensureDefaultNetworkStores db).1 (ensureDefaultNetworkStores db).2 := by
  have hmain : StoreEnsured "MAIN" .MAIN db (upsertByCode db mainStoreData) :=
    upsertByCode_ensured hdb.books.stores mainStoreData (by decide)
  have hkept := hmain.kept_sane hdb
  have htransit : StoreEnsured transitCode .TRANSIT _ (upsertByCode _ transitStoreData) :=
    upsertByCode_ensured hmain.ok transitStoreData (fun _ => rfl)
  have hkept' := htransit.kept_sane hkept.sane
  have hselling : StoreEnsured "SELLING" .SELLING _ (upsertByCode _ sellingStoreData) :=
    upsertByCode_ensured htransit.ok sellingStoreData (by decide)
  have hkept'' := hselling.kept_sane hkept'.sane
  refine ⟨(hkept.trans hkept').trans hkept'', ?_, ?_⟩
  · obtain ⟨row, hrow, hcode, htype⟩ := htransit.store
    obtain ⟨row', hrow', hcode', htype'⟩ := hselling.kept.kept _ row hrow
    exact ⟨row', hrow', hcode'.trans hcode, htype' hcode htype⟩
  · obtain ⟨row, hrow, hcode, -⟩ := hmain.store
    obtain ⟨row', hrow', hcode', -⟩ := (htransit.kept.trans hselling.kept).kept _ row hrow
    refine ⟨row', hrow', ?_⟩
    rw [hcode', hcode]
    decide

/-! ## The rows of a new transfer -/

/-- A line nothing has happened to. -/
def Fresh (line : StoreTransferLine) : Prop := line.quantityDispatched = 0 ∧ Unreceived line

/-- A new transfer with the lines it has so far. -/
structure Inserted (transferId : TransferId) (transfer : StoreTransfer) (db : WarehouseDb) : Prop where
  saneBut : SaneBut transferId db
  transfer : db.transfers.get? transferId = some transfer
  fresh : ∀ e ∈ linesOf db transferId, Fresh e.2

theorem insertTransfer_inserted (hdb : Sane db) (hplaces : Places db transfer)
    (h : insertTransfer db transfer = .ok (transferId, db')) :
    Inserted transferId transfer db' ∧ ∀ lot, totalOnHand db' lot = totalOnHand db lot := by
  unfold insertTransfer at h
  simp only [bind_eq_ok, pure_eq_ok, Prod.mk.injEq] at h
  obtain ⟨-, -, rfl, rfl⟩ := h
  have hbooks := hdb.books
  have hrows : ∀ id t, (db.transfers.set db.nextId transfer).get? id = some t →
      (id = db.nextId ∧ t = transfer) ∨ db.transfers.get? id = some t := by
    intro id t ht
    rw [OrderedMap.get?_set] at ht
    split at ht
    · exact .inl ⟨‹_›, (Option.some.inj ht).symm⟩
    · exact .inr ht
  refine ⟨⟨⟨?_, fun id t hne ht => ?_⟩, OrderedMap.get?_set_self .., fun e he => ?_⟩, fun _ => rfl⟩
  · exact
      { stores :=
          { ids := fun id row hrow => Nat.lt_succ_of_lt (hbooks.stores.ids id row hrow)
            codes := hbooks.stores.codes
            balances := hbooks.stores.balances }
        transferIds := fun id t ht => by
          rcases hrows id t ht with ⟨rfl, -⟩ | ht
          · exact Nat.lt_succ_self _
          · exact Nat.lt_succ_of_lt (hbooks.transferIds id t ht)
        lineIds := fun id line hline => Nat.lt_succ_of_lt (hbooks.lineIds id line hline)
        lineTransfer := fun id line hline => by
          obtain ⟨t, ht⟩ := hbooks.lineTransfer id line hline
          show ∃ t, (db.transfers.set db.nextId transfer).get? _ = some t
          rw [OrderedMap.get?_set]
          split
          · exact ⟨_, rfl⟩
          · exact ⟨t, ht⟩
        places := fun id t ht => by
          rcases hrows id t ht with ⟨-, rfl⟩ | ht
          · exact ⟨hplaces.transit, hplaces.source, hplaces.destination⟩
          · have hold := hbooks.places id t ht
            exact ⟨hold.transit, hold.source, hold.destination⟩
        transit := hbooks.transit
        counted := hbooks.counted }
  · rcases hrows id t ht with ⟨rfl, -⟩ | ht
    · exact absurd rfl hne
    · exact hdb.statuses id t ht
  · obtain ⟨hget, hid⟩ := mem_linesOf.mp he
    obtain ⟨t, ht⟩ := hbooks.lineTransfer e.1 e.2 hget
    exact absurd (hid ▸ hbooks.transferIds _ t ht) (lt_irrefl _)

/-- What inserting one line does. -/
structure LineInserted (transferId : TransferId) (row : StoreTransferLine) (s s' : AddingLines) :
    Prop where
  db : s'.db = { s.db with lines := s.db.lines.set s.db.nextId row, nextId := s.db.nextId + 1 }
  transferId : row.storeTransferId = transferId
  fresh : Fresh row

theorem addLine_ok {s s' : AddingLines} {line : ResolvedLine}
    (h : addLine transferId s line = .ok s') : ∃ row, LineInserted transferId row s s' := by
  unfold addLine at h
  simp only [bind_eq_ok] at h
  obtain ⟨-, -, h⟩ := h
  split at h
  · rw [pure_eq_ok] at h
    subst h
    exact ⟨_, rfl, rfl, rfl, rfl, rfl⟩
  · cases h

theorem LineInserted.inserted {row : StoreTransferLine} {s s' : AddingLines}
    (h : LineInserted transferId row s s') (hs : Inserted transferId transfer s.db) :
    Inserted transferId transfer s'.db ∧
      (∀ lot, totalOnHand s'.db lot = totalOnHand s.db lot) ∧ linesOf s'.db transferId ≠ [] := by
  have hbooks := hs.saneBut.books
  have hrows : ∀ id line, (s.db.lines.set s.db.nextId row).get? id = some line →
      (id = s.db.nextId ∧ line = row) ∨ s.db.lines.get? id = some line := by
    intro id line hline
    rw [OrderedMap.get?_set] at hline
    split at hline
    · exact .inl ⟨‹_›, (Option.some.inj hline).symm⟩
    · exact .inr hline
  have hnone : s.db.lines.get? s.db.nextId = none := by
    rcases Option.eq_none_or_eq_some (s.db.lines.get? s.db.nextId) with hnone | ⟨line, hline⟩
    · exact hnone
    · exact absurd (hbooks.lineIds _ line hline) (lt_irrefl _)
  have hzero : ∀ lot, row.inTransitOf lot = 0 := by
    intro lot
    unfold StoreTransferLine.inTransitOf StoreTransferLine.inTransit
    rw [h.fresh.1, h.fresh.2.1, h.fresh.2.2, sub_zero, sub_zero, ite_self]
  rw [h.db]
  refine ⟨⟨⟨?_, fun id t hne ht => ?_⟩, hs.transfer, fun e he => ?_⟩, fun _ => rfl, fun hnil => ?_⟩
  · exact
      { stores :=
          { ids := fun id store hstore => Nat.lt_succ_of_lt (hbooks.stores.ids id store hstore)
            codes := hbooks.stores.codes
            balances := hbooks.stores.balances }
        transferIds := fun id t ht => Nat.lt_succ_of_lt (hbooks.transferIds id t ht)
        lineIds := fun id line hline => by
          rcases hrows id line hline with ⟨rfl, -⟩ | hline
          · exact Nat.lt_succ_self _
          · exact Nat.lt_succ_of_lt (hbooks.lineIds id line hline)
        lineTransfer := fun id line hline => by
          rcases hrows id line hline with ⟨-, rfl⟩ | hline
          · rw [h.transferId]
            exact ⟨transfer, hs.transfer⟩
          · exact hbooks.lineTransfer id line hline
        places := fun id t ht => by
          have hold := hbooks.places id t ht
          exact ⟨hold.transit, hold.source, hold.destination⟩
        transit := fun id store hstore hcode lot => by
          refine (hbooks.transit id store hstore hcode lot).trans ?_
          show _ = (s.db.lines.set s.db.nextId row).sumWhere _ _
          rw [OrderedMap.sumWhere_set, OrderedMap.valueAt_of_get?_none hnone, hzero, sub_zero,
            ite_self, add_zero]
          rfl
        counted := fun id line hline => by
          rcases hrows id line hline with ⟨-, rfl⟩ | hline
          · exact .of_no_shortage h.fresh.2.2
          · exact hbooks.counted id line hline }
  · refine (hs.saneBut.statuses id t hne ht).congr fun l => ?_
    simp only [List.mem_map, mem_linesOf]
    refine exists_congr fun e => and_congr_left fun _ => and_congr_left fun hid => ?_
    by_cases hkey : e.1 = s.db.nextId
    · rw [hkey, hnone, OrderedMap.get?_set_self]
      refine iff_of_false (fun heq => ?_) fun h => (by cases h)
      obtain heq := Option.some.inj heq
      exact hne (hid.symm.trans (heq ▸ h.transferId))
    · rw [OrderedMap.get?_set_of_ne hkey]
  · obtain ⟨hget, hid⟩ := mem_linesOf.mp he
    rcases hrows e.1 e.2 hget with ⟨-, heq⟩ | hget
    · exact heq ▸ h.fresh
    · exact hs.fresh e (mem_linesOf.mpr ⟨hget, hid⟩)
  · have hmem : (s.db.nextId, row) ∈ linesOf { s.db with
        lines := s.db.lines.set s.db.nextId row, nextId := s.db.nextId + 1 } transferId :=
      mem_linesOf.mpr ⟨OrderedMap.get?_set_self .., h.transferId⟩
    rw [hnil] at hmem
    cases hmem

theorem addLines_inserted {lines : List ResolvedLine} {added : AddingLines}
    (hdb : Inserted transferId transfer db) (hnonempty : lines ≠ [])
    (h : addLines db transferId lines = .ok added) :
    Inserted transferId transfer added.db ∧
      (∀ lot, totalOnHand added.db lot = totalOnHand db lot) ∧
      linesOf added.db transferId ≠ [] := by
  have hrest : ∀ (rest : List ResolvedLine) (s s' : AddingLines),
      Inserted transferId transfer s.db → rest.foldlM (addLine transferId) s = .ok s' →
      Inserted transferId transfer s'.db ∧
        (∀ lot, totalOnHand s'.db lot = totalOnHand s.db lot) ∧
        (linesOf s.db transferId ≠ [] ∨ rest ≠ [] → linesOf s'.db transferId ≠ []) := by
    intro rest
    induction rest with
    | nil =>
      intro s s' hs hok
      rw [List.foldlM_nil, pure_eq_ok] at hok
      subst hok
      exact ⟨hs, fun _ => rfl, fun hsome => hsome.resolve_right fun hne => hne rfl⟩
    | cons line rest ih =>
      intro s s' hs hok
      rw [List.foldlM_cons, bind_eq_ok] at hok
      obtain ⟨mid, hmid, hok⟩ := hok
      obtain ⟨row, hrow⟩ := addLine_ok hmid
      obtain ⟨hinserted, htotal, hsome⟩ := hrow.inserted hs
      obtain ⟨hlast, htotal', hsome'⟩ := ih mid s' hinserted hok
      exact ⟨hlast, fun lot => (htotal' lot).trans (htotal lot), fun _ => hsome' (.inl hsome)⟩
  obtain ⟨hinserted, htotal, hsome⟩ := hrest lines ⟨db, []⟩ added hdb h
  exact ⟨hinserted, htotal, hsome (.inr hnonempty)⟩

/-! ## The whole way in one call -/

/-- A line of a direct transfer after its dispatch. -/
def AllDispatched (line : StoreTransferLine) : Prop :=
  line.quantityDispatched = line.quantity ∧ Unreceived line

/-- A line of a direct transfer at its destination. -/
def AllReceived (line : StoreTransferLine) : Prop :=
  line.quantityReceived = line.quantityDispatched ∧ line.quantityShortage = 0 ∧
    0 < line.quantityReceived

theorem dispatchInserted_step {e : LineId × StoreTransferLine} (hdb : StoresOk db)
    (hplaces : Places db transfer) (hline : db.lines.get? e.1 = some e.2) (hfresh : Fresh e.2)
    (h : dispatchInserted transfer db e = .ok db') :
    ∃ line', AllDispatched line' ∧ LineStep transfer e.1 e.2 line' db db' := by
  unfold dispatchInserted at h
  simp only [bind_eq_ok] at h
  obtain ⟨moved, hmove, hmark⟩ := h
  have htie := Numeric.not_isTie_toRat e.2.quantity
  have hstock := stockStep_dispatch hdb hplaces htie hmove
  obtain ⟨line', hwritten, rfl⟩ := markLineDispatched_ok (hstock.lines ▸ hline) htie hmark
  have hdispatched := hwritten.dispatched
  refine ⟨line', ⟨?_, hdispatched.unreceived hfresh.2⟩,
    hstock.lineStep hdispatched.same hdispatched.inTransit_sub⟩
  rw [hdispatched.dispatched, hfresh.1, zero_add, Numeric.ofRat_toRat, hdispatched.same.quantity]

theorem receiveInserted_step {e : LineId × StoreTransferLine} (hdb : StoresOk db)
    (hplaces : Places db transfer) (hline : db.lines.get? e.1 = some e.2)
    (hdispatched : AllDispatched e.2) (h : receiveInserted transfer db e = .ok db') :
    ∃ line', AllReceived line' ∧ LineStep transfer e.1 e.2 line' db db' := by
  obtain ⟨hall, hr, hs⟩ := hdispatched
  have hpos := e.2.quantity_positive
  unfold receiveInserted at h
  dsimp only at h
  rw [hall, hr, sub_zero, if_neg (not_le.mpr hpos)] at h
  simp only [bind_eq_ok] at h
  obtain ⟨moved, hmove, hmark⟩ := h
  have htie := Numeric.not_isTie_toRat e.2.quantity
  obtain ⟨destination, hdestination, -⟩ := hplaces.destination
  have hstock := stockStep_leave hdb ⟨destination, hdestination⟩ hplaces.destination_ne htie hmove
  have hzero : ¬ Numeric.IsTie 4 0 := by
    have hstored := Numeric.not_isTie_toRat (0 : Quantity)
    rwa [Numeric.toRat_zero] at hstored
  obtain ⟨line', hwritten, rfl⟩ := markLineReceived_ok (hstock.lines ▸ hline) htie hzero hmark
  have hreceived : line'.quantityReceived = e.2.quantity := by
    rw [hwritten.quantityReceived, hr, zero_add, Numeric.ofRat_toRat]
  have hshortage : line'.quantityShortage = 0 := by
    rw [hwritten.quantityShortage, hs, zero_add, Numeric.ofRat_zero]
  have hdispatched : line'.quantityDispatched = e.2.quantity :=
    hwritten.quantityDispatched.trans hall
  refine ⟨line', ⟨hreceived.trans hdispatched.symm, hshortage, hreceived ▸ hpos⟩,
    hstock.lineStep hwritten.same ?_⟩
  unfold StoreTransferLine.inTransit
  rw [hreceived, hshortage, hdispatched, hall, hr, hs, Numeric.ofRat_toRat]
  abel

/-- A transfer all of whose lines are at their destination. -/
theorem StatusOk.of_allReceived {lines : List StoreTransferLine} (hnonempty : lines ≠ [])
    (hlines : ∀ l ∈ lines, AllReceived l) : StatusOk .RECEIVED lines where
  unreceived h := absurd h (by decide)
  received := by
    refine iff_of_true rfl ⟨?_, fun l hl => ?_⟩
    · obtain ⟨l, hl⟩ := List.exists_mem_of_ne_nil lines hnonempty
      exact ⟨l, hl, .inl (hlines l hl).2.2⟩
    · obtain ⟨hr, hs, -⟩ := hlines l hl
      unfold StoreTransferLine.inTransit
      rw [hr, hs, sub_self, sub_zero, Numeric.toRat_zero]
      norm_num [qtyTolerance]

theorem executeImmediateTransfer_kept {env : TransferEnv} {lines : List ResolvedLine}
    (hdb : Sane db) (hplaces : Places db transfer) (hnonempty : lines ≠ [])
    (h : executeImmediateTransfer env db transfer lines = .ok db') : Kept db db' := by
  unfold executeImmediateTransfer at h
  simp only [bind_eq_ok, pure_eq_ok] at h
  obtain ⟨-, -, ⟨id, inserted⟩, hinsert, added, hadd, dispatched, hdispatch, received, hreceive,
    -, -, rfl⟩ := h
  have happroved : Places db { transfer with status := .APPROVED } :=
    ⟨hplaces.transit, hplaces.source, hplaces.destination⟩
  obtain ⟨hinserted, htotal⟩ := insertTransfer_inserted hdb happroved hinsert
  obtain ⟨hadded, htotal', hsome⟩ := addLines_inserted hinserted hnonempty hadd
  have hplacesAdded : Places added.db transfer := by
    have hold := hadded.saneBut.books.places id _ hadded.transfer
    exact ⟨hold.transit, hold.source, hold.destination⟩
  have hpass : Passed id (fun _ line' => AllDispatched line') added.db dispatched :=
    passed_of_foldlM (fun mid e he mid' hbooks hplaces hline hok => by
      obtain ⟨line', hall, hstep⟩ :=
        dispatchInserted_step hbooks.stores hplaces hline (hadded.fresh e he) hok
      exact ⟨line', hall, hstep, .of_no_shortage hall.2.2⟩)
      hadded.saneBut.books hplacesAdded hdispatch
  have hbut := (hpass.saneBut hadded.saneBut).updateStatus .IN_TRANSIT
  have hplacesDispatched : Places (updateStatus dispatched id .IN_TRANSIT) transfer := by
    have htransfer : dispatched.transfers.get? id = some { transfer with status := .APPROVED } := by
      rw [hpass.transfers]
      exact hadded.transfer
    have hold := hpass.books.places id _ htransfer
    exact ⟨hold.transit, hold.source, hold.destination⟩
  have hall : ∀ e ∈ linesOf (updateStatus dispatched id .IN_TRANSIT) id, AllDispatched e.2 := by
    intro e he
    obtain ⟨-, -, hall⟩ := hpass.back e he
    exact hall
  have hpass' : Passed id (fun _ line' => AllReceived line')
      (updateStatus dispatched id .IN_TRANSIT) received :=
    passed_of_foldlM (fun mid e he mid' hbooks hplaces hline hok => by
      obtain ⟨line', hreceived, hstep⟩ :=
        receiveInserted_step hbooks.stores hplaces hline (hall e he) hok
      exact ⟨line', hreceived, hstep, .of_no_shortage hreceived.2.1⟩)
      hbut.books hplacesDispatched hreceive
  refine ⟨(hpass'.saneBut hbut).sane (.of_allReceived ?_ ?_), fun lot => ?_⟩
  · obtain ⟨e, he⟩ := List.exists_mem_of_ne_nil _ hsome
    obtain ⟨line, -, hline⟩ := hpass.each e he
    obtain ⟨line', -, hline'⟩ := hpass'.each (e.1, line) hline
    exact List.ne_nil_of_mem (List.mem_map.mpr ⟨_, hline', rfl⟩)
  · exact hpass'.forall_lines fun _ _ _ hreceived => hreceived
  · have hmid : totalOnHand (updateStatus dispatched id .IN_TRANSIT) lot =
        totalOnHand dispatched lot := rfl
    show totalOnHand received lot = _
    rw [hpass'.total, hmid, hpass.total, htotal', htotal]

theorem createTransfer_kept {env : TransferEnv} {dto : CreateStoreTransferDto} (hdb : Sane db)
    (h : createTransfer env db dto = .ok db') : Kept db db' := by
  unfold createTransfer at h
  have hensured := ensureDefaultNetworkStores_ensured hdb
  generalize ensureDefaultNetworkStores db = out at h hensured
  obtain ⟨network, ensured⟩ := out
  obtain ⟨hkept, htransit, hmain⟩ := hensured
  simp only [bind_eq_ok, orThrow_eq_ok, require_eq_ok] at h
  obtain ⟨-, -, -, hcount, destination, hdestination, source, -, lines, hlines, -, -, mode, -, h⟩ := h
  have hnonempty : lines ≠ [] := by
    have hlength := (mapM_eq_ok hlines).length_eq
    rw [← List.length_pos_iff, ← hlength]
    exact hcount
  have hplaces : ∀ transfer : StoreTransfer, transfer.sourceStoreId = network.main →
      transfer.transitStoreId = network.transit →
      transfer.destinationStoreId = dto.destinationStoreId.getD network.selling →
      Places ensured transfer := by
    intro transfer hsource htransit' hdest
    refine ⟨htransit' ▸ htransit, hsource ▸ hmain, ?_⟩
    rw [hdest]
    obtain ⟨hrow, htest⟩ := Option.filter_eq_some_iff.mp hdestination
    rw [Bool.and_eq_true] at htest
    have htype : destination.storeType = .SELLING := of_decide_eq_true htest.2
    refine ⟨destination, hrow, fun hcode => ?_⟩
    obtain ⟨row, hrow', hcode', htype'⟩ := htransit
    have hid := hkept.sane.books.stores.codes _ _ _ _ hrow hrow' (hcode.trans hcode'.symm)
    rw [hid, hrow'] at hrow
    obtain rfl := Option.some.inj hrow
    rw [htype] at htype'
    cases htype'
  split at h
  · exact hkept.trans (executeImmediateTransfer_kept hkept.sane (hplaces _ rfl rfl rfl) hnonempty h)
  · simp only [bind_eq_ok, pure_eq_ok] at h
    obtain ⟨⟨id, inserted⟩, hinsert, added, hadd, rfl⟩ := h
    obtain ⟨hinserted, htotal⟩ := insertTransfer_inserted hkept.sane (hplaces _ rfl rfl rfl) hinsert
    obtain ⟨hadded, htotal', -⟩ := addLines_inserted hinserted hnonempty hadd
    refine hkept.trans ⟨⟨hadded.saneBut.books, fun k t ht => ?_⟩,
      fun lot => (htotal' lot).trans (htotal lot)⟩
    by_cases hk : k = id
    · subst hk
      rw [hadded.transfer] at ht
      obtain rfl := Option.some.inj ht
      refine .of_unreceived (fun l hl => ?_) (nomatch ·)
      obtain ⟨e, he, rfl⟩ := List.mem_map.mp hl
      exact (hadded.fresh e he).2
    · exact hadded.saneBut.statuses k t hk ht

end SmartErpPos.Transfers
