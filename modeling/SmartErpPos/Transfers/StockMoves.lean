/-
  Transfers/StockMoves.lean --- what the statements of a transfer do to stock.

  A move between two stores keeps the total of a lot and changes two balances, as long as
  the quantity is not half-way between two stored ones.  The line it is for is written next.
  The store in transit then holds what the lines say is on its way, if it held it before.
-/
import SmartErpPos.Lib.KeyedSum
import SmartErpPos.Transfers.Service

set_option autoImplicit false

namespace SmartErpPos.Transfers

open SmartErpPos.Lib

/-! ## What is where -/

/-- What a store holds of a lot. -/
def onHandAt (db : WarehouseDb) (storeId : StoreId) (lotId : LotId) : Quantity :=
  db.balances.valueAt (·.quantityOnHand) (storeId, lotId)

/-- What all stores hold of a lot. -/
def totalOnHand (db : WarehouseDb) (lotId : LotId) : Quantity :=
  db.balances.sumWhere (fun key => decide (key.2 = lotId)) (·.quantityOnHand)

/-- What is on its way for a line: dispatched, and neither received nor short. -/
def StoreTransferLine.inTransit (line : StoreTransferLine) : Quantity :=
  line.quantityDispatched - line.quantityReceived - line.quantityShortage

/-- What a line has on its way of a lot. -/
def StoreTransferLine.inTransitOf (line : StoreTransferLine) (lotId : LotId) : Quantity :=
  if line.productLotId = lotId then line.inTransit else 0

/-- What all lines have on its way of a lot. -/
def inTransitTotal (db : WarehouseDb) (lotId : LotId) : Quantity :=
  db.lines.sumWhere (fun _ => true) (·.inTransitOf lotId)

/-! ## Moves -/

/-- What moving a quantity `x` of a lot does. -/
structure LotMoved (fromStoreId toStoreId : StoreId) (lotId : LotId) (x : Quantity)
    (db db' : WarehouseDb) : Prop where
  eq : db' = { db with balances := db'.balances }
  total : ∀ lot, totalOnHand db' lot = totalOnHand db lot
  onHand : ∀ store lot, onHandAt db' store lot = onHandAt db store lot +
    if lot = lotId then (if store = toStoreId then x else 0) - (if store = fromStoreId then x else 0)
    else 0
  keys : ∀ key row, db'.balances.get? key = some row →
    key = (toStoreId, lotId) ∨ ∃ row, db.balances.get? key = some row

theorem onHand_sent {row : InventoryBalance} {params : MoveLotQuantityParams}
    (h : ¬ Numeric.IsTie 4 params.quantity) :
    (row.sent params).quantityOnHand = row.quantityOnHand - Numeric.ofRat params.quantity :=
  Numeric.ofRat_toRat_sub_of_not_tie h

theorem onHand_arrived (balances : OrderedMap (StoreId × LotId) InventoryBalance)
    (key : StoreId × LotId) (params : MoveLotQuantityParams) :
    (arrived (balances.get? key) params).quantityOnHand =
      balances.valueAt (·.quantityOnHand) key + Numeric.ofRat params.quantity := by
  unfold OrderedMap.valueAt
  cases balances.get? key with
  | none => exact (zero_add _).symm
  | some row => rfl

variable {db db' : WarehouseDb} {line : StoreTransferLine} {lineId : LineId}

/-- A move of an amount that is no tie. -/
theorem moveLotQuantity_ok {params : MoveLotQuantityParams}
    (htie : ¬ Numeric.IsTie 4 params.quantity)
    (h : moveLotQuantityBetweenStores db params = .ok db') :
    LotMoved params.fromStoreId params.toStoreId params.productLotId
      (Numeric.ofRat params.quantity) db db' := by
  unfold moveLotQuantityBetweenStores at h
  simp only [bind_eq_ok, require_eq_ok, orThrow_eq_ok, pure_eq_ok] at h
  obtain ⟨-, -, source, hsource, -, -, rfl⟩ := h
  set source' := (params.fromStoreId, params.productLotId) with hfrom
  set target := (params.toStoreId, params.productLotId) with hto
  set sent := db.balances.set source' (source.sent params) with hsent
  have hvalueSent : ∀ key, sent.valueAt (·.quantityOnHand) key =
      db.balances.valueAt (·.quantityOnHand) key -
        if key = source' then Numeric.ofRat params.quantity else 0 := by
    intro key
    rw [hsent, OrderedMap.valueAt_set]
    split
    · rename_i hkey
      rw [hkey, onHand_sent htie, OrderedMap.valueAt_of_get? hsource]
    · rw [sub_zero]
  have harrived : (arrived (sent.get? target) params).quantityOnHand =
      sent.valueAt (·.quantityOnHand) target + Numeric.ofRat params.quantity :=
    onHand_arrived sent target params
  have hvalue : ∀ key, (sent.set target (arrived (sent.get? target) params)).valueAt
      (·.quantityOnHand) key = db.balances.valueAt (·.quantityOnHand) key +
        ((if key = target then Numeric.ofRat params.quantity else 0) -
          if key = source' then Numeric.ofRat params.quantity else 0) := by
    intro key
    rw [OrderedMap.valueAt_set]
    split
    · rename_i hkey
      rw [harrived, hvalueSent, hkey]
      abel
    · rw [hvalueSent]
      abel
  refine ⟨rfl, fun lot => ?_, fun store lot => ?_, fun key row hrow => ?_⟩
  · show (sent.set target _).sumWhere _ _ = _
    rw [OrderedMap.sumWhere_set, harrived, hsent, OrderedMap.sumWhere_set, ← hsent,
      onHand_sent htie, OrderedMap.valueAt_of_get? hsource]
    by_cases hlot : params.productLotId = lot
    · simp only [hfrom, hto, hlot, decide_true, if_true]
      show totalOnHand db lot + _ + _ = _
      abel
    · simp only [hfrom, hto, hlot, decide_false, Bool.false_eq_true, if_false, add_zero]
      rfl
  · show (sent.set target _).valueAt _ _ = _
    rw [hvalue]
    by_cases hlot : lot = params.productLotId
    · simp [hfrom, hto, hlot, onHandAt]
    · simp [hfrom, hto, hlot, onHandAt]
  · rw [OrderedMap.get?_set] at hrow
    split at hrow
    · exact .inl ‹_›
    · rw [hsent, OrderedMap.get?_set] at hrow
      split at hrow
      · rename_i hkey
        exact .inr ⟨source, hkey ▸ hsource⟩
      · exact .inr ⟨row, hrow⟩

/-! ## Stores -/

/-- The code of the store for goods on their way. -/
def transitCode : String := transitStoreData.code

/-- Ids are given out in order, codes are not shared, and a balance is of a store. -/
structure StoresOk (db : WarehouseDb) : Prop where
  ids : ∀ id row, db.stores.get? id = some row → id < db.nextId
  codes : db.stores.UniqueBy (·.code)
  balances : ∀ key row, db.balances.get? key = some row →
    ∃ store, db.stores.get? key.1 = some store

/-- Stores keep their codes, the one in transit its type, and new ones get new ids. -/
structure StoresKept (db db' : WarehouseDb) : Prop where
  nextId_le : db.nextId ≤ db'.nextId
  kept : ∀ id row, db.stores.get? id = some row → ∃ row', db'.stores.get? id = some row' ∧
    row'.code = row.code ∧
    (row.code = transitCode → row.storeType = .TRANSIT → row'.storeType = .TRANSIT)
  added : ∀ id row', db'.stores.get? id = some row' →
    (∃ row, db.stores.get? id = some row ∧ row'.code = row.code) ∨ db.nextId ≤ id

theorem StoresKept.of_eq (hstores : db'.stores = db.stores) (hnext : db.nextId ≤ db'.nextId) :
    StoresKept db db' where
  nextId_le := hnext
  kept _ row hrow := ⟨row, hstores ▸ hrow, rfl, fun _ h => h⟩
  added _ row' hrow := .inl ⟨row', hstores ▸ hrow, rfl⟩

theorem StoresKept.trans {db'' : WarehouseDb} (h : StoresKept db db') (h' : StoresKept db' db'') :
    StoresKept db db'' where
  nextId_le := h.nextId_le.trans h'.nextId_le
  kept id row hrow := by
    obtain ⟨row', hrow', hcode', htype'⟩ := h.kept id row hrow
    obtain ⟨row'', hrow'', hcode'', htype''⟩ := h'.kept id row' hrow'
    exact ⟨row'', hrow'', hcode''.trans hcode',
      fun hcode htype => htype'' (hcode'.trans hcode) (htype' hcode htype)⟩
  added id row'' hrow := by
    rcases h'.added id row'' hrow with ⟨row', hrow', hcode'⟩ | hnew
    · rcases h.added id row' hrow' with ⟨row, hrow, hcode⟩ | hnew
      · exact .inl ⟨row, hrow, hcode'.trans hcode⟩
      · exact .inr hnew
    · exact .inr (h.nextId_le.trans hnew)

theorem storeByCode_some {code : String} {e : StoreId × StoreLocation}
    (h : storeByCode db code = some e) : db.stores.get? e.1 = some e.2 ∧ e.2.code = code := by
  have htest := List.find?_some h
  exact ⟨OrderedMap.get?_eq_some_iff.mpr (List.mem_of_find?_eq_some h), of_decide_eq_true htest⟩

theorem storeByCode_none {code : String} (h : storeByCode db code = none)
    {e : StoreId × StoreLocation} (he : e ∈ db.stores.entries) : e.2.code ≠ code := by
  have hnot := List.find?_eq_none.mp h e he
  simpa using hnot

/-- What ensuring a store does. -/
structure StoreEnsured (code : String) (storeType : StoreType) (db : WarehouseDb)
    (out : StoreId × WarehouseDb) : Prop where
  eq : out.2 = { db with stores := out.2.stores, nextId := out.2.nextId }
  ok : StoresOk out.2
  kept : StoresKept db out.2
  store : ∃ row, out.2.stores.get? out.1 = some row ∧ row.code = code ∧ row.storeType = storeType

theorem upsertByCode_ensured (hdb : StoresOk db) (data : StoreData)
    (hdata : data.code = transitCode → data.storeType = .TRANSIT) :
    StoreEnsured data.code data.storeType db (upsertByCode db data) := by
  unfold upsertByCode
  dsimp only
  cases hfind : storeByCode db data.code with
  | some e =>
    obtain ⟨id, old⟩ := e
    obtain ⟨hold, hcode⟩ := storeByCode_some hfind
    refine ⟨rfl, ⟨fun k row hrow => ?_, ?_, fun key row hrow => ?_⟩,
      ⟨le_rfl, fun k row hrow => ?_, fun k row' hrow => ?_⟩, ⟨_, OrderedMap.get?_set_self .., rfl, rfl⟩⟩
    · rw [OrderedMap.get?_set] at hrow
      split at hrow
      · rename_i hk
        exact hdb.ids k old (hk ▸ hold)
      · exact hdb.ids k row hrow
    · refine hdb.codes.set fun e he hne heq => ?_
      exact hdb.codes.free hold e he hne (heq.trans hcode.symm)
    · obtain ⟨store, hstore⟩ := hdb.balances key row hrow
      dsimp only
      rw [OrderedMap.get?_set]
      split
      · exact ⟨_, rfl⟩
      · exact ⟨store, hstore⟩
    · rw [OrderedMap.get?_set]
      split
      · rename_i hk
        have hsame : row = old := Option.some.inj ((hk ▸ hrow).symm.trans hold)
        subst hsame
        exact ⟨_, rfl, hcode.symm, fun htransit _ => hdata (hcode.symm.trans htransit)⟩
      · exact ⟨row, hrow, rfl, fun _ h => h⟩
    · rw [OrderedMap.get?_set] at hrow
      split at hrow
      · rename_i hk
        have hrow' := Option.some.inj hrow
        exact .inl ⟨old, hk ▸ hold, by rw [← hrow', hcode]⟩
      · exact .inl ⟨row', hrow, rfl⟩
  | none =>
    have hfresh : db.stores.get? db.nextId = none := by
      rcases Option.eq_none_or_eq_some (db.stores.get? db.nextId) with hnone | ⟨row, hrow⟩
      · exact hnone
      · exact absurd (hdb.ids _ _ hrow) (lt_irrefl _)
    refine ⟨rfl, ⟨fun k row hrow => ?_, ?_, fun key row hrow => ?_⟩,
      ⟨Nat.le_succ _, fun k row hrow => ?_, fun k row' hrow => ?_⟩,
      ⟨_, OrderedMap.get?_set_self .., rfl, rfl⟩⟩
    · rw [OrderedMap.get?_set] at hrow
      split at hrow
      · rename_i hk
        exact hk ▸ Nat.lt_succ_self _
      · exact Nat.lt_succ_of_lt (hdb.ids k row hrow)
    · exact hdb.codes.set fun e he _ => storeByCode_none hfind he
    · obtain ⟨store, hstore⟩ := hdb.balances key row hrow
      dsimp only
      rw [OrderedMap.get?_set]
      split
      · exact ⟨_, rfl⟩
      · exact ⟨store, hstore⟩
    · have hne : k ≠ db.nextId := fun hk => by
        rw [hk, hfresh] at hrow
        cases hrow
      exact ⟨row, (OrderedMap.get?_set_of_ne hne _ _).trans hrow, rfl, fun _ h => h⟩
    · rw [OrderedMap.get?_set] at hrow
      split at hrow
      · rename_i hk
        exact .inr hk.ge
      · exact .inl ⟨row', hrow, rfl⟩

theorem getStoreByType_some {storeType : StoreType} {e : StoreId × StoreLocation}
    (h : getStoreByType db storeType = some e) :
    db.stores.get? e.1 = some e.2 ∧ e.2.storeType = storeType := by
  have hmem := (List.perm_insertionSort _ _).mem_iff.mp (List.mem_of_head? h)
  obtain ⟨hentry, htest⟩ := List.mem_filter.mp hmem
  rw [Bool.and_eq_true] at htest
  exact ⟨OrderedMap.get?_eq_some_iff.mpr hentry, of_decide_eq_true htest.2⟩

/-- The quarantine store is of its type, whatever its code. -/
theorem ensureDamageStore_ensured (hdb : StoresOk db) :
    ∃ code, StoreEnsured code .DAMAGE db (ensureDamageStore db) := by
  unfold ensureDamageStore
  cases hfind : getStoreByType db .DAMAGE with
  | some e =>
    obtain ⟨hrow, htype⟩ := getStoreByType_some hfind
    exact ⟨e.2.code, rfl, hdb, .of_eq rfl le_rfl, ⟨e.2, hrow, rfl, htype⟩⟩
  | none => exact ⟨_, upsertByCode_ensured hdb damageStoreData (by decide)⟩

/-! ## Lines -/

theorem mem_linesOf {transferId : TransferId} {e : LineId × StoreTransferLine} :
    e ∈ linesOf db transferId ↔
      db.lines.get? e.1 = some e.2 ∧ e.2.storeTransferId = transferId := by
  unfold linesOf
  rw [(List.perm_insertionSort _ _).mem_iff, List.mem_filter, decide_eq_true_iff,
    ← OrderedMap.get?_eq_some_iff]

theorem linesOf_nodup (db : WarehouseDb) (transferId : TransferId) :
    ((linesOf db transferId).map (·.1)).Nodup := by
  unfold linesOf
  rw [((List.perm_insertionSort _ _).map _).nodup_iff]
  exact db.lines.nodup.sublist (List.filter_sublist.map _)

/-- A line is of the same order position, only its quantities and comments change. -/
structure SameLine (line line' : StoreTransferLine) : Prop where
  storeTransferId : line'.storeTransferId = line.storeTransferId
  productId : line'.productId = line.productId
  productLotId : line'.productLotId = line.productLotId
  quantity : line'.quantity = line.quantity

/-- The quantities a line is written with. -/
structure Written (line line' : StoreTransferLine) (approved : Option Quantity)
    (dispatched received shortage : Quantity) : Prop where
  same : SameLine line line'
  quantityApproved : line'.quantityApproved = approved
  quantityDispatched : line'.quantityDispatched = dispatched
  quantityReceived : line'.quantityReceived = received
  quantityShortage : line'.quantityShortage = shortage

theorem write_ok {line' : StoreTransferLine} {approved : Option Quantity}
    {dispatched received shortage : Quantity}
    (h : line.write approved dispatched received shortage = .ok line') :
    Written line line' approved dispatched received shortage := by
  unfold StoreTransferLine.write at h
  split at h
  · cases h
    exact ⟨⟨rfl, rfl, rfl, rfl⟩, rfl, rfl, rfl, rfl⟩
  · cases h

/-- An update of a line that is there. -/
theorem updateLine_ok {f : StoreTransferLine → Except TransferError StoreTransferLine}
    (hline : db.lines.get? lineId = some line) (h : updateLine db lineId f = .ok db') :
    ∃ line', f line = .ok line' ∧ db' = { db with lines := db.lines.set lineId line' } := by
  unfold updateLine at h
  rw [hline] at h
  simp only [bind_eq_ok, pure_eq_ok] at h
  obtain ⟨line', hf, rfl⟩ := h
  exact ⟨line', hf, rfl⟩

theorem markLineDispatched_ok {quantity : ℚ} (hline : db.lines.get? lineId = some line)
    (htie : ¬ Numeric.IsTie 4 quantity) (h : markLineDispatched db lineId quantity = .ok db') :
    ∃ line', Written line line' line.quantityApproved
        (line.quantityDispatched + Numeric.ofRat quantity) line.quantityReceived
        line.quantityShortage ∧
      db' = { db with lines := db.lines.set lineId line' } := by
  obtain ⟨line', hwrite, rfl⟩ := updateLine_ok hline h
  have hsum : addToColumn line.quantityDispatched quantity =
      line.quantityDispatched + Numeric.ofRat quantity := Numeric.ofRat_toRat_add_of_not_tie htie
  rw [hsum] at hwrite
  exact ⟨line', write_ok hwrite, rfl⟩

theorem markLineReceived_ok {quantity shortageDelta : ℚ} {receiveComment : Option String}
    (hline : db.lines.get? lineId = some line) (htie : ¬ Numeric.IsTie 4 quantity)
    (htie' : ¬ Numeric.IsTie 4 shortageDelta)
    (h : markLineReceived db lineId quantity receiveComment shortageDelta = .ok db') :
    ∃ line', Written line line' line.quantityApproved line.quantityDispatched
        (line.quantityReceived + Numeric.ofRat quantity)
        (line.quantityShortage + Numeric.ofRat shortageDelta) ∧
      db' = { db with lines := db.lines.set lineId line' } := by
  obtain ⟨line', hf, rfl⟩ := updateLine_ok hline h
  simp only [bind_eq_ok, pure_eq_ok] at hf
  obtain ⟨written, hwrite, rfl⟩ := hf
  rw [addToColumn, addToColumn, Numeric.ofRat_toRat_add_of_not_tie htie,
    Numeric.ofRat_toRat_add_of_not_tie htie'] at hwrite
  obtain ⟨⟨hid, hproduct, hlot, hquantity⟩, happroved, hd, hr, hs⟩ := write_ok hwrite
  exact ⟨{ written with receiveComment := receiveComment.or written.receiveComment },
    ⟨⟨hid, hproduct, hlot, hquantity⟩, happroved, hd, hr, hs⟩, rfl⟩

theorem setLineApproval_ok {quantityApproved : ℚ} {approvalComment : Option String}
    (hline : db.lines.get? lineId = some line)
    (h : setLineApproval db lineId quantityApproved approvalComment = .ok db') :
    ∃ line', Written line line' (some (Numeric.ofRat quantityApproved)) line.quantityDispatched
        line.quantityReceived line.quantityShortage ∧
      db' = { db with lines := db.lines.set lineId line' } := by
  obtain ⟨line', hf, rfl⟩ := updateLine_ok hline h
  simp only [bind_eq_ok, pure_eq_ok] at hf
  obtain ⟨written, hwrite, rfl⟩ := hf
  obtain ⟨⟨hid, hproduct, hlot, hquantity⟩, happroved, hd, hr, hs⟩ := write_ok hwrite
  exact ⟨{ written with approvalComment := approvalComment.or written.approvalComment },
    ⟨⟨hid, hproduct, hlot, hquantity⟩, happroved, hd, hr, hs⟩, rfl⟩

/-- A dispatch comment does not touch the quantities. -/
theorem setLineDispatchComment_eq {approved : Option Quantity}
    {dispatched received shortage : Quantity} {written : StoreTransferLine}
    (hwritten : Written line written approved dispatched received shortage)
    (dispatchComment : Option String) :
    ∃ line', Written line line' approved dispatched received shortage ∧
      setLineDispatchComment { db with lines := db.lines.set lineId written } lineId
        dispatchComment = { db with lines := db.lines.set lineId line' } := by
  unfold setLineDispatchComment
  split
  · exact ⟨written, hwritten, rfl⟩
  · rename_i comment _
    obtain ⟨⟨hid, hproduct, hlot, hquantity⟩, happroved, hd, hr, hs⟩ := hwritten
    refine ⟨{ written with dispatchComment := some comment },
      ⟨⟨hid, hproduct, hlot, hquantity⟩, happroved, hd, hr, hs⟩, ?_⟩
    dsimp only
    rw [OrderedMap.modify_set_self]

end SmartErpPos.Transfers
