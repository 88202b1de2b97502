/-
  Sales/ReturnRaceRuns.lean --- when committed returns and voids stay within the sale.

  A refund that commits while the items of the sale are still as it read them, and the sale
  has not been voided, does what it would have done alone at that moment: its amount is
  charged against the refunds that stand, and its last update sees every returned quantity.
  A void protects itself, because its update asks for a completed sale.
-/
import SmartErpPos.Sales.ReturnRaceInvariant

set_option autoImplicit false

namespace SmartErpPos.Sales

open SmartErpPos.Lib

/-! ## The condition -/

instance (refundItems : List (ℕ × ℚ)) : Decidable (FitsColumns refundItems) :=
  decidable_of_iff ((refundItems.map (·.1)).Nodup ∧ ∀ e ∈ refundItems, OnGrid 4 e.2)
    ⟨fun h => ⟨h.1, h.2⟩, fun h => ⟨h.once, h.grid⟩⟩

/-- The refunds that may commit: the sale has not been voided and its items are as the refund
read them; the quantities fit the column and name no item twice; and goods that leave nothing
are worth more than 0.02, or nothing is left to give back. -/
def MayCommit (sale : Sale) (work : RefundWork) : Prop :=
  sale.status ≠ .VOID ∧ work.saleItems = sale.items ∧ FitsColumns work.input.items ∧
    (LeavesNothing sale.items work.input.items →
      SALE_DISCOUNT_MONEY_TOLERANCE < remainingWorth sale.items ∨
        sale.refundedChargedTotal = sale.totalAmount.toRat)

instance (sale : Sale) (work : RefundWork) : Decidable (MayCommit sale work) :=
  inferInstanceAs (Decidable (_ ∧ _))

def Txn.MayGoOn (sale : Sale) : Txn → Prop
  | .refundMarked work _ _ _ => MayCommit sale work
  | _ => True

instance (sale : Sale) (txn : Txn) : Decidable (txn.MayGoOn sale) := by
  cases txn <;> unfold Txn.MayGoOn <;> infer_instance

/-- No refund commits that may not. -/
def KeepsGivenBack (db : RaceDb) : RaceAction → Prop
  | .run tid => ∀ txn ∈ db.txns.get? tid, txn.MayGoOn db.sale
  | _ => True

instance (db : RaceDb) (action : RaceAction) : Decidable (KeepsGivenBack db action) := by
  cases action <;> unfold KeepsGivenBack <;> infer_instance

/-! ## Writing the items -/

theorem ownItems_empty (items : List SaleItem) : ownItems .empty items = items := by
  unfold ownItems
  simp

variable {items : List SaleItem} {raised : Raised} {db : RaceDb} {tid : TxnId}
  {rows : List ValidatedItem}

/-- The update of one row, seen by its own transaction. -/
theorem incrementRefundedQty_ownItems {row : ValidatedItem} {refundedQty : Quantity}
    (hids : (items.map (·.id)).Nodup)
    (h : raiseItem (ownItems raised items) row = some refundedQty) :
    incrementRefundedQty (ownItems raised items) row =
      .ok (ownItems (raised.set row.saleItem.id refundedQty) items) := by
  have hownIds : (ownItems raised items).map (·.id) = items.map (·.id) := by
    unfold ownItems
    rw [List.map_map]
    refine List.map_congr_left fun item _ => ?_
    dsimp only [Function.comp_apply]
    split <;> rfl
  unfold raiseItem at h
  cases hfind : (ownItems raised items).find? fun item => decide (item.id = row.saleItem.id) with
  | none => simp [hfind] at h
  | some current =>
    simp only [hfind] at h
    split at h
    · rename_i hguard
      cases h
      have hmem : current ∈ ownItems raised items := List.mem_of_find?_eq_some hfind
      have hid : current.id = row.saleItem.id := by simpa using List.find?_some hfind
      simp only [incrementRefundedQty, bind_eq_ok, orThrow_eq_ok, require_eq_ok, pure_eq_ok]
      refine ⟨current, hfind, (), hguard, ?_⟩
      -- the row of `current` is the only one with its id
      have hunique : ∀ x ∈ ownItems raised items, x.id = row.saleItem.id → x = current :=
        fun x hx hxid => List.inj_on_of_nodup_map (hownIds ▸ hids) hx hmem (hxid.trans hid.symm)
      have hmap : (ownItems raised items).map (fun item =>
          if item.id = row.saleItem.id then
            { item with refundedQty := .ofRat (item.refundedQty.toRat + row.refundQty) }
          else item) = (ownItems raised items).map fun item =>
          if item.id = row.saleItem.id then
            { item with refundedQty := .ofRat (current.refundedQty.toRat + row.refundQty) }
          else item := by
        refine List.map_congr_left fun x hx => ?_
        by_cases hxid : x.id = row.saleItem.id
        · rw [hunique x hx hxid]
        · rw [if_neg hxid, if_neg hxid]
      rw [hmap]
      unfold ownItems
      rw [List.map_map]
      refine List.map_congr_left fun item _ => ?_
      dsimp only [Function.comp_apply]
      rw [OrderedMap.get?_set]
      by_cases hitem : item.id = row.saleItem.id
      · rw [if_pos hitem]
        cases raised.get? item.id <;> simp [hitem]
      · rw [if_neg hitem]
        cases raised.get? item.id <;> simp [hitem]
    · cases h

/-! ## Statements before the commit -/

/-- The status a refund writes is the right one. -/
theorem markCurrent_of_counted {work : RefundWork} {isFullRefund : Bool}
    (hconsistent : Consistent db) (hwork : WorkSound db.sale work)
    (hfull : work.saleItems = db.sale.items →
      isFullRefund = isSaleFullyRefunded (ownItems raised db.sale.items)) :
    MarkCurrent db.sale work raised (markSale work isFullRefund db.sale.status) := by
  intro hcurrent hnotVoid
  rw [← hfull hcurrent]
  have hopen : db.sale.status ≠ .VOIDED_BY_RETURN := by
    intro hreturned
    have hall := (hconsistent.spent hreturned).1
    obtain ⟨e, rest, hitems⟩ := List.exists_cons_of_ne_nil hwork.named
    have hvalidated := hwork.validated
    rw [hitems, List.mapM_cons, bind_eq_ok] at hvalidated
    obtain ⟨row, hrow, -⟩ := hvalidated
    obtain ⟨hmem, -, -, hpos, hle⟩ := validateItem_spec hrow
    rw [hcurrent] at hmem
    have hspent : ¬ (0 : ℚ) < (row.saleItem.quantity - row.saleItem.refundedQty).toRat := by
      rw [Numeric.toRat_pos_iff, not_lt]
      exact sub_nonpos.mpr (hall _ hmem)
    exact hspent (lt_of_lt_of_le hpos hle)
  have hstatus : db.sale.status = .COMPLETED ∨ db.sale.status = .PARTIALLY_RETURNED := by
    have hnotRefunded := hconsistent.status
    cases hs : db.sale.status with
    | COMPLETED => exact .inl rfl
    | PARTIALLY_RETURNED => exact .inr rfl
    | VOID => exact absurd hs hnotVoid
    | REFUNDED => exact absurd hs hnotRefunded
    | VOIDED_BY_RETURN => exact absurd hs hopen
  unfold markSale
  cases isFullRefund with
  | true => simp [hstatus]
  | false =>
    rcases hstatus with hs | hs
    · have hheader : work.header.status = .COMPLETED := by
        rcases hwork.seen.status with hc | hp
        · exact hc
        · exact absurd hs (hwork.seen.past hp)
      simp [hs, hheader]
    · simp [hs]

/-- Every statement but a commit only moves its own transaction on. -/
inductive Moves (db : RaceDb) (tid : TxnId) : RaceDb → Prop where
  | on (txn : Txn) (hsound : TxnSound db.sale txn)
      (hlock : txn.newStatus.isSome → db.saleLocked tid = false) : Moves db tid (db.put tid txn)
  | refunds {work : RefundWork} {refund : RefundDocument} {raised : Raised}
      {newStatus : Option SaleStatus}
      (hget : db.txns.get? tid = some (.refundMarked work refund raised newStatus)) :
      Moves db tid
        { db with
          sale :=
            { db.sale with
              items := ownItems raised db.sale.items
              refunds := db.sale.refunds ++ [refund]
              status := newStatus.getD db.sale.status }
          restored := db.restored ++ work.rows.map fun row => (row.saleItem.id, row.refundQty)
          txns := db.txns.set tid .over }
  | voids {header : Sale} {saleItems : List SaleItem}
      (hget : db.txns.get? tid = some (.voidMarked header saleItems)) :
      Moves db tid
        { sale := { db.sale with status := .VOID }
          restored := db.restored ++ saleItems.map fun item => (item.id, item.quantity.toRat)
          reversed := db.reversed + header.totalAmount.toRat
          txns := db.txns.set tid .over }

theorem moves_of_run {db' : RaceDb} (hinv : RaceInv db) (h : db.run tid = some db') :
    Moves db tid db' := by
  have hids := hinv.consistent.items.ids
  have hover : Moves db tid (db.put tid .over) := .on _ trivial fun hs => by cases hs
  unfold RaceDb.run at h
  cases hget : db.txns.get? tid with
  | none => simp [hget] at h
  | some txn =>
    have hsound := hinv.sound tid txn hget
    cases txn with
    | «over» => simp [hget] at h
    | refundBegun env input =>
      simp only [hget] at h
      cases hcheck : checkRefund env db.sale input with
      | error e =>
        simp only [hcheck, Option.some.injEq] at h
        exact h ▸ hover
      | ok u =>
        simp only [hcheck, Option.some.injEq] at h
        simp only [checkRefund, bind_eq_ok, require_eq_ok] at hcheck
        obtain ⟨-, hstatus, -, -, -, -, -, -, -, hitems, -⟩ := hcheck
        refine h ▸ .on _ ⟨⟨rfl, rfl, hstatus, fun hp hc => ?_⟩, hitems⟩ fun hs => by cases hs
        rw [hp] at hc
        cases hc
    | refundSale input header =>
      simp only [hget] at h
      cases hvalid : input.items.mapM (validateItem db.sale.items) with
      | error e =>
        simp only [hvalid, Option.some.injEq] at h
        exact h ▸ hover
      | ok rows =>
        simp only [hvalid, Option.some.injEq] at h
        exact h ▸ .on (.refundItems ⟨input, header, db.sale.items, rows⟩)
          ⟨hsound.1, hsound.2, hvalid, le_rfl⟩ fun hs => by cases hs
    | refundItems work =>
      simp only [hget, Option.some.injEq] at h
      exact h ▸ .on _ ⟨hsound, fun _ => rfl⟩ fun hs => by cases hs
    | refundCharged work refund =>
      simp only [hget, Option.some.injEq] at h
      refine h ▸ .on _ ⟨hsound.1, hsound.2, [], rfl, fun _ => ?_⟩ fun hs => by cases hs
      rw [ownItems_empty]
      rfl
    | refundRaising work refund todo raised =>
      obtain ⟨hwork, hdoc, done, hrows, hraised⟩ := hsound
      cases todo with
      | nil =>
        simp only [hget, Option.some.injEq] at h
        rw [List.append_nil] at hrows
        exact h ▸ .on _ ⟨hwork, hdoc, hrows ▸ hraised⟩ fun hs => by cases hs
      | cons row rest =>
        simp only [hget] at h
        split at h
        · cases h
        · cases hraise : raiseItem (ownItems raised db.sale.items) row with
          | none =>
            simp only [hraise, Option.some.injEq] at h
            exact h ▸ hover
          | some refundedQty =>
            simp only [hraise, Option.some.injEq] at h
            refine h ▸ .on _ ⟨hwork, hdoc, done ++ [row], ?_, fun hcurrent => ?_⟩
              fun hs => by cases hs
            · rw [hrows, List.append_assoc]
              rfl
            · rw [List.foldlM_append, hraised hcurrent]
              have hone := incrementRefundedQty_ownItems hids hraise
              show [row].foldlM incrementRefundedQty _ = _
              rw [List.foldlM_cons, hone]
              rfl
    | refundStocked work refund raised =>
      simp only [hget, Option.some.injEq] at h
      exact h ▸ .on _ ⟨hsound.1, hsound.2.1, hsound.2.2, fun _ => rfl⟩ fun hs => by cases hs
    | refundCounted work refund raised isFullRefund =>
      obtain ⟨hwork, hdoc, hraised, hfull⟩ := hsound
      simp only [hget] at h
      split at h
      · cases h
      · rename_i hfree
        cases h
        refine .on _ ⟨hwork, hdoc, hraised,
          markCurrent_of_counted hinv.consistent hwork hfull⟩ fun hs => ?_
        have hmarks : marksSale work isFullRefund = true := by
          unfold marksSale
          cases isFullRefund with
          | true => rfl
          | false =>
            by_cases hheader : work.header.status = .COMPLETED
            · simp [hheader]
            · simp [Txn.newStatus, markSale, hheader] at hs
        rw [hmarks, Bool.true_and, Bool.not_eq_true] at hfree
        exact hfree
    | refundMarked work refund raised newStatus =>
      simp only [hget, Option.some.injEq] at h
      exact h ▸ .refunds hget
    | voidBegun env input =>
      simp only [hget] at h
      cases hcheck : checkVoid env db.sale input with
      | error e =>
        simp only [hcheck, Option.some.injEq] at h
        exact h ▸ hover
      | ok u =>
        simp only [hcheck, Option.some.injEq] at h
        exact h ▸ .on (.voidSale db.sale) rfl fun hs => by cases hs
    | voidSale header =>
      simp only [hget, Option.some.injEq] at h
      exact h ▸ .on (.voidItems header db.sale.items) ⟨hsound, rfl⟩ fun hs => by cases hs
    | voidItems header saleItems =>
      simp only [hget, Option.some.injEq] at h
      exact h ▸ .on (.voidStocked header saleItems) hsound fun hs => by cases hs
    | voidStocked header saleItems =>
      simp only [hget] at h
      split at h
      · cases h
      · rename_i hfree
        split at h
        · rename_i hcompleted
          cases h
          exact .on (.voidMarked header saleItems) ⟨hsound.1, hsound.2, hcompleted⟩
            fun _ => by simpa using hfree
        · simp only [Option.some.injEq] at h
          exact h ▸ hover
    | voidMarked header saleItems =>
      simp only [hget, Option.some.injEq] at h
      exact h ▸ .voids hget

/-! ## Committing a return -/

theorem restoredOf_append (restored more : List (ℕ × ℚ)) (id : ℕ) :
    restoredOf (restored ++ more) id = restoredOf restored id + restoredOf more id := by
  unfold restoredOf
  rw [List.filter_append, List.map_append, List.sum_append]

/-- What a return puts back of an item is what it adds to its returned quantity. -/
theorem restoredOf_rows (hgrid : ∀ row ∈ rows, OnGrid 4 row.refundQty) (id : ℕ) :
    restoredOf (rows.map fun row => (row.saleItem.id, row.refundQty)) id =
      (itemUnits rows id).toRat := by
  induction rows with
  | nil => exact Numeric.toRat_zero.symm
  | cons row rest ih =>
    obtain ⟨hrow, hrest⟩ := List.forall_mem_cons.mp hgrid
    have hround : (Numeric.ofRat row.refundQty : Quantity).toRat = row.refundQty :=
      hrow.roundTo_eq
    have hunits : itemUnits (row :: rest) id =
        (if row.saleItem.id = id then (.ofRat row.refundQty : Quantity) else 0) +
          itemUnits rest id := rfl
    rw [hunits, Numeric.toRat_add, ← ih hrest]
    unfold restoredOf
    by_cases hid : row.saleItem.id = id
    · simp [hid, hround]
    · simp [hid]

theorem itemUnits_nonneg (hpos : ∀ row ∈ rows, 0 < row.refundQty) (id : ℕ) :
    0 ≤ itemUnits rows id := by
  refine List.sum_nonneg fun x hx => ?_
  obtain ⟨row, hrow, rfl⟩ := List.mem_map.mp hx
  split
  · exact Numeric.ofRat_nonneg (hpos row hrow).le
  · exact le_rfl

/-- A return of storable quantities brings something back. -/
theorem Returned.more {items' : List SaleItem} (h : Returned rows items items') (hsome : rows ≠ [])
    (hpos : ∀ row ∈ rows, 0 < row.refundQty) (hgrid : ∀ row ∈ rows, OnGrid 4 row.refundQty)
    (hmem : ∀ row ∈ rows, row.saleItem ∈ items) : returnedTotal items < returnedTotal items' := by
  obtain ⟨row, rest, rfl⟩ := List.exists_cons_of_ne_nil hsome
  unfold returnedTotal
  rw [h.after, List.map_map]
  refine List.sum_lt_sum _ _ (fun item _ => le_add_of_nonneg_right (itemUnits_nonneg hpos _))
    ⟨row.saleItem, hmem row List.mem_cons_self, lt_add_of_pos_right _ ?_⟩
  have hround : (Numeric.ofRat row.refundQty : Quantity).toRat = row.refundQty :=
    (hgrid row List.mem_cons_self).roundTo_eq
  have hfirst : (0 : Quantity) < .ofRat row.refundQty := by
    rw [← Numeric.toRat_pos_iff, hround]
    exact hpos row List.mem_cons_self
  have hunits : itemUnits (row :: rest) row.saleItem.id =
      .ofRat row.refundQty + itemUnits rest row.saleItem.id := by
    simp [itemUnits]
  rw [hunits]
  exact add_pos_of_pos_of_nonneg hfirst
    (itemUnits_nonneg (fun r hr => hpos r (List.mem_cons_of_mem _ hr)) _)

/-- The charge depends on the sale by its total, its tax and its items. -/
theorem chargeRefund_congr (sale sale' : Sale) (htotal : sale'.totalAmount = sale.totalAmount)
    (htax : sale'.taxAmount = sale.taxAmount) (hitems : sale'.items = sale.items) (already : ℚ)
    (rows : List ValidatedItem) :
    chargeRefund sale' already rows = chargeRefund sale already rows := by
  unfold chargeRefund
  rw [htotal, htax, hitems]

theorem refundedChargedTotal_append (refunds : List RefundDocument) (refund : RefundDocument) :
    (((refunds ++ [refund]).map (·.totalAmount)).sum : Cents).toRat =
      ((refunds.map (·.totalAmount)).sum : Cents).toRat + refund.totalAmount.toRat := by
  simp

/-- A refund that may commit keeps the invariant. -/
theorem RaceInv.refunds (hinv : RaceInv db) {work : RefundWork} {refund : RefundDocument}
    {newStatus : Option SaleStatus}
    (hget : db.txns.get? tid = some (.refundMarked work refund raised newStatus))
    (hkeeps : KeepsGivenBack db (.run tid)) :
    RaceInv
      { db with
        sale :=
          { db.sale with
            items := ownItems raised db.sale.items
            refunds := db.sale.refunds ++ [refund]
            status := newStatus.getD db.sale.status }
        restored := db.restored ++ work.rows.map fun row => (row.saleItem.id, row.refundQty)
        txns := db.txns.set tid .over } := by
  obtain ⟨hnotVoid, hcurrent, hfits, hworth⟩ := hkeeps _ hget
  obtain ⟨hwork, hdoc, hraised, hmark⟩ := hinv.sound tid _ hget
  have hcons := hinv.consistent
  have hvalid := hwork.validated
  rw [hcurrent] at hvalid
  have hrows := validated_spec hvalid
  have hgrid : ∀ row ∈ work.rows, OnGrid 4 row.refundQty := fun row hrow =>
    hfits.grid _ (hrows row hrow).2.2
  have hreturned := returned_of_validated hcons.items hvalid (hraised hcurrent)
  have hsome : work.rows ≠ [] := by
    intro hnone
    have hids : work.rows.map (fun row => row.saleItem.id) = work.input.items.map (·.1) :=
      map_eq_of_mapM_eq_ok hvalid fun e row hrow => (validateItem_spec hrow).2.1
    rw [hnone, List.map_nil, eq_comm, List.map_eq_nil_iff] at hids
    exact hwork.named hids
  have hstatus := hmark hcurrent hnotVoid
  -- what is charged is what the refund would charge alone, now
  have hcharge : refund.totalAmount.toRat =
      (chargeRefund db.sale db.sale.refundedChargedTotal work.rows).refundChargedTotal := by
    have hbounds := (chargeRefund_bounds work.rows hcons.charged.1 hcons.charged.2).1.2.2
    have hsame : chargeRefund { work.header with items := work.saleItems }
        db.sale.refundedChargedTotal work.rows =
          chargeRefund db.sale db.sale.refundedChargedTotal work.rows :=
      chargeRefund_congr db.sale { work.header with items := work.saleItems } hwork.seen.total
        hwork.seen.tax hcurrent _ _
    rw [hdoc hcurrent]
    unfold RefundWork.document
    dsimp only
    rw [hsame, roundSaleMoney_of_onGrid hbounds]
    exact hbounds.roundTo_eq
  have hafter := refundedChargedTotal_append db.sale.refunds refund
  rw [hcharge] at hafter
  obtain ⟨⟨hnonneg, hle, -⟩, hclosing⟩ :=
    chargeRefund_bounds work.rows hcons.charged.1 hcons.charged.2
  refine hinv.commit hget rfl
    { items := hreturned.sound
      status := ?_
      fresh := ?_
      restored := ?_
      reversed := fun _ => hcons.reversed hnotVoid
      voided := ?_
      charged := ?_
      spent := ?_
      full := ?_ }
    (.returned rfl rfl hreturned.lines
      (hreturned.more hsome (fun row hrow => (hrows row hrow).2.1) hgrid
        fun row hrow => (hrows row hrow).1) ?_) ?_
  · dsimp only
    rw [hstatus]
    split <;> decide
  · dsimp only
    rw [hstatus]
    intro hcompleted
    split at hcompleted <;> cases hcompleted
  · intro _ item hitem
    dsimp only at hitem ⊢
    rw [hreturned.after] at hitem
    obtain ⟨old, hold, rfl⟩ := List.mem_map.mp hitem
    dsimp only
    rw [restoredOf_append, hcons.restored hnotVoid old hold, restoredOf_rows hgrid,
      Numeric.toRat_add]
  · dsimp only
    rw [hstatus]
    intro hvoid
    split at hvoid <;> cases hvoid
  · unfold Sale.refundedChargedTotal
    dsimp only
    rw [hafter]
    have hold := hcons.charged
    unfold Sale.refundedChargedTotal at hold hnonneg hle ⊢
    constructor <;> linarith
  · dsimp only
    rw [hstatus]
    intro hreturnedAll
    have hfull : isSaleFullyRefunded (ownItems raised db.sale.items) = true := by
      by_contra hnot
      rw [if_neg hnot] at hreturnedAll
      cases hreturnedAll
    have hleaves := (isSaleFullyRefunded_iff hvalid hreturned).mp hfull
    refine ⟨fun item hitem => ?_, ?_⟩
    · unfold isSaleFullyRefunded at hfull
      rw [Bool.and_eq_true, List.all_eq_true] at hfull
      exact of_decide_eq_true (hfull.2 item hitem)
    · obtain ⟨hthis, hremaining⟩ := chargeRefund_closing hcons.items hfits hvalid hleaves
      unfold Sale.refundedChargedTotal at *
      dsimp only
      rw [hafter]
      rcases hworth hleaves with hmore | hnothing
      · rw [hclosing hthis (by rw [hthis, hremaining]; exact hmore)]
        ring
      · linarith
  · intro _ hall
    dsimp only at hall ⊢
    rw [hstatus, if_pos]
    unfold isSaleFullyRefunded
    rw [Bool.and_eq_true, List.all_eq_true]
    refine ⟨?_, fun item hitem => decide_eq_true (hall item hitem)⟩
    have hne : ownItems raised db.sale.items ≠ [] := by
      obtain ⟨row, rest, hcons'⟩ := List.exists_cons_of_ne_nil hsome
      have hmem := (hrows row (hcons' ▸ List.mem_cons_self)).1
      unfold ownItems
      exact fun hnil => List.ne_nil_of_mem hmem (List.map_eq_nil_iff.mp hnil)
    simpa using hne
  · dsimp only
    rw [hstatus]
    split
    · exact .inr rfl
    · exact .inl rfl
  · cases newStatus with
    | some status => exact .inl rfl
    | none =>
      refine .inr fun hcompleted => ?_
      rw [Option.getD_none, hcompleted] at hstatus
      split at hstatus <;> cases hstatus

/-! ## Committing a void -/

/-- Every line of a sale is put back once. -/
theorem restoredOf_items (hids : (items.map (·.id)).Nodup) {item : SaleItem}
    (hitem : item ∈ items) :
    restoredOf (items.map fun item => (item.id, item.quantity.toRat)) item.id =
      item.quantity.toRat := by
  induction items with
  | nil => cases hitem
  | cons x rest ih =>
    obtain ⟨hx, hrest⟩ := List.nodup_cons.mp hids
    have hcons : restoredOf ((x :: rest).map fun item => (item.id, item.quantity.toRat)) item.id =
        (if x.id = item.id then x.quantity.toRat else 0) +
          restoredOf (rest.map fun item => (item.id, item.quantity.toRat)) item.id := by
      unfold restoredOf
      by_cases hid : x.id = item.id <;> simp [hid]
    rw [hcons]
    rcases List.mem_cons.mp hitem with rfl | hitem
    · have hnone : restoredOf (rest.map fun item => (item.id, item.quantity.toRat)) item.id = 0 := by
        unfold restoredOf
        refine List.sum_eq_zero fun q hq => ?_
        obtain ⟨e, he, -⟩ := List.mem_map.mp hq
        obtain ⟨hmem, hid⟩ := List.mem_filter.mp he
        obtain ⟨y, hy, rfl⟩ := List.mem_map.mp hmem
        exact absurd (List.mem_map.mpr ⟨y, hy, of_decide_eq_true hid⟩) hx
      rw [if_pos rfl, hnone, add_zero]
    · have hne : x.id ≠ item.id := fun hid => hx (List.mem_map.mpr ⟨item, hitem, hid.symm⟩)
      rw [if_neg hne, zero_add]
      exact ih hrest hitem

/-- A void keeps the invariant. -/
theorem RaceInv.voids (hinv : RaceInv db) {header : Sale} {saleItems : List SaleItem}
    (hget : db.txns.get? tid = some (.voidMarked header saleItems)) :
    RaceInv
      { sale := { db.sale with status := .VOID }
        restored := db.restored ++ saleItems.map fun item => (item.id, item.quantity.toRat)
        reversed := db.reversed + header.totalAmount.toRat
        txns := db.txns.set tid .over } := by
  obtain ⟨htotal, hlines, hcompleted⟩ := hinv.sound tid _ hget
  have hcons := hinv.consistent
  obtain ⟨hrefunds, hreturned⟩ := hcons.fresh hcompleted
  have hnotVoid : db.sale.status ≠ .VOID := by
    rw [hcompleted]
    decide
  have hsame : (saleItems.map fun item => (item.id, item.quantity.toRat)) =
      db.sale.items.map fun item => (item.id, item.quantity.toRat) := hlines.map_eq fun _ => rfl
  refine hinv.commit hget rfl
    { items := hcons.items
      status := fun h => nomatch h
      fresh := fun h => nomatch h
      restored := fun h => absurd rfl h
      reversed := fun h => absurd rfl h
      voided := fun _ => ⟨hrefunds, ?_, fun item hitem => ?_⟩
      charged := hcons.charged
      spent := fun h => nomatch h
      full := fun h => absurd hrefunds h } (.voided hcompleted) (.inl rfl)
  · dsimp only
    rw [hcons.reversed hnotVoid, htotal, zero_add]
  · dsimp only at hitem ⊢
    rw [restoredOf_append, hcons.restored hnotVoid item hitem, hreturned item hitem, hsame,
      restoredOf_items hcons.items.ids hitem, Numeric.toRat_zero, zero_add]

/-! ## Runs -/

/-- Every statement whose refund may commit keeps the invariant. -/
theorem RaceInv.step {db db' : RaceDb} {action : RaceAction} (hinv : RaceInv db)
    (h : RaceStep db action db') (hkeeps : KeepsGivenBack db action) : RaceInv db' := by
  unfold RaceStep at h
  cases action with
  | beginRefund tid env input =>
    simp only [RaceDb.exec, Option.ite_none_right_eq_some, Option.some.injEq] at h
    exact h.2 ▸ hinv.put trivial fun hs => by cases hs
  | beginVoid tid env input =>
    simp only [RaceDb.exec, Option.ite_none_right_eq_some, Option.some.injEq] at h
    exact h.2 ▸ hinv.put trivial fun hs => by cases hs
  | rollBack tid =>
    simp only [RaceDb.exec, Option.ite_none_right_eq_some, Option.some.injEq] at h
    exact h.2 ▸ hinv.put trivial fun hs => by cases hs
  | run tid =>
    cases moves_of_run hinv h with
    | on _ hsound hlock => exact hinv.put hsound hlock
    | refunds hget => exact hinv.refunds hget hkeeps
    | voids hget => exact hinv.voids hget

/-! ## Two coats -/

/-- Two coats of 10.00, sold for cash. -/
def twoCoats : Sale where
  saleDate := ⟨2026, 3, 2, Ledger.isMonth_three⟩
  status := .COMPLETED
  paymentMethod := .CASH
  totalAmount := ⟨2000⟩
  taxAmount := 0
  discountAmount := 0
  totalCost := ⟨1200⟩
  amountPaid := ⟨2000⟩
  giftAmount := 0
  items := [⟨0, some 7, ⟨20000⟩, 0, ⟨1000⟩, ⟨600⟩, ⟨2000⟩, 0⟩]
  refunds := []

theorem twoCoats_fresh : FreshSale twoCoats where
  status := rfl
  refunds := rfl
  total := by decide
  items := ⟨by decide, by decide⟩
  none := by decide

/-- What an action leads to; nothing changes where it is stuck. -/
def RaceDb.after (db : RaceDb) (action : RaceAction) : RaceDb := (db.exec action).getD db

/-- The whole refund of one coat, alone. -/
def oneCoatBack : List RaceAction :=
  .beginRefund 1 ⟨fun _ => true, fun _ => true, true⟩ ⟨0, "too small", .REFUND, false, [(0, 1)]⟩ ::
    List.replicate 9 (.run 1)

/-- A refund of both coats has read the sale, which is then voided, before it goes on. -/
def voidedMeanwhile : List RaceAction :=
  [.beginRefund 1 ⟨fun _ => true, fun _ => true, true⟩
    ⟨0, "too small", .REFUND, false, [(0, 2)]⟩, .run 1, .run 1,
    .beginVoid 2 ⟨fun _ => true, true, true, true, 1000⟩ ⟨0, "wrong customer", false, true⟩] ++
    List.replicate 5 (.run 2) ++ List.replicate 7 (.run 1)

/-- In an interleaving of returns and voids of a completed sale whose refunds commit only when
they may, committed calls never give back more than was sold. -/
theorem givesBackAtMost_of_run {sale : Sale} (hfresh : FreshSale sale) {db' : RaceDb}
    {ts : List (RaceDb × RaceAction × RaceDb)} (hrun : Run RaceStep (RaceDb.start sale) ts db')
    (hkeeps : ∀ t ∈ ts, KeepsGivenBack t.1 t.2.1) :
    GivesBackAtMost db' ∧ ∀ t ∈ ts, GivesBackAtMost t.2.2 := by
  obtain ⟨hlast, hall⟩ := hrun.holds (P := RaceInv) (K := KeepsGivenBack)
    (fun _ _ _ hinv hstep hkeep => hinv.step hstep hkeep) hkeeps (raceInv_start hfresh)
  exact ⟨hlast.consistent.givesBackAtMost, fun t ht => (hall t ht).2.consistent.givesBackAtMost⟩

/-- One coat returned, by a refund that meets nobody. -/
theorem oneCoatBack_givesBackAtMost :
    GivesBackAtMost (oneCoatBack.foldl RaceDb.after (RaceDb.start twoCoats)) := by
  have hrun : Run RaceStep _ (transitions RaceDb.after (RaceDb.start twoCoats) oneCoatBack)
      (oneCoatBack.foldl RaceDb.after (RaceDb.start twoCoats)) := .of_exec (by decide +kernel)
  exact (givesBackAtMost_of_run twoCoats_fresh hrun (by decide +kernel)).1

/-- The void and the refund both commit: four coats are back in stock, and 40.00 are given
back for 20.00. -/
theorem voidedMeanwhile_givesBackTwice : FreshSale twoCoats ∧
    Run RaceStep (RaceDb.start twoCoats)
      (transitions RaceDb.after (RaceDb.start twoCoats) voidedMeanwhile)
      (voidedMeanwhile.foldl RaceDb.after (RaceDb.start twoCoats)) ∧
    ¬ GivesBackAtMost (voidedMeanwhile.foldl RaceDb.after (RaceDb.start twoCoats)) := by
  refine ⟨twoCoats_fresh, .of_exec (by decide +kernel), fun h => ?_⟩
  have hamount := h.amount
  revert hamount
  decide +kernel

end SmartErpPos.Sales
