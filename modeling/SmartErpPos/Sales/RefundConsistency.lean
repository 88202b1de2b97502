/-
  Sales/RefundConsistency.lean --- when header, rows, quantities and stock of a refund agree.

  The rows, the returned quantities and the stock follow the lines of a request.  The
  amount is charged for a map with one quantity for each sale item, so of an item that is
  named twice only the last quantity is charged, while both rows carry its charge.  What
  a row stores is rounded to the decimals of its columns.
-/
import SmartErpPos.Sales.RefundDocument

set_option autoImplicit false

namespace SmartErpPos.Sales

open SmartErpPos.Lib SmartErpPos.Lot

/-! ## What has to agree -/

/-- `projectSaleRefundChargedFromSale` for a quantity of each item. -/
def Sale.chargeOf (sale : Sale) (thisQty : ℕ → ℚ) : SaleRefundChargedProjection :=
  projectSaleRefundCharged sale.totalAmount.toRat sale.taxAmount.toRat sale.refundedChargedTotal
    (sale.items.map fun item =>
      { saleItemId := item.id
        quantity := item.quantity.toRat
        remainingQty := (item.quantity - item.refundedQty).toRat
        unitPrice := item.unitPrice.toRat
        lineNet := item.totalPrice.toRat
        thisQty := thisQty item.id })

/-- The quantity of an item on the rows of a refund. -/
def rowQuantity (rows : List RefundItemRow) (id : ℕ) : Quantity :=
  (rows.map fun row => if row.saleItemId = id then row.quantity else 0).sum

/-- Header, rows, returned quantities and stock of a refund agree. -/
structure RefundConsistent (stockItem : ℕ → RefundStockItem) (sale : Sale) (refund : RefundDocument)
    (rows : List RefundItemRow) (items' : List SaleItem) (db db' : LotDb) : Prop where
  total : (rows.map (·.lineTotal)).sum = refund.totalAmount
  returned : items' = sale.items.map fun item =>
    { item with refundedQty := item.refundedQty + rowQuantity rows item.id }
  charged : refund.totalAmount.toRat =
    (sale.chargeOf fun id => (rowQuantity rows id).toRat).refundChargedTotal
  stock : ∀ productId, (stockOf db' productId).toRat = (stockOf db productId).toRat +
    (rows.map fun row => if (stockItem row.saleItemId).stockProduct = some productId then
      row.quantity.toRat * (stockItem row.saleItemId).conversionFactor.toRat else 0).sum

/-! ## When they do -/

/-- The last quantity a request names of an item. -/
def lastNamed (items : List (ℕ × ℚ)) (id : ℕ) : ℚ :=
  match items.reverse.find? fun e => decide (e.1 = id) with
  | some e => e.2
  | none => 0

/-- All that a request names of an item, as it is stored. -/
def allNamed (items : List (ℕ × ℚ)) (id : ℕ) : Quantity :=
  (items.map fun e => if e.1 = id then (.ofRat e.2 : Quantity) else 0).sum

/-- The charges of items that are named again cancel, the last quantities cost what all of them
cost, and rounding moves no stock. -/
structure NamedOnce (stockItem : ℕ → RefundStockItem) (sale : Sale) (items : List (ℕ × ℚ)) :
    Prop where
  again : ((sale.chargeOf (lastNamed items)).lines.map fun line =>
    (((items.map Prod.fst).count line.saleItemId : ℚ) - 1) * line.lineCharged).sum = 0
  last : (sale.chargeOf (lastNamed items)).refundChargedTotal =
    (sale.chargeOf fun id => (allNamed items id).toRat).refundChargedTotal
  rounding : ∀ productId, (items.map fun e =>
    if (stockItem e.1).stockProduct = some productId then
      (.ofRat (e.2 * (stockItem e.1).conversionFactor.toRat) : Quantity).toRat -
        (.ofRat e.2 : Quantity).toRat * (stockItem e.1).conversionFactor.toRat
    else 0).sum = 0

/-! ## The amounts -/

/-- The shares of the lines are the whole amount. -/
theorem sum_chargeLines {total merchSum : ℚ} (htotal : OnGrid 2 total)
    {lines : List (SaleRefundChargedLineInput × ℚ)} (hne : lines ≠ []) {allocated : ℚ}
    (halloc : OnGrid 2 allocated) :
    ((chargeLines total merchSum lines allocated).map (·.lineCharged)).sum = total - allocated := by
  induction lines generalizing allocated with
  | nil => exact absurd rfl hne
  | cons l rest ih =>
    obtain ⟨item, merch⟩ := l
    cases rest with
    | nil => simp [chargeLines, roundSaleMoney_of_onGrid (htotal.sub halloc)]
    | cons next rest =>
      have hshare : OnGrid 2 (if merchSum ≤ 0 then 0 else
          roundSaleMoney (total * merch / merchSum)) := by
        split
        · exact onGrid_zero
        · exact onGrid_roundSaleMoney _
      have hnext := halloc.add hshare
      unfold chargeLines
      dsimp only
      rw [List.map_cons, List.sum_cons, roundSaleMoney_of_onGrid hnext,
        ih (List.cons_ne_nil next rest) hnext]
      ring

/-- Every share is in cents. -/
theorem onGrid_chargeLines {total merchSum : ℚ} {lines : List (SaleRefundChargedLineInput × ℚ)}
    {allocated : ℚ} : ∀ line ∈ chargeLines total merchSum lines allocated,
      OnGrid 2 line.lineCharged := by
  induction lines generalizing allocated with
  | nil =>
    intro line hline
    cases hline
  | cons l rest ih =>
    obtain ⟨item, merch⟩ := l
    cases rest with
    | nil =>
      intro line hline
      rw [List.mem_singleton.mp hline]
      exact onGrid_roundSaleMoney _
    | cons next rest =>
      intro line hline
      unfold chargeLines at hline
      dsimp only at hline
      rcases List.mem_cons.mp hline with rfl | hline
      · dsimp only
        split
        · exact onGrid_zero
        · exact onGrid_roundSaleMoney _
      · exact ih line hline

/-- The lines charged are the lines given. -/
theorem ids_chargeLines (total merchSum : ℚ) (lines : List (SaleRefundChargedLineInput × ℚ))
    (allocated : ℚ) : (chargeLines total merchSum lines allocated).map (·.saleItemId) =
      lines.map fun l => l.1.saleItemId := by
  induction lines generalizing allocated with
  | nil => rfl
  | cons l rest ih =>
    obtain ⟨item, merch⟩ := l
    cases rest with
    | nil => rfl
    | cons next rest =>
      unfold chargeLines
      dsimp only
      rw [List.map_cons, List.map_cons, ih]

section Charge

variable {sale : Sale} {thisQty : ℕ → ℚ}

theorem onGrid_refundChargedTotal : OnGrid 2 (sale.chargeOf thisQty).refundChargedTotal := by
  unfold Sale.chargeOf projectSaleRefundCharged
  dsimp only
  split
  · split
    · exact onGrid_roundSaleMoney _
    · split
      · exact onGrid_roundSaleMoney _
      · exact onGrid_zero
  · exact onGrid_zero

/-- The items charged are those with a quantity. -/
theorem ids_chargeOf : (sale.chargeOf thisQty).lines.map (·.saleItemId) =
    (sale.items.map (·.id)).filter fun id => decide (0 < thisQty id) := by
  unfold Sale.chargeOf projectSaleRefundCharged
  dsimp only
  rw [ids_chargeLines]
  simp [List.filter_map, List.map_map, Function.comp_def]

theorem onGrid_lineCharged : ∀ line ∈ (sale.chargeOf thisQty).lines,
    OnGrid 2 line.lineCharged := onGrid_chargeLines

theorem sum_lineCharged_chargeOf (hsome : ∃ id ∈ sale.items.map (·.id), 0 < thisQty id) :
    ((sale.chargeOf thisQty).lines.map (·.lineCharged)).sum =
      (sale.chargeOf thisQty).refundChargedTotal := by
  refine (sum_chargeLines onGrid_refundChargedTotal (fun hnil => ?_) onGrid_zero).trans (sub_zero _)
  obtain ⟨id, hid, hpos⟩ := hsome
  have hlines : (sale.chargeOf thisQty).lines = [] := by
    show chargeLines _ _ _ 0 = []
    rw [hnil]
    rfl
  have hmem : id ∈ (sale.chargeOf thisQty).lines.map (·.saleItemId) := by
    rw [ids_chargeOf]
    exact List.mem_filter.mpr ⟨hid, decide_eq_true hpos⟩
  rw [hlines] at hmem
  cases hmem

/-- What a line of the request is charged is the charge of its item. -/
theorem lineTotalOf_eq (hids : (sale.items.map (·.id)).Nodup) {line : SaleRefundChargedLine}
    (hline : line ∈ (sale.chargeOf thisQty).lines) {row : ValidatedItem}
    (hrow : row.saleItem.id = line.saleItemId) :
    lineTotalOf (sale.chargeOf thisQty) row = line.lineCharged := by
  have hnodup : ((sale.chargeOf thisQty).lines.map (·.saleItemId)).Nodup := by
    rw [ids_chargeOf]
    exact hids.filter _
  unfold lineTotalOf
  split
  · rename_i found hfound
    have hmem : found ∈ (sale.chargeOf thisQty).lines :=
      List.mem_reverse.mp (List.mem_of_find?_eq_some hfound)
    have hid : found.saleItemId = row.saleItem.id := by simpa using List.find?_some hfound
    have hsame := List.inj_on_of_nodup_map hnodup hmem hline (hid.trans hrow)
    rw [hsame, roundSaleMoney_of_onGrid (onGrid_lineCharged line hline)]
  · rename_i hnone
    have hall := List.find?_eq_none.mp hnone line (List.mem_reverse.mpr hline)
    simp [hrow] at hall

end Charge

/-! ## The rows -/

section Rows

variable {sale : Sale} {items : List (ℕ × ℚ)} {validated : List ValidatedItem}

/-- The validated rows are the lines of the request. -/
theorem validated_pairs (hvalid : items.mapM (validateItem sale.items) = .ok validated) :
    validated.map (fun row => (row.saleItem.id, row.refundQty)) = items := by
  have hmap := map_eq_of_mapM_eq_ok hvalid (g := fun row => (row.saleItem.id, row.refundQty))
    (k := id) fun e row hrow => by
      obtain ⟨-, hid, hqty, -⟩ := validateItem_spec hrow
      exact Prod.ext hid hqty
  simpa using hmap

theorem thisQtyOf_eq (hvalid : items.mapM (validateItem sale.items) = .ok validated) :
    thisQtyOf validated = lastNamed items := by
  funext id
  unfold thisQtyOf lastNamed
  rw [← validated_pairs hvalid, ← List.map_reverse, List.find?_map]
  cases hfind : validated.reverse.find? ((fun e : ℕ × ℚ => decide (e.1 = id)) ∘
      fun row => (row.saleItem.id, row.refundQty)) with
  | none =>
    have hnone : validated.reverse.find? (fun row => decide (row.saleItem.id = id)) = none := hfind
    rw [hnone]
    rfl
  | some row =>
    have hsome : validated.reverse.find? (fun row => decide (row.saleItem.id = id)) = some row :=
      hfind
    rw [hsome]
    rfl

theorem chargeRefund_eq (hvalid : items.mapM (validateItem sale.items) = .ok validated) :
    chargeRefund sale sale.refundedChargedTotal validated = sale.chargeOf (lastNamed items) := by
  rw [← thisQtyOf_eq hvalid]
  rfl

/-- An item of the request has a last quantity. -/
theorem lastNamed_pos (hpos : ∀ e ∈ items, 0 < e.2) {id : ℕ} (hid : id ∈ items.map Prod.fst) :
    0 < lastNamed items id := by
  unfold lastNamed
  split
  · rename_i e he
    exact hpos e (List.mem_reverse.mp (List.mem_of_find?_eq_some he))
  · rename_i hnone
    obtain ⟨e, he, rfl⟩ := List.mem_map.mp hid
    have hall := List.find?_eq_none.mp hnone e (List.mem_reverse.mpr he)
    simp at hall

theorem rowQuantity_eq (hvalid : items.mapM (validateItem sale.items) = .ok validated)
    (charged : SaleRefundChargedProjection) (id : ℕ) :
    rowQuantity (validated.map (ValidatedItem.row charged)) id = allNamed items id := by
  unfold rowQuantity allNamed
  rw [← validated_pairs hvalid, List.map_map, List.map_map]
  rfl

/-- What the rows of a refund store adds up to the amount exactly when the charges of items
named again cancel. -/
theorem sum_lineTotals_iff (hids : (sale.items.map (·.id)).Nodup) (hne : items ≠ [])
    (hvalid : items.mapM (validateItem sale.items) = .ok validated) :
    ((validated.map (ValidatedItem.row (sale.chargeOf (lastNamed items)))).map (·.lineTotal)).sum =
        (.ofRat (roundSaleMoney (sale.chargeOf (lastNamed items)).refundChargedTotal) : Cents) ↔
      ((sale.chargeOf (lastNamed items)).lines.map fun line =>
        (((items.map Prod.fst).count line.saleItemId : ℚ) - 1) * line.lineCharged).sum = 0 := by
  have hpairs := validated_pairs hvalid
  have hpos : ∀ e ∈ items, 0 < e.2 := by
    intro e he
    rw [← hpairs] at he
    obtain ⟨row, hrow, rfl⟩ := List.mem_map.mp he
    exact (validated_spec hvalid row hrow).2.1
  have hnames : ∀ id ∈ items.map Prod.fst, id ∈ sale.items.map (·.id) := by
    intro id hid
    obtain ⟨e, he, rfl⟩ := List.mem_map.mp hid
    rw [← hpairs] at he
    obtain ⟨row, hrow, rfl⟩ := List.mem_map.mp he
    exact List.mem_map_of_mem (validated_spec hvalid row hrow).1
  have hkeys : ∀ id ∈ items.map Prod.fst,
      id ∈ (sale.chargeOf (lastNamed items)).lines.map (·.saleItemId) := by
    intro id hid
    rw [ids_chargeOf]
    exact List.mem_filter.mpr ⟨hnames id hid, decide_eq_true (lastNamed_pos hpos hid)⟩
  have hnodup : ((sale.chargeOf (lastNamed items)).lines.map (·.saleItemId)).Nodup := by
    rw [ids_chargeOf]
    exact hids.filter _
  have hsome : ∃ id ∈ sale.items.map (·.id), 0 < lastNamed items id := by
    obtain ⟨e, rest, rfl⟩ := List.exists_cons_of_ne_nil hne
    have hmem : e.1 ∈ (e :: rest).map Prod.fst := List.mem_map_of_mem List.mem_cons_self
    exact ⟨e.1, hnames e.1 hmem, lastNamed_pos hpos hmem⟩
  have hshare : ∀ row ∈ validated, ∃ line ∈ (sale.chargeOf (lastNamed items)).lines,
      lineTotalOf (sale.chargeOf (lastNamed items)) row = line.lineCharged := by
    intro row hrow
    have hid : row.saleItem.id ∈ items.map Prod.fst := by
      rw [← hpairs, List.map_map]
      exact List.mem_map_of_mem hrow
    obtain ⟨line, hline, heq⟩ := List.mem_map.mp (hkeys _ hid)
    exact ⟨line, hline, lineTotalOf_eq hids hline heq.symm⟩
  -- the rows, summed as exact numbers and grouped by their items
  have hrows : ((validated.map (ValidatedItem.row (sale.chargeOf (lastNamed items)))).map
      RefundItemRow.lineTotal).sum.toRat = ((sale.chargeOf (lastNamed items)).lines.map fun line =>
        (items.map Prod.fst).count line.saleItemId • line.lineCharged).sum := by
    rw [toRat_listSum, List.map_map, List.map_map, ← sum_by_key hnodup hkeys
      (g := fun id => lineTotalOf (sale.chargeOf (lastNamed items)) ⟨⟨id, none, 0, 0, 0, 0, 0, 0⟩, 0, 0⟩)
      fun line hline => lineTotalOf_eq hids hline rfl]
    have hkeyRows : items.map Prod.fst = validated.map fun row => row.saleItem.id := by
      nth_rewrite 1 [← hpairs]
      rw [List.map_map]
      rfl
    rw [hkeyRows, List.map_map]
    congr 1
    refine List.map_congr_left fun row hrow => ?_
    obtain ⟨line, hline, heq⟩ := hshare row hrow
    have hgrid : OnGrid 2 (lineTotalOf (sale.chargeOf (lastNamed items)) row) := by
      rw [heq]
      exact onGrid_lineCharged line hline
    exact hgrid.roundTo_eq
  have htotal : (.ofRat (roundSaleMoney (sale.chargeOf (lastNamed items)).refundChargedTotal) :
      Cents).toRat = (sale.chargeOf (lastNamed items)).refundChargedTotal := by
    rw [roundSaleMoney_of_onGrid onGrid_refundChargedTotal]
    exact onGrid_refundChargedTotal.roundTo_eq
  have hsplit : ((sale.chargeOf (lastNamed items)).lines.map fun line =>
      (((items.map Prod.fst).count line.saleItemId : ℚ) - 1) * line.lineCharged).sum =
      ((sale.chargeOf (lastNamed items)).lines.map fun line =>
        (items.map Prod.fst).count line.saleItemId • line.lineCharged).sum -
        (sale.chargeOf (lastNamed items)).refundChargedTotal := by
    refine eq_sub_of_add_eq ?_
    rw [← sum_lineCharged_chargeOf hsome, ← List.sum_map_add]
    congr 1
    refine List.map_congr_left fun line _ => ?_
    rw [nsmul_eq_mul]
    ring
  rw [← Numeric.toRat_injective.eq_iff, hrows, htotal, hsplit, sub_eq_zero]

end Rows

/-! ## The stock -/

/-- New lots get new keys, and no lot is below zero. -/
structure LotsSound (db : LotDb) : Prop where
  keys : KeysDrawn db
  nonneg : ∀ id row, db.batches.get? id = some row → 0 ≤ row.remainingQuantity

/-- A return raises the stock of its product by its quantity, as the column stores it. -/
theorem returnLot_raises {env : LotEnv} {clock : Clock} {db : LotDb} {input : LotReturnInput}
    {r : LotDb × InventoryLot} (hlots : LotsSound db) (hq : 0 ≤ input.quantity)
    (h : returnLot env clock db input = .ok r) :
    LotsSound r.1 ∧ ∀ productId, stockOf r.1 productId =
      stockOf db productId + if input.productId = productId then .ofRat input.quantity else 0 := by
  have hkeys := returnLot_keysDrawn hlots.keys h
  cases returnLot_putOn hlots.keys h with
  | increased id row hrow hproduct hafter hlot =>
    have hrest := hlots.nonneg id row hrow
    have hnonneg := add_nonneg (Numeric.toRat_nonneg_iff.mpr hrest) hq
    have hraised : (row.increased input.quantity).remainingQuantity =
        row.remainingQuantity + .ofRat input.quantity := Numeric.ofRat_toRat_add hq hnonneg
    have hsame : (row.increased input.quantity).productId = row.productId := rfl
    refine ⟨⟨hkeys, fun id' row' hrow' => ?_⟩, fun productId => ?_⟩
    · rw [hafter, OrderedMap.get?_set] at hrow'
      split at hrow'
      · cases hrow'
        exact Numeric.ofRat_nonneg hnonneg
      · exact hlots.nonneg id' row' hrow'
    · unfold stockOf
      rw [totalOf_overwrite _ hrow hafter, hsame, hraised, hproduct]
      split
      · rw [add_sub_cancel_left]
      · rw [sub_zero]
  | created row hfresh hproduct hremaining hafter hlot =>
    refine ⟨⟨hkeys, fun id' row' hrow' => ?_⟩, fun productId => ?_⟩
    · rw [hafter, OrderedMap.get?_set] at hrow'
      split at hrow'
      · cases hrow'
        rw [hremaining]
        exact Numeric.ofRat_nonneg hq
      · exact hlots.nonneg id' row' hrow'
    · unfold stockOf
      rw [totalOf_insert _ hfresh hafter, hproduct, hremaining]

/-- The units of a product that a line of the request puts back. -/
def restoredUnits (stockItem : ℕ → RefundStockItem) (productId : String) (e : ℕ × ℚ) : Quantity :=
  if (stockItem e.1).stockProduct = some productId then
    .ofRat (e.2 * (stockItem e.1).conversionFactor.toRat)
  else 0

section Stock

variable {env : LotEnv} {clock : Clock} {header : RefundHeader} {stockItem : ℕ → RefundStockItem}

theorem restoreRefundedItem_stockOf {db db' : LotDb} {row : ValidatedItem} (hlots : LotsSound db)
    (h : restoreRefundedItem env clock header stockItem db row = .ok db') :
    LotsSound db' ∧ ∀ productId, stockOf db' productId = stockOf db productId +
      restoredUnits stockItem productId (row.saleItem.id, row.refundQty) := by
  unfold restoreRefundedItem at h
  dsimp only at h
  simp only [bind_eq_ok, require_eq_ok] at h
  obtain ⟨-, hpos, h⟩ := h
  cases hproduct : (stockItem row.saleItem.id).stockProduct with
  | none =>
    simp only [hproduct, pure_eq_ok] at h
    subst h
    refine ⟨hlots, fun productId => ?_⟩
    simp [restoredUnits, hproduct]
  | some owner =>
    have hput : ∀ {input : LotReturnInput} {r : LotDb × InventoryLot}, input.productId = owner →
        input.quantity = row.refundQty * (stockItem row.saleItem.id).conversionFactor.toRat →
        returnLot env clock db input = .ok r →
        LotsSound r.1 ∧ ∀ productId, stockOf r.1 productId = stockOf db productId +
          restoredUnits stockItem productId (row.saleItem.id, row.refundQty) := by
      intro input r howner hq hreturn
      have hnonneg : 0 ≤ input.quantity := by
        rw [hq]
        exact hpos.le
      obtain ⟨hsound, hstock⟩ := returnLot_raises hlots hnonneg hreturn
      refine ⟨hsound, fun productId => ?_⟩
      rw [hstock, howner, hq]
      simp [restoredUnits, hproduct]
    simp only [hproduct, bind_eq_ok, mapError_eq_ok] at h
    obtain ⟨restored, hrestored, h⟩ := h
    cases restored with
    | none =>
      simp only [bind_eq_ok, mapError_eq_ok, pure_eq_ok] at h
      obtain ⟨returned, hreturned, rfl⟩ := h
      exact hput rfl rfl hreturned
    | some mid =>
      simp only [pure_eq_ok] at h
      subst h
      unfold restoreCustomerReturn at hrestored
      split at hrestored
      · simp only [bind_eq_ok, orThrow_eq_ok, pure_eq_ok] at hrestored
        obtain ⟨store, -, returned, hreturned, hmid⟩ := hrestored
        cases hmid
        exact hput rfl rfl hreturned
      · cases hrestored

theorem restoreRefund_stockOf {rows : List ValidatedItem} {db db' : LotDb} (hlots : LotsSound db)
    (h : rows.foldlM (restoreRefundedItem env clock header stockItem) db = .ok db')
    (productId : String) : stockOf db' productId = stockOf db productId +
      ((rows.map fun row => (row.saleItem.id, row.refundQty)).map
        (restoredUnits stockItem productId)).sum := by
  induction rows generalizing db with
  | nil =>
    rw [List.foldlM_nil, pure_eq_ok] at h
    subst h
    exact (add_zero _).symm
  | cons row rest ih =>
    rw [List.foldlM_cons, bind_eq_ok] at h
    obtain ⟨mid, hmid, hrest⟩ := h
    obtain ⟨hsound, hstock⟩ := restoreRefundedItem_stockOf hlots hmid
    rw [ih hsound hrest, hstock, List.map_cons, List.map_cons, List.sum_cons, add_assoc]

/-- The stock grows by the stored quantities times their factors exactly when rounding moves
nothing. -/
theorem stock_iff {db db' : LotDb} {items : List (ℕ × ℚ)} {sale : Sale}
    {validated : List ValidatedItem} (charged : SaleRefundChargedProjection)
    (hvalid : items.mapM (validateItem sale.items) = .ok validated) {productId : String}
    (hstock : stockOf db' productId = stockOf db productId +
      (items.map (restoredUnits stockItem productId)).sum) :
    (stockOf db' productId).toRat = (stockOf db productId).toRat +
        ((validated.map (ValidatedItem.row charged)).map fun row =>
          if (stockItem row.saleItemId).stockProduct = some productId then
            row.quantity.toRat * (stockItem row.saleItemId).conversionFactor.toRat else 0).sum ↔
      (items.map fun e => if (stockItem e.1).stockProduct = some productId then
        (.ofRat (e.2 * (stockItem e.1).conversionFactor.toRat) : Quantity).toRat -
          (.ofRat e.2 : Quantity).toRat * (stockItem e.1).conversionFactor.toRat
      else 0).sum = 0 := by
  have hrows : ((validated.map (ValidatedItem.row charged)).map fun row =>
      if (stockItem row.saleItemId).stockProduct = some productId then
        row.quantity.toRat * (stockItem row.saleItemId).conversionFactor.toRat else 0) =
      items.map fun e => if (stockItem e.1).stockProduct = some productId then
        (.ofRat e.2 : Quantity).toRat * (stockItem e.1).conversionFactor.toRat else 0 := by
    rw [← validated_pairs hvalid, List.map_map, List.map_map]
    rfl
  have hgap : (items.map fun e => if (stockItem e.1).stockProduct = some productId then
      (.ofRat (e.2 * (stockItem e.1).conversionFactor.toRat) : Quantity).toRat -
        (.ofRat e.2 : Quantity).toRat * (stockItem e.1).conversionFactor.toRat else 0).sum =
      ((items.map (restoredUnits stockItem productId)).map Numeric.toRat).sum -
        (items.map fun e => if (stockItem e.1).stockProduct = some productId then
          (.ofRat e.2 : Quantity).toRat * (stockItem e.1).conversionFactor.toRat else 0).sum := by
    refine eq_sub_of_add_eq ?_
    rw [← List.sum_map_add, List.map_map]
    congr 1
    refine List.map_congr_left fun e _ => ?_
    rw [Function.comp_apply, restoredUnits]
    split
    · ring
    · simp
  rw [hstock, Numeric.toRat_add, toRat_listSum, hrows, hgap, sub_eq_zero, add_right_inj]

end Stock

/-! ## Requests that name every item once -/

/-- An item with a last quantity is one of the request. -/
theorem mem_of_lastNamed_pos {items : List (ℕ × ℚ)} {id : ℕ} (h : 0 < lastNamed items id) :
    id ∈ items.map Prod.fst := by
  unfold lastNamed at h
  split at h
  · rename_i e he
    have hid : e.1 = id := by simpa using List.find?_some he
    exact List.mem_map.mpr ⟨e, List.mem_reverse.mp (List.mem_of_find?_eq_some he), hid⟩
  · exact absurd h (lt_irrefl 0)

/-- Of an item named once the last quantity is the only one. -/
theorem lastNamed_eq_allNamed {items : List (ℕ × ℚ)} (honce : (items.map Prod.fst).Nodup)
    (hgrid : ∀ e ∈ items, OnGrid 4 e.2) (id : ℕ) :
    lastNamed items id = (allNamed items id).toRat := by
  have hall : (allNamed items id).toRat =
      (items.map fun e => if e.1 = id then e.2 else 0).sum := by
    rw [allNamed, toRat_listSum, List.map_map]
    congr 1
    refine List.map_congr_left fun e he => ?_
    rw [Function.comp_apply]
    split
    · exact (hgrid e he).roundTo_eq
    · exact Numeric.toRat_zero
  rw [hall]
  unfold lastNamed
  cases hfind : items.reverse.find? fun e => decide (e.1 = id) with
  | none =>
    have hnone : ∀ e ∈ items, e.1 ≠ id := fun e he => by
      simpa using List.find?_eq_none.mp hfind e (List.mem_reverse.mpr he)
    refine (List.sum_eq_zero fun x hx => ?_).symm
    obtain ⟨e, he, rfl⟩ := List.mem_map.mp hx
    exact if_neg (hnone e he)
  | some e =>
    have he : e ∈ items := List.mem_reverse.mp (List.mem_of_find?_eq_some hfind)
    have hid : e.1 = id := by simpa using List.find?_some hfind
    obtain ⟨before, after, rfl⟩ := List.append_of_mem he
    rw [List.map_append, List.map_cons, List.nodup_append] at honce
    obtain ⟨-, hafter, hdisjoint⟩ := honce
    have hzero : ∀ l : List (ℕ × ℚ), (∀ x ∈ l, x.1 ≠ id) →
        (l.map fun x => if x.1 = id then x.2 else 0).sum = 0 := by
      intro l hl
      refine List.sum_eq_zero fun y hy => ?_
      obtain ⟨x, hx, rfl⟩ := List.mem_map.mp hy
      exact if_neg (hl x hx)
    rw [List.map_append, List.map_cons, List.sum_append, List.sum_cons, if_pos hid,
      hzero before fun x hx heq => hdisjoint x.1 (List.mem_map_of_mem hx) e.1
        List.mem_cons_self (heq.trans hid.symm),
      hzero after fun x hx heq => (List.nodup_cons.mp hafter).1
        (hid.trans heq.symm ▸ List.mem_map_of_mem hx)]
    ring

/-- Every item once, in quantities and units of stock that the columns can hold. -/
theorem namedOnce_of_nodup {stockItem : ℕ → RefundStockItem} {sale : Sale} {items : List (ℕ × ℚ)}
    (honce : (items.map Prod.fst).Nodup) (hgrid : ∀ e ∈ items, OnGrid 4 e.2)
    (hstock : ∀ e ∈ items, OnGrid 4 (e.2 * (stockItem e.1).conversionFactor.toRat)) :
    NamedOnce stockItem sale items := by
  have hsame : lastNamed items = fun id => (allNamed items id).toRat :=
    funext (lastNamed_eq_allNamed honce hgrid)
  refine ⟨?_, by rw [hsame], fun productId => ?_⟩
  · refine List.sum_eq_zero fun x hx => ?_
    obtain ⟨line, hline, rfl⟩ := List.mem_map.mp hx
    have hid : line.saleItemId ∈ (sale.chargeOf (lastNamed items)).lines.map (·.saleItemId) :=
      List.mem_map_of_mem hline
    rw [ids_chargeOf] at hid
    have hnamed := mem_of_lastNamed_pos (of_decide_eq_true (List.mem_filter.mp hid).2)
    rw [List.count_eq_one_of_mem honce hnamed]
    simp
  · refine List.sum_eq_zero fun x hx => ?_
    obtain ⟨e, he, rfl⟩ := List.mem_map.mp hx
    split
    · have hbase : (.ofRat (e.2 * (stockItem e.1).conversionFactor.toRat) : Quantity).toRat = _ :=
        (hstock e he).roundTo_eq
      have hunits : (.ofRat e.2 : Quantity).toRat = e.2 := (hgrid e he).roundTo_eq
      rw [hbase, hunits, sub_self]
    · rfl

/-! ## A whole refund -/

/-- What a successful call leaves behind, with the sale it found. -/
structure RefundWritten (env : LotEnv) (clock : Clock) (header : RefundHeader)
    (stockItem : ℕ → RefundStockItem) (db : LotDb) (input : RefundInput) (sale : Sale)
    (out : RefundOutcome) (validated : List ValidatedItem) (sale' : Sale) : Prop where
  nonempty : input.items ≠ []
  valid : input.items.mapM (validateItem sale.items) = .ok validated
  get : out.store.sales.get? input.saleId = some sale'
  refunds : ∃ costTotal, sale'.refunds = sale.refunds ++
    [⟨.ofRat (roundSaleMoney (sale.chargeOf (lastNamed input.items)).refundChargedTotal),
      costTotal, input.refundType⟩]
  raised : validated.foldlM incrementRefundedQty sale.items = .ok sale'.items
  rows : out.rows = validated.map (ValidatedItem.row (sale.chargeOf (lastNamed input.items)))
  stock : validated.foldlM (restoreRefundedItem env clock header stockItem) db = .ok out.stock

theorem refundWithStock_spec {refundEnv : RefundEnv} {env : LotEnv} {clock : Clock}
    {header : RefundHeader} {stockItem : ℕ → RefundStockItem} {store : SaleStore} {db : LotDb}
    {input : RefundInput} {sale : Sale} {out : RefundOutcome}
    (hsale : store.sales.get? input.saleId = some sale)
    (h : refundWithStock refundEnv env clock header stockItem store db input = .ok out) :
    ∃ validated sale', RefundWritten env clock header stockItem db input sale out validated sale' := by
  simp only [refundWithStock, refundSale, checkRefund, bind_eq_ok, mapError_eq_ok, orThrow_eq_ok,
    require_eq_ok, pure_eq_ok, hsale] at h
  obtain ⟨store', ⟨_, hsame, -, ⟨-, -, -, -, -, -, -, -, -, hne, -⟩, validated, hvalid, items,
    hitems, hstored⟩, _, hagain, _, hvalid', stock, hstock, rfl⟩ := h
  cases hsame
  cases hagain
  rw [hvalid] at hvalid'
  cases hvalid'
  have hcharge := chargeRefund_eq hvalid
  rw [hcharge] at hstored
  refine ⟨validated, ?_⟩
  split at hstored
  · rw [pure_eq_ok] at hstored
    subst hstored
    exact ⟨_, hne, hvalid, OrderedMap.get?_set_self .., ⟨_, rfl⟩, hitems, by rw [hcharge], hstock⟩
  · rw [pure_eq_ok] at hstored
    subst hstored
    exact ⟨_, hne, hvalid, OrderedMap.get?_set_self .., ⟨_, rfl⟩, hitems, by rw [hcharge], hstock⟩

/-! ## Two boxes of six -/

/-- Two boxes at 10.00. -/
def boxSale : Sale where
  saleDate := ⟨2026, 3, 9, Ledger.isMonth_three⟩
  status := .COMPLETED
  paymentMethod := .CASH
  totalAmount := ⟨2000⟩
  taxAmount := 0
  discountAmount := 0
  totalCost := ⟨1400⟩
  amountPaid := ⟨2000⟩
  giftAmount := 0
  items := [⟨1, some 7, ⟨20000⟩, 0, ⟨1000⟩, ⟨700⟩, ⟨2000⟩, 0⟩]
  refunds := []

def boxStore : SaleStore := ⟨.set .empty 1 boxSale, .empty, .empty⟩

/-- The item is a box of soap. -/
def boxStockItem (_ : ℕ) : RefundStockItem where
  productId := some "soap"
  quantity := ⟨20000⟩
  baseQty := some ⟨120000⟩
  conversionFactor := ⟨6000000⟩
  unitCost := ⟨70000⟩
  storeLocationId := none
  productLotId := none
  batchId := none
  isCustom := false

/-- Everything is sold. -/
def emptyShelf : LotDb where
  products := [⟨"soap", false⟩]
  stores := .empty
  batches := .empty
  productLots := .empty
  balances := .empty
  nextId := 0

theorem emptyShelf_sound : LotsSound emptyShelf :=
  ⟨fun _ _ h => (nomatch h), fun _ _ h => (nomatch h)⟩

def anyRefund : RefundEnv := ⟨fun _ => true, fun _ => true, true⟩

/-- A request for these quantities of the item. -/
def boxRequest (items : List (ℕ × ℚ)) : RefundInput := ⟨1, "opened", .REFUND, false, items⟩

def boxRefund (items : List (ℕ × ℚ)) : Except RefundError RefundOutcome :=
  refundWithStock anyRefund shelfEnv ⟨0, 0⟩ ⟨"R-1", "REF-1", "SALE-1", "opened"⟩ boxStockItem boxStore
    emptyShelf (boxRequest items)

def boxRefunded (items : List (ℕ × ℚ)) : RefundOutcome :=
  settled (boxRefund items) ⟨boxStore, [], emptyShelf⟩

theorem boxSale_sound : ItemsSound boxSale.items := ⟨by decide, by decide⟩

/-- Header, rows, returned quantities and stock of an accepted refund agree exactly when naming
an item again moves no money and rounding moves no stock. -/
theorem refundConsistent_iff {refundEnv : RefundEnv} {env : LotEnv} {clock : Clock}
    {header : RefundHeader} {stockItem : ℕ → RefundStockItem} {store : SaleStore} {db : LotDb}
    {input : RefundInput} {sale : Sale} {out : RefundOutcome}
    (hsale : store.sales.get? input.saleId = some sale) (hsound : ItemsSound sale.items)
    (hlots : LotsSound db)
    (h : refundWithStock refundEnv env clock header stockItem store db input = .ok out) :
    (∃ sale' refund, out.store.sales.get? input.saleId = some sale' ∧
      sale'.refunds = sale.refunds ++ [refund] ∧
      RefundConsistent stockItem sale refund out.rows sale'.items db out.stock) ↔
    NamedOnce stockItem sale input.items := by
  obtain ⟨validated, sale', hrun⟩ := refundWithStock_spec hsale h
  obtain ⟨costTotal, hrefunds⟩ := hrun.refunds
  have hquantity : ∀ id, rowQuantity out.rows id = allNamed input.items id := fun id => by
    rw [hrun.rows, rowQuantity_eq hrun.valid]
  have hlines := sum_lineTotals_iff hsound.ids hrun.nonempty hrun.valid
  have hreturned : sale'.items = sale.items.map fun item =>
      { item with refundedQty := item.refundedQty + rowQuantity out.rows item.id } := by
    have hafter := (returned_of_validated hsound hrun.valid hrun.raised).after
    simp only [itemUnits_validated hrun.valid] at hafter
    simp only [hquantity]
    exact hafter
  have htotal : (.ofRat (roundSaleMoney
      (sale.chargeOf (lastNamed input.items)).refundChargedTotal) : Cents).toRat =
        (sale.chargeOf (lastNamed input.items)).refundChargedTotal := by
    rw [roundSaleMoney_of_onGrid onGrid_refundChargedTotal]
    exact onGrid_refundChargedTotal.roundTo_eq
  have hstock : ∀ productId, _ := fun productId =>
    @stock_iff stockItem _ _ _ _ _ (sale.chargeOf (lastNamed input.items)) hrun.valid _
      (by
        rw [restoreRefund_stockOf hlots hrun.stock productId, validated_pairs hrun.valid] :
        stockOf out.stock productId = stockOf db productId +
          (input.items.map (restoredUnits stockItem productId)).sum)
  constructor
  · rintro ⟨_, refund, hget, hmore, hconsistent⟩
    rw [hrun.get] at hget
    cases hget
    rw [hrefunds] at hmore
    have hlast := List.append_cancel_left hmore
    cases hlast
    refine ⟨hlines.mp ?_, ?_, fun productId => (hstock productId).mp ?_⟩
    · rw [← hrun.rows]
      exact hconsistent.total
    · have hcharged := hconsistent.charged
      simp only [hquantity, htotal] at hcharged
      exact hcharged
    · rw [← hrun.rows]
      exact hconsistent.stock productId
  · intro honce
    refine ⟨sale', _, hrun.get, hrefunds, ?_, hreturned, ?_, fun productId => ?_⟩
    · rw [hrun.rows]
      exact hlines.mpr honce.again
    · simp only [hquantity, htotal]
      exact honce.last
    · rw [hrun.rows]
      exact (hstock productId).mpr (honce.rounding productId)

/-- One box comes back. -/
theorem boxRefund_consistent : ∃ sale' refund,
    (boxRefunded [(1, 1)]).store.sales.get? 1 = some sale' ∧
      sale'.refunds = boxSale.refunds ++ [refund] ∧
      RefundConsistent boxStockItem boxSale refund (boxRefunded [(1, 1)]).rows sale'.items
        emptyShelf (boxRefunded [(1, 1)]).stock := by
  have hrun : boxRefund [(1, 1)] = .ok (boxRefunded [(1, 1)]) :=
    eq_ok_settled (by decide +kernel) _
  refine (refundConsistent_iff rfl boxSale_sound emptyShelf_sound
    hrun).mpr (namedOnce_of_nodup (by decide) (fun e he => ?_) fun e he => ?_)
  · rw [List.mem_singleton.mp he]
    exact onGrid_iff_roundTo_eq.mpr (by decide +kernel)
  · rw [List.mem_singleton.mp he]
    exact onGrid_iff_roundTo_eq.mpr (by decide +kernel)

/-- Both boxes on two lines: the amount is that of one. -/
theorem boxRefund_twice_not_consistent :
    ¬ ∀ (refundEnv : RefundEnv) (env : LotEnv) (clock : Clock) (header : RefundHeader)
      (stockItem : ℕ → RefundStockItem) (store : SaleStore) (db : LotDb) (input : RefundInput)
      (sale : Sale) (out : RefundOutcome), store.sales.get? input.saleId = some sale →
      ItemsSound sale.items → LotsSound db →
      refundWithStock refundEnv env clock header stockItem store db input = .ok out →
      ∃ sale' refund, out.store.sales.get? input.saleId = some sale' ∧
        sale'.refunds = sale.refunds ++ [refund] ∧
        RefundConsistent stockItem sale refund out.rows sale'.items db out.stock := by
  intro h
  have hrun : boxRefund [(1, 1), (1, 1)] = .ok (boxRefunded [(1, 1), (1, 1)]) :=
    eq_ok_settled (by decide +kernel) _
  obtain ⟨sale', refund, hget, hrefunds, hconsistent⟩ := h anyRefund shelfEnv ⟨0, 0⟩ _ boxStockItem
    boxStore emptyShelf (boxRequest [(1, 1), (1, 1)]) boxSale _ rfl boxSale_sound emptyShelf_sound
    hrun
  have hrows : ((boxRefunded [(1, 1), (1, 1)]).rows.map (·.lineTotal)).sum = ⟨2000⟩ := by
    decide +kernel
  have hdocuments : ((boxRefunded [(1, 1), (1, 1)]).store.sales.get? 1).map
      (fun sale => sale.refunds.map (·.totalAmount)) = some [⟨1000⟩] := by decide +kernel
  have htotal := hconsistent.total
  rw [hrows] at htotal
  have hget' : (boxRefunded [(1, 1), (1, 1)]).store.sales.get? 1 = some sale' := hget
  rw [hget', Option.map_some, hrefunds, List.map_append, Option.some_inj] at hdocuments
  have hamount : refund.totalAmount = ⟨1000⟩ := by simpa [boxSale] using hdocuments
  rw [hamount] at htotal
  exact absurd htotal (by decide)

end SmartErpPos.Sales
