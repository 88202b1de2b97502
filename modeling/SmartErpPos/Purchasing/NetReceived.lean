/-
  Purchasing/NetReceived.lean --- what a purchase order has received, less what went back.

  Sources: `purchase-orders/purchaseOrderNetReceived.ts`; `purchase_order_items`,
  `goods_receipts`, `goods_receipt_items`, `return_grn` and `return_grn_lines`;
  `updatePOItemReceivedQuantity` in `goods-receipts/goodsReceiptRepository.ts`.

  A line of a return names a receipt and a product, not a line of the order.  It is taken to
  concern every order line that has an item of that product in that receipt.  Where one
  receipt has a product on two lines, what was returned counts on both.

  Return lines stand in their return, so the join on the return's id is the nesting.
-/
import SmartErpPos.Lib.Attribution
import SmartErpPos.Lib.OrderedMap
import SmartErpPos.Returns.Documents

set_option autoImplicit false

namespace SmartErpPos.Purchasing

open SmartErpPos.Lib SmartErpPos.Returns

/-! ## Rows -/

abbrev PurchaseOrderId := ℕ
abbrev PoItemId := ℕ

/-- A row of `purchase_order_items`. -/
structure PurchaseOrderItem where
  purchaseOrderId : PurchaseOrderId
  orderedQuantity : Numeric 4
  receivedQuantity : Option (Numeric 4)
  deriving DecidableEq

inductive GoodsReceiptStatus where
  | DRAFT
  | COMPLETED
  | CANCELLED
  deriving DecidableEq

/-- A row of `goods_receipts`. -/
structure GoodsReceipt where
  purchaseOrderId : Option PurchaseOrderId
  status : GoodsReceiptStatus
  deriving DecidableEq

/-- A row of `goods_receipt_items`. -/
structure GoodsReceiptItem where
  goodsReceiptId : ReceiptId
  poItemId : Option PoItemId
  productId : ProductId
  receivedQuantity : Numeric 4
  deriving DecidableEq

structure ProcurementDb where
  poItems : OrderedMap PoItemId PurchaseOrderItem
  receipts : OrderedMap ReceiptId GoodsReceipt
  receiptItems : List GoodsReceiptItem
  returns : OrderedMap ReturnGrnId ReturnGrn

/-! ## The queries -/

/-- A line of a posted return with the receipt it goes back to. -/
structure ReturnedLine where
  grnId : ReceiptId
  line : ReturnGrnLine
  deriving DecidableEq

/-- `return_grn_lines rl JOIN return_grn rg ON rg.id = rl.rgrn_id AND rg.status = 'POSTED'`. -/
def postedReturnLines (db : ProcurementDb) : List ReturnedLine :=
  (db.returns.values.filter fun rg => rg.status = .POSTED).flatMap fun rg =>
    rg.lines.map fun line => ⟨rg.grnId, line⟩

/-- The `EXISTS` of the query: the receipt has an item of the product on the order line. -/
def concernsLine (db : ProcurementDb) (poItemId : PoItemId) (rl : ReturnedLine) : Bool :=
  db.receiptItems.any fun gri => decide (gri.goodsReceiptId = rl.grnId) &&
    decide (gri.poItemId = some poItemId) && decide (gri.productId = rl.line.productId)

/-- `poItemReturnedQuantitySql`. -/
def poItemReturnedQuantity (db : ProcurementDb) (poItemId : PoItemId) : Numeric 4 :=
  (((postedReturnLines db).filter (concernsLine db poItemId)).map (·.line.quantity)).sum

/-- `COALESCE(poi.received_quantity, 0)`. -/
def PurchaseOrderItem.gross (poi : PurchaseOrderItem) : Numeric 4 := poi.receivedQuantity.getD 0

/-- `poItemNetReceivedQuantitySql`. -/
def poItemNetReceivedQuantity (db : ProcurementDb) (poItemId : PoItemId)
    (poi : PurchaseOrderItem) : Numeric 4 :=
  max 0 (poi.gross - poItemReturnedQuantity db poItemId)

/-- The lines of an order, each with its id. -/
def orderLines (db : ProcurementDb) (orderId : PurchaseOrderId) :
    List (PoItemId × PurchaseOrderItem) :=
  db.poItems.entries.filter fun e => e.2.purchaseOrderId = orderId

/-- `poNetReceivedQtyTotalSql`. -/
def poNetReceivedQtyTotal (db : ProcurementDb) (orderId : PurchaseOrderId) : Numeric 4 :=
  ((orderLines db orderId).map fun e => poItemNetReceivedQuantity db e.1 e.2).sum

/-- What the order's lines have received, returns apart. -/
def grossReceivedTotal (db : ProcurementDb) (orderId : PurchaseOrderId) : Numeric 4 :=
  ((orderLines db orderId).map fun e => e.2.gross).sum

/-- What the order's lines say was returned. -/
def attributedReturns (db : ProcurementDb) (orderId : PurchaseOrderId) : Numeric 4 :=
  ((orderLines db orderId).map fun e => poItemReturnedQuantity db e.1).sum

/-- Whether a receipt is one of the order's. -/
def isReceiptOf (db : ProcurementDb) (orderId : PurchaseOrderId) (grnId : ReceiptId) : Bool :=
  (db.receipts.get? grnId).any fun gr => gr.purchaseOrderId = some orderId

/-- Whether a receipt has been posted. -/
def isCompleted (db : ProcurementDb) (grnId : ReceiptId) : Bool :=
  (db.receipts.get? grnId).any fun gr => gr.status = .COMPLETED

/-- The posted return lines of the order's receipts. -/
def returnsOfOrder (db : ProcurementDb) (orderId : PurchaseOrderId) : List ReturnedLine :=
  (postedReturnLines db).filter fun rl => isReceiptOf db orderId rl.grnId

/-- What the posted returns of the order's receipts come to. -/
def returnedTotal (db : ProcurementDb) (orderId : PurchaseOrderId) : Numeric 4 :=
  ((returnsOfOrder db orderId).map (·.line.quantity)).sum

/-! ## An order and its receipts -/

/-- The items of one product in one receipt. -/
def itemsOf (db : ProcurementDb) (key : ReceiptId × ProductId) : List GoodsReceiptItem :=
  db.receiptItems.filter fun gri => (gri.goodsReceiptId, gri.productId) = key

/-- The posted return lines of one product of one receipt. -/
def returnsOf (db : ProcurementDb) (key : ReceiptId × ProductId) : List ReturnedLine :=
  (postedReturnLines db).filter fun rl => (rl.grnId, rl.line.productId) = key

/-- An order whose receipts' items are assigned to its lines, with returns of at most what was
received. -/
structure ReceivedOrder (db : ProcurementDb) (orderId : PurchaseOrderId) : Prop where
  /-- An item of one of the order's receipts is assigned to one of its lines. -/
  assigned : ∀ gri ∈ db.receiptItems, isReceiptOf db orderId gri.goodsReceiptId = true →
    ∃ e ∈ orderLines db orderId, gri.poItemId = some e.1
  /-- The items on its lines are of its own receipts. -/
  own_receipts : ∀ gri ∈ db.receiptItems, ∀ e ∈ orderLines db orderId, gri.poItemId = some e.1 →
    isReceiptOf db orderId gri.goodsReceiptId = true
  /-- A line has received what its items in posted receipts have:
  `updatePOItemReceivedQuantity`. -/
  gross_eq : ∀ e ∈ orderLines db orderId, e.2.gross = ((db.receiptItems.filter fun gri =>
    decide (gri.poItemId = some e.1) && isCompleted db gri.goodsReceiptId).map
      (·.receivedQuantity)).sum
  received_nonneg : ∀ gri ∈ db.receiptItems, 0 ≤ gri.receivedQuantity
  /-- `CHECK (quantity > 0)`. -/
  returned_pos : ∀ rl ∈ postedReturnLines db, 0 < rl.line.quantity
  /-- Only a posted receipt has returns. -/
  returned_completed : ∀ rl ∈ postedReturnLines db, isCompleted db rl.grnId = true
  /-- At most what was received goes back. -/
  returned_le : ∀ key, ((returnsOf db key).map (·.line.quantity)).sum ≤
    ((itemsOf db key).map (·.receivedQuantity)).sum

/-! ## Which lines a return concerns -/

theorem concernsLine_iff {db : ProcurementDb} {poItemId : PoItemId} {rl : ReturnedLine} :
    concernsLine db poItemId rl = true ↔
      ∃ gri ∈ itemsOf db (rl.grnId, rl.line.productId), gri.poItemId = some poItemId := by
  simp only [concernsLine, itemsOf, List.any_eq_true, Bool.and_eq_true, decide_eq_true_eq,
    List.mem_filter, Prod.mk.injEq]
  constructor
  · rintro ⟨gri, hmem, ⟨hreceipt, hline⟩, hproduct⟩
    exact ⟨gri, ⟨hmem, hreceipt, hproduct⟩, hline⟩
  · rintro ⟨gri, ⟨hmem, hreceipt, hproduct⟩, hline⟩
    exact ⟨gri, hmem, ⟨hreceipt, hline⟩, hproduct⟩

/-- The ids of an order's lines are different. -/
theorem orderLines_nodup (db : ProcurementDb) (orderId : PurchaseOrderId) :
    ((orderLines db orderId).map Prod.fst).Nodup :=
  (List.filter_sublist.map _).nodup db.poItems.nodup

section Order

variable {db : ProcurementDb} {orderId : PurchaseOrderId}

/-- The items of the returned product all stand on one line of the order. -/
def OnOneLine (db : ProcurementDb) (rl : ReturnedLine) : Prop :=
  ∀ gri ∈ itemsOf db (rl.grnId, rl.line.productId),
    ∀ gri' ∈ itemsOf db (rl.grnId, rl.line.productId), gri.poItemId = gri'.poItemId

theorem mem_returnsOfOrder {rl : ReturnedLine} : rl ∈ returnsOfOrder db orderId ↔
    rl ∈ postedReturnLines db ∧ isReceiptOf db orderId rl.grnId = true :=
  List.mem_filter

variable (h : ReceivedOrder db orderId)

include h

/-- A line of the order is concerned by returns of the order's receipts only. -/
theorem returned_of_order {e : PoItemId × PurchaseOrderItem} (he : e ∈ orderLines db orderId) :
    poItemReturnedQuantity db e.1 =
      (((returnsOfOrder db orderId).filter (concernsLine db e.1)).map (·.line.quantity)).sum := by
  have hsame : (returnsOfOrder db orderId).filter (concernsLine db e.1) =
      (postedReturnLines db).filter (concernsLine db e.1) := by
    rw [returnsOfOrder, List.filter_filter]
    refine List.filter_congr fun rl _ => ?_
    cases hconcerns : concernsLine db e.1 rl with
    | false => rw [Bool.false_and]
    | true =>
      obtain ⟨gri, hgri, hline⟩ := concernsLine_iff.mp hconcerns
      obtain ⟨hmem, hkey⟩ := List.mem_filter.mp hgri
      have hreceipt := h.own_receipts gri hmem e he hline
      simp only [decide_eq_true_eq, Prod.mk.injEq] at hkey
      rw [← hkey.1, hreceipt, Bool.and_self]
  rw [hsame]
  rfl

/-- A product that goes back was received, on some line of the order. -/
theorem returned_has_item {rl : ReturnedLine} (hrl : rl ∈ returnsOfOrder db orderId) :
    ∃ gri ∈ itemsOf db (rl.grnId, rl.line.productId), ∃ e ∈ orderLines db orderId,
      gri.poItemId = some e.1 := by
  obtain ⟨hposted, hreceipt⟩ := mem_returnsOfOrder.mp hrl
  have hin : rl ∈ returnsOf db (rl.grnId, rl.line.productId) :=
    List.mem_filter.mpr ⟨hposted, decide_eq_true rfl⟩
  have hpos : 0 < ((returnsOf db (rl.grnId, rl.line.productId)).map (·.line.quantity)).sum := by
    refine lt_of_lt_of_le (h.returned_pos rl hposted) (List.single_le_sum ?_ _
      (List.mem_map_of_mem hin))
    intro q hq
    obtain ⟨other, hother, rfl⟩ := List.mem_map.mp hq
    exact (h.returned_pos other (List.mem_of_mem_filter hother)).le
  have hreceived := hpos.trans_le (h.returned_le _)
  obtain ⟨gri, hgri⟩ : ∃ gri, gri ∈ itemsOf db (rl.grnId, rl.line.productId) := by
    refine List.exists_mem_of_ne_nil _ fun hnil => ?_
    rw [hnil] at hreceived
    exact lt_irrefl _ hreceived
  obtain ⟨hmem, hkey⟩ := List.mem_filter.mp hgri
  simp only [decide_eq_true_eq, Prod.mk.injEq] at hkey
  obtain ⟨e, he, hline⟩ := h.assigned gri hmem (hkey.1 ▸ hreceipt)
  exact ⟨gri, hgri, e, he, hline⟩

/-- A return concerns one line exactly when the items of its product stand on one line. -/
theorem countP_concerns_eq_one_iff {rl : ReturnedLine} (hrl : rl ∈ returnsOfOrder db orderId) :
    ((orderLines db orderId).countP fun e => concernsLine db e.1 rl) = 1 ↔ OnOneLine db rl := by
  have hassigned : ∀ gri ∈ itemsOf db (rl.grnId, rl.line.productId),
      ∃ e ∈ orderLines db orderId, gri.poItemId = some e.1 := by
    intro gri hgri
    obtain ⟨hmem, hkey⟩ := List.mem_filter.mp hgri
    simp only [decide_eq_true_eq, Prod.mk.injEq] at hkey
    exact h.assigned gri hmem (hkey.1 ▸ (mem_returnsOfOrder.mp hrl).2)
  constructor
  · intro hone gri hgri gri' hgri'
    rw [List.countP_eq_length_filter, List.length_eq_one_iff] at hone
    obtain ⟨x, hx⟩ := hone
    -- Both items' lines are concerned, and only one line is.
    have hline : ∀ g ∈ itemsOf db (rl.grnId, rl.line.productId), g.poItemId = some x.1 := by
      intro g hg
      obtain ⟨e, he, hline⟩ := hassigned g hg
      have hin : e ∈ (orderLines db orderId).filter fun e => concernsLine db e.1 rl :=
        List.mem_filter.mpr ⟨he, concernsLine_iff.mpr ⟨g, hg, hline⟩⟩
      rw [hx, List.mem_singleton] at hin
      rw [hline, hin]
    rw [hline gri hgri, hline gri' hgri']
  · intro hsame
    obtain ⟨gri, hgri, e, he, hline⟩ := returned_has_item h hrl
    have hconcerns : ∀ e' ∈ orderLines db orderId,
        concernsLine db e'.1 rl = true ↔ (e'.1 == e.1) = true := by
      intro e' _
      rw [concernsLine_iff, beq_iff_eq]
      constructor
      · rintro ⟨other, hother, hline'⟩
        exact Option.some.inj (hline'.symm.trans ((hsame other hother gri hgri).trans hline))
      · intro heq
        exact ⟨gri, hgri, heq ▸ hline⟩
    rw [List.countP_congr hconcerns]
    have hcount := List.count_eq_one_of_mem (orderLines_nodup db orderId)
      (List.mem_map_of_mem (f := Prod.fst) he)
    rw [List.count, List.countP_map] at hcount
    exact hcount

/-- The lines' returns sum to what was returned exactly when every return concerns one line. -/
theorem attributedReturns_eq_iff : attributedReturns db orderId = returnedTotal db orderId ↔
    ∀ rl ∈ returnsOfOrder db orderId, OnOneLine db rl := by
  have hattributed : attributedReturns db orderId = ((orderLines db orderId).map fun e =>
      (((returnsOfOrder db orderId).filter (concernsLine db e.1)).map (·.line.quantity)).sum).sum :=
    congrArg List.sum (List.map_congr_left fun e he => returned_of_order h he)
  have howned : ∀ rl ∈ returnsOfOrder db orderId,
      1 ≤ (orderLines db orderId).countP fun e => concernsLine db e.1 rl := by
    intro rl hrl
    obtain ⟨gri, hgri, e, he, hline⟩ := returned_has_item h hrl
    exact List.countP_pos_iff.mpr ⟨e, he, concernsLine_iff.mpr ⟨gri, hgri, hline⟩⟩
  rw [hattributed, returnedTotal, sum_attributed_eq_iff
    (fun rl hrl => h.returned_pos rl (mem_returnsOfOrder.mp hrl).1) howned]
  exact forall₂_congr fun rl hrl => countP_concerns_eq_one_iff h hrl

/-- Where every return concerns one line, no line has more returned than received. -/
theorem returned_le_gross (hone : ∀ rl ∈ returnsOfOrder db orderId, OnOneLine db rl)
    {e : PoItemId × PurchaseOrderItem} (he : e ∈ orderLines db orderId) :
    poItemReturnedQuantity db e.1 ≤ e.2.gross := by
  rw [returned_of_order h he, h.gross_eq e he]
  refine sum_le_of_groups (fun rl : ReturnedLine => (rl.grnId, rl.line.productId))
    (fun gri : GoodsReceiptItem => (gri.goodsReceiptId, gri.productId)) fun key => ?_
  rw [List.filter_filter, List.filter_filter]
  by_cases hany : ∃ rl ∈ returnsOfOrder db orderId,
      concernsLine db e.1 rl = true ∧ (rl.grnId, rl.line.productId) = key
  · obtain ⟨rl, hrl, hconcerns, rfl⟩ := hany
    obtain ⟨hposted, -⟩ := mem_returnsOfOrder.mp hrl
    obtain ⟨gri, hgri, hline⟩ := concernsLine_iff.mp hconcerns
    -- All items of this product in this receipt are on the line.
    have hitems : (db.receiptItems.filter fun gri' =>
        decide ((gri'.goodsReceiptId, gri'.productId) = (rl.grnId, rl.line.productId)) &&
          (decide (gri'.poItemId = some e.1) && isCompleted db gri'.goodsReceiptId)) =
        itemsOf db (rl.grnId, rl.line.productId) := by
      refine List.filter_congr fun gri' hgri' => ?_
      by_cases hkey : (gri'.goodsReceiptId, gri'.productId) = (rl.grnId, rl.line.productId)
      · have hin : gri' ∈ itemsOf db (rl.grnId, rl.line.productId) :=
          List.mem_filter.mpr ⟨hgri', decide_eq_true hkey⟩
        have hreceipt : gri'.goodsReceiptId = rl.grnId := (Prod.mk.inj hkey).1
        rw [hone rl hrl gri' hin gri hgri, hline, hreceipt, h.returned_completed rl hposted]
        simp
      · simp [hkey]
    rw [hitems]
    refine le_trans ?_ (h.returned_le _)
    refine List.Sublist.sum_le_sum (List.Sublist.map _ ?_) ?_
    · rw [returnsOfOrder, returnsOf, List.filter_filter]
      exact List.monotone_filter_right _ fun other hother =>
        (Bool.and_eq_true_iff.mp (Bool.and_eq_true_iff.mp hother).1).1
    · intro q hq
      obtain ⟨other, hother, rfl⟩ := List.mem_map.mp hq
      exact (h.returned_pos other (List.mem_of_mem_filter hother)).le
  · have hnone : (returnsOfOrder db orderId).filter (fun rl =>
        decide ((rl.grnId, rl.line.productId) = key) && concernsLine db e.1 rl) = [] := by
      refine List.filter_eq_nil_iff.mpr fun rl hrl hboth => ?_
      obtain ⟨hkey, hconcerns⟩ := Bool.and_eq_true_iff.mp hboth
      exact hany ⟨rl, hrl, hconcerns, of_decide_eq_true hkey⟩
    rw [hnone, List.map_nil, List.sum_nil]
    refine List.sum_nonneg fun q hq => ?_
    obtain ⟨gri, hgri, rfl⟩ := List.mem_map.mp hq
    exact h.received_nonneg gri (List.mem_of_mem_filter hgri)

/-- What is received net is then what was received, less what the lines say was returned. -/
theorem netReceived_add_attributed (hone : ∀ rl ∈ returnsOfOrder db orderId, OnOneLine db rl) :
    poNetReceivedQtyTotal db orderId + attributedReturns db orderId =
      grossReceivedTotal db orderId := by
  rw [poNetReceivedQtyTotal, attributedReturns, ← List.sum_map_add]
  refine congrArg List.sum (List.map_congr_left fun e he => ?_)
  rw [poItemNetReceivedQuantity,
    max_eq_right (sub_nonneg.mpr (returned_le_gross h hone he)), sub_add_cancel]

end Order

/-- The returns on the lines sum to what was returned, and what is received net to the rest,
exactly when each returned product stands on one line in its receipt. -/
theorem returns_attributed_iff (db : ProcurementDb) (orderId : PurchaseOrderId)
    (h : ReceivedOrder db orderId) :
    (attributedReturns db orderId = returnedTotal db orderId ∧
      poNetReceivedQtyTotal db orderId =
        grossReceivedTotal db orderId - returnedTotal db orderId) ↔
    ∀ rl ∈ returnsOfOrder db orderId, OnOneLine db rl := by
  constructor
  · rintro ⟨hattributed, -⟩
    exact (attributedReturns_eq_iff h).mp hattributed
  · intro hone
    have hattributed := (attributedReturns_eq_iff h).mpr hone
    refine ⟨hattributed, ?_⟩
    rw [← hattributed, ← netReceived_add_attributed h hone, add_sub_cancel_right]

/-! ## A product on two lines -/

/-- An order of ten of a product: five on each of two lines, received together, three sent
back.  With `second` the second item stands on the second line, else on the first. -/
def tenReceived (second : Bool) : ProcurementDb where
  poItems := (OrderedMap.empty.set 1 ⟨7, ⟨50000⟩, some ⟨if second then 50000 else 100000⟩⟩).set 2
    ⟨7, ⟨50000⟩, some ⟨if second then 50000 else 0⟩⟩
  receipts := OrderedMap.empty.set "GR-1" ⟨some 7, .COMPLETED⟩
  receiptItems := [⟨"GR-1", some 1, "P", ⟨50000⟩⟩,
    ⟨"GR-1", some (if second then 2 else 1), "P", ⟨50000⟩⟩]
  returns := OrderedMap.empty.set 9
    ⟨"RGRN-1", "GR-1", .POSTED, "damaged", [⟨"P", none, ⟨30000⟩, ⟨30000⟩, ⟨0⟩, ⟨0⟩⟩], none⟩

/-- Either way the items are assigned and less goes back than was received. -/
theorem tenReceived_received (second : Bool) : ReceivedOrder (tenReceived second) 7 where
  assigned := by cases second <;> decide
  own_receipts := by cases second <;> decide
  gross_eq := by cases second <;> decide
  received_nonneg := by cases second <;> decide
  returned_pos := by cases second <;> decide
  returned_completed := by cases second <;> decide
  returned_le := by
    intro key
    by_cases hkey : ("GR-1", "P") = key
    · subst hkey
      cases second <;> decide
    · have hnone : returnsOf (tenReceived second) key = [] := by
        refine List.filter_eq_nil_iff.mpr fun rl hrl heq => hkey ?_
        have hposted : postedReturnLines (tenReceived second) =
            [⟨"GR-1", ⟨"P", none, ⟨30000⟩, ⟨30000⟩, ⟨0⟩, ⟨0⟩⟩⟩] := by
          cases second <;> rfl
        rw [hposted, List.mem_singleton] at hrl
        subst hrl
        exact of_decide_eq_true heq
      rw [hnone]
      refine List.sum_nonneg fun q hq => ?_
      obtain ⟨gri, hgri, rfl⟩ := List.mem_map.mp hq
      have hpos : ∀ gri ∈ (tenReceived second).receiptItems, 0 ≤ gri.receivedQuantity := by
        cases second <;> decide
      exact hpos gri (List.mem_of_mem_filter hgri)

/-- On one line, the three that went back leave seven. -/
theorem tenReceived_oneLine :
    attributedReturns (tenReceived false) 7 = returnedTotal (tenReceived false) 7 ∧
    poNetReceivedQtyTotal (tenReceived false) 7 =
      grossReceivedTotal (tenReceived false) 7 - returnedTotal (tenReceived false) 7 :=
  (returns_attributed_iff _ _ (tenReceived_received false)).mpr (by
    intro rl hrl
    have hlines : returnsOfOrder (tenReceived false) 7 =
        [⟨"GR-1", ⟨"P", none, ⟨30000⟩, ⟨30000⟩, ⟨0⟩, ⟨0⟩⟩⟩] := rfl
    rw [hlines, List.mem_singleton] at hrl
    subst hrl
    unfold OnOneLine
    decide)

/-- On two lines, the three count on both: six are gone, and four are left of ten. -/
theorem tenReceived_twoLines : ReceivedOrder (tenReceived true) 7 ∧
    attributedReturns (tenReceived true) 7 = ⟨60000⟩ ∧
    returnedTotal (tenReceived true) 7 = ⟨30000⟩ ∧
    grossReceivedTotal (tenReceived true) 7 = ⟨100000⟩ ∧
    poNetReceivedQtyTotal (tenReceived true) 7 = ⟨40000⟩ :=
  ⟨tenReceived_received true, by decide, by decide, by decide, by decide⟩

end SmartErpPos.Purchasing
