/-
  Sales/ProductNet.lean --- the product rollup as the net of sales and returns.

  A partial return takes the returned slice out of the rollup, and the return that closes a
  sale takes the whole sale, whether or not slices were taken before.  So the units are the
  net of sales and returns as long as no sale whose goods came back in parts is closed by a
  last return.  Beside that, the sums of a batch are rounded once and the rows one by one:
  the two agree for amounts that fit their columns.
-/
import SmartErpPos.Sales.ProductRollup
import SmartErpPos.Sales.ReturnedItems

set_option autoImplicit false

namespace SmartErpPos.Sales

open SmartErpPos.Lib SmartErpPos.Ledger

/-! ## The property -/

/-- Voided or fully returned. -/
def Sale.IsGone (sale : Sale) : Prop := sale.status = .VOID ∨ sale.status = .VOIDED_BY_RETURN

instance (sale : Sale) : Decidable sale.IsGone := inferInstanceAs (Decidable (_ ∨ _))

/-- The units of a product sold and not returned; none of a voided sale. -/
def Sale.netUnits (sale : Sale) (p : ProductId) : Quantity :=
  if sale.status = .VOID then 0
  else unitsOf (·.quantity) sale.items p - unitsOf (·.refundedQty) sale.items p

def Sale.Sells (sale : Sale) (p : ProductId) : Prop := ∃ item ∈ sale.items, item.productId = some p

/-- A sum over the sales of a day. -/
def SaleStore.sumOn {M : Type*} [AddCommGroup M] (store : SaleStore) (date : IsoDate)
    (f : Sale → M) : M :=
  store.sales.sumWhere (fun _ => true) fun sale => if sale.saleDate = date then f sale else 0

/-- The product rollup is the net of sales and returns. -/
structure ProductRollupNet (store : SaleStore) : Prop where
  units : ∀ date p, store.products.valueAt (·.unitsSold) (date, p) =
    store.sumOn date (·.netUnits p)
  cleared : ∀ date p, (∀ id sale, store.sales.get? id = some sale → sale.saleDate = date →
      sale.Sells p → sale.IsGone) →
    store.products.valueAt (·.revenue) (date, p) = 0 ∧
      store.products.valueAt (·.costOfGoods) (date, p) = 0 ∧
      store.products.valueAt (·.discountGiven) (date, p) = 0

/-- The calls that keep it: the lines of a new sale sum to what their rows sum to, a return
that leaves nothing follows no return of the same sale's products, and another one takes
quantities that fit the column. -/
def KeepsProductNet (store : SaleStore) : SaleCall → Prop
  | .create _ input => ∀ p, (totalsOf (input.lines.filterMap SaleLine.entry) p).stored =
      (totalsOf ((storedItems input.lines).filterMap SaleItem.entry) p).stored
  | .void _ _ => True
  | .refund _ input => ∀ sale, store.sales.get? input.saleId = some sale →
      (LeavesNothing sale.items input.items →
        ∀ item ∈ sale.items, item.productId ≠ none → item.refundedQty = 0) ∧
      (¬ LeavesNothing sale.items input.items →
        ∀ item ∈ sale.items, item.productId ≠ none → ∀ e ∈ input.items, e.1 = item.id →
          OnGrid 4 e.2)

/-! ## Totals and units -/

theorem unitsSold_sum (l : List ProductTotals) : l.sum.unitsSold = (l.map (·.unitsSold)).sum := by
  induction l with
  | nil => rfl
  | cons t rest ih => rw [List.sum_cons, ProductTotals.unitsSold_add, ih, List.map_cons, List.sum_cons]

/-- The totals of a product, over what the entries come from. -/
theorem totalsOf_filterMap {R : Type*} (product : R → Option ProductId) (t : R → ProductTotals)
    (l : List R) (p : ProductId) :
    totalsOf (l.filterMap fun r => (product r).map fun q => (q, t r)) p =
      (l.map fun r => if product r = some p then t r else 0).sum := by
  induction l with
  | nil => rfl
  | cons r rest ih =>
    rw [List.map_cons, List.sum_cons, ← ih]
    cases hproduct : product r with
    | none => simp [hproduct]
    | some q => simp [hproduct, totalsOf_cons]

/-- A sum of stored quantities is stored as it is. -/
theorem ofRat_sum_toRat {ι : Type*} (l : List ι) (f : ι → Quantity) :
    (Numeric.ofRat (l.map fun x => (f x).toRat).sum : Quantity) = (l.map f).sum := by
  have hsum : (l.map fun x => (f x).toRat).sum = ((l.map f).sum).toRat := by
    have h := map_list_sum (Numeric.toRatHom : Quantity →+ ℚ) (l.map f)
    rw [List.map_map] at h
    exact h.symm
  rw [hsum, Numeric.ofRat_toRat]

/-- The units of a whole sale. -/
theorem stored_entries_units (items : List SaleItem) (p : ProductId) :
    (totalsOf (items.filterMap SaleItem.entry) p).stored.1 = unitsOf (·.quantity) items p := by
  unfold unitsOf
  have hunits : (totalsOf (items.filterMap SaleItem.entry) p).unitsSold =
      (items.map fun item => (if item.productId = some p then item.quantity else 0).toRat).sum := by
    unfold SaleItem.entry
    rw [totalsOf_filterMap, unitsSold_sum, List.map_map]
    refine congrArg List.sum (List.map_congr_left fun item _ => ?_)
    dsimp only [Function.comp_apply]
    split
    · rfl
    · exact (Numeric.toRat_zero).symm
  show Numeric.ofRat _ = _
  rw [hunits, ofRat_sum_toRat]

variable {rows : List ValidatedItem} {store store' : SaleStore} {id : SaleId}

/-- The units of a partial return whose quantities fit the column. -/
theorem stored_rows_units {charged : SaleRefundChargedProjection} {p : ProductId}
    (hgrid : ∀ row ∈ rows, row.saleItem.productId = some p → OnGrid 4 row.refundQty) :
    (totalsOf (rows.filterMap (ValidatedItem.entry charged)) p).stored.1 = rowUnits rows p := by
  have hunits : (totalsOf (rows.filterMap (ValidatedItem.entry charged)) p).unitsSold =
      (rows.map fun row => (if row.saleItem.productId = some p then
        (.ofRat row.refundQty : Quantity) else 0).toRat).sum := by
    unfold ValidatedItem.entry
    rw [totalsOf_filterMap, unitsSold_sum, List.map_map]
    refine congrArg List.sum (List.map_congr_left fun row hrow => ?_)
    dsimp only [Function.comp_apply]
    split
    · rename_i hproduct
      exact (hgrid row hrow hproduct).roundTo_eq.symm
    · exact (Numeric.toRat_zero).symm
  show Numeric.ofRat _ = _
  rw [hunits, ofRat_sum_toRat]
  rfl

/-- A return that raises no units of a product takes nothing of it. -/
theorem totalsOf_rows_eq_zero {charged : SaleRefundChargedProjection} {p : ProductId}
    (hpos : ∀ row ∈ rows, 0 < row.refundQty)
    (hgrid : ∀ row ∈ rows, row.saleItem.productId = some p → OnGrid 4 row.refundQty)
    (hzero : rowUnits rows p = 0) :
    totalsOf (rows.filterMap (ValidatedItem.entry charged)) p = 0 := by
  have hstored : ∀ row ∈ rows, row.saleItem.productId = some p →
      0 < (Numeric.ofRat row.refundQty : Quantity) := by
    intro row hrow hproduct
    rw [← Numeric.toRat_pos_iff]
    have hround : (Numeric.ofRat row.refundQty : Quantity).toRat = row.refundQty :=
      (hgrid row hrow hproduct).roundTo_eq
    rw [hround]
    exact hpos row hrow
  have hnone : ∀ row ∈ rows, row.saleItem.productId ≠ some p := by
    intro row hrow hproduct
    have hnonneg : ∀ u ∈ rows.map fun row => if row.saleItem.productId = some p then
        (.ofRat row.refundQty : Quantity) else 0, 0 ≤ u := by
      intro u hu
      obtain ⟨r, hr, rfl⟩ := List.mem_map.mp hu
      split
      · exact Numeric.ofRat_nonneg (hpos r hr).le
      · exact le_rfl
    have hle := List.single_le_sum hnonneg _ (List.mem_map_of_mem hrow)
    rw [if_pos hproduct] at hle
    exact absurd (hle.trans hzero.le) (not_le.mpr (hstored row hrow hproduct))
  unfold ValidatedItem.entry
  rw [totalsOf_filterMap]
  refine List.sum_eq_zero fun t ht => ?_
  obtain ⟨row, hrow, rfl⟩ := List.mem_map.mp ht
  exact if_neg (hnone row hrow)

theorem unitsOf_nonneg {items : List SaleItem} (h : ItemsSound items) (p : ProductId) :
    0 ≤ unitsOf (·.refundedQty) items p := by
  refine List.sum_nonneg fun u hu => ?_
  obtain ⟨item, hitem, rfl⟩ := List.mem_map.mp hu
  split
  · exact (h.returned item hitem).1
  · exact le_rfl

theorem unitsOf_eq_zero {items : List SaleItem}
    (h : ∀ item ∈ items, item.productId ≠ none → item.refundedQty = 0) (p : ProductId) :
    unitsOf (·.refundedQty) items p = 0 := by
  refine List.sum_eq_zero fun u hu => ?_
  obtain ⟨item, hitem, rfl⟩ := List.mem_map.mp hu
  dsimp only
  split
  · rename_i hproduct
    exact h item hitem (by rw [hproduct]; exact Option.some_ne_none p)
  · rfl

theorem rowUnits_nonneg (hpos : ∀ row ∈ rows, 0 < row.refundQty) (p : ProductId) :
    0 ≤ rowUnits rows p := by
  refine List.sum_nonneg fun u hu => ?_
  obtain ⟨row, hrow, rfl⟩ := List.mem_map.mp hu
  split
  · exact Numeric.ofRat_nonneg (hpos row hrow).le
  · exact le_rfl

/-! ## The invariant -/

/-- What the rollup holds of a sale. -/
structure Book where
  date : IsoDate
  amounts : ProductId → Amounts

/-- Its part of a row. -/
def Book.at (book : Book) (key : IsoDate × ProductId) : Amounts :=
  if book.date = key.1 then book.amounts key.2 else 0

/-- Nothing of a sale that is gone; else the units still out, and as long as nothing of a
product has come back, all that was counted of it. -/
def Holds (sale : Sale) (amounts : ProductId → Amounts) : Prop :=
  if sale.IsGone then ∀ p, amounts p = 0
  else ∀ p, (amounts p).1 = unitsOf (·.quantity) sale.items p - unitsOf (·.refundedQty) sale.items p ∧
    (unitsOf (·.refundedQty) sale.items p = 0 → amounts p = (totalsOf sale.entries p).stored)

/-- What the calls keep of a sale. -/
structure SaleKept (sale : Sale) : Prop where
  sound : ItemsSound sale.items
  fresh : sale.status = .COMPLETED → ∀ item ∈ sale.items, item.refundedQty = 0
  returned : sale.status = .VOIDED_BY_RETURN → ∀ item ∈ sale.items, item.refundedQty = item.quantity

structure Booked (store : SaleStore) (books : OrderedMap SaleId Book) : Prop where
  dates : ∀ id, (books.get? id).map (·.date) = (store.sales.get? id).map (·.saleDate)
  holds : ∀ id sale book, store.sales.get? id = some sale → books.get? id = some book →
    Holds sale book.amounts
  value : ∀ key, store.products.valueAt ProductSummaryRow.amounts key =
    books.sumWhere (fun _ => true) fun book => book.at key
  rows : ∀ id sale, store.sales.get? id = some sale →
    HasRows store.products sale.saleDate sale.entries
  kept : ∀ id sale, store.sales.get? id = some sale → SaleKept sale

/-- The rollup is booked sale by sale. -/
def IsBooked (store : SaleStore) : Prop := ∃ books, Booked store books

theorem isBooked_empty : IsBooked SaleStore.empty :=
  ⟨.empty, fun _ => rfl, fun _ _ _ h => (nomatch h), fun _ => rfl, fun _ _ h => (nomatch h),
    fun _ _ h => (nomatch h)⟩

variable {books : OrderedMap SaleId Book}

theorem Booked.book_of_sale (h : Booked store books) {sale : Sale}
    (hget : store.sales.get? id = some sale) :
    ∃ book, books.get? id = some book ∧ book.date = sale.saleDate := by
  have hdate := h.dates id
  rw [hget] at hdate
  obtain ⟨book, hbook, hdate⟩ := Option.map_eq_some_iff.mp hdate
  exact ⟨book, hbook, hdate⟩

/-- One sale is written, and the rollup moves by what its book moves. -/
theorem Booked.write (h : Booked store books) {sale' : Sale} {book' : Book}
    (hsales : store'.sales = store.sales.set id sale') (hdate : book'.date = sale'.saleDate)
    (hholds : Holds sale' book'.amounts) (hkept : SaleKept sale')
    (hrows : HasRows store'.products sale'.saleDate sale'.entries)
    (hmono : ∀ key, (store.products.get? key).isSome → (store'.products.get? key).isSome)
    (hvalue : ∀ key, store'.products.valueAt ProductSummaryRow.amounts key =
      store.products.valueAt ProductSummaryRow.amounts key +
        (book'.at key - books.valueAt (fun book => book.at key) id)) :
    Booked store' (books.set id book') := by
  constructor
  · intro k
    rw [hsales, OrderedMap.get?_set, OrderedMap.get?_set]
    split
    · exact congrArg some hdate
    · exact h.dates k
  · intro k sale book hsale hbook
    rw [hsales, OrderedMap.get?_set] at hsale
    rw [OrderedMap.get?_set] at hbook
    split at hsale
    · rename_i hk
      rw [if_pos hk] at hbook
      cases hsale
      cases hbook
      exact hholds
    · rename_i hk
      rw [if_neg hk] at hbook
      exact h.holds k sale book hsale hbook
  · intro key
    rw [hvalue, h.value, OrderedMap.sumWhere_set, if_pos rfl]
  · intro k sale hsale
    rw [hsales, OrderedMap.get?_set] at hsale
    split at hsale
    · cases hsale
      exact hrows
    · exact fun e he => hmono _ (h.rows k sale hsale e he)
  · intro k sale hsale
    rw [hsales, OrderedMap.get?_set] at hsale
    split at hsale
    · cases hsale
      exact hkept
    · exact h.kept k sale hsale

/-! ## The calls -/

theorem createSale_eq {input : CreateSaleInput} (h : createSale store id input = .ok store') :
    ∃ settlement sale, settleTender input.tender = .ok settlement ∧
      (∀ line ∈ input.lines, 0 < line.quantity) ∧
      sale.saleDate = input.saleDate ∧ sale.status = .COMPLETED ∧
      sale.items = storedItems input.lines ∧
      store'.sales = store.sales.set id sale ∧
      store'.products = batchUpsertProductDailySummary store.products input.saleDate
        (aggregate (input.lines.filterMap SaleLine.entry)) := by
  simp only [createSale, bind_eq_ok, require_eq_ok, pure_eq_ok] at h
  obtain ⟨-, -, -, hpos, settlement, hsettle, rfl⟩ := h
  exact ⟨settlement, _, hsettle, hpos, rfl, rfl, rfl, rfl, rfl⟩

/-- A new sale is booked with what its rows sum to. -/
theorem isBooked_create {input : CreateSaleInput} (hbooked : IsBooked store)
    (hfresh : store.sales.get? id = none) (h : createSale store id input = .ok store')
    (hkeeps : KeepsProductNet store (.create id input)) : IsBooked store' := by
  obtain ⟨books, hbooks⟩ := hbooked
  obtain ⟨-, sale, -, hpos, hdate, hstatus, hitems, hsales, hproducts⟩ := createSale_eq h
  have hzero : ∀ item ∈ sale.items, item.refundedQty = 0 := by
    rw [hitems]
    intro item hitem
    obtain ⟨n, hn, rfl⟩ := List.mem_iff_getElem.mp hitem
    simp [storedItems, SaleLine.stored]
  have hnotGone : ¬ sale.IsGone := by
    rintro (hvoid | hreturned)
    · rw [hstatus] at hvoid
      cases hvoid
    · rw [hstatus] at hreturned
      cases hreturned
  have hnone : books.get? id = none := by
    have hid := hbooks.dates id
    rw [hfresh] at hid
    exact Option.map_eq_none_iff.mp hid
  have hentries : ∀ e ∈ sale.entries, ∃ x ∈ input.lines.filterMap SaleLine.entry, x.1 = e.1 := by
    intro e he
    obtain ⟨item, hitem, hentry⟩ := List.mem_filterMap.mp he
    rw [hitems] at hitem
    obtain ⟨n, hn, rfl⟩ := List.mem_iff_getElem.mp hitem
    simp only [storedItems, List.getElem_mapIdx, SaleLine.stored, SaleItem.entry,
      Option.map_eq_some_iff] at hentry
    obtain ⟨q, hq, rfl⟩ := hentry
    have hline : n < input.lines.length := by simpa [storedItems] using hn
    obtain ⟨t, ht⟩ : ∃ t, input.lines[n].entry = some (q, t) :=
      ⟨_, Option.map_eq_some_iff.mpr ⟨q, hq, rfl⟩⟩
    exact ⟨(q, t), List.mem_filterMap.mpr ⟨_, List.getElem_mem hline, ht⟩, rfl⟩
  obtain ⟨hrows, hmono⟩ := get?_isSome_batchUpsert store.products input.saleDate
    (input.lines.filterMap SaleLine.entry)
  refine ⟨books.set id ⟨input.saleDate, fun p => (totalsOf sale.entries p).stored⟩,
    hbooks.write hsales hdate.symm ?_ ?_ ?_ ?_ fun key => ?_⟩
  · unfold Holds
    rw [if_neg hnotGone]
    intro p
    refine ⟨?_, fun _ => rfl⟩
    rw [unitsOf_eq_zero (fun item hitem _ => hzero item hitem), sub_zero]
    exact stored_entries_units sale.items p
  · exact ⟨hitems ▸ storedItems_sound hpos, fun _ => hzero, fun hreturned => by
      rw [hstatus] at hreturned
      cases hreturned⟩
  · rw [hdate, hproducts]
    intro e he
    obtain ⟨x, hx, hxe⟩ := hentries e he
    exact hxe ▸ hrows x hx
  · rw [hproducts]
    exact hmono
  · rw [hproducts, valueAt_batchUpsert, OrderedMap.valueAt_of_get?_none hnone, sub_zero]
    congr 1
    unfold batchAmounts Book.at
    split
    · have hsame : sale.entries = (storedItems input.lines).filterMap SaleItem.entry := by
        rw [← hitems]
        rfl
      rw [hkeeps key.2, ← hsame]
    · rfl

/-- A sale that goes, with nothing of its products returned before, takes its book along. -/
theorem Booked.close (h : Booked store books) {sale sale' : Sale}
    (hget : store.sales.get? id = some sale) (hopen : ¬ sale.IsGone)
    (huntouched : ∀ p, unitsOf (·.refundedQty) sale.items p = 0)
    (hsales : store'.sales = store.sales.set id sale') (hgone : sale'.IsGone)
    (hdate : sale'.saleDate = sale.saleDate) (hentries : sale'.entries = sale.entries)
    (hkept : SaleKept sale')
    (hproducts : store'.products = batchDecrementProductDailySummary store.products sale.saleDate
      (aggregate sale.entries)) : IsBooked store' := by
  obtain ⟨book, hbook, hbookDate⟩ := h.book_of_sale hget
  have hamounts : ∀ p, book.amounts p = (totalsOf sale.entries p).stored := by
    have hholds := h.holds id sale book hget hbook
    unfold Holds at hholds
    rw [if_neg hopen] at hholds
    exact fun p => (hholds p).2 (huntouched p)
  refine ⟨books.set id ⟨sale.saleDate, fun _ => 0⟩,
    h.write hsales hdate.symm ?_ hkept ?_ ?_ fun key => ?_⟩
  · unfold Holds
    rw [if_pos hgone]
    exact fun _ => rfl
  · rw [hdate, hentries, hproducts]
    intro e he
    rw [get?_isSome_batchDecrement]
    exact h.rows id sale hget e he
  · intro key hkey
    rw [hproducts, get?_isSome_batchDecrement]
    exact hkey
  · have hpart : book.at key = batchAmounts sale.saleDate sale.entries key := by
      unfold Book.at batchAmounts
      rw [hbookDate, hamounts]
    have hempty : Book.at ⟨sale.saleDate, fun _ => 0⟩ key = 0 := by
      unfold Book.at
      split <;> rfl
    rw [hproducts, valueAt_batchDecrement (h.rows id sale hget), OrderedMap.valueAt_of_get? hbook,
      hpart, hempty, zero_sub, sub_eq_add_neg]

theorem isBooked_void {env : VoidEnv} {input : VoidInput} (hbooked : IsBooked store)
    (h : voidSale env store input = .ok store') : IsBooked store' := by
  simp only [voidSale, bind_eq_ok, orThrow_eq_ok, require_eq_ok, pure_eq_ok] at h
  obtain ⟨sale, hget, -, -, -, hstatus, rfl⟩ := h
  obtain ⟨books, hbooks⟩ := hbooked
  have hkept := hbooks.kept _ _ hget
  have hopen : ¬ sale.IsGone := by
    unfold Sale.IsGone
    rw [hstatus]
    decide
  refine hbooks.close hget hopen ?_ rfl (.inl rfl) rfl rfl ?_ rfl
  · exact fun p => unitsOf_eq_zero (fun item hitem _ => hkept.fresh hstatus item hitem) p
  · exact ⟨hkept.sound, fun hcompleted => (nomatch hcompleted), fun hreturned => (nomatch hreturned)⟩

/-- What a successful refund went through. -/
structure RefundRun (store : SaleStore) (input : RefundInput) (store' : SaleStore) (sale : Sale)
    (rows : List ValidatedItem) (items : List SaleItem) : Prop where
  get : store.sales.get? input.saleId = some sale
  status : sale.status = .COMPLETED ∨ sale.status = .PARTIALLY_RETURNED
  validated : input.items.mapM (validateItem sale.items) = .ok rows
  raised : rows.foldlM incrementRefundedQty sale.items = .ok items
  full : isSaleFullyRefunded items = true → ∃ refunds,
    store'.sales = store.sales.set input.saleId
      { sale with items := items, refunds := refunds, status := .VOIDED_BY_RETURN } ∧
    store'.daily = uncountSale store.daily sale ∧
    store'.products = batchDecrementProductDailySummary store.products sale.saleDate
      (aggregate sale.entries)
  partly : isSaleFullyRefunded items = false → ∃ refunds,
    store'.sales = store.sales.set input.saleId
      { sale with items := items, refunds := refunds, status := .PARTIALLY_RETURNED } ∧
    store'.products = batchDecrementProductDailySummary store.products sale.saleDate
      (aggregate (rows.filterMap
        (ValidatedItem.entry (chargeRefund sale sale.refundedChargedTotal rows))))

theorem refundSale_run {env : RefundEnv} {input : RefundInput}
    (h : refundSale env store input = .ok store') :
    ∃ sale rows items, RefundRun store input store' sale rows items := by
  simp only [refundSale, checkRefund, bind_eq_ok, orThrow_eq_ok, require_eq_ok] at h
  obtain ⟨sale, hget, -, ⟨-, hstatus, -⟩, rows, hrows, items, hitems, h⟩ := h
  refine ⟨sale, rows, items, hget, hstatus, hrows, hitems, fun hfull => ?_, fun hpart => ?_⟩
  · rw [if_pos hfull, pure_eq_ok] at h
    subst h
    exact ⟨_, rfl, rfl, rfl⟩
  · rw [if_neg (by rw [hpart]; exact Bool.false_ne_true), pure_eq_ok] at h
    subst h
    exact ⟨_, rfl, rfl⟩

/-- A partial return takes from the book what it takes from the rollup. -/
theorem Booked.partReturn (h : Booked store books) {input : RefundInput} {sale : Sale}
    {items : List SaleItem} (hrun : RefundRun store input store' sale rows items)
    (hreturned : Returned rows sale.items items) (hpart : isSaleFullyRefunded items = false)
    (hgrid : ∀ p, ∀ row ∈ rows, row.saleItem.productId = some p → OnGrid 4 row.refundQty) :
    IsBooked store' := by
  obtain ⟨refunds, hsales, hproducts⟩ := hrun.partly hpart
  obtain ⟨book, hbook, hbookDate⟩ := h.book_of_sale hrun.get
  have hspec := validated_spec hrun.validated
  have hpos : ∀ row ∈ rows, 0 < row.refundQty := fun row hrow => (hspec row hrow).2.1
  have hopen : ¬ sale.IsGone := by
    rintro (hvoid | hgone)
    · rcases hrun.status with hs | hs <;> rw [hvoid] at hs <;> cases hs
    · rcases hrun.status with hs | hs <;> rw [hgone] at hs <;> cases hs
  have hholds := h.holds _ sale book hrun.get hbook
  unfold Holds at hholds
  rw [if_neg hopen] at hholds
  let entries := rows.filterMap
    (ValidatedItem.entry (chargeRefund sale sale.refundedChargedTotal rows))
  have hrows : HasRows store.products sale.saleDate entries := by
    intro e he
    obtain ⟨row, hrow, hentry⟩ := List.mem_filterMap.mp he
    obtain ⟨q, hq, rfl⟩ := Option.map_eq_some_iff.mp hentry
    have hitem : row.saleItem.entry = some (q, _) := Option.map_eq_some_iff.mpr ⟨q, hq, rfl⟩
    have hold := h.rows _ sale hrun.get _ (List.mem_filterMap.mpr ⟨_, (hspec row hrow).1, hitem⟩)
    exact hold
  refine ⟨books.set input.saleId
      ⟨sale.saleDate, fun p => book.amounts p - (totalsOf entries p).stored⟩,
    h.write hsales rfl ?_ ?_ ?_ ?_ fun key => ?_⟩
  · have hstill : ¬ ({ sale with
        items := items, refunds := refunds, status := .PARTIALLY_RETURNED } : Sale).IsGone := by
      unfold Sale.IsGone
      simp
    unfold Holds
    rw [if_neg hstill]
    intro p
    obtain ⟨hunits, hwhole⟩ := hholds p
    refine ⟨?_, fun hnone => ?_⟩
    · rw [Prod.fst_sub, hunits, stored_rows_units (hgrid p), hreturned.lines.unitsOf_quantity,
        hreturned.units]
      abel
    · rw [hreturned.units] at hnone
      have hold := unitsOf_nonneg (h.kept _ _ hrun.get).sound p
      have hnew := rowUnits_nonneg hpos p
      have hboth := (add_eq_zero_iff_of_nonneg hold hnew).mp hnone
      have hentries : ({ sale with
          items := items, refunds := refunds, status := .PARTIALLY_RETURNED } : Sale).entries =
          sale.entries := hreturned.lines.entries
      dsimp only
      rw [hentries, totalsOf_rows_eq_zero hpos (hgrid p) hboth.2, stored_zero, sub_zero]
      exact hwhole hboth.1
  · exact ⟨hreturned.sound, fun hs => (nomatch hs), fun hs => (nomatch hs)⟩
  · have hentries : ({ sale with
        items := items, refunds := refunds, status := .PARTIALLY_RETURNED } : Sale).entries =
        sale.entries := hreturned.lines.entries
    rw [hentries, hproducts]
    intro e he
    rw [get?_isSome_batchDecrement]
    exact h.rows _ sale hrun.get e he
  · intro key hkey
    rw [hproducts, get?_isSome_batchDecrement]
    exact hkey
  · rw [hproducts, valueAt_batchDecrement hrows, OrderedMap.valueAt_of_get? hbook]
    unfold Book.at batchAmounts
    rw [hbookDate]
    split
    · dsimp only
      abel
    · abel

theorem isBooked_refund {env : RefundEnv} {input : RefundInput} (hbooked : IsBooked store)
    (h : refundSale env store input = .ok store')
    (hkeeps : KeepsProductNet store (.refund env input)) : IsBooked store' := by
  obtain ⟨books, hbooks⟩ := hbooked
  obtain ⟨sale, rows, items, hrun⟩ := refundSale_run h
  have hkept := hbooks.kept _ _ hrun.get
  have hreturned := returned_of_validated hkept.sound hrun.validated hrun.raised
  obtain ⟨hclosing, hstaying⟩ := hkeeps sale hrun.get
  have hfull := isSaleFullyRefunded_iff hrun.validated hreturned
  cases hdone : isSaleFullyRefunded items with
  | true =>
    obtain ⟨refunds, hsales, -, hproducts⟩ := hrun.full hdone
    have hopen : ¬ sale.IsGone := by
      rintro (hvoid | hgone)
      · rcases hrun.status with hs | hs <;> rw [hvoid] at hs <;> cases hs
      · rcases hrun.status with hs | hs <;> rw [hgone] at hs <;> cases hs
    refine hbooks.close hrun.get hopen
      (fun p => unitsOf_eq_zero (hclosing (hfull.mp hdone)) p) hsales (.inr rfl) rfl
      hreturned.lines.entries ⟨hreturned.sound, fun hs => (nomatch hs), fun _ item hitem => ?_⟩
      hproducts
    have hall : ∀ item ∈ items, item.quantity ≤ item.refundedQty := by
      unfold isSaleFullyRefunded at hdone
      rw [Bool.and_eq_true, List.all_eq_true] at hdone
      exact fun item hitem => of_decide_eq_true (hdone.2 item hitem)
    exact le_antisymm (hreturned.sound.returned item hitem).2 (hall item hitem)
  | false =>
    refine hbooks.partReturn hrun hreturned hdone fun p row hrow hproduct => ?_
    obtain ⟨hitem, -, hinput⟩ := validated_spec hrun.validated row hrow
    have hstays : ¬ LeavesNothing sale.items input.items := by
      rw [← hfull, hdone]
      exact Bool.false_ne_true
    refine hstaying hstays row.saleItem hitem ?_ _ hinput rfl
    rw [hproduct]
    exact Option.some_ne_none p

/-! ## Runs -/

theorem isBooked_step {call : SaleCall} (hbooked : IsBooked store) (h : SaleStep store call store')
    (hkeeps : KeepsProductNet store call) : IsBooked store' := by
  cases call with
  | create id input => exact isBooked_create hbooked h.fresh h.after hkeeps
  | void env input => exact isBooked_void hbooked h.after
  | refund env input => exact isBooked_refund hbooked h.after hkeeps

/-- The units in a book are the net units of its sale. -/
theorem Booked.units_eq (h : Booked store books) (date : IsoDate) (p : ProductId) (id : SaleId) :
    books.valueAt (fun book : Book => (book.at (date, p)).1) id =
      store.sales.valueAt (fun sale => if sale.saleDate = date then sale.netUnits p else 0) id := by
  cases hget : store.sales.get? id with
  | none =>
    have hnone : books.get? id = none := by
      have hdate := h.dates id
      rw [hget] at hdate
      exact Option.map_eq_none_iff.mp hdate
    rw [OrderedMap.valueAt_of_get?_none hget, OrderedMap.valueAt_of_get?_none hnone]
  | some sale =>
    obtain ⟨book, hbook, hdate⟩ := h.book_of_sale hget
    rw [OrderedMap.valueAt_of_get? hget, OrderedMap.valueAt_of_get? hbook]
    unfold Book.at
    rw [hdate]
    split
    · have hholds := h.holds id sale book hget hbook
      unfold Holds at hholds
      unfold Sale.netUnits
      by_cases hgone : sale.IsGone
      · rw [if_pos hgone] at hholds
        rw [hholds p]
        split
        · rfl
        · rename_i hnotVoid
          have hreturned := (h.kept id sale hget).returned (hgone.resolve_left hnotVoid)
          have hsame : unitsOf (·.refundedQty) sale.items p = unitsOf (·.quantity) sale.items p :=
            congrArg List.sum (List.map_congr_left fun item hitem => by
              dsimp only
              rw [hreturned item hitem])
          rw [hsame, sub_self]
          rfl
      · rw [if_neg hgone] at hholds
        rw [if_neg fun hvoid => hgone (.inl hvoid)]
        exact (hholds p).1
    · rfl

/-- Nothing is booked of a product on a day whose sales of it are all gone. -/
theorem Booked.at_eq_zero (h : Booked store books) {date : IsoDate} {p : ProductId}
    (hgone : ∀ id sale, store.sales.get? id = some sale → sale.saleDate = date →
      sale.Sells p → sale.IsGone) {book : Book} (hbook : books.get? id = some book) :
    book.at (date, p) = 0 := by
  have hdates := h.dates id
  rw [hbook] at hdates
  obtain ⟨sale, hget, hdate⟩ := Option.map_eq_some_iff.mp hdates.symm
  unfold Book.at
  split
  · rename_i hday
    have hholds := h.holds id sale book hget hbook
    unfold Holds at hholds
    by_cases hg : sale.IsGone
    · rw [if_pos hg] at hholds
      exact hholds p
    · rw [if_neg hg] at hholds
      have hsells : ∀ item ∈ sale.items, item.productId ≠ some p := fun item hitem hp =>
        hg (hgone id sale hget (hdate.trans hday) ⟨item, hitem, hp⟩)
      have hnone : unitsOf (·.refundedQty) sale.items p = 0 := by
        refine List.sum_eq_zero fun u hu => ?_
        obtain ⟨item, hitem, rfl⟩ := List.mem_map.mp hu
        exact if_neg (hsells item hitem)
      have htotals : totalsOf sale.entries p = 0 := by
        refine totalsOf_eq_zero fun x hx hxp => ?_
        obtain ⟨item, hitem, hentry⟩ := List.mem_filterMap.mp hx
        obtain ⟨q, hq, rfl⟩ := Option.map_eq_some_iff.mp hentry
        exact hsells item hitem (hq.trans (congrArg some hxp))
      rw [(hholds p).2 hnone, htotals, stored_zero]
  · rfl

/-- The columns of a row together. -/
theorem valueAt_amounts (table : OrderedMap (IsoDate × ProductId) ProductSummaryRow)
    (key : IsoDate × ProductId) : table.valueAt ProductSummaryRow.amounts key =
      (table.valueAt (·.unitsSold) key, table.valueAt (·.revenue) key,
        table.valueAt (·.costOfGoods) key, table.valueAt (·.discountGiven) key) := by
  unfold OrderedMap.valueAt
  cases table.get? key <;> rfl

/-- A booked rollup is the net of sales and returns. -/
theorem productRollupNet_of_isBooked (h : IsBooked store) : ProductRollupNet store := by
  obtain ⟨books, hbooks⟩ := h
  constructor
  · intro date p
    have hvalue := hbooks.value (date, p)
    rw [valueAt_amounts] at hvalue
    have hunits := congrArg Prod.fst hvalue
    dsimp only at hunits
    have hproj : (books.sumWhere (fun _ => true) fun book : Book => book.at (date, p)).1 =
        books.sumWhere (fun _ => true) fun book : Book => (book.at (date, p)).1 := by
      unfold OrderedMap.sumWhere
      have hsum := map_list_sum (AddMonoidHom.fst Quantity (Cents × Cents × Cents))
        ((books.entries.filter fun _ => true).map fun e => e.2.at (date, p))
      rw [List.map_map] at hsum
      exact hsum
    rw [hunits, hproj]
    refine OrderedMap.sumWhere_congr_valueAt _ (fun id => ?_) (hbooks.units_eq date p)
    have hdate := congrArg Option.isSome (hbooks.dates id)
    rwa [Option.isSome_map, Option.isSome_map] at hdate
  · intro date p hgone
    have hzero : books.sumWhere (fun _ => true) (fun book : Book => book.at (date, p)) = 0 :=
      OrderedMap.sumWhere_eq_zero fun e he _ =>
        hbooks.at_eq_zero hgone (OrderedMap.get?_eq_some_iff.mpr he)
    have hvalue := hbooks.value (date, p)
    rw [valueAt_amounts, hzero] at hvalue
    obtain ⟨-, hrest⟩ := Prod.mk.inj hvalue
    obtain ⟨hrevenue, hrest⟩ := Prod.mk.inj hrest
    exact ⟨hrevenue, Prod.mk.inj hrest⟩

/-! ## Two shirts -/

/-- The day of the sale. -/
def saleDay : IsoDate := ⟨2026, 3, 2, isMonth_three⟩

/-- Two shirts of 10.00 for cash, which cost 6.00 each. -/
def twoShirts : CreateSaleInput where
  saleDate := saleDay
  tender :=
    { paymentMethod := .CASH
      paymentLines := []
      paymentReceived := 20
      finalTotalAmount := 20
      hasCustomer := false
      giftReason := ""
      mayGift := false
      mayUpdateAdmin := false }
  taxAmount := 0
  totalDiscountAmount := 0
  inventoryIssueCost := 12
  lines := [⟨some 7, 2, 10, 20, 6, 0⟩]
  quotationAmountPaid := none

def shopEnv : RefundEnv := ⟨fun _ => true, fun _ => true, true⟩

/-- A return of so many of them. -/
def shirtReturn (quantity : ℚ) : SaleCall :=
  .refund shopEnv ⟨1, "wrong size", .REFUND, false, [(0, quantity)]⟩

def soldStore : SaleStore := SaleCall.after .empty (.create 1 twoShirts)

/-- One shirt has come back. -/
def oneReturned : SaleStore := (shirtReturn 1).after soldStore

/-- The other one as well. -/
def bothReturned : SaleStore := (shirtReturn 1).after oneReturned

theorem soldStep : SaleStep .empty (.create 1 twoShirts) soldStore :=
  saleStep_after (by decide) (by decide +kernel)

theorem returnStep : SaleStep soldStore (shirtReturn 1) oneReturned :=
  saleStep_after (by decide) (by decide +kernel)

/-- In a run whose calls keep it, the product rollup is the net of sales and returns in
every state. -/
theorem productRollupNet_of_run {store' : SaleStore} {ts : List (SaleStore × SaleCall × SaleStore)}
    (hrun : Run SaleStep SaleStore.empty ts store')
    (hkeeps : ∀ t ∈ ts, KeepsProductNet t.1 t.2.1) :
    ProductRollupNet store' ∧ ∀ t ∈ ts, ProductRollupNet t.1 ∧ ProductRollupNet t.2.2 := by
  obtain ⟨hlast, hall⟩ := hrun.holds (P := IsBooked) (K := KeepsProductNet)
    (fun _ _ _ hbooked hstep hkeep => isBooked_step hbooked hstep hkeep) hkeeps isBooked_empty
  exact ⟨productRollupNet_of_isBooked hlast, fun t ht =>
    ⟨productRollupNet_of_isBooked (hall t ht).1, productRollupNet_of_isBooked (hall t ht).2⟩⟩

/-- Two shirts sold, one returned: one is counted. -/
theorem oneReturned_productRollupNet : ProductRollupNet oneReturned := by
  refine (productRollupNet_of_run (.cons soldStep (.cons returnStep (.nil _))) ?_).1
  intro t ht
  simp only [List.mem_cons, List.not_mem_nil, or_false] at ht
  rcases ht with rfl | rfl
  · intro p
    have hsame : twoShirts.lines.filterMap SaleLine.entry =
        (storedItems twoShirts.lines).filterMap SaleItem.entry := by decide +kernel
    rw [hsame]
  · intro sale hget
    have hsale : soldStore.sales.get? 1 = some sale := hget
    have hstored : soldStore.sales.get? 1 = some (newSale twoShirts ⟨.CASH, 20, 20, 0, 0⟩) := by
      decide +kernel
    rw [hstored] at hsale
    cases hsale
    have hleft : ¬ LeavesNothing (newSale twoShirts ⟨.CASH, 20, 20, 0, 0⟩).items [(0, 1)] := by
      decide +kernel
    refine ⟨fun h => absurd h hleft, fun _ item _ _ e he _ => ?_⟩
    obtain rfl := List.mem_singleton.mp he
    exact onGrid_iff_roundTo_eq.mpr (by decide +kernel)

/-- Two shirts returned one after the other: the rollup counts minus one. -/
theorem shirtsReturned_minusOne : ∃ ts, Run SaleStep .empty ts bothReturned ∧
    ¬ ProductRollupNet bothReturned := by
  refine ⟨_, .cons soldStep (.cons returnStep (.cons
    (saleStep_after (by decide) (by decide +kernel)) (.nil _))), fun h => ?_⟩
  have hunits := h.units saleDay 7
  have hcounted : bothReturned.products.valueAt (·.unitsSold) (saleDay, 7) = ⟨-10000⟩ := by
    decide +kernel
  have hnet : bothReturned.sumOn saleDay (·.netUnits 7) = 0 := by decide +kernel
  rw [hcounted, hnet] at hunits
  exact absurd hunits (by decide)

end SmartErpPos.Sales
