/-
  Sales/DailyRollup.lean --- the sales rollup against its rebuild.

  Sources: `salesDailySummaryRebuildSelectSql` of `src/shared/domain/saleGiftFocSsot.ts`;
  the increments and decrements are those of `Sales/SaleStore.lean`.

  The rebuild sums the completed sales, the rollup is kept by increments and decrements.  A
  partial return takes a sale out of the completed ones and decrements nothing.  Beside
  that, the decrement guesses from the header what was counted, and the guess is wrong for a
  gift with a discount, for a gift of at most two cents and for a header that looks wiped.
-/
import SmartErpPos.Sales.ProductNet

set_option autoImplicit false

namespace SmartErpPos.Sales

open SmartErpPos.Lib SmartErpPos.Ledger

/-! ## The rebuild -/

/-- Count, amount, cost, discounts, credit and partly paid sales. -/
abbrev RollupColumns := ℤ × Cents × Cents × Cents × ℤ × ℤ

def DailySummaryRow.columns (row : DailySummaryRow) : RollupColumns :=
  (row.transactionCount, row.totalAmount, row.totalCost, row.totalDiscounts, row.creditCount,
    row.partialPaymentCount)

def boolCount (b : Bool) : ℤ := if b then 1 else 0

/-- What a completed sale adds to the row of a payment method: the billed part under its own
method, the gift under `GIFT`. -/
def Sale.rebuildShare (sale : Sale) (method : PaymentMethod) : RollupColumns :=
  if method = .GIFT then
    if 9 / 1000 < sale.giftAmount.toRat ∨ sale.paymentMethod = .GIFT then
      (1, if sale.paymentMethod = .GIFT then sale.totalAmount else sale.giftAmount,
        if sale.paymentMethod = .GIFT then sale.totalCost else 0, 0, 0, 0)
    else 0
  else if sale.paymentMethod = method then
    (1, sale.totalAmount - sale.giftAmount, sale.totalCost, sale.discountAmount,
      boolCount (decide (sale.paymentMethod = .CREDIT)),
      boolCount (isPartialPayment sale.paymentMethod sale.amountPaid sale.totalAmount))
  else 0

/-- What a sale adds to a row of the rebuild. -/
def Sale.share (sale : Sale) (key : IsoDate × PaymentMethod) : RollupColumns :=
  if sale.status = .COMPLETED ∧ sale.saleDate = key.1 then sale.rebuildShare key.2 else 0

/-- `salesDailySummaryRebuildSelectSql`: the row of a date and a payment method. -/
def salesDailySummaryRebuild (store : SaleStore) (key : IsoDate × PaymentMethod) : RollupColumns :=
  store.sales.sumWhere (fun _ => true) fun sale => sale.share key

/-- The rollup equals its rebuild, up to rows of zeros. -/
def RollupMatches (store : SaleStore) : Prop :=
  ∀ key, store.daily.valueAt DailySummaryRow.columns key = salesDailySummaryRebuild store key

/-! ## The calls that keep it -/

/-- The header that `projectSaleRollupDecrement` takes for a wiped one. -/
def Sale.LooksWiped (sale : Sale) : Prop :=
  sale.paymentMethod ≠ .CREDIT ∧ sale.discountAmount.toRat ≤ SALE_DISCOUNT_MONEY_TOLERANCE ∧
    SALE_DISCOUNT_MONEY_TOLERANCE < sale.amountPaid.toRat ∧
    sale.amountPaid.toRat + SALE_DISCOUNT_MONEY_TOLERANCE < sale.totalAmount.toRat

instance (sale : Sale) : Decidable sale.LooksWiped := inferInstanceAs (Decidable (_ ∧ _))

/-- The headers whose decrement is what was counted. -/
def Sale.ReversesAsCounted (sale : Sale) : Prop :=
  if sale.paymentMethod = .GIFT then sale.discountAmount = 0
  else 0 ≤ sale.discountAmount ∧
    (sale.giftAmount = 0 ∧ ¬ sale.LooksWiped ∨
      SALE_DISCOUNT_MONEY_TOLERANCE < sale.giftAmount.toRat ∧ sale.giftAmount ≤ sale.totalAmount)

instance (sale : Sale) : Decidable sale.ReversesAsCounted := by
  unfold Sale.ReversesAsCounted
  infer_instance

/-- No partial return; a sale that is voided or returned reverses as it was counted; a gift
covers the total, and the invoice of a quotation leaves a sale as partly paid as it was. -/
def KeepsRollup (store : SaleStore) : SaleCall → Prop
  | .create _ input => ∀ settlement, settleTender input.tender = .ok settlement →
      let sale := newSale input settlement
      (sale.paymentMethod = .GIFT → sale.giftAmount ≤ 0 ∨ sale.giftAmount = sale.totalAmount) ∧
      ∀ paid ∈ input.quotationAmountPaid,
        isPartialPayment sale.paymentMethod (.ofRat paid) sale.totalAmount =
          isPartialPayment sale.paymentMethod sale.amountPaid sale.totalAmount
  | .void _ input => ∀ sale, store.sales.get? input.saleId = some sale → sale.ReversesAsCounted
  | .refund _ input => ∀ sale, store.sales.get? input.saleId = some sale →
      LeavesNothing sale.items input.items ∧ sale.ReversesAsCounted

/-! ## Rows that add up -/

/-- Counts are counts, and a row that counts nothing is empty. -/
structure Regular (c : RollupColumns) : Prop where
  count : 0 ≤ c.1
  credit : 0 ≤ c.2.2.2.2.1
  part : 0 ≤ c.2.2.2.2.2
  empty : c.1 = 0 → c = 0

theorem regular_zero : Regular 0 := ⟨le_rfl, le_rfl, le_rfl, fun _ => rfl⟩

theorem Regular.add {a b : RollupColumns} (ha : Regular a) (hb : Regular b) : Regular (a + b) := by
  refine ⟨add_nonneg ha.count hb.count, add_nonneg ha.credit hb.credit,
    add_nonneg ha.part hb.part, fun h => ?_⟩
  have hboth := (add_eq_zero_iff_of_nonneg ha.count hb.count).mp h
  rw [ha.empty hboth.1, hb.empty hboth.2, add_zero]

theorem regular_sum {l : List RollupColumns} (h : ∀ c ∈ l, Regular c) : Regular l.sum := by
  induction l with
  | nil => exact regular_zero
  | cons c rest ih =>
    obtain ⟨hc, hrest⟩ := List.forall_mem_cons.mp h
    rw [List.sum_cons]
    exact hc.add (ih hrest)

theorem boolCount_nonneg (b : Bool) : 0 ≤ boolCount b := by cases b <;> decide

theorem regular_rebuildShare (sale : Sale) (method : PaymentMethod) :
    Regular (sale.rebuildShare method) := by
  unfold Sale.rebuildShare
  split
  · split
    · exact ⟨Int.one_nonneg, le_rfl, le_rfl, fun h => absurd h one_ne_zero⟩
    · exact regular_zero
  · split
    · exact ⟨Int.one_nonneg, boolCount_nonneg _, boolCount_nonneg _,
        fun h => absurd h one_ne_zero⟩
    · exact regular_zero

theorem regular_share (sale : Sale) (key : IsoDate × PaymentMethod) : Regular (sale.share key) := by
  unfold Sale.share
  split
  · exact regular_rebuildShare sale key.2
  · exact regular_zero

theorem regular_rebuild (store : SaleStore) (key : IsoDate × PaymentMethod) :
    Regular (salesDailySummaryRebuild store key) := by
  refine regular_sum fun c hc => ?_
  obtain ⟨e, -, rfl⟩ := List.mem_map.mp hc
  exact regular_share e.2 key

/-! ## One increment, one decrement -/

/-- The columns that an increment adds and a decrement takes. -/
def moved (totalAmount totalCost discountAmount : ℚ) (isCredit isPartial : Bool) : RollupColumns :=
  (1, .ofRat totalAmount, .ofRat totalCost, .ofRat discountAmount, boolCount isCredit,
    boolCount isPartial)

theorem valueAt_increment (table : OrderedMap (IsoDate × PaymentMethod) DailySummaryRow)
    (date : IsoDate) (method : PaymentMethod) (totalAmount totalCost discountAmount : ℚ)
    (isCredit isPartial : Bool) (key : IsoDate × PaymentMethod) :
    (incrementDailySummary table date method totalAmount totalCost discountAmount isCredit
        isPartial).valueAt DailySummaryRow.columns key =
      table.valueAt DailySummaryRow.columns key +
        if key = (date, method) then moved totalAmount totalCost discountAmount isCredit isPartial
        else 0 := by
  unfold incrementDailySummary
  rw [OrderedMap.valueAt_set]
  split
  · rename_i hkey
    subst hkey
    cases hget : table.get? (date, method) with
    | none =>
      rw [OrderedMap.valueAt_of_get?_none hget]
      rfl
    | some row =>
      rw [OrderedMap.valueAt_of_get? hget]
      rfl
  · rw [add_zero]

/-- A row that is the decrement and a regular rest is lowered to the rest. -/
theorem lower_columns {row : DailySummaryRow} {totalAmount totalCost discountAmount : ℚ}
    {isCredit isPartial : Bool} {rest : RollupColumns}
    (hrow : row.columns = moved totalAmount totalCost discountAmount isCredit isPartial + rest)
    (hrest : Regular rest) :
    (row.lower totalAmount totalCost discountAmount isCredit isPartial).columns = rest := by
  obtain ⟨n, a, c, d, cr, pa⟩ := rest
  have hcount : row.transactionCount = 1 + n := congrArg Prod.fst hrow
  have hamount : row.totalAmount = .ofRat totalAmount + a :=
    congrArg (fun x : RollupColumns => x.2.1) hrow
  have hcost : row.totalCost = .ofRat totalCost + c :=
    congrArg (fun x : RollupColumns => x.2.2.1) hrow
  have hdiscount : row.totalDiscounts = .ofRat discountAmount + d :=
    congrArg (fun x : RollupColumns => x.2.2.2.1) hrow
  have hcredit : row.creditCount = boolCount isCredit + cr :=
    congrArg (fun x : RollupColumns => x.2.2.2.2.1) hrow
  have hpart : row.partialPaymentCount = boolCount isPartial + pa :=
    congrArg (fun x : RollupColumns => x.2.2.2.2.2) hrow
  have hn : max (row.transactionCount - 1) 0 = n := by
    rw [hcount, add_sub_cancel_left]
    exact max_eq_left hrest.count
  have hcr : max (row.creditCount - boolCount isCredit) 0 = cr := by
    rw [hcredit, add_sub_cancel_left]
    exact max_eq_left hrest.credit
  have hpa : max (row.partialPaymentCount - boolCount isPartial) 0 = pa := by
    rw [hpart, add_sub_cancel_left]
    exact max_eq_left hrest.part
  show (max (row.transactionCount - 1) 0, row.totalAmount - .ofRat totalAmount,
    row.totalCost - .ofRat totalCost, row.totalDiscounts - .ofRat discountAmount,
    max (row.creditCount - boolCount isCredit) 0,
    max (row.partialPaymentCount - boolCount isPartial) 0) = _
  rw [hn, hcr, hpa, hamount, hcost, hdiscount, add_sub_cancel_left, add_sub_cancel_left,
    add_sub_cancel_left]

/-- Such a row of the table is left with the rest, or deleted when the rest is nothing. -/
theorem valueAt_decrement {table : OrderedMap (IsoDate × PaymentMethod) DailySummaryRow}
    {date : IsoDate} {method : PaymentMethod} {totalAmount totalCost discountAmount : ℚ}
    {isCredit isPartial : Bool} {rest : RollupColumns}
    (hrow : table.valueAt DailySummaryRow.columns (date, method) =
      moved totalAmount totalCost discountAmount isCredit isPartial + rest)
    (hrest : Regular rest) (key : IsoDate × PaymentMethod) :
    (decrementDailySummary table date method totalAmount totalCost discountAmount isCredit
        isPartial).valueAt DailySummaryRow.columns key =
      if key = (date, method) then rest else table.valueAt DailySummaryRow.columns key := by
  cases hget : table.get? (date, method) with
  | none =>
    rw [OrderedMap.valueAt_of_get?_none hget] at hrow
    have hcount : (0 : ℤ) = 1 + rest.1 := congrArg Prod.fst hrow
    have hnonneg := hrest.count
    omega
  | some row =>
    rw [OrderedMap.valueAt_of_get? hget] at hrow
    have hafter := lower_columns hrow hrest
    unfold decrementDailySummary
    simp only [OrderedMap.modify_eq_set hget, OrderedMap.get?_set_self, Option.any_some]
    split
    · rename_i hspent
      have hzero : rest = 0 := by
        refine hrest.empty ?_
        have hnone := (of_decide_eq_true hspent).1
        rw [← hafter]
        exact hnone
      by_cases hkey : key = (date, method)
      · subst hkey
        rw [if_pos rfl, hzero, OrderedMap.valueAt_of_get?_none (OrderedMap.get?_erase_self _ _)]
      · rw [if_neg hkey]
        unfold OrderedMap.valueAt
        rw [OrderedMap.get?_erase_of_ne hkey, OrderedMap.get?_set_of_ne hkey]
    · rw [OrderedMap.valueAt_set, hafter]

/-! ## Counting a sale and taking it out -/

/-- The billed part of a sale. -/
def Sale.billedColumns (sale : Sale) : RollupColumns :=
  moved (sale.totalAmount.toRat - sale.giftAmount.toRat) sale.totalCost.toRat
    sale.discountAmount.toRat (decide (sale.paymentMethod = .CREDIT))
    (isPartialPayment sale.paymentMethod sale.amountPaid sale.totalAmount)

/-- The row of a gift sale, and that of the gift in another sale. -/
def giftColumns (amount cost : ℚ) : RollupColumns := moved amount cost 0 false false

theorem share_giftSale {sale : Sale} (hstatus : sale.status = .COMPLETED)
    (hmethod : sale.paymentMethod = .GIFT) (key : IsoDate × PaymentMethod) :
    sale.share key = if key = (sale.saleDate, .GIFT) then
      giftColumns sale.totalAmount.toRat sale.totalCost.toRat else 0 := by
  obtain ⟨date, method⟩ := key
  unfold Sale.share Sale.rebuildShare
  simp only [hstatus, true_and, hmethod, Prod.mk.injEq, or_true, if_true]
  by_cases hdate : sale.saleDate = date
  · rw [if_pos hdate]
    by_cases hgift : method = .GIFT
    · rw [if_pos hgift, if_pos ⟨hdate.symm, hgift⟩]
      simp [giftColumns, moved, boolCount]
    · rw [if_neg hgift, if_neg (Ne.symm hgift), if_neg fun h => hgift h.2]
  · rw [if_neg hdate, if_neg fun h => hdate h.1.symm]

theorem share_billedSale {sale : Sale} (hstatus : sale.status = .COMPLETED)
    (hmethod : sale.paymentMethod ≠ .GIFT) (key : IsoDate × PaymentMethod) :
    sale.share key = (if key = (sale.saleDate, sale.paymentMethod) then sale.billedColumns else 0) +
      if key = (sale.saleDate, .GIFT) ∧ 9 / 1000 < sale.giftAmount.toRat then
        giftColumns sale.giftAmount.toRat 0 else 0 := by
  obtain ⟨date, method⟩ := key
  unfold Sale.share Sale.rebuildShare
  simp only [hstatus, true_and, hmethod, Prod.mk.injEq, or_false, if_false]
  by_cases hdate : sale.saleDate = date
  · subst hdate
    rw [if_pos rfl]
    by_cases hgift : method = .GIFT
    · subst hgift
      have hnotOwn : ¬ (sale.saleDate = sale.saleDate ∧ PaymentMethod.GIFT = sale.paymentMethod) :=
        fun h => hmethod h.2.symm
      rw [if_pos rfl, if_neg hnotOwn, zero_add]
      simp [giftColumns, moved, boolCount]
    · have hnotGift : ¬ ((sale.saleDate = sale.saleDate ∧ method = .GIFT) ∧
          9 / 1000 < sale.giftAmount.toRat) := fun h => hgift h.1.2
      rw [if_neg hgift, if_neg hnotGift, add_zero]
      by_cases hown : sale.paymentMethod = method
      · rw [if_pos hown, if_pos ⟨rfl, hown.symm⟩]
        simp [Sale.billedColumns, moved, ← Numeric.toRat_sub]
      · rw [if_neg hown, if_neg fun h => hown h.2.symm]
  · rw [if_neg hdate, if_neg fun h => hdate h.1.symm, if_neg fun h => hdate h.1.1.symm, add_zero]

/-- A new sale adds its share. -/
theorem valueAt_countSale (daily : OrderedMap (IsoDate × PaymentMethod) DailySummaryRow)
    {sale : Sale} (hstatus : sale.status = .COMPLETED)
    (hgift : sale.paymentMethod = .GIFT → sale.giftAmount ≤ 0 ∨ sale.giftAmount = sale.totalAmount)
    (key : IsoDate × PaymentMethod) :
    (countSale daily sale).valueAt DailySummaryRow.columns key =
      daily.valueAt DailySummaryRow.columns key + sale.share key := by
  unfold countSale
  by_cases hmethod : sale.paymentMethod = .GIFT
  · have hamount : (if 0 < sale.giftAmount.toRat then sale.giftAmount.toRat
        else sale.totalAmount.toRat) = sale.totalAmount.toRat := by
      split
      · rename_i hpos
        rcases hgift hmethod with hle | heq
        · exact absurd (Numeric.toRat_pos_iff.mp hpos) (not_lt.mpr hle)
        · rw [heq]
      · rfl
    rw [if_pos hmethod, valueAt_increment, share_giftSale hstatus hmethod, hamount]
    rfl
  · rw [if_neg hmethod, share_billedSale hstatus hmethod]
    by_cases hhas : 9 / 1000 < sale.giftAmount.toRat
    · rw [if_pos hhas, valueAt_increment, valueAt_increment]
      simp only [hhas, and_true]
      rw [add_assoc]
      rfl
    · rw [if_neg hhas, valueAt_increment]
      simp only [hhas, and_false, if_false, add_zero]
      rfl

/-- What the decrement of a billed sale takes is its billed part. -/
theorem projectSaleRollupDecrement_eq {sale : Sale} (hmethod : sale.paymentMethod ≠ .GIFT)
    (h : sale.ReversesAsCounted) :
    projectSaleRollupDecrement sale.paymentMethod sale.totalAmount.toRat sale.discountAmount.toRat
        sale.amountPaid.toRat sale.giftAmount.toRat =
      ⟨sale.totalAmount.toRat - sale.giftAmount.toRat, sale.discountAmount.toRat⟩ := by
  have hround : ∀ x : Cents, roundSaleMoney x.toRat = x.toRat := fun x =>
    OnGrid.roundTo_eq ⟨x, rfl⟩
  unfold Sale.ReversesAsCounted at h
  rw [if_neg hmethod] at h
  obtain ⟨hdiscount, hgift⟩ := h
  have hd : max 0 sale.discountAmount.toRat = sale.discountAmount.toRat :=
    max_eq_right (Numeric.toRat_nonneg_iff.mpr hdiscount)
  unfold projectSaleRollupDecrement
  simp only [hd, hround, hmethod, if_false]
  rcases hgift with ⟨hzero, hhealthy⟩ | ⟨hbig, hle⟩
  · have hsmall : ¬ SALE_DISCOUNT_MONEY_TOLERANCE < roundSaleMoney (max 0 (0 : ℚ)) := by
      decide +kernel
    rw [hzero, Numeric.toRat_zero, if_neg hsmall, sub_zero, if_neg]
    rintro ⟨hcredit, hlow, hpaid, hunder⟩
    have hpositive : max 0 sale.amountPaid.toRat = sale.amountPaid.toRat := by
      refine max_eq_right ?_
      by_contra hneg
      rw [max_eq_left (not_le.mp hneg).le] at hpaid
      exact hsmall (by simpa using hpaid)
    rw [hpositive, hround] at hpaid hunder
    exact hhealthy ⟨hcredit, hlow, hpaid, hunder⟩
  · have hpositive : max 0 sale.giftAmount.toRat = sale.giftAmount.toRat := by
      refine max_eq_right (le_trans ?_ hbig.le)
      decide +kernel
    have hrest : 0 ≤ sale.totalAmount.toRat - sale.giftAmount.toRat := by
      rw [← Numeric.toRat_sub, Numeric.toRat_nonneg_iff]
      exact sub_nonneg.mpr hle
    rw [hpositive, hround, if_pos hbig, max_eq_right hrest, ← Numeric.toRat_sub, hround]

/-- A sale that reverses as it was counted leaves the rest. -/
theorem valueAt_uncountSale {daily : OrderedMap (IsoDate × PaymentMethod) DailySummaryRow}
    {sale : Sale} (hstatus : sale.status = .COMPLETED) (hreverse : sale.ReversesAsCounted)
    {rest : IsoDate × PaymentMethod → RollupColumns} (hrest : ∀ key, Regular (rest key))
    (hdaily : ∀ key, daily.valueAt DailySummaryRow.columns key = sale.share key + rest key)
    (key : IsoDate × PaymentMethod) :
    (uncountSale daily sale).valueAt DailySummaryRow.columns key = rest key := by
  unfold uncountSale
  by_cases hmethod : sale.paymentMethod = .GIFT
  · have hdiscount : sale.discountAmount = 0 := by
      unfold Sale.ReversesAsCounted at hreverse
      rwa [if_pos hmethod] at hreverse
    have hproject : projectSaleRollupDecrement sale.paymentMethod sale.totalAmount.toRat
        sale.discountAmount.toRat sale.amountPaid.toRat sale.giftAmount.toRat =
          ⟨sale.totalAmount.toRat, 0⟩ := by
      unfold projectSaleRollupDecrement
      rw [hdiscount, if_pos hmethod, Numeric.toRat_zero]
      have htotal : roundSaleMoney sale.totalAmount.toRat = sale.totalAmount.toRat :=
        OnGrid.roundTo_eq ⟨sale.totalAmount, rfl⟩
      rw [htotal]
      exact congrArg (RollupDecrement.mk _) (by decide +kernel)
    have hcredit : decide (sale.paymentMethod = .CREDIT) = false := by
      rw [hmethod]
      decide
    have hpart : isPartialPayment sale.paymentMethod sale.amountPaid sale.totalAmount = false := by
      unfold isPartialPayment
      rw [hmethod]
      simp
    have hrow := hdaily (sale.saleDate, .GIFT)
    rw [share_giftSale hstatus hmethod, if_pos rfl] at hrow
    simp only [hproject, hcredit, hpart]
    rw [if_neg fun h => h.2 hmethod, hmethod, valueAt_decrement hrow (hrest _)]
    split
    · rename_i hkey
      rw [hkey]
    · rename_i hkey
      rw [hdaily, share_giftSale hstatus hmethod, if_neg hkey, zero_add]
  · have hother : (sale.saleDate, sale.paymentMethod) ≠ (sale.saleDate, PaymentMethod.GIFT) :=
      fun h => hmethod (Prod.mk.inj h).2
    have hrow := hdaily (sale.saleDate, sale.paymentMethod)
    rw [share_billedSale hstatus hmethod, if_pos rfl, if_neg fun h => hother h.1, add_zero] at hrow
    have hbilled : ∀ k, (decrementDailySummary daily sale.saleDate sale.paymentMethod
        (sale.totalAmount.toRat - sale.giftAmount.toRat) sale.totalCost.toRat
        sale.discountAmount.toRat (decide (sale.paymentMethod = .CREDIT))
        (isPartialPayment sale.paymentMethod sale.amountPaid sale.totalAmount)).valueAt
          DailySummaryRow.columns k =
        (if k = (sale.saleDate, .GIFT) ∧ 9 / 1000 < sale.giftAmount.toRat then
          giftColumns sale.giftAmount.toRat 0 else 0) + rest k := by
      intro k
      rw [valueAt_decrement hrow (hrest _)]
      split
      · rename_i hkey
        rw [hkey, if_neg fun h => hother h.1, zero_add]
      · rename_i hkey
        rw [hdaily, share_billedSale hstatus hmethod, if_neg hkey, zero_add]
    simp only [projectSaleRollupDecrement_eq hmethod hreverse, ne_eq, hmethod, not_false_eq_true,
      and_true]
    split
    · rename_i hhas
      have hgiftRow := hbilled (sale.saleDate, .GIFT)
      rw [if_pos ⟨rfl, hhas⟩] at hgiftRow
      rw [valueAt_decrement hgiftRow (hrest _)]
      split
      · rename_i hkey
        rw [hkey]
      · rename_i hkey
        rw [hbilled, if_neg fun h => hkey h.1, zero_add]
    · rename_i hnone
      rw [hbilled, if_neg fun h => hnone h.2, zero_add]

/-! ## The calls -/

/-- The rollup equals its rebuild, and no sale is partially returned. -/
structure RollupKept (store : SaleStore) : Prop where
  rebuilt : RollupMatches store
  status : ∀ id sale, store.sales.get? id = some sale → sale.status = .COMPLETED ∨ sale.IsGone
  sound : ∀ id sale, store.sales.get? id = some sale → ItemsSound sale.items

theorem rollupKept_empty : RollupKept SaleStore.empty :=
  ⟨fun _ => rfl, fun _ _ h => (nomatch h), fun _ _ h => (nomatch h)⟩

theorem IsGone.share_eq_zero {sale : Sale} (h : sale.IsGone) (key : IsoDate × PaymentMethod) :
    sale.share key = 0 := by
  unfold Sale.share
  refine if_neg fun hcompleted => ?_
  rcases h with hs | hs <;> rw [hcompleted.1] at hs <;> cases hs

/-- Writing a sale changes the rebuild by its new share minus its old one. -/
theorem rebuild_set {store store' : SaleStore} {id : SaleId} {sale' : Sale}
    (hsales : store'.sales = store.sales.set id sale') (key : IsoDate × PaymentMethod) :
    salesDailySummaryRebuild store' key = salesDailySummaryRebuild store key +
      (sale'.share key - store.sales.valueAt (fun sale => sale.share key) id) := by
  unfold salesDailySummaryRebuild
  rw [hsales, OrderedMap.sumWhere_set, if_pos rfl]

theorem RollupKept.create {store store' : SaleStore} {id : SaleId} {input : CreateSaleInput}
    (h : RollupKept store) (hfresh : store.sales.get? id = none)
    (hcall : createSale store id input = .ok store')
    (hkeeps : KeepsRollup store (.create id input)) : RollupKept store' := by
  simp only [createSale, bind_eq_ok, require_eq_ok, pure_eq_ok] at hcall
  obtain ⟨-, -, -, hpos, settlement, hsettle, rfl⟩ := hcall
  obtain ⟨hgift, hpaid⟩ := hkeeps settlement hsettle
  let sale := newSale input settlement
  let paid := (input.quotationAmountPaid.map Numeric.ofRat).getD sale.amountPaid
  have hpart : isPartialPayment sale.paymentMethod paid sale.totalAmount =
      isPartialPayment sale.paymentMethod sale.amountPaid sale.totalAmount := by
    cases hquote : input.quotationAmountPaid with
    | none =>
      have hsame : paid = sale.amountPaid := by
        show (input.quotationAmountPaid.map Numeric.ofRat).getD sale.amountPaid = _
        rw [hquote]
        rfl
      rw [hsame]
    | some q =>
      have hsame : paid = .ofRat q := by
        show (input.quotationAmountPaid.map Numeric.ofRat).getD sale.amountPaid = _
        rw [hquote]
        rfl
      rw [hsame]
      exact hpaid q hquote
  have hshare : ∀ key, ({ sale with amountPaid := paid } : Sale).share key = sale.share key := by
    intro key
    unfold Sale.share Sale.rebuildShare
    dsimp only
    rw [hpart]
  constructor
  · intro key
    rw [rebuild_set rfl, OrderedMap.valueAt_of_get?_none hfresh, sub_zero, ← h.rebuilt key]
    show (countSale store.daily sale).valueAt _ key = _
    rw [valueAt_countSale _ rfl hgift]
    exact congrArg _ (hshare key).symm
  · intro k x hget
    rw [OrderedMap.get?_set] at hget
    split at hget
    · cases hget
      exact .inl rfl
    · exact h.status k x hget
  · intro k x hget
    rw [OrderedMap.get?_set] at hget
    split at hget
    · cases hget
      exact storedItems_sound hpos
    · exact h.sound k x hget

/-- A completed sale that goes is taken out of the rollup. -/
theorem RollupKept.close {store store' : SaleStore} (h : RollupKept store) {id : SaleId}
    {sale sale' : Sale} (hget : store.sales.get? id = some sale) (hstatus : sale.status = .COMPLETED)
    (hreverse : sale.ReversesAsCounted) (hsales : store'.sales = store.sales.set id sale')
    (hdaily : store'.daily = uncountSale store.daily sale) (hgone : sale'.IsGone)
    (hsound : ItemsSound sale'.items) : RollupKept store' := by
  constructor
  · intro key
    rw [hdaily]
    refine valueAt_uncountSale hstatus hreverse (regular_rebuild store') (fun k => ?_) key
    rw [h.rebuilt k, rebuild_set hsales, OrderedMap.valueAt_of_get? hget, IsGone.share_eq_zero hgone]
    abel
  · intro k x hx
    rw [hsales, OrderedMap.get?_set] at hx
    split at hx
    · cases hx
      exact .inr hgone
    · exact h.status k x hx
  · intro k x hx
    rw [hsales, OrderedMap.get?_set] at hx
    split at hx
    · cases hx
      exact hsound
    · exact h.sound k x hx

theorem RollupKept.step {store store' : SaleStore} {call : SaleCall} (h : RollupKept store)
    (hstep : SaleStep store call store') (hkeeps : KeepsRollup store call) : RollupKept store' := by
  cases call with
  | create id input => exact h.create hstep.fresh hstep.after hkeeps
  | void env input =>
    have hcall : voidSale env store input = .ok store' := hstep.after
    simp only [voidSale, bind_eq_ok, orThrow_eq_ok, require_eq_ok, pure_eq_ok] at hcall
    obtain ⟨sale, hget, -, -, -, hstatus, rfl⟩ := hcall
    have hsound := h.sound _ _ hget
    exact h.close hget hstatus (hkeeps sale hget) rfl rfl (.inl rfl) hsound
  | refund env input =>
    obtain ⟨sale, rows, items, hrun⟩ := refundSale_run hstep.after
    obtain ⟨hleft, hreverse⟩ := hkeeps sale hrun.get
    have hreturned := returned_of_validated (h.sound _ _ hrun.get) hrun.validated hrun.raised
    obtain ⟨refunds, hsales, hdaily, -⟩ :=
      hrun.full ((isSaleFullyRefunded_iff hrun.validated hreturned).mpr hleft)
    have hcompleted : sale.status = .COMPLETED := by
      rcases h.status _ _ hrun.get with hs | hgone
      · exact hs
      · rcases hgone with hg | hg <;> rcases hrun.status with hs | hs <;> rw [hg] at hs <;> cases hs
    exact h.close hrun.get hcompleted hreverse hsales hdaily (.inr rfl) hreturned.sound

/-- In a run whose calls keep it, the sales rollup equals its rebuild in every state. -/
theorem rollupMatches_of_run {store' : SaleStore} {ts : List (SaleStore × SaleCall × SaleStore)}
    (hrun : Run SaleStep SaleStore.empty ts store')
    (hkeeps : ∀ t ∈ ts, KeepsRollup t.1 t.2.1) :
    RollupMatches store' ∧ ∀ t ∈ ts, RollupMatches t.1 ∧ RollupMatches t.2.2 := by
  obtain ⟨hlast, hall⟩ := hrun.holds (P := RollupKept) (K := KeepsRollup)
    (fun _ _ _ hkept hstep hkeep => hkept.step hstep hkeep) hkeeps rollupKept_empty
  exact ⟨hlast.rebuilt, fun t ht => ⟨(hall t ht).1.rebuilt, (hall t ht).2.rebuilt⟩⟩

/-- The same two shirts, returned together. -/
theorem shirtsReturnedTogether_match :
    RollupMatches ((shirtReturn 2).after soldStore) := by
  have hreturn : SaleStep soldStore (shirtReturn 2) ((shirtReturn 2).after soldStore) :=
    saleStep_after (by decide) (by decide +kernel)
  refine (rollupMatches_of_run (.cons soldStep (.cons hreturn (.nil _))) ?_).1
  intro t ht
  simp only [List.mem_cons, List.not_mem_nil, or_false] at ht
  rcases ht with rfl | rfl
  · intro settlement hsettle
    have hcash : settleTender twoShirts.tender = .ok ⟨.CASH, 20, 20, 0, 0⟩ := by decide +kernel
    rw [hcash] at hsettle
    cases hsettle
    exact ⟨fun h => (nomatch h), fun paid hpaid => (nomatch hpaid)⟩
  · intro sale hget
    have hsale : soldStore.sales.get? 1 = some sale := hget
    have hstored : soldStore.sales.get? 1 = some (newSale twoShirts ⟨.CASH, 20, 20, 0, 0⟩) := by
      decide +kernel
    rw [hstored] at hsale
    cases hsale
    exact ⟨by decide +kernel, by decide +kernel⟩

/-- One shirt returned: the rollup still counts the sale, the rebuild does not. -/
theorem oneReturned_stillCounted : ∃ ts, Run SaleStep .empty ts oneReturned ∧
    ¬ RollupMatches oneReturned := by
  refine ⟨_, .cons soldStep (.cons returnStep (.nil _)), fun h => ?_⟩
  have hrow := h (saleDay, .CASH)
  have hcounted : oneReturned.daily.valueAt DailySummaryRow.columns (saleDay, .CASH) =
      (1, ⟨2000⟩, ⟨1200⟩, 0, 0, 0) := by decide +kernel
  have hrebuilt : salesDailySummaryRebuild oneReturned (saleDay, .CASH) = 0 := by decide +kernel
  rw [hcounted, hrebuilt] at hrow
  exact absurd hrow (by decide)

end SmartErpPos.Sales
