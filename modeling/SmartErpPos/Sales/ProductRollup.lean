/-
  Sales/ProductRollup.lean --- what one batch does to the product rollup.

  The lines of a call are summed by product first, and every sum is rounded once when it is
  written.  So a batch adds or takes, at the row of a product and day, the rounded sum of
  that product's lines.
-/
import SmartErpPos.Sales.SaleStore

set_option autoImplicit false

namespace SmartErpPos.Sales

open SmartErpPos.Lib SmartErpPos.Ledger

/-! ## Totals by product -/

namespace ProductTotals

instance : Zero ProductTotals := ⟨⟨0, 0, 0, 0⟩⟩
instance : Add ProductTotals := ⟨plus⟩

theorem add_def (a b : ProductTotals) : a + b = a.plus b := rfl

@[simp] theorem unitsSold_zero : (0 : ProductTotals).unitsSold = 0 := rfl
@[simp] theorem unitsSold_add (a b : ProductTotals) :
    (a + b).unitsSold = a.unitsSold + b.unitsSold := rfl

instance : AddCommMonoid ProductTotals where
  add_assoc a b c := by ext <;> simp only [add_def, plus, add_assoc]
  zero_add a := by ext <;> exact zero_add _
  add_zero a := by ext <;> exact add_zero _
  add_comm a b := by ext <;> simp only [add_def, plus, add_comm]
  nsmul := nsmulRec

end ProductTotals

/-- The four columns of the product rollup. -/
abbrev Amounts := Quantity × Cents × Cents × Cents

/-- The totals as the batches write them. -/
def ProductTotals.stored (totals : ProductTotals) : Amounts :=
  (.ofRat totals.unitsSold, .ofRat totals.revenue, .ofRat totals.costOfGoods,
    .ofRat totals.discountGiven)

def ProductSummaryRow.amounts (row : ProductSummaryRow) : Amounts :=
  (row.unitsSold, row.revenue, row.costOfGoods, row.discountGiven)

theorem stored_zero : (0 : ProductTotals).stored = 0 := by
  show (Numeric.ofRat 0, Numeric.ofRat 0, Numeric.ofRat 0, Numeric.ofRat 0) = (0 : Amounts)
  rw [Numeric.ofRat_zero, Numeric.ofRat_zero]
  rfl

/-- What the entries of a product sum to. -/
def totalsOf (entries : List (ProductId × ProductTotals)) (p : ProductId) : ProductTotals :=
  ((entries.filter fun e => e.1 = p).map (·.2)).sum

theorem totalsOf_cons (e : ProductId × ProductTotals) (rest : List (ProductId × ProductTotals))
    (p : ProductId) :
    totalsOf (e :: rest) p = (if e.1 = p then e.2 else 0) + totalsOf rest p := by
  unfold totalsOf
  by_cases hp : e.1 = p
  · simp [hp]
  · simp [hp]

theorem totalsOf_eq_zero {entries : List (ProductId × ProductTotals)} {p : ProductId}
    (h : ∀ e ∈ entries, e.1 ≠ p) : totalsOf entries p = 0 := by
  unfold totalsOf
  rw [List.filter_eq_nil_iff.mpr fun e he => by simpa using h e he]
  rfl

/-- The aggregated map holds the sums, for the products that have entries. -/
theorem aggregate_get? (entries : List (ProductId × ProductTotals)) (p : ProductId) :
    (((aggregate entries).get? p).getD 0 = totalsOf entries p) ∧
      (((aggregate entries).get? p).isSome ↔ ∃ e ∈ entries, e.1 = p) := by
  have hfold : ∀ (es : List (ProductId × ProductTotals)) (m : OrderedMap ProductId ProductTotals),
      let after := es.foldl (fun m e => m.set e.1 (((m.get? e.1).map (·.plus e.2)).getD e.2)) m
      ((after.get? p).getD 0 = (m.get? p).getD 0 + totalsOf es p) ∧
        ((after.get? p).isSome ↔ (m.get? p).isSome ∨ ∃ e ∈ es, e.1 = p) := by
    intro es
    induction es with
    | nil => exact fun m => ⟨(add_zero _).symm, by simp⟩
    | cons e rest ih =>
      intro m
      obtain ⟨hsum, hsome⟩ := ih (m.set e.1 (((m.get? e.1).map (·.plus e.2)).getD e.2))
      rw [OrderedMap.get?_set] at hsum hsome
      rw [List.foldl_cons, totalsOf_cons]
      by_cases hp : p = e.1
      · subst hp
        refine ⟨?_, by simp [hsome]⟩
        rw [hsum, if_pos rfl, if_pos rfl, ← add_assoc]
        cases m.get? e.1 with
        | none => exact congrArg (· + _) (zero_add e.2).symm
        | some t => rfl
      · rw [if_neg hp] at hsum hsome
        rw [if_neg (Ne.symm hp), zero_add]
        refine ⟨hsum, hsome.trans (or_congr Iff.rfl ?_)⟩
        simp [Ne.symm hp]
  obtain ⟨hsum, hsome⟩ := hfold entries .empty
  exact ⟨hsum.trans (zero_add _), hsome.trans ⟨fun h => h.resolve_left (by simp), .inr⟩⟩

theorem aggregate_valueAt (entries : List (ProductId × ProductTotals)) (p : ProductId) :
    (aggregate entries).valueAt ProductTotals.stored p = (totalsOf entries p).stored := by
  have hsum := (aggregate_get? entries p).1
  cases hget : (aggregate entries).get? p with
  | none =>
    rw [hget] at hsum
    rw [OrderedMap.valueAt_of_get?_none hget, ← hsum]
    exact stored_zero.symm
  | some t =>
    rw [hget] at hsum
    rw [OrderedMap.valueAt_of_get? hget, ← hsum]
    rfl

/-! ## The batches -/

/-- What the entries written for a day add to a row of the rollup. -/
def batchAmounts (date : IsoDate) (entries : List (ProductId × ProductTotals))
    (key : IsoDate × ProductId) : Amounts :=
  if date = key.1 then (totalsOf entries key.2).stored else 0

/-- A pass over the aggregated map adds what the map holds at the product. -/
theorem sum_entries_at (g : ProductTotals → Amounts) (m : OrderedMap ProductId ProductTotals)
    (date : IsoDate) (key : IsoDate × ProductId) :
    ((m.entries.filter fun e => decide ((date, e.1) = key)).map fun e => g e.2).sum =
      if date = key.1 then m.valueAt g key.2 else 0 := by
  by_cases hdate : date = key.1
  · have hkey : ∀ e ∈ m.entries, decide ((date, e.1) = key) = decide (e.1 = key.2) := by
      intro e _
      rw [decide_eq_decide, Prod.ext_iff]
      exact ⟨fun h => h.2, fun h => ⟨hdate, h⟩⟩
    rw [if_pos hdate, List.filter_congr hkey, ← OrderedMap.sumWhere_key]
    rfl
  · have hnone : m.entries.filter (fun e => decide ((date, e.1) = key)) = [] := by
      refine List.filter_eq_nil_iff.mpr fun e _ => ?_
      rw [decide_eq_true_eq]
      rintro rfl
      exact hdate rfl
    rw [if_neg hdate, hnone]
    rfl

theorem valueAt_upsertProduct (date : IsoDate)
    (table : OrderedMap (IsoDate × ProductId) ProductSummaryRow)
    (item : ProductId × ProductTotals) (key : IsoDate × ProductId) :
    (upsertProduct date table item).valueAt ProductSummaryRow.amounts key =
      table.valueAt ProductSummaryRow.amounts key +
        if (date, item.1) = key then item.2.stored else 0 := by
  unfold upsertProduct
  rw [OrderedMap.valueAt_set]
  by_cases hkey : key = (date, item.1)
  · subst hkey
    rw [if_pos rfl, if_pos rfl]
    cases hget : table.get? (date, item.1) with
    | none =>
      rw [OrderedMap.valueAt_of_get?_none hget]
      rfl
    | some row =>
      rw [OrderedMap.valueAt_of_get? hget]
      rfl
  · rw [if_neg hkey, if_neg (Ne.symm hkey), add_zero]

/-- The rollup after a new sale. -/
theorem valueAt_batchUpsert (table : OrderedMap (IsoDate × ProductId) ProductSummaryRow)
    (date : IsoDate) (entries : List (ProductId × ProductTotals)) (key : IsoDate × ProductId) :
    (batchUpsertProductDailySummary table date (aggregate entries)).valueAt
        ProductSummaryRow.amounts key =
      table.valueAt ProductSummaryRow.amounts key + batchAmounts date entries key := by
  unfold batchUpsertProductDailySummary
  rw [OrderedMap.valueAt_foldl (P := fun _ => True) (Q := fun _ => True)
    (fun m e _ _ => ⟨trivial, valueAt_upsertProduct date m e⟩) (fun _ _ => trivial) trivial key,
    sum_entries_at, aggregate_valueAt]
  rfl

/-- The products of these entries have rows on that day. -/
def HasRows (table : OrderedMap (IsoDate × ProductId) ProductSummaryRow) (date : IsoDate)
    (entries : List (ProductId × ProductTotals)) : Prop :=
  ∀ e ∈ entries, (table.get? (date, e.1)).isSome

theorem valueAt_decrementProduct {date : IsoDate}
    {table : OrderedMap (IsoDate × ProductId) ProductSummaryRow}
    {item : ProductId × ProductTotals} (hrow : (table.get? (date, item.1)).isSome)
    (key : IsoDate × ProductId) :
    (decrementProduct date table item).valueAt ProductSummaryRow.amounts key =
      table.valueAt ProductSummaryRow.amounts key +
        if (date, item.1) = key then -item.2.stored else 0 := by
  obtain ⟨row, hget⟩ := Option.isSome_iff_exists.mp hrow
  unfold decrementProduct
  rw [OrderedMap.modify_eq_set hget, OrderedMap.valueAt_set]
  by_cases hkey : key = (date, item.1)
  · subst hkey
    rw [if_pos rfl, if_pos rfl, OrderedMap.valueAt_of_get? hget, ← sub_eq_add_neg]
    rfl
  · rw [if_neg hkey, if_neg (Ne.symm hkey), add_zero]

theorem get?_isSome_decrement (date : IsoDate)
    (table : OrderedMap (IsoDate × ProductId) ProductSummaryRow)
    (item : ProductId × ProductTotals) (key : IsoDate × ProductId) :
    ((decrementProduct date table item).get? key).isSome = (table.get? key).isSome := by
  unfold decrementProduct
  rw [OrderedMap.get?_modify]
  split
  · exact Option.isSome_map
  · rfl

/-- The rollup after a void or a return. -/
theorem valueAt_batchDecrement {table : OrderedMap (IsoDate × ProductId) ProductSummaryRow}
    {date : IsoDate} {entries : List (ProductId × ProductTotals)}
    (hrows : HasRows table date entries) (key : IsoDate × ProductId) :
    (batchDecrementProductDailySummary table date (aggregate entries)).valueAt
        ProductSummaryRow.amounts key =
      table.valueAt ProductSummaryRow.amounts key - batchAmounts date entries key := by
  let rowsKept : OrderedMap (IsoDate × ProductId) ProductSummaryRow → Prop := fun m =>
    ∀ k, (table.get? k).isSome → (m.get? k).isSome
  have hes : ∀ e ∈ (aggregate entries).entries, (table.get? (date, e.1)).isSome := by
    intro e he
    have hget : (aggregate entries).get? e.1 = some e.2 := OrderedMap.get?_eq_some_iff.mpr he
    obtain ⟨x, hx, hxe⟩ := (aggregate_get? entries e.1).2.mp (by rw [hget]; rfl)
    exact hxe ▸ hrows x hx
  have hstep : ∀ m e, rowsKept m → (table.get? (date, e.1)).isSome →
      rowsKept (decrementProduct date m e) ∧ ∀ k,
        (decrementProduct date m e).valueAt ProductSummaryRow.amounts k =
          m.valueAt ProductSummaryRow.amounts k +
            if (date, e.1) = k then -e.2.stored else 0 := by
    intro m e hm he
    refine ⟨fun k hk => ?_, valueAt_decrementProduct (hm _ he)⟩
    rw [get?_isSome_decrement]
    exact hm k hk
  unfold batchDecrementProductDailySummary
  rw [OrderedMap.valueAt_foldl hstep hes (fun _ hk => hk) key,
    sum_entries_at (fun t => -t.stored), sub_eq_add_neg]
  congr 1
  unfold batchAmounts
  split
  · rw [← aggregate_valueAt]
    unfold OrderedMap.valueAt
    cases (aggregate entries).get? key.2 with
    | none => exact neg_zero.symm
    | some t => rfl
  · exact neg_zero.symm

/-- No batch loses a row. -/
theorem get?_isSome_batchDecrement (table : OrderedMap (IsoDate × ProductId) ProductSummaryRow)
    (date : IsoDate) (items : OrderedMap ProductId ProductTotals) (key : IsoDate × ProductId) :
    ((batchDecrementProductDailySummary table date items).get? key).isSome =
      (table.get? key).isSome := by
  unfold batchDecrementProductDailySummary
  induction items.entries generalizing table with
  | nil => rfl
  | cons e rest ih => rw [List.foldl_cons, ih, get?_isSome_decrement]

/-- A new sale makes the rows of its products and keeps all others. -/
theorem get?_isSome_batchUpsert (table : OrderedMap (IsoDate × ProductId) ProductSummaryRow)
    (date : IsoDate) (entries : List (ProductId × ProductTotals)) :
    HasRows (batchUpsertProductDailySummary table date (aggregate entries)) date entries ∧
      ∀ key, (table.get? key).isSome →
        ((batchUpsertProductDailySummary table date (aggregate entries)).get? key).isSome := by
  have hfold : ∀ (items : List (ProductId × ProductTotals))
      (table : OrderedMap (IsoDate × ProductId) ProductSummaryRow) (key : IsoDate × ProductId),
      ((∃ e ∈ items, (date, e.1) = key) ∨ (table.get? key).isSome) →
        ((items.foldl (upsertProduct date) table).get? key).isSome := by
    intro items
    induction items with
    | nil =>
      rintro table key (⟨e, he, -⟩ | h)
      · cases he
      · exact h
    | cons x rest ih =>
      intro table key h
      refine ih _ _ ?_
      have hrow : (date, x.1) = key ∨ (table.get? key).isSome →
          ((upsertProduct date table x).get? key).isSome := by
        unfold upsertProduct
        rw [OrderedMap.get?_set]
        rintro (rfl | hkey)
        · rw [if_pos rfl]
          rfl
        · split
          · rfl
          · exact hkey
      rcases h with ⟨e, he, hkey⟩ | h
      · rcases List.mem_cons.mp he with rfl | he
        · exact .inr (hrow (.inl hkey))
        · exact .inl ⟨e, he, hkey⟩
      · exact .inr (hrow (.inr h))
  refine ⟨fun e he => hfold _ _ _ (.inl ?_), fun key hkey => hfold _ _ _ (.inr hkey)⟩
  obtain ⟨t, hget⟩ := Option.isSome_iff_exists.mp ((aggregate_get? entries e.1).2.mpr ⟨e, he, rfl⟩)
  exact ⟨(e.1, t), OrderedMap.get?_eq_some_iff.mp hget, rfl⟩

end SmartErpPos.Sales
