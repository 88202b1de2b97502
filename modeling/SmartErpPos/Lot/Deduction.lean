/-
  Lot/Deduction.lean --- taking a quantity from several stores.

  Consumption without a store and splits both walk over the balances of a lot and
  take from each what is still missing (`greedyTakes`).  `TakesSpec` says what the
  takes add up to in the stored columns: rounding each take separately loses
  exactly the units that rounding the whole deduction loses.
-/
import SmartErpPos.Lot.Wiring

set_option autoImplicit false

namespace SmartErpPos.Lot

open SmartErpPos.Lib

/-! ## Splitting a deduction -/

/-- Every entry is a stored quantity that is not negative. -/
def StoredRows (rows : List (StoreId × ℚ)) : Prop :=
  ∀ r ∈ rows, ∃ n : Quantity, 0 ≤ n ∧ n.toRat = r.2

/-- What the walk takes and leaves. -/
structure TakesSpec (q : ℚ) (takes : List (StoreId × ℚ)) (left : ℚ) : Prop where
  left_nonneg : 0 ≤ left
  left_le : left ≤ q
  deducted : (takes.map fun t => (Numeric.deducted t.2 : Quantity)).sum =
    Numeric.deducted (q - left)
  stored : (takes.map fun t => (Numeric.ofRat t.2 : Quantity)).sum = Numeric.ofRat (q - left)
  whole : left = 0 ∨ ∃ n : Quantity, 0 ≤ n ∧ n.toRat = q - left

variable {q : ℚ} {db : LotDb} {id : ProductLotId} {lot : ProductLotRow}

theorem takesSpec_nil (hq : 0 ≤ q) : TakesSpec q [] q :=
  ⟨hq, le_rfl, by simp, by simp, .inr ⟨0, le_rfl, by simp⟩⟩

/-- Taking all a store has, and continuing with the rest. -/
theorem takesSpec_cons_whole {left : ℚ} {takes : List (StoreId × ℚ)} {store : StoreId}
    {n : Quantity} (hn : 0 ≤ n) (h : TakesSpec (q - n.toRat) takes left) :
    TakesSpec q ((store, n.toRat) :: takes) left := by
  have hn' : 0 ≤ n.toRat := Numeric.toRat_nonneg_iff.mpr hn
  have hrest : q - left = n.toRat + (q - n.toRat - left) := by ring
  have hnn : 0 ≤ q - n.toRat - left := sub_nonneg.mpr h.left_le
  have hdn : (Numeric.deducted n.toRat : Quantity) = n := by
    have hadd := Numeric.deducted_toRat_add n 0
    rwa [add_zero, Numeric.deducted_zero, add_zero] at hadd
  refine ⟨h.left_nonneg, by linarith [h.left_le], ?_, ?_, ?_⟩
  · rw [List.map_cons, List.sum_cons, h.deducted, hrest, Numeric.deducted_toRat_add, hdn]
  · rw [List.map_cons, List.sum_cons, h.stored, hrest,
      Numeric.ofRat_toRat_add hnn (add_nonneg hn' hnn), Numeric.ofRat_toRat]
  · rcases h.whole with hzero | ⟨m, hm, hmq⟩
    · exact .inl hzero
    · refine .inr ⟨n + m, add_nonneg hn hm, ?_⟩
      rw [Numeric.toRat_add, hmq]
      ring

/-- Taking the last part, which a store covers. -/
theorem takesSpec_last (hq : 0 ≤ q) (store : StoreId) : TakesSpec q [(store, q)] 0 :=
  ⟨le_rfl, hq, by simp, by simp, .inl rfl⟩

theorem greedyTakes_of_le {eps left : ℚ} (h : left ≤ eps) (rows : List (StoreId × ℚ)) :
    greedyTakes eps rows left = ([], left) := by
  cases rows with
  | nil => rfl
  | cons r rest => simp [greedyTakes, h]

theorem greedyTakes_spec {eps : ℚ} (heps : 0 ≤ eps) {rows : List (StoreId × ℚ)}
    (hrows : StoredRows rows) (hq : 0 ≤ q) :
    TakesSpec q (greedyTakes eps rows q).1 (greedyTakes eps rows q).2 := by
  induction rows generalizing q with
  | nil => exact takesSpec_nil hq
  | cons r rest ih =>
    obtain ⟨store, available⟩ := r
    obtain ⟨n, hn, hnr⟩ := hrows (store, available) List.mem_cons_self
    have hrest : StoredRows rest := fun r hr => hrows r (List.mem_cons_of_mem _ hr)
    simp only at hnr
    by_cases hstop : q ≤ eps
    · simp only [greedyTakes, if_pos hstop]
      exact takesSpec_nil hq
    · by_cases hskip : min q available ≤ eps
      · simp only [greedyTakes, if_neg hstop, if_pos hskip]
        exact ih hrest hq
      · simp only [greedyTakes, if_neg hstop, if_neg hskip]
        by_cases hcover : q ≤ available
        · rw [min_eq_left hcover, sub_self, greedyTakes_of_le heps]
          exact takesSpec_last hq store
        · have hle : available ≤ q := le_of_not_ge hcover
          rw [min_eq_right hle, ← hnr]
          exact takesSpec_cons_whole hn (ih hrest (by rw [hnr]; linarith))

/-- Without a threshold nothing is left when the stores have enough. -/
theorem greedyTakes_zero_left {rows : List (StoreId × ℚ)} (hrows : StoredRows rows) (hq : 0 ≤ q)
    (henough : q ≤ (rows.map Prod.snd).sum) : (greedyTakes 0 rows q).2 = 0 := by
  induction rows generalizing q with
  | nil =>
    have h : q ≤ 0 := henough
    exact le_antisymm h hq
  | cons r rest ih =>
    obtain ⟨store, available⟩ := r
    have hrest : StoredRows rest := fun r hr => hrows r (List.mem_cons_of_mem _ hr)
    rw [List.map_cons, List.sum_cons] at henough
    simp only at henough
    by_cases hstop : q ≤ 0
    · simp only [greedyTakes, if_pos hstop]
      exact le_antisymm hstop hq
    · by_cases hskip : min q available ≤ 0
      · have havail : available ≤ 0 := by
          rcases min_le_iff.mp hskip with h | h
          · exact absurd h hstop
          · exact h
        simp only [greedyTakes, if_neg hstop, if_pos hskip]
        exact ih hrest hq (by linarith)
      · simp only [greedyTakes, if_neg hstop, if_neg hskip]
        by_cases hcover : q ≤ available
        · rw [min_eq_left hcover, sub_self, greedyTakes_of_le le_rfl]
        · have hle : available ≤ q := le_of_not_ge hcover
          rw [min_eq_right hle]
          exact ih hrest (by linarith) (by linarith)

/-- The walk covers everything, or stops short by what its first stores miss; stores
with at most `eps` are passed over. -/
theorem greedyTakes_left {eps : ℚ} (heps : 0 ≤ eps) (rows : List (StoreId × ℚ)) (q : ℚ) :
    (greedyTakes eps rows q).2 = 0 ∨ ∃ k, (greedyTakes eps rows q).2 =
      q - (((rows.filter fun r => eps < r.2).take k).map Prod.snd).sum := by
  induction rows generalizing q with
  | nil => exact .inr ⟨0, by simp [greedyTakes]⟩
  | cons r rest ih =>
    obtain ⟨store, available⟩ := r
    by_cases hstop : q ≤ eps
    · refine .inr ⟨0, ?_⟩
      rw [greedyTakes_of_le hstop]
      simp
    · by_cases hskip : min q available ≤ eps
      · have havail : ¬ eps < available := by
          rcases min_le_iff.mp hskip with h | h
          · exact absurd h hstop
          · exact not_lt.mpr h
        simp only [greedyTakes, if_neg hstop, if_pos hskip]
        rw [List.filter_cons_of_neg (by simpa using havail)]
        exact ih q
      · simp only [greedyTakes, if_neg hstop, if_neg hskip]
        by_cases hcover : q ≤ available
        · left
          rw [min_eq_left hcover, sub_self, greedyTakes_of_le heps]
        · have hle : available ≤ q := le_of_not_ge hcover
          have havail : eps < available := by
            rw [min_eq_right hle] at hskip
            exact not_le.mp hskip
          rw [min_eq_right hle, List.filter_cons_of_pos (by simpa using havail)]
          rcases ih (q - available) with h | ⟨k, h⟩
          · exact .inl h
          · refine .inr ⟨k + 1, ?_⟩
            rw [h, List.take_succ_cons, List.map_cons, List.sum_cons]
            ring

/-! ## Reading balances -/

theorem toRat_sum (l : List Quantity) : (l.sum).toRat = (l.map Numeric.toRat).sum := by
  induction l with
  | nil => simp
  | cons x rest ih => rw [List.sum_cons, List.map_cons, List.sum_cons, Numeric.toRat_add, ih]

/-- The balance rows of a projected lot are those with its projection's key. -/
theorem projects_eq_of_lot (hw : Wired db) (hlot : db.productLots.get? id = some lot)
    {e : (StoreId × ProductLotId) × BalanceRow} (he : e ∈ db.balances.entries) :
    projects db lot.inventoryBatchId e.1 = decide (e.1.2 = id) := by
  obtain ⟨lot', hlot'⟩ := hw.lot_of_balance e.1 e.2 (OrderedMap.get?_eq_some_iff.mpr he)
  rw [projects_of_get? hlot', decide_eq_decide]
  constructor
  · intro hb
    exact hw.lot_unique _ _ lot' lot hlot' hlot hb
  · intro hid
    rw [hid, hlot] at hlot'
    cases hlot'
    rfl

theorem onHand_eq_sum (hw : Wired db) (hlot : db.productLots.get? id = some lot) :
    onHand db lot.inventoryBatchId =
      ((db.balances.entries.filter fun e => decide (e.1.2 = id)).map
        fun e => e.2.quantityOnHand).sum := by
  unfold onHand OrderedMap.sumWhere
  rw [List.filter_congr fun e he => projects_eq_of_lot hw hlot he]

theorem onHand_nonneg (hw : Wired db) (id : BatchId) : 0 ≤ onHand db id := by
  have hpos : ∀ l : List ((StoreId × ProductLotId) × BalanceRow),
      (∀ e ∈ l, 0 ≤ e.2.quantityOnHand) → 0 ≤ (l.map fun e => e.2.quantityOnHand).sum := by
    intro l
    induction l with
    | nil => intro _; exact le_rfl
    | cons e rest ih =>
      intro h
      have h₁ := h e List.mem_cons_self
      have h₂ := ih fun x hx => h x (List.mem_cons_of_mem e hx)
      rw [List.map_cons, List.sum_cons]
      exact add_nonneg h₁ h₂
  refine hpos _ fun e he => ?_
  have hrow := OrderedMap.get?_eq_some_iff.mpr (List.mem_of_mem_filter he)
  exact (hw.balance_clean _ e.2 hrow).1

theorem storedRows_stockedBalances (hw : Wired db) (id : ProductLotId) :
    StoredRows (stockedBalances db id) := by
  intro r hr
  simp only [stockedBalances, List.mem_map, List.mem_insertionSort, List.mem_filter] at hr
  obtain ⟨e, ⟨he, -⟩, rfl⟩ := hr
  exact ⟨e.2.quantityOnHand,
    (hw.balance_clean _ e.2 (OrderedMap.get?_eq_some_iff.mpr he)).1, rfl⟩

theorem storedRows_availableBalances (env : LotEnv) (hw : Wired db) (id : ProductLotId) :
    StoredRows (availableBalances env db id) := by
  intro r hr
  simp only [availableBalances, List.mem_map, List.mem_insertionSort, List.mem_filter] at hr
  obtain ⟨e, ⟨he, -⟩, rfl⟩ := hr
  have hclean := hw.balance_clean _ e.2 (OrderedMap.get?_eq_some_iff.mpr he)
  have hnn : 0 ≤ e.2.quantityOnHand.toRat := Numeric.toRat_nonneg_iff.mpr hclean.1
  refine ⟨e.2.quantityOnHand, hclean.1, ?_⟩
  rw [BalanceRow.available_eq hclean.2.1 hclean.2.2, max_eq_left hnn]

/-- The stocked balances of a lot add up to its stock. -/
theorem sum_stockedBalances (hw : Wired db) (hlot : db.productLots.get? id = some lot) :
    ((stockedBalances db id).map Prod.snd).sum = (onHand db lot.inventoryBatchId).toRat := by
  have hdrop : ∀ l : List ((StoreId × ProductLotId) × BalanceRow),
      (∀ e ∈ l, 0 ≤ e.2.quantityOnHand) →
      ((l.filter fun e => decide (e.1.2 = id) && decide (0 < e.2.quantityOnHand)).map
          fun e => e.2.quantityOnHand.toRat).sum =
        ((l.filter fun e => decide (e.1.2 = id)).map fun e => e.2.quantityOnHand.toRat).sum := by
    intro l
    induction l with
    | nil => intro _; rfl
    | cons e rest ih =>
      intro h
      have hrest := ih fun x hx => h x (List.mem_cons_of_mem e hx)
      by_cases hid : e.1.2 = id
      · by_cases hq : 0 < e.2.quantityOnHand
        · simp [hid, hq, hrest]
        · have hnn := h e List.mem_cons_self
          have hzero : e.2.quantityOnHand = 0 := le_antisymm (not_lt.mp hq) hnn
          have hz : e.2.quantityOnHand.toRat = 0 := by rw [hzero, Numeric.toRat_zero]
          simp [hid, hq, hz, hrest]
      · simp [hid, hrest]
  have hnn : ∀ e ∈ db.balances.entries, 0 ≤ e.2.quantityOnHand := fun e he =>
    (hw.balance_clean _ e.2 (OrderedMap.get?_eq_some_iff.mpr he)).1
  calc ((stockedBalances db id).map Prod.snd).sum
      = ((db.balances.entries.filter fun e =>
          decide (e.1.2 = id) && decide (0 < e.2.quantityOnHand)).map
            fun e => e.2.quantityOnHand.toRat).sum := by
        simp only [stockedBalances, List.map_map]
        exact ((List.perm_insertionSort _ _).map _).sum_eq
    _ = ((db.balances.entries.filter fun e => decide (e.1.2 = id)).map
          fun e => e.2.quantityOnHand.toRat).sum := hdrop _ hnn
    _ = (onHand db lot.inventoryBatchId).toRat := by
        rw [onHand_eq_sum hw hlot, toRat_sum, List.map_map]
        rfl

/-- A lot in stock has a store that can give some of it. -/
theorem availableBalances_ne_nil (env : LotEnv) (hw : Wired db)
    (hlot : db.productLots.get? id = some lot) (hstock : 0 < onHand db lot.inventoryBatchId) :
    availableBalances env db id ≠ [] := by
  intro hnil
  have hnone : ∀ e ∈ db.balances.entries, ¬ (e.1.2 = id ∧ 0 < max e.2.available 0) := by
    simp only [availableBalances, List.map_eq_nil_iff] at hnil
    intro e he hin
    have hmem : e ∈ (db.balances.entries.filter fun e =>
        decide (e.1.2 = id) && decide (0 < max e.2.available 0)).insertionSort fun a b =>
          env.textLe (fixedText 4 (max b.2.available 0)) (fixedText 4 (max a.2.available 0)) =
            true :=
      (List.mem_insertionSort _).mpr (List.mem_filter.mpr ⟨he, by simpa using hin⟩)
    rw [hnil] at hmem
    cases hmem
  have hzero : onHand db lot.inventoryBatchId = 0 := by
    refine OrderedMap.sumWhere_eq_zero fun e he hproj => ?_
    rw [projects_eq_of_lot hw hlot he, decide_eq_true_eq] at hproj
    have hclean := hw.balance_clean _ e.2 (OrderedMap.get?_eq_some_iff.mpr he)
    have hav : ¬ 0 < max e.2.available 0 := fun h => hnone e he ⟨hproj, h⟩
    rw [BalanceRow.available_eq hclean.2.1 hclean.2.2, lt_max_iff, not_or,
      Numeric.toRat_pos_iff] at hav
    exact le_antisymm (not_lt.mp hav.1) hclean.1
  rw [hzero] at hstock
  exact lt_irrefl _ hstock

/-! ## Deducting from the stores -/

/-- Taking from several stores closes the gap of the lot by what is taken. -/
theorem deductTakes_ok {productId : String} {takes : List (StoreId × ℚ)} {db' : LotDb}
    (hw : Wired db) (hlot : db.productLots.get? id = some lot) (h : takes.foldlM (fun db take =>
      adjustSellableQuantityOut db ⟨take.1, productId, id, take.2⟩) db = .ok db') :
    BalanceWritten db db' ∧ ∀ b, gap db' b =
      gap db b + if lot.inventoryBatchId = b then
        (takes.map fun t => (Numeric.deducted t.2 : Quantity)).sum else 0 := by
  induction takes generalizing db with
  | nil =>
    rw [List.foldlM_nil, pure_eq_ok] at h
    subst h
    exact ⟨⟨hw, rfl, rfl⟩, fun b => by simp⟩
  | cons t rest ih =>
    rw [List.foldlM_cons, bind_eq_ok] at h
    obtain ⟨mid, hmid, hrest⟩ := h
    obtain ⟨hwritten, -, hgap⟩ := adjustOut_ok hw hlot hmid
    obtain ⟨hwritten', hgap'⟩ := ih hwritten.wired (by rw [hwritten.productLots]; exact hlot) hrest
    refine ⟨⟨hwritten'.wired, hwritten'.batches.trans hwritten.batches,
      hwritten'.productLots.trans hwritten.productLots⟩, fun b => ?_⟩
    rw [hgap' b, hgap b, List.map_cons, List.sum_cons]
    split
    · rw [add_assoc]
    · rw [add_zero, add_zero]

/-- A cross-store deduction the stores can cover takes the whole quantity. -/
theorem deductBalancesAcrossStores_ok {db' : LotDb} (hw : Wired db) {productId : String}
    {batchId : BatchId} {quantity : ℚ} (hq : 0 ≤ quantity)
    (hle : quantity ≤ (onHand db batchId).toRat)
    (h : deductBalancesAcrossStores db productId batchId quantity = .ok db') :
    BalanceWritten db db' ∧ ∀ b, gap db' b =
      gap db b + if batchId = b then Numeric.deducted quantity else 0 := by
  simp only [deductBalancesAcrossStores, bind_eq_ok, orThrow_eq_ok, require_eq_ok,
    pure_eq_ok] at h
  obtain ⟨⟨id, lot⟩, hfind, _, _, mid, hfold, _, _, rfl⟩ := h
  have hlot := OrderedMap.get?_eq_some_iff.mpr (List.mem_of_find?_eq_some hfind)
  have hbatch : lot.inventoryBatchId = batchId := by
    have hp := List.find?_some hfind
    simp only [decide_eq_true_eq] at hp
    exact hp.1
  obtain ⟨hwritten, hgap⟩ := deductTakes_ok hw hlot hfold
  have hrows := storedRows_stockedBalances hw id
  have hspec := greedyTakes_spec le_rfl hrows hq
  have hleft : (greedyTakes 0 (stockedBalances db id) quantity).2 = 0 := by
    refine greedyTakes_zero_left hrows hq ?_
    rw [sum_stockedBalances hw hlot, hbatch]
    exact hle
  have hsum := hspec.deducted
  rw [hleft, sub_zero] at hsum
  refine ⟨hwritten, fun b => ?_⟩
  rw [hgap b, hsum, hbatch]

/-- Moving takes from one lot's balances to another's shifts the gaps of both. -/
theorem moveSplitTakes_ok {params : SplitTransfer} {parent child : ProductLotRow}
    {takes : List (StoreId × ℚ)} {db' : LotDb} (hw : Wired db)
    (hparent : db.productLots.get? params.parentProductLotId = some parent)
    (hchild : db.productLots.get? params.childProductLotId = some child)
    (h : takes.foldlM (moveSplitTake params) db = .ok db') :
    BalanceWritten db db' ∧ ∀ b, gap db' b = gap db b +
      (if parent.inventoryBatchId = b then
        (takes.map fun t => (Numeric.deducted t.2 : Quantity)).sum else 0) -
      (if child.inventoryBatchId = b then
        (takes.map fun t => (Numeric.ofRat t.2 : Quantity)).sum else 0) := by
  induction takes generalizing db with
  | nil =>
    rw [List.foldlM_nil, pure_eq_ok] at h
    subst h
    exact ⟨⟨hw, rfl, rfl⟩, fun b => by simp⟩
  | cons t rest ih =>
    rw [List.foldlM_cons, bind_eq_ok] at h
    obtain ⟨mid, hmid, hrest⟩ := h
    simp only [moveSplitTake, bind_eq_ok] at hmid
    obtain ⟨taken, htaken, hput⟩ := hmid
    obtain ⟨hout, -, hgapOut⟩ := adjustOut_ok hw hparent htaken
    obtain ⟨hin, -, hgapIn⟩ :=
      incrementBalance_ok hout.wired (by rw [hout.productLots]; exact hchild) hput
    have hlots : mid.productLots = db.productLots := hin.productLots.trans hout.productLots
    obtain ⟨hwritten, hgap⟩ :=
      ih hin.wired (by rw [hlots]; exact hparent) (by rw [hlots]; exact hchild) hrest
    refine ⟨⟨hwritten.wired, hwritten.batches.trans (hin.batches.trans hout.batches),
      hwritten.productLots.trans hlots⟩, fun b => ?_⟩
    rw [hgap b, hgapIn b, hgapOut b, List.map_cons, List.map_cons, List.sum_cons, List.sum_cons]
    by_cases hp : parent.inventoryBatchId = b
    · by_cases hc : child.inventoryBatchId = b
      · simp only [hp, hc, if_true]
        abel
      · simp only [hp, hc, if_true, if_false]
        abel
    · by_cases hc : child.inventoryBatchId = b
      · simp only [hp, hc, if_true, if_false]
        abel
      · simp [hp, hc]

end SmartErpPos.Lot
