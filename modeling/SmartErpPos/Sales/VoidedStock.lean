/-
  Sales/VoidedStock.lean --- when a void gives back the stock the sale took.

  The sale takes its targets one after the other; the void puts the base quantity of every
  row with a product back on a lot of that product.  The two agree exactly when, for every
  product, the units stored in the rows that name it are the units taken of it.
-/
import SmartErpPos.Lot.OnHand
import SmartErpPos.Sales.SaleStock

set_option autoImplicit false

namespace SmartErpPos.Sales

open SmartErpPos.Lib SmartErpPos.Lot

/-! ## What the sale takes -/

section Taking

variable (env : LotEnv) (clock : Clock) (catalog : StockCatalog) (store : Option StoreId)

/-- What a target takes of the stock it finds. -/
def DeductTarget.drawn (db : LotDb) (target : DeductTarget) : Lot.Quantity :=
  (target.consumeInput catalog store).drawn env clock db

/-- The stock a target leaves. -/
def DeductTarget.after (db : LotDb) (target : DeductTarget) : LotDb :=
  settled ((target.consume env clock catalog store db).map (·.1)) db

/-- The units of a product that targets take, one after the other. -/
def drawnUnits : LotDb → List DeductTarget → String → Lot.Quantity
  | _, [], _ => 0
  | db, target :: rest, productId =>
    (if target.productId = productId then target.drawn env clock catalog store db else 0) +
      drawnUnits (target.after env clock catalog store db) rest productId

/-- The stock that targets leave. -/
def afterTargets (db : LotDb) (targets : List DeductTarget) : LotDb :=
  targets.foldl (fun db target => target.after env clock catalog store db) db

theorem drawnUnits_cons (db : LotDb) (target : DeductTarget) (rest : List DeductTarget)
    (productId : String) :
    drawnUnits env clock catalog store db (target :: rest) productId =
      (if target.productId = productId then target.drawn env clock catalog store db else 0) +
        drawnUnits env clock catalog store (target.after env clock catalog store db) rest
          productId := rfl

theorem drawnUnits_append (db : LotDb) (targets more : List DeductTarget) (productId : String) :
    drawnUnits env clock catalog store db (targets ++ more) productId =
      drawnUnits env clock catalog store db targets productId +
        drawnUnits env clock catalog store (afterTargets env clock catalog store db targets) more
          productId := by
  induction targets generalizing db with
  | nil => exact (zero_add _).symm
  | cons target rest ih =>
    rw [List.cons_append, drawnUnits_cons, drawnUnits_cons, ih, add_assoc]
    rfl

variable {env clock catalog store}

theorem consume_stockOf {db : LotDb} {target : DeductTarget} {r : LotDb × LotConsumeResult}
    (hkeys : StockKeys db) (h : target.consume env clock catalog store db = .ok r) :
    StockKeys r.1 ∧ r.1 = target.after env clock catalog store db ∧
      ∀ productId, stockOf r.1 productId = stockOf db productId -
        if target.productId = productId then target.drawn env clock catalog store db else 0 := by
  have hafter : r.1 = target.after env clock catalog store db := by
    unfold DeductTarget.after
    rw [h]
    rfl
  simp only [DeductTarget.consume, bind_eq_ok] at h
  obtain ⟨-, -, h⟩ := h
  obtain ⟨hsame, hstock⟩ := consumeLot_stockOf hkeys rfl rfl h
  exact ⟨hkeys.same hsame, hafter, hstock⟩

/-- The targets of one line. -/
theorem deductTargets_stockOf {targets : List DeductTarget} {db : LotDb} {line : LineDeduction}
    {r : LotDb × LineDeduction} (hkeys : StockKeys db)
    (h : targets.foldlM (deductTarget env clock catalog store) (db, line) = .ok r) :
    StockKeys r.1 ∧ r.1 = afterTargets env clock catalog store db targets ∧
      ∀ productId, stockOf r.1 productId = stockOf db productId -
        drawnUnits env clock catalog store db targets productId := by
  induction targets generalizing db line with
  | nil =>
    rw [List.foldlM_nil, pure_eq_ok] at h
    subst h
    exact ⟨hkeys, rfl, fun _ => (sub_zero _).symm⟩
  | cons target rest ih =>
    simp only [List.foldlM_cons, bind_eq_ok, deductTarget, pure_eq_ok] at h
    obtain ⟨-, ⟨consumed, hconsumed, rfl⟩, h⟩ := h
    obtain ⟨hkeys', hafter, hstock⟩ := consume_stockOf hkeys hconsumed
    obtain ⟨hlast, hend, hall⟩ := ih hkeys' h
    refine ⟨hlast, ?_, fun productId => ?_⟩
    · rw [hend, hafter]
      rfl
    · rw [hall, hstock, drawnUnits_cons, ← hafter]
      abel

/-- The deduction loop takes the targets of its lines. -/
theorem deductLines_stockOf {lines : List SaleStockLine} {db : LotDb}
    {r : LotDb × List LineDeduction} (hkeys : StockKeys db)
    (h : deductLines env clock catalog store db lines = .ok r) :
    StockKeys r.1 ∧ r.2.length = lines.length ∧
      ∀ productId, stockOf r.1 productId = stockOf db productId -
        drawnUnits env clock catalog store db (lines.flatMap (·.deductTargets catalog))
          productId := by
  induction lines generalizing db r with
  | nil =>
    unfold deductLines at h
    rw [pure_eq_ok] at h
    subst h
    exact ⟨hkeys, rfl, fun _ => (sub_zero _).symm⟩
  | cons line rest ih =>
    unfold deductLines at h
    simp only [bind_eq_ok, pure_eq_ok] at h
    obtain ⟨first, hfirst, tail, htail, rfl⟩ := h
    obtain ⟨hkeys', hafter, hstock⟩ := deductTargets_stockOf hkeys hfirst
    obtain ⟨hlast, hlength, hall⟩ := ih hkeys' htail
    refine ⟨hlast, ?_, fun productId => ?_⟩
    · rw [List.length_cons, hlength, List.length_cons]
    · rw [List.flatMap_cons, drawnUnits_append, ← hafter, hall, hstock]
      abel

end Taking

/-- The store a sale takes from, when it is not refused. -/
def sellingStore (env : LotEnv) (db : LotDb) : Option StoreId :=
  settled (resolveSellingStoreId env db) none

/-- The units a sale takes of a product. -/
def takenUnits (env : LotEnv) (clock : Clock) (catalog : StockCatalog) (db : LotDb)
    (lines : List SaleStockLine) (productId : String) : Lot.Quantity :=
  drawnUnits env clock catalog (sellingStore env db) db
    (lines.flatMap (·.deductTargets catalog)) productId

/-- The base units the rows of a sale name of a product. -/
def storedUnits (lines : List SaleStockLine) (productId : String) : Lot.Quantity :=
  (lines.map fun line =>
    if line.productId = some productId then (.ofRat line.baseQuantity : Lot.Quantity) else 0).sum

/-! ## What the void puts back -/

/-- The units of a product a row puts back. -/
def SaleStockItem.units (item : SaleStockItem) (productId : String) : Lot.Quantity :=
  if item.productId = some productId then item.baseQty.getD 0 else 0

/-- A row with a product has its base quantity. -/
def SaleStockItem.HasBase (item : SaleStockItem) : Prop :=
  item.productId.isSome → ∃ n, item.baseQty = some n ∧ 0 ≤ n

/-- A row puts its base quantity back on a lot of its product. -/
theorem restoreItem_stockOf {env : LotEnv} {clock : Clock} {sale : SaleHeader}
    {voidReason : String} {db db' : LotDb} {item : SaleStockItem} (hdrawn : KeysDrawn db)
    (hbase : item.HasBase) (h : restoreItem env clock sale voidReason db item = .ok db') :
    KeysDrawn db' ∧
      ∀ productId, stockOf db' productId = stockOf db productId + item.units productId := by
  unfold restoreItem at h
  cases hproduct : item.productId with
  | none =>
    simp only [hproduct, pure_eq_ok] at h
    subst h
    refine ⟨hdrawn, fun productId => ?_⟩
    simp [SaleStockItem.units, hproduct]
  | some owner =>
    obtain ⟨n, hn, hnonneg⟩ := hbase (by rw [hproduct]; rfl)
    have hquantity : item.voidQuantity = n.toRat := by
      unfold SaleStockItem.voidQuantity
      rw [hn]
    have hunits : ∀ productId, item.units productId = if owner = productId then n else 0 := by
      intro productId
      simp [SaleStockItem.units, hproduct, hn]
    have hput : ∀ {input : LotReturnInput} {r : LotDb × InventoryLot}, input.productId = owner →
        input.quantity = item.voidQuantity → returnLot env clock db input = .ok r →
        KeysDrawn r.1 ∧
          ∀ productId, stockOf r.1 productId = stockOf db productId + item.units productId := by
      intro input r howner hq hreturn
      refine ⟨returnLot_keysDrawn hdrawn hreturn, fun productId => ?_⟩
      rw [returnLot_stockOf hdrawn (hq.trans hquantity) hreturn, howner, hunits]
    simp only [hproduct, bind_eq_ok] at h
    obtain ⟨restored, hrestored, h⟩ := h
    cases restored with
    | none =>
      simp only [bind_eq_ok, pure_eq_ok] at h
      obtain ⟨returned, hreturned, rfl⟩ := h
      exact hput rfl rfl hreturned
    | some mid =>
      simp only [pure_eq_ok] at h
      subst h
      unfold restoreVoidedSaleLine at hrestored
      dsimp only at hrestored
      split at hrestored
      · split at hrestored
        · cases hrestored
        · split at hrestored
          · rename_i hnone
            cases hrestored
            rw [hquantity] at hnone
            have hzero : n = 0 := by
              refine le_antisymm (not_lt.mp fun hpos => ?_) hnonneg
              exact absurd (Numeric.toRat_pos_iff.mpr hpos) (not_lt.mpr hnone)
            refine ⟨hdrawn, fun productId => ?_⟩
            rw [hunits, hzero, ite_self, add_zero]
          · simp only [bind_eq_ok, pure_eq_ok] at hrestored
            obtain ⟨returned, hreturned, hmid⟩ := hrestored
            cases hmid
            exact hput rfl rfl hreturned
      · cases hrestored

theorem restoreSale_stockOf {env : LotEnv} {clock : Clock} {sale : SaleHeader}
    {voidReason : String} {items : List SaleStockItem} {db db' : LotDb} (hdrawn : KeysDrawn db)
    (hbase : ∀ item ∈ items, item.HasBase)
    (h : restoreSale env clock sale voidReason db items = .ok db') (productId : String) :
    stockOf db' productId =
      stockOf db productId + (items.map fun item => item.units productId).sum := by
  unfold restoreSale at h
  induction items generalizing db with
  | nil =>
    rw [List.foldlM_nil, pure_eq_ok] at h
    subst h
    exact (add_zero _).symm
  | cons item rest ih =>
    rw [List.foldlM_cons, bind_eq_ok] at h
    obtain ⟨mid, hmid, h⟩ := h
    obtain ⟨hitem, hrest⟩ := List.forall_mem_cons.mp hbase
    obtain ⟨hdrawn', hstock⟩ := restoreItem_stockOf hdrawn hitem hmid
    rw [ih hdrawn' hrest h, hstock, List.map_cons, List.sum_cons, add_assoc]

/-! ## The rows of a sale -/

theorem stockItem_hasBase (line : SaleStockLine) (unitCost : ℚ) (trace : Option WarehouseTrace) :
    (line.stockItem unitCost trace).HasBase := by
  intro hsome
  obtain ⟨productId, hproduct⟩ := Option.isSome_iff_exists.mp hsome
  have hline : line.productId = some productId := hproduct
  refine ⟨.ofRat line.baseQuantity, ?_, Numeric.ofRat_nonneg ?_⟩
  · unfold SaleStockLine.stockItem
    rw [hline]
    rfl
  · exact mul_nonneg line.quantity_pos.le (zero_le_one.trans line.one_le_factor)

theorem stockItem_units (line : SaleStockLine) (unitCost : ℚ) (trace : Option WarehouseTrace)
    (productId : String) : (line.stockItem unitCost trace).units productId =
      if line.productId = some productId then (.ofRat line.baseQuantity : Lot.Quantity) else 0 := by
  unfold SaleStockItem.units SaleStockLine.stockItem
  dsimp only
  split
  · rename_i hproduct
    rw [hproduct]
    rfl
  · rfl

/-- What a sale leaves, and the rows a void finds. -/
theorem deductSale_spec {env : LotEnv} {clock : Clock} {catalog : StockCatalog} {db : LotDb}
    {lines : List SaleStockLine} {sold : LotDb × List SaleStockItem} (hkeys : StockKeys db)
    (h : deductSale env clock catalog db lines = .ok sold) :
    StockKeys sold.1 ∧ (∀ item ∈ sold.2, item.HasBase) ∧ ∀ productId,
      stockOf sold.1 productId =
          stockOf db productId - takenUnits env clock catalog db lines productId ∧
        (sold.2.map fun item => item.units productId).sum = storedUnits lines productId := by
  simp only [deductSale, bind_eq_ok, pure_eq_ok] at h
  obtain ⟨store, hstore, deducted, hdeducted, rfl⟩ := h
  have hsame : sellingStore env db = store := by
    unfold sellingStore
    rw [hstore]
    rfl
  obtain ⟨hkeys', hlength, hstock⟩ := deductLines_stockOf hkeys hdeducted
  refine ⟨hkeys', fun item hitem => ?_, fun productId => ⟨?_, ?_⟩⟩
  · obtain ⟨n, hn, rfl⟩ := List.mem_mapIdx.mp hitem
    exact stockItem_hasBase _ _ _
  · unfold takenUnits
    rw [hsame]
    exact hstock productId
  · have hlines : (lines.zip deducted.2).map Prod.fst = lines :=
      List.map_fst_zip hlength.ge
    unfold storedUnits
    dsimp only
    conv_rhs => rw [← hlines]
    rw [List.map_map]
    refine congrArg List.sum (List.ext_getElem (by simp) fun n h₁ h₂ => ?_)
    simp [stockItem_units]

/-! ## Lines that come back -/

/-- Of a product that no target names nothing is taken. -/
theorem drawnUnits_eq_zero {env : LotEnv} {clock : Clock} {catalog : StockCatalog}
    {store : Option StoreId} {targets : List DeductTarget} {productId : String}
    (hnone : ∀ target ∈ targets, target.productId ≠ productId) (db : LotDb) :
    drawnUnits env clock catalog store db targets productId = 0 := by
  induction targets generalizing db with
  | nil => rfl
  | cons target rest ih =>
    obtain ⟨htarget, hrest⟩ := List.forall_mem_cons.mp hnone
    rw [drawnUnits_cons, if_neg htarget, ih hrest, zero_add]

/-! ## A box of soap -/

/-- Six pieces to the box. -/
def soapBox : SaleStockLine where
  productId := some "soap"
  productName := "Soap"
  quantity := 1
  conversionFactor := 6
  allocatedTotalCost := 7
  quantity_pos := by decide
  one_le_factor := by decide

/-- A delivery, which is a service. -/
def deliveryLine : SaleStockLine where
  productId := some "delivery"
  productName := "Delivery"
  quantity := 1
  conversionFactor := 1
  allocatedTotalCost := 0
  quantity_pos := by decide
  one_le_factor := by decide

def soapCatalog : StockCatalog where
  productType := fun productId => if productId = "delivery" then .service else .inventory
  recipe := fun _ => []
  minDaysBeforeExpirySale := fun _ => 0
  costingMethod := fun _ => .FIFO

/-- A lot of so many pieces. -/
def soapLot (number : String) (cost pieces : ℚ) : BatchRow :=
  { (mainBatchRow ⟨0, 0⟩ "soap" cost).increased pieces with batchNumber := number }

/-- Four pieces at 1.00 and eight at 1.50. -/
def soapStock : LotDb where
  products := [⟨"soap", false⟩, ⟨"delivery", false⟩]
  stores := OrderedMap.empty
  batches := (OrderedMap.empty.set 0 (soapLot "A" 1 4)).set 1 (soapLot "B" (3 / 2) 8)
  productLots := OrderedMap.empty
  balances := OrderedMap.empty
  nextId := 2

theorem soapStock_keys : StockKeys soapStock := by
  refine ⟨fun id row hrow => ?_, fun id lot batch hlot => nomatch hlot⟩
  simp only [soapStock, OrderedMap.get?_set] at hrow ⊢
  split at hrow
  · rename_i hid
    rw [hid]
    decide
  · split at hrow
    · rename_i hid
      rw [hid]
      decide
    · cases hrow

/-- The sale of these lines, and its void. -/
def soldFrom (lines : List SaleStockLine) : LotDb × List SaleStockItem :=
  settled (deductSale shelfEnv ⟨0, 0⟩ soapCatalog soapStock lines) (soapStock, [])

def voidedAfter (lines : List SaleStockLine) : LotDb :=
  settled (restoreSale shelfEnv ⟨0, 0⟩ ⟨"S-1", "SALE-1"⟩ "mistake" (soldFrom lines).1
    (soldFrom lines).2) soapStock

/-- A void puts the stock of every product back to where it was exactly when the rows of the
sale name of each product the units that were taken of it. -/
theorem void_restores_stock_iff {env : LotEnv} {saleClock voidClock : Clock}
    {catalog : StockCatalog} {db db' : LotDb} {lines : List SaleStockLine} {sale : SaleHeader}
    {voidReason : String} {sold : LotDb × List SaleStockItem} (hkeys : StockKeys db)
    (hsale : deductSale env saleClock catalog db lines = .ok sold)
    (hvoid : restoreSale env voidClock sale voidReason sold.1 sold.2 = .ok db') :
    (∀ productId, stockOf db' productId = stockOf db productId) ↔
      ∀ productId, storedUnits lines productId =
        takenUnits env saleClock catalog db lines productId := by
  obtain ⟨hkeys', hbase, hall⟩ := deductSale_spec hkeys hsale
  refine forall_congr' fun productId => ?_
  obtain ⟨htaken, hstored⟩ := hall productId
  rw [restoreSale_stockOf hkeys'.drawn hbase hvoid, hstored, htaken, sub_add_eq_add_sub,
    sub_eq_iff_eq_add, add_right_inj]

/-- A box of soap taken from two lots is put back. -/
theorem soapBox_restored : StockKeys soapStock ∧ ∀ productId,
    stockOf (voidedAfter [soapBox]) productId = stockOf soapStock productId := by
  have hsale : deductSale shelfEnv ⟨0, 0⟩ soapCatalog soapStock [soapBox] =
      .ok (soldFrom [soapBox]) := eq_ok_settled (by decide +kernel) _
  have hvoid : restoreSale shelfEnv ⟨0, 0⟩ ⟨"S-1", "SALE-1"⟩ "mistake" (soldFrom [soapBox]).1
      (soldFrom [soapBox]).2 = .ok (voidedAfter [soapBox]) := eq_ok_settled (by decide +kernel) _
  refine ⟨soapStock_keys,
    (void_restores_stock_iff soapStock_keys hsale hvoid).mpr fun productId => ?_⟩
  by_cases hproduct : "soap" = productId
  · subst hproduct
    decide +kernel
  · have hstored : storedUnits [soapBox] productId = 0 := by
      simp [storedUnits, soapBox, hproduct]
    rw [hstored]
    refine (drawnUnits_eq_zero (fun target htarget => ?_) _).symm
    have htargets : [soapBox].flatMap (·.deductTargets soapCatalog) =
        [⟨"soap", "Soap", soapBox.baseQuantity, none⟩] := rfl
    rw [htargets, List.mem_singleton] at htarget
    rw [htarget]
    exact hproduct

/-- A delivery was not in stock before its void. -/
theorem delivery_put_in_stock : ¬ ∀ (env : LotEnv) (saleClock voidClock : Clock)
    (catalog : StockCatalog) (db db' : LotDb) (lines : List SaleStockLine) (sale : SaleHeader)
    (voidReason : String) (sold : LotDb × List SaleStockItem), StockKeys db →
    deductSale env saleClock catalog db lines = .ok sold →
    restoreSale env voidClock sale voidReason sold.1 sold.2 = .ok db' →
    ∀ productId, stockOf db' productId = stockOf db productId := by
  intro h
  have hsame := h shelfEnv ⟨0, 0⟩ ⟨0, 0⟩ soapCatalog soapStock (voidedAfter [deliveryLine])
    [deliveryLine] ⟨"S-1", "SALE-1"⟩ "mistake" (soldFrom [deliveryLine]) soapStock_keys
    (eq_ok_settled (by decide +kernel) (soapStock, []))
    (eq_ok_settled (by decide +kernel) soapStock) "delivery"
  have hafter : stockOf (voidedAfter [deliveryLine]) "delivery" = ⟨10000⟩ := by decide +kernel
  have hbefore : stockOf soapStock "delivery" = 0 := by decide +kernel
  rw [hafter, hbefore] at hsame
  exact absurd hsame (by decide)

end SmartErpPos.Sales
