/-
  Sales/SaleStock.lean --- what a sale takes from stock and what a void puts back.

  Sources: `createSale` (deduction) and `voidSale` (restoration) of
  `modules/sales/salesService.ts`, `planSaleStockDeduction` of
  `shared/utils/productTypeRules.ts`, `explodeActiveRecipe` of `saleRecipeExplosion.ts`,
  `deductAtStore` of `warehouseSaleDeductionService.ts`, `restoreVoidedSaleLine` of
  `warehouseSaleVoidRestoreService.ts` and `reconcileSaleCostsToActualBatchDeduction` of
  `utils/cogsDriftGuard.ts`.

  The sale decides line by line what to take, from product types and recipes.  The void
  sees the rows of `sale_items` only.
-/
import SmartErpPos.Lib.RoundedRat
import SmartErpPos.Lot.Wiring

set_option autoImplicit false

namespace SmartErpPos.Sales

open SmartErpPos.Lib SmartErpPos.Lot

/-! ## The catalogue -/

inductive CatalogProductType where
  | inventory
  | consumable
  | service
  deriving DecidableEq

inductive CostingMethod where
  | FIFO
  | AVCO
  | STANDARD
  deriving DecidableEq

/-- A row of `product_recipe_lines`. -/
structure RecipeLine where
  componentProductId : String
  componentName : String
  quantityBase : ℚ
  quantityBase_pos : 0 < quantityBase

/-- What the sale reads of the products. -/
structure StockCatalog where
  productType : String → CatalogProductType
  /-- The lines of the active recipe that is consumed at sale, in their order. -/
  recipe : String → List RecipeLine
  minDaysBeforeExpirySale : String → ℤ
  costingMethod : String → CostingMethod

/-- How the sale handles the stock of a line. -/
inductive SaleStockDeductionPlan where
  | skip
  | parent
  | ingredients
  deriving DecidableEq

def planSaleStockDeduction (parentProductType : CatalogProductType) (recipeExplodesAtSale : Bool) :
    SaleStockDeductionPlan :=
  if parentProductType = .service ∧ recipeExplodesAtSale = false then .skip
  else if recipeExplodesAtSale then .ingredients
  else .parent

/-- A line of the sale; a custom item has no product.  The conversion factor is that of the
selling unit, at least one. -/
structure SaleStockLine where
  productId : Option String
  productName : String
  quantity : ℚ
  conversionFactor : ℚ
  /-- The cost the sale was previewed with. -/
  allocatedTotalCost : ℚ
  quantity_pos : 0 < quantity
  one_le_factor : 1 ≤ conversionFactor

/-- `resolveSaleItemUom`: the quantity in base units. -/
def SaleStockLine.baseQuantity (line : SaleStockLine) : ℚ := line.quantity * line.conversionFactor

/-- A quantity of a product to take. -/
structure DeductTarget where
  productId : String
  productName : String
  baseQty : ℚ
  /-- The dish, for an ingredient. -/
  recipeOf : Option String

/-- `explodeActiveRecipe`; `none` without a recipe. -/
def explodeActiveRecipe (catalog : StockCatalog) (line : SaleStockLine) (productId : String) :
    Option (List DeductTarget) :=
  match catalog.recipe productId with
  | [] => none
  | recipe => some (recipe.map fun component =>
      ⟨component.componentProductId, component.componentName,
        line.baseQuantity * component.quantityBase, some line.productName⟩)

def SaleStockLine.plan (catalog : StockCatalog) (line : SaleStockLine) (productId : String) :
    SaleStockDeductionPlan :=
  planSaleStockDeduction (catalog.productType productId)
    (explodeActiveRecipe catalog line productId).isSome

/-- What a line takes. -/
def SaleStockLine.deductTargets (catalog : StockCatalog) (line : SaleStockLine) :
    List DeductTarget :=
  match line.productId with
  | none => []
  | some productId =>
    match line.plan catalog productId with
    | .skip => []
    | .ingredients => (explodeActiveRecipe catalog line productId).getD []
    | .parent => [⟨productId, line.productName, line.baseQuantity, none⟩]

/-! ## Taking -/

/-- The call of `lotService.consumeLot`. -/
def DeductTarget.consumeInput (target : DeductTarget) (catalog : StockCatalog)
    (store : Option StoreId) : LotConsumeInput where
  productId := target.productId
  quantity := target.baseQty
  storeLocationId := store
  specificLotId := none
  selectionPolicy := some .FEFO
  minDaysBeforeExpiry := some (catalog.minDaysBeforeExpirySale target.productId)
  productName := some target.productName
  deductAcrossAllStoreBalances := none
  skipStoreBalanceDeduction := none
  allowDisposalStatuses := none

/-- The lots offered for a target. -/
def DeductTarget.selectableLots (env : LotEnv) (clock : Clock) (catalog : StockCatalog)
    (store : Option StoreId) (db : LotDb) (target : DeductTarget) : List SelectableLot :=
  let options : LoadSelectableLotsOptions :=
    ⟨catalog.minDaysBeforeExpirySale target.productId, none, false⟩
  match store with
  | some storeLocationId =>
    loadStoreSelectableLots env clock db target.productId storeLocationId options
  | none => loadGlobalSelectableLots env clock db target.productId options

/-- The selection the sale looks at before it consumes. -/
def DeductTarget.consumptionPlan (env : LotEnv) (clock : Clock) (catalog : StockCatalog)
    (store : Option StoreId) (db : LotDb) (target : DeductTarget) : LotSelectionResult :=
  selectLots env.localeLe
    { policy := .FEFO
      lots := target.selectableLots env clock catalog store db
      quantity := target.baseQty
      businessDate := clock.businessDate
      minDaysBeforeExpirySale := catalog.minDaysBeforeExpirySale target.productId
      specificLotId := none }

/-- The text of the refusal, at a store and without one. -/
def DeductTarget.notEnough (target : DeductTarget) (store : Option StoreId)
    (plan : LotSelectionResult) : String :=
  match store with
  | some _ =>
    "Not enough stock for \"" ++ target.productName ++ "\" at the selected store. Requested: " ++
      fixedText 2 target.baseQty ++ ", Available: " ++ fixedText 2 plan.totalAllocated ++ "."
  | none =>
    "Not enough stock for \"" ++ target.productName ++ "\"" ++
      (match target.recipeOf with
        | some dish => " (recipe ingredient for \"" ++ dish ++ "\")"
        | none => "") ++
      ". Requested: " ++ fixedText 2 target.baseQty ++ ", Available: " ++
      fixedText 2 plan.totalAllocated ++ ", Short by: " ++ fixedText 2 plan.shortfall ++ "."

/-- Take one target. -/
def DeductTarget.consume (env : LotEnv) (clock : Clock) (catalog : StockCatalog)
    (store : Option StoreId) (db : LotDb) (target : DeductTarget) :
    Except LotError (LotDb × LotConsumeResult) := do
  let plan := target.consumptionPlan env clock catalog store db
  require (plan.shortfall ≤ 1 / 1000) (.failure (target.notEnough store plan))
  consumeLot env clock db (target.consumeInput catalog store)

/-- Where a line was taken from. -/
structure WarehouseTrace where
  storeLocationId : Option StoreId
  productLotId : Option ProductLotId
  batchId : Option BatchId
  deriving DecidableEq

/-- The trace of one target: its first lot. -/
def traceOf (store : Option StoreId) (result : LotConsumeResult) : Option WarehouseTrace :=
  match store with
  | some storeLocationId =>
    let primary := result.layers.find? fun layer => layer.productLotId.isSome
    some ⟨some storeLocationId, primary.bind (·.productLotId), primary.map (·.lotId)⟩
  | none => result.layers.head?.map fun layer => ⟨none, none, some layer.lotId⟩

/-- The stock, the trace of the line and its cost so far. -/
structure LineDeduction where
  trace : Option WarehouseTrace
  lineActualCost : ℚ

def deductTarget (env : LotEnv) (clock : Clock) (catalog : StockCatalog) (store : Option StoreId)
    (acc : LotDb × LineDeduction) (target : DeductTarget) :
    Except LotError (LotDb × LineDeduction) := do
  let consumed ← target.consume env clock catalog store acc.1
  pure (consumed.1, ⟨acc.2.trace.or (traceOf store consumed.2),
    acc.2.lineActualCost + consumed.2.totalCost⟩)

/-- One line of the deduction loop. -/
def deductLine (env : LotEnv) (clock : Clock) (catalog : StockCatalog) (store : Option StoreId)
    (db : LotDb) (line : SaleStockLine) : Except LotError (LotDb × LineDeduction) :=
  (line.deductTargets catalog).foldlM (deductTarget env clock catalog store) (db, ⟨none, 0⟩)

/-- The deduction loop. -/
def deductLines (env : LotEnv) (clock : Clock) (catalog : StockCatalog) (store : Option StoreId) :
    LotDb → List SaleStockLine → Except LotError (LotDb × List LineDeduction)
  | db, [] => pure (db, [])
  | db, line :: rest => do
    let first ← deductLine env clock catalog store db line
    let tail ← deductLines env clock catalog store first.1 rest
    pure (tail.1, first.2 :: tail.2)

/-! ## Costs of the lines -/

/-- The shares of the actual cost of a product on its lines: the last line takes the rest. -/
def spreadActualCost (actualTotal previewSum : ℚ) (count : ℕ) : List ℚ → ℚ → List ℚ
  | [], _ => []
  | [_], allocated => [actualTotal - allocated]
  | part :: rest, allocated =>
    let lineActual :=
      if 0 < previewSum then roundTo 2 (actualTotal * (part / previewSum))
      else roundTo 2 (actualTotal / count)
    lineActual :: spreadActualCost actualTotal previewSum count rest (allocated + lineActual)

/-- The lines with what was taken for them. -/
abbrev DeductedLine := SaleStockLine × LineDeduction

/-- `actualBatchCostMap`: what was taken for the lines of a product, if it was not skipped. -/
def actualBatchCost (catalog : StockCatalog) (lines : List DeductedLine) (productId : String) :
    Option ℚ :=
  let taken := lines.filter fun e =>
    decide (e.1.productId = some productId) && decide (e.1.plan catalog productId ≠ .skip)
  if taken.isEmpty then none else some (taken.map (·.2.lineActualCost)).sum

/-- `reconcileSaleCostsToActualBatchDeduction`: the cost per selling unit of the line with
this number. -/
def reconciledUnitCost (catalog : StockCatalog) (lines : List DeductedLine) (index : ℕ)
    (line : SaleStockLine) : ℚ :=
  match line.productId with
  | none => 0
  | some productId =>
    match actualBatchCost catalog lines productId with
    | none => roundTo 2 (line.allocatedTotalCost / line.quantity)
    | some actualTotal =>
      let onProduct := fun e : DeductedLine => decide (e.1.productId = some productId)
      let parts := (lines.filter onProduct).map (·.1.allocatedTotalCost)
      let position := ((lines.take index).filter onProduct).length
      let shares := spreadActualCost actualTotal parts.sum parts.length parts 0
      roundTo 2 (shares.getD position 0 / line.quantity)

/-! ## The rows of the sale -/

/-- What stock is told by a row of `sale_items`. -/
structure SaleStockItem where
  productId : Option String
  quantity : Quantity
  baseQty : Option Quantity
  conversionFactor : Numeric 6
  unitCost : Cost
  storeLocationId : Option StoreId
  productLotId : Option ProductLotId
  batchId : Option BatchId
  deriving DecidableEq

/-- The row of a line: `addSaleItems`, the reconciled cost and `updateSaleItemWarehouseTrace`. -/
def SaleStockLine.stockItem (line : SaleStockLine) (unitCost : ℚ) (trace : Option WarehouseTrace) :
    SaleStockItem where
  productId := line.productId
  quantity := .ofRat line.quantity
  baseQty := line.productId.map fun _ => .ofRat line.baseQuantity
  conversionFactor := if line.productId.isSome then .ofRat line.conversionFactor else .ofRat 1
  unitCost := .ofRat unitCost
  storeLocationId := trace.bind (·.storeLocationId)
  productLotId := trace.bind (·.productLotId)
  batchId := trace.bind (·.batchId)

/-- The store a sale takes from. -/
def resolveSellingStoreId (env : LotEnv) (db : LotDb) : Except LotError (Option StoreId) :=
  if env.multistore then do
    let store ← orThrow (getActivePosSellingStore env db) (.failure
      ("Multistore POS/restaurant requires an active shop store (store_type=SELLING). " ++
        "MAIN warehouse cannot sell."))
    pure (some store.1)
  else pure none

/-- The stock part of `createSale`: the stock it leaves and the rows it writes. -/
def deductSale (env : LotEnv) (clock : Clock) (catalog : StockCatalog) (db : LotDb)
    (lines : List SaleStockLine) : Except LotError (LotDb × List SaleStockItem) := do
  let store ← resolveSellingStoreId env db
  let deducted ← deductLines env clock catalog store db lines
  let rows := lines.zip deducted.2
  pure (deducted.1, rows.mapIdx fun index row =>
    row.1.stockItem (reconciledUnitCost catalog rows index row.1) row.2.trace)

/-! ## Putting back -/

/-- The sale a void or a refund is about. -/
structure SaleHeader where
  saleId : String
  saleNumber : String

/-- The base quantity a void puts back. -/
def SaleStockItem.voidQuantity (item : SaleStockItem) : ℚ :=
  match item.baseQty with
  | some baseQty => baseQty.toRat
  | none => item.quantity.toRat * item.conversionFactor.toRat

/-- The call of `returnLot` for a whole line. -/
def SaleStockItem.voidInput (item : SaleStockItem) (sale : SaleHeader) (productId : String) :
    LotReturnInput where
  productId := productId
  lotNumber := some ("VOID-RESTORE-" ++ sale.saleNumber)
  batchId := item.batchId
  quantity := item.voidQuantity
  expiryDate := none
  costPrice := item.unitCost.toRat
  targetStoreLocationId := none
  referenceId := sale.saleId
  notes := some ("Restored from voided sale " ++ sale.saleNumber)

/-- `restoreVoidedSaleLine`: back to the store and lot of the trace; `none` where it leaves
the line to the caller. -/
def restoreVoidedSaleLine (env : LotEnv) (clock : Clock) (db : LotDb) (sale : SaleHeader)
    (voidReason : String) (productId : String) (item : SaleStockItem) :
    Except LotError (Option LotDb) :=
  let store := item.storeLocationId.or ((getActivePosSellingStore env db).map (·.1))
  match env.multistore, store, item.productLotId.bind db.productLots.get? with
  | true, some storeLocationId, some productLot =>
    if productLot.productId ≠ productId then pure none
    else if item.voidQuantity ≤ 0 then pure (some db)
    else do
      let returned ← returnLot env clock db
        { productId := productId
          lotNumber := none
          batchId := item.batchId.or (some productLot.inventoryBatchId)
          quantity := item.voidQuantity
          expiryDate := none
          costPrice := item.unitCost.toRat
          targetStoreLocationId := some storeLocationId
          referenceId := sale.saleId
          notes := some ("Void sale " ++ sale.saleNumber ++ ": " ++ voidReason) }
      pure (some returned.1)
  | _, _, _ => pure none

/-- One line of the restoration loop; items without a product are not among its rows. -/
def restoreItem (env : LotEnv) (clock : Clock) (sale : SaleHeader) (voidReason : String)
    (db : LotDb) (item : SaleStockItem) : Except LotError LotDb :=
  match item.productId with
  | none => pure db
  | some productId => do
    let restored ← restoreVoidedSaleLine env clock db sale voidReason productId item
    match restored with
    | some db => pure db
    | none =>
      let returned ← returnLot env clock db (item.voidInput sale productId)
      pure returned.1

/-- The stock part of `voidSale`. -/
def restoreSale (env : LotEnv) (clock : Clock) (sale : SaleHeader) (voidReason : String)
    (db : LotDb) (items : List SaleStockItem) : Except LotError LotDb :=
  items.foldlM (restoreItem env clock sale voidReason) db

end SmartErpPos.Sales
