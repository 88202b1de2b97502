/-
  Costing/CostLayers.lean --- cost layers and the three loops that walk them.

  Sources: `SamplePOS.Server/src/services/costLayerService.ts` (`calculateFIFOCost`,
  `_deductFromCostLayersOnClient`, `updateAverageCost`),
  `modules/inventory/stockMovementHandler.ts` (`consumeCostLayersFIFO`) and
  `shared/sql/001_create_cost_layers.sql`.

  All three select the active layers of a product that hold something, oldest first, and
  draw from one after the other.  A selected row is a pair of its id and its columns.
-/
import Mathlib.Data.List.Sort
import SmartErpPos.Lib.Fallible
import SmartErpPos.Lib.GreedyDraw
import SmartErpPos.Lib.KeyedSum
import SmartErpPos.Lib.Numeric

set_option autoImplicit false

namespace SmartErpPos.Costing

open SmartErpPos.Lib

/-! ## Tables -/

/-- A row of `cost_layers`, filed under its id. -/
structure CostLayer where
  productId : ℕ
  remainingQuantity : Numeric 4
  unitCost : Numeric 2
  receivedDate : ℤ
  createdAt : ℤ
  isActive : Bool
  deriving DecidableEq

/-- `cost_layers`, and `average_cost` of `product_valuation` by product. -/
structure CostBooks where
  layers : OrderedMap ℕ CostLayer
  averageCost : OrderedMap ℕ (Numeric 2)

/-- A selected row. -/
abbrev LayerRow := ℕ × CostLayer

/-- `product_id = $1 AND is_active = TRUE AND remaining_quantity > 0`. -/
def CostLayer.isOpenFor (productId : ℕ) (layer : CostLayer) : Bool :=
  decide (layer.productId = productId) && layer.isActive && decide (0 < layer.remainingQuantity)

/-- `ORDER BY received_date ASC, created_at ASC`. -/
def olderFirst (a b : LayerRow) : Prop :=
  a.2.receivedDate < b.2.receivedDate ∨
    (a.2.receivedDate = b.2.receivedDate ∧ a.2.createdAt ≤ b.2.createdAt)

instance : DecidableRel olderFirst := fun a b =>
  inferInstanceAs (Decidable (a.2.receivedDate < b.2.receivedDate ∨
    (a.2.receivedDate = b.2.receivedDate ∧ a.2.createdAt ≤ b.2.createdAt)))

/-- The layers of the product that the loops walk, in their order. -/
def CostBooks.fifoLayers (books : CostBooks) (productId : ℕ) : List LayerRow :=
  (books.layers.entries.filter fun row => row.2.isOpenFor productId).insertionSort olderFirst

/-- What a selected row still holds. -/
def available (row : LayerRow) : ℚ := row.2.remainingQuantity.toRat

inductive CostError where
  /-- `ERR_COSTLAYER_001`, `Quantity must be positive`. -/
  | quantityNotPositive (quantity : ℚ)
  /-- `ERR_COSTLAYER_003`, `No cost layers found for product`. -/
  | noLayers (productId : ℕ)
  /-- `ERR_COSTLAYER_004`, with the requested quantity and the part that is missing. -/
  | insufficient (productId : ℕ) (requested shortfall : ℚ)
  deriving DecidableEq

/-! ## Reading a cost -/

structure Allocation where
  costLayerId : ℕ
  quantityConsumed : ℚ
  unitCost : ℚ
  totalCost : ℚ
  deriving DecidableEq

structure ActualCostResult where
  totalCost : ℚ
  averageCost : ℚ
  layers : List Allocation
  deriving DecidableEq

/-- What the loop has allocated. -/
structure Allocated where
  totalCost : ℚ
  allocations : List Allocation

/-- Allocate from one layer. -/
def allocate (p : Allocated) (row : LayerRow) (quantityToConsume : ℚ) : Allocated :=
  let unitCost := row.2.unitCost.toRat
  let layerCost := quantityToConsume * unitCost
  { totalCost := p.totalCost + layerCost
    allocations := p.allocations ++ [⟨row.1, quantityToConsume, unitCost, layerCost⟩] }

/-- `calculateFIFOCost`. -/
def calculateFIFOCost (books : CostBooks) (productId : ℕ) (requestedQty : ℚ) :
    Except CostError ActualCostResult := do
  let _ ← require (0 < requestedQty) (.quantityNotPositive requestedQty)
  let layers := books.fifoLayers productId
  let _ ← require (layers ≠ []) (.noLayers productId)
  let (p, remainingToAllocate) := drawFold available allocate layers requestedQty ⟨0, []⟩
  let _ ← require (remainingToAllocate ≤ 0)
    (.insufficient productId requestedQty remainingToAllocate)
  pure ⟨p.totalCost, p.totalCost / requestedQty, p.allocations⟩

/-! ## Taking from the layers -/

/-- `updateAverageCost`: an `UPDATE`, so a product without a valuation row gets none. -/
def updateAverageCost (books : CostBooks) (productId : ℕ) : CostBooks :=
  let rows := books.layers.values.filter fun layer => layer.isOpenFor productId
  let totalQuantity := (rows.map fun layer => layer.remainingQuantity.toRat).sum
  let totalValue := (rows.map fun layer =>
    layer.remainingQuantity.toRat * layer.unitCost.toRat).sum
  let averageCost := if 0 < totalQuantity then totalValue / totalQuantity else 0
  { books with averageCost := books.averageCost.modify productId fun _ => Numeric.ofRat averageCost }

/-- The `UPDATE` of one layer, with what is left of it and what becomes of `is_active`. -/
def writeLayer (isActiveAfter : ℚ → CostLayer → Bool) (layers : OrderedMap ℕ CostLayer)
    (row : LayerRow) (taken : ℚ) : OrderedMap ℕ CostLayer :=
  let newRemaining := available row - taken
  layers.modify row.1 fun layer =>
    { layer with
      remainingQuantity := Numeric.ofRat newRemaining
      isActive := isActiveAfter newRemaining layer }

/-- `is_active = $2` with `newRemaining.gt(0)`. -/
def activeWhileExact (newRemaining : ℚ) (_ : CostLayer) : Bool := decide (0 < newRemaining)

/-- `CASE WHEN $1::numeric <= 0 THEN false ELSE is_active END`, on the stored quantity. -/
def activeWhileStored (newQty : ℚ) (layer : CostLayer) : Bool :=
  if (Numeric.ofRat newQty : Numeric 4) ≤ 0 then false else layer.isActive

/-- `_deductFromCostLayersOnClient`; a failure rolls the caller's transaction back. -/
def deductFromCostLayers (books : CostBooks) (productId : ℕ) (requestedQty : ℚ) :
    Except CostError CostBooks := do
  let (layers, remainingToDeduct) := drawFold available (writeLayer activeWhileExact)
    (books.fifoLayers productId) requestedQty books.layers
  let _ ← require (remainingToDeduct ≤ 0)
    (.insufficient productId requestedQty remainingToDeduct)
  pure (updateAverageCost { books with layers := layers } productId)

/-- What the loop of a stock movement has consumed. -/
structure Consumed where
  layers : OrderedMap ℕ CostLayer
  consumedValue : ℚ

def consumeLayer (p : Consumed) (row : LayerRow) (consume : ℚ) : Consumed where
  layers := writeLayer activeWhileStored p.layers row consume
  consumedValue := p.consumedValue + consume * row.2.unitCost.toRat

/-- `consumeCostLayersFIFO`: a shortage is tolerated.  Returns the consumed value too. -/
def consumeCostLayersFIFO (books : CostBooks) (productId : ℕ) (quantity : ℚ) : CostBooks × ℚ :=
  let (p, _) := drawFold available consumeLayer (books.fifoLayers productId) quantity
    ⟨books.layers, 0⟩
  (updateAverageCost { books with layers := p.layers } productId, p.consumedValue)

end SmartErpPos.Costing
