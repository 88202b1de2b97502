/-
  Sales/CostClosure.lean --- when the rewritten line costs close on the actual cost.

  The costs of a product's lines always add up to its actual cost.  They can be negative,
  where many small shares are rounded up, and the profit is rounded to cents, so it moves
  by the exact difference only where it stood a whole number of cents from the cost.
-/
import SmartErpPos.Sales.CostPlaces

set_option autoImplicit false

namespace SmartErpPos.Sales

open SmartErpPos.Lib

variable {actualBatchCostMap : OrderedMap String ℚ} {items : List ReconcilableSaleLine}

/-! ## The rewritten lines of a product -/

/-- The cost on a line; none counts as 0. -/
def ReconcilableSaleLine.allocated (item : ReconcilableSaleLine) : ℚ :=
  item.allocatedTotalCost.getD 0

/-- Is the line rewritten? -/
def IsReconciled (actualBatchCostMap : OrderedMap String ℚ) (item : ReconcilableSaleLine) : Prop :=
  item.isCustom = false ∧ ∃ actual, actualBatchCostMap.get? item.productId = some actual

theorem previews_eq (items : List ReconcilableSaleLine) (productId : String) :
    (placesOf items productId).map (previewAt items) =
      (linesOf items productId).map glCostForItem := by
  rw [linesOf_eq, List.map_filterMap, ← List.filterMap_eq_map]
  refine List.filterMap_congr fun i hi => ?_
  obtain ⟨item, hget, -⟩ := mem_placesOf.mp hi
  simp only [Function.comp_apply, previewAt, hget, Option.map_some, Option.getD_some]

/-- The plan for a product of the map. -/
def planOf (items : List ReconcilableSaleLine) (actual : ℚ) (productId : String) :
    List ((ℕ × ℚ) × ℚ) :=
  plannedCosts items actual (placesOf items productId)

theorem places_planOf (items : List ReconcilableSaleLine) (actual : ℚ) (productId : String) :
    (planOf items actual productId).map (·.1.1) = placesOf items productId :=
  plannedCosts_places _ _ _

theorem costs_planOf (items : List ReconcilableSaleLine) (actual : ℚ) (productId : String) :
    (planOf items actual productId).map (·.2) =
      plannedActuals actual ((linesOf items productId).map glCostForItem) := by
  unfold planOf
  rw [plannedCosts_eq, List.map_snd_zip, previews_eq]
  rw [length_plannedActuals, List.length_map, List.length_map]

/-- Costs in cents are planned in cents. -/
theorem onGrid_planned {productId : String} {actual : ℚ} (hgrid : OnGrid 2 actual)
    {planned : (ℕ × ℚ) × ℚ} (hplanned : planned ∈ planOf items actual productId) :
    OnGrid 2 planned.2 := by
  have hmem : planned.2 ∈ (planOf items actual productId).map (·.2) :=
    List.mem_map.mpr ⟨planned, hplanned, rfl⟩
  rw [costs_planOf] at hmem
  exact onGrid_plannedActuals hgrid planned.2 hmem

/-- A planned place holds its line with the planned cost. -/
theorem getElem?_reconciled_of_planned {productId : String} {actual : ℚ}
    (hget : actualBatchCostMap.get? productId = some actual) {planned : (ℕ × ℚ) × ℚ}
    (hplanned : planned ∈ planOf items actual productId) :
    (reconciled actualBatchCostMap items)[planned.1.1]? =
      items[planned.1.1]?.map (applyActual planned.1.2 planned.2) := by
  have hplace : planned.1.1 ∈ placesOf items productId := by
    rw [← places_planOf items actual productId]
    exact List.mem_map.mpr ⟨planned, hplanned, rfl⟩
  have honce : ((planOf items actual productId).map (·.1.1)).Nodup := by
    rw [places_planOf]
    exact nodup_placesOf items productId
  rw [getElem?_reconciled_of_mem actualBatchCostMap items hplace]
  unfold reconcileProduct
  rw [hget]
  exact getElem?_write_of_mem _ items honce hplanned

/-- The costs on the lines of a product are the planned ones. -/
theorem allocated_reconciled {productId : String} {actual : ℚ}
    (hget : actualBatchCostMap.get? productId = some actual) (hgrid : OnGrid 2 actual) :
    (linesOf (reconciled actualBatchCostMap items) productId).map (·.allocated) =
      plannedActuals actual ((linesOf items productId).map glCostForItem) := by
  rw [linesOf_eq, placesOf_congr (productIds_reconciled actualBatchCostMap items),
    ← places_planOf items actual, List.filterMap_map, List.map_filterMap, ← costs_planOf,
    ← List.filterMap_eq_map]
  refine List.filterMap_congr fun planned hplanned => ?_
  have hplace : planned.1.1 ∈ placesOf items productId := by
    rw [← places_planOf items actual productId]
    exact List.mem_map.mpr ⟨planned, hplanned, rfl⟩
  obtain ⟨item, hitem, -⟩ := mem_placesOf.mp hplace
  have hcost := onGrid_planned hgrid hplanned
  simp only [Function.comp_apply, getElem?_reconciled_of_planned hget hplanned, hitem,
    Option.map_some, ReconcilableSaleLine.allocated, applyActual, Option.getD_some, hcost.roundTo_eq]

/-- A rewritten line: its product, its cost and its profit. -/
theorem reconciled_line {i : ℕ} {old new : ReconcilableSaleLine} (hold : items[i]? = some old)
    (hnew : (reconciled actualBatchCostMap items)[i]? = some new) {actual : ℚ}
    (hcustom : old.isCustom = false)
    (hget : actualBatchCostMap.get? old.productId = some actual) (hgrid : OnGrid 2 actual) :
    ∃ cost, OnGrid 2 cost ∧ new.allocated = cost ∧
      new.profit = old.profit.map fun profit =>
        roundTo 2 (profit + (glCostForItem old - cost)) := by
  have hplace : i ∈ placesOf items old.productId := by
    refine mem_placesOf.mpr ⟨old, hold, ?_⟩
    unfold ReconcilableSaleLine.isOf
    rw [hcustom]
    simp
  rw [← places_planOf items actual] at hplace
  obtain ⟨planned, hplanned, rfl⟩ := List.mem_map.mp hplace
  have hcost := onGrid_planned hgrid hplanned
  have hpreview : planned.1.2 = glCostForItem old := by
    rw [plannedCosts_preview hplanned]
    unfold previewAt
    rw [hold]
    rfl
  rw [getElem?_reconciled_of_planned hget hplanned, hold, Option.map_some] at hnew
  obtain rfl := Option.some.inj hnew
  refine ⟨planned.2, hcost, hcost.roundTo_eq, ?_⟩
  rw [← hpreview]
  rfl

/-! ## Closing on the actual cost -/

/-- The rewritten lines close: the costs of each product in the map are not negative and add
up to the actual cost, profits move by the change of the cost, other lines stay. -/
structure CostsClose (actualBatchCostMap : OrderedMap String ℚ)
    (items items' : List ReconcilableSaleLine) : Prop where
  length : items'.length = items.length
  nonneg : ∀ productId actual, actualBatchCostMap.get? productId = some actual →
    ∀ line ∈ linesOf items' productId, 0 ≤ line.allocated
  total : ∀ productId actual, actualBatchCostMap.get? productId = some actual →
    ((linesOf items' productId).map (·.allocated)).sum = actual
  profit : ∀ (i : ℕ) (old new : ReconcilableSaleLine), items[i]? = some old →
    items'[i]? = some new → IsReconciled actualBatchCostMap old →
      new.profit = old.profit.map fun profit => profit + (glCostForItem old - new.allocated)
  other : ∀ (i : ℕ) (old : ReconcilableSaleLine), items[i]? = some old →
    ¬ IsReconciled actualBatchCostMap old → items'[i]? = some old

/-- What closing takes. -/
structure ClosesExactly (actualBatchCostMap : OrderedMap String ℚ)
    (items : List ReconcilableSaleLine) : Prop where
  covered : ∀ productId actual, actualBatchCostMap.get? productId = some actual →
    linesOf items productId = [] → actual = 0
  split : ∀ productId actual, actualBatchCostMap.get? productId = some actual →
    CostsSplit actual ((linesOf items productId).map glCostForItem)
  profit : ∀ item ∈ items, IsReconciled actualBatchCostMap item →
    ∀ profit ∈ item.profit, OnGrid 2 (profit + glCostForItem item)

theorem other_lines_stay {i : ℕ} {old : ReconcilableSaleLine} (hold : items[i]? = some old)
    (h : ¬ IsReconciled actualBatchCostMap old) :
    (reconciled actualBatchCostMap items)[i]? = some old := by
  by_cases hplace : i ∈ placesOf items old.productId
  · obtain ⟨item, hitem, hof⟩ := mem_placesOf.mp hplace
    obtain rfl := Option.some.inj (hold.symm.trans hitem)
    rw [getElem?_reconciled_of_mem actualBatchCostMap items hplace]
    unfold reconcileProduct
    cases hget : actualBatchCostMap.get? old.productId with
    | none => exact hold
    | some actual =>
      unfold ReconcilableSaleLine.isOf at hof
      rw [Bool.and_eq_true, Bool.not_eq_true'] at hof
      exact absurd ⟨hof.1, actual, hget⟩ h
  · rw [getElem?_reconciled_of_notMem, hold]
    intro productId hmem
    obtain ⟨item, hitem, hof⟩ := mem_placesOf.mp hmem
    obtain rfl := Option.some.inj (hold.symm.trans hitem)
    have hid : old.productId = productId := by
      unfold ReconcilableSaleLine.isOf at hof
      rw [Bool.and_eq_true, decide_eq_true_eq] at hof
      exact hof.2
    exact hplace (hid ▸ hmem)

/-- An empty list of lines splits anything. -/
theorem costsSplit_nil (actual : ℚ) : CostsSplit actual [] := by
  constructor
  · intro share hshare
    cases hshare
  · intro share hshare
    cases hshare

/-- Two lines of 50.00 and a free one, of one product. -/
def threeLines : List ReconcilableSaleLine :=
  [⟨"p1", "Sugar", 50, 1, some 50, some 10⟩, ⟨"p1", "Sugar", 50, 1, some 50, some 10⟩,
    ⟨"p1", "Sugar", 0, 1, some 0, some 0⟩]

/-- An actual cost for the one product. -/
def actualCost (cost : ℚ) : OrderedMap String ℚ := OrderedMap.empty.set "p1" cost

theorem onGrid_actualCost {cost : ℚ} (h : OnGrid 2 cost) (productId : String) (actual : ℚ)
    (hget : (actualCost cost).get? productId = some actual) : OnGrid 2 actual := by
  unfold actualCost at hget
  rw [OrderedMap.get?_set] at hget
  split at hget
  · obtain rfl := Option.some.inj hget
    exact h
  · cases hget

end SmartErpPos.Sales
