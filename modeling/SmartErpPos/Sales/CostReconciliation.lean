/-
  Sales/CostReconciliation.lean --- the lines' costs rewritten from what was taken from stock.

  Source: `src/utils/cogsDriftGuard.ts` (`glCostForItem`, `detectCogsDrift`,
  `reconcileSaleCostsToActualBatchDeduction`).

  The actual cost of a product is spread over its lines in proportion to their preview
  costs, each share rounded to cents; the last line gets what is left.  The lines of a
  product are remembered by their places in the sale, and rewritten there.

  Quotients are exact rationals.
-/
import SmartErpPos.Lib.DecimalText
import SmartErpPos.Lib.JsText
import SmartErpPos.Lib.OrderedMap
import SmartErpPos.Lib.RoundedRat

set_option autoImplicit false

namespace SmartErpPos.Sales

open SmartErpPos.Lib

/-! ## Preview costs -/

structure ReconcilableSaleLine where
  productId : String
  productName : String
  costPrice : ℚ
  quantity : ℚ
  allocatedTotalCost : Option ℚ
  profit : Option ℚ
  deriving DecidableEq

def ReconcilableSaleLine.isCustom (item : ReconcilableSaleLine) : Bool :=
  jsStartsWith "custom_" item.productId

/-- `glCostForItem`. -/
def glCostForItem (item : ReconcilableSaleLine) : ℚ :=
  match item.allocatedTotalCost with
  | some cost => cost
  | none => item.costPrice * item.quantity

def COGS_DRIFT_TOLERANCE : ℚ := 1

structure CogsDriftResult where
  productId : String
  productName : String
  glCost : String
  actualBatchCost : String
  drift : String
  message : String
  deriving DecidableEq

/-- The preview cost of each product, with the name on its first line. -/
def glByProduct (items : List ReconcilableSaleLine) : OrderedMap String (ℚ × String) :=
  items.foldl (fun m item =>
    if item.isCustom then m
    else
      match m.get? item.productId with
      | some (total, productName) =>
        m.set item.productId (total + glCostForItem item, productName)
      | none => m.set item.productId (glCostForItem item, item.productName)) .empty

/-- `detectCogsDrift`. -/
def detectCogsDrift (items : List ReconcilableSaleLine) (actualBatchCostMap : OrderedMap String ℚ) :
    List CogsDriftResult :=
  (glByProduct items).entries.filterMap fun (productId, glCost, productName) =>
    match actualBatchCostMap.get? productId with
    | none => none
    | some actualCost =>
      let drift := actualCost - glCost
      if COGS_DRIFT_TOLERANCE < |drift| then
        some
          { productId := productId
            productName := productName
            glCost := fixedText 2 glCost
            actualBatchCost := fixedText 2 actualCost
            drift := fixedText 2 drift
            message := "ACCOUNTING ALERT: Inventory cost mismatch for \"" ++ productName ++
              "\" — GL posted " ++ fixedText 2 glCost ++ " but actual batch deduction was " ++
              fixedText 2 actualCost ++ " (drift: " ++ fixedText 2 drift ++
              "). Run an inventory integrity check." }
      else none

/-! ## Rewriting the lines -/

/-- The places of each product's lines; custom lines have none. -/
def indicesByProduct (items : List ReconcilableSaleLine) : OrderedMap String (List ℕ) :=
  items.zipIdx.foldl (fun m (item, index) =>
    if item.isCustom then m
    else m.set item.productId ((m.get? item.productId).getD [] ++ [index])) .empty

/-- The share of a line before the last. -/
def roundedShare (actualTotal previewSum : ℚ) (count : ℕ) (part : ℚ) : ℚ :=
  if 0 < previewSum then roundTo 2 (actualTotal * (part / previewSum))
  else roundTo 2 (actualTotal / count)

/-- The actual cost of each line, from the lines' preview costs. -/
def lineActuals (actualTotal previewSum : ℚ) (count : ℕ) : List ℚ → ℚ → List ℚ
  | [], _ => []
  | [_], allocated => [actualTotal - allocated]
  | part :: next :: rest, allocated =>
    let lineActual := roundedShare actualTotal previewSum count part
    lineActual :: lineActuals actualTotal previewSum count (next :: rest) (allocated + lineActual)

/-- What the loop writes to a line. -/
def applyActual (previewLine lineActual : ℚ) (item : ReconcilableSaleLine) : ReconcilableSaleLine :=
  let costDelta := previewLine - lineActual
  { item with
    allocatedTotalCost := some (roundTo 2 lineActual)
    costPrice := if 0 < item.quantity then roundTo 2 (lineActual / item.quantity) else 0
    profit := item.profit.map fun profit => roundTo 2 (profit + costDelta) }

/-- The preview cost of the line at a place. -/
def previewAt (items : List ReconcilableSaleLine) (index : ℕ) : ℚ :=
  (items[index]?.map glCostForItem).getD 0

/-- Each place of a product with its preview cost and its actual cost. -/
def plannedCosts (items : List ReconcilableSaleLine) (actualTotal : ℚ) (indices : List ℕ) :
    List ((ℕ × ℚ) × ℚ) :=
  let previewParts := indices.map (previewAt items)
  (indices.zip previewParts).zip
    (lineActuals actualTotal previewParts.sum indices.length previewParts 0)

def writeCost (items : List ReconcilableSaleLine) (planned : (ℕ × ℚ) × ℚ) :
    List ReconcilableSaleLine :=
  items.modify planned.1.1 (applyActual planned.1.2 planned.2)

/-- The body of the loop over the products. -/
def reconcileProduct (actualBatchCostMap : OrderedMap String ℚ) (items : List ReconcilableSaleLine)
    (product : String × List ℕ) : List ReconcilableSaleLine :=
  match actualBatchCostMap.get? product.1 with
  | none => items
  | some actualTotal => (plannedCosts items actualTotal product.2).foldl writeCost items

structure ReconcileSaleCostsResult where
  items : List ReconcilableSaleLine
  previewDrifts : List CogsDriftResult
  totalActualCost : ℚ
  deriving DecidableEq

/-- `reconcileSaleCostsToActualBatchDeduction`; the rewritten lines are part of the result. -/
def reconcileSaleCostsToActualBatchDeduction (items : List ReconcilableSaleLine)
    (actualBatchCostMap : OrderedMap String ℚ) : ReconcileSaleCostsResult :=
  let reconciled := (indicesByProduct items).entries.foldl (reconcileProduct actualBatchCostMap) items
  { items := reconciled
    previewDrifts := detectCogsDrift items actualBatchCostMap
    totalActualCost := ((reconciled.filter fun item => !item.isCustom).map glCostForItem).sum }

end SmartErpPos.Sales
