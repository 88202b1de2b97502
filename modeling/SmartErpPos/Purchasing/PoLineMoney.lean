/-
  Purchasing/PoLineMoney.lean --- unit cost and total of a purchase order line.

  Source: `src/shared/utils/po-line-uom.ts` (`poLineTotal`, `isPoLineMoneyConsistent`,
  `hydratePoLineMoney`, `resolveUnitCostForLineTotal`, `syncPoLineFromEnteredTotal`,
  `finalizePoLineForSave`, `formatPoUnitCost`) and `PricingEngine.calculateLineTotal` of
  `src/shared/utils/pricingEngine.ts`.

  The total a buyer enters is kept; the unit cost gets as few decimals as give that total,
  at most six.  For large quantities six decimals may not do, and the unit cost is then the
  closest at six.

  Of a text the model keeps what the functions read off it: whether it is blank, a mark
  without digits, or a number, with or without a decimal point.
-/
import Mathlib.Logic.Function.Iterate
import SmartErpPos.Lib.Fallible
import SmartErpPos.Lib.RoundedRat

set_option autoImplicit false

namespace SmartErpPos.Purchasing

open SmartErpPos.Lib

def PO_UNIT_COST_MIN_DP : ℕ := 2

def PO_UNIT_COST_MAX_DP : ℕ := 6

/-! ## Texts -/

/-- A trimmed text of an amount field; `mark` is a lone `.` or `-`. -/
inductive AmountText where
  | blank
  | mark
  | number (value : ℚ) (point : Bool)
  deriving DecidableEq

/-- `toFixed` with a decimal point. -/
def fixedAmount (value : ℚ) : AmountText := .number value true

def zeroAmount : AmountText := fixedAmount 0

structure PoLineMoney where
  unitCost : AmountText
  lineTotal : AmountText
  deriving DecidableEq

/-- What `new Decimal` throws on a text without digits. -/
def invalidDecimal : String := "[DecimalError] Invalid argument"

/-! ## Totals and unit costs -/

/-- `PricingEngine.calculateLineTotal`. -/
def calculateLineTotal (quantity unitCost : ℚ) : ℚ := roundTo 4 (quantity * unitCost)

/-- `poLineTotal`. -/
def poLineTotal (quantity unitCost : ℚ) : ℚ := roundTo 2 (calculateLineTotal quantity unitCost)

/-- `formatPoUnitCost`. -/
def formatPoUnitCost (unitCost : ℚ) : AmountText :=
  if unitCost < 0 then zeroAmount else fixedAmount (roundTo PO_UNIT_COST_MIN_DP unitCost)

/-- `isPoLineMoneyConsistent`, with its default tolerance. -/
def isPoLineMoneyConsistent (quantity : ℚ) (unitCost : AmountText) (lineTotal : ℚ) :
    Except String Bool :=
  match unitCost with
  | .number unit _ => .ok (decide (|poLineTotal quantity unit - lineTotal| ≤ 5 / 1000))
  | _ => .error invalidDecimal

/-- The decimals tried for a unit cost. -/
def unitCostDecimals : List ℕ :=
  List.range' PO_UNIT_COST_MIN_DP (PO_UNIT_COST_MAX_DP + 1 - PO_UNIT_COST_MIN_DP)

/-- `resolveUnitCostForLineTotal`. -/
def resolveUnitCostForLineTotal (quantity lineTotal : ℚ) : ℚ :=
  let target := roundTo 2 lineTotal
  if quantity ≤ 0 then 0
  else
    let exact := target / quantity
    let dp := unitCostDecimals.find? fun dp =>
      decide (poLineTotal quantity (roundTo dp exact) = target)
    roundTo (dp.getD PO_UNIT_COST_MAX_DP) exact

/-- `syncPoLineFromEnteredTotal`. -/
def syncPoLineFromEnteredTotal (quantity : ℚ) (enteredLineTotal : AmountText) : PoLineMoney :=
  if quantity ≤ 0 then ⟨zeroAmount, zeroAmount⟩
  else
    match enteredLineTotal with
    | .number entered _ =>
      if entered < 0 then ⟨zeroAmount, enteredLineTotal⟩
      else
        let lineTotal := roundTo 2 entered
        ⟨fixedAmount (resolveUnitCostForLineTotal quantity lineTotal), fixedAmount lineTotal⟩
    | _ => ⟨zeroAmount, enteredLineTotal⟩

/-! ## Editing and saving -/

/-- The stored total leads: `keep` is the unit cost text where it is consistent with it. -/
def fromTotal (quantity : ℚ) (unitCost keep : AmountText) (total : ℚ) :
    Except String PoLineMoney := do
  let target := roundTo 2 total
  let consistent ←
    if unitCost = .blank then pure false else isPoLineMoneyConsistent quantity unitCost target
  if consistent then pure ⟨keep, fixedAmount target⟩
  else pure (syncPoLineFromEnteredTotal quantity (fixedAmount target))

/-- `hydratePoLineMoney`. -/
def hydratePoLineMoney (quantity : ℚ) (unitCost : AmountText) (storedLineTotal : Option AmountText) :
    Except String PoLineMoney :=
  let unitLed : PoLineMoney :=
    match unitCost with
    | .number unit _ => ⟨unitCost, fixedAmount (poLineTotal quantity unit)⟩
    | _ => ⟨zeroAmount, zeroAmount⟩
  if quantity ≤ 0 then .ok ⟨zeroAmount, zeroAmount⟩
  else
    match storedLineTotal.getD .blank with
    | .blank => .ok unitLed
    | .mark => .error invalidDecimal
    | .number stored _ =>
      if 0 ≤ stored then fromTotal quantity unitCost unitCost stored else .ok unitLed

/-- A unit cost text with its decimals, as it is saved. -/
def savedUnitCost (unitCost : AmountText) : AmountText :=
  match unitCost with
  | .number unit point => if point then unitCost else formatPoUnitCost unit
  | _ => unitCost

/-- `finalizePoLineForSave`. -/
def finalizePoLineForSave (quantity : ℚ) (unitCost : AmountText) (lineTotal : Option AmountText) :
    Except String PoLineMoney :=
  let unitLed : Except String PoLineMoney :=
    match unitCost with
    | .mark => .error invalidDecimal
    | .blank => .ok ⟨formatPoUnitCost 0, fixedAmount (poLineTotal quantity 0)⟩
    | .number unit _ =>
      let unit2 := if unit < 0 then 0 else roundTo PO_UNIT_COST_MIN_DP unit
      .ok ⟨formatPoUnitCost unit, fixedAmount (poLineTotal quantity unit2)⟩
  if quantity ≤ 0 then .ok ⟨zeroAmount, zeroAmount⟩
  else
    match lineTotal.getD .blank with
    | .blank => unitLed
    | .mark => .error invalidDecimal
    | .number line _ =>
      if 0 ≤ line then fromTotal quantity unitCost (savedUnitCost unitCost) line else unitLed

/-- Saving a line and opening it again. -/
def saveAndEdit (quantity : ℚ) (line : PoLineMoney) : Except String PoLineMoney := do
  let saved ← finalizePoLineForSave quantity line.unitCost (some line.lineTotal)
  hydratePoLineMoney quantity saved.unitCost (some saved.lineTotal)

/-! ## The unit cost of a total -/

/-- A number closer to a grid point than half a unit is rounded to it. -/
theorem roundTo_eq_of_close {scale : ℕ} {x t : ℚ} (ht : OnGrid scale t)
    (h : |x - t| < 1 / 2 / 10 ^ scale) : roundTo scale x = t := by
  have hpow : (0 : ℚ) < 10 ^ scale := by positivity
  have hround := abs_roundTo_sub_le scale x
  have hclose : |roundTo scale x - t| < 1 / 10 ^ scale := by
    calc |roundTo scale x - t| ≤ |roundTo scale x - x| + |x - t| := abs_sub_le _ _ _
      _ < 1 / 2 / 10 ^ scale + 1 / 2 / 10 ^ scale := by linarith
      _ = 1 / 10 ^ scale := by ring
  exact sub_eq_zero.mp (((onGrid_roundTo x).sub ht).eq_zero_of_abs_lt hclose)

/-- What the unit cost of a total is: as few decimals as give the total, else six. -/
structure UnitCostFor (quantity total unit : ℚ) : Prop where
  fewest : ∀ dp, 2 ≤ dp → dp ≤ 6 → poLineTotal quantity (roundTo dp (total / quantity)) = total →
    poLineTotal quantity unit = total ∧ ∃ d, 2 ≤ d ∧ d ≤ dp ∧ unit = roundTo d (total / quantity)
  otherwise : (∀ dp, 2 ≤ dp → dp ≤ 6 →
    poLineTotal quantity (roundTo dp (total / quantity)) ≠ total) →
      unit = roundTo 6 (total / quantity)
  small : quantity < 9900 → poLineTotal quantity unit = total

/-- Below 9900 pieces six decimals always give the total. -/
theorem poLineTotal_six {quantity total : ℚ} (hquantity : 0 < quantity) (hsmall : quantity < 9900)
    (htotal : OnGrid 2 total) :
    poLineTotal quantity (roundTo 6 (total / quantity)) = total := by
  have hunit := abs_roundTo_sub_le 6 (total / quantity)
  have hproduct : |quantity * roundTo 6 (total / quantity) - total| < 99 / 20000 := by
    have hscaled : quantity * roundTo 6 (total / quantity) - total =
        quantity * (roundTo 6 (total / quantity) - total / quantity) := by
      rw [mul_sub, mul_div_cancel₀ _ hquantity.ne']
    rw [hscaled, abs_mul, abs_of_pos hquantity]
    calc quantity * |roundTo 6 (total / quantity) - total / quantity|
        ≤ quantity * (1 / 2 / 10 ^ 6) := mul_le_mul_of_nonneg_left hunit hquantity.le
      _ < 9900 * (1 / 2 / 10 ^ 6) := by linarith
      _ = 99 / 20000 := by norm_num
  have hfour := abs_roundTo_sub_le 4 (quantity * roundTo 6 (total / quantity))
  refine roundTo_eq_of_close htotal ?_
  unfold calculateLineTotal
  calc |roundTo 4 (quantity * roundTo 6 (total / quantity)) - total|
      ≤ |roundTo 4 (quantity * roundTo 6 (total / quantity)) -
          quantity * roundTo 6 (total / quantity)| +
        |quantity * roundTo 6 (total / quantity) - total| := abs_sub_le _ _ _
    _ < 1 / 2 / 10 ^ 4 + 99 / 20000 := by linarith
    _ = 1 / 2 / 10 ^ 2 := by norm_num

theorem mem_unitCostDecimals {dp : ℕ} : dp ∈ unitCostDecimals ↔ 2 ≤ dp ∧ dp ≤ 6 := by
  unfold unitCostDecimals PO_UNIT_COST_MIN_DP PO_UNIT_COST_MAX_DP
  rw [List.mem_range'_1]
  omega

/-- The search returns such a unit cost. -/
theorem resolveUnitCost_spec {quantity total : ℚ} (hquantity : 0 < quantity)
    (htotal : OnGrid 2 total) :
    UnitCostFor quantity total (resolveUnitCostForLineTotal quantity total) := by
  unfold resolveUnitCostForLineTotal
  dsimp only
  rw [htotal.roundTo_eq, if_neg (not_le.mpr hquantity)]
  cases hfind : unitCostDecimals.find? fun dp =>
      decide (poLineTotal quantity (roundTo dp (total / quantity)) = total) with
  | none =>
    have hnone : ∀ dp, 2 ≤ dp → dp ≤ 6 →
        poLineTotal quantity (roundTo dp (total / quantity)) ≠ total := by
      intro dp hlow hhigh heq
      have hdp := List.find?_eq_none.mp hfind dp (mem_unitCostDecimals.mpr ⟨hlow, hhigh⟩)
      exact hdp (decide_eq_true heq)
    refine ⟨fun dp hlow hhigh heq => absurd heq (hnone dp hlow hhigh), fun _ => rfl, fun hsmall => ?_⟩
    exact poLineTotal_six hquantity hsmall htotal
  | some d =>
    obtain ⟨hd, before, after, hlist, hbefore⟩ := List.find?_eq_some_iff_append.mp hfind
    have hmatch : poLineTotal quantity (roundTo d (total / quantity)) = total :=
      of_decide_eq_true hd
    have hmem := mem_unitCostDecimals.mp (List.mem_of_find?_eq_some hfind)
    refine ⟨fun dp hlow hhigh heq => ⟨hmatch, d, hmem.1, ?_, rfl⟩, fun hnone => ?_, fun _ => hmatch⟩
    · have hsorted : unitCostDecimals.Pairwise (· < ·) := List.pairwise_lt_range'
      have hdp := mem_unitCostDecimals.mpr ⟨hlow, hhigh⟩
      rw [hlist] at hdp hsorted
      rcases List.mem_append.mp hdp with hearlier | hlater
      · have hnot := hbefore dp hearlier
        rw [decide_eq_true heq] at hnot
        cases hnot
      · rcases List.mem_cons.mp hlater with rfl | hafter
        · exact le_rfl
        · exact (List.rel_of_pairwise_cons (List.pairwise_append.mp hsorted).2.1 hafter).le
    · exact absurd hmatch (hnone d hmem.1 hmem.2)

/-! ## Saving and editing again -/

/-- A total and the unit cost found for it. -/
def syncedLine (quantity total : ℚ) : PoLineMoney :=
  ⟨fixedAmount (resolveUnitCostForLineTotal quantity total), fixedAmount total⟩

section Stable

variable {quantity total : ℚ} (hquantity : 0 < quantity) (htotal : OnGrid 2 total)
  (hnonneg : 0 ≤ total)

include hquantity htotal hnonneg

theorem sync_fixedAmount :
    syncPoLineFromEnteredTotal quantity (fixedAmount total) = syncedLine quantity total := by
  unfold syncPoLineFromEnteredTotal syncedLine fixedAmount
  rw [if_neg (not_le.mpr hquantity)]
  dsimp only
  rw [if_neg (not_lt.mpr hnonneg), htotal.roundTo_eq]

/-- Whether or not the unit cost is consistent, the total leads to the same line. -/
theorem fromTotal_synced (unit : ℚ) (hunit : fixedAmount unit = (syncedLine quantity total).unitCost) :
    fromTotal quantity (fixedAmount unit) (fixedAmount unit) total =
      .ok (syncedLine quantity total) := by
  unfold fromTotal
  rw [if_neg (show ¬ fixedAmount unit = .blank by simp [fixedAmount])]
  simp only [isPoLineMoneyConsistent, fixedAmount, htotal.roundTo_eq, bind, Except.bind]
  split
  · show Except.ok (PoLineMoney.mk (fixedAmount unit) (fixedAmount total)) = _
    rw [hunit]
    rfl
  · exact congrArg Except.ok (sync_fixedAmount hquantity htotal hnonneg)

theorem finalize_synced : finalizePoLineForSave quantity (syncedLine quantity total).unitCost
    (some (syncedLine quantity total).lineTotal) = .ok (syncedLine quantity total) := by
  unfold finalizePoLineForSave
  rw [if_neg (not_le.mpr hquantity)]
  simp only [syncedLine, fixedAmount, Option.getD_some, if_pos hnonneg, savedUnitCost, if_true]
  exact fromTotal_synced hquantity htotal hnonneg _ rfl

theorem hydrate_synced : hydratePoLineMoney quantity (syncedLine quantity total).unitCost
    (some (syncedLine quantity total).lineTotal) = .ok (syncedLine quantity total) := by
  unfold hydratePoLineMoney
  rw [if_neg (not_le.mpr hquantity)]
  simp only [syncedLine, fixedAmount, Option.getD_some, if_pos hnonneg]
  exact fromTotal_synced hquantity htotal hnonneg _ rfl

theorem saveAndEdit_synced :
    saveAndEdit quantity (syncedLine quantity total) = .ok (syncedLine quantity total) := by
  unfold saveAndEdit
  rw [finalize_synced hquantity htotal hnonneg]
  exact hydrate_synced hquantity htotal hnonneg

end Stable

/-- The entered total is kept with the unit cost found for it, and saving and editing again, any
number of times, changes neither. -/
theorem enteredTotal_kept {quantity entered : ℚ} (point : Bool) (hquantity : 0 < quantity)
    (hentered : 0 ≤ entered) :
    ∃ unit, syncPoLineFromEnteredTotal quantity (.number entered point) =
        ⟨fixedAmount unit, fixedAmount (roundTo 2 entered)⟩ ∧
      UnitCostFor quantity (roundTo 2 entered) unit ∧
      ∀ n, (fun line => line >>= saveAndEdit quantity)^[n]
          (.ok (syncPoLineFromEnteredTotal quantity (.number entered point))) =
        .ok (syncPoLineFromEnteredTotal quantity (.number entered point)) := by
  have hgrid : OnGrid 2 (roundTo 2 entered) := onGrid_roundTo entered
  have hsync : syncPoLineFromEnteredTotal quantity (.number entered point) =
      syncedLine quantity (roundTo 2 entered) := by
    unfold syncPoLineFromEnteredTotal syncedLine
    rw [if_neg (not_le.mpr hquantity)]
    dsimp only
    rw [if_neg (not_lt.mpr hentered)]
  refine ⟨_, hsync, resolveUnitCost_spec hquantity hgrid, fun n => ?_⟩
  rw [hsync]
  refine Function.iterate_fixed ?_ n
  exact saveAndEdit_synced hquantity hgrid (roundTo_nonneg hentered)

/-- 7000 for 24 pieces. -/
theorem enteredTotal_kept_dozen :
    ((0 : ℚ) < 24 ∧ (0 : ℚ) ≤ 7000) ∧
    ∃ unit, syncPoLineFromEnteredTotal 24 (.number 7000 false) =
        ⟨fixedAmount unit, fixedAmount (roundTo 2 7000)⟩ ∧
      UnitCostFor 24 (roundTo 2 7000) unit ∧
      ∀ n, (fun line => line >>= saveAndEdit 24)^[n]
          (.ok (syncPoLineFromEnteredTotal 24 (.number 7000 false))) =
        .ok (syncPoLineFromEnteredTotal 24 (.number 7000 false)) :=
  ⟨⟨by norm_num, by norm_num⟩, enteredTotal_kept false (by norm_num) (by norm_num)⟩

/-- A million pieces for 1234567.89 get the unit cost 1.234568, which makes 1234568.00. -/
theorem million_pieces_off :
    syncPoLineFromEnteredTotal 1000000 (.number (123456789 / 100) true) =
        ⟨fixedAmount (1234568 / 1000000), fixedAmount (123456789 / 100)⟩ ∧
      poLineTotal 1000000 (1234568 / 1000000) = 1234568 := by
  decide +kernel

end SmartErpPos.Purchasing
