/-
  Tax/TaxCompute.lean --- the tax arithmetic of one line.

  Source: `src/shared/utils/taxCompute.ts` (`computeTaxes`), which `TaxEngine.compute` of
  the server calls as it stands.

  Amounts, rates and quantities are exact rationals.  Taxes that are not inclusive are
  rounded to cents one by one.  Inclusive ones are not: a per-unit tax is taken out of the
  line as it is, and where percentages are taken out, the last of them gets all that
  rounding the base left.  `inclusiveResidue` is what this leaves of a line's tax beyond
  whole cents (`totalTax_sub_inclusiveResidue`).
-/
import Mathlib.Data.List.Sort
import SmartErpPos.Lib.JsText
import SmartErpPos.Lib.RoundedRat

set_option autoImplicit false

namespace SmartErpPos.Tax

open SmartErpPos.Lib

/-! ## Definitions and results -/

inductive TaxType where
  | PERCENTAGE
  | FIXED
  deriving DecidableEq

inductive TaxScope where
  | SALE
  | PURCHASE
  | BOTH
  deriving DecidableEq

structure TaxDefinitionLike where
  id : String
  code : String
  name : String
  type : TaxType
  rate : ℚ
  isInclusive : Bool
  isCompound : Bool
  sequence : ℤ
  scope : Option TaxScope
  taxPayableAccountCode : Option String
  taxReceivableAccountCode : Option String
  isActive : Bool
  deriving DecidableEq

structure TaxLineResultLike where
  taxId : String
  taxCode : String
  taxName : String
  baseAmount : ℚ
  taxAmount : ℚ
  accountCode : String
  isInclusive : Bool
  deriving DecidableEq

structure TaxComputationResultLike where
  untaxedAmount : ℚ
  totalTax : ℚ
  totalAmount : ℚ
  taxLines : List TaxLineResultLike
  deriving DecidableEq

def roundMoney (value : ℚ) : ℚ := roundTo 2 value

/-- The account a tax is booked on, `2300` where the definition has none. -/
def TaxDefinitionLike.accountCode (tax : TaxDefinitionLike) (isSale : Bool) : String :=
  orText (if isSale then tax.taxPayableAccountCode else tax.taxReceivableAccountCode) "2300"

def taxLine (tax : TaxDefinitionLike) (isSale isInclusive : Bool) (baseAmount taxAmount : ℚ) :
    TaxLineResultLike :=
  { taxId := tax.id
    taxCode := tax.code
    taxName := tax.name
    baseAmount := baseAmount
    taxAmount := taxAmount
    accountCode := tax.accountCode isSale
    isInclusive := isInclusive }

/-! ## The loops -/

/-- `sortedTaxes`: the active taxes in their sequence. -/
def sortedTaxes (taxes : List TaxDefinitionLike) : List TaxDefinitionLike :=
  (taxes.filter (·.isActive)).insertionSort fun a b => a.sequence ≤ b.sequence

/-- What a list of tax lines comes to. -/
def taxTotal (taxLines : List TaxLineResultLike) : ℚ := (taxLines.map (·.taxAmount)).sum

/-- `combinedRate` with one more percentage. -/
def combineRate (combinedRate : ℚ) (tax : TaxDefinitionLike) : ℚ :=
  let rate := tax.rate / 100
  if tax.isCompound then combinedRate + rate + combinedRate * rate else combinedRate + rate

/-- What the loop over the inclusive taxes has reached. -/
structure InclusiveRun where
  untaxedAmount : ℚ
  combinedRate : ℚ
  taxLines : List TaxLineResultLike

/-- The loop over the inclusive taxes: per-unit taxes leave the amount, percentages are
collected into one rate. -/
def inclusiveStep (quantity : ℚ) (isSale : Bool) (run : InclusiveRun) (tax : TaxDefinitionLike) :
    InclusiveRun :=
  match tax.type with
  | .FIXED =>
    let fixedTotal := tax.rate * quantity
    let untaxedAmount := run.untaxedAmount - fixedTotal
    { run with
      untaxedAmount := untaxedAmount
      taxLines := run.taxLines ++ [taxLine tax isSale true untaxedAmount fixedTotal] }
  | .PERCENTAGE => { run with combinedRate := combineRate run.combinedRate tax }

def percentages (taxes : List TaxDefinitionLike) : List TaxDefinitionLike :=
  taxes.filter fun tax => tax.type = .PERCENTAGE

/-- The loop over the inclusive percentages; the last one takes what is left of the tax. -/
def distributeInclusive (isSale : Bool) (baseForPercentage totalInclusiveTax : ℚ) :
    List TaxDefinitionLike → ℚ → List TaxLineResultLike
  | [], _ => []
  | [tax], distributedTax =>
    [taxLine tax isSale true baseForPercentage (totalInclusiveTax - distributedTax)]
  | tax :: rest, distributedTax =>
    let taxAmount := roundMoney (baseForPercentage * (tax.rate / 100))
    taxLine tax isSale true baseForPercentage taxAmount ::
      distributeInclusive isSale baseForPercentage totalInclusiveTax rest
        (distributedTax + taxAmount)

/-- The inclusive part: the amount without tax, and the tax lines. -/
def inclusivePart (originalAmount quantity : ℚ) (isSale : Bool)
    (inclusiveTaxes : List TaxDefinitionLike) : ℚ × List TaxLineResultLike :=
  let run := inclusiveTaxes.foldl (inclusiveStep quantity isSale) ⟨originalAmount, 0, []⟩
  if 0 < run.combinedRate then
    let baseForPercentage := roundMoney (run.untaxedAmount / (run.combinedRate + 1))
    let totalInclusiveTax := run.untaxedAmount - baseForPercentage
    (baseForPercentage, run.taxLines ++
      distributeInclusive isSale baseForPercentage totalInclusiveTax
        (percentages inclusiveTaxes) 0)
  else (run.untaxedAmount, run.taxLines)

/-- The loop over the exclusive taxes; a compound tax is charged on the running base. -/
def exclusiveLines (untaxedAmount quantity : ℚ) (isSale : Bool) :
    List TaxDefinitionLike → ℚ → List TaxLineResultLike
  | [], _ => []
  | tax :: rest, runningBase =>
    let base := if tax.isCompound then runningBase else untaxedAmount
    let taxAmount :=
      match tax.type with
      | .FIXED => roundMoney (tax.rate * quantity)
      | .PERCENTAGE => roundMoney (base * (tax.rate / 100))
    taxLine tax isSale false base taxAmount ::
      exclusiveLines untaxedAmount quantity isSale rest (runningBase + taxAmount)

/-- `computeTaxes`. -/
def computeTaxes (originalAmount : ℚ) (taxes : List TaxDefinitionLike) (quantity : ℚ)
    (isSale : Bool) : TaxComputationResultLike :=
  if taxes = [] then ⟨originalAmount, 0, originalAmount, []⟩
  else if originalAmount = 0 ∧ ¬ taxes.any fun t => t.isActive && decide (t.type = .FIXED) then
    ⟨0, 0, 0, []⟩
  else
    let inclusiveTaxes := (sortedTaxes taxes).filter (·.isInclusive)
    let exclusiveTaxes := (sortedTaxes taxes).filter fun t => !t.isInclusive
    let (untaxedAmount, inclusiveLines) :=
      inclusivePart originalAmount quantity isSale inclusiveTaxes
    let taxLines := inclusiveLines ++
      exclusiveLines untaxedAmount quantity isSale exclusiveTaxes untaxedAmount
    let totalTax := taxTotal taxLines
    { untaxedAmount := untaxedAmount
      totalTax := totalTax
      totalAmount := if exclusiveTaxes = [] then originalAmount else untaxedAmount + totalTax
      taxLines := taxLines }

@[simp] theorem computeTaxes_nil (amount quantity : ℚ) (isSale : Bool) :
    computeTaxes amount [] quantity isSale = ⟨amount, 0, amount, []⟩ := rfl

/-! ## Tax beyond whole cents -/

/-- The rate all inclusive percentages come to. -/
def combinedInclusiveRate (inclusiveTaxes : List TaxDefinitionLike) : ℚ :=
  (percentages inclusiveTaxes).foldl combineRate 0

/-- What the inclusive per-unit taxes come to. -/
def fixedInclusiveTax (quantity : ℚ) (inclusiveTaxes : List TaxDefinitionLike) : ℚ :=
  ((inclusiveTaxes.filter fun tax => tax.type = .FIXED).map fun tax => tax.rate * quantity).sum

/-- The part of a line's tax that no rounding has reached: the whole line where a
percentage is taken out of it, and else the inclusive per-unit taxes. -/
def inclusiveResidue (amount quantity : ℚ) (taxes : List TaxDefinitionLike) : ℚ :=
  let inclusiveTaxes := (sortedTaxes taxes).filter (·.isInclusive)
  if 0 < combinedInclusiveRate inclusiveTaxes then amount
  else fixedInclusiveTax quantity inclusiveTaxes

theorem inclusiveResidue_nil (amount quantity : ℚ) : inclusiveResidue amount quantity [] = 0 := rfl

@[simp] theorem taxTotal_nil : taxTotal [] = 0 := rfl

@[simp] theorem taxTotal_cons (line : TaxLineResultLike) (lines : List TaxLineResultLike) :
    taxTotal (line :: lines) = line.taxAmount + taxTotal lines := List.sum_cons

@[simp] theorem taxTotal_append (lines more : List TaxLineResultLike) :
    taxTotal (lines ++ more) = taxTotal lines + taxTotal more := by
  rw [taxTotal, List.map_append, List.sum_append]
  rfl

/-- The loop over the inclusive taxes: the rate it ends with, and where the amount it took
out of the line stands. -/
theorem foldl_inclusiveStep (quantity : ℚ) (isSale : Bool) (taxes : List TaxDefinitionLike)
    (run : InclusiveRun) :
    let out := taxes.foldl (inclusiveStep quantity isSale) run
    out.combinedRate = (percentages taxes).foldl combineRate run.combinedRate ∧
      out.untaxedAmount = run.untaxedAmount - fixedInclusiveTax quantity taxes ∧
      taxTotal out.taxLines = taxTotal run.taxLines + fixedInclusiveTax quantity taxes := by
  induction taxes generalizing run with
  | nil => simp [percentages, fixedInclusiveTax]
  | cons tax taxes ih =>
    obtain ⟨hrate, huntaxed, hlines⟩ := ih (inclusiveStep quantity isSale run tax)
    simp only [List.foldl_cons]
    rw [hrate, huntaxed, hlines]
    cases htype : tax.type with
    | PERCENTAGE => simp [inclusiveStep, percentages, fixedInclusiveTax, htype]
    | FIXED =>
      refine ⟨by simp [inclusiveStep, percentages, htype], ?_, ?_⟩
      · simp only [inclusiveStep, htype, fixedInclusiveTax, List.filter_cons, decide_true, if_true,
          List.map_cons, List.sum_cons]
        ring
      · simp only [inclusiveStep, htype, fixedInclusiveTax, List.filter_cons, decide_true, if_true,
          List.map_cons, List.sum_cons, taxTotal_append, taxTotal_cons, taxTotal_nil, taxLine]
        ring

/-- However the single percentages are rounded, together they are all of the tax. -/
theorem taxTotal_distributeInclusive (isSale : Bool) (base total : ℚ)
    {taxes : List TaxDefinitionLike} (hne : taxes ≠ []) (distributed : ℚ) :
    taxTotal (distributeInclusive isSale base total taxes distributed) = total - distributed := by
  induction taxes generalizing distributed with
  | nil => exact absurd rfl hne
  | cons tax rest ih =>
    cases rest with
    | nil => simp [distributeInclusive, taxLine]
    | cons next rest =>
      rw [distributeInclusive, taxTotal_cons, ih (List.cons_ne_nil _ _)]
      · simp only [taxLine]
        ring
      · exact List.cons_ne_nil _ _

/-- Every exclusive tax is in whole cents. -/
theorem onGrid_taxTotal_exclusiveLines (untaxed quantity : ℚ) (isSale : Bool)
    (taxes : List TaxDefinitionLike) (runningBase : ℚ) :
    OnGrid 2 (taxTotal (exclusiveLines untaxed quantity isSale taxes runningBase)) := by
  induction taxes generalizing runningBase with
  | nil => exact onGrid_zero
  | cons tax rest ih =>
    rw [exclusiveLines, taxTotal_cons]
    refine OnGrid.add ?_ (ih _)
    cases htype : tax.type with
    | FIXED => exact onGrid_roundTo _
    | PERCENTAGE => exact onGrid_roundTo _

/-- Rates that come to more than nothing are the rates of some tax. -/
theorem percentages_ne_nil {taxes : List TaxDefinitionLike}
    (h : 0 < combinedInclusiveRate taxes) : percentages taxes ≠ [] := by
  intro hnil
  rw [combinedInclusiveRate, hnil] at h
  exact lt_irrefl _ h

/-- What the inclusive taxes come to, up to whole cents. -/
theorem onGrid_inclusivePart (amount quantity : ℚ) (isSale : Bool)
    (taxes : List TaxDefinitionLike) :
    OnGrid 2 (taxTotal (inclusivePart amount quantity isSale taxes).2 -
      if 0 < combinedInclusiveRate taxes then amount else fixedInclusiveTax quantity taxes) := by
  obtain ⟨hrate, huntaxed, hlines⟩ := foldl_inclusiveStep quantity isSale taxes ⟨amount, 0, []⟩
  have hrate' : (taxes.foldl (inclusiveStep quantity isSale) ⟨amount, 0, []⟩).combinedRate =
      combinedInclusiveRate taxes := hrate
  unfold inclusivePart
  simp only [hrate', huntaxed]
  by_cases hpos : 0 < combinedInclusiveRate taxes
  · rw [if_pos hpos, if_pos hpos]
    -- the base is in cents, and the tax is the rest of the line
    rw [taxTotal_append, hlines, taxTotal_distributeInclusive isSale _ _ (percentages_ne_nil hpos),
      taxTotal_nil]
    have hrest : ∀ fixed base : ℚ, 0 + fixed + (amount - fixed - base - 0) - amount = 0 - base := by
      intro fixed base
      ring
    rw [hrest]
    exact onGrid_zero.sub (onGrid_roundTo _)
  · rw [if_neg hpos, if_neg hpos, hlines, taxTotal_nil, zero_add, sub_self]
    exact onGrid_zero

/-- Without active per-unit taxes none are taken out of the line. -/
theorem fixedInclusiveTax_sortedTaxes {taxes : List TaxDefinitionLike}
    (h : ¬ taxes.any fun t => t.isActive && decide (t.type = .FIXED)) (quantity : ℚ) :
    fixedInclusiveTax quantity ((sortedTaxes taxes).filter (·.isInclusive)) = 0 := by
  have hnone : (((sortedTaxes taxes).filter (·.isInclusive)).filter
      fun tax => tax.type = .FIXED) = [] := by
    rw [List.filter_eq_nil_iff]
    intro tax htax hfixed
    have hmem : tax ∈ sortedTaxes taxes := List.mem_of_mem_filter htax
    rw [sortedTaxes, List.mem_insertionSort, List.mem_filter] at hmem
    exact h (List.any_eq_true.mpr ⟨tax, hmem.1, by simpa [hmem.2] using hfixed⟩)
  rw [fixedInclusiveTax, hnone]
  rfl

/-- A line's tax is in whole cents but for the part no rounding has reached. -/
theorem onGrid_totalTax_sub_inclusiveResidue (amount quantity : ℚ) (isSale : Bool)
    (taxes : List TaxDefinitionLike) :
    OnGrid 2 ((computeTaxes amount taxes quantity isSale).totalTax -
      inclusiveResidue amount quantity taxes) := by
  by_cases hnil : taxes = []
  · rw [hnil, computeTaxes_nil, inclusiveResidue_nil, sub_zero]
    exact onGrid_zero
  · unfold computeTaxes inclusiveResidue
    rw [if_neg hnil]
    by_cases hzero : amount = 0 ∧ ¬ taxes.any fun t => t.isActive && decide (t.type = .FIXED)
    · obtain ⟨rfl, hfixed⟩ := hzero
      rw [if_pos ⟨rfl, hfixed⟩]
      simp only [fixedInclusiveTax_sortedTaxes hfixed, ite_self, sub_self]
      exact onGrid_zero
    · rw [if_neg hzero]
      simp only [taxTotal_append, add_sub_right_comm]
      exact (onGrid_inclusivePart _ _ _ _).add (onGrid_taxTotal_exclusiveLines _ _ _ _ _)

end SmartErpPos.Tax
