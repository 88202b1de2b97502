/-
  Tax/PriceModes.lean --- prices with and without tax.

  Source: `src/shared/utils/taxCompute.ts` (`computeTaxes`) and `documentTaxPreview.ts`
  (`taxesForPriceMode`).

  Whatever is taken out of a price or put on top of it, the untaxed amount and the tax lines
  come to the total.  Percentages that are taken out of a price and then put back on the
  untaxed amount miss the price by the rounding of that amount and of each tax; the last tax
  taken out gets all of it.  A compound tax before the last is taken out as a plain one, so
  nothing is said of its line.
-/
import SmartErpPos.Tax.DocumentTaxPreview

set_option autoImplicit false

namespace SmartErpPos.Tax

open SmartErpPos.Lib

/-! ## The untaxed amount and the tax make the total -/

theorem inclusivePart_add_taxTotal (amount quantity : ℚ) (isSale : Bool)
    (taxes : List TaxDefinitionLike) :
    (inclusivePart amount quantity isSale taxes).1 +
      taxTotal (inclusivePart amount quantity isSale taxes).2 = amount := by
  obtain ⟨hrate, huntaxed, hlines⟩ := foldl_inclusiveStep quantity isSale taxes ⟨amount, 0, []⟩
  have hrate' : (taxes.foldl (inclusiveStep quantity isSale) ⟨amount, 0, []⟩).combinedRate =
      combinedInclusiveRate taxes := hrate
  unfold inclusivePart
  simp only [hrate', huntaxed]
  by_cases hpos : 0 < combinedInclusiveRate taxes
  · rw [if_pos hpos, taxTotal_append, hlines,
      taxTotal_distributeInclusive isSale _ _ (percentages_ne_nil hpos), taxTotal_nil]
    ring
  · rw [if_neg hpos, hlines, taxTotal_nil, zero_add, sub_add_cancel]

/-- No tax is left out of the price where every active one is included in it. -/
theorem exclusive_sortedTaxes_eq_nil {taxes : List TaxDefinitionLike}
    (h : ∀ tax ∈ taxes, tax.isActive = true → tax.isInclusive = true) :
    ((sortedTaxes taxes).filter fun tax => !tax.isInclusive) = [] := by
  rw [List.filter_eq_nil_iff]
  intro tax htax
  rw [sortedTaxes, List.mem_insertionSort, List.mem_filter] at htax
  simp [h tax htax.1 htax.2]

theorem computeTaxes_untaxed_add_taxTotal (amount : ℚ) (taxes : List TaxDefinitionLike)
    (quantity : ℚ) (isSale : Bool) :
    (computeTaxes amount taxes quantity isSale).untaxedAmount +
        taxTotal (computeTaxes amount taxes quantity isSale).taxLines =
      (computeTaxes amount taxes quantity isSale).totalAmount := by
  unfold computeTaxes
  by_cases hnil : taxes = []
  · rw [if_pos hnil]
    exact add_zero amount
  rw [if_neg hnil]
  by_cases hzero : amount = 0 ∧ ¬ taxes.any fun t => t.isActive && decide (t.type = .FIXED)
  · rw [if_pos hzero]
    exact add_zero 0
  rw [if_neg hzero]
  by_cases hexclusive : ((sortedTaxes taxes).filter fun tax => !tax.isInclusive) = []
  · simp only [hexclusive, if_true, exclusiveLines, List.append_nil]
    exact inclusivePart_add_taxTotal ..
  · exact (if_neg hexclusive).symm

theorem computeTaxes_total_of_included {taxes : List TaxDefinitionLike}
    (h : ∀ tax ∈ taxes, tax.isActive = true → tax.isInclusive = true) (amount quantity : ℚ)
    (isSale : Bool) : (computeTaxes amount taxes quantity isSale).totalAmount = amount := by
  unfold computeTaxes
  by_cases hnil : taxes = []
  · rw [if_pos hnil]
  rw [if_neg hnil]
  by_cases hzero : amount = 0 ∧ ¬ taxes.any fun t => t.isActive && decide (t.type = .FIXED)
  · rw [if_pos hzero]
    exact hzero.1.symm
  rw [if_neg hzero]
  exact if_pos (exclusive_sortedTaxes_eq_nil h)

/-- The untaxed amount and the tax lines come to the total, which is the amount itself where
every active tax is included in it. -/
theorem computeTaxes_conserves (amount : ℚ) (taxes : List TaxDefinitionLike) (quantity : ℚ)
    (isSale : Bool) :
    let result := computeTaxes amount taxes quantity isSale
    result.untaxedAmount + taxTotal result.taxLines = result.totalAmount ∧
      ((∀ tax ∈ taxes, tax.isActive = true → tax.isInclusive = true) →
        result.totalAmount = amount) :=
  ⟨computeTaxes_untaxed_add_taxTotal amount taxes quantity isSale,
    fun h => computeTaxes_total_of_included h amount quantity isSale⟩

/-- Ten per cent in the price, and a tax of 1.5 a unit on top of it. -/
theorem computeTaxes_conserves_bottles :
    let included : TaxDefinitionLike :=
      { id := "vat", code := "VAT", name := "VAT", type := .PERCENTAGE, rate := 10
        isInclusive := true, isCompound := false, sequence := 1, scope := none
        taxPayableAccountCode := none, taxReceivableAccountCode := none, isActive := true }
    (computeTaxes 110 [included] 2 true).totalAmount = 110 :=
  (computeTaxes_conserves 110 _ 2 true).2 (by decide)

/-! ## The loops over percentages -/

variable {taxes : List TaxDefinitionLike}

/-- The taxes are percentages that are not negative. -/
def Percentages (taxes : List TaxDefinitionLike) : Prop :=
  ∀ tax ∈ taxes, tax.type = .PERCENTAGE ∧ 0 ≤ tax.rate

variable {tax : TaxDefinitionLike} {combinedRate : ℚ}

theorem Percentages.tail (h : Percentages (tax :: taxes)) : Percentages taxes :=
  fun t ht => h t (List.mem_cons_of_mem _ ht)

theorem Percentages.percentages_eq (h : Percentages taxes) : percentages taxes = taxes :=
  List.filter_eq_self.mpr fun tax htax => decide_eq_true (h tax htax).1

/-- The loop over inclusive percentages only collects their rate. -/
theorem Percentages.foldl_inclusiveStep (h : Percentages taxes) (quantity : ℚ) (isSale : Bool)
    (run : InclusiveRun) : taxes.foldl (inclusiveStep quantity isSale) run =
      ⟨run.untaxedAmount, taxes.foldl combineRate run.combinedRate, run.taxLines⟩ := by
  induction taxes generalizing run with
  | nil => rfl
  | cons tax rest ih =>
    rw [List.foldl_cons, ih h.tail]
    simp only [inclusiveStep, (h tax List.mem_cons_self).1, List.foldl_cons]

/-- A percentage raises the combined rate by no less than its own. -/
theorem add_rate_le_combineRate (h : 0 ≤ combinedRate) (hrate : 0 ≤ tax.rate) :
    combinedRate + tax.rate / 100 ≤ combineRate combinedRate tax := by
  unfold combineRate
  by_cases hcompound : tax.isCompound = true
  · have : 0 ≤ combinedRate * (tax.rate / 100) := by positivity
    rw [if_pos hcompound]
    linarith
  · rw [if_neg hcompound]

theorem le_combineRate (h : 0 ≤ combinedRate) (hrate : 0 ≤ tax.rate) :
    combinedRate ≤ combineRate combinedRate tax := by
  have hadd := add_rate_le_combineRate h hrate
  have : 0 ≤ tax.rate / 100 := by positivity
  linarith

theorem Percentages.le_foldl_combineRate (h : Percentages taxes) (hnonneg : 0 ≤ combinedRate) :
    combinedRate ≤ taxes.foldl combineRate combinedRate := by
  induction taxes generalizing combinedRate with
  | nil => exact le_rfl
  | cons tax rest ih =>
    have hle := le_combineRate hnonneg (h tax List.mem_cons_self).2
    exact hle.trans (ih h.tail (hnonneg.trans hle))

/-- Where the rates come to nothing, each of them is nothing. -/
theorem Percentages.rate_eq_zero (h : Percentages taxes) (hnonneg : 0 ≤ combinedRate)
    (hzero : taxes.foldl combineRate combinedRate ≤ combinedRate) :
    ∀ tax ∈ taxes, tax.rate = 0 := by
  induction taxes generalizing combinedRate with
  | nil => exact fun tax htax => absurd htax List.not_mem_nil
  | cons tax rest ih =>
    have hrate := (h tax List.mem_cons_self).2
    have hadd := add_rate_le_combineRate hnonneg hrate
    have hle := le_combineRate hnonneg hrate
    have hrest := h.tail.le_foldl_combineRate (hnonneg.trans hle)
    rw [List.foldl_cons] at hzero
    have hnone : tax.rate = 0 := by linarith
    refine List.forall_mem_cons.mpr ⟨hnone, ih h.tail (hnonneg.trans hle) ?_⟩
    exact hzero.trans hle

/-- Half a cent for each tax that is rounded, raised by the taxes on it: how far the running
base has come from the untaxed amount with the combined rate on it. -/
theorem Percentages.exclusiveLines_error (h : Percentages taxes) (quantity : ℚ) (isSale : Bool)
    {untaxed runningBase : ℚ} (hnonneg : 0 ≤ combinedRate) {n : ℕ}
    (herror : |runningBase - untaxed * (1 + combinedRate)| ≤ n * (1 + combinedRate) / 200) :
    |runningBase + taxTotal (exclusiveLines untaxed quantity isSale taxes runningBase) -
        untaxed * (1 + taxes.foldl combineRate combinedRate)| ≤
      (n + taxes.length) * (1 + taxes.foldl combineRate combinedRate) / 200 := by
  induction taxes generalizing runningBase combinedRate n with
  | nil => simpa [exclusiveLines] using herror
  | cons tax rest ih =>
    obtain ⟨htype, hrate⟩ := h tax List.mem_cons_self
    have hfraction : 0 ≤ tax.rate / 100 := by positivity
    have hle := le_combineRate hnonneg hrate
    have hcount : (0 : ℚ) ≤ n := Nat.cast_nonneg n
    simp only [exclusiveLines, htype, taxTotal_cons, List.foldl_cons, List.length_cons, taxLine]
    rw [← add_assoc]
    refine (ih (n := n + 1) h.tail (hnonneg.trans hle) ?_).trans_eq (by push_cast; ring)
    -- One tax: its own rounding, and what the error so far adds to a compound one.
    have hround := abs_roundTo_sub_le 2
      ((if tax.isCompound then runningBase else untaxed) * (tax.rate / 100))
    unfold roundMoney
    rw [abs_le] at herror hround ⊢
    push_cast
    unfold combineRate at hle ⊢
    by_cases hcompound : tax.isCompound = true
    · simp only [hcompound, if_true] at hround hle ⊢
      obtain ⟨hlow, hhigh⟩ := herror
      have hlow' := mul_le_mul_of_nonneg_right hlow (by linarith : 0 ≤ 1 + tax.rate / 100)
      have hhigh' := mul_le_mul_of_nonneg_right hhigh (by linarith : 0 ≤ 1 + tax.rate / 100)
      constructor <;> nlinarith
    · simp only [hcompound, Bool.false_eq_true, if_false] at hround hle ⊢
      have hmore : 0 ≤ n * (tax.rate / 100) := by positivity
      constructor <;> linarith

/-! ## Tax lines by their place -/

/-- The amount of the tax line at a place, nothing where there is no line. -/
def amountAt (taxLines : List TaxLineResultLike) (k : ℕ) : ℚ :=
  (taxLines[k]?.map (·.taxAmount)).getD 0

@[simp] theorem amountAt_nil (k : ℕ) : amountAt [] k = 0 := rfl

@[simp] theorem amountAt_cons_zero (line : TaxLineResultLike) (lines : List TaxLineResultLike) :
    amountAt (line :: lines) 0 = line.taxAmount := rfl

@[simp] theorem amountAt_cons_succ (line : TaxLineResultLike) (lines : List TaxLineResultLike)
    (k : ℕ) : amountAt (line :: lines) (k + 1) = amountAt lines k := rfl

theorem taxTotal_eq_sum {taxLines : List TaxLineResultLike} {n : ℕ} (h : taxLines.length ≤ n) :
    taxTotal taxLines = ∑ k ∈ Finset.range n, amountAt taxLines k := by
  induction taxLines generalizing n with
  | nil => simp
  | cons line rest ih =>
    obtain ⟨m, rfl⟩ : ∃ m, n = m + 1 := ⟨n - 1, by simp at h; omega⟩
    rw [Finset.sum_range_succ', amountAt_cons_zero, taxTotal_cons, add_comm line.taxAmount]
    simp only [amountAt_cons_succ]
    rw [ih (Nat.le_of_succ_le_succ h)]

/-- Lines that differ in the last place only differ by what their totals do. -/
theorem amountAt_sub_of_taxTotal {lines more : List TaxLineResultLike} {n : ℕ}
    (hlines : lines.length ≤ n + 1) (hmore : more.length ≤ n + 1)
    (h : ∀ k < n, amountAt lines k = amountAt more k) :
    amountAt lines n - amountAt more n = taxTotal lines - taxTotal more := by
  rw [taxTotal_eq_sum hlines, taxTotal_eq_sum hmore, Finset.sum_range_succ, Finset.sum_range_succ,
    Finset.sum_congr rfl fun k hk => h k (Finset.mem_range.mp hk), add_sub_add_left_eq_sub]

@[simp] theorem length_distributeInclusive (isSale : Bool) (base total distributed : ℚ) :
    (distributeInclusive isSale base total taxes distributed).length = taxes.length := by
  induction taxes generalizing distributed with
  | nil => rfl
  | cons tax rest ih =>
    cases rest with
    | nil => rfl
    | cons next rest =>
      rw [distributeInclusive, List.length_cons, ih]
      · rfl
      · exact List.cons_ne_nil _ _

@[simp] theorem length_exclusiveLines (untaxed quantity : ℚ) (isSale : Bool) (runningBase : ℚ) :
    (exclusiveLines untaxed quantity isSale taxes runningBase).length = taxes.length := by
  induction taxes generalizing runningBase with
  | nil => rfl
  | cons tax rest ih => rw [exclusiveLines, List.length_cons, ih, List.length_cons]

/-- A tax before the last is taken out as if it were plain. -/
theorem amountAt_distributeInclusive {isSale : Bool} {base total distributed : ℚ} {k : ℕ}
    (hk : taxes[k]? = some tax) (hlast : k + 1 < taxes.length) :
    amountAt (distributeInclusive isSale base total taxes distributed) k =
      roundMoney (base * (tax.rate / 100)) := by
  induction taxes generalizing distributed k with
  | nil => exact absurd hlast (Nat.not_lt_zero _)
  | cons first rest ih =>
    cases rest with
    | nil => simp at hlast
    | cons next rest =>
      rw [distributeInclusive]
      · cases k with
        | zero =>
          rw [Option.some.inj hk]
          rfl
        | succ k => exact ih hk (Nat.lt_of_succ_lt_succ hlast)
      · exact List.cons_ne_nil _ _

/-- A plain tax is put on the untaxed amount. -/
theorem amountAt_exclusiveLines {untaxed quantity : ℚ} {isSale : Bool} {runningBase : ℚ} {k : ℕ}
    (hk : taxes[k]? = some tax) (htype : tax.type = .PERCENTAGE) (hplain : tax.isCompound = false) :
    amountAt (exclusiveLines untaxed quantity isSale taxes runningBase) k =
      roundMoney (untaxed * (tax.rate / 100)) := by
  induction taxes generalizing runningBase k with
  | nil => simp at hk
  | cons first rest ih =>
    cases k with
    | zero =>
      have hfirst : first = tax := Option.some.inj hk
      subst hfirst
      simp [exclusiveLines, htype, hplain, taxLine]
    | succ k => exact ih hk

/-! ## The same taxes in the price and on top of it -/

/-- The tax with its price mode replaced. -/
def TaxDefinitionLike.inMode (isInclusive : Bool) (tax : TaxDefinitionLike) : TaxDefinitionLike :=
  { tax with isInclusive := isInclusive }

/-- Every tax is active and a percentage that is not negative. -/
def ActivePercentages (taxes : List TaxDefinitionLike) : Prop :=
  ∀ tax ∈ taxes, tax.isActive = true ∧ tax.type = .PERCENTAGE ∧ 0 ≤ tax.rate

instance (taxes : List TaxDefinitionLike) : Decidable (ActivePercentages taxes) :=
  inferInstanceAs (Decidable (∀ tax ∈ taxes, _ ∧ _ ∧ _))

/-- The price mode plays no part in the order of the taxes. -/
theorem sortedTaxes_map_inMode (isInclusive : Bool) (taxes : List TaxDefinitionLike) :
    sortedTaxes (taxes.map (·.inMode isInclusive)) =
      (sortedTaxes taxes).map (·.inMode isInclusive) := by
  unfold sortedTaxes
  rw [List.filter_map]
  exact (List.map_insertionSort (fun a b : TaxDefinitionLike => a.sequence ≤ b.sequence)
    (fun a b : TaxDefinitionLike => a.sequence ≤ b.sequence)
    (TaxDefinitionLike.inMode isInclusive) _ fun _ _ _ _ => Iff.rfl).symm

theorem Percentages.map_inMode (h : Percentages taxes) (isInclusive : Bool) :
    Percentages (taxes.map (·.inMode isInclusive)) := by
  intro tax htax
  obtain ⟨t, ht, rfl⟩ := List.mem_map.mp htax
  exact h t ht

theorem foldl_combineRate_map_inMode (isInclusive : Bool) (taxes : List TaxDefinitionLike)
    (combinedRate : ℚ) : (taxes.map (·.inMode isInclusive)).foldl combineRate combinedRate =
      taxes.foldl combineRate combinedRate := by
  rw [List.foldl_map]
  rfl

namespace ActivePercentages

variable (h : ActivePercentages taxes)

include h in
theorem length_sortedTaxes : (sortedTaxes taxes).length = taxes.length := by
  have hall : taxes.filter (·.isActive) = taxes :=
    List.filter_eq_self.mpr fun tax htax => (h tax htax).1
  rw [sortedTaxes, List.length_insertionSort, hall]

include h in
theorem percentages_sortedTaxes : Percentages (sortedTaxes taxes) := by
  intro tax htax
  rw [sortedTaxes, List.mem_insertionSort, List.mem_filter] at htax
  exact (h tax htax.1).2

include h in
theorem taxesForPriceMode_eq : taxesForPriceMode taxes true = taxes.map (·.inMode true) := by
  by_cases hnil : taxes = []
  · rw [hnil]
    rfl
  · unfold taxesForPriceMode
    rw [if_neg (by simpa using hnil)]
    refine List.map_congr_left fun tax htax => ?_
    by_cases hexclusive : tax.isInclusive = false
    · rw [if_pos ⟨(h tax htax).2.1, hexclusive⟩]
      rfl
    · rw [if_neg fun hboth => hexclusive hboth.2]
      have hinclusive : tax.isInclusive = true := by simpa using hexclusive
      unfold TaxDefinitionLike.inMode
      rw [← hinclusive]

include h in
theorem not_any_fixed (isInclusive : Bool) : ¬ (taxes.map (·.inMode isInclusive)).any
    fun t => t.isActive && decide (t.type = .FIXED) := by
  intro hany
  obtain ⟨tax, htax, hfixed⟩ := List.any_eq_true.mp hany
  obtain ⟨t, ht, rfl⟩ := List.mem_map.mp htax
  simp [TaxDefinitionLike.inMode, (h t ht).2.1] at hfixed

end ActivePercentages

/-- The rate all the taxes come to, in their sequence. -/
def combinedRateOf (taxes : List TaxDefinitionLike) : ℚ :=
  (sortedTaxes taxes).foldl combineRate 0

/-- The untaxed amount of a price that includes percentages. -/
def untaxedOf (amount combinedRate : ℚ) : ℚ :=
  if 0 < combinedRate then roundMoney (amount / (combinedRate + 1)) else amount

theorem untaxedOf_zero (combinedRate : ℚ) : untaxedOf 0 combinedRate = 0 := by
  unfold untaxedOf roundMoney
  rw [zero_div, roundTo_zero, ite_self]

/-- Half a cent of the untaxed amount, with the tax on it. -/
theorem abs_sub_untaxedOf_le (amount : ℚ) (hnonneg : 0 ≤ combinedRate) :
    |amount - untaxedOf amount combinedRate * (1 + combinedRate)| ≤ (1 + combinedRate) / 200 := by
  unfold untaxedOf
  by_cases hpos : 0 < combinedRate
  · have hround := abs_roundTo_sub_le 2 (amount / (combinedRate + 1))
    have hback : amount / (combinedRate + 1) * (1 + combinedRate) = amount := by
      field_simp
      ring
    rw [if_pos hpos, roundMoney]
    rw [abs_le] at hround ⊢
    constructor <;> nlinarith
  · have hzero : combinedRate = 0 := le_antisymm (not_lt.mp hpos) hnonneg
    rw [if_neg hpos, hzero]
    norm_num

/-- What the two price modes leave of the same taxes. -/
structure ModesAgree (taxes : List TaxDefinitionLike) (bound : ℚ)
    (included onTop : TaxComputationResultLike) : Prop where
  total : |included.totalAmount - onTop.totalAmount| ≤ bound
  /-- A plain tax before the last has the same line. -/
  plain : ∀ k tax, (sortedTaxes taxes)[k]? = some tax → k + 1 < taxes.length →
    tax.isCompound = false → amountAt included.taxLines k = amountAt onTop.taxLines k
  /-- Behind plain taxes the last one differs by what the totals do. -/
  last : ∀ n, taxes.length = n + 1 →
    (∀ k tax, (sortedTaxes taxes)[k]? = some tax → k < n → tax.isCompound = false) →
    |amountAt included.taxLines n - amountAt onTop.taxLines n| ≤ bound

/-- The price with the taxes in it. -/
def pricedWith (amount : ℚ) (taxes : List TaxDefinitionLike) (quantity : ℚ) (isSale : Bool) :
    TaxComputationResultLike :=
  computeTaxes amount (taxesForPriceMode taxes true) quantity isSale

/-- The same taxes on top of the untaxed amount of that price. -/
def pricedOnTop (amount : ℚ) (taxes : List TaxDefinitionLike) (quantity : ℚ) (isSale : Bool) :
    TaxComputationResultLike :=
  computeTaxes (pricedWith amount taxes quantity isSale).untaxedAmount
    (taxes.map (·.inMode false)) quantity isSale

/-- Taxes put on top of an untaxed amount: the amount stays, and the lines are those of the loop,
or there is nothing to tax. -/
theorem onTop_cases (taxes : List TaxDefinitionLike) (untaxed quantity : ℚ) (isSale : Bool) :
    let result := computeTaxes untaxed (taxes.map (·.inMode false)) quantity isSale
    result.untaxedAmount = untaxed ∧
      (result.taxLines = [] ∧ (taxes = [] ∨ untaxed = 0) ∨
        result.taxLines = exclusiveLines untaxed quantity isSale
          ((sortedTaxes taxes).map (·.inMode false)) untaxed) := by
  unfold computeTaxes
  by_cases hnil : taxes = []
  · subst hnil
    exact ⟨rfl, .inl ⟨rfl, .inl rfl⟩⟩
  rw [if_neg (by simpa using hnil)]
  by_cases hzero : untaxed = 0 ∧
      ¬ (taxes.map (·.inMode false)).any fun t => t.isActive && decide (t.type = .FIXED)
  · rw [if_pos hzero]
    exact ⟨hzero.1.symm, .inl ⟨rfl, .inr hzero.1⟩⟩
  rw [if_neg hzero]
  have hincluded : ((sortedTaxes taxes).map (·.inMode false)).filter (·.isInclusive) = [] :=
    List.filter_eq_nil_iff.mpr fun tax htax => by
      obtain ⟨t, -, rfl⟩ := List.mem_map.mp htax
      simp [TaxDefinitionLike.inMode]
  have hexclusive : (((sortedTaxes taxes).map (·.inMode false)).filter fun t => !t.isInclusive) =
      (sortedTaxes taxes).map (·.inMode false) :=
    List.filter_eq_self.mpr fun tax htax => by
      obtain ⟨t, -, rfl⟩ := List.mem_map.mp htax
      rfl
  simp only [sortedTaxes_map_inMode, hincluded, hexclusive]
  exact ⟨rfl, .inr rfl⟩

namespace ActivePercentages

variable (h : ActivePercentages taxes)

include h in
theorem combinedRate_nonneg : 0 ≤ combinedRateOf taxes :=
  h.percentages_sortedTaxes.le_foldl_combineRate le_rfl

include h in
theorem inclusivePart_eq (amount quantity : ℚ) (isSale : Bool) :
    inclusivePart amount quantity isSale ((sortedTaxes taxes).map (·.inMode true)) =
      (untaxedOf amount (combinedRateOf taxes),
        if 0 < combinedRateOf taxes then
          distributeInclusive isSale (untaxedOf amount (combinedRateOf taxes))
            (amount - untaxedOf amount (combinedRateOf taxes))
            ((sortedTaxes taxes).map (·.inMode true)) 0
        else []) := by
  have hpercentages := h.percentages_sortedTaxes.map_inMode true
  have hrate : ((sortedTaxes taxes).map (·.inMode true)).foldl combineRate 0 =
      combinedRateOf taxes := foldl_combineRate_map_inMode true _ 0
  unfold inclusivePart untaxedOf
  simp only [hpercentages.foldl_inclusiveStep, hpercentages.percentages_eq, hrate, List.nil_append]
  by_cases hpos : 0 < combinedRateOf taxes
  · simp only [if_pos hpos]
  · simp only [if_neg hpos]

include h in
/-- The untaxed amount, and the lines, of a price with the taxes in it. -/
theorem pricedWith_cases (amount quantity : ℚ) (isSale : Bool) :
    (pricedWith amount taxes quantity isSale).untaxedAmount =
        untaxedOf amount (combinedRateOf taxes) ∧
      ((pricedWith amount taxes quantity isSale).taxLines = [] ∧
          (taxes = [] ∨ amount = 0 ∨ combinedRateOf taxes ≤ 0) ∨
        (pricedWith amount taxes quantity isSale).taxLines =
          distributeInclusive isSale (untaxedOf amount (combinedRateOf taxes))
            (amount - untaxedOf amount (combinedRateOf taxes))
            ((sortedTaxes taxes).map (·.inMode true)) 0) := by
  unfold pricedWith computeTaxes
  rw [h.taxesForPriceMode_eq]
  by_cases hnil : taxes = []
  · subst hnil
    exact ⟨(if_neg (lt_irrefl 0)).symm, .inl ⟨rfl, .inl rfl⟩⟩
  rw [if_neg (by simpa using hnil)]
  by_cases hzero : amount = 0
  · subst hzero
    rw [if_pos ⟨rfl, h.not_any_fixed true⟩, untaxedOf_zero]
    exact ⟨rfl, .inl ⟨rfl, .inr (.inl rfl)⟩⟩
  rw [if_neg fun hboth => hzero hboth.1]
  have hincluded : ((sortedTaxes taxes).map (·.inMode true)).filter (·.isInclusive) =
      (sortedTaxes taxes).map (·.inMode true) :=
    List.filter_eq_self.mpr fun tax htax => by
      obtain ⟨t, -, rfl⟩ := List.mem_map.mp htax
      rfl
  have hexclusive : (((sortedTaxes taxes).map (·.inMode true)).filter fun t => !t.isInclusive) = [] :=
    List.filter_eq_nil_iff.mpr fun tax htax => by
      obtain ⟨t, -, rfl⟩ := List.mem_map.mp htax
      simp [TaxDefinitionLike.inMode]
  simp only [sortedTaxes_map_inMode, hincluded, hexclusive, h.inclusivePart_eq, exclusiveLines,
    List.append_nil, true_and]
  by_cases hpos : 0 < combinedRateOf taxes
  · exact .inr (if_pos hpos)
  · exact .inl ⟨if_neg hpos, .inr (.inr (not_lt.mp hpos))⟩

include h in
theorem pricedWith_total (amount quantity : ℚ) (isSale : Bool) :
    (pricedWith amount taxes quantity isSale).totalAmount = amount := by
  unfold pricedWith
  rw [h.taxesForPriceMode_eq]
  refine computeTaxes_total_of_included (fun tax htax _ => ?_) amount quantity isSale
  obtain ⟨t, -, rfl⟩ := List.mem_map.mp htax
  rfl

include h in
/-- Before the last tax, the lines in the price are those of plain taxes. -/
theorem amountAt_pricedWith {amount quantity : ℚ} {isSale : Bool} {k : ℕ}
    {tax : TaxDefinitionLike} (hk : (sortedTaxes taxes)[k]? = some tax)
    (hlast : k + 1 < taxes.length) :
    amountAt (pricedWith amount taxes quantity isSale).taxLines k =
      roundMoney (untaxedOf amount (combinedRateOf taxes) * (tax.rate / 100)) := by
  rcases (h.pricedWith_cases amount quantity isSale).2 with ⟨hlines, hwhy⟩ | hlines
  · rw [hlines, amountAt_nil, roundMoney]
    rcases hwhy with rfl | rfl | hnone
    · exact absurd hlast (Nat.not_lt_zero _)
    · rw [untaxedOf_zero, zero_mul, roundTo_zero]
    · have hrate := h.percentages_sortedTaxes.rate_eq_zero le_rfl hnone tax
        (List.mem_of_getElem? hk)
      rw [hrate, zero_div, mul_zero, roundTo_zero]
  · have hk' : ((sortedTaxes taxes).map (·.inMode true))[k]? = some (tax.inMode true) := by
      rw [List.getElem?_map, hk]
      rfl
    rw [hlines, amountAt_distributeInclusive hk']
    · rfl
    · rwa [List.length_map, h.length_sortedTaxes]

include h in
/-- A plain tax on top is charged on the untaxed amount. -/
theorem amountAt_onTop {untaxed quantity : ℚ} {isSale : Bool} {k : ℕ} {tax : TaxDefinitionLike}
    (hk : (sortedTaxes taxes)[k]? = some tax) (hplain : tax.isCompound = false) :
    amountAt (computeTaxes untaxed (taxes.map (·.inMode false)) quantity isSale).taxLines k =
      roundMoney (untaxed * (tax.rate / 100)) := by
  have htype := (h.percentages_sortedTaxes tax (List.mem_of_getElem? hk)).1
  rcases (onTop_cases taxes untaxed quantity isSale).2 with ⟨hlines, hwhy⟩ | hlines
  · rw [hlines, amountAt_nil, roundMoney]
    rcases hwhy with rfl | rfl
    · exact absurd (List.mem_of_getElem? hk) List.not_mem_nil
    · rw [zero_mul, roundTo_zero]
  · have hk' : ((sortedTaxes taxes).map (·.inMode false))[k]? = some (tax.inMode false) := by
      rw [List.getElem?_map, hk]
      rfl
    rw [hlines, amountAt_exclusiveLines hk' htype hplain]
    rfl

include h in
/-- What taxes on top come to, up to the rounding of each. -/
theorem abs_onTop_total_le (untaxed quantity : ℚ) (isSale : Bool) :
    |(computeTaxes untaxed (taxes.map (·.inMode false)) quantity isSale).totalAmount -
        untaxed * (1 + combinedRateOf taxes)| ≤
      taxes.length * (1 + combinedRateOf taxes) / 200 := by
  have hnonneg := h.combinedRate_nonneg
  obtain ⟨huntaxed, hcases⟩ := onTop_cases taxes untaxed quantity isSale
  rw [← computeTaxes_untaxed_add_taxTotal, huntaxed]
  rcases hcases with ⟨hlines, hwhy⟩ | hlines
  · rw [hlines, taxTotal_nil, add_zero]
    rcases hwhy with rfl | rfl
    · simp [combinedRateOf, sortedTaxes]
    · rw [zero_mul, sub_zero, abs_zero]
      positivity
  · have hstart : |untaxed - untaxed * (1 + 0)| ≤ (0 : ℕ) * (1 + 0) / 200 := by simp
    have herror := (h.percentages_sortedTaxes.map_inMode false).exclusiveLines_error quantity
      isSale le_rfl hstart
    rw [foldl_combineRate_map_inMode, List.length_map, h.length_sortedTaxes, Nat.cast_zero,
      zero_add] at herror
    rw [hlines]
    exact herror

include h in
/-- However the modes differ in the total, their lines differ in no more. -/
theorem modesAgree_of_total {amount quantity bound : ℚ} {isSale : Bool}
    (htotal : |(pricedWith amount taxes quantity isSale).totalAmount -
      (pricedOnTop amount taxes quantity isSale).totalAmount| ≤ bound) :
    ModesAgree taxes bound (pricedWith amount taxes quantity isSale)
      (pricedOnTop amount taxes quantity isSale) := by
  have huntaxed := (h.pricedWith_cases amount quantity isSale).1
  have hplain : ∀ k tax, (sortedTaxes taxes)[k]? = some tax → k + 1 < taxes.length →
      tax.isCompound = false → amountAt (pricedWith amount taxes quantity isSale).taxLines k =
        amountAt (pricedOnTop amount taxes quantity isSale).taxLines k := by
    intro k tax hk hlast hplain
    rw [pricedOnTop, huntaxed, h.amountAt_pricedWith hk hlast, h.amountAt_onTop hk hplain]
  refine ⟨htotal, hplain, fun n hn hothers => ?_⟩
  have hsame : ∀ k < n, amountAt (pricedWith amount taxes quantity isSale).taxLines k =
      amountAt (pricedOnTop amount taxes quantity isSale).taxLines k := by
    intro k hk
    have hlt : k < (sortedTaxes taxes).length := by
      rw [h.length_sortedTaxes, hn]
      exact Nat.lt_succ_of_lt hk
    exact hplain k _ (List.getElem?_eq_getElem hlt) (by omega)
      (hothers k _ (List.getElem?_eq_getElem hlt) hk)
  have hlength : (pricedWith amount taxes quantity isSale).taxLines.length ≤ n + 1 := by
    rcases (h.pricedWith_cases amount quantity isSale).2 with ⟨hlines, -⟩ | hlines
    · rw [hlines]
      exact Nat.zero_le _
    · rw [hlines, length_distributeInclusive, List.length_map, h.length_sortedTaxes, hn]
  have hlength' : (pricedOnTop amount taxes quantity isSale).taxLines.length ≤ n + 1 := by
    rcases (onTop_cases taxes _ quantity isSale).2 with ⟨hlines, -⟩ | hlines
    · rw [pricedOnTop, hlines]
      exact Nat.zero_le _
    · rw [pricedOnTop, hlines, length_exclusiveLines, List.length_map, h.length_sortedTaxes, hn]
  rw [amountAt_sub_of_taxTotal hlength hlength' hsame]
  -- The untaxed amounts are the same, so the totals differ by the tax.
  have hin := computeTaxes_untaxed_add_taxTotal amount (taxesForPriceMode taxes true) quantity isSale
  have hon := computeTaxes_untaxed_add_taxTotal
    (pricedWith amount taxes quantity isSale).untaxedAmount (taxes.map (·.inMode false)) quantity
    isSale
  rw [(onTop_cases taxes _ quantity isSale).1] at hon
  have hdiff : taxTotal (pricedWith amount taxes quantity isSale).taxLines -
      taxTotal (pricedOnTop amount taxes quantity isSale).taxLines =
      (pricedWith amount taxes quantity isSale).totalAmount -
        (pricedOnTop amount taxes quantity isSale).totalAmount := by
    unfold pricedOnTop
    rw [← hon]
    unfold pricedWith
    rw [← hin]
    ring
  rwa [hdiff]

include h in
theorem abs_total_sub_le (amount quantity : ℚ) (isSale : Bool) :
    |(pricedWith amount taxes quantity isSale).totalAmount -
        (pricedOnTop amount taxes quantity isSale).totalAmount| ≤
      (taxes.length + 1) * (1 + combinedRateOf taxes) / 200 := by
  have huntaxed := (h.pricedWith_cases amount quantity isSale).1
  have hin := abs_sub_untaxedOf_le amount h.combinedRate_nonneg
  have hon := h.abs_onTop_total_le (untaxedOf amount (combinedRateOf taxes)) quantity isSale
  rw [h.pricedWith_total, pricedOnTop, huntaxed]
  rw [abs_le] at hin hon ⊢
  constructor <;> linarith

include h in
/-- An amount in whole cents leaves a difference in whole cents. -/
theorem onGrid_total_sub {amount : ℚ} (hcents : OnGrid 2 amount) (quantity : ℚ) (isSale : Bool) :
    OnGrid 2 ((pricedWith amount taxes quantity isSale).totalAmount -
      (pricedOnTop amount taxes quantity isSale).totalAmount) := by
  have huntaxed : OnGrid 2 (pricedWith amount taxes quantity isSale).untaxedAmount := by
    rw [(h.pricedWith_cases amount quantity isSale).1, untaxedOf]
    split
    · exact onGrid_roundTo _
    · exact hcents
  rw [h.pricedWith_total]
  refine hcents.sub ?_
  unfold pricedOnTop
  obtain ⟨hsame, hcases⟩ := onTop_cases taxes
    (pricedWith amount taxes quantity isSale).untaxedAmount quantity isSale
  rw [← computeTaxes_untaxed_add_taxTotal, hsame]
  refine huntaxed.add ?_
  rcases hcases with ⟨hlines, -⟩ | hlines
  · rw [hlines]
    exact onGrid_zero
  · rw [hlines]
    exact onGrid_taxTotal_exclusiveLines ..

end ActivePercentages

/-- Active percentages in a price and on top of its untaxed amount agree up to half a cent, with
the tax on it, for each tax and the untaxed amount; for whole cents and a rate below one hundred
per cent, up to one cent for each tax. -/
theorem priceModes_agree {taxes : List TaxDefinitionLike} (h : ActivePercentages taxes)
    (amount quantity : ℚ) (isSale : Bool) :
    ModesAgree taxes ((taxes.length + 1) * (1 + combinedRateOf taxes) / 200)
        (pricedWith amount taxes quantity isSale) (pricedOnTop amount taxes quantity isSale) ∧
      (OnGrid 2 amount → combinedRateOf taxes < 1 →
        ModesAgree taxes (taxes.length / 10 ^ 2)
          (pricedWith amount taxes quantity isSale)
          (pricedOnTop amount taxes quantity isSale)) := by
  have htotal := h.abs_total_sub_le amount quantity isSale
  refine ⟨h.modesAgree_of_total htotal, fun hcents hrate => h.modesAgree_of_total ?_⟩
  refine (h.onGrid_total_sub hcents quantity isSale).abs_le_of_abs_lt (htotal.trans_lt ?_)
  have hcount : (0 : ℚ) < taxes.length + 1 := by positivity
  rw [div_lt_div_iff₀ (by norm_num) (by norm_num)]
  nlinarith

/-- A percentage in the catalog. -/
def percentage (code : String) (rate : ℚ) (isCompound : Bool) (sequence : ℤ) : TaxDefinitionLike :=
  { id := code, code := code, name := code, type := .PERCENTAGE, rate := rate
    isInclusive := false, isCompound := isCompound, sequence := sequence, scope := some .SALE
    taxPayableAccountCode := none, taxReceivableAccountCode := none, isActive := true }

/-- A levy of ten per cent, and a compound tax of eighteen on it. -/
def levyAndVat : List TaxDefinitionLike := [percentage "LEVY" 10 false 1, percentage "VAT" 18 true 2]

theorem priceModes_agree_levyAndVat :
    ModesAgree levyAndVat (levyAndVat.length / 10 ^ 2) (pricedWith 100 levyAndVat 1 true)
      (pricedOnTop 100 levyAndVat 1 true) :=
  (priceModes_agree (by decide) 100 1 true).2 (by decide +kernel) (by decide +kernel)

/-- A compound tax between two plain ones is taken out as a plain one: of a price of 126 that
ten, ten and five per cent make, it is 10 in the price and 11 on top.  High rates, fractions of
a cent and rates below zero leave more than one cent as well. -/
theorem priceModes_disagree :
    let compound := [percentage "A" 10 false 1, percentage "B" 10 true 2, percentage "C" 5 false 3]
    let high := [percentage "A" 300 false 1]
    let vat := [percentage "A" 18 false 1]
    let negative := [percentage "A" (-10) false 1]
    ((pricedWith 126 compound 1 true).taxLines.map (·.taxAmount) = [10, 10, 6] ∧
        (pricedOnTop 126 compound 1 true).taxLines.map (·.taxAmount) = [10, 11, 5]) ∧
      ¬ |(pricedWith (2 / 100) high 1 true).totalAmount -
        (pricedOnTop (2 / 100) high 1 true).totalAmount| ≤ 1 / 100 ∧
      ¬ |(pricedWith (2892 / 10000) vat 1 true).totalAmount -
        (pricedOnTop (2892 / 10000) vat 1 true).totalAmount| ≤ 1 / 100 ∧
      ¬ |(pricedWith 100 negative 1 true).totalAmount -
        (pricedOnTop 100 negative 1 true).totalAmount| ≤ 1 / 100 := by
  decide +kernel

end SmartErpPos.Tax
