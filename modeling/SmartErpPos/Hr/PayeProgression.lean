/-
  Hr/PayeProgression.lean --- PAYE as a progressive tax.

  Source: `src/shared/hr/statutoryMath.ts` (`PayeBand`, `assertPayeBands`, `computePaye`,
  `parsePayeBandsJson`).

  The tax of a progressive table charges each band's rate on the part of the income between
  `from` and `to`.  The computation reads neither `to` nor the bands below the one it picks:
  it trusts that the bands follow one another and that `baseTax` is the tax on what is below.
  The validation enforces neither.
-/
import SmartErpPos.Hr.PayrollFigures
import SmartErpPos.Lib.Brackets

set_option autoImplicit false

namespace SmartErpPos.Hr

open SmartErpPos.Lib

/-! ## The tax of a table -/

/-- The band as a bracket of incomes: `from` inclusive, `to` exclusive, open where it is null. -/
def PayeBand.bracket (band : PayeBand) : Bracket ℚ := ⟨band.fromIncome, band.toIncome, band.rate⟩

def bracketsOf (bands : List PayeBand) : List (Bracket ℚ) := bands.map PayeBand.bracket

/-- The rate of each band on the part of the income inside it. -/
def progressiveTax (bands : List PayeBand) (taxable : ℚ) : ℚ := bracketSum (bracketsOf bands) taxable

/-- The last band that starts at or below an income. -/
def bandFor (bands : List PayeBand) (taxable : ℚ) : Option PayeBand :=
  bands.reverse.find? fun band => decide (band.fromIncome ≤ taxable)

/-- PAYE is a progressive tax: to the cent it is the tax of the table on the income in cents, it does
not fall as the income grows, and it is never more than the income. -/
structure PayeProgressive (bands : List PayeBand) : Prop where
  tax : ∀ income, computePaye income bands = .ok (money2 (progressiveTax bands (money2 income)))
  mono : ∀ income income' paye paye', income ≤ income' → computePaye income bands = .ok paye →
    computePaye income' bands = .ok paye' → paye ≤ paye'
  within : ∀ income paye, 0 ≤ income → computePaye income bands = .ok paye → paye ≤ money2 income

/-- The condition on a table: the base tax of a band that is picked at its own start is the tax on
what is below, and wherever a band begins or ends, the bands that cover the point have together the
rate of the band that is picked there. -/
structure ProgressiveTable (bands : List PayeBand) : Prop where
  base : ∀ band, bandFor bands band.fromIncome = some band →
    money2 band.baseTax = progressiveTax bands band.fromIncome
  rates : ∀ p ∈ bracketEnds (bracketsOf bands), ∀ band, bandFor bands p = some band →
    rateAt (bracketsOf bands) p = band.rate

/-! ## The band that is picked -/

section

variable {bands : List PayeBand} {t p : ℚ} {band : PayeBand}

theorem bandFor_mem (h : bandFor bands t = some band) : band ∈ bands :=
  List.mem_reverse.mp (List.mem_of_find?_eq_some h)

theorem bandFor_le (h : bandFor bands t = some band) : band.fromIncome ≤ t := by
  simpa using List.find?_some h

/-- The band of an income is that of every income down to its start. -/
theorem bandFor_below (h : bandFor bands t = some band) (hfrom : band.fromIncome ≤ p) (hp : p ≤ t) :
    bandFor bands p = some band := by
  unfold bandFor at h ⊢
  rw [List.find?_eq_some_iff_append] at h ⊢
  obtain ⟨-, later, earlier, hsplit, hlater⟩ := h
  refine ⟨decide_eq_true hfrom, later, earlier, hsplit, fun b hb => ?_⟩
  have hnot := hlater b hb
  simp only [Bool.not_eq_true', decide_eq_false_iff_not, not_le] at hnot ⊢
  exact hp.trans_lt hnot

theorem from_mem_ends (h : band ∈ bands) : band.fromIncome ∈ bracketEnds (bracketsOf bands) :=
  List.mem_flatMap.mpr ⟨band.bracket, List.mem_map_of_mem h, List.mem_cons_self⟩

/-- The tax before it is rounded. -/
def taxOf (band : PayeBand) (taxable : ℚ) : ℚ :=
  money2 band.baseTax + (taxable - band.fromIncome) * band.rate

theorem payeOn_of_bandFor (ht : 0 < t) (h : bandFor bands t = some band) :
    payeOn bands t = money2 (taxOf band t) := by
  unfold bandFor at h
  unfold payeOn taxOf
  rw [if_neg (not_le.mpr ht), h]

theorem progressiveTax_of_nonpos (haccepted : AcceptedBands bands) (ht : t ≤ 0) :
    progressiveTax bands t = 0 := by
  refine List.sum_eq_zero fun x hx => ?_
  obtain ⟨b, hb, rfl⟩ := List.mem_map.mp hx
  obtain ⟨band, hband, rfl⟩ := List.mem_map.mp hb
  have hfrom := haccepted.fromIncome band hband
  have hpart : band.bracket.part t = 0 := by
    unfold Bracket.part PayeBand.bracket
    cases band.toIncome with
    | none => exact max_eq_left (by linarith)
    | some top => exact max_eq_left (by linarith [min_le_left t top])
  rw [hpart, mul_zero]

theorem progressiveTax_mono (haccepted : AcceptedBands bands) {t' : ℚ} (h : t ≤ t') :
    progressiveTax bands t ≤ progressiveTax bands t' := by
  refine bracketSum_mono (fun b hb => ?_) h
  obtain ⟨band, hband, rfl⟩ := List.mem_map.mp hb
  exact (haccepted.rate band hband).1

/-- In a progressive table the tax of the band that is picked is the tax of the table. -/
theorem ProgressiveTable.taxOf_eq (h : ProgressiveTable bands) (hband : bandFor bands t = some band) :
    taxOf band t = progressiveTax bands t := by
  have hle := bandFor_le hband
  have hown : bandFor bands band.fromIncome = some band := bandFor_below hband le_rfl hle
  unfold taxOf progressiveTax
  rw [bracketSum_of_rate (from_mem_ends (bandFor_mem hband)) hle fun p hp hfrom hlt =>
    h.rates p hp band (bandFor_below hband hfrom hlt.le)]
  rw [h.base band hown]
  rfl

/-- A progressive table takes no more than the income. -/
theorem ProgressiveTable.le (h : ProgressiveTable bands) (haccepted : AcceptedBands bands)
    (ht : 0 ≤ t) : progressiveTax bands t ≤ t := by
  obtain ⟨first, rest, rfl⟩ := List.exists_cons_of_ne_nil haccepted.nonempty
  have hzero : first.fromIncome = 0 := haccepted.first first rfl
  have hends : (0 : ℚ) ∈ bracketEnds (bracketsOf (first :: rest)) :=
    hzero ▸ from_mem_ends List.mem_cons_self
  have hsum := bracketSum_le hends ht fun p hp hpos => by
    obtain ⟨band, hband⟩ := exists_band haccepted hpos
    rw [h.rates p hp band hband]
    exact (haccepted.rate band (bandFor_mem hband)).2
  have hstart : bracketSum (bracketsOf (first :: rest)) 0 = 0 := progressiveTax_of_nonpos haccepted le_rfl
  rw [hstart, zero_add, sub_zero] at hsum
  exact hsum

end

/-! ## The property -/

theorem ProgressiveTable.payeOn_eq {bands : List PayeBand} (h : ProgressiveTable bands)
    (haccepted : AcceptedBands bands) (t : ℚ) : payeOn bands t = money2 (progressiveTax bands t) := by
  rcases le_or_gt t 0 with hle | hpos
  · rw [progressiveTax_of_nonpos haccepted hle, money2_zero]
    exact if_pos hle
  · obtain ⟨band, hband⟩ := exists_band haccepted hpos.le
    rw [payeOn_of_bandFor hpos hband, h.taxOf_eq hband]

/-- An accepted table that is progressive makes PAYE a progressive tax; and where PAYE is one, the
tax of the picked band is, before it is rounded, within a cent of the tax of the table. -/
theorem paye_progressive {bands : List PayeBand} (haccepted : assertPayeBands bands = .ok ()) :
    (ProgressiveTable bands → PayeProgressive bands) ∧
      (PayeProgressive bands → ∀ t, OnGrid 2 t → 0 < t → ∀ band, bandFor bands t = some band →
        |taxOf band t - progressiveTax bands t| ≤ 1 / 100) := by
  have haccepted := assertPayeBands_ok.mp haccepted
  refine ⟨fun h => ?_, fun h t hgrid hpos band hband => ?_⟩
  · have htax : ∀ income,
        computePaye income bands = .ok (money2 (progressiveTax bands (money2 income))) := by
      intro income
      rw [computePaye_eq haccepted, h.payeOn_eq haccepted]
    refine ⟨htax, ?_, ?_⟩
    · intro income income' paye paye' hle hpaye hpaye'
      rw [htax] at hpaye hpaye'
      cases hpaye
      cases hpaye'
      exact roundTo_mono (progressiveTax_mono haccepted (roundTo_mono hle))
    · intro income paye hincome hpaye
      rw [htax] at hpaye
      cases hpaye
      exact roundTo_le (h.le haccepted (money2_nonneg hincome)) (onGrid_money2 income)
  · have htax := h.tax t
    rw [computePaye_eq haccepted, money2_of_onGrid hgrid, payeOn_of_bandFor hpos hband] at htax
    have hsame : money2 (taxOf band t) = money2 (progressiveTax bands t) := Except.ok.inj htax
    have hleft := abs_le.mp (abs_roundTo_sub_le 2 (taxOf band t))
    have hright := abs_le.mp (abs_roundTo_sub_le 2 (progressiveTax bands t))
    unfold money2 at hsame
    rw [abs_le]
    constructor <;> linarith [hleft.1, hleft.2, hright.1, hright.2]

/-- Two bands, of a tenth up to 100 and of a fifth from there on, with a base tax for the second. -/
def twoBands (baseTax : ℚ) : List PayeBand :=
  [⟨0, some 100, 0, 1 / 10⟩, ⟨100, none, baseTax, 1 / 5⟩]

/-- The tax on the first 100 is 10. -/
theorem twoBands_progressive : ProgressiveTable (twoBands 10) where
  base := by
    intro band hband
    have hall : ∀ b ∈ twoBands 10, money2 b.baseTax = progressiveTax (twoBands 10) b.fromIncome := by
      decide +kernel
    exact hall band (bandFor_mem hband)
  rates := by decide +kernel

theorem paye_progressive_twoBands :
    assertPayeBands (twoBands 10) = .ok () ∧ PayeProgressive (twoBands 10) := by
  have haccepted : assertPayeBands (twoBands 10) = .ok () := by decide +kernel
  exact ⟨haccepted, (paye_progressive haccepted).1 twoBands_progressive⟩

/-- By the default table 9999999.00 is taxed 2901999.70 and 10000000.00 only 2870000.00, where the
bands make 2902000.00; a table with a base tax of 1000.00 takes that from an income of 100.00. -/
theorem paye_not_progressive :
    (assertPayeBands DEFAULT_UGANDA_PAYE_BANDS = .ok () ∧
      computePaye 9999999 DEFAULT_UGANDA_PAYE_BANDS = .ok (29019997 / 10) ∧
      computePaye 10000000 DEFAULT_UGANDA_PAYE_BANDS = .ok 2870000 ∧
      money2 (progressiveTax DEFAULT_UGANDA_PAYE_BANDS 10000000) = 2902000 ∧
      ¬ PayeProgressive DEFAULT_UGANDA_PAYE_BANDS) ∧
    (assertPayeBands (twoBands 1000) = .ok () ∧ computePaye 100 (twoBands 1000) = .ok 1000 ∧
      ¬ PayeProgressive (twoBands 1000)) := by
  have hless : computePaye 9999999 DEFAULT_UGANDA_PAYE_BANDS = .ok (29019997 / 10) := by
    decide +kernel
  have hmore : computePaye 10000000 DEFAULT_UGANDA_PAYE_BANDS = .ok 2870000 := by decide +kernel
  have hall : computePaye 100 (twoBands 1000) = .ok 1000 := by decide +kernel
  refine ⟨⟨by decide +kernel, hless, hmore, by decide +kernel, fun h => ?_⟩,
    by decide +kernel, hall, fun h => ?_⟩
  · exact absurd (h.mono 9999999 10000000 _ _ (by norm_num) hless hmore) (by decide +kernel)
  · exact absurd (h.within 100 _ (by norm_num) hall) (by decide +kernel)

end SmartErpPos.Hr
