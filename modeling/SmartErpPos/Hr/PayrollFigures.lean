/-
  Hr/PayrollFigures.lean --- the month's figures in closed form.

  For input that is not negative, accepted settings and deductions within the gross, no
  check of the computation fails, and every figure is the one its rule gives: roundings of
  sums of cents change nothing.
-/
import SmartErpPos.Hr.Payroll

set_option autoImplicit false

namespace SmartErpPos.Hr

open SmartErpPos.Lib

theorem onGrid_money2 (q : ℚ) : OnGrid 2 (money2 q) := onGrid_roundTo q

@[simp] theorem money2_money2 (q : ℚ) : money2 (money2 q) = money2 q := roundTo_roundTo q

theorem money2_of_onGrid {q : ℚ} (h : OnGrid 2 q) : money2 q = q := h.roundTo_eq

theorem money2_nonneg {q : ℚ} (h : 0 ≤ q) : 0 ≤ money2 q := roundTo_nonneg h

@[simp] theorem money2_zero : money2 0 = 0 := money2_of_onGrid onGrid_zero

/-! ## PAYE and NSSF -/

/-- The PAYE of an income in cents. -/
def payeOn (bands : List PayeBand) (taxable : ℚ) : ℚ :=
  if taxable ≤ 0 then 0
  else
    match bands.reverse.find? fun band => decide (band.fromIncome ≤ taxable) with
    | some band => money2 (money2 band.baseTax + (taxable - band.fromIncome) * band.rate)
    | none => 0

/-- An accepted table has a band for every positive income. -/
theorem exists_band {bands : List PayeBand} (h : AcceptedBands bands) {t : ℚ} (ht : 0 ≤ t) :
    ∃ band, bands.reverse.find? (fun band => decide (band.fromIncome ≤ t)) = some band := by
  rw [← Option.isSome_iff_exists, List.find?_isSome]
  cases bands with
  | nil => exact absurd rfl h.nonempty
  | cons first rest =>
    have hfirst : first.fromIncome = 0 := h.first first rfl
    exact ⟨first, List.mem_reverse.mpr List.mem_cons_self, decide_eq_true (hfirst ▸ ht)⟩

theorem computePaye_eq {bands : List PayeBand} (h : AcceptedBands bands) (income : ℚ) :
    computePaye income bands = .ok (payeOn bands (money2 income)) := by
  have haccepted : assertPayeBands bands = .ok () := assertPayeBands_ok.mpr h
  unfold computePaye payeOn
  rw [haccepted]
  by_cases hzero : money2 income ≤ 0
  · simp only [if_pos hzero]
    rfl
  · obtain ⟨band, hband⟩ := exists_band h (not_le.mp hzero).le
    simp only [if_neg hzero, hband, money2_money2]
    rfl

theorem onGrid_payeOn (bands : List PayeBand) (t : ℚ) : OnGrid 2 (payeOn bands t) := by
  unfold payeOn
  split
  · exact onGrid_zero
  · split
    · exact onGrid_money2 _
    · exact onGrid_zero

theorem payeOn_nonneg {bands : List PayeBand} (h : AcceptedBands bands) (t : ℚ) :
    0 ≤ payeOn bands t := by
  unfold payeOn
  split
  · exact le_rfl
  · split
    · rename_i band hband
      have hmem := List.mem_reverse.mp (List.mem_of_find?_eq_some hband)
      have hfrom : band.fromIncome ≤ t := by simpa using List.find?_some hband
      have hrate := (h.rate band hmem).1
      have hbase := money2_nonneg (h.baseTax band hmem)
      have hmarginal := mul_nonneg (sub_nonneg.mpr hfrom) hrate
      exact money2_nonneg (by linarith)
    · exact le_rfl

/-- The NSSF of a gross in cents. -/
def nssfOn (rate gross : ℚ) : ℚ := money2 (gross * rate)

theorem computeNssfEmployee_eq {gross rate : ℚ} (hgrid : OnGrid 2 gross) (hgross : 0 ≤ gross)
    (hrate : 0 ≤ rate ∧ rate ≤ 1) : computeNssfEmployee gross rate = .ok (nssfOn rate gross) := by
  have hrequire : require (0 ≤ rate ∧ rate ≤ 1)
      ("STATUTORY_NSSF_RATE_INVALID: " ++ decimalText rate) = .ok () := if_pos hrate
  unfold computeNssfEmployee nssfOn
  rw [hrequire, money2_of_onGrid hgrid]
  by_cases hzero : gross ≤ 0 ∨ rate = 0
  · have hnone : gross * rate = 0 := by
      rcases hzero with h | h
      · rw [le_antisymm h hgross, zero_mul]
      · rw [h, mul_zero]
    simp only [if_pos hzero, hnone, money2_zero]
    rfl
  · simp only [if_neg hzero]
    rfl

/-! ## Settings -/

/-- What `assertStatutorySettings` enforces of the figures. -/
structure AcceptedSettings (settings : StatutorySettings) : Prop where
  accepted : assertStatutorySettings settings = .ok ()

theorem AcceptedSettings.employeeRate {settings : StatutorySettings} (h : AcceptedSettings settings) :
    0 ≤ settings.nssfEmployeeRate ∧ settings.nssfEmployeeRate ≤ 1 := by
  have haccepted := h.accepted
  simp only [assertStatutorySettings, assertRate, bind_eq_ok, require_eq_ok] at haccepted
  obtain ⟨_, hrate, _⟩ := haccepted
  exact hrate

theorem AcceptedSettings.employerRate {settings : StatutorySettings} (h : AcceptedSettings settings) :
    0 ≤ settings.nssfEmployerRate ∧ settings.nssfEmployerRate ≤ 1 := by
  have haccepted := h.accepted
  simp only [assertStatutorySettings, assertRate, bind_eq_ok, require_eq_ok] at haccepted
  obtain ⟨_, -, _, hrate, _⟩ := haccepted
  exact hrate

theorem AcceptedSettings.bands {settings : StatutorySettings} (h : AcceptedSettings settings)
    (henabled : settings.enabled = true) (hpaye : settings.payeEnabled = true) :
    AcceptedBands settings.payeBands := by
  have haccepted := h.accepted
  simp only [assertStatutorySettings, bind_eq_ok, require_eq_ok] at haccepted
  obtain ⟨_, -, _, -, _, -, _, -, _, -, _, -, hbands⟩ := haccepted
  rw [henabled, hpaye] at hbands
  exact assertPayeBands_ok.mp hbands

/-! ## The statutory deductions of a gross -/

section Deductions

variable (settings : StatutorySettings) (gross : ℚ)

def nssfEmployeeOf : ℚ := if settings.enabled then nssfOn settings.nssfEmployeeRate gross else 0

def nssfEmployerOf : ℚ := if settings.enabled then nssfOn settings.nssfEmployerRate gross else 0

def payeOf : ℚ :=
  if settings.enabled && settings.payeEnabled then
    payeOn settings.payeBands (gross - nssfEmployeeOf settings gross) else 0

theorem onGrid_nssfEmployeeOf : OnGrid 2 (nssfEmployeeOf settings gross) := by
  unfold nssfEmployeeOf
  split
  · exact onGrid_money2 _
  · exact onGrid_zero

theorem onGrid_nssfEmployerOf : OnGrid 2 (nssfEmployerOf settings gross) := by
  unfold nssfEmployerOf
  split
  · exact onGrid_money2 _
  · exact onGrid_zero

theorem onGrid_payeOf : OnGrid 2 (payeOf settings gross) := by
  unfold payeOf
  split
  · exact onGrid_payeOn _ _
  · exact onGrid_zero

variable {settings gross}

theorem nssfOn_bounds {rate : ℚ} (hrate : 0 ≤ rate ∧ rate ≤ 1) (hgrid : OnGrid 2 gross)
    (hgross : 0 ≤ gross) : 0 ≤ nssfOn rate gross ∧ nssfOn rate gross ≤ gross :=
  ⟨money2_nonneg (mul_nonneg hgross hrate.1),
    roundTo_le (mul_le_of_le_one_right hgross hrate.2) hgrid⟩

theorem nssfEmployeeOf_bounds (h : AcceptedSettings settings) (hgrid : OnGrid 2 gross)
    (hgross : 0 ≤ gross) :
    0 ≤ nssfEmployeeOf settings gross ∧ nssfEmployeeOf settings gross ≤ gross := by
  unfold nssfEmployeeOf
  split
  · exact nssfOn_bounds h.employeeRate hgrid hgross
  · exact ⟨le_rfl, hgross⟩

theorem nssfEmployerOf_nonneg (h : AcceptedSettings settings) (hgrid : OnGrid 2 gross)
    (hgross : 0 ≤ gross) : 0 ≤ nssfEmployerOf settings gross := by
  unfold nssfEmployerOf
  split
  · exact (nssfOn_bounds h.employerRate hgrid hgross).1
  · exact le_rfl

theorem payeOf_nonneg (h : AcceptedSettings settings) : 0 ≤ payeOf settings gross := by
  unfold payeOf
  split
  · rename_i hon
    rw [Bool.and_eq_true] at hon
    exact payeOn_nonneg (h.bands hon.1 hon.2) _
  · exact le_rfl

/-- Deductions within the gross are computed without an error. -/
theorem computeStatutoryDeductions_eq (h : AcceptedSettings settings) (hgrid : OnGrid 2 gross)
    (hgross : 0 ≤ gross)
    (hwithin : nssfEmployeeOf settings gross + payeOf settings gross ≤ gross) :
    computeStatutoryDeductions gross settings = .ok
      ⟨nssfEmployeeOf settings gross, payeOf settings gross, nssfEmployerOf settings gross⟩ := by
  have hround : money2 gross = gross := money2_of_onGrid hgrid
  unfold computeStatutoryDeductions
  rw [h.accepted]
  by_cases hoff : settings.enabled = false
  · simp only [hoff, nssfEmployeeOf, nssfEmployerOf, payeOf]
    rfl
  · have hon : settings.enabled = true := by simpa using hoff
    have hnssf := nssfEmployeeOf_bounds h hgrid hgross
    have hemployee : nssfEmployeeOf settings gross = nssfOn settings.nssfEmployeeRate gross :=
      if_pos hon
    have hemployer : nssfEmployerOf settings gross = nssfOn settings.nssfEmployerRate gross :=
      if_pos hon
    have htaxable : OnGrid 2 (gross - nssfEmployeeOf settings gross) :=
      hgrid.sub (onGrid_nssfEmployeeOf settings gross)
    have hemployeeRound := money2_of_onGrid (onGrid_nssfEmployeeOf settings gross)
    have hemployerRound := money2_of_onGrid (onGrid_nssfEmployerOf settings gross)
    have hpayeRound := money2_of_onGrid (onGrid_payeOf settings gross)
    have hpositive : 0 ≤ gross - nssfEmployeeOf settings gross := sub_nonneg.mpr hnssf.2
    simp only [if_neg hoff, hround, computeNssfEmployer, bind, Except.bind,
      computeNssfEmployee_eq hgrid hgross h.employeeRate,
      computeNssfEmployee_eq hgrid hgross h.employerRate, ← hemployee, ← hemployer,
      require, if_pos hgross, money2_of_onGrid htaxable, if_pos hpositive, hemployeeRound,
      hemployerRound]
    cases hpaye : settings.payeEnabled with
    | true =>
      have hvalue : computePaye (gross - nssfEmployeeOf settings gross) settings.payeBands =
          .ok (payeOf settings gross) := by
        rw [computePaye_eq (h.bands hon hpaye), money2_of_onGrid htaxable, payeOf, hon, hpaye]
        rfl
      simp only [if_true, hvalue, if_pos hwithin, hpayeRound]
      rfl
    | false =>
      have hvalue : payeOf settings gross = 0 := by
        rw [payeOf, hpaye, Bool.and_false]
        rfl
      rw [hvalue] at hwithin
      simp only [Bool.false_eq_true, if_false, hvalue, pure, Except.pure, if_pos hwithin, money2_zero]

end Deductions

end SmartErpPos.Hr
