/-
  Hr/PayrollInput.lean --- what the computation of a month's pay returns.

  On valid input it never throws, and its figures are those of the input in closed form.
-/
import SmartErpPos.Hr.PayrollFigures

set_option autoImplicit false

namespace SmartErpPos.Hr

open SmartErpPos.Lib

/-! ## The figures of an input -/

/-- What unpaid leave takes off the basic salary. -/
def leaveOf (basic days working : ℚ) : ℚ := money2 (basic * min days working / working)

namespace PayrollComputeInput

variable (input : PayrollComputeInput)

def basic : ℚ := money2 input.basicSalary
def allowances : ℚ := money2 input.monthlyAllowance
def overtime : ℚ := money2 (input.overtimePay.getD 0)
def bonusPay : ℚ := money2 (input.bonus.getD 0)
def openAdvance : ℚ := money2 input.openAdvanceRemaining
def leaveDays : ℚ := money2 (input.unpaidLeaveDays.getD 0)
def workingDays : ℚ := money2 (input.workingDaysPerMonth.getD 26)

def leave : ℚ := leaveOf input.basic input.leaveDays input.workingDays

def gross : ℚ := input.basic + input.allowances + input.overtime + input.bonusPay - input.leave

def nssf : ℚ := nssfEmployeeOf (statutoryOf input.statutory) input.gross
def employerNssf : ℚ := nssfEmployerOf (statutoryOf input.statutory) input.gross
def payeTax : ℚ := payeOf (statutoryOf input.statutory) input.gross

def recovered : ℚ := min input.openAdvance (input.gross - input.nssf - input.payeTax)

def net : ℚ := input.gross - input.nssf - input.payeTax - input.recovered

/-- Amounts that are not negative, working days in the month, accepted settings, and employee
deductions within the gross. -/
structure Valid : Prop where
  basicSalary : 0 ≤ input.basicSalary
  monthlyAllowance : 0 ≤ input.monthlyAllowance
  overtimePay : ∀ amount ∈ input.overtimePay, 0 ≤ amount
  bonus : ∀ amount ∈ input.bonus, 0 ≤ amount
  openAdvanceRemaining : 0 ≤ input.openAdvanceRemaining
  unpaidLeaveDays : ∀ days ∈ input.unpaidLeaveDays, 0 ≤ days
  workingDays : 0 < input.workingDays
  settings : ∀ settings ∈ input.statutory, assertStatutorySettings settings = .ok ()
  within : input.nssf + input.payeTax ≤ input.gross

variable {input}

theorem money2_getD_nonneg {amount : Option ℚ} (h : ∀ a ∈ amount, 0 ≤ a) :
    0 ≤ money2 (amount.getD 0) := by
  cases amount with
  | none => exact money2_nonneg le_rfl
  | some a => exact money2_nonneg (h a rfl)

theorem onGrid_gross : OnGrid 2 input.gross :=
  ((((onGrid_money2 _).add (onGrid_money2 _)).add (onGrid_money2 _)).add (onGrid_money2 _)).sub
    (onGrid_money2 _)

theorem onGrid_nssf : OnGrid 2 input.nssf := onGrid_nssfEmployeeOf _ _

theorem onGrid_employerNssf : OnGrid 2 input.employerNssf := onGrid_nssfEmployerOf _ _

theorem onGrid_payeTax : OnGrid 2 input.payeTax := onGrid_payeOf _ _

theorem onGrid_recovered : OnGrid 2 input.recovered := by
  unfold recovered
  rcases min_choice input.openAdvance (input.gross - input.nssf - input.payeTax) with h | h
  · rw [h]
    exact onGrid_money2 _
  · rw [h]
    exact (onGrid_gross.sub onGrid_nssf).sub onGrid_payeTax

theorem onGrid_net : OnGrid 2 input.net :=
  ((onGrid_gross.sub onGrid_nssf).sub onGrid_payeTax).sub onGrid_recovered

namespace Valid

theorem accepted (h : input.Valid) : AcceptedSettings (statutoryOf input.statutory) := by
  constructor
  cases hstatutory : input.statutory with
  | none => decide +kernel
  | some settings => exact h.settings settings hstatutory

/-- Leave takes at most the basic salary. -/
theorem leave_bounds (h : input.Valid) : 0 ≤ input.leave ∧ input.leave ≤ input.basic := by
  have hbasic : 0 ≤ input.basic := money2_nonneg h.basicSalary
  have hdays : 0 ≤ input.leaveDays := money2_getD_nonneg h.unpaidLeaveDays
  have hworking := h.workingDays
  constructor
  · exact money2_nonneg (div_nonneg (mul_nonneg hbasic (le_min hdays hworking.le)) hworking.le)
  · refine roundTo_le ?_ (onGrid_money2 _)
    rw [div_le_iff₀ hworking]
    exact mul_le_mul_of_nonneg_left (min_le_right _ _) hbasic

theorem gross_nonneg (h : input.Valid) : 0 ≤ input.gross := by
  have hallowances : 0 ≤ input.allowances := money2_nonneg h.monthlyAllowance
  have hovertime : 0 ≤ input.overtime := money2_getD_nonneg h.overtimePay
  have hbonus : 0 ≤ input.bonusPay := money2_getD_nonneg h.bonus
  have hleave := h.leave_bounds.2
  unfold gross
  linarith

theorem recovered_nonneg (h : input.Valid) : 0 ≤ input.recovered := by
  have hwithin := h.within
  exact le_min (money2_nonneg h.openAdvanceRemaining) (by linarith)


end Valid

theorem net_nonneg : 0 ≤ input.net := sub_nonneg.mpr (min_le_right _ _)

variable (input) in
/-- The result of the computation, figure by figure. -/
def result : PayrollComputeResult where
  basicSalary := input.basic
  allowances := input.allowances
  overtimePay := input.overtime
  bonus := input.bonusPay
  unpaidLeaveDays := input.leaveDays
  leaveDeduction := input.leave
  gross := input.gross
  nssfEmployee := input.nssf
  paye := input.payeTax
  nssfEmployer := input.employerNssf
  advanceRecovered := input.recovered
  deductions := input.recovered + input.nssf + input.payeTax
  netPay := input.net

end PayrollComputeInput

open PayrollComputeInput

theorem unpaidLeaveDeduction_eq {basic days working : ℚ} (hbasic : OnGrid 2 basic)
    (hdays : OnGrid 2 days) (hworking : OnGrid 2 working) (hbasic0 : 0 ≤ basic) (hdays0 : 0 ≤ days)
    (hworking0 : 0 < working) :
    unpaidLeaveDeduction basic days working = .ok (leaveOf basic days working) := by
  unfold unpaidLeaveDeduction leaveOf
  simp only [money2_of_onGrid hbasic, money2_of_onGrid hdays, money2_of_onGrid hworking, require,
    if_pos hbasic0, if_pos hdays0, if_pos hworking0, bind, Except.bind]
  by_cases hnone : basic = 0 ∨ days = 0
  · have hzero : basic * min days working / working = 0 := by
      rcases hnone with h | h
      · rw [h, zero_mul, zero_div]
      · rw [h, min_eq_left hworking0.le, mul_zero, zero_div]
    rw [if_pos hnone, hzero, money2_zero]
    rfl
  · have hcapped : (if working < days then working else days) = min days working := by
      split
      · rename_i h
        exact (min_eq_right h.le).symm
      · rename_i h
        exact (min_eq_left (not_lt.mp h)).symm
    rw [if_neg hnone, hcapped]
    rfl

theorem assertPayrollIdentity_ok {gross recovered net nssf paye : ℚ} (hrecovered : OnGrid 2 recovered)
    (hnet : OnGrid 2 net) (hnssf : OnGrid 2 nssf) (hpaye : OnGrid 2 paye)
    (hsum : gross = recovered + nssf + paye + net) :
    assertPayrollIdentity gross recovered net nssf paye = .ok () := by
  unfold assertPayrollIdentity
  refine if_pos ?_
  rw [money2_of_onGrid hrecovered, money2_of_onGrid hnssf, money2_of_onGrid hpaye,
    money2_of_onGrid hnet, hsum]

/-- Valid input is computed without an error. -/
theorem computePayrollAmounts_eq {input : PayrollComputeInput} (h : input.Valid) :
    computePayrollAmounts input = .ok input.result := by
  have hbasic : 0 ≤ input.basic := money2_nonneg h.basicSalary
  have hallowances : 0 ≤ input.allowances := money2_nonneg h.monthlyAllowance
  have hovertime : 0 ≤ input.overtime := money2_getD_nonneg h.overtimePay
  have hbonus : 0 ≤ input.bonusPay := money2_getD_nonneg h.bonus
  have hopen : 0 ≤ input.openAdvance := money2_nonneg h.openAdvanceRemaining
  have hdays : 0 ≤ input.leaveDays := money2_getD_nonneg h.unpaidLeaveDays
  have hleave : unpaidLeaveDeduction input.basic input.leaveDays input.workingDays =
      .ok input.leave :=
    unpaidLeaveDeduction_eq (onGrid_money2 _) (onGrid_money2 _) (onGrid_money2 _) hbasic hdays
      h.workingDays
  have hleaveRound : money2 input.leave = input.leave := money2_money2 _
  have hcontractual : money2 (input.basic + input.allowances + input.overtime + input.bonusPay) =
      input.basic + input.allowances + input.overtime + input.bonusPay :=
    money2_of_onGrid ((((onGrid_money2 _).add (onGrid_money2 _)).add (onGrid_money2 _)).add
      (onGrid_money2 _))
  have hgross : money2 (input.basic + input.allowances + input.overtime + input.bonusPay -
      input.leave) = input.gross := money2_of_onGrid onGrid_gross
  have hstatutory := computeStatutoryDeductions_eq h.accepted onGrid_gross h.gross_nonneg h.within
  have hnssf : money2 (nssfEmployeeOf (statutoryOf input.statutory) input.gross) = input.nssf :=
    money2_of_onGrid onGrid_nssf
  have hpaye : money2 (payeOf (statutoryOf input.statutory) input.gross) = input.payeTax :=
    money2_of_onGrid onGrid_payeTax
  have hemployer : money2 (nssfEmployerOf (statutoryOf input.statutory) input.gross) =
      input.employerNssf := money2_of_onGrid onGrid_employerNssf
  have hafter : money2 (input.gross - input.nssf - input.payeTax) =
      input.gross - input.nssf - input.payeTax :=
    money2_of_onGrid ((onGrid_gross.sub onGrid_nssf).sub onGrid_payeTax)
  have hafter0 : 0 ≤ input.gross - input.nssf - input.payeTax := by linarith [h.within]
  have hrecovered : money2 (if input.openAdvance < input.gross - input.nssf - input.payeTax then
      input.openAdvance else input.gross - input.nssf - input.payeTax) = input.recovered := by
    have hmin : (if input.openAdvance < input.gross - input.nssf - input.payeTax then
        input.openAdvance else input.gross - input.nssf - input.payeTax) = input.recovered := by
      unfold recovered
      split
      · rename_i hlt
        exact (min_eq_left hlt.le).symm
      · rename_i hge
        exact (min_eq_right (not_lt.mp hge)).symm
    rw [hmin]
    exact money2_of_onGrid onGrid_recovered
  have hdeductions : money2 (input.recovered + input.nssf + input.payeTax) =
      input.recovered + input.nssf + input.payeTax :=
    money2_of_onGrid ((onGrid_recovered.add onGrid_nssf).add onGrid_payeTax)
  have hnet : money2 (input.gross - (input.recovered + input.nssf + input.payeTax)) = input.net := by
    rw [show input.gross - (input.recovered + input.nssf + input.payeTax) = input.net by
      unfold net
      ring]
    exact money2_of_onGrid onGrid_net
  have hidentity : assertPayrollIdentity input.gross input.recovered input.net input.nssf
      input.payeTax = .ok () := by
    refine assertPayrollIdentity_ok onGrid_recovered onGrid_net onGrid_nssf onGrid_payeTax ?_
    unfold net
    ring
  have hinput : money2 input.basicSalary = input.basic ∧
      money2 input.monthlyAllowance = input.allowances ∧
      money2 (input.overtimePay.getD 0) = input.overtime ∧
      money2 (input.bonus.getD 0) = input.bonusPay ∧
      money2 input.openAdvanceRemaining = input.openAdvance ∧
      money2 (input.unpaidLeaveDays.getD 0) = input.leaveDays ∧
      money2 (input.workingDaysPerMonth.getD 26) = input.workingDays :=
    ⟨rfl, rfl, rfl, rfl, rfl, rfl, rfl⟩
  unfold computePayrollAmounts
  simp only [hinput, requireNonneg, require, if_pos hbasic, if_pos hallowances, if_pos hovertime,
    if_pos hbonus, if_pos hopen, if_pos hdays, if_pos h.workingDays, bind, Except.bind, hleave,
    hleaveRound, hcontractual, hgross, if_pos h.gross_nonneg, hstatutory, hnssf, hpaye, hemployer,
    hafter, if_pos hafter0, hrecovered, hdeductions, hnet, if_pos net_nonneg, hidentity]
  rfl

end SmartErpPos.Hr
