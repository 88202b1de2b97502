/-
  Hr/Payroll.lean --- a month's pay, its journal, and the recovery of advances.

  Source: `src/shared/hr/payrollMath.ts` (`computePayrollAmounts`, `assertPayrollIdentity`,
  `buildPayrollAccrualJournal`, `allocateFifoRecovery`) and `unpaidLeaveDeduction` of
  `src/shared/hr/leaveMath.ts`.

  Every figure is rounded to cents where it is made.  An advance is recovered from what the
  statutory deductions leave of the gross; the net pay is the rest.

  Amounts are exact rationals.
-/
import SmartErpPos.Hr.Statutory

set_option autoImplicit false

namespace SmartErpPos.Hr

open SmartErpPos.Lib

/-! ## The month's amounts -/

structure PayrollComputeInput where
  basicSalary : ℚ
  monthlyAllowance : ℚ
  openAdvanceRemaining : ℚ
  overtimePay : Option ℚ
  bonus : Option ℚ
  unpaidLeaveDays : Option ℚ
  workingDaysPerMonth : Option ℚ
  statutory : Option StatutorySettings

structure PayrollComputeResult where
  basicSalary : ℚ
  allowances : ℚ
  overtimePay : ℚ
  bonus : ℚ
  unpaidLeaveDays : ℚ
  leaveDeduction : ℚ
  gross : ℚ
  nssfEmployee : ℚ
  paye : ℚ
  nssfEmployer : ℚ
  advanceRecovered : ℚ
  deductions : ℚ
  netPay : ℚ
  deriving DecidableEq

/-- `unpaidLeaveDeduction`. -/
def unpaidLeaveDeduction (basicSalary unpaidDays workingDaysPerMonth : ℚ) : Except String ℚ := do
  let basic := money2 basicSalary
  let days := money2 unpaidDays
  let working := money2 workingDaysPerMonth
  require (0 ≤ basic) ("LEAVE_DEDUCTION_NEGATIVE_BASIC: basic=" ++ decimalText basic)
  require (0 ≤ days) ("LEAVE_DEDUCTION_NEGATIVE_DAYS: unpaidDays=" ++ decimalText days)
  require (0 < working)
    ("LEAVE_DEDUCTION_BAD_WORKING_DAYS: workingDaysPerMonth must be > 0, got " ++
      decimalText working)
  if basic = 0 ∨ days = 0 then pure 0
  else
    let cappedDays := if working < days then working else days
    pure (money2 (basic * cappedDays / working))

/-- `assertPayrollIdentity`. -/
def assertPayrollIdentity (gross advanceRecovered netPay nssfEmployee paye : ℚ) :
    Except String Unit :=
  let lhs := money2 gross
  let rhs := money2 (money2 advanceRecovered + money2 nssfEmployee + money2 paye + money2 netPay)
  require (lhs = rhs)
    ("PAYROLL_IDENTITY_BROKEN: gross " ++ decimalText lhs ++ " ≠ recovered " ++
      decimalText advanceRecovered ++ " + nssf " ++ decimalText (money2 nssfEmployee) ++
      " + paye " ++ decimalText (money2 paye) ++ " + net " ++ decimalText netPay)

/-- The settings of a run without any: nothing is deducted. -/
def statutoryOf (settings : Option StatutorySettings) : StatutorySettings :=
  settings.getD { DEFAULT_STATUTORY_SETTINGS with enabled := false }

/-- A negative input is refused by name. -/
def requireNonneg (label : String) (amount : ℚ) : Except String Unit :=
  require (0 ≤ amount) ("PAYROLL_INPUT_NEGATIVE: " ++ label ++ "=" ++ decimalText amount)

/-- `computePayrollAmounts`. -/
def computePayrollAmounts (input : PayrollComputeInput) : Except String PayrollComputeResult := do
  let basicSalary := money2 input.basicSalary
  let allowances := money2 input.monthlyAllowance
  let overtimePay := money2 (input.overtimePay.getD 0)
  let bonus := money2 (input.bonus.getD 0)
  let openAdv := money2 input.openAdvanceRemaining
  let unpaidDays := money2 (input.unpaidLeaveDays.getD 0)
  let workingDays := money2 (input.workingDaysPerMonth.getD 26)
  requireNonneg "basicSalary" basicSalary
  requireNonneg "monthlyAllowance" allowances
  requireNonneg "overtimePay" overtimePay
  requireNonneg "bonus" bonus
  requireNonneg "openAdvanceRemaining" openAdv
  requireNonneg "unpaidLeaveDays" unpaidDays
  require (0 < workingDays) ("PAYROLL_WORKING_DAYS: must be > 0, got " ++ decimalText workingDays)
  let deduction ← unpaidLeaveDeduction basicSalary unpaidDays workingDays
  let leaveDeduction := money2 deduction
  let contractual := money2 (basicSalary + allowances + overtimePay + bonus)
  let gross := money2 (contractual - leaveDeduction)
  require (0 ≤ gross)
    ("PAYROLL_GROSS_NEGATIVE: contractual=" ++ decimalText contractual ++ " leaveDeduction=" ++
      decimalText leaveDeduction)
  let statutory ← computeStatutoryDeductions gross (statutoryOf input.statutory)
  let nssfEmployee := money2 statutory.nssfEmployee
  let paye := money2 statutory.paye
  let nssfEmployer := money2 statutory.nssfEmployer
  let afterStatutory := money2 (gross - nssfEmployee - paye)
  require (0 ≤ afterStatutory)
    ("PAYROLL_AFTER_STATUTORY_NEGATIVE: gross=" ++ decimalText gross ++ " nssf=" ++
      decimalText nssfEmployee ++ " paye=" ++ decimalText paye)
  let advanceRecovered := money2 (if openAdv < afterStatutory then openAdv else afterStatutory)
  let deductions := money2 (advanceRecovered + nssfEmployee + paye)
  let netPay := money2 (gross - deductions)
  require (0 ≤ netPay)
    ("PAYROLL_MATH_NEGATIVE_NET: gross=" ++ decimalText gross ++ " nssf=" ++
      decimalText nssfEmployee ++ " paye=" ++ decimalText paye ++ " recovered=" ++
      decimalText advanceRecovered)
  assertPayrollIdentity gross advanceRecovered netPay nssfEmployee paye
  pure
    { basicSalary := basicSalary
      allowances := allowances
      overtimePay := overtimePay
      bonus := bonus
      unpaidLeaveDays := unpaidDays
      leaveDeduction := leaveDeduction
      gross := gross
      nssfEmployee := nssfEmployee
      paye := paye
      nssfEmployer := nssfEmployer
      advanceRecovered := advanceRecovered
      deductions := deductions
      netPay := netPay }

/-! ## The accrual journal -/

def PAYROLL_EXPENSE_ACCOUNT : String := "6000"

/-- The accounts of the journal. -/
structure PayrollAccounts where
  payableAccountCode : String
  advanceAccountCode : Option String
  nssfPayableAccount : Option String
  payePayableAccount : Option String
  employerNssfExpenseAccount : Option String

structure PayrollAccrualInput where
  gross : ℚ
  advanceRecovered : ℚ
  netPay : ℚ
  nssfEmployee : Option ℚ
  paye : Option ℚ
  nssfEmployer : Option ℚ
  accounts : PayrollAccounts

def debitLine (accountCode : String) (amount : ℚ) : ActualJournalLine :=
  ⟨accountCode, some amount, some 0⟩

def creditLine (accountCode : String) (amount : ℚ) : ActualJournalLine :=
  ⟨accountCode, some 0, some amount⟩

/-- The lines of the accrual; an amount that is not positive has none. -/
def accrualLines (gross recovered net nssfEmployee paye nssfEmployer : ℚ)
    (accounts : PayrollAccounts) : List ActualJournalLine :=
  let nssfTotal := money2 (money2 nssfEmployee + nssfEmployer)
  [debitLine PAYROLL_EXPENSE_ACCOUNT gross] ++
    (if 0 < nssfEmployer then
      [debitLine (accounts.employerNssfExpenseAccount.getD "") nssfEmployer] else []) ++
    (if 0 < recovered then [creditLine (accounts.advanceAccountCode.getD "") recovered] else []) ++
    (if 0 < nssfTotal then [creditLine (accounts.nssfPayableAccount.getD "") nssfTotal] else []) ++
    (if 0 < paye then [creditLine (accounts.payePayableAccount.getD "") paye] else []) ++
    (if 0 < net then [creditLine accounts.payableAccountCode net] else [])

/-- `buildPayrollAccrualJournal`. -/
def buildPayrollAccrualJournal (input : PayrollAccrualInput) :
    Except PayrollError (List ActualJournalLine) := do
  let nssfEmployee := money2 (input.nssfEmployee.getD 0)
  let paye := money2 (input.paye.getD 0)
  let nssfEmployer := money2 (input.nssfEmployer.getD 0)
  (assertPayrollIdentity input.gross input.advanceRecovered input.netPay nssfEmployee paye).mapError
    .error
  let gross := money2 input.gross
  let recovered := money2 input.advanceRecovered
  let net := money2 input.netPay
  require (¬ (gross ≤ 0 ∧ recovered ≤ 0 ∧ net ≤ 0 ∧ nssfEmployee ≤ 0 ∧ paye ≤ 0))
    (.error "PAYROLL_ACCRUAL_EMPTY: nothing to post")
  require (¬ (isBlank (some input.accounts.payableAccountCode) = true ∧ 0 < net))
    (.error "PAYROLL_ACCRUAL_NO_PAYABLE: missing salaries payable account")
  require (¬ (0 < recovered ∧ isBlank input.accounts.advanceAccountCode = true))
    (.error "PAYROLL_ACCRUAL_NO_ADVANCE_ACCT: missing employee advance account")
  require (¬ (0 < nssfEmployee ∧ isBlank input.accounts.nssfPayableAccount = true))
    (.error "PAYROLL_ACCRUAL_NO_NSSF_ACCT: missing NSSF payable account")
  require (¬ (0 < paye ∧ isBlank input.accounts.payePayableAccount = true))
    (.error "PAYROLL_ACCRUAL_NO_PAYE_ACCT: missing PAYE payable account")
  require (¬ (0 < nssfEmployer ∧ isBlank input.accounts.employerNssfExpenseAccount = true))
    (.error "PAYROLL_ACCRUAL_NO_EMPLOYER_NSSF_EXPENSE")
  require (¬ (0 < nssfEmployer ∧ isBlank input.accounts.nssfPayableAccount = true))
    (.error "PAYROLL_ACCRUAL_NO_NSSF_ACCT: missing NSSF payable for employer portion")
  let lines := accrualLines gross recovered net nssfEmployee paye nssfEmployer input.accounts
  let _ ← assertJournalBalanced lines
  pure lines

/-- The journal of a computed month. -/
def PayrollComputeResult.accrual (result : PayrollComputeResult) (accounts : PayrollAccounts) :
    PayrollAccrualInput where
  gross := result.gross
  advanceRecovered := result.advanceRecovered
  netPay := result.netPay
  nssfEmployee := some result.nssfEmployee
  paye := some result.paye
  nssfEmployer := some result.nssfEmployer
  accounts := accounts

/-! ## Advances -/

structure OpenAdvance where
  id : String
  remainingAmount : ℚ
  deriving DecidableEq

structure AdvanceRecovery where
  advanceId : String
  amount : ℚ
  deriving DecidableEq

/-- The loop over the advances: what is taken, and what is left to recover. -/
def recoveryLoop : List OpenAdvance → ℚ → List AdvanceRecovery × ℚ
  | [], left => ([], left)
  | adv :: rest, left =>
    let rem := money2 adv.remainingAmount
    let take := money2 (if rem < left then rem else left)
    if left ≤ 0 then ([], left)
    else if rem ≤ 0 then recoveryLoop rest left
    else if take ≤ 0 then recoveryLoop rest left
    else
      let (out, left') := recoveryLoop rest (money2 (left - take))
      (⟨adv.id, take⟩ :: out, left')

/-- `allocateFifoRecovery`. -/
def allocateFifoRecovery (openAdvances : List OpenAdvance) (toRecover : ℚ) :
    Except String (List AdvanceRecovery) :=
  if money2 toRecover ≤ 0 then .ok []
  else
    let (out, left) := recoveryLoop openAdvances (money2 toRecover)
    if 0 < left then
      .error ("PAYROLL_ADVANCE_SHORTFALL: " ++ fixedText 2 left ++
        " could not be allocated from open advances")
    else .ok out

end SmartErpPos.Hr
