/-
  Hr/PayrollClosure.lean --- from the computation of a month's pay to its journal.

  The advances cover what the computation recovers, and the journal's sides agree to the
  cent.  But the journal's check takes a line of one cent for a line of nothing, so a month
  that posts such an amount has no journal.
-/
import SmartErpPos.Hr.AdvanceRecovery
import SmartErpPos.Hr.PayrollInput

set_option autoImplicit false

namespace SmartErpPos.Hr

open SmartErpPos.Lib

/-! ## Lines of the journal -/

theorem debits_append (lines lines' : List ActualJournalLine) :
    debits (lines ++ lines') = debits lines + debits lines' := by
  simp only [debits, List.map_append, List.sum_append]

theorem credits_append (lines lines' : List ActualJournalLine) :
    credits (lines ++ lines') = credits lines + credits lines' := by
  simp only [credits, List.map_append, List.sum_append]

/-- A positive amount in cents is above one cent unless it is one cent. -/
theorem cent_lt_iff {x : ℚ} (hgrid : OnGrid 2 x) (hpos : 0 < x) : journalEpsilon < x ↔ x ≠ 1 / 100 := by
  obtain ⟨n, rfl⟩ := hgrid
  have hunits : 0 < n.units := Numeric.toRat_pos_iff.mp hpos
  unfold journalEpsilon Numeric.toRat
  constructor
  · intro h
    exact h.ne'
  · intro h
    have hne : n.units ≠ 1 := by
      intro hone
      refine h ?_
      rw [hone]
      norm_num
    have htwo : (2 : ℚ) ≤ n.units := by exact_mod_cast (show 2 ≤ n.units by omega)
    norm_num
    linarith

/-- What one part of the journal adds, and when its line passes the check. -/
structure PartOf (lines : List ActualJournalLine) (debit credit amount : ℚ) : Prop where
  debits : debits lines = debit
  credits : credits lines = credit
  cents : LinesInCents lines
  oneSided : (∀ line ∈ lines, OneSided line) ↔ amount ≠ 1 / 100

theorem partOf_nil : PartOf [] 0 0 0 := by
  refine ⟨rfl, rfl, fun line hline => ?_, ?_⟩
  · cases hline
  · refine iff_of_true (fun line hline => ?_) (by norm_num)
    cases hline

section Part

variable {code : String} {x : ℚ} (hcode : isBlank (some code) = false) (hgrid : OnGrid 2 x)

include hcode hgrid

theorem partOf_debitLine (hpos : 0 < x) : PartOf [debitLine code x] x 0 x := by
  have hzero : (0 : ℚ) ≤ journalEpsilon := by norm_num [journalEpsilon]
  refine ⟨?_, ?_, fun line hline => ?_, ?_⟩
  · simp [debits, debitLine]
  · simp [credits, debitLine]
  · obtain rfl := List.mem_singleton.mp hline
    exact ⟨hgrid, onGrid_zero⟩
  · rw [List.forall_mem_singleton, ← cent_lt_iff hgrid hpos]
    simp only [OneSided, debitLine, hcode, Option.getD_some, hzero, not_lt.mpr hzero, and_false,
      not_false_eq_true, true_and, and_true, not_le]

theorem partOf_creditLine (hpos : 0 < x) : PartOf [creditLine code x] 0 x x := by
  have hzero : (0 : ℚ) ≤ journalEpsilon := by norm_num [journalEpsilon]
  refine ⟨?_, ?_, fun line hline => ?_, ?_⟩
  · simp [debits, creditLine]
  · simp [credits, creditLine]
  · obtain rfl := List.mem_singleton.mp hline
    exact ⟨onGrid_zero, hgrid⟩
  · rw [List.forall_mem_singleton, ← cent_lt_iff hgrid hpos]
    simp only [OneSided, creditLine, hcode, Option.getD_some, hzero, not_lt.mpr hzero, false_and,
      not_false_eq_true, true_and, not_le]

theorem partOf_debitLine_of_pos (hnonneg : 0 ≤ x) :
    PartOf (if 0 < x then [debitLine code x] else []) x 0 x := by
  split
  · rename_i hpos
    exact partOf_debitLine hcode hgrid hpos
  · rename_i hzero
    rw [le_antisymm (not_lt.mp hzero) hnonneg]
    exact partOf_nil

theorem partOf_creditLine_of_pos (hnonneg : 0 ≤ x) :
    PartOf (if 0 < x then [creditLine code x] else []) 0 x x := by
  split
  · rename_i hpos
    exact partOf_creditLine hcode hgrid hpos
  · rename_i hzero
    rw [le_antisymm (not_lt.mp hzero) hnonneg]
    exact partOf_nil

end Part

/-! ## The accrual of a month -/

/-- All account codes are there. -/
structure PayrollAccounts.Present (accounts : PayrollAccounts) : Prop where
  payable : isBlank (some accounts.payableAccountCode) = false
  advance : isBlank accounts.advanceAccountCode = false
  nssfPayable : isBlank accounts.nssfPayableAccount = false
  payePayable : isBlank accounts.payePayableAccount = false
  employerNssfExpense : isBlank accounts.employerNssfExpenseAccount = false

theorem isBlank_getD {code : Option String} (h : isBlank code = false) :
    isBlank (some (code.getD "")) = false := by
  cases code with
  | none => cases h
  | some code => exact h

variable {input : PayrollComputeInput}

open PayrollComputeInput

/-- The amounts the journal of an input posts. -/
def journalAmounts (input : PayrollComputeInput) : List ℚ :=
  [input.gross, input.employerNssf, input.recovered, input.nssf + input.employerNssf,
    input.payeTax, input.net]

/-- The lines of the journal of an input. -/
def linesOfInput (input : PayrollComputeInput) (accounts : PayrollAccounts) :
    List ActualJournalLine :=
  accrualLines input.gross input.recovered input.net input.nssf input.payeTax input.employerNssf
    accounts

/-- The sides agree, and the check passes unless an amount is one cent. -/
theorem linesOfInput_spec (h : input.Valid) (hgross : 0 < input.gross) {accounts : PayrollAccounts}
    (hpresent : accounts.Present) :
    LinesInCents (linesOfInput input accounts) ∧
      debits (linesOfInput input accounts) = credits (linesOfInput input accounts) ∧
      0 < debits (linesOfInput input accounts) ∧
      ((∀ line ∈ linesOfInput input accounts, OneSided line) ↔
        ∀ amount ∈ journalAmounts input, amount ≠ 1 / 100) := by
  have hnssf0 : 0 ≤ input.nssf := (nssfEmployeeOf_bounds h.accepted onGrid_gross h.gross_nonneg).1
  have hemployer0 : 0 ≤ input.employerNssf :=
    nssfEmployerOf_nonneg h.accepted onGrid_gross h.gross_nonneg
  have htotal : money2 (money2 input.nssf + input.employerNssf) =
      input.nssf + input.employerNssf := by
    rw [money2_of_onGrid onGrid_nssf, money2_of_onGrid (onGrid_nssf.add onGrid_employerNssf)]
  have hexpense : isBlank (some PAYROLL_EXPENSE_ACCOUNT) = false := by decide +kernel
  have p₁ := partOf_debitLine hexpense onGrid_gross hgross
  have p₂ := partOf_debitLine_of_pos (isBlank_getD hpresent.employerNssfExpense)
    onGrid_employerNssf hemployer0
  have p₃ := partOf_creditLine_of_pos (isBlank_getD hpresent.advance) onGrid_recovered
    h.recovered_nonneg
  have p₄ := partOf_creditLine_of_pos (isBlank_getD hpresent.nssfPayable)
    (onGrid_nssf.add onGrid_employerNssf) (add_nonneg hnssf0 hemployer0)
  have p₅ := partOf_creditLine_of_pos (isBlank_getD hpresent.payePayable) onGrid_payeTax
    (payeOf_nonneg h.accepted)
  have hnetCents : OnGrid 2 input.net := onGrid_net
  have p₆ := partOf_creditLine_of_pos hpresent.payable hnetCents net_nonneg
  have hdebits : debits (linesOfInput input accounts) = input.gross + input.employerNssf := by
    simp only [linesOfInput, accrualLines, htotal, debits_append, p₁.debits, p₂.debits, p₃.debits,
      p₄.debits, p₅.debits, p₆.debits, add_zero]
  have hcredits : credits (linesOfInput input accounts) = input.gross + input.employerNssf := by
    simp only [linesOfInput, accrualLines, htotal, credits_append, p₁.credits, p₂.credits,
      p₃.credits, p₄.credits, p₅.credits, p₆.credits]
    unfold net
    ring
  refine ⟨?_, hdebits.trans hcredits.symm, ?_, ?_⟩
  · have hparts := And.intro p₁.cents (And.intro p₂.cents (And.intro p₃.cents
      (And.intro p₄.cents (And.intro p₅.cents p₆.cents))))
    unfold LinesInCents at hparts ⊢
    simp only [linesOfInput, accrualLines, htotal, List.forall_mem_append]
    tauto
  · rw [hdebits]
    linarith
  · have hamounts : (∀ amount ∈ journalAmounts input, amount ≠ 1 / 100) ↔
        ((((input.gross ≠ 1 / 100 ∧ input.employerNssf ≠ 1 / 100) ∧ input.recovered ≠ 1 / 100) ∧
          input.nssf + input.employerNssf ≠ 1 / 100) ∧ input.payeTax ≠ 1 / 100) ∧
            input.net ≠ 1 / 100 := by
      simp only [journalAmounts, List.forall_mem_cons, List.not_mem_nil, false_imp_iff,
        implies_true, and_true, and_assoc]
    rw [hamounts]
    simp only [linesOfInput, accrualLines, htotal, List.forall_mem_append, p₁.oneSided, p₂.oneSided,
      p₃.oneSided, p₄.oneSided, p₅.oneSided, p₆.oneSided]

/-- The journal is built exactly when no amount is one cent. -/
theorem buildPayrollAccrualJournal_iff (h : input.Valid) (hgross : 0 < input.gross)
    {accounts : PayrollAccounts} (hpresent : accounts.Present) :
    (∃ lines, buildPayrollAccrualJournal (input.result.accrual accounts) = .ok lines ∧
      debits lines = credits lines) ↔ ∀ amount ∈ journalAmounts input, amount ≠ 1 / 100 := by
  obtain ⟨hcents, hbalanced, hpos, hlines⟩ := linesOfInput_spec h hgross hpresent
  have hne : linesOfInput input accounts ≠ [] := by simp [linesOfInput, accrualLines]
  have hidentity : assertPayrollIdentity input.gross input.recovered input.net input.nssf
      input.payeTax = .ok () := by
    refine assertPayrollIdentity_ok onGrid_recovered onGrid_net onGrid_nssf onGrid_payeTax ?_
    unfold net
    ring
  have hempty : ¬ (input.gross ≤ 0 ∧ input.recovered ≤ 0 ∧ input.net ≤ 0 ∧ input.nssf ≤ 0 ∧
      input.payeTax ≤ 0) := fun hall => absurd hgross (not_lt.mpr hall.1)
  have hfilled : ∀ {c : Prop} {code : Option String}, isBlank code = false →
      ¬ (c ∧ isBlank code = true) := fun hcode hboth => by
    rw [hcode] at hboth
    exact Bool.false_ne_true hboth.2
  have hbuild : ∀ lines, buildPayrollAccrualJournal (input.result.accrual accounts) = .ok lines ↔
      (∃ totals, assertJournalBalanced (linesOfInput input accounts) = .ok totals) ∧
        linesOfInput input accounts = lines := by
    intro lines
    simp only [buildPayrollAccrualJournal, PayrollComputeResult.accrual, result, Option.getD_some,
      money2_of_onGrid onGrid_nssf, money2_of_onGrid onGrid_payeTax,
      money2_of_onGrid onGrid_employerNssf, money2_of_onGrid onGrid_gross,
      money2_of_onGrid onGrid_recovered, money2_of_onGrid onGrid_net]
    simp only [bind_eq_ok, mapError_eq_ok, require_eq_ok, pure_eq_ok]
    constructor
    · rintro ⟨-, -, -, -, -, -, -, -, -, -, -, -, -, -, -, -, totals, htotals, hsame⟩
      exact ⟨⟨totals, htotals⟩, hsame⟩
    · rintro ⟨⟨totals, htotals⟩, hsame⟩
      refine ⟨(), hidentity, (), hempty, (), ?_, (), hfilled hpresent.advance, (),
        hfilled hpresent.nssfPayable, (), hfilled hpresent.payePayable, (),
        hfilled hpresent.employerNssfExpense, (), hfilled hpresent.nssfPayable, totals, htotals, hsame⟩
      rw [hpresent.payable]
      exact fun hboth => Bool.false_ne_true hboth.1
  rw [← hlines, ← assertJournalBalanced_ok_iff hcents hne hbalanced hpos]
  constructor
  · rintro ⟨lines, hok, -⟩
    exact ((hbuild lines).mp hok).1
  · intro htotals
    exact ⟨_, (hbuild _).mpr ⟨htotals, rfl⟩, hbalanced⟩

/-! ## From the computation to the journal -/

/-- The month closes: it is computed, its recovery is taken from the advances in order, and with
all account codes a positive gross has a journal whose sides agree. -/
def PayrollCloses (input : PayrollComputeInput) (advances : List OpenAdvance) : Prop :=
  ∃ computed, computePayrollAmounts input = .ok computed ∧
    (∃ out, allocateFifoRecovery advances computed.advanceRecovered = .ok out ∧
      (out.map (·.amount)).sum = computed.advanceRecovered ∧
      TakenInOrder advances computed.advanceRecovered out) ∧
    (0 < computed.gross → ∀ accounts : PayrollAccounts, accounts.Present →
      ∃ lines, buildPayrollAccrualJournal (computed.accrual accounts) = .ok lines ∧
        debits lines = credits lines)

/-- The accounts of the default settings. -/
def defaultAccounts : PayrollAccounts where
  payableAccountCode := "2400"
  advanceAccountCode := some "1410"
  nssfPayableAccount := some "2410"
  payePayableAccount := some "2420"
  employerNssfExpenseAccount := some "6010"

theorem defaultAccounts_present : defaultAccounts.Present := by
  constructor <;> decide +kernel

/-- Without a gross nothing is posted. -/
theorem journalAmounts_of_gross_eq_zero (h : input.Valid) (hzero : input.gross = 0) :
    ∀ amount ∈ journalAmounts input, amount = 0 := by
  have hnssf := nssfEmployeeOf_bounds h.accepted onGrid_gross h.gross_nonneg
  have hnssf0 : input.nssf = 0 := le_antisymm (hzero ▸ hnssf.2) hnssf.1
  have hemployer0 : input.employerNssf = 0 := by
    unfold employerNssf nssfEmployerOf nssfOn
    rw [hzero, zero_mul, money2_zero, ite_self]
  have hpaye0 : input.payeTax = 0 := by
    refine le_antisymm ?_ (payeOf_nonneg h.accepted)
    have hwithin := h.within
    linarith
  have hrecovered0 : input.recovered = 0 := by
    refine le_antisymm ?_ h.recovered_nonneg
    refine (min_le_right _ _).trans ?_
    rw [hzero, hnssf0, hpaye0]
    norm_num
  have hnet0 : input.net = 0 := by
    unfold net
    rw [hzero, hnssf0, hpaye0, hrecovered0]
    norm_num
  simp [journalAmounts, hzero, hnssf0, hemployer0, hpaye0, hrecovered0, hnet0]

/-- A valid month with its open advances closes exactly when its journal has no amount of
one cent. -/
theorem payrollCloses_iff {advances : List OpenAdvance} (h : input.Valid)
    (hcents : ∀ adv ∈ advances, OnGrid 2 adv.remainingAmount)
    (hopen : (advances.map (·.remainingAmount)).sum = input.openAdvanceRemaining) :
    PayrollCloses input advances ↔ ∀ amount ∈ journalAmounts input, amount ≠ 1 / 100 := by
  have henough : input.recovered ≤ openTotal advances := by
    have hround : input.openAdvance = input.openAdvanceRemaining := by
      refine money2_of_onGrid ?_
      rw [← hopen]
      exact onGrid_sum (List.forall_mem_map.mpr hcents)
    calc input.recovered ≤ input.openAdvance := min_le_left _ _
      _ = (advances.map (·.remainingAmount)).sum := hround.trans hopen.symm
      _ ≤ openTotal advances := sum_le_openTotal advances
  constructor
  · rintro ⟨computed, hcomputed, -, hjournal⟩
    rw [computePayrollAmounts_eq h] at hcomputed
    obtain rfl := Except.ok.inj hcomputed
    rcases h.gross_nonneg.eq_or_lt with hzero | hpos
    · intro amount hamount
      rw [journalAmounts_of_gross_eq_zero h hzero.symm amount hamount]
      norm_num
    · exact (buildPayrollAccrualJournal_iff h hpos defaultAccounts_present).mp
        (hjournal hpos defaultAccounts defaultAccounts_present)
  · intro hamounts
    obtain ⟨out, hout, htaken⟩ :=
      allocateFifoRecovery_ok hcents onGrid_recovered h.recovered_nonneg henough
    refine ⟨input.result, computePayrollAmounts_eq h, ⟨out, hout, htaken.sum_eq, htaken⟩, ?_⟩
    intro hpos accounts hpresent
    exact (buildPayrollAccrualJournal_iff h hpos hpresent).mpr hamounts

/-- A salary of 500000 with an open advance. -/
def monthWithAdvance (remaining : ℚ) : PayrollComputeInput where
  basicSalary := 500000
  monthlyAllowance := 0
  openAdvanceRemaining := remaining
  overtimePay := none
  bonus := none
  unpaidLeaveDays := none
  workingDaysPerMonth := none
  statutory := some DEFAULT_STATUTORY_SETTINGS

theorem monthWithAdvance_valid {remaining : ℚ} (h : 0 ≤ remaining) :
    (monthWithAdvance remaining).Valid where
  basicSalary := by norm_num [monthWithAdvance]
  monthlyAllowance := by norm_num [monthWithAdvance]
  overtimePay := by
    intro amount hamount
    cases hamount
  bonus := by
    intro amount hamount
    cases hamount
  openAdvanceRemaining := h
  unpaidLeaveDays := by
    intro days hdays
    cases hdays
  workingDays := by
    show 0 < money2 26
    decide +kernel
  settings := by
    intro settings hsettings
    obtain rfl := Option.some.inj hsettings
    decide +kernel
  within := by
    show (monthWithAdvance 0).nssf + (monthWithAdvance 0).payeTax ≤ (monthWithAdvance 0).gross
    decide +kernel

/-- An advance of 20000.00. -/
theorem payrollCloses_monthWithAdvance :
    ((monthWithAdvance 20000).Valid ∧
      (∀ adv ∈ [OpenAdvance.mk "a1" 20000], OnGrid 2 adv.remainingAmount) ∧
      ([OpenAdvance.mk "a1" 20000].map (·.remainingAmount)).sum =
        (monthWithAdvance 20000).openAdvanceRemaining) ∧
    (PayrollCloses (monthWithAdvance 20000) [⟨"a1", 20000⟩] ↔
      ∀ amount ∈ journalAmounts (monthWithAdvance 20000), amount ≠ 1 / 100) := by
  have hcents : ∀ adv ∈ [OpenAdvance.mk "a1" 20000], OnGrid 2 adv.remainingAmount := by
    rw [List.forall_mem_singleton]
    exact onGrid_iff_roundTo_eq.mpr (by decide +kernel)
  have hopen : ([OpenAdvance.mk "a1" 20000].map (·.remainingAmount)).sum =
      (monthWithAdvance 20000).openAdvanceRemaining := by decide +kernel
  have hvalid : (monthWithAdvance 20000).Valid := monthWithAdvance_valid (by norm_num)
  exact ⟨⟨hvalid, hcents, hopen⟩, payrollCloses_iff hvalid hcents hopen⟩

/-- An advance of 0.01 is recovered, and its line is refused as a zero line. -/
theorem cent_advance_refused :
    (monthWithAdvance (1 / 100)).Valid ∧
      computePayrollAmounts (monthWithAdvance (1 / 100)) =
        .ok (monthWithAdvance (1 / 100)).result ∧
      0 < (monthWithAdvance (1 / 100)).result.gross ∧
      buildPayrollAccrualJournal ((monthWithAdvance (1 / 100)).result.accrual defaultAccounts) =
        .error (.journalAccuracy "Line 3 (1410): debit and credit are both zero" "JA_ZERO_LINE") ∧
      ¬ PayrollCloses (monthWithAdvance (1 / 100)) [⟨"a1", 1 / 100⟩] := by
  have hvalid : (monthWithAdvance (1 / 100)).Valid := monthWithAdvance_valid (by norm_num)
  have hcomputed := computePayrollAmounts_eq hvalid
  have hgross : 0 < (monthWithAdvance (1 / 100)).result.gross := by decide +kernel
  have hjournal : buildPayrollAccrualJournal
      ((monthWithAdvance (1 / 100)).result.accrual defaultAccounts) =
        .error (.journalAccuracy "Line 3 (1410): debit and credit are both zero" "JA_ZERO_LINE") := by
    decide +kernel
  refine ⟨hvalid, hcomputed, hgross, hjournal, ?_⟩
  rintro ⟨computed, hresult, -, hcloses⟩
  rw [hcomputed] at hresult
  obtain rfl := Except.ok.inj hresult
  obtain ⟨lines, hlines, -⟩ := hcloses hgross defaultAccounts defaultAccounts_present
  rw [hjournal] at hlines
  cases hlines

end SmartErpPos.Hr
