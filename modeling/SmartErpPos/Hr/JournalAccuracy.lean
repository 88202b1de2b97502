/-
  Hr/JournalAccuracy.lean --- the checks a payroll journal has to pass.

  Source: `src/shared/financial-accuracy/journalAccuracy.ts` (`roundMoney`,
  `assertOneSidedLines`, `assertJournalBalanced`), with their tolerance of one cent.

  A line of one cent is within the tolerance of zero and counts as a zero line.
-/
import SmartErpPos.Lib.DecimalText
import SmartErpPos.Lib.Fallible
import SmartErpPos.Lib.JsText
import SmartErpPos.Lib.RoundedRat

set_option autoImplicit false

namespace SmartErpPos.Hr

open SmartErpPos.Lib

structure ActualJournalLine where
  accountCode : String
  debitAmount : Option ℚ
  creditAmount : Option ℚ
  deriving DecidableEq

/-- What a payroll function throws: an error, or one of the journal checks with its code. -/
inductive PayrollError where
  | error (message : String)
  | journalAccuracy (message code : String)
  deriving DecidableEq

/-- `!text?.trim()`. -/
def isBlank (text : Option String) : Bool := (trimmedText text).isNone

/-- `Number.EPSILON`. -/
def numberEpsilon : ℚ := 1 / 2 ^ 52

/-- `roundMoney`: the nearest cent, halves up. -/
def roundMoney (n : ℚ) : ℚ := (⌊(n + numberEpsilon) * 100 + 1 / 2⌋ : ℚ) / 100

def lineDebit (line : ActualJournalLine) : ℚ := roundMoney (line.debitAmount.getD 0)

def lineCredit (line : ActualJournalLine) : ℚ := roundMoney (line.creditAmount.getD 0)

/-- The default tolerance. -/
def journalEpsilon : ℚ := 1 / 100

/-- The loop of `assertOneSidedLines`, from the `i`-th line on. -/
def checkOneSided : ℕ → List ActualJournalLine → Except PayrollError Unit
  | _, [] => .ok ()
  | i, line :: rest => do
    let d := lineDebit line
    let c := lineCredit line
    require (isBlank (some line.accountCode) = false)
      (.journalAccuracy ("Line " ++ toString (i + 1) ++ ": accountCode is required") "JA_NO_ACCOUNT")
    require (¬ (journalEpsilon < d ∧ journalEpsilon < c))
      (.journalAccuracy ("Line " ++ toString (i + 1) ++ " (" ++ line.accountCode ++
        "): cannot have both debit " ++ decimalText d ++ " and credit " ++ decimalText c)
        "JA_DUAL_SIDED")
    require (¬ (d ≤ journalEpsilon ∧ c ≤ journalEpsilon))
      (.journalAccuracy ("Line " ++ toString (i + 1) ++ " (" ++ line.accountCode ++
        "): debit and credit are both zero") "JA_ZERO_LINE")
    checkOneSided (i + 1) rest

/-- The running totals. -/
def journalTotals (lines : List ActualJournalLine) : ℚ × ℚ :=
  lines.foldl (fun totals line =>
    (roundMoney (totals.1 + lineDebit line), roundMoney (totals.2 + lineCredit line))) (0, 0)

/-- `assertJournalBalanced`. -/
def assertJournalBalanced (lines : List ActualJournalLine) : Except PayrollError (ℚ × ℚ) := do
  checkOneSided 0 lines
  let (totalDebits, totalCredits) := journalTotals lines
  require (lines ≠ []) (.journalAccuracy "Journal has no lines" "JA_NO_LINES")
  require (¬ journalEpsilon < |totalDebits - totalCredits|)
    (.journalAccuracy ("Journal not balanced: Debits " ++ fixedText 2 totalDebits ++ " ≠ Credits " ++
      fixedText 2 totalCredits) "JA_UNBALANCED")
  require (0 < totalDebits) (.journalAccuracy "Journal total must be greater than zero" "JA_ZERO")
  pure (totalDebits, totalCredits)

/-! ## Cents -/

/-- Adding the machine epsilon does not move a whole number of cents. -/
theorem roundMoney_of_onGrid {n : ℚ} (h : OnGrid 2 n) : roundMoney n = n := by
  obtain ⟨x, rfl⟩ := h
  have hcents : (x.toRat + numberEpsilon) * 100 + 1 / 2 = x.units + (100 / 2 ^ 52 + 1 / 2) := by
    unfold Numeric.toRat numberEpsilon
    ring
  have hfloor : ⌊(x.toRat + numberEpsilon) * 100 + 1 / 2⌋ = x.units := by
    rw [hcents, Int.floor_intCast_add]
    norm_num
  unfold roundMoney
  rw [hfloor]
  unfold Numeric.toRat
  norm_num

/-- The lines are in cents on both sides. -/
def LinesInCents (lines : List ActualJournalLine) : Prop :=
  ∀ line ∈ lines, OnGrid 2 (line.debitAmount.getD 0) ∧ OnGrid 2 (line.creditAmount.getD 0)

/-- Sums of both sides. -/
def debits (lines : List ActualJournalLine) : ℚ := (lines.map fun line => line.debitAmount.getD 0).sum

def credits (lines : List ActualJournalLine) : ℚ :=
  (lines.map fun line => line.creditAmount.getD 0).sum

theorem journalTotals_eq {lines : List ActualJournalLine} (h : LinesInCents lines) :
    journalTotals lines = (debits lines, credits lines) := by
  have hloop : ∀ (rest : List ActualJournalLine) (d c : ℚ), LinesInCents rest → OnGrid 2 d →
      OnGrid 2 c → rest.foldl (fun totals line =>
        (roundMoney (totals.1 + lineDebit line), roundMoney (totals.2 + lineCredit line))) (d, c) =
          (d + debits rest, c + credits rest) := by
    intro rest
    induction rest with
    | nil => intro d c _ _ _; simp [debits, credits]
    | cons line rest ih =>
      intro d c hrest hd hc
      obtain ⟨⟨hdebit, hcredit⟩, hrest⟩ := List.forall_mem_cons.mp hrest
      have hd' := hd.add hdebit
      have hc' := hc.add hcredit
      simp only [List.foldl_cons, lineDebit, lineCredit, roundMoney_of_onGrid hdebit,
        roundMoney_of_onGrid hcredit, roundMoney_of_onGrid hd', roundMoney_of_onGrid hc']
      have hnext := ih _ _ hrest hd' hc'
      simp only [lineDebit, lineCredit] at hnext
      rw [hnext]
      simp only [debits, credits, List.map_cons, List.sum_cons, add_assoc]
  have htotals := hloop lines 0 0 h onGrid_zero onGrid_zero
  rwa [zero_add, zero_add] at htotals

/-- Is the line one-sided beyond the tolerance? -/
def OneSided (line : ActualJournalLine) : Prop :=
  isBlank (some line.accountCode) = false ∧
    ¬ (journalEpsilon < line.debitAmount.getD 0 ∧ journalEpsilon < line.creditAmount.getD 0) ∧
    ¬ (line.debitAmount.getD 0 ≤ journalEpsilon ∧ line.creditAmount.getD 0 ≤ journalEpsilon)

theorem checkOneSided_ok {i : ℕ} {lines : List ActualJournalLine} {u : Unit}
    (h : LinesInCents lines) : checkOneSided i lines = .ok u ↔ ∀ line ∈ lines, OneSided line := by
  induction lines generalizing i with
  | nil => simp [checkOneSided]
  | cons line rest ih =>
    obtain ⟨⟨hdebit, hcredit⟩, hrest⟩ := List.forall_mem_cons.mp h
    simp only [checkOneSided, bind_eq_ok, require_eq_ok, exists_const, ih hrest, lineDebit,
      lineCredit, roundMoney_of_onGrid hdebit, roundMoney_of_onGrid hcredit, List.forall_mem_cons]
    unfold OneSided
    tauto

/-- Lines in cents that agree in sum pass exactly when each is one-sided. -/
theorem assertJournalBalanced_ok_iff {lines : List ActualJournalLine} (hcents : LinesInCents lines)
    (hne : lines ≠ []) (hbalanced : debits lines = credits lines) (hpos : 0 < debits lines) :
    (∃ totals, assertJournalBalanced lines = .ok totals) ↔ ∀ line ∈ lines, OneSided line := by
  have htotals : ¬ journalEpsilon < |debits lines - credits lines| := by
    rw [hbalanced, sub_self, abs_zero, not_lt]
    norm_num [journalEpsilon]
  unfold assertJournalBalanced
  rw [journalTotals_eq hcents]
  simp only [bind_eq_ok, require_eq_ok, pure_eq_ok, checkOneSided_ok hcents]
  constructor
  · rintro ⟨_, _, hlines, _⟩
    exact hlines
  · intro hlines
    exact ⟨(debits lines, credits lines), (), hlines, (), hne, (), htotals, (), hpos, rfl⟩

end SmartErpPos.Hr
