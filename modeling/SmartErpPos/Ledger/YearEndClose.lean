/-
  Ledger/YearEndClose.lean --- closing a fiscal year.

  Source: `closeFiscalYear` of `services/fiscalYearCloseService.ts`.

  The close reads the totals of the year from `gl_period_balances`, posts a journal that
  takes every revenue and expense account to zero, locks the months of the year and carries
  the balance sheet into period 0 of the next year.  All of it is one database transaction
  that has written nothing when it posts.

  The journal's reference is the text `FY-` and the year, which is no UUID.  A close
  therefore fails in the look-up of an earlier posting, unless some journal holds its key.
-/
import SmartErpPos.Ledger.PeriodProjection
import SmartErpPos.Ledger.TextReference

set_option autoImplicit false

namespace SmartErpPos.Ledger

open SmartErpPos.Lib

/-! ## The accounts by type -/

/-- `accounts.AccountType`. -/
inductive AccountType where
  | ASSET
  | LIABILITY
  | EQUITY
  | REVENUE
  | EXPENSE
  deriving DecidableEq

/-- `IN ('REVENUE', 'EXPENSE')`. -/
def AccountType.isProfitAndLoss : AccountType → Bool
  | .REVENUE | .EXPENSE => true
  | _ => false

/-- `IN ('ASSET', 'LIABILITY', 'EQUITY')`. -/
def AccountType.isBalanceSheet : AccountType → Bool
  | .ASSET | .LIABILITY | .EQUITY => true
  | _ => false

/-- The ledger with the types of its accounts. -/
structure FiscalBooks where
  ledger : LedgerDb
  accountType : AccountId → AccountType

/-- A row of the account in a month of the year. -/
def isMonthOf (a : AccountId) (year : ℕ) (key : PeriodKey) : Bool :=
  decide (key.accountId = a) && decide (key.fiscalYear = year) && decide (1 ≤ key.fiscalPeriod) &&
    decide (key.fiscalPeriod ≤ 12)

/-- A row of the account in the year or an earlier one, carried balances included. -/
def isUpTo (a : AccountId) (year : ℕ) (key : PeriodKey) : Bool :=
  decide (key.accountId = a) && decide (key.fiscalYear ≤ year)

/-! ## What is closed -/

structure FiscalYearCloseRequest where
  fiscalYear : ℕ
  closingDate : IsoDate
  userId : String
  retainedEarningsAccount : Option String

/-- `retainedEarningsAccount || '3100'`. -/
def FiscalYearCloseRequest.retainedEarnings (request : FiscalYearCloseRequest) : String :=
  (request.retainedEarningsAccount.filter (· ≠ "")).getD "3100"

structure FiscalYearCloseResult where
  closingTransactionId : TransactionId
  closingTransactionNumber : ℕ
  retainedEarnings : ℚ
  revenueTotal : ℚ
  expenseTotal : ℚ
  accountsClosed : ℕ
  periodsLocked : ℕ

/-- The totals of an account in the year. -/
structure PlRow where
  accountCode : String
  accountName : String
  normalBalance : NormalBalance
  totalDebits : PeriodAmount
  totalCredits : PeriodAmount

/-- `plResult`: the active revenue and expense accounts with a row in the year. -/
def FiscalBooks.plResult (books : FiscalBooks) (year : ℕ) : List PlRow :=
  let db := books.ledger
  let accounts := db.accounts.entries.filter fun e =>
    (books.accountType e.1).isProfitAndLoss && e.2.isActive &&
      db.periodBalances.keys.any (isMonthOf e.1 year)
  (accounts.map fun e =>
    { accountCode := e.2.accountCode
      accountName := e.2.accountName
      normalBalance := e.2.normalBalance
      totalDebits := db.periodBalances.sumWhere (isMonthOf e.1 year) (·.debitTotal)
      totalCredits := db.periodBalances.sumWhere (isMonthOf e.1 year) (·.creditTotal) :
      PlRow }).insertionSort fun x y => x.accountCode ≤ y.accountCode

/-- `balanceToReverse`. -/
def PlRow.balanceToReverse (row : PlRow) : ℚ :=
  match row.normalBalance with
  | .CREDIT => row.totalCredits.toRat - row.totalDebits.toRat
  | .DEBIT => row.totalDebits.toRat - row.totalCredits.toRat

/-- The line of an account: on the side against its normal balance, whatever the sign. -/
def PlRow.closingLine (year : ℕ) (row : PlRow) : JournalLine where
  accountCode := row.accountCode
  description := "Year-end close " ++ toString year ++ ": " ++ row.accountName
  debitAmount := match row.normalBalance with
    | .CREDIT => |row.balanceToReverse|
    | .DEBIT => 0
  creditAmount := match row.normalBalance with
    | .CREDIT => 0
    | .DEBIT => |row.balanceToReverse|
  entityType := none
  entityId := none

/-- What the loop over the accounts has so far. -/
structure Closing where
  closingLines : List JournalLine
  totalRevenue : ℚ
  totalExpenses : ℚ
  accountsClosed : ℕ

/-- One account of the loop. -/
def Closing.addAccount (year : ℕ) (c : Closing) (row : PlRow) : Closing :=
  let counted := match row.normalBalance with
    | .CREDIT => { c with totalRevenue := c.totalRevenue + row.balanceToReverse }
    | .DEBIT => { c with totalExpenses := c.totalExpenses + row.balanceToReverse }
  if row.balanceToReverse = 0 then counted
  else
    { counted with
      closingLines := counted.closingLines ++ [row.closingLine year]
      accountsClosed := counted.accountsClosed + 1 }

/-- The loop. -/
def closeAccounts (year : ℕ) (rows : List PlRow) : Closing :=
  rows.foldl (Closing.addAccount year) ⟨[], 0, 0, 0⟩

def Closing.netIncome (c : Closing) : ℚ := c.totalRevenue - c.totalExpenses

/-- The line on retained earnings, unless the result is zero. -/
def Closing.retainedLine (request : FiscalYearCloseRequest) (c : Closing) : List JournalLine :=
  if 0 < c.netIncome then
    [{ accountCode := request.retainedEarnings
       description := "Net income for fiscal year " ++ toString request.fiscalYear
       debitAmount := 0
       creditAmount := c.netIncome
       entityType := none
       entityId := none }]
  else if c.netIncome < 0 then
    [{ accountCode := request.retainedEarnings
       description := "Net loss for fiscal year " ++ toString request.fiscalYear
       debitAmount := |c.netIncome|
       creditAmount := 0
       entityType := none
       entityId := none }]
  else []

def closeReferenceNumber (year : ℕ) : String := "YEC-" ++ toString year

def closeReferenceId (year : ℕ) : String := "FY-" ++ toString year

def closeKey (year : ℕ) : String := "year-end-close-" ++ toString year

/-- The closing journal, but for its reference; no source is given. -/
def Closing.journal (request : FiscalYearCloseRequest) (c : Closing) : JournalEntryRequest where
  entryDate := request.closingDate
  description := "Fiscal Year " ++ toString request.fiscalYear ++
    " Closing Entry — P&L to Retained Earnings"
  referenceType := "YEAR_END_CLOSE"
  referenceId := none
  referenceNumber := closeReferenceNumber request.fiscalYear
  lines := c.closingLines ++ c.retainedLine request
  userId := request.userId
  idempotencyKey := closeKey request.fiscalYear
  source := none

/-! ## Locking and carrying forward -/

/-- The month belongs to the year and is not locked yet. -/
def isUnlockedOf (year : ℕ) (period : FinancialPeriodRow) : Bool :=
  decide (period.periodYear = year) && decide (period.status ≠ .LOCKED)

/-- `UPDATE financial_periods SET "Status" = 'LOCKED'`. -/
def lockYear (db : LedgerDb) (year : ℕ) : LedgerDb :=
  { db with
    periods := db.periods.mapValues fun p =>
      if isUnlockedOf year p = true then { p with status := .LOCKED } else p }

/-- Debits minus credits of the rows of an account up to the end of a year. -/
def carriedNet (db : LedgerDb) (a : AccountId) (year : ℕ) : PeriodAmount :=
  db.periodBalances.sumWhere (isUpTo a year) (·.debitTotal) -
    db.periodBalances.sumWhere (isUpTo a year) (·.creditTotal)

/-- The row an account carries into the next year; none within 0.001 of zero. -/
def carriedRow (db : LedgerDb) (a : AccountId) (year : ℕ) : Option PeriodBalanceRow :=
  let net := carriedNet db a year
  if 1 / 1000 < |net.toRat| then some ⟨max net 0, max (-net) 0, net⟩ else none

/-- The key of the balance an account brings into a year. -/
def openingKey (a : AccountId) (year : ℕ) : PeriodKey := ⟨a, year, 0⟩

/-- The rows the `SELECT` of the carry-forward finds, by account. -/
def FiscalBooks.carriedRows (books : FiscalBooks) (year : ℕ) :
    List (AccountId × PeriodBalanceRow) :=
  (books.ledger.accounts.keys.filter fun a => (books.accountType a).isBalanceSheet).filterMap
    fun a => (carriedRow books.ledger a year).map fun row => (a, row)

/-- `INSERT … ON CONFLICT DO UPDATE` of the rows the `SELECT` found. -/
def FiscalBooks.carryForward (books : FiscalBooks) (year : ℕ) : FiscalBooks :=
  { books with
    ledger := { books.ledger with
      periodBalances := (books.carriedRows year).foldl
        (fun m e => m.set (openingKey e.1 (year + 1)) e.2) books.ledger.periodBalances } }

/-! ## Closing -/

/-- What a close takes from its surroundings: the numbers that stand for UUIDs, the mode of the
governance and the clock. -/
structure FiscalEnv where
  number : String → DocumentId
  arMode : ArGovernanceMode
  now : Timestamp

/-- A posted closing journal of the year. -/
def isClosed (db : LedgerDb) (year : ℕ) : Bool :=
  db.transactions.values.any fun row => decide (row.referenceType = "YEAR_END_CLOSE") &&
    decide (row.referenceNumber = closeReferenceNumber year) && decide (row.status = .POSTED)

def openPeriods (db : LedgerDb) (year : ℕ) : ℕ :=
  (db.periods.values.filter fun p =>
    decide (p.periodYear = year) && decide (p.status = .OPEN)).length

def FiscalBooks.context (books : FiscalBooks) (env : FiscalEnv) : PostingContext :=
  ⟨.txClient, books.ledger.transactions, env.arMode, env.now⟩

/-- `closeFiscalYear`. -/
def closeFiscalYear (env : FiscalEnv) (books : FiscalBooks) (request : FiscalYearCloseRequest) :
    Except LedgerError (FiscalBooks × FiscalYearCloseResult) := do
  let year := request.fiscalYear
  let _ ← require (openPeriods books.ledger year = 0)
    (.accounting "PERIODS_STILL_OPEN" ("Cannot close fiscal year " ++ toString year ++ ": " ++
      toString (openPeriods books.ledger year) ++
      " period(s) still OPEN. Close all periods first."))
  let _ ← require (isClosed books.ledger year = false)
    (.accounting "ALREADY_CLOSED" ("Fiscal year " ++ toString year ++ " is already closed."))
  let _ ← require (books.plResult year ≠ [])
    (.accounting "NO_PL_DATA"
      ("No P&L transactions found for fiscal year " ++ toString year ++ "."))
  let closing := closeAccounts year (books.plResult year)
  let posted ← createJournalEntryByText env.number (books.context env) books.ledger
    (closing.journal request) (closeReferenceId year)
  let locked := { books with ledger := lockYear posted.db year }
  pure (locked.carryForward year,
    { closingTransactionId := posted.result.transactionId
      closingTransactionNumber := posted.result.transactionNumber
      retainedEarnings := closing.netIncome
      revenueTotal := closing.totalRevenue
      expenseTotal := closing.totalExpenses
      accountsClosed := closing.accountsClosed
      periodsLocked := (posted.db.periods.values.filter (isUnlockedOf year)).length })

end SmartErpPos.Ledger
