/-
  Ledger/Types.lean --- the general ledger and what is kept next to it.

  Sources: `services/accountingCore.ts`, `postingGovernanceService.ts` and
  `periodBalanceWorker.ts`, and the tables `accounts`, `ledger_transactions`,
  `ledger_entries`, `financial_periods`, `gl_period_balances` and
  `gl_projection_events`.

  Three tables repeat what the entries say: `accounts.CurrentBalance` caches a
  balance, `gl_period_balances` has one row per account and month, and
  `gl_projection_events` lists the rows of the latter that are still to be
  recomputed.

  Generated keys are numbers drawn from one counter, which no failure winds back.  A transaction number is the
  number behind `TXN-`.  Columns that no operation of this development reads or
  returns are left out.
-/
import SmartErpPos.Lib.DecimalText
import SmartErpPos.Lib.Fallible
import SmartErpPos.Lib.OrderedMap

set_option autoImplicit false

namespace SmartErpPos.Ledger

open SmartErpPos.Lib

/-! ## Enumerations -/

inductive NormalBalance where
  | DEBIT
  | CREDIT
  deriving DecidableEq

inductive EntryType where
  | DEBIT
  | CREDIT
  deriving DecidableEq

inductive TransactionStatus where
  | DRAFT
  | POSTED
  | REVERSED
  deriving DecidableEq

inductive PeriodStatus where
  | OPEN
  | CLOSED
  | LOCKED
  deriving DecidableEq

def PeriodStatus.text : PeriodStatus → String
  | .OPEN => "OPEN"
  | .CLOSED => "CLOSED"
  | .LOCKED => "LOCKED"

/-- The module or workflow a journal entry comes from. -/
inductive PostingSource where
  | SALES_INVOICE
  | SALES_REFUND
  | PAYMENT_RECEIPT
  | TILL_RECEIPT
  | PAYMENT_DEPOSIT
  | DEPOSIT_APPLICATION
  | PURCHASE_BILL
  | SUPPLIER_PAYMENT
  | INVENTORY_MOVE
  | OPENING_BALANCE_WIZARD
  | MANUAL_JOURNAL
  | SYSTEM_CORRECTION
  | PAYROLL
  | EXPENSE_PAYMENT
  | ASSET_DEPRECIATION
  | PERIOD_CLOSE
  | FX_REVALUATION
  | CUTOVER_OB
  | CUTOVER_CORRECTION
  | WHT_REMITTANCE
  | WHT_RECEIVABLE_RECOVERY
  | VAT_REMITTANCE
  | TREASURY_DEPOSIT
  | TREASURY_TRANSFER
  | TREASURY_PETTY_CASH
  | TREASURY_REVERSAL
  | AR_WRITEOFF
  | AR_WRITEOFF_REVERSAL
  | BANK_MANUAL
  | CASH_VARIANCE
  | OWNERSHIP_EQUITY
  deriving DecidableEq

/-- The text of a source, as error messages show it. -/
def PostingSource.text : PostingSource → String
  | .SALES_INVOICE => "SALES_INVOICE"
  | .SALES_REFUND => "SALES_REFUND"
  | .PAYMENT_RECEIPT => "PAYMENT_RECEIPT"
  | .TILL_RECEIPT => "TILL_RECEIPT"
  | .PAYMENT_DEPOSIT => "PAYMENT_DEPOSIT"
  | .DEPOSIT_APPLICATION => "DEPOSIT_APPLICATION"
  | .PURCHASE_BILL => "PURCHASE_BILL"
  | .SUPPLIER_PAYMENT => "SUPPLIER_PAYMENT"
  | .INVENTORY_MOVE => "INVENTORY_MOVE"
  | .OPENING_BALANCE_WIZARD => "OPENING_BALANCE_WIZARD"
  | .MANUAL_JOURNAL => "MANUAL_JOURNAL"
  | .SYSTEM_CORRECTION => "SYSTEM_CORRECTION"
  | .PAYROLL => "PAYROLL"
  | .EXPENSE_PAYMENT => "EXPENSE_PAYMENT"
  | .ASSET_DEPRECIATION => "ASSET_DEPRECIATION"
  | .PERIOD_CLOSE => "PERIOD_CLOSE"
  | .FX_REVALUATION => "FX_REVALUATION"
  | .CUTOVER_OB => "CUTOVER_OB"
  | .CUTOVER_CORRECTION => "CUTOVER_CORRECTION"
  | .WHT_REMITTANCE => "WHT_REMITTANCE"
  | .WHT_RECEIVABLE_RECOVERY => "WHT_RECEIVABLE_RECOVERY"
  | .VAT_REMITTANCE => "VAT_REMITTANCE"
  | .TREASURY_DEPOSIT => "TREASURY_DEPOSIT"
  | .TREASURY_TRANSFER => "TREASURY_TRANSFER"
  | .TREASURY_PETTY_CASH => "TREASURY_PETTY_CASH"
  | .TREASURY_REVERSAL => "TREASURY_REVERSAL"
  | .AR_WRITEOFF => "AR_WRITEOFF"
  | .AR_WRITEOFF_REVERSAL => "AR_WRITEOFF_REVERSAL"
  | .BANK_MANUAL => "BANK_MANUAL"
  | .CASH_VARIANCE => "CASH_VARIANCE"
  | .OWNERSHIP_EQUITY => "OWNERSHIP_EQUITY"

/-- `PROCESSING` is a legacy value that no current code writes. -/
inductive ProjectionEventStatus where
  | PENDING
  | PROCESSING
  | DONE
  | FAILED
  deriving DecidableEq

/-! ## Column types -/

abbrev AccountId := ℕ
abbrev TransactionId := ℕ
abbrev PeriodId := ℕ

/-- The key of a business document. -/
abbrev DocumentId := ℕ

/-- `numeric(18, 6)`: the amounts of the ledger and of the accounts. -/
abbrev Amount := Numeric 6

/-- `numeric(18, 2)`: the totals of `gl_period_balances`. -/
abbrev PeriodAmount := Numeric 2

/-- A `timestamptz` in milliseconds since 1970-01-01. -/
abbrev Timestamp := ℤ

/-- A date `YYYY-MM-DD`.  Sessions run in UTC, so the month of a stored transaction
date is the month of this date. -/
structure IsoDate where
  year : ℕ
  month : ℕ
  day : ℕ
  month_valid : 1 ≤ month ∧ month ≤ 12 := by decide
  deriving DecidableEq

theorem isMonth_one : (1 : ℕ) ≤ 1 ∧ 1 ≤ 12 := by decide

theorem isMonth_two : (1 : ℕ) ≤ 2 ∧ 2 ≤ 12 := by decide

theorem isMonth_three : (1 : ℕ) ≤ 3 ∧ 3 ≤ 12 := by decide

def IsoDate.text (d : IsoDate) : String :=
  padDigits 4 d.year ++ "-" ++ padDigits 2 d.month ++ "-" ++ padDigits 2 d.day

/-- Dates are ordered as their texts are. -/
def IsoDate.le (a b : IsoDate) : Bool :=
  if a.year ≠ b.year then a.year < b.year
  else if a.month ≠ b.month then a.month < b.month
  else a.day ≤ b.day

/-! ## Rows -/

/-- A row of `accounts`. -/
structure AccountRow where
  accountCode : String
  accountName : String
  normalBalance : NormalBalance
  isActive : Bool
  allowManualPosting : Bool
  allowedSources : List PostingSource
  systemAccountTag : Option String
  currentBalance : Amount
  deriving DecidableEq

/-- A row of `ledger_transactions`. -/
structure TransactionRow where
  transactionNumber : ℕ
  transactionDate : IsoDate
  referenceType : String
  referenceId : DocumentId
  referenceNumber : String
  description : String
  totalDebitAmount : Amount
  totalCreditAmount : Amount
  status : TransactionStatus
  reversesTransactionId : Option TransactionId
  reversedByTransactionId : Option TransactionId
  isReversed : Bool
  idempotencyKey : String
  createdBy : String
  /-- Stamped by `createJournalEntry` only. -/
  postingSource : Option PostingSource
  deriving DecidableEq

/-- A row of `ledger_entries`. -/
structure LedgerEntry where
  transactionId : TransactionId
  accountId : AccountId
  entryType : EntryType
  amount : Amount
  debitAmount : Amount
  creditAmount : Amount
  description : String
  lineNumber : ℕ
  entityType : Option String
  entityId : Option String
  entryDate : IsoDate
  deriving DecidableEq

/-- A row of `financial_periods`. -/
structure FinancialPeriodRow where
  periodYear : ℕ
  periodMonth : ℕ
  startDate : IsoDate
  endDate : IsoDate
  status : PeriodStatus
  deriving DecidableEq

/-- The key of `gl_period_balances`. -/
structure PeriodKey where
  accountId : AccountId
  fiscalYear : ℕ
  fiscalPeriod : ℕ
  deriving DecidableEq

/-- The key of an account and the month of a date. -/
def PeriodKey.of (accountId : AccountId) (date : IsoDate) : PeriodKey :=
  ⟨accountId, date.year, date.month⟩

/-- A row of `gl_period_balances`. -/
structure PeriodBalanceRow where
  debitTotal : PeriodAmount
  creditTotal : PeriodAmount
  runningBalance : PeriodAmount
  deriving DecidableEq

/-- The unique key of `gl_projection_events`; it stands for the generated one. -/
structure ProjectionEventKey where
  key : PeriodKey
  transactionId : TransactionId
  deriving DecidableEq

/-- A row of `gl_projection_events`. -/
structure ProjectionEventRow where
  idempotencyKey : String
  status : ProjectionEventStatus
  retryCount : ℕ
  createdAt : Timestamp
  deriving DecidableEq

/-- The tables of the ledger.  `nextId` is the first unused key. -/
structure LedgerDb where
  accounts : OrderedMap AccountId AccountRow
  transactions : OrderedMap TransactionId TransactionRow
  entries : List LedgerEntry
  periods : OrderedMap PeriodId FinancialPeriodRow
  periodBalances : OrderedMap PeriodKey PeriodBalanceRow
  events : OrderedMap ProjectionEventKey ProjectionEventRow
  nextId : ℕ
  /-- `AccountCode` is unique. -/
  codes_nodup : (accounts.values.map AccountRow.accountCode).Nodup

namespace LedgerDb

/-- Rewrite every account, codes apart. -/
def mapAccounts (db : LedgerDb) (f : AccountId → AccountRow → AccountRow)
    (hcode : ∀ id row, (f id row).accountCode = row.accountCode) : LedgerDb :=
  { db with
    accounts := db.accounts.mapWithKey f
    codes_nodup := by
      have h : (db.accounts.mapWithKey f).values.map AccountRow.accountCode =
          db.accounts.values.map AccountRow.accountCode := by
        simp [OrderedMap.values, OrderedMap.mapWithKey, hcode]
      rw [h]
      exact db.codes_nodup }

variable (db : LedgerDb) (f : AccountId → AccountRow → AccountRow)
  (hcode : ∀ id row, (f id row).accountCode = row.accountCode)

@[simp] theorem mapAccounts_accounts :
    (db.mapAccounts f hcode).accounts = db.accounts.mapWithKey f := rfl
@[simp] theorem mapAccounts_transactions :
    (db.mapAccounts f hcode).transactions = db.transactions := rfl
@[simp] theorem mapAccounts_entries : (db.mapAccounts f hcode).entries = db.entries := rfl
@[simp] theorem mapAccounts_periods : (db.mapAccounts f hcode).periods = db.periods := rfl
@[simp] theorem mapAccounts_periodBalances :
    (db.mapAccounts f hcode).periodBalances = db.periodBalances := rfl
@[simp] theorem mapAccounts_events : (db.mapAccounts f hcode).events = db.events := rfl
@[simp] theorem mapAccounts_nextId : (db.mapAccounts f hcode).nextId = db.nextId := rfl

end LedgerDb

/-- The code of an account. -/
def LedgerDb.codeOf (db : LedgerDb) (a : AccountId) : Option String :=
  (db.accounts.get? a).map (·.accountCode)

/-- One account for each code. -/
theorem LedgerDb.account_unique {db : LedgerDb} {id id' : AccountId} {row row' : AccountRow}
    (h : db.accounts.get? id = some row) (h' : db.accounts.get? id' = some row')
    (hcode : row.accountCode = row'.accountCode) : id = id' := by
  have hmem : (id, row) ∈ db.accounts.entries := OrderedMap.get?_eq_some_iff.mp h
  have hmem' : (id', row') ∈ db.accounts.entries := OrderedMap.get?_eq_some_iff.mp h'
  have hnodup : (db.accounts.entries.map fun e => e.2.accountCode).Nodup := by
    simpa [OrderedMap.values, Function.comp_def] using db.codes_nodup
  have heq := List.inj_on_of_nodup_map hnodup hmem hmem' hcode
  exact congrArg Prod.fst heq

/-! ## Service types -/

structure JournalLine where
  accountCode : String
  description : String
  debitAmount : ℚ
  creditAmount : ℚ
  entityType : Option String
  entityId : Option String
  deriving DecidableEq

def JournalLine.isDebit (line : JournalLine) : Bool := 0 < line.debitAmount

def JournalLine.isCredit (line : JournalLine) : Bool := 0 < line.creditAmount

structure JournalEntryRequest where
  entryDate : IsoDate
  description : String
  referenceType : String
  /-- `none` is the empty text. -/
  referenceId : Option DocumentId
  referenceNumber : String
  lines : List JournalLine
  userId : String
  idempotencyKey : String
  source : Option PostingSource
  deriving DecidableEq

structure JournalEntryResult where
  transactionId : TransactionId
  transactionNumber : ℕ
  status : TransactionStatus
  totalDebits : ℚ
  totalCredits : ℚ
  deriving DecidableEq

structure ReversalRequest where
  originalTransactionId : TransactionId
  reversalDate : IsoDate
  reason : String
  userId : String
  idempotencyKey : String
  deriving DecidableEq

/-- What a failed call throws. -/
inductive LedgerError where
  /-- An `AccountingError` or one of its subclasses. -/
  | accounting (code message : String)
  /-- A `DoubleEntryViolationError`, with the numbers its message shows. -/
  | doubleEntryViolation (debits credits difference : ℚ)
  /-- A `PostingGovernanceError`. -/
  | governance (code message : String)
  /-- The database rejects the statement: a constraint or a type. -/
  | database (constraint : String)
  deriving DecidableEq

end SmartErpPos.Ledger
