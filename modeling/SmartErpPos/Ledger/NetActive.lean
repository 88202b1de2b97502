/-
  Ledger/NetActive.lean --- which entries count, and what is derived from them.

  Sources: `utils/ledgerNetActive.ts`, `utils/activeGlReference.ts`,
  `services/glPeriodRebuildService.ts`, `getAccountBalance` of
  `services/accountingCore.ts` and `rebaseAccountCachesFromPostedLedger` of
  `modules/supplier-payments/apBalanceGovernance.ts`.

  The reports drop both legs of every reversal: a transaction counts when it is
  posted, not reversed, and not the reversal of another one.  The rebase of the
  account caches looks at the status only.
-/
import SmartErpPos.Ledger.Types

set_option autoImplicit false

namespace SmartErpPos.Ledger

open SmartErpPos.Lib

/-! ## The predicates -/

/-- The transactions that reverse some other one. -/
def reversingIds (db : LedgerDb) : List TransactionId :=
  db.transactions.entries.filterMap fun e => e.2.reversedByTransactionId

/-- `LEDGER_NET_ACTIVE_SQL` and `ACTIVE_GL_REFERENCE_PREDICATE`. -/
def isNetActive (db : LedgerDb) (id : TransactionId) (row : TransactionRow) : Bool :=
  decide (row.status = .POSTED) && !row.isReversed && !(reversingIds db).contains id

/-- A transaction that satisfies a predicate. -/
def transactionIs (db : LedgerDb) (p : TransactionId → TransactionRow → Bool)
    (id : TransactionId) : Bool :=
  (db.transactions.get? id).any (p id)

/-- A net-active transaction. -/
def isActiveId (db : LedgerDb) : TransactionId → Bool := transactionIs db (isNetActive db)

/-- A transaction with status `POSTED`. -/
def isPostedId (db : LedgerDb) : TransactionId → Bool :=
  transactionIs db fun _ row => row.status = .POSTED

/-- An entry of a net-active transaction. -/
def isActiveEntry (db : LedgerDb) (e : LedgerEntry) : Bool := isActiveId db e.transactionId

/-- An entry of a transaction with status `POSTED`. -/
def isPostedEntry (db : LedgerDb) (e : LedgerEntry) : Bool := isPostedId db e.transactionId

/-! ## Sums of entries -/

/-- The sum of a column over the entries that satisfy `p`. -/
def sumEntries (entries : List LedgerEntry) (p : LedgerEntry → Bool) (f : LedgerEntry → Amount) :
    Amount :=
  ((entries.filter p).map f).sum

/-- Debits minus credits, seen from the normal side of an account. -/
def LedgerEntry.signed (normal : NormalBalance) (e : LedgerEntry) : Amount :=
  match normal with
  | .DEBIT => e.debitAmount - e.creditAmount
  | .CREDIT => e.creditAmount - e.debitAmount

/-- The balance of an account over the entries that satisfy `p`. -/
def balanceOver (db : LedgerDb) (p : LedgerEntry → Bool) (id : AccountId) (normal : NormalBalance) :
    Amount :=
  sumEntries db.entries (fun e => decide (e.accountId = id) && p e) (·.signed normal)

/-- What `getAccountBalance` computes from the ledger, before rounding for display. -/
def netActiveBalance (db : LedgerDb) (id : AccountId) (normal : NormalBalance) : Amount :=
  balanceOver db (isActiveEntry db) id normal

/-- The balance over everything posted, reversals included. -/
def postedBalance (db : LedgerDb) (id : AccountId) (normal : NormalBalance) : Amount :=
  balanceOver db (isPostedEntry db) id normal

/-! ## The account caches -/

/-- An account with one of the codes whose cache is off by more than 0.01 gets its posted
balance. -/
def AccountRow.rebased (db : LedgerDb) (accountCodes : List String) (id : AccountId)
    (row : AccountRow) : AccountRow :=
  let target := postedBalance db id row.normalBalance
  if row.accountCode ∈ accountCodes ∧ 1 / 100 < |row.currentBalance.toRat - target.toRat| then
    { row with currentBalance := target }
  else row

/-- `rebaseAccountCachesFromPostedLedger`. -/
def rebaseAccountCaches (db : LedgerDb) (accountCodes : List String) : LedgerDb :=
  db.mapAccounts (fun id row => row.rebased db accountCodes id) (by
    intro id row
    unfold AccountRow.rebased
    dsimp only
    split <;> rfl)

/-- `afterJournalEntryGovernance`: the codes of the lines, without empty ones. -/
def afterJournalEntryGovernance (db : LedgerDb) (accountCodes : List String) : LedgerDb :=
  rebaseAccountCaches db (accountCodes.filter fun code => code ≠ "")

/-! ## The period balances -/

/-- An entry that counts in a row of `gl_period_balances`: the month is that of its
transaction. -/
def isPeriodEntry (db : LedgerDb) (key : PeriodKey) (e : LedgerEntry) : Bool :=
  decide (e.accountId = key.accountId) &&
    transactionIs db (fun id row => isNetActive db id row &&
      decide (PeriodKey.of key.accountId row.transactionDate = key)) e.transactionId

def periodDebits (db : LedgerDb) (key : PeriodKey) : Amount :=
  sumEntries db.entries (isPeriodEntry db key) (·.debitAmount)

def periodCredits (db : LedgerDb) (key : PeriodKey) : Amount :=
  sumEntries db.entries (isPeriodEntry db key) (·.creditAmount)

/-- The row for two totals, rounded to cents. -/
def PeriodBalanceRow.ofTotals (debits credits : Amount) : PeriodBalanceRow :=
  let debitTotal : PeriodAmount := Numeric.ofRat debits.toRat
  let creditTotal : PeriodAmount := Numeric.ofRat credits.toRat
  ⟨debitTotal, creditTotal, debitTotal - creditTotal⟩

/-- What a rebuild stores for two totals: no row when both are zero. -/
def rowOfTotals (debits credits : Amount) : Option PeriodBalanceRow :=
  if debits = 0 ∧ credits = 0 then none else some (.ofTotals debits credits)

/-- The month is closed or locked. -/
def isPeriodFrozen (db : LedgerDb) (year month : ℕ) : Bool :=
  db.periods.values.any fun p =>
    decide (p.periodYear = year) && decide (p.periodMonth = month) && decide (p.status ≠ .OPEN)

/-- Store or delete a row. -/
def writePeriodBalance (db : LedgerDb) (key : PeriodKey) (row : Option PeriodBalanceRow) : LedgerDb :=
  match row with
  | some row => { db with periodBalances := db.periodBalances.set key row }
  | none => { db with periodBalances := db.periodBalances.erase key }

/-- `rebuildSingleAccountPeriodOnClient`: recompute one row from the ledger, unless its
month is closed or locked. -/
def rebuildSingleAccountPeriod (db : LedgerDb) (key : PeriodKey) : LedgerDb :=
  if isPeriodFrozen db key.fiscalYear key.fiscalPeriod then db
  else writePeriodBalance db key (rowOfTotals (periodDebits db key) (periodCredits db key))

/-- Recompute several rows one after the other. -/
def rebuildAll (db : LedgerDb) (keys : List PeriodKey) : LedgerDb :=
  keys.foldl rebuildSingleAccountPeriod db

end SmartErpPos.Ledger
