/-
  Ledger/AccountingCore.lean --- posting and reversing a journal.

  Source: `AccountingCore` of `services/accountingCore.ts`.

  A call runs in one database transaction: its own, or the one of the caller, who
  commits everything or nothing.  A failed call therefore leaves no state behind,
  and a successful one returns the state at its end.  On its own transaction a call
  leaves the period balances to jobs that run after the commit; on the caller's it
  recomputes them before it returns.

  The look-ups that find an earlier posting run on the call's transaction, but the
  found posting is then fetched through the pool, which sees committed data only.
-/
import Mathlib.Data.List.Sort
import SmartErpPos.Ledger.Governance
import SmartErpPos.Ledger.Statements

set_option autoImplicit false

namespace SmartErpPos.Ledger

open SmartErpPos.Lib

/-! ## Where a call runs -/

/-- Whose database transaction a call runs in. -/
inductive PostingPath where
  | txClient
  | ownTransaction
  deriving DecidableEq

structure PostingContext where
  path : PostingPath
  /-- The transactions other connections see: the committed ones. -/
  pool : OrderedMap TransactionId TransactionRow
  arMode : ArGovernanceMode
  now : Timestamp

/-- What a successful call leaves behind. -/
structure PostingOutcome where
  db : LedgerDb
  result : JournalEntryResult
  /-- The rebuild jobs queued in memory after the commit. -/
  pendingRebuildJobs : List PeriodKey

/-! ## Errors -/

def PeriodLockedError (date : IsoDate) (status : Option PeriodStatus) : LedgerError :=
  .accounting "PERIOD_LOCKED" ("Cannot post to " ++ (status.map PeriodStatus.text).getD "UNKNOWN" ++
    " period for date " ++ date.text)

def IdempotencyConflictError (key : String) (existing : TransactionId) : LedgerError :=
  .accounting "IDEMPOTENCY_CONFLICT" ("Idempotency key \"" ++ key ++
    "\" already used for transaction " ++ toString existing)

def AccountNotFoundError (accountCode : String) : LedgerError :=
  .accounting "ACCOUNT_NOT_FOUND" ("Account not found: " ++ accountCode)

/-! ## Checks of a request -/

structure DoubleEntryValidation where
  isValid : Bool
  totalDebits : ℚ
  totalCredits : ℚ
  difference : ℚ

/-- `BALANCE_TOLERANCE`. -/
def balanceTolerance : ℚ := 1 / 1000

def validateDoubleEntry (lines : List JournalLine) : DoubleEntryValidation :=
  let totalDebits := (lines.map (·.debitAmount)).sum
  let totalCredits := (lines.map (·.creditAmount)).sum
  let difference := |totalDebits - totalCredits|
  ⟨difference < balanceTolerance, totalDebits, totalCredits, difference⟩

def validateLineAmounts (line : JournalLine) : Bool :=
  (line.isDebit || line.isCredit) && !(line.isDebit && line.isCredit)

/-- `fetchGovernanceAccounts`. -/
def governanceAccounts (db : LedgerDb) (lines : List JournalLine) : List AccountRow :=
  db.accounts.values.filter fun a => (lines.map (·.accountCode)).contains a.accountCode

/-- The source a journal is posted under. -/
def JournalEntryRequest.postingSource (request : JournalEntryRequest) : PostingSource :=
  request.source.getD .MANUAL_JOURNAL

/-- Everything that is checked before the ledger is looked at. -/
def validateRequest (ctx : PostingContext) (db : LedgerDb) (request : JournalEntryRequest) :
    Except LedgerError Unit := do
  let validation := validateDoubleEntry request.lines
  let _ ← require (validation.isValid = true) (.doubleEntryViolation validation.totalDebits
    validation.totalCredits |validation.totalDebits - validation.totalCredits|)
  request.lines.forM fun line => require (validateLineAmounts line = true)
    (.accounting "INVALID_LINE_AMOUNTS" ("Invalid line for account " ++ line.accountCode ++
      ": must have either debit OR credit, not both or neither"))
  validatePosting request.postingSource request.lines (governanceAccounts db request.lines)
    request.idempotencyKey
  validateJournal ctx.arMode request.postingSource request

/-! ## Periods -/

/-- The first period that contains a date. -/
def periodAt (db : LedgerDb) (date : IsoDate) : Option FinancialPeriodRow :=
  db.periods.values.find? fun p => p.startDate.le date && date.le p.endDate

def getPeriodStatus (db : LedgerDb) (date : IsoDate) : Option PeriodStatus :=
  (periodAt db date).map (·.status)

/-- A date without a period is open. -/
def isPeriodOpen (db : LedgerDb) (date : IsoDate) : Bool :=
  match getPeriodStatus db date with
  | none => true
  | some status => status = .OPEN

def requirePeriodOpen (db : LedgerDb) (date : IsoDate) : Except LedgerError Unit :=
  require (isPeriodOpen db date = true) (PeriodLockedError date (getPeriodStatus db date))

/-! ## Earlier postings -/

/-- `getTransaction`, through the pool. -/
def getTransaction (pool : OrderedMap TransactionId TransactionRow) (id : TransactionId) :
    Option JournalEntryResult :=
  (pool.get? id).map fun row =>
    ⟨id, row.transactionNumber, row.status, row.totalDebitAmount.toRat, row.totalCreditAmount.toRat⟩

/-- `checkIdempotencyKey`: the posting that holds a key. -/
def checkIdempotencyKey (db : LedgerDb) (key : String) : Option TransactionId :=
  (db.transactions.entries.find? fun e =>
    decide (e.2.idempotencyKey = key) && !e.2.isReversed && decide (e.2.status = .POSTED)).map
    Prod.fst

/-- The earlier result for a key. -/
def existingByKey (ctx : PostingContext) (db : LedgerDb) (key : String) :
    Except LedgerError (Option JournalEntryResult) :=
  match checkIdempotencyKey db key with
  | none => pure none
  | some id =>
    match getTransaction ctx.pool id with
    | some existing => pure (some existing)
    | none => .error (IdempotencyConflictError key id)

/-- The net-active transaction that satisfies a condition. -/
def findActive (db : LedgerDb) (p : TransactionRow → Bool) : Option TransactionId :=
  (db.transactions.entries.find? fun e => p e.2 && isNetActive db e.1 e.2).map Prod.fst

/-- `returnExistingByReference`. -/
def returnExistingByReference (ctx : PostingContext) (db : LedgerDb) (p : TransactionRow → Bool) :
    Option JournalEntryResult :=
  (findActive db p).bind (getTransaction ctx.pool)

/-- The row is about the document of a request: same type and same id. -/
def JournalEntryRequest.matchesId (request : JournalEntryRequest) (row : TransactionRow) : Bool :=
  decide (row.referenceType = request.referenceType) &&
    decide (some row.referenceId = request.referenceId)

/-- The row is about the document of a request: same type and same number. -/
def JournalEntryRequest.matchesNumber (request : JournalEntryRequest) (row : TransactionRow) :
    Bool :=
  decide (row.referenceType = request.referenceType) &&
    decide (row.referenceNumber = request.referenceNumber)

/-- The earlier result for the document of a request. -/
def existingByReference (ctx : PostingContext) (db : LedgerDb) (request : JournalEntryRequest) :
    Option JournalEntryResult :=
  let byId :=
    if request.referenceType ≠ "" ∧ request.referenceId.isSome = true then
      returnExistingByReference ctx db request.matchesId
    else none
  match byId with
  | some existing => some existing
  | none =>
    if request.referenceType ≠ "" ∧ request.referenceNumber ≠ "" then
      returnExistingByReference ctx db request.matchesNumber
    else none

/-! ## Numbers and accounts -/

/-- `MAX + 1`. -/
def nextTransactionNumber (db : LedgerDb) : ℕ :=
  ((db.transactions.values.map (·.transactionNumber)).foldr max 0) + 1

def transactionNumberText (number : ℕ) : String := "TXN-" ++ padDigits 6 number

/-- The account with a code; a posting looks at active ones only. -/
def accountByCode (db : LedgerDb) (code : String) : Option (AccountId × AccountRow) :=
  db.accounts.entries.find? fun e => e.2.accountCode = code

def activeAccountByCode (db : LedgerDb) (code : String) : Option (AccountId × AccountRow) :=
  db.accounts.entries.find? fun e => decide (e.2.accountCode = code) && e.2.isActive

/-! ## The check after writing -/

/-- The entries of a transaction. -/
def entriesOf (db : LedgerDb) (id : TransactionId) : List LedgerEntry :=
  db.entries.filter fun e => e.transactionId = id

/-- `round(amount, 2)`. -/
def roundCents (amount : Amount) : PeriodAmount := Numeric.ofRat amount.toRat

/-- `assertWrittenJournalMatchesHeader`. -/
def assertWrittenJournalMatchesHeader (db : LedgerDb) (id : TransactionId) :
    Except LedgerError Unit :=
  match db.transactions.get? id, entriesOf db id with
  | some header, e :: rest => do
    let written := e :: rest
    let hdrDr := roundCents header.totalDebitAmount
    let hdrCr := roundCents header.totalCreditAmount
    let entDr := roundCents (written.map (·.debitAmount)).sum
    let entCr := roundCents (written.map (·.creditAmount)).sum
    let badAmt := (written.filter fun e => e.amount ≠ e.debitAmount + e.creditAmount).length
    require (hdrDr = entDr ∧ hdrCr = entCr ∧ badAmt = 0)
      (.accounting "HEADER_ENTRY_MISMATCH"
        ("Posted journal header/Amount does not match entries (hdr " ++
        fixedText 2 hdrDr.toRat ++ "/" ++ fixedText 2 hdrCr.toRat ++ " vs entries " ++
        fixedText 2 entDr.toRat ++ "/" ++ fixedText 2 entCr.toRat ++
        ", amount-column mismatches " ++ toString badAmt ++ ")"))
  | _, _ => .error (.accounting "HEADER_ENTRY_MISMATCH" "Posted journal has no entries")

/-! ## Posting -/

/-- The header of a new journal. -/
def JournalEntryRequest.header (request : JournalEntryRequest) (number : ℕ)
    (referenceId : DocumentId) : TransactionRow where
  transactionNumber := number
  transactionDate := request.entryDate
  referenceType := request.referenceType
  referenceId := referenceId
  referenceNumber := request.referenceNumber
  description := request.description
  totalDebitAmount := Numeric.ofRat (validateDoubleEntry request.lines).totalDebits
  totalCreditAmount := Numeric.ofRat (validateDoubleEntry request.lines).totalCredits
  status := .POSTED
  reversesTransactionId := none
  reversedByTransactionId := none
  isReversed := false
  idempotencyKey := request.idempotencyKey
  createdBy := request.userId
  postingSource := none

/-- How far the lines of a journal are written. -/
structure LineProgress where
  db : LedgerDb
  lineNumber : ℕ
  /-- The accounts and months written so far. -/
  keys : List PeriodKey

/-- The line as it is stored: empty tags become `NULL`. -/
def JournalLine.stored (line : JournalLine) : JournalLine :=
  { line with
    entityType := line.entityType.filter (· ≠ "")
    entityId := line.entityId.filter (· ≠ "") }

/-- One line of a new journal. -/
def postLine (ctx : PostingContext) (id : TransactionId) (request : JournalEntryRequest)
    (p : LineProgress) (line : JournalLine) : Except LedgerError LineProgress := do
  let account ← orThrow (activeAccountByCode p.db line.accountCode)
    (AccountNotFoundError line.accountCode)
  let entry := entryOfLine id request.entryDate p.lineNumber line.stored account.1
  let written := writeLine p.db entry (line.balanceChange account.2.normalBalance)
  let key := PeriodKey.of account.1 request.entryDate
  pure
    { db := match ctx.path with
        | .txClient => written
        | .ownTransaction => writeProjectionEvent written key id request.idempotencyKey ctx.now
      lineNumber := p.lineNumber + 1
      keys := p.keys ++ [key] }

/-- What is done after the lines: on the caller's transaction the period balances are
recomputed; then the account caches are checked. -/
def finishPosting (path : PostingPath) (db : LedgerDb) (keys : List PeriodKey)
    (lines : List JournalLine) : LedgerDb :=
  let rebuilt := match path with
    | .txClient => rebuildAll db keys.eraseDups
    | .ownTransaction => db
  afterJournalEntryGovernance rebuilt (lines.map (·.accountCode))

/-- The jobs a call leaves to the process. -/
def queuedJobs (path : PostingPath) (keys : List PeriodKey) : List PeriodKey :=
  match path with
  | .txClient => []
  | .ownTransaction => keys

/-- The writing half of `createJournalEntry`. -/
def postJournal (ctx : PostingContext) (db : LedgerDb) (request : JournalEntryRequest) :
    Except LedgerError PostingOutcome := do
  requirePeriodOpen db request.entryDate
  let number := nextTransactionNumber db
  let id := db.nextId
  let referenceId ← orThrow request.referenceId (.database "ledger_transactions.ReferenceId")
  let inserted ← insertTransaction db id (request.header number referenceId)
  let stamped := stampPostingSource inserted id request.postingSource
  let written ← request.lines.foldlM (postLine ctx id request) ⟨stamped, 1, []⟩
  assertWrittenJournalMatchesHeader written.db id
  let validation := validateDoubleEntry request.lines
  pure
    { db := finishPosting ctx.path written.db written.keys request.lines
      result := ⟨id, number, .POSTED, validation.totalDebits, validation.totalCredits⟩
      pendingRebuildJobs := queuedJobs ctx.path written.keys }

/-- `createJournalEntry`. -/
def createJournalEntry (ctx : PostingContext) (db : LedgerDb) (request : JournalEntryRequest) :
    Except LedgerError PostingOutcome := do
  validateRequest ctx db request
  match ← existingByKey ctx db request.idempotencyKey with
  | some existing => pure ⟨db, existing, []⟩
  | none =>
    match existingByReference ctx db request with
    | some existing => pure ⟨db, existing, []⟩
    | none => postJournal ctx db request

/-! ## Reversing -/

/-- The original of a reversal: posted, and not reversed yet. -/
def readOriginal (db : LedgerDb) (id : TransactionId) : Except LedgerError TransactionRow := do
  let original ← orThrow (db.transactions.get? id)
    (.accounting "TRANSACTION_NOT_FOUND" "Original transaction not found")
  let _ ← require (original.status ≠ .REVERSED)
    (.accounting "ALREADY_REVERSED" "Transaction already reversed")
  let _ ← require (original.status ≠ .DRAFT)
    (.accounting "INVALID_STATUS" "Cannot reverse draft transaction")
  pure original

/-- The entries of a transaction in the order of their lines. -/
def orderedEntries (db : LedgerDb) (id : TransactionId) : List LedgerEntry :=
  (entriesOf db id).insertionSort fun a b => a.lineNumber ≤ b.lineNumber

/-- The line that takes an entry back. -/
def reversedLine (accountCode : String) (entry : LedgerEntry) : JournalLine where
  accountCode := accountCode
  description := "REVERSAL: " ++ entry.description
  debitAmount := entry.creditAmount.toRat
  creditAmount := entry.debitAmount.toRat
  entityType := entry.entityType
  entityId := entry.entityId

/-- The lines of a reversal: the entries joined with their accounts, sides swapped. -/
def reversedLines (db : LedgerDb) (id : TransactionId) : List JournalLine :=
  (orderedEntries db id).filterMap fun e =>
    (db.accounts.get? e.accountId).map fun account => reversedLine account.accountCode e

/-- The header of a reversal. -/
def ReversalRequest.header (request : ReversalRequest) (original : TransactionRow) (number : ℕ)
    (lines : List JournalLine) : TransactionRow where
  transactionNumber := number
  transactionDate := request.reversalDate
  referenceType := "REVERSAL"
  referenceId := original.referenceId
  referenceNumber := "REV-" ++ original.referenceNumber
  description := "REVERSAL of " ++ transactionNumberText original.transactionNumber ++ ": " ++
    request.reason
  totalDebitAmount := Numeric.ofRat (validateDoubleEntry lines).totalDebits
  totalCreditAmount := Numeric.ofRat (validateDoubleEntry lines).totalCredits
  status := .POSTED
  reversesTransactionId := some request.originalTransactionId
  reversedByTransactionId := none
  isReversed := false
  idempotencyKey := request.idempotencyKey
  createdBy := request.userId
  postingSource := none

/-- One line of a reversal: the months of the reversal and of the original are due.  The
lines come out of a join, so their accounts exist. -/
def reverseLine (id : TransactionId) (request : ReversalRequest) (original : TransactionRow)
    (p : LineProgress) (line : JournalLine) : Except LedgerError LineProgress := do
  let account ← orThrow (accountByCode p.db line.accountCode) (AccountNotFoundError line.accountCode)
  let entry := entryOfLine id request.reversalDate p.lineNumber line account.1
  pure
    { db := writeLine p.db entry (line.balanceChange account.2.normalBalance)
      lineNumber := p.lineNumber + 1
      keys := p.keys ++ [PeriodKey.of account.1 request.reversalDate,
        PeriodKey.of account.1 original.transactionDate] }

/-- The writing half of `reverseTransaction`. -/
def postReversal (ctx : PostingContext) (db : LedgerDb) (request : ReversalRequest)
    (original : TransactionRow) : Except LedgerError PostingOutcome := do
  let lines := reversedLines db request.originalTransactionId
  let number := nextTransactionNumber db
  let id := db.nextId
  let inserted ← insertTransaction db id (request.header original number lines)
  let written ← lines.foldlM (reverseLine id request original) ⟨inserted, 1, []⟩
  assertWrittenJournalMatchesHeader written.db id
  let marked ← markReversed written.db request.originalTransactionId id
  let validation := validateDoubleEntry lines
  pure
    { db := finishPosting ctx.path marked written.keys lines
      result := ⟨id, number, .POSTED, validation.totalDebits, validation.totalCredits⟩
      pendingRebuildJobs := queuedJobs ctx.path written.keys }

/-- `reverseTransaction`. -/
def reverseTransaction (ctx : PostingContext) (db : LedgerDb) (request : ReversalRequest) :
    Except LedgerError PostingOutcome := do
  match ← existingByKey ctx db request.idempotencyKey with
  | some existing => pure ⟨db, existing, []⟩
  | none => do
    let original ← readOriginal db request.originalTransactionId
    requirePeriodOpen db request.reversalDate
    postReversal ctx db request original

/-! ## Locking and closing a month -/

/-- `lockPeriod`. -/
def lockPeriod (db : LedgerDb) (id : PeriodId) : Except LedgerError LedgerDb := do
  let period ← orThrow (db.periods.get? id) (.accounting "PERIOD_NOT_FOUND" "Period not found")
  let _ ← require (period.status ≠ .LOCKED)
    (.accounting "ALREADY_LOCKED" "Period is already locked")
  pure { db with periods := db.periods.set id { period with status := .LOCKED } }

/-- The route `POST /api/period-control/:periodId/close`. -/
def closePeriod (db : LedgerDb) (id : PeriodId) : Except LedgerError LedgerDb :=
  let notFound := LedgerError.accounting "NOT_FOUND" "Period not found or not in OPEN status"
  match db.periods.get? id with
  | some period =>
    if period.status = .OPEN then
      pure { db with periods := db.periods.set id { period with status := .CLOSED } }
    else .error notFound
  | none => .error notFound

end SmartErpPos.Ledger
