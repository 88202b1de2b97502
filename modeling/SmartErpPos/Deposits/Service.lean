/-
  Deposits/Service.lean --- taking, applying, restoring and refunding deposits.

  Sources: `SamplePOS.Server/src/modules/deposits/depositsService.ts`,
  `shared/domain/invoiceDepositPayment.ts` (`allocateDepositFifo`), and
  `recordCustomerDepositToGL`, `recordDepositApplicationToGL` of
  `services/glEntryService.ts`.

  A call runs in one database transaction, so its journals are posted on that transaction's
  client.  The journal of an application is posted by the caller of the apply function.
-/
import SmartErpPos.Deposits.Repository
import SmartErpPos.Lib.GreedyDraw

set_option autoImplicit false

namespace SmartErpPos.Deposits

open SmartErpPos.Lib SmartErpPos.Ledger

/-! ## Accounts and journals -/

def UNDEPOSITED_FUNDS : String := "1015"
def ACCOUNTS_RECEIVABLE : String := "1200"
def CUSTOMER_DEPOSITS : String := "2200"
def SYSTEM_USER_ID : String := "00000000-0000-0000-0000-000000000000"

/-- The text of an id. -/
def idText (id : DocumentId) : String := toString id

/-- A line of a customer. -/
def customerLine (accountCode description customerId : String) (debit credit : ℚ) : JournalLine :=
  { accountCode := accountCode
    description := description
    debitAmount := debit
    creditAmount := credit
    entityType := some "customer"
    entityId := some customerId }

/-- `CUSTOMER_DEPOSIT-${depositId}`. -/
def depositKey (id : DocumentId) : String := "CUSTOMER_DEPOSIT-" ++ idText id

/-- `DEPOSIT_APPLICATION-${applicationId}`. -/
def applicationKey (id : DocumentId) : String := "DEPOSIT_APPLICATION-" ++ idText id

/-- `DEPOSIT_APP_RESTORE-${applicationId}`. -/
def restoreKey (id : DocumentId) : String := "DEPOSIT_APP_RESTORE-" ++ idText id

/-- `DEPOSIT_APP_RESTORE-${applicationId}-${slice}`. -/
def sliceKey (id : DocumentId) (slice : Cents) : String :=
  restoreKey id ++ "-" ++ fixedText 2 slice.toRat

/-- The journal of `recordCustomerDepositToGL`. -/
def customerDepositRequest (id : DocumentId) (row : DepositRow) (date : IsoDate)
    (customerName : String) : JournalEntryRequest where
  entryDate := date
  description := "Customer Deposit: " ++ customerName ++ " — " ++ row.depositNumber
  referenceType := "CUSTOMER_DEPOSIT"
  referenceId := some id
  referenceNumber := row.depositNumber
  lines :=
    [customerLine UNDEPOSITED_FUNDS ("Deposit received — " ++ row.depositNumber) row.customerId
      row.amount.toRat 0,
    customerLine CUSTOMER_DEPOSITS ("Customer deposit liability — " ++ row.depositNumber)
      row.customerId 0 row.amount.toRat]
  userId := SYSTEM_USER_ID
  idempotencyKey := depositKey id
  source := some .PAYMENT_RECEIPT

structure DepositApplicationGLData where
  applicationId : DocumentId
  depositLabel : String
  referenceNumber : String
  saleNumber : String
  applicationDate : IsoDate
  amount : Cents
  customerId : String
  customerName : String

/-- The journal of `recordDepositApplicationToGL`. -/
def depositApplicationRequest (data : DepositApplicationGLData) : JournalEntryRequest where
  entryDate := data.applicationDate
  description := "Deposit Application: " ++ data.depositLabel ++ " applied to " ++ data.saleNumber ++
    " (" ++ data.customerName ++ ")"
  referenceType := "DEPOSIT_APPLICATION"
  referenceId := some data.applicationId
  referenceNumber := data.referenceNumber
  lines :=
    [customerLine CUSTOMER_DEPOSITS ("Deposit liability cleared — " ++ data.depositLabel ++
      " applied to " ++ data.saleNumber) data.customerId data.amount.toRat 0,
    customerLine ACCOUNTS_RECEIVABLE ("AR cleared via deposit — " ++ data.saleNumber)
      data.customerId 0 data.amount.toRat]
  userId := SYSTEM_USER_ID
  idempotencyKey := applicationKey data.applicationId
  source := some .DEPOSIT_APPLICATION

/-- The context of a posting on the caller's client. -/
def DepositEnv.client (env : DepositEnv) : PostingContext := { env.ctx with path := .txClient }

/-- An error of the ledger, as these calls throw it. -/
def ofLedger {α : Type} (x : Except LedgerError α) : Except DepositError α := x.mapError .ledger

/-! ## Taking a deposit -/

def validMethods : List String := ["CASH", "CARD", "MOBILE_MONEY", "BANK_TRANSFER"]

/-- `createDeposit`. -/
def createDeposit (env : DepositEnv) (db : DepositDb) (input : CreateDepositInput) :
    Except DepositError DepositDb := do
  let customerName ← orThrow (env.customerName input.customerId)
    (.service ("Customer not found: " ++ input.customerId))
  let _ ← require (0 < input.amount) (.service "Deposit amount must be greater than zero")
  let _ ← require (input.paymentMethod ∈ validMethods)
    (.service ("Invalid payment method: " ++ input.paymentMethod))
  let (id, row, inserted) ← insertDeposit env db input
  let posted ← ofLedger (createJournalEntry env.client inserted.ledger
    (customerDepositRequest id row env.today customerName))
  pure { inserted with ledger := posted.db }

/-! ## Applying deposits -/

/-- `allocateDepositFifo`: oldest first, each deposit up to what it has. -/
def allocateDepositFifo (deposits : List (DocumentId × Cents)) (requested : Cents) :
    Except DepositError (List (DocumentId × Cents)) := do
  let _ ← require (0 < requested) (.service "Amount to apply must be greater than zero")
  let totalAvailable := (deposits.map (·.2)).sum
  let _ ← require (requested ≤ totalAvailable)
    (.service ("INSUFFICIENT_DEPOSIT: Customer has " ++ fixedText 2 totalAvailable.toRat ++
      " available, but payment requires " ++ fixedText 2 requested.toRat))
  let (allocations, remaining) := drawFold (·.2)
    (fun (allocations : List (DocumentId × Cents)) d amount => allocations ++ [(d.1, amount)])
    (deposits.filter fun d => 0 < d.2) requested []
  let _ ← require (remaining ≤ 0)
    (.service ("DEPOSIT_APPLY_INCOMPLETE: remaining " ++ fixedText 2 remaining.toRat ++
      " after FIFO (requested " ++ fixedText 2 requested.toRat ++ ")"))
  let totalApplied := (allocations.map (·.2)).sum
  let _ ← require (totalApplied = requested)
    (.service ("DEPOSIT_APPLY_MISMATCH: applied " ++ fixedText 2 totalApplied.toRat ++ " != requested " ++
      fixedText 2 requested.toRat))
  pure allocations

/-- `lockActiveDepositsForCustomer`. -/
def activeDeposits (env : DepositEnv) (db : DepositDb) (customerId : String) :
    List (DocumentId × DepositRow) :=
  (db.deposits.entries.filter fun e => decide (e.2.customerId = customerId) &&
    decide (e.2.status = .ACTIVE) && decide (0 < e.2.amountAvailable)).insertionSort fun a b =>
      a.2.createdAt < b.2.createdAt ∨ (a.2.createdAt = b.2.createdAt ∧ env.before a.1 b.1 = true)

structure ApplyInput where
  customerId : String
  saleId : Option DocumentId
  invoiceId : Option DocumentId
  amountToApply : ℚ
  appliedBy : Option String

/-- The applications made so far, and the tables. -/
abbrev Applying := List (DocumentId × Cents) × DepositDb

/-- One allocation is applied. -/
def applyAllocation (env : DepositEnv) (input : ApplyInput) (s : Applying)
    (alloc : DocumentId × Cents) : Except DepositError Applying := do
  let (id, application, db) ← applyDepositToSaleInTransaction env s.2
    ⟨alloc.1, input.saleId, input.invoiceId, alloc.2, input.appliedBy⟩
  pure (s.1 ++ [(id, application.amountApplied)], db)

/-- `applyDepositsToSaleInTransaction`. -/
def applyDepositsToSaleInTransaction (env : DepositEnv) (db : DepositDb) (input : ApplyInput) :
    Except DepositError Applying := do
  let _ ← require (input.saleId.isSome = true ∨ input.invoiceId.isSome = true)
    (.service "DEPOSIT_APPLY_TARGET_REQUIRED: saleId or invoiceId must be provided")
  let requested : Cents := Numeric.ofRat input.amountToApply
  let _ ← require (0 < requested) (.service "Amount to apply must be greater than zero")
  let deposits := activeDeposits env db input.customerId
  let _ ← require (deposits ≠ []) (.service "No active deposits available for this customer")
  let allocations ← allocateDepositFifo (deposits.map fun e => (e.1, e.2.amountAvailable)) requested
  let applied ← allocations.foldlM (applyAllocation env input) ([], db)
  let totalApplied := (applied.1.map (·.2)).sum
  let _ ← require (totalApplied = requested)
    (.service ("DEPOSIT_APPLY_MISMATCH: applied " ++ fixedText 2 totalApplied.toRat ++ " != requested " ++
      fixedText 2 requested.toRat))
  pure applied

/-! ## Restoring -/

structure RestoreInput where
  saleId : DocumentId
  amount : ℚ
  reversalDate : IsoDate
  reason : String
  userId : String

/-- An application of the sale, as the restore reads it once at its start. -/
structure SaleApplication where
  id : DocumentId
  amountApplied : Cents
  customerId : String
  depositNumber : String
  deriving DecidableEq

/-- The applications of a sale, newest first. -/
def saleApplications (env : DepositEnv) (db : DepositDb) (saleId : DocumentId) :
    List SaleApplication :=
  let rows := db.applications.entries.filter fun e => e.2.saleId = some saleId
  let newestFirst := rows.insertionSort fun a b =>
    b.2.appliedAt < a.2.appliedAt ∨ (a.2.appliedAt = b.2.appliedAt ∧ env.before b.1 a.1 = true)
  newestFirst.filterMap fun e => (db.deposits.get? e.2.depositId).map fun deposit =>
    ⟨e.1, e.2.amountApplied, deposit.customerId, deposit.depositNumber⟩

/-- The newest journal of an application that is not reversed; transactions are kept in the
order in which they were created. -/
def applicationJournal (ledger : LedgerDb) (applicationId : DocumentId) :
    Option (TransactionId × TransactionRow) :=
  ledger.transactions.entries.reverse.find? fun e =>
    decide (e.2.referenceType = "DEPOSIT_APPLICATION") &&
      decide (e.2.referenceId = applicationId) && !e.2.isReversed

/-- The reversal of the journal of an application. -/
def wholeRestore (input : RestoreInput) (app : SaleApplication) (journal : TransactionId) :
    ReversalRequest where
  originalTransactionId := journal
  reversalDate := input.reversalDate
  reason := input.reason
  userId := input.userId
  idempotencyKey := restoreKey app.id

/-- The journal of a part that is restored. -/
def sliceRequest (env : DepositEnv) (input : RestoreInput) (app : SaleApplication) (slice : Cents) :
    JournalEntryRequest where
  entryDate := input.reversalDate
  description := "Restore part of " ++ app.depositNumber ++ ": " ++ input.reason
  referenceType := "DEPOSIT_APPLICATION_REVERSAL"
  referenceId := env.referenceOfText (idText app.id ++ ":" ++ fixedText 2 slice.toRat)
  referenceNumber := "REV-" ++ app.depositNumber
  lines :=
    [customerLine ACCOUNTS_RECEIVABLE ("AR reopened — part of " ++ app.depositNumber ++ " restored")
      app.customerId slice.toRat 0,
    customerLine CUSTOMER_DEPOSITS ("Customer deposit restored — " ++ app.depositNumber)
      app.customerId 0 slice.toRat]
  userId := input.userId
  idempotencyKey := sliceKey app.id slice
  source := some .SYSTEM_CORRECTION

/-- How far a restore has come. -/
structure Restoring where
  db : DepositDb
  remaining : Cents
  restored : Cents
  applications : ℕ

/-- Restore a slice of an application, and move its journal. -/
def restoreSlice (env : DepositEnv) (input : RestoreInput) (db : DepositDb) (app : SaleApplication)
    (journal : TransactionId) (slice : Cents) : Except DepositError DepositDb := do
  if |(slice - app.amountApplied).toRat| < 1 / 1000 then
    let reversed ← ofLedger (reverseTransaction env.client db.ledger (wholeRestore input app journal))
    reverseDepositApplicationInTransaction { db with ledger := reversed.db } app.id
  else
    let posted ← ofLedger (createJournalEntry env.client db.ledger (sliceRequest env input app slice))
    reduceDepositApplicationInTransaction { db with ledger := posted.db } app.id slice

/-- One round of the loop.  Once 0.009 or less is left, every later round does nothing. -/
def restoreApplication (env : DepositEnv) (input : RestoreInput) (s : Restoring)
    (app : SaleApplication) : Except DepositError Restoring :=
  if ¬ 9 / 1000 < s.remaining.toRat ∨ ¬ 0 < app.amountApplied then pure s
  else
    match applicationJournal s.db.ledger app.id with
    | none => pure s
    | some journal => do
      let slice := min s.remaining app.amountApplied
      let db ← restoreSlice env input s.db app journal.1 slice
      pure ⟨db, s.remaining - slice, s.restored + slice, s.applications + 1⟩

/-- `restoreSaleDepositApplicationsInTransaction`. -/
def restoreSaleDepositApplicationsInTransaction (env : DepositEnv) (db : DepositDb)
    (input : RestoreInput) : Except DepositError Restoring :=
  let cap : Cents := Numeric.ofRat input.amount
  if ¬ 0 < cap then pure ⟨db, cap, 0, 0⟩
  else
    (saleApplications env db input.saleId).foldlM (restoreApplication env input) ⟨db, cap, 0, 0⟩

end SmartErpPos.Deposits
