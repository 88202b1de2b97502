/-
  Deposits/Repository.lean --- customer deposits and what they were applied to.

  Source: `SamplePOS.Server/src/modules/deposits/depositsRepository.ts` and
  `shared/sql/050_customer_deposits.sql`, `600_deposit_apply_invoice.sql`.

  The check constraints of the two tables are fields of their rows, so a row that breaks one
  cannot be written.  The triggers of the first migration were dropped by later ones; the
  functions below keep the three amounts of a deposit and its status themselves.
-/
import SmartErpPos.Ledger.AccountingCore

set_option autoImplicit false

namespace SmartErpPos.Deposits

open SmartErpPos.Lib SmartErpPos.Ledger

/-! ## Tables -/

inductive DepositStatus where
  | ACTIVE
  | DEPLETED
  | REFUNDED
  | CANCELLED
  deriving DecidableEq

/-- `NUMERIC(18, 2)`. -/
abbrev Cents := Numeric 2

/-- A row of `pos_customer_deposits`. -/
structure DepositRow where
  depositNumber : String
  customerId : String
  amount : Cents
  amountUsed : Cents
  amountAvailable : Cents
  paymentMethod : String
  reference : Option String
  notes : Option String
  status : DepositStatus
  createdBy : Option String
  createdAt : Timestamp
  chk_deposit_amount_positive : 0 < amount
  chk_deposit_used_valid : 0 ≤ amountUsed ∧ amountUsed ≤ amount
  chk_deposit_available_valid : 0 ≤ amountAvailable
  deriving DecidableEq

/-- A row of `pos_deposit_applications`. -/
structure DepositApplicationRow where
  depositId : DocumentId
  saleId : Option DocumentId
  invoiceId : Option DocumentId
  amountApplied : Cents
  appliedAt : Timestamp
  appliedBy : Option String
  chk_application_amount_positive : 0 < amountApplied
  deriving DecidableEq

/-- The two tables, the ledger, and the first unused id. -/
structure DepositDb where
  deposits : OrderedMap DocumentId DepositRow
  applications : OrderedMap DocumentId DepositApplicationRow
  ledger : LedgerDb
  nextDocument : DocumentId

/-- What a failed call throws. -/
inductive DepositError where
  | service (message : String)
  /-- The database rejects the statement. -/
  | database (constraint : String)
  | ledger (error : LedgerError)
  deriving DecidableEq

/-- What a call draws from outside: the clock, the next deposit number, the customers master,
the order of generated ids, and what the column `ReferenceId` makes of a text that is not an
id (`none` where it refuses it). -/
structure DepositEnv where
  ctx : PostingContext
  today : IsoDate
  depositNumber : String
  customerName : String → Option String
  before : DocumentId → DocumentId → Bool
  referenceOfText : String → Option DocumentId

/-! ## Creating -/

structure CreateDepositInput where
  customerId : String
  amount : ℚ
  paymentMethod : String
  reference : Option String
  notes : Option String
  createdBy : Option String

/-- `createDeposit` of the repository. -/
def insertDeposit (env : DepositEnv) (db : DepositDb) (input : CreateDepositInput) :
    Except DepositError (DocumentId × DepositRow × DepositDb) := do
  let _ ← require (∀ e ∈ db.deposits.entries, e.2.depositNumber ≠ env.depositNumber)
    (.database "pos_customer_deposits_deposit_number_key")
  let amount : Cents := Numeric.ofRat input.amount
  if hamount : 0 < amount then
    let row : DepositRow :=
      { depositNumber := env.depositNumber
        customerId := input.customerId
        amount := amount
        amountUsed := 0
        amountAvailable := amount
        paymentMethod := input.paymentMethod
        reference := input.reference.filter fun text => text ≠ ""
        notes := input.notes.filter fun text => text ≠ ""
        status := .ACTIVE
        createdBy := input.createdBy.filter fun id => id ≠ ""
        createdAt := env.ctx.now
        chk_deposit_amount_positive := hamount
        chk_deposit_used_valid := ⟨le_rfl, hamount.le⟩
        chk_deposit_available_valid := hamount.le }
    pure (db.nextDocument, row,
      { db with
        deposits := db.deposits.set db.nextDocument row
        nextDocument := db.nextDocument + 1 })
  else .error (.database "chk_deposit_amount_positive")

/-! ## Applying -/

/-- `UPDATE .. SET amount_used, amount_available, status`. -/
def DepositRow.update (row : DepositRow) (used available : Cents) (status : DepositStatus) :
    Except DepositError DepositRow :=
  if hused : 0 ≤ used ∧ used ≤ row.amount then
    if havailable : 0 ≤ available then
      .ok { row with
        amountUsed := used
        amountAvailable := available
        status := status
        chk_deposit_used_valid := hused
        chk_deposit_available_valid := havailable }
    else .error (.database "chk_deposit_available_valid")
  else .error (.database "chk_deposit_used_valid")

structure ApplyDepositInput where
  depositId : DocumentId
  saleId : Option DocumentId
  invoiceId : Option DocumentId
  amount : Cents
  appliedBy : Option String

/-- `applyDepositToSaleInTransaction`.  The invoice is stored only without a sale. -/
def applyDepositToSaleInTransaction (env : DepositEnv) (db : DepositDb) (input : ApplyDepositInput) :
    Except DepositError (DocumentId × DepositApplicationRow × DepositDb) := do
  let _ ← require (input.saleId.isSome = true ∨ input.invoiceId.isSome = true)
    (.service "DEPOSIT_APPLY_TARGET_REQUIRED: saleId or invoiceId must be provided")
  let deposit ← orThrow ((db.deposits.get? input.depositId).filter fun row => row.status = .ACTIVE)
    (.service "Deposit not found or not active")
  if hpositive : 0 < input.amount then
    let _ ← require (input.amount ≤ deposit.amountAvailable)
      (.service ("Insufficient deposit balance. Available: " ++
        fixedText 2 deposit.amountAvailable.toRat ++ ", Requested: " ++
        fixedText 2 input.amount.toRat))
    let application : DepositApplicationRow :=
      { depositId := input.depositId
        saleId := input.saleId
        invoiceId := if input.saleId.isSome then none else input.invoiceId
        amountApplied := input.amount
        appliedAt := env.ctx.now
        appliedBy := input.appliedBy
        chk_application_amount_positive := hpositive }
    let newUsed := deposit.amountUsed + input.amount
    let newAvailable := deposit.amount - newUsed
    let updated ← deposit.update newUsed (max newAvailable 0)
      (if newAvailable ≤ 0 then .DEPLETED else .ACTIVE)
    pure (db.nextDocument, application,
      { db with
        applications := db.applications.set db.nextDocument application
        deposits := db.deposits.set input.depositId updated
        nextDocument := db.nextDocument + 1 })
  else .error (.service "DEPOSIT_APPLY_AMOUNT_INVALID: amount must be greater than zero")

/-! ## Taking an application back -/

/-- Put an amount back on a deposit: whatever its status was, it becomes active, or depleted
when nothing is available. -/
def restoreToDeposit (db : DepositDb) (depositId : DocumentId) (amount : Cents) :
    Except DepositError DepositDb :=
  match db.deposits.get? depositId with
  | none => pure db
  | some row => do
    let used := row.amountUsed - amount
    let available := row.amount - used
    let updated ← row.update used available (if 0 < available then .ACTIVE else .DEPLETED)
    pure { db with deposits := db.deposits.set depositId updated }

/-- `reverseDepositApplicationInTransaction`. -/
def reverseDepositApplicationInTransaction (db : DepositDb) (applicationId : DocumentId) :
    Except DepositError DepositDb := do
  let application ← orThrow (db.applications.get? applicationId)
    (.service "Deposit application not found")
  let restored ← restoreToDeposit db application.depositId application.amountApplied
  pure { restored with applications := restored.applications.erase applicationId }

/-- `reduceDepositApplicationInTransaction`. -/
def reduceDepositApplicationInTransaction (db : DepositDb) (applicationId : DocumentId)
    (reduceBy : Cents) : Except DepositError DepositDb := do
  let application ← orThrow (db.applications.get? applicationId)
    (.service "Deposit application not found")
  let remaining := application.amountApplied - reduceBy
  let _ ← require (¬ remaining.toRat < -1 / 1000)
    (.service "Deposit application reduction exceeds the amount applied")
  let restored ← restoreToDeposit db application.depositId reduceBy
  if |remaining.toRat| < 1 / 1000 then
    pure { restored with applications := restored.applications.erase applicationId }
  else if hpositive : 0 < remaining then
    pure { restored with
      applications := restored.applications.set applicationId
        { application with
          amountApplied := remaining
          chk_application_amount_positive := hpositive } }
  else .error (.database "chk_application_amount_positive")

/-! ## Refunding -/

/-- `refundDeposit`: the status changes, and nothing else but a note. -/
def refundDeposit (db : DepositDb) (depositId : DocumentId) (reason : Option String) :
    Except DepositError DepositDb := do
  let row ← orThrow ((db.deposits.get? depositId).filter fun row => row.status = .ACTIVE)
    (.service "Deposit not found or not refundable")
  let reason := (reason.filter fun text => text ≠ "").getD "No reason provided"
  let notes := (row.notes.map fun text => text ++ " | ").getD "" ++ "REFUNDED: " ++ reason
  pure { db with
    deposits := db.deposits.set depositId { row with status := .REFUNDED, notes := some notes } }

end SmartErpPos.Deposits
