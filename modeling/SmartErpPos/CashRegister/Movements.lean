/-
  CashRegister/Movements.lean --- recording a cash movement and posting its journal.

  Source: `recordMovement` and `createMovementGLEntry` of
  `modules/cash-register/cashRegisterService.ts`, with treasury documents switched off.

  The movement is inserted first, then its journal is posted on a transaction of its own.
  Collections of receivables (`CASH_IN_PAYMENT`) take another path, which is left out.
-/
import SmartErpPos.CashRegister.Sessions
import SmartErpPos.Ledger.AccountingCore

set_option autoImplicit false

namespace SmartErpPos.CashRegister

open SmartErpPos.Lib SmartErpPos.Ledger

/-! ## Accounts -/

def CASH : String := "1010"
def PETTY_CASH : String := "1012"
def CHECKING_ACCOUNT : String := "1030"
def OTHER_INCOME : String := "4200"
def GENERAL_EXPENSE : String := "6900"

/-! ## The journal of a movement -/

/-- The account a movement debits and the one it credits; the other types are posted by their
own workflows, or not at all. -/
def MovementType.accounts : MovementType → Option (String × String)
  | .CASH_IN_OTHER => some (CASH, OTHER_INCOME)
  | .CASH_OUT_BANK => some (CHECKING_ACCOUNT, CASH)
  | .CASH_IN_FLOAT => some (CASH, PETTY_CASH)
  | .CASH_OUT_EXPENSE => some (GENERAL_EXPENSE, PETTY_CASH)
  | .CASH_OUT_OTHER => some (GENERAL_EXPENSE, CASH)
  | _ => none

/-- The text of a journal. -/
def movementDescription (movement : CashMovement) (session : CashRegisterSession) : String :=
  match movement.movementType with
  | .CASH_IN_OTHER => "Cash income - " ++ orText movement.reason "Other"
  | .CASH_OUT_BANK => "Bank deposit - " ++ orText movement.reason "Daily deposit"
  | .CASH_IN_FLOAT => "Float received - Session " ++ session.sessionNumber
  | .CASH_OUT_EXPENSE => "Petty cash expense - " ++ orText movement.reason "Misc"
  | .CASH_OUT_OTHER => "Cash withdrawal - " ++ orText movement.reason "Other"
  | _ => ""

/-- A line of a movement. -/
def movementLine (movement : CashMovement) (accountCode description : String)
    (debitAmount creditAmount : ℚ) : JournalLine where
  accountCode := accountCode
  description := description
  debitAmount := debitAmount
  creditAmount := creditAmount
  entityType := some "CASH_MOVEMENT"
  entityId := some (toString movement.id)

/-- The amount of a movement on its two accounts. -/
def movementLines (movement : CashMovement) (description : String) (accounts : String × String) :
    List JournalLine :=
  [movementLine movement accounts.1 description movement.amount.toRat 0,
    movementLine movement accounts.2 description 0 movement.amount.toRat]

/-- `CASH_MOV_${movement.id}`. -/
def movementKey (id : MovementId) : String := "CASH_MOV_" ++ toString id

/-- The source a movement is posted under. -/
def movementSource (movementType : MovementType) : PostingSource :=
  if movementType = .CASH_OUT_BANK ∨ movementType = .CASH_IN_FLOAT then .TREASURY_TRANSFER
  else .EXPENSE_PAYMENT

/-- The journal `createMovementGLEntry` asks for. -/
def movementRequest (today : IsoDate) (userId : UserId) (movement : CashMovement)
    (session : CashRegisterSession) (accounts : String × String) : JournalEntryRequest where
  entryDate := today
  description := movementDescription movement session
  referenceType := "CASH_MOVEMENT"
  referenceId := some movement.id
  referenceNumber := session.sessionNumber
  lines := movementLines movement (movementDescription movement session) accounts
  userId := toString userId
  idempotencyKey := movementKey movement.id
  source := some (movementSource movement.movementType)

/-- The day and the clock of a call. -/
structure CashEnv where
  today : IsoDate
  arMode : ArGovernanceMode
  now : Timestamp

/-- A posting through the pool. -/
def CashEnv.context (env : CashEnv) (ledger : LedgerDb) : PostingContext where
  path := .ownTransaction
  pool := ledger.transactions
  arMode := env.arMode
  now := env.now

/-- The message of an error. -/
def messageOf : LedgerError → String
  | .accounting _ message => message
  | .doubleEntryViolation _ _ _ => "Double-entry violation"
  | .governance _ message => message
  | .database constraint => constraint

/-- `createMovementGLEntry`; a conflict of the idempotency key is not an error. -/
def createMovementGLEntry (env : CashEnv) (ledger : LedgerDb) (movement : CashMovement)
    (session : CashRegisterSession) (userId : UserId) : Except CashError LedgerDb :=
  match movement.movementType.accounts with
  | none => pure ledger
  | some accounts =>
    match createJournalEntry (env.context ledger) ledger
        (movementRequest env.today userId movement session accounts) with
    | .ok out => pure out.db
    | .error error =>
      if jsIncludes "IDEMPOTENCY_CONFLICT" (messageOf error) then pure ledger
      else .error (.ledger error)

/-! ## Recording a movement -/

/-- The movement recorded under the client's key, when it gave one. -/
def recordedBefore (db : CashDb) (clientUuid : Option String) : Option CashMovement :=
  match clientUuid with
  | none => none
  | some uuid => if uuid = "" then none else getMovementByClientUuid db uuid

/-- The session a movement may be recorded in. -/
def requireOpenSession (db : CashDb) (sessionId : SessionId) :
    Except CashError CashRegisterSession := do
  let session ← orThrow (db.sessions.get? sessionId) (SessionNotFoundError sessionId)
  let _ ← require (session.status = .OPEN) (SessionNotOpenError sessionId session.status)
  pure session

/-- `recordMovement`, without the collections of receivables. -/
def recordMovement (env : CashEnv) (db : CashDb) (data : RecordMovementData) :
    Except CashError CashDb :=
  match recordedBefore db data.clientUuid with
  | some _ => pure db
  | none => do
    let session ← requireOpenSession db data.sessionId
    let inserted := insertMovement db data
    let ledger ← createMovementGLEntry env inserted.ledger (data.row db.nextId) session data.userId
    pure { inserted with ledger := ledger }

end SmartErpPos.CashRegister
