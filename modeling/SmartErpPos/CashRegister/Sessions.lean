/-
  CashRegister/Sessions.lean --- registers, till sessions and cash movements.

  Sources: `modules/cash-register/cashRegisterRepository.ts`, and the error classes and
  `openSession` of `cashRegisterService.ts`; `posSessionAllowsJoin` of
  `shared/pos/posSessionPolicySsot.ts`.

  Ids are numbers drawn from one counter.  Rows are listed in the order of insertion.
  The participants of a session, its counters and its printed summaries are left out: no
  operation here reads them.
-/
import SmartErpPos.Ledger.Types
import SmartErpPos.Lib.JsText

set_option autoImplicit false

namespace SmartErpPos.CashRegister

open SmartErpPos.Lib SmartErpPos.Ledger

/-! ## Rows -/

abbrev RegisterId := ℕ
abbrev SessionId := ℕ
abbrev MovementId := ℕ
abbrev UserId := ℕ

/-- `numeric(15, 2)`. -/
abbrev Cents := Numeric 2

inductive SessionStatus where
  | OPEN
  | CLOSED
  | RECONCILED
  deriving DecidableEq

def SessionStatus.text : SessionStatus → String
  | .OPEN => "OPEN"
  | .CLOSED => "CLOSED"
  | .RECONCILED => "RECONCILED"

/-- `movement_type`; `CASH_IN` and `CASH_OUT` are legacy. -/
inductive MovementType where
  | CASH_IN
  | CASH_IN_FLOAT
  | CASH_IN_PAYMENT
  | CASH_IN_OTHER
  | CASH_OUT
  | CASH_OUT_BANK
  | CASH_OUT_EXPENSE
  | CASH_OUT_OTHER
  | SALE
  | REFUND
  | FLOAT_ADJUSTMENT
  deriving DecidableEq

structure Register where
  name : String
  isActive : Bool
  deriving DecidableEq

/-- A row of `cash_register_sessions`. -/
structure CashRegisterSession where
  registerId : RegisterId
  userId : UserId
  sessionNumber : String
  status : SessionStatus
  openingFloat : Cents
  expectedClosing : Option Cents
  actualClosing : Option Cents
  variance : Option Cents
  varianceReason : Option String
  deriving DecidableEq

/-- A row of `cash_movements`. -/
structure CashMovement where
  id : MovementId
  sessionId : SessionId
  userId : UserId
  movementType : MovementType
  amount : Cents
  reason : Option String
  clientUuid : Option String
  deriving DecidableEq

/-- `pos_session_policy`. -/
inductive PosSessionPolicy where
  | DISABLED
  | PER_CASHIER_SESSION
  | PER_COUNTER_SHARED_SESSION
  | GLOBAL_STORE_SESSION
  deriving DecidableEq

def posSessionAllowsJoin (policy : PosSessionPolicy) : Bool :=
  policy = .PER_COUNTER_SHARED_SESSION || policy = .GLOBAL_STORE_SESSION

/-- The tables of the tills and the ledger they post to. -/
structure CashDb where
  ledger : LedgerDb
  registers : OrderedMap RegisterId Register
  policy : PosSessionPolicy
  sessions : OrderedMap SessionId CashRegisterSession
  movements : List CashMovement
  nextId : ℕ

/-! ## Errors -/

/-- What a failed call throws. -/
inductive CashError where
  /-- A `CashRegisterError` or one of its subclasses. -/
  | cashRegister (message code : String)
  /-- An error of the ledger. -/
  | ledger (error : LedgerError)
  deriving DecidableEq

def RegisterNotFoundError (registerId : RegisterId) : CashError :=
  .cashRegister ("Register not found: " ++ toString registerId) "REGISTER_NOT_FOUND"

def SessionNotFoundError (sessionId : SessionId) : CashError :=
  .cashRegister ("Session not found: " ++ toString sessionId) "SESSION_NOT_FOUND"

def RegisterBusyError (sessionNumber : String) : CashError :=
  .cashRegister ("Register already has an open session: " ++ sessionNumber) "REGISTER_BUSY"

def UserAlreadyHasSessionError (sessionNumber registerName : String) : CashError :=
  .cashRegister ("User already has an open session: " ++ sessionNumber ++ " on " ++ registerName)
    "USER_HAS_SESSION"

def SessionNotOpenError (sessionId : SessionId) (status : SessionStatus) : CashError :=
  .cashRegister ("Cannot perform operation on " ++ status.text ++ " session: " ++
    toString sessionId) "SESSION_NOT_OPEN"

def SessionNotClosedError (sessionId : SessionId) (status : SessionStatus) : CashError :=
  .cashRegister ("Cannot reconcile " ++ status.text ++ " session: " ++ toString sessionId ++
    ". Session must be CLOSED.") "SESSION_NOT_CLOSED"

/-! ## Queries -/

/-- The sign of a movement in `calculateExpectedClosing`. -/
def MovementType.tillSign : MovementType → ℤ
  | .CASH_IN | .CASH_IN_FLOAT | .CASH_IN_PAYMENT | .CASH_IN_OTHER | .SALE
  | .FLOAT_ADJUSTMENT => 1
  | .CASH_OUT | .CASH_OUT_BANK | .CASH_OUT_OTHER | .REFUND => -1
  | .CASH_OUT_EXPENSE => 0

/-- What a movement adds to the cash expected in the till. -/
def CashMovement.tillChange (movement : CashMovement) : Cents :=
  movement.movementType.tillSign • movement.amount

/-- `calculateExpectedClosing`. -/
def calculateExpectedClosing (movements : List CashMovement) (sessionId : SessionId) : Cents :=
  ((movements.filter fun movement => decide (movement.sessionId = sessionId)).map
    (·.tillChange)).sum

/-- `getMovementByClientUuid`. -/
def getMovementByClientUuid (db : CashDb) (clientUuid : String) : Option CashMovement :=
  db.movements.find? fun movement => decide (movement.clientUuid = some clientUuid)

/-- `getOpenSession`: the open session of a register. -/
def getOpenSession (db : CashDb) (registerId : RegisterId) :
    Option (SessionId × CashRegisterSession) :=
  db.sessions.entries.find? fun e =>
    decide (e.2.registerId = registerId) && decide (e.2.status = .OPEN)

/-- `getUserOpenSession`: the open session of a user that was opened last. -/
def getUserOpenSession (db : CashDb) (userId : UserId) :
    Option (SessionId × CashRegisterSession) :=
  db.sessions.entries.reverse.find? fun e =>
    decide (e.2.userId = userId) && decide (e.2.status = .OPEN)

/-- `REG-${year}-`. -/
def sessionNumberStem (year : ℕ) : String := "REG-" ++ toString year ++ "-"

/-- The number behind the second dash, as `parseInt` reads it. -/
def sessionSequence (sessionNumber : String) : ℕ :=
  (((sessionNumber.toList.splitOn '-').getD 2 []).takeWhile Char.isDigit).foldl
    (fun n c => 10 * n + (c.toNat - '0'.toNat)) 0

/-- `generateSessionNumber`: one more than the last number of the year, in the order of the
texts. -/
def generateSessionNumber (db : CashDb) (year : ℕ) : String :=
  let ofYear := (db.sessions.values.map (·.sessionNumber)).filter
    (jsStartsWith (sessionNumberStem year))
  match ofYear with
  | [] => sessionNumberStem year ++ "0001"
  | first :: rest =>
    let last := rest.foldl (fun best number => if best < number then number else best) first
    sessionNumberStem year ++ padDigits 4 (sessionSequence last + 1)

/-! ## Inserts -/

structure RecordMovementData where
  sessionId : SessionId
  userId : UserId
  movementType : MovementType
  amount : ℚ
  reason : Option String
  clientUuid : Option String
  deriving DecidableEq

/-- The row an insert of a movement writes; empty texts become `NULL`. -/
def RecordMovementData.row (data : RecordMovementData) (id : MovementId) : CashMovement where
  id := id
  sessionId := data.sessionId
  userId := data.userId
  movementType := data.movementType
  amount := .ofRat data.amount
  reason := data.reason.filter (· ≠ "")
  clientUuid := data.clientUuid.filter (· ≠ "")

/-- `cashRegisterRepository.recordMovement`. -/
def insertMovement (db : CashDb) (data : RecordMovementData) : CashDb :=
  { db with
    movements := db.movements ++ [data.row db.nextId]
    nextId := db.nextId + 1 }

structure OpenSessionData where
  registerId : RegisterId
  userId : UserId
  openingFloat : ℚ

/-- `cashRegisterRepository.openSession`: the session and its opening float. -/
def insertSession (db : CashDb) (year : ℕ) (data : OpenSessionData) : CashDb :=
  let session : CashRegisterSession :=
    { registerId := data.registerId
      userId := data.userId
      sessionNumber := generateSessionNumber db year
      status := .OPEN
      openingFloat := .ofRat data.openingFloat
      expectedClosing := none
      actualClosing := none
      variance := none
      varianceReason := none }
  insertMovement { db with
      sessions := db.sessions.set db.nextId session
      nextId := db.nextId + 1 }
    { sessionId := db.nextId
      userId := data.userId
      movementType := .FLOAT_ADJUSTMENT
      amount := data.openingFloat
      reason := some "Opening float"
      clientUuid := none }

/-! ## Opening a session -/

/-- `attachToExistingRegisterSession`: the owner resumes, others join where the policy lets
them. -/
def attachToExistingRegisterSession (db : CashDb) (existing : CashRegisterSession)
    (data : OpenSessionData) : Except CashError CashDb :=
  if existing.userId = data.userId then pure db
  else if posSessionAllowsJoin db.policy then
    match getUserOpenSession db data.userId with
    | some elsewhere => .error (UserAlreadyHasSessionError elsewhere.2.sessionNumber
        (((db.registers.get? elsewhere.2.registerId).map (·.name)).getD "Unknown Register"))
    | none => pure db
  else .error (RegisterBusyError existing.sessionNumber)

/-- `openSession`. -/
def openSession (db : CashDb) (year : ℕ) (data : OpenSessionData) : Except CashError CashDb := do
  let register ← orThrow (db.registers.get? data.registerId) (RegisterNotFoundError data.registerId)
  let _ ← require (register.isActive = true)
    (.cashRegister ("Register " ++ register.name ++ " is not active") "REGISTER_INACTIVE")
  match getOpenSession db data.registerId with
  | some existing => attachToExistingRegisterSession db existing.2 data
  | none =>
    match getUserOpenSession db data.userId with
    | some existing => .error (UserAlreadyHasSessionError existing.2.sessionNumber
        (((db.registers.get? existing.2.registerId).map (·.name)).getD "Unknown Register"))
    | none => pure (insertSession db year data)

end SmartErpPos.CashRegister
