/-
  CashRegister/CloseRace.lean --- the calls on one till session, statement by statement.

  Sources: `recordMovement`, `recordTillArPayment`, `closeSession`, `createVarianceGLEntry`,
  `forceCloseSession` and `reconcileSession` of `modules/cash-register/cashRegisterService.ts`,
  with `closeSession` and `reconcileSession` of `cashRegisterRepository.ts`, under READ
  COMMITTED.

  A close runs in a transaction and posts the variance after its commit; an update waits for
  a row that another open transaction has written.  Movements and reconciliations go to the
  pool and commit by themselves; of the collection of a receivable the movement alone is
  followed.  A posting runs as one step.
-/
import SmartErpPos.CashRegister.Movements
import SmartErpPos.Ledger.DocumentBalances
import SmartErpPos.Lib.RoundedRat
import SmartErpPos.Lib.Transition

set_option autoImplicit false

namespace SmartErpPos.CashRegister

open SmartErpPos.Lib SmartErpPos.Ledger

/-! ## Calls -/

abbrev CallId := ℕ

structure CloseSessionData where
  actualClosing : ℚ
  varianceReason : Option String

/-- A close on its way; `postsFor` is the user its variance is posted for, and a forced close
posts none. -/
structure Closing where
  actualClosing : ℚ
  varianceReason : Option String
  postsFor : Option UserId

/-- A call and the statement it is at. -/
inductive TillCall where
  | recordMovement (data : RecordMovementData)
  | movementNew (data : RecordMovementData)
  | movementAllowed (data : RecordMovementData) (session : CashRegisterSession)
  | movementInserted (movement : CashMovement) (session : CashRegisterSession)
  | recordTillArPayment (data : RecordMovementData)
  | tillArPaymentAllowed (data : RecordMovementData)
  | closeSession (data : CloseSessionData) (userId : UserId)
  | closeAllowed (data : CloseSessionData) (userId : UserId)
  | closeExplained (closing : Closing)
  | closeSummed (closing : Closing) (expectedClosing : Cents)
  | closeWritten (closing : Closing) (row : CashRegisterSession)
  | closeCommitted (userId : UserId) (row : CashRegisterSession) (variance : Cents)
  | forceCloseSession
  | forceCloseAllowed
  | reconcileSession
  | reconcileAllowed
  | over

/-- The row of the session as it is committed, its committed movements, the ledger, the calls,
and how many closes have been committed. -/
structure CloseDb where
  sessionId : SessionId
  session : CashRegisterSession
  movements : List CashMovement
  ledger : LedgerDb
  nextId : ℕ
  calls : OrderedMap CallId TillCall
  closes : ℕ

def CloseDb.put (db : CloseDb) (id : CallId) (call : TillCall) : CloseDb :=
  { db with calls := db.calls.set id call }

/-- `calculateExpectedClosing` of the session. -/
def CloseDb.expected (db : CloseDb) : Cents := calculateExpectedClosing db.movements db.sessionId

/-- The close has written the row and not committed it. -/
def TillCall.holdsRow : TillCall → Bool
  | .closeWritten _ _ => true
  | _ => false

/-- An open transaction has written the row of the session. -/
def CloseDb.rowHeld (db : CloseDb) : Bool := db.calls.entries.any fun e => e.2.holdsRow

/-! ## Writing -/

/-- The insert of a movement; the index on the client's key admits no second one. -/
def CloseDb.insertMovement (db : CloseDb) (data : RecordMovementData) : Option CloseDb :=
  let row := data.row db.nextId
  if row.clientUuid.isSome ∧ (db.movements.any fun m => decide (m.clientUuid = row.clientUuid)) then
    none
  else some { db with
    movements := db.movements ++ [row]
    nextId := db.nextId + 1 }

/-- The row the update of a close writes. -/
def Closing.row (closing : Closing) (session : CashRegisterSession) (expectedClosing : Cents) :
    CashRegisterSession :=
  { session with
    status := .CLOSED
    expectedClosing := some expectedClosing
    actualClosing := some (.ofRat closing.actualClosing)
    variance := some (.ofRat (closing.actualClosing - expectedClosing.toRat))
    varianceReason := closing.varianceReason.filter (· ≠ "") }

/-- The variance that needs no reason and no journal. -/
def VARIANCE_THRESHOLD : ℚ := 1 / 100

def CASH_OVERAGE : String := "4900"
def CASH_SHORTAGE : String := "6850"

/-- `CASH_VAR_${session.id}`. -/
def varianceKey (sessionId : SessionId) : String := "CASH_VAR_" ++ toString sessionId

/-- A line of a variance. -/
def varianceLine (sessionId : SessionId) (accountCode description : String)
    (debitAmount creditAmount : ℚ) : JournalLine where
  accountCode := accountCode
  description := description
  debitAmount := debitAmount
  creditAmount := creditAmount
  entityType := some "CASH_SESSION"
  entityId := some (toString sessionId)

/-- The lines of an overage or a shortage. -/
def varianceLines (sessionId : SessionId) (session : CashRegisterSession) (variance : Cents) :
    List JournalLine :=
  let absVariance := |variance.toRat|
  if 0 < variance then
    let description := "Cash overage - Session " ++ session.sessionNumber
    [varianceLine sessionId CASH description absVariance 0,
      varianceLine sessionId CASH_OVERAGE description 0 absVariance]
  else
    let description := "Cash shortage - Session " ++ session.sessionNumber
    [varianceLine sessionId CASH_SHORTAGE description absVariance 0,
      varianceLine sessionId CASH description 0 absVariance]

/-- The journal `createVarianceGLEntry` asks for. -/
def varianceRequest (today : IsoDate) (userId : UserId) (sessionId : SessionId)
    (session : CashRegisterSession) (variance : Cents) : JournalEntryRequest where
  entryDate := today
  description := "Cash variance - Session " ++ session.sessionNumber
  referenceType := "CASH_SESSION"
  referenceId := some sessionId
  referenceNumber := session.sessionNumber
  lines := varianceLines sessionId session variance
  userId := toString userId
  idempotencyKey := varianceKey sessionId
  source := some .CASH_VARIANCE

/-! ## Statements -/

/-- A close that explains what it found. -/
def explained (data : CloseSessionData) (expected : Cents) : Bool :=
  decide (|data.actualClosing - expected.toRat| ≤ VARIANCE_THRESHOLD) ||
    (trimmedText data.varianceReason).isSome

/-- The next statement of a call; nothing while it waits for the row.  A call that is refused
is over. -/
def CloseDb.run (db : CloseDb) (id : CallId) (env : CashEnv) : Option CloseDb :=
  match db.calls.get? id with
  | none => none
  | some .over => none
  | some (.recordMovement data) =>
    let uuid := data.clientUuid.filter (· ≠ "")
    if uuid.isSome ∧ (db.movements.any fun m => decide (m.clientUuid = uuid)) then
      some (db.put id .over)
    else if data.movementType = .CASH_IN_PAYMENT then some (db.put id (.recordTillArPayment data))
    else some (db.put id (.movementNew data))
  | some (.movementNew data) =>
    if db.session.status = .OPEN then some (db.put id (.movementAllowed data db.session))
    else some (db.put id .over)
  | some (.movementAllowed data session) =>
    match db.insertMovement data with
    | some inserted => some (inserted.put id (.movementInserted (data.row db.nextId) session))
    | none => some (db.put id .over)
  | some (.movementInserted movement session) =>
    let ledger := settled (createMovementGLEntry env db.ledger movement session movement.userId)
      db.ledger
    some ({ db with ledger := ledger }.put id .over)
  | some (.recordTillArPayment data) =>
    if db.session.status = .OPEN then some (db.put id (.tillArPaymentAllowed data))
    else some (db.put id .over)
  | some (.tillArPaymentAllowed data) => some ((((db.insertMovement data).getD db)).put id .over)
  | some (.closeSession data userId) =>
    if db.session.status = .OPEN ∧ db.session.userId = userId then
      some (db.put id (.closeAllowed data userId))
    else some (db.put id .over)
  | some (.closeAllowed data userId) =>
    if explained data db.expected then
      some (db.put id (.closeExplained ⟨data.actualClosing, data.varianceReason, some userId⟩))
    else some (db.put id .over)
  | some (.closeExplained closing) => some (db.put id (.closeSummed closing db.expected))
  | some (.closeSummed closing expectedClosing) =>
    if db.rowHeld then none
    else some (db.put id (.closeWritten closing (closing.row db.session expectedClosing)))
  | some (.closeWritten closing row) =>
    let variance := row.variance.getD 0
    let committed := { db with
      session := row
      closes := db.closes + 1 }
    match closing.postsFor with
    | some userId =>
      if VARIANCE_THRESHOLD < |variance.toRat| then
        some (committed.put id (.closeCommitted userId row variance))
      else some (committed.put id .over)
    | none => some (committed.put id .over)
  | some (.closeCommitted userId row variance) =>
    let ledger := settled ((createJournalEntry (env.context db.ledger) db.ledger
      (varianceRequest env.today userId db.sessionId row variance)).map (·.db)) db.ledger
    some ({ db with ledger := ledger }.put id .over)
  | some .forceCloseSession =>
    if db.session.status = .OPEN then some (db.put id .forceCloseAllowed)
    else some (db.put id .over)
  | some .forceCloseAllowed =>
    some (db.put id (.closeExplained ⟨db.expected.toRat, none, none⟩))
  | some .reconcileSession =>
    if db.session.status = .CLOSED then some (db.put id .reconcileAllowed)
    else some (db.put id .over)
  | some .reconcileAllowed =>
    if db.rowHeld then none
    else if db.session.status = .CLOSED then
      some ({ db with session := { db.session with status := .RECONCILED } }.put id .over)
    else some (db.put id .over)

/-- What can be asked of the session. -/
inductive TillRequest where
  | recordMovement (data : RecordMovementData)
  | closeSession (data : CloseSessionData) (userId : UserId)
  | forceCloseSession
  | reconcileSession

def TillRequest.toCall : TillRequest → TillCall
  | .recordMovement data => .recordMovement data
  | .closeSession data userId => .closeSession data userId
  | .forceCloseSession => .forceCloseSession
  | .reconcileSession => .reconcileSession

/-- A request is about this session, and the cash it counts is not negative. -/
def TillRequest.isFor (sessionId : SessionId) : TillRequest → Bool
  | .recordMovement data => decide (data.sessionId = sessionId)
  | .closeSession data _ => decide (0 ≤ data.actualClosing)
  | _ => true

/-- A call begins, runs its next statement, or fails for another reason and rolls back. -/
inductive TillAction where
  | call (id : CallId) (request : TillRequest)
  | run (id : CallId) (env : CashEnv)
  | fail (id : CallId)

/-- One action; nothing where it cannot happen. -/
def CloseDb.exec (db : CloseDb) : TillAction → Option CloseDb
  | .call id request =>
    if db.calls.get? id = none ∧ request.isFor db.sessionId = true then
      some (db.put id request.toCall)
    else none
  | .run id env => db.run id env
  | .fail id => if (db.calls.get? id).isSome then some (db.put id .over) else none

/-! ## Closed for good -/

/-- No call is in progress. -/
def CloseDb.Idle (db : CloseDb) : Prop := ∀ e ∈ db.calls.entries, e.2 = .over

/-- The row says what the movements add up to and by how much the counted cash differs. -/
structure Complete (row : CashRegisterSession) (expected : Cents) : Prop where
  expectedClosing : row.expectedClosing = some expected
  variance : ∃ actual variance, row.actualClosing = some actual ∧ row.variance = some variance ∧
    variance = actual - expected

/-- A journal of the variance of the session. -/
def isVarianceRow (sessionId : SessionId) (row : TransactionRow) : Bool :=
  decide (row.referenceType = "CASH_SESSION") && decide (row.referenceId = sessionId)

/-- What a variance debits on an account: the till, against overages or shortages. -/
def varianceEffect (variance : Cents) (code : String) : Amount :=
  if code = CASH then .ofRat variance.toRat
  else if code = (if 0 < variance then CASH_OVERAGE else CASH_SHORTAGE) then
    -.ofRat variance.toRat
  else 0

/-- A session that is closed or reconciled is complete, its variance journals post what the
row says, and it was closed once. -/
structure ClosedForGood (db : CloseDb) : Prop where
  complete : db.session.status ≠ .OPEN → Complete db.session db.expected
  journal : ∀ id row, ActiveRow db.ledger id row → isVarianceRow db.sessionId row = true →
    ∃ variance, db.session.variance = some variance ∧
      ∀ a account, db.ledger.accounts.get? a = some account →
        amountOf db.ledger id a .DEBIT = varianceEffect variance account.accountCode
  once : db.closes ≤ 1

/-! ## The condition -/

/-- The open session as nobody is closing it, or a movement that moves no till cash. -/
def MayInsert (db : CloseDb) (data : RecordMovementData) : Prop :=
  (db.session.status = .OPEN ∧ db.rowHeld = false) ∨ (data.row db.nextId).tillChange = 0

/-- A close that finds the session open and its sum up to date; cash counted with half a cent
covers what is expected. -/
def MayClose (db : CloseDb) (closing : Closing) (expectedClosing : Cents) : Prop :=
  db.session.status = .OPEN ∧ expectedClosing = db.expected ∧
    (Numeric.IsTie 2 closing.actualClosing → expectedClosing.toRat ≤ closing.actualClosing)

def TillCall.MayGoOn (db : CloseDb) : TillCall → Prop
  | .movementAllowed data _ => MayInsert db data
  | .tillArPaymentAllowed data => MayInsert db data
  | .closeSummed closing expectedClosing => MayClose db closing expectedClosing
  | _ => True

/-- Movements come before the close, and the close sees them all. -/
def ClosesInTurn (db : CloseDb) : TillAction → Prop
  | .run id _ => ∀ call ∈ db.calls.get? id, call.MayGoOn db
  | _ => True

instance (db : CloseDb) (data : RecordMovementData) : Decidable (MayInsert db data) :=
  inferInstanceAs (Decidable (_ ∨ _))

instance (db : CloseDb) (closing : Closing) (expectedClosing : Cents) :
    Decidable (MayClose db closing expectedClosing) :=
  inferInstanceAs (Decidable (_ ∧ _))

instance (db : CloseDb) (call : TillCall) : Decidable (call.MayGoOn db) := by
  cases call <;> unfold TillCall.MayGoOn <;> infer_instance

instance (db : CloseDb) (action : TillAction) : Decidable (ClosesInTurn db action) := by
  cases action <;> unfold ClosesInTurn <;> infer_instance

end SmartErpPos.CashRegister
