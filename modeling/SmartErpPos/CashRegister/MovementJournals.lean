/-
  CashRegister/MovementJournals.lean --- which movements reach the ledger.

  A journal of a movement carries the number of its session, and the posting core takes a
  second journal of one type and number for a repetition.  So the first movement that is
  posted in a session gets its journal and a later one is handed the first one's.
-/
import SmartErpPos.CashRegister.Movements
import SmartErpPos.Ledger.DocumentBalances
import SmartErpPos.Lib.KeyedSum
import SmartErpPos.Lib.RoundedRat
import SmartErpPos.Lib.Transition

set_option autoImplicit false

namespace SmartErpPos.CashRegister

open SmartErpPos.Lib SmartErpPos.Ledger

/-! ## Calls -/

inductive CashAction where
  | openSession (year : ℕ) (data : OpenSessionData)
  | recordMovement (env : CashEnv) (data : RecordMovementData)

/-- A movement that has a journal of its own. -/
def MovementType.posts (movementType : MovementType) : Bool := movementType.accounts.isSome

/-- The posting of a new movement succeeds. -/
def postingSucceeds (env : CashEnv) (db : CashDb) (data : RecordMovementData) : Bool :=
  match recordedBefore db data.clientUuid, db.sessions.get? data.sessionId,
    data.movementType.accounts with
  | none, some session, some accounts =>
    (createJournalEntry (env.context db.ledger) db.ledger
      (movementRequest env.today data.userId (data.row db.nextId) session accounts)).toBool
  | _, _, _ => true

/-- A successful call; movements have a positive amount and a journal, whose posting
succeeds. -/
def CashDb.exec (db : CashDb) : CashAction → Option CashDb
  | .openSession year data => (CashRegister.openSession db year data).toOption
  | .recordMovement env data =>
    if 0 < data.amount ∧ data.movementType.posts = true ∧ postingSucceeds env db data = true then
      (CashRegister.recordMovement env db data).toOption
    else none

/-- What a successful call does: nothing, or it opens a session, or it inserts a movement and
asks for its journal. -/
inductive CashEffect (db : CashDb) : CashAction → CashDb → Prop
  | resumed {year : ℕ} {data : OpenSessionData} : CashEffect db (.openSession year data) db
  | opened {year : ℕ} {data : OpenSessionData} :
      CashEffect db (.openSession year data) (insertSession db year data)
  | repeated {env : CashEnv} {data : RecordMovementData}
      (hbefore : (recordedBefore db data.clientUuid).isSome = true) :
      CashEffect db (.recordMovement env data) db
  | recorded {env : CashEnv} {data : RecordMovementData} {session : CashRegisterSession}
      {accounts : String × String} {out : PostingOutcome}
      (hnew : recordedBefore db data.clientUuid = none)
      (hsession : db.sessions.get? data.sessionId = some session)
      (haccounts : data.movementType.accounts = some accounts)
      (hposts : createJournalEntry (env.context db.ledger) db.ledger
        (movementRequest env.today data.userId (data.row db.nextId) session accounts) = .ok out) :
      CashEffect db (.recordMovement env data) { insertMovement db data with ledger := out.db }

theorem openSession_effect {db db' : CashDb} {year : ℕ} {data : OpenSessionData}
    (h : openSession db year data = .ok db') : CashEffect db (.openSession year data) db' := by
  unfold openSession at h
  simp only [bind_eq_ok, orThrow_eq_ok, require_eq_ok] at h
  obtain ⟨register, -, -, -, h⟩ := h
  split at h
  · unfold attachToExistingRegisterSession at h
    split at h
    · cases h
      exact .resumed
    split at h
    · split at h
      · cases h
      · cases h
        exact .resumed
    · cases h
  · split at h
    · cases h
    · cases h
      exact .opened

theorem exec_effect {db db' : CashDb} {action : CashAction} (h : db.exec action = some db') :
    CashEffect db action db' := by
  cases action with
  | openSession year data => exact openSession_effect (toOption_eq_some h)
  | recordMovement env data =>
    simp only [CashDb.exec] at h
    split at h
    · rename_i hguard
      obtain ⟨-, hposts, hsucceeds⟩ := hguard
      have hok := toOption_eq_some h
      unfold recordMovement at hok
      cases hbefore : recordedBefore db data.clientUuid with
      | some earlier =>
        simp only [hbefore, pure_eq_ok] at hok
        subst hok
        exact .repeated (by rw [hbefore]; rfl)
      | none =>
        simp only [hbefore, bind_eq_ok, pure_eq_ok, requireOpenSession, orThrow_eq_ok,
          require_eq_ok] at hok
        obtain ⟨session, ⟨session', hsession, -, -, rfl⟩, ledger, hledger, rfl⟩ := hok
        obtain ⟨accounts, haccounts⟩ := Option.isSome_iff_exists.mp hposts
        simp only [postingSucceeds, hbefore, hsession, haccounts] at hsucceeds
        obtain ⟨out, hout⟩ := toBool_eq_true hsucceeds
        have htype : (data.row db.nextId).movementType.accounts = some accounts := haccounts
        simp only [createMovementGLEntry, htype] at hledger
        have hout' : createJournalEntry (env.context (insertMovement db data).ledger)
            (insertMovement db data).ledger
            (movementRequest env.today data.userId (data.row db.nextId) session' accounts) =
              .ok out := hout
        rw [hout', pure_eq_ok] at hledger
        subst hledger
        exact .recorded hbefore hsession haccounts hout
    · cases h

/-! ## What the ledger should hold -/

/-- A journal of a cash movement. -/
def isMovementRow (row : TransactionRow) : Bool := decide (row.referenceType = "CASH_MOVEMENT")

/-- A net-active journal of the movement. -/
def IsJournalOf (ledger : LedgerDb) (movement : CashMovement) (id : TransactionId) : Prop :=
  ∃ row, ActiveRow ledger id row ∧ isMovementRow row = true ∧ row.referenceId = movement.id

/-- What the movement debits on an account. -/
def CashMovement.effectOn (movement : CashMovement) (code : String) : Amount :=
  match movement.movementType.accounts with
  | none => 0
  | some (debited, credited) =>
    (if debited = code then .ofRat movement.amount.toRat else 0) -
      if credited = code then .ofRat movement.amount.toRat else 0

/-- Exactly one net-active journal, of the movement's own amount and accounts. -/
def Journaled (ledger : LedgerDb) (movement : CashMovement) : Prop :=
  ∃ id, IsJournalOf ledger movement id ∧ (∀ id', IsJournalOf ledger movement id' → id' = id) ∧
    ∀ a row, ledger.accounts.get? a = some row →
      amountOf ledger id a .DEBIT = movement.effectOn row.accountCode

/-- The net debit of the journals of movements on an account. -/
def movementDebit (ledger : LedgerDb) (a : AccountId) : Amount :=
  balanceWhere ledger isMovementRow a .DEBIT

/-- The cash expected in all tills, without the opening floats. -/
def expectedWithoutFloats (db : CashDb) : Cents :=
  (db.sessions.entries.map fun e =>
    calculateExpectedClosing db.movements e.1 - e.2.openingFloat).sum

/-- Every movement is in the ledger once, and the till account has moved by what the sessions
expect. -/
structure TillAgrees (db : CashDb) : Prop where
  journaled : ∀ movement ∈ db.movements, movement.movementType.posts = true →
    Journaled db.ledger movement
  till : ∀ a row, db.ledger.accounts.get? a = some row → row.accountCode = CASH →
    (movementDebit db.ledger a).toRat = (expectedWithoutFloats db).toRat

/-- The number of a session. -/
def numberOf (db : CashDb) (sessionId : SessionId) : Option String :=
  (db.sessions.get? sessionId).map (·.sessionNumber)

/-- A recorded movement is the first one posted under its session number. -/
def FirstOfNumber (db : CashDb) : CashAction → Prop
  | .openSession _ _ => True
  | .recordMovement _ data => (recordedBefore db data.clientUuid).isSome = true ∨
      ∀ movement ∈ db.movements, movement.movementType.posts = true →
        numberOf db movement.sessionId ≠ numberOf db data.sessionId

instance (db : CashDb) (action : CashAction) : Decidable (FirstOfNumber db action) := by
  cases action <;> unfold FirstOfNumber <;> infer_instance

/-! ## The lines of a movement -/

theorem linesChange_movementLines {movement : CashMovement} {accounts : String × String}
    (haccounts : movement.movementType.accounts = some accounts) (description code : String) :
    linesChange .DEBIT code (movementLines movement description accounts) =
      movement.effectOn code := by
  simp only [movementLines, linesChange_cons, linesChange_nil, add_zero, movementLine,
    JournalLine.storedChange, Numeric.ofRat_zero, sub_zero, zero_sub, CashMovement.effectOn, haccounts]
  rw [sub_eq_add_neg]
  congr 1
  split <;> simp

/-- On the till account a posted movement does what the expected cash counts. -/
theorem effectOn_cash {movement : CashMovement} (hposts : movement.movementType.posts = true) :
    (movement.effectOn CASH).toRat = movement.tillChange.toRat := by
  have hexact : (Numeric.ofRat movement.amount.toRat : Amount).toRat = movement.amount.toRat :=
    toRat_ofRat_of_le (by decide) movement.amount
  unfold CashMovement.effectOn CashMovement.tillChange
  cases htype : movement.movementType with
  | CASH_IN_OTHER =>
    simp [MovementType.accounts, MovementType.tillSign, CASH, OTHER_INCOME, hexact]
  | CASH_IN_FLOAT =>
    simp [MovementType.accounts, MovementType.tillSign, CASH, PETTY_CASH, hexact]
  | CASH_OUT_BANK =>
    simp [MovementType.accounts, MovementType.tillSign, CASH, CHECKING_ACCOUNT, hexact]
  | CASH_OUT_EXPENSE =>
    simp [MovementType.accounts, MovementType.tillSign, CASH, PETTY_CASH, GENERAL_EXPENSE]
  | CASH_OUT_OTHER =>
    simp [MovementType.accounts, MovementType.tillSign, CASH, GENERAL_EXPENSE, hexact]
  | _ => simp [htype, MovementType.posts, MovementType.accounts] at hposts

/-! ## The cash expected -/

theorem calculateExpectedClosing_append (movements : List CashMovement) (movement : CashMovement)
    (sessionId : SessionId) : calculateExpectedClosing (movements ++ [movement]) sessionId =
      calculateExpectedClosing movements sessionId +
        if movement.sessionId = sessionId then movement.tillChange else 0 := by
  unfold calculateExpectedClosing
  rw [List.filter_append, List.map_append, List.sum_append]
  by_cases h : movement.sessionId = sessionId
  · simp [h]
  · simp [h]

/-- A movement changes the cash expected in its own session. -/
theorem expectedWithoutFloats_insertMovement {db : CashDb} {data : RecordMovementData}
    {session : CashRegisterSession} (hsession : db.sessions.get? data.sessionId = some session) :
    expectedWithoutFloats (insertMovement db data) =
      expectedWithoutFloats db + (data.row db.nextId).tillChange := by
  unfold expectedWithoutFloats
  have hsplit : ∀ e : SessionId × CashRegisterSession,
      calculateExpectedClosing (insertMovement db data).movements e.1 - e.2.openingFloat =
        (calculateExpectedClosing db.movements e.1 - e.2.openingFloat) +
          if data.sessionId = e.1 then (data.row db.nextId).tillChange else 0 := by
    intro e
    rw [insertMovement, calculateExpectedClosing_append]
    exact add_sub_right_comm _ _ _
  change (db.sessions.entries.map fun e =>
    calculateExpectedClosing (insertMovement db data).movements e.1 - e.2.openingFloat).sum = _
  rw [List.map_congr_left fun e _ => hsplit e, List.sum_map_add,
    OrderedMap.sum_entries_ite hsession]

/-! ## The invariant -/

/-- What the tills and the ledger keep while every movement is the first of its number. -/
structure TillGood (db : CashDb) : Prop where
  wellFormed : WellFormed db.ledger
  movementsBelow : ∀ movement ∈ db.movements, movement.id < db.nextId
  sessionsBelow : ∀ id session, db.sessions.get? id = some session → id < db.nextId
  numbered : ∀ id session, db.sessions.get? id = some session → session.sessionNumber ≠ ""
  home : ∀ movement ∈ db.movements, ∃ session, db.sessions.get? movement.sessionId = some session
  oneId : ∀ movement ∈ db.movements, ∀ movement' ∈ db.movements, movement.id = movement'.id →
    movement = movement'
  keysBelow : ∀ id row, db.ledger.transactions.get? id = some row →
    ∀ n, row.idempotencyKey = movementKey n → n < db.nextId
  rows : ∀ id row, ActiveRow db.ledger id row → isMovementRow row = true →
    ∃ movement ∈ db.movements, movement.movementType.posts = true ∧
      row.referenceId = movement.id ∧ numberOf db movement.sessionId = some row.referenceNumber
  agrees : TillAgrees db

theorem movementKey_injective {m n : MovementId} (h : movementKey m = movementKey n) : m = n :=
  natText_injective (append_left_cancel h)

/-- A new movement is posted exactly when no posted one has its session's number. -/
theorem TillGood.unposted_iff {db : CashDb} (h : TillGood db) {env : CashEnv}
    {data : RecordMovementData} {session : CashRegisterSession} {accounts : String × String}
    (hsession : db.sessions.get? data.sessionId = some session) :
    Unposted db.ledger
        (movementRequest env.today data.userId (data.row db.nextId) session accounts) ↔
      ∀ movement ∈ db.movements, movement.movementType.posts = true →
        numberOf db movement.sessionId ≠ numberOf db data.sessionId := by
  have hnumber : numberOf db data.sessionId = some session.sessionNumber := by
    rw [numberOf, hsession]
    rfl
  constructor
  · rintro ⟨-, hfree⟩ movement hmem hposts hsame
    obtain ⟨id, ⟨row, hactive, htype, hid⟩, -⟩ := h.agrees.journaled movement hmem hposts
    obtain ⟨movement', hmem', -, hid', hnumber'⟩ := h.rows id row hactive htype
    have heq : movement = movement' := h.oneId _ hmem _ hmem' (hid.symm.trans hid')
    rw [← heq, hsame, hnumber] at hnumber'
    have htype' : row.referenceType = "CASH_MOVEMENT" := of_decide_eq_true htype
    refine hfree id row hactive ⟨by simp [movementRequest], .inr ⟨h.numbered _ _ hsession, ?_⟩⟩
    exact matchesNumber_iff.mpr ⟨htype', (Option.some_inj.mp hnumber').symm⟩
  · intro hfirst
    constructor
    · rw [checkIdempotencyKey_eq_none_iff]
      intro id row hget _ _ hkey
      exact absurd (h.keysBelow id row hget db.nextId hkey) (lt_irrefl _)
    · rintro id row hactive ⟨-, hsame⟩
      have htype : row.referenceType = "CASH_MOVEMENT" := by
        rcases hsame with hm | ⟨-, hm⟩
        · exact (matchesId_iff.mp hm).1
        · exact (matchesNumber_iff.mp hm).1
      obtain ⟨movement, hmem, hposts, hid, hnumber'⟩ :=
        h.rows id row hactive (decide_eq_true htype)
      rcases hsame with hm | ⟨-, hm⟩
      · have hnew : row.referenceId = db.nextId :=
          (Option.some_inj.mp (matchesId_iff.mp hm).2).symm
        have hbelow := h.movementsBelow movement hmem
        rw [← hid, hnew] at hbelow
        exact absurd hbelow (lt_irrefl _)
      · refine hfirst movement hmem hposts ?_
        rw [hnumber', (matchesNumber_iff.mp hm).2, hnumber]
        rfl

/-! ## Opening a session -/

theorem generateSessionNumber_ne_empty (db : CashDb) (year : ℕ) :
    generateSessionNumber db year ≠ "" := by
  have hstem : ∀ tail, sessionNumberStem year ++ tail ≠ "" := by
    intro tail h
    have hlist := congrArg String.toList h
    simp [sessionNumberStem, String.toList_append] at hlist
  unfold generateSessionNumber
  dsimp only
  split
  · exact hstem _
  · exact hstem _

/-- An opened session expects its own float, so nothing else is expected than before. -/
theorem expectedWithoutFloats_insertSession {db : CashDb} (h : TillGood db) (year : ℕ)
    (data : OpenSessionData) :
    expectedWithoutFloats (insertSession db year data) = expectedWithoutFloats db := by
  have hnew : db.sessions.get? db.nextId = none := by
    cases hget : db.sessions.get? db.nextId with
    | none => rfl
    | some session => exact absurd (h.sessionsBelow _ _ hget) (lt_irrefl _)
  have hnone : calculateExpectedClosing db.movements db.nextId = 0 := by
    unfold calculateExpectedClosing
    have hfilter : (db.movements.filter fun movement =>
        decide (movement.sessionId = db.nextId)) = [] := by
      refine List.filter_eq_nil_iff.mpr fun movement hmem heq => ?_
      obtain ⟨session, hget⟩ := h.home movement hmem
      rw [of_decide_eq_true heq, hnew] at hget
      cases hget
    rw [hfilter]
    rfl
  unfold expectedWithoutFloats insertSession insertMovement
  dsimp only
  rw [OrderedMap.entries_set_of_get?_eq_none hnew, List.map_append, List.sum_append]
  have hold : ∀ e ∈ db.sessions.entries, db.nextId ≠ e.1 := by
    rintro e hmem heq
    have hget := OrderedMap.get?_eq_some_iff.mpr hmem
    rw [← heq, hnew] at hget
    cases hget
  have hkept : ∀ e ∈ db.sessions.entries, ∀ movement : CashMovement,
      movement.sessionId = db.nextId →
      calculateExpectedClosing (db.movements ++ [movement]) e.1 - e.2.openingFloat =
        calculateExpectedClosing db.movements e.1 - e.2.openingFloat := by
    intro e hmem movement hsession
    rw [calculateExpectedClosing_append, hsession, if_neg (hold e hmem), add_zero]
  rw [List.map_congr_left fun e hmem => hkept e hmem _ rfl]
  simp only [List.map_cons, List.map_nil, List.sum_cons, List.sum_nil, add_zero,
    calculateExpectedClosing_append, hnone, zero_add]
  rw [if_pos (by rfl)]
  simp [CashMovement.tillChange, RecordMovementData.row, MovementType.tillSign]

/-- Sessions keep their numbers when another one is opened. -/
theorem numberOf_insertSession {db : CashDb} (h : TillGood db) {year : ℕ} {data : OpenSessionData}
    {sessionId : SessionId} {number : String} (hnumber : numberOf db sessionId = some number) :
    numberOf (insertSession db year data) sessionId = some number := by
  unfold numberOf at hnumber ⊢
  obtain ⟨session, hget, -⟩ := Option.map_eq_some_iff.mp hnumber
  have hne : sessionId ≠ db.nextId := (h.sessionsBelow _ _ hget).ne
  change ((db.sessions.set db.nextId _).get? sessionId).map _ = _
  rw [OrderedMap.get?_set_of_ne hne]
  exact hnumber

theorem TillGood.opened {db : CashDb} (h : TillGood db) (year : ℕ) (data : OpenSessionData) :
    TillGood (insertSession db year data) := by
  have hmovements : ∀ movement ∈ (insertSession db year data).movements,
      movement ∈ db.movements ∨ (movement.id = db.nextId + 1 ∧ movement.sessionId = db.nextId ∧
        movement.movementType.posts = false) := by
    intro movement hmem
    rcases List.mem_append.mp hmem with hmem | hmem
    · exact .inl hmem
    · rw [List.mem_singleton.mp hmem]
      exact .inr ⟨rfl, rfl, rfl⟩
  have hsessions : ∀ id session, (insertSession db year data).sessions.get? id = some session →
      (id = db.nextId ∧ session.sessionNumber = generateSessionNumber db year) ∨
        db.sessions.get? id = some session := by
    intro id session hget
    change (db.sessions.set db.nextId _).get? id = _ at hget
    rw [OrderedMap.get?_set] at hget
    split at hget
    · rename_i heq
      cases hget
      exact .inl ⟨heq, rfl⟩
    · exact .inr hget
  have hkept : ∀ {id session}, db.sessions.get? id = some session →
      (insertSession db year data).sessions.get? id = some session := by
    intro id session hget
    have hne : id ≠ db.nextId := (h.sessionsBelow _ _ hget).ne
    exact (OrderedMap.get?_set_of_ne hne _ _).trans hget
  have hnext : db.nextId < (insertSession db year data).nextId := Nat.lt_add_of_pos_right Nat.two_pos
  constructor
  case wellFormed => exact h.wellFormed
  case movementsBelow =>
    intro movement hmem
    rcases hmovements movement hmem with hold | ⟨hid, -, -⟩
    · exact (h.movementsBelow movement hold).trans hnext
    · rw [hid]
      exact Nat.lt_succ_self _
  case sessionsBelow =>
    intro id session hget
    rcases hsessions id session hget with ⟨rfl, -⟩ | hold
    · exact hnext
    · exact (h.sessionsBelow id session hold).trans hnext
  case numbered =>
    intro id session hget
    rcases hsessions id session hget with ⟨-, hnumber⟩ | hold
    · rw [hnumber]
      exact generateSessionNumber_ne_empty db year
    · exact h.numbered id session hold
  case home =>
    intro movement hmem
    rcases hmovements movement hmem with hold | ⟨-, hsession, -⟩
    · obtain ⟨session, hget⟩ := h.home movement hold
      exact ⟨session, hkept hget⟩
    · rw [hsession]
      exact ⟨_, OrderedMap.get?_set_self _ _ _⟩
  case oneId =>
    intro movement hmem movement' hmem' heq
    have hbelow : ∀ m ∈ db.movements, m.id ≠ db.nextId + 1 := by
      intro m hm
      exact ((h.movementsBelow m hm).trans (Nat.lt_succ_self _)).ne
    rcases List.mem_append.mp hmem with hold | hnew
    · rcases List.mem_append.mp hmem' with hold' | hnew'
      · exact h.oneId movement hold movement' hold' heq
      · rw [List.mem_singleton.mp hnew'] at heq
        exact absurd heq (hbelow movement hold)
    · rcases List.mem_append.mp hmem' with hold' | hnew'
      · rw [List.mem_singleton.mp hnew] at heq
        exact absurd heq.symm (hbelow movement' hold')
      · rw [List.mem_singleton.mp hnew, List.mem_singleton.mp hnew']
  case keysBelow =>
    intro id row hget n hkey
    exact (h.keysBelow id row hget n hkey).trans hnext
  case rows =>
    intro id row hactive htype
    obtain ⟨movement, hmem, hposts, hid, hnumber⟩ := h.rows id row hactive htype
    exact ⟨movement, List.mem_append_left _ hmem, hposts, hid, numberOf_insertSession h hnumber⟩
  case agrees =>
    constructor
    · intro movement hmem hposts
      rcases hmovements movement hmem with hold | ⟨-, -, hsilent⟩
      · exact h.agrees.journaled movement hold hposts
      · rw [hsilent] at hposts
        cases hposts
    · intro a row hrow hcode
      rw [expectedWithoutFloats_insertSession h]
      exact h.agrees.till a row hrow hcode

/-! ## Recording a movement -/

section Recorded

variable {db : CashDb} {env : CashEnv} {data : RecordMovementData} {session : CashRegisterSession}
  {accounts : String × String}

/-- A movement whose posting is taken for a repetition has no journal. -/
theorem TillGood.not_agrees_of_found (h : TillGood db)
    (haccounts : data.movementType.accounts = some accounts) {ledger : LedgerDb}
    (hledger : ledger = db.ledger) :
    ¬ TillAgrees { insertMovement db data with ledger := ledger } := by
  subst hledger
  intro hagrees
  have hposts : (data.row db.nextId).movementType.posts = true := by
    change data.movementType.posts = true
    rw [MovementType.posts, haccounts]
    rfl
  obtain ⟨id, ⟨row, hactive, htype, hid⟩, -⟩ := hagrees.journaled (data.row db.nextId)
    (List.mem_append_right _ (List.mem_singleton.mpr rfl)) hposts
  obtain ⟨movement, hmem, -, hid', -⟩ := h.rows id row hactive htype
  have hbelow := h.movementsBelow movement hmem
  rw [← hid', hid] at hbelow
  exact absurd hbelow (lt_irrefl _)

variable {out : PostingOutcome} {header : TransactionRow} {written : List LedgerEntry}
  {mid : LedgerDb}

/-- The journals after a posting: the new movement's, and those there were. -/
theorem isJournalOf_posted (h : TillGood db)
    (hposted : JournalPosted (env.context db.ledger) db.ledger
      (movementRequest env.today data.userId (data.row db.nextId) session accounts) out header
      written mid) {movement : CashMovement} {id : TransactionId} :
    IsJournalOf out.db movement id ↔
      (id = db.ledger.nextId ∧ movement.id = db.nextId) ∨ IsJournalOf db.ledger movement id := by
  obtain ⟨htype, hid, -, -⟩ := hposted.header_fields
  have hid : header.referenceId = db.nextId := (Option.some_inj.mp hid).symm
  have hrow : isMovementRow header = true := decide_eq_true htype
  unfold IsJournalOf
  simp only [hposted.activeRow_iff h.wellFormed]
  constructor
  · rintro ⟨row, ⟨rfl, rfl⟩ | hold, htype, hreference⟩
    · exact .inl ⟨rfl, hreference.symm.trans hid⟩
    · exact .inr ⟨row, hold, htype, hreference⟩
  · rintro (⟨rfl, hmovement⟩ | ⟨row, hold, htype, hreference⟩)
    · exact ⟨header, .inl ⟨rfl, rfl⟩, hrow, hid.trans hmovement.symm⟩
    · exact ⟨row, .inr hold, htype, hreference⟩

/-- An older movement keeps its journal. -/
theorem Journaled.posted {movement : CashMovement} (h : TillGood db)
    (hposted : JournalPosted (env.context db.ledger) db.ledger
      (movementRequest env.today data.userId (data.row db.nextId) session accounts) out header
      written mid) (hmem : movement ∈ db.movements) (hold : Journaled db.ledger movement) :
    Journaled out.db movement := by
  have hne : movement.id ≠ db.nextId := (h.movementsBelow movement hmem).ne
  obtain ⟨id, hjournal, honly, hamounts⟩ := hold
  refine ⟨id, (isJournalOf_posted h hposted).mpr (.inr hjournal), fun id' hjournal' => ?_, ?_⟩
  · rcases (isJournalOf_posted h hposted).mp hjournal' with ⟨-, hnew⟩ | hbefore
    · exact absurd hnew hne
    · exact honly id' hbefore
  · intro a row hrow
    obtain ⟨before, hbefore, hcode⟩ := hposted.account_before hrow
    obtain ⟨r, hactive, -⟩ := hjournal
    have hid : id ≠ db.ledger.nextId := (h.wellFormed.idsBelow id r hactive.1).ne
    rw [hposted.amountOf_eq h.wellFormed hbefore, if_neg hid, hamounts a before hbefore, hcode]

/-- The new movement has its journal. -/
theorem journaled_new (h : TillGood db) (haccounts : data.movementType.accounts = some accounts)
    (hposted : JournalPosted (env.context db.ledger) db.ledger
      (movementRequest env.today data.userId (data.row db.nextId) session accounts) out header
      written mid) : Journaled out.db (data.row db.nextId) := by
  refine ⟨db.ledger.nextId, (isJournalOf_posted h hposted).mpr (.inl ⟨rfl, rfl⟩),
    fun id' hjournal => ?_, ?_⟩
  · rcases (isJournalOf_posted h hposted).mp hjournal with ⟨heq, -⟩ | ⟨row, hactive, htype, hid⟩
    · exact heq
    · obtain ⟨movement, hmem, -, hid', -⟩ := h.rows id' row hactive htype
      have hbelow := h.movementsBelow movement hmem
      rw [← hid', hid] at hbelow
      exact absurd hbelow (lt_irrefl _)
  · intro a row hrow
    obtain ⟨before, hbefore, hcode⟩ := hposted.account_before hrow
    rw [hposted.amountOf_eq h.wellFormed hbefore, if_pos rfl, hcode]
    exact linesChange_movementLines haccounts _ _

/-- The journal of a movement moves the till account by what the session expects. -/
theorem till_posted (h : TillGood db) (hsession : db.sessions.get? data.sessionId = some session)
    (haccounts : data.movementType.accounts = some accounts)
    (hposted : JournalPosted (env.context db.ledger) db.ledger
      (movementRequest env.today data.userId (data.row db.nextId) session accounts) out header
      written mid) {a : AccountId} {row : AccountRow}
    (hrow : out.db.accounts.get? a = some row) (hcode : row.accountCode = CASH) :
    (movementDebit out.db a).toRat = (expectedWithoutFloats (insertMovement db data)).toRat := by
  obtain ⟨before, hbefore, hcode'⟩ := hposted.account_before hrow
  have hheader : isMovementRow header = true := decide_eq_true hposted.header_fields.1
  have hlines : linesChange .DEBIT before.accountCode (movementRequest env.today data.userId
      (data.row db.nextId) session accounts).lines = (data.row db.nextId).effectOn CASH := by
    rw [hcode', hcode]
    exact linesChange_movementLines haccounts _ _
  have hposts : (data.row db.nextId).movementType.posts = true := by
    change data.movementType.posts = true
    rw [MovementType.posts, haccounts]
    rfl
  calc (movementDebit out.db a).toRat
      = (movementDebit db.ledger a + (data.row db.nextId).effectOn CASH).toRat := by
        rw [movementDebit, hposted.balanceWhere_eq h.wellFormed _ hbefore, if_pos hheader, hlines]
        rfl
    _ = (expectedWithoutFloats db).toRat + (data.row db.nextId).tillChange.toRat := by
        rw [Numeric.toRat_add, effectOn_cash hposts,
          h.agrees.till a before hbefore (hcode'.trans hcode)]
    _ = (expectedWithoutFloats (insertMovement db data)).toRat := by
        rw [expectedWithoutFloats_insertMovement hsession, Numeric.toRat_add]

/-- A movement whose journal is posted keeps tills and ledger together. -/
theorem TillGood.posted (h : TillGood db)
    (hsession : db.sessions.get? data.sessionId = some session)
    (haccounts : data.movementType.accounts = some accounts)
    (hposted : JournalPosted (env.context db.ledger) db.ledger
      (movementRequest env.today data.userId (data.row db.nextId) session accounts) out header
      written mid) :
    TillGood { insertMovement db data with ledger := out.db } := by
  have hmovements : ∀ movement ∈ db.movements ++ [data.row db.nextId],
      movement ∈ db.movements ∨ movement = data.row db.nextId := by
    intro movement hmem
    rcases List.mem_append.mp hmem with hmem | hmem
    · exact .inl hmem
    · exact .inr (List.mem_singleton.mp hmem)
  have hbelow : ∀ movement ∈ db.movements, movement.id ≠ db.nextId :=
    fun movement hmem => (h.movementsBelow movement hmem).ne
  have hnext : db.nextId < (insertMovement db data).nextId := Nat.lt_succ_self _
  obtain ⟨-, hid, hnumber, hkey⟩ := hposted.header_fields
  constructor
  case wellFormed => exact hposted.wellFormed h.wellFormed
  case movementsBelow =>
    intro movement hmem
    rcases hmovements movement hmem with hold | rfl
    · exact (h.movementsBelow movement hold).trans hnext
    · exact hnext
  case sessionsBelow => exact fun id s hget => (h.sessionsBelow id s hget).trans hnext
  case numbered => exact h.numbered
  case home =>
    intro movement hmem
    rcases hmovements movement hmem with hold | rfl
    · exact h.home movement hold
    · exact ⟨session, hsession⟩
  case oneId =>
    intro movement hmem movement' hmem' heq
    rcases hmovements movement hmem with hold | rfl
    · rcases hmovements movement' hmem' with hold' | rfl
      · exact h.oneId movement hold movement' hold' heq
      · exact absurd heq (hbelow movement hold)
    · rcases hmovements movement' hmem' with hold' | rfl
      · exact absurd heq.symm (hbelow movement' hold')
      · rfl
  case keysBelow =>
    intro id row hget n hrowKey
    rcases hposted.headerAdded.get?_cases hget with ⟨-, rfl⟩ | hold
    · have heq : n = db.nextId := movementKey_injective (hrowKey.symm.trans hkey)
      rw [heq]
      exact hnext
    · exact (h.keysBelow id row hold n hrowKey).trans hnext
  case rows =>
    intro id row hactive htype
    rcases (hposted.activeRow_iff h.wellFormed).mp hactive with ⟨-, rfl⟩ | hold
    · refine ⟨data.row db.nextId, List.mem_append_right _ (List.mem_singleton.mpr rfl), ?_, ?_, ?_⟩
      · change data.movementType.posts = true
        rw [MovementType.posts, haccounts]
        rfl
      · exact (Option.some_inj.mp hid).symm
      · rw [hnumber]
        change (db.sessions.get? data.sessionId).map _ = _
        rw [hsession]
        rfl
    · obtain ⟨movement, hmem, hposts, hid, hnumber⟩ := h.rows id row hold htype
      exact ⟨movement, List.mem_append_left _ hmem, hposts, hid, hnumber⟩
  case agrees =>
    constructor
    · intro movement hmem hposts
      rcases hmovements movement hmem with hold | rfl
      · exact (h.agrees.journaled movement hold hposts).posted h hposted hold
      · exact journaled_new h haccounts hposted
    · intro a row hrow hcode
      exact till_posted h hsession haccounts hposted hrow hcode

end Recorded

/-! ## Runs -/

/-- A successful call leaves tills and ledger together exactly when its movement is the first
one of its number, and then the invariant holds again. -/
theorem TillGood.step {db db' : CashDb} {action : CashAction} (h : TillGood db)
    (heffect : CashEffect db action db') :
    (TillAgrees db' ↔ FirstOfNumber db action) ∧ (FirstOfNumber db action → TillGood db') := by
  cases heffect with
  | resumed => exact ⟨iff_of_true h.agrees trivial, fun _ => h⟩
  | @opened year data =>
    have hgood := h.opened year data
    exact ⟨iff_of_true hgood.agrees trivial, fun _ => hgood⟩
  | repeated hbefore => exact ⟨iff_of_true h.agrees (.inl hbefore), fun _ => h⟩
  | @recorded env data session accounts out hnew hsession haccounts hposts =>
    have hfirst : FirstOfNumber db (.recordMovement env data) ↔ Unposted db.ledger
        (movementRequest env.today data.userId (data.row db.nextId) session accounts) := by
      rw [h.unposted_iff hsession, FirstOfNumber, hnew]
      exact or_iff_right Bool.false_ne_true
    rw [hfirst]
    rcases createJournalEntry_own rfl hposts with ⟨hheld, hledger⟩ | ⟨hfree, _, _, _, hposted⟩
    · exact ⟨iff_of_false (h.not_agrees_of_found haccounts hledger) hheld,
        fun hfree => absurd hfree hheld⟩
    · have hgood := h.posted hsession haccounts hposted
      exact ⟨iff_of_true hgood.agrees hfree, fun _ => hgood⟩

/-- Tills before their first session, and a ledger that knows no movements. -/
structure FreshTills (db : CashDb) : Prop where
  wellFormed : WellFormed db.ledger
  sessions : db.sessions = .empty
  movements : db.movements = []
  rows : ∀ id row, db.ledger.transactions.get? id = some row → isMovementRow row = false
  keys : ∀ id row, db.ledger.transactions.get? id = some row →
    ∀ n, row.idempotencyKey ≠ movementKey n

theorem FreshTills.good {db : CashDb} (h : FreshTills db) : TillGood db := by
  have hmovement : ∀ movement, movement ∉ db.movements := by
    intro movement hmem
    rw [h.movements] at hmem
    cases hmem
  have hsession : ∀ {id session}, db.sessions.get? id ≠ some session := by
    intro id session hget
    rw [h.sessions] at hget
    cases hget
  constructor
  case wellFormed => exact h.wellFormed
  case movementsBelow => exact fun movement hmem => absurd hmem (hmovement movement)
  case sessionsBelow => exact fun id session hget => absurd hget hsession
  case numbered => exact fun id session hget => absurd hget hsession
  case home => exact fun movement hmem => absurd hmem (hmovement movement)
  case oneId => exact fun movement hmem => absurd hmem (hmovement movement)
  case keysBelow => exact fun id row hget n hkey => absurd hkey (h.keys id row hget n)
  case rows =>
    intro id row hactive htype
    rw [h.rows id row hactive.1] at htype
    cases htype
  case agrees =>
    constructor
    · exact fun movement hmem => absurd hmem (hmovement movement)
    · intro a row _ _
      have hzero : expectedWithoutFloats db = 0 := by
        unfold expectedWithoutFloats
        rw [h.sessions]
        rfl
      rw [hzero, movementDebit, balanceWhere_eq_zero fun id row hactive => h.rows id row hactive.1,
        Numeric.toRat_zero, Numeric.toRat_zero]

/-- Along every run of successful calls, tills and ledger agree after every call exactly when
every recorded movement is the first one posted under its session number. -/
theorem tillAgrees_of_run {ts : List (CashDb × CashAction × CashDb)} {start db : CashDb}
    (hstart : FreshTills start)
    (hrun : Run (fun s a s' => CashDb.exec s a = some s') start ts db) :
    (∀ t ∈ ts, TillAgrees t.2.2) ↔ ∀ t ∈ ts, FirstOfNumber t.1 t.2.1 :=
  hrun.forall_iff (P := TillGood)
    (fun _ _ _ hs hstep => (hs.step (exec_effect hstep)).1)
    (fun _ _ _ hs hstep => (hs.step (exec_effect hstep)).2) hstart.good

/-! ## Two tills -/

def plainAccount (accountCode accountName : String) (normalBalance : NormalBalance) : AccountRow :=
  ⟨accountCode, accountName, normalBalance, true, true, [], none, 0⟩

/-- The accounts of the drawer, and no transactions. -/
def drawerBooks : LedgerDb where
  accounts := (((OrderedMap.empty.set 1 (plainAccount CASH "Cash Drawer" .DEBIT)).set 2
    (plainAccount PETTY_CASH "Petty Cash" .DEBIT)).set 3
    (plainAccount CHECKING_ACCOUNT "Bank" .DEBIT)).set 4
    (plainAccount OTHER_INCOME "Other Income" .CREDIT)
  transactions := .empty
  entries := []
  periods := .empty
  periodBalances := .empty
  events := .empty
  nextId := 100
  codes_nodup := by decide

def twoTills : CashDb where
  ledger := drawerBooks
  registers := (OrderedMap.empty.set 1 ⟨"Front", true⟩).set 2 ⟨"Back", true⟩
  policy := .DISABLED
  sessions := .empty
  movements := []
  nextId := 10

theorem twoTills_fresh : FreshTills twoTills where
  wellFormed := EmptyLedger.wellFormed
    { transactions := rfl
      entries := rfl
      balances := by
        intro a row hrow
        have hall : ∀ e ∈ drawerBooks.accounts.entries, e.2.currentBalance = 0 := by decide
        exact hall (a, row) (OrderedMap.get?_eq_some_iff.mp hrow)
      periodBalances := rfl
      events := rfl }
  sessions := rfl
  movements := rfl
  rows _ _ h := nomatch h
  keys _ _ h := nomatch h

def CashDb.after (db : CashDb) (action : CashAction) : CashDb := (db.exec action).getD db

def morning : CashEnv := ⟨january, .enforce, 0⟩

/-- A movement of a cashier. -/
def cashMovement (sessionId : SessionId) (userId : UserId) (movementType : MovementType)
    (amount : ℚ) : CashAction :=
  .recordMovement morning
    { sessionId := sessionId
      userId := userId
      movementType := movementType
      amount := amount
      reason := none
      clientUuid := none }

/-- Two cashiers open their tills; each takes something out or in once. -/
def oneMovementEach : List CashAction :=
  [.openSession 2026 ⟨1, 7, 100⟩, .openSession 2026 ⟨2, 8, 50⟩,
    cashMovement 10 7 .CASH_IN_OTHER 30, cashMovement 12 8 .CASH_OUT_BANK 20]

/-- One cashier takes cash in and later brings some to the bank. -/
def twoMovements : List CashAction :=
  [.openSession 2026 ⟨1, 7, 100⟩, cashMovement 10 7 .CASH_IN_OTHER 30,
    cashMovement 10 7 .CASH_OUT_BANK 20]

theorem oneMovementEach_agrees : FreshTills twoTills ∧
    ∀ t ∈ transitions CashDb.after twoTills oneMovementEach, TillAgrees t.2.2 :=
  ⟨twoTills_fresh,
    (tillAgrees_of_run twoTills_fresh (.of_exec (by decide +kernel))).mpr (by decide +kernel)⟩

/-- The second movement of the session is in no journal, and the till account is off by it. -/
theorem twoMovements_disagree :
    FreshTills twoTills ∧
      Run (fun s a s' => CashDb.exec s a = some s') twoTills
        (transitions CashDb.after twoTills twoMovements) (twoMovements.foldl .after twoTills) ∧
      ¬ TillAgrees (twoMovements.foldl .after twoTills) ∧
      (movementDebit (twoMovements.foldl CashDb.after twoTills).ledger 1).toRat = 30 ∧
      (expectedWithoutFloats (twoMovements.foldl CashDb.after twoTills)).toRat = 10 := by
  have htill : (movementDebit (twoMovements.foldl CashDb.after twoTills).ledger 1).toRat = 30 := by
    decide +kernel
  have hexpected : (expectedWithoutFloats (twoMovements.foldl CashDb.after twoTills)).toRat = 10 := by
    decide +kernel
  refine ⟨twoTills_fresh, .of_exec (by decide +kernel), fun h => ?_, htill, hexpected⟩
  have haccount : ∃ row, (twoMovements.foldl CashDb.after twoTills).ledger.accounts.get? 1 =
      some row ∧ row.accountCode = CASH := by
    have hcode : ((twoMovements.foldl CashDb.after twoTills).ledger.accounts.get? 1).map
        (·.accountCode) = some CASH := by decide +kernel
    obtain ⟨row, hrow, hcode⟩ := Option.map_eq_some_iff.mp hcode
    exact ⟨row, hrow, hcode⟩
  obtain ⟨row, hrow, hcode⟩ := haccount
  have hagree := h.till 1 row hrow hcode
  rw [htill, hexpected] at hagree
  norm_num at hagree

end SmartErpPos.CashRegister
