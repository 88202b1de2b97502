/-
  CashRegister/CloseRaceRuns.lean --- when a closed till session is final.

  The status is looked at in one statement and relied on in a later one.  While movements are
  inserted into a session that is open and not being closed, and a close writes what it has
  summed into a session that is still open, the closed row is complete and nothing writes it
  a second time.
-/
import SmartErpPos.CashRegister.CloseRace
import SmartErpPos.CashRegister.MovementJournals

set_option autoImplicit false

namespace SmartErpPos.CashRegister

open SmartErpPos.Lib SmartErpPos.Ledger

/-! ## What a statement does -/

/-- A call that neither holds the row nor owes a journal. -/
def TillCall.isQuiet : TillCall → Bool
  | .closeWritten _ _ => false
  | .closeCommitted _ _ _ => false
  | _ => true

/-- Cash counted with half a cent is not negative. -/
def TillCall.IsCounted : TillCall → Prop
  | .closeSession data _ => 0 ≤ data.actualClosing
  | .closeAllowed data _ => 0 ≤ data.actualClosing
  | .closeExplained closing => Numeric.IsTie 2 closing.actualClosing → 0 ≤ closing.actualClosing
  | .closeSummed closing _ => Numeric.IsTie 2 closing.actualClosing → 0 ≤ closing.actualClosing
  | _ => True

/-- A ledger after a posting that may have been handed an earlier one, or have failed. -/
inductive PostedOrNot (ledger : LedgerDb) (request : JournalEntryRequest) : LedgerDb → Prop
  | kept : PostedOrNot ledger request ledger
  | posted {ctx : PostingContext} {out : PostingOutcome} {header : TransactionRow}
      {written : List LedgerEntry} {mid : LedgerDb}
      (h : JournalPosted ctx ledger request out header written mid) :
      PostedOrNot ledger request out.db

/-- What an action can do. -/
inductive CloseEffect (db : CloseDb) : TillAction → CloseDb → Prop
  | moves {action : TillAction} {id : CallId} {call : TillCall} (hquiet : call.isQuiet = true)
      (hcounted : (∀ before ∈ db.calls.get? id, before.IsCounted) → call.IsCounted) :
      CloseEffect db action (db.put id call)
  | inserts {id : CallId} {env : CashEnv} {data : RecordMovementData} {inserted : CloseDb}
      {before call : TillCall} (hcall : db.calls.get? id = some before)
      (hmay : before.MayGoOn db → MayInsert db data)
      (hinserted : db.insertMovement data = some inserted) (hquiet : call.isQuiet = true)
      (hcounted : call.IsCounted) :
      CloseEffect db (.run id env) (inserted.put id call)
  | postsMovement {action : TillAction} {id : CallId} {request : JournalEntryRequest}
      {ledger : LedgerDb} (htype : request.referenceType = "CASH_MOVEMENT")
      (hledger : PostedOrNot db.ledger request ledger) :
      CloseEffect db action ({ db with ledger := ledger }.put id .over)
  | writes {id : CallId} {env : CashEnv} {closing : Closing} {expectedClosing : Cents}
      (hcall : db.calls.get? id = some (.closeSummed closing expectedClosing))
      (hfree : db.rowHeld = false) :
      CloseEffect db (.run id env)
        (db.put id (.closeWritten closing (closing.row db.session expectedClosing)))
  | commits {action : TillAction} {id : CallId} {closing : Closing} {row : CashRegisterSession}
      {call : TillCall} (hcall : db.calls.get? id = some (.closeWritten closing row))
      (hnext : call = .over ∨ ∃ userId, call = .closeCommitted userId row (row.variance.getD 0)) :
      CloseEffect db action
        ({ db with
            session := row
            closes := db.closes + 1 }.put id call)
  | postsVariance {action : TillAction} {id : CallId} {today : IsoDate} {userId : UserId}
      {row : CashRegisterSession} {variance : Cents} {ledger : LedgerDb}
      (hcall : db.calls.get? id = some (.closeCommitted userId row variance))
      (hledger : PostedOrNot db.ledger (varianceRequest today userId db.sessionId row variance)
        ledger) :
      CloseEffect db action ({ db with ledger := ledger }.put id .over)
  | reconciles {action : TillAction} {id : CallId} (hfree : db.rowHeld = false)
      (hclosed : db.session.status = .CLOSED) :
      CloseEffect db action
        ({ db with session := { db.session with status := .RECONCILED } }.put id .over)

variable {ledger : LedgerDb} {request : JournalEntryRequest} {id : CallId} {closing : Closing}
  {call : TillCall}

theorem postedOrNot_of_ok {env : CashEnv} {out : PostingOutcome}
    (h : createJournalEntry (env.context ledger) ledger request = .ok out) :
    PostedOrNot ledger request out.db := by
  rcases createJournalEntry_own rfl h with ⟨-, hdb⟩ | ⟨-, _, _, _, hposted⟩
  · rw [hdb]
    exact .kept
  · exact .posted hposted

theorem settled_posting (env : CashEnv) (ledger : LedgerDb)
    (request : JournalEntryRequest) : PostedOrNot ledger request
      (settled ((createJournalEntry (env.context ledger) ledger request).map (·.db)) ledger) := by
  cases hresult : createJournalEntry (env.context ledger) ledger request with
  | error e => exact .kept
  | ok out => exact postedOrNot_of_ok hresult

theorem settled_createMovementGLEntry (env : CashEnv) (ledger : LedgerDb)
    (movement : CashMovement) (session : CashRegisterSession) (userId : UserId) :
    ∃ request : JournalEntryRequest, request.referenceType = "CASH_MOVEMENT" ∧
      PostedOrNot ledger request
        (settled (createMovementGLEntry env ledger movement session userId) ledger) := by
  cases haccounts : movement.movementType.accounts with
  | none =>
    refine ⟨movementRequest env.today userId movement session ("", ""), rfl, ?_⟩
    simp only [createMovementGLEntry, haccounts]
    exact .kept
  | some accounts =>
    refine ⟨movementRequest env.today userId movement session accounts, rfl, ?_⟩
    simp only [createMovementGLEntry, haccounts]
    cases hresult : createJournalEntry (env.context ledger) ledger
        (movementRequest env.today userId movement session accounts) with
    | ok out => exact postedOrNot_of_ok hresult
    | error e =>
      dsimp only
      split
      · exact .kept
      · exact .kept

theorem toCall_isQuiet (request : TillRequest) : request.toCall.isQuiet = true := by
  cases request <;> rfl

theorem toCall_isCounted {request : TillRequest} {sessionId : SessionId}
    (h : request.isFor sessionId = true) : request.toCall.IsCounted := by
  cases request with
  | closeSession data userId =>
    change 0 ≤ data.actualClosing
    exact of_decide_eq_true h
  | _ => trivial

theorem CloseDb.run_effect {db db' : CloseDb} {env : CashEnv} (h : db.run id env = some db') :
    CloseEffect db (.run id env) db' := by
  unfold CloseDb.run at h
  split at h
  · cases h
  · cases h
  · dsimp only at h
    split at h
    · cases h
      exact .moves rfl fun _ => trivial
    split at h
    · cases h
      exact .moves rfl fun _ => trivial
    · cases h
      exact .moves rfl fun _ => trivial
  · split at h
    · cases h
      exact .moves rfl fun _ => trivial
    · cases h
      exact .moves rfl fun _ => trivial
  · rename_i data session hcall
    split at h
    · rename_i inserted hinserted
      cases h
      exact .inserts hcall (fun hmay => hmay) hinserted rfl trivial
    · cases h
      exact .moves rfl fun _ => trivial
  · rename_i movement session hcall
    cases h
    obtain ⟨request, htype, hledger⟩ := settled_createMovementGLEntry env db.ledger movement
      session movement.userId
    exact .postsMovement htype hledger
  · split at h
    · cases h
      exact .moves rfl fun _ => trivial
    · cases h
      exact .moves rfl fun _ => trivial
  · rename_i data hcall
    cases h
    cases hinserted : db.insertMovement data with
    | some inserted => exact .inserts hcall (fun hmay => hmay) hinserted rfl trivial
    | none => exact .moves rfl fun _ => trivial
  · rename_i data userId hcall
    split at h
    · cases h
      refine .moves rfl fun hcounted => ?_
      exact (hcounted _ hcall : (TillCall.closeSession data userId).IsCounted)
    · cases h
      exact .moves rfl fun _ => trivial
  · rename_i data userId hcall
    split at h
    · cases h
      refine .moves rfl fun hcounted _ => ?_
      exact (hcounted _ hcall : (TillCall.closeAllowed data userId).IsCounted)
    · cases h
      exact .moves rfl fun _ => trivial
  · rename_i closing hcall
    cases h
    refine .moves rfl fun hcounted => ?_
    exact (hcounted _ hcall : (TillCall.closeExplained closing).IsCounted)
  · rename_i closing expectedClosing hcall
    split at h
    · cases h
    · rename_i hheld
      cases h
      exact .writes hcall (by simpa using hheld)
  · rename_i closing row hcall
    dsimp only at h
    split at h
    · rename_i userId hposts
      split at h
      · cases h
        exact .commits hcall (.inr ⟨userId, rfl⟩)
      · cases h
        exact .commits hcall (.inl rfl)
    · cases h
      exact .commits hcall (.inl rfl)
  · rename_i userId row variance hcall
    cases h
    exact .postsVariance hcall (settled_posting env db.ledger _)
  · split at h
    · cases h
      exact .moves rfl fun _ => trivial
    · cases h
      exact .moves rfl fun _ => trivial
  · cases h
    exact .moves rfl fun _ htie => absurd htie (Numeric.not_isTie_toRat _)
  · split at h
    · cases h
      exact .moves rfl fun _ => trivial
    · cases h
      exact .moves rfl fun _ => trivial
  · split at h
    · cases h
    split at h
    · rename_i hheld hclosed
      cases h
      exact .reconciles (by simpa using hheld) hclosed
    · cases h
      exact .moves rfl fun _ => trivial

theorem CloseDb.exec_effect {db db' : CloseDb} {action : TillAction}
    (h : db.exec action = some db') : CloseEffect db action db' := by
  cases action with
  | call id request =>
    simp only [CloseDb.exec] at h
    split at h
    · rename_i hcall
      cases h
      exact .moves (toCall_isQuiet request) fun _ => toCall_isCounted hcall.2
    · cases h
  | run id env => exact db.run_effect h
  | fail id =>
    simp only [CloseDb.exec] at h
    split at h
    · cases h
      exact .moves rfl fun _ => trivial
    · cases h

/-! ## The invariant -/

/-- What holds while the session is closed in turn. -/
structure CloseInv (db : CloseDb) : Prop where
  wellFormed : WellFormed db.ledger
  counted : ∀ id, ∀ call ∈ db.calls.get? id, call.IsCounted
  held : ∀ {id closing row}, db.calls.get? id = some (.closeWritten closing row) →
    db.session.status = .OPEN ∧ row.status = .CLOSED ∧ Complete row db.expected
  heldOnce : ∀ {id id' closing closing' row row'},
    db.calls.get? id = some (.closeWritten closing row) →
      db.calls.get? id' = some (.closeWritten closing' row') → id = id'
  opened : db.session.status = .OPEN → db.closes = 0
  closed : db.session.status ≠ .OPEN → Complete db.session db.expected ∧ db.closes = 1
  due : ∀ {id userId row variance},
    db.calls.get? id = some (.closeCommitted userId row variance) →
      db.session.status ≠ .OPEN ∧ db.session.variance = some variance
  journal : ∀ id row, ActiveRow db.ledger id row → isVarianceRow db.sessionId row = true →
    db.session.status ≠ .OPEN ∧ ∃ variance, db.session.variance = some variance ∧
      ∀ a account, db.ledger.accounts.get? a = some account →
        amountOf db.ledger id a .DEBIT = varianceEffect variance account.accountCode

theorem CloseInv.closedForGood {db : CloseDb} (h : CloseInv db) : ClosedForGood db where
  complete hstatus := (h.closed hstatus).1
  journal id row hactive htype := (h.journal id row hactive htype).2
  once := by
    by_cases hstatus : db.session.status = .OPEN
    · rw [h.opened hstatus]
      exact Nat.zero_le 1
    · exact (h.closed hstatus).2.le

variable {db : CloseDb}

theorem CloseDb.rowHeld_iff : db.rowHeld = true ↔
    ∃ id closing row, db.calls.get? id = some (.closeWritten closing row) := by
  unfold CloseDb.rowHeld
  rw [List.any_eq_true]
  constructor
  · rintro ⟨⟨id, call⟩, hmem, hholds⟩
    cases call with
    | closeWritten closing row => exact ⟨id, closing, row, OrderedMap.get?_eq_some_iff.mpr hmem⟩
    | _ => cases hholds
  · rintro ⟨id, closing, row, hget⟩
    exact ⟨(id, _), OrderedMap.get?_eq_some_iff.mp hget, rfl⟩

/-- While the row is free no call holds it. -/
theorem not_held (hfree : db.rowHeld = false) {row : CashRegisterSession} :
    db.calls.get? id ≠ some (.closeWritten closing row) := by
  intro hget
  rw [CloseDb.rowHeld_iff.mpr ⟨id, closing, row, hget⟩] at hfree
  cases hfree

/-- After a call has gone on to a quiet statement, the others are where they were. -/
theorem get?_of_quiet {calls : OrderedMap CallId TillCall} {id' : CallId} {call' : TillCall}
    (hquiet : call.isQuiet = true) (hloud : call'.isQuiet = false)
    (hget : (calls.set id call).get? id' = some call') : calls.get? id' = some call' := by
  rw [OrderedMap.get?_set] at hget
  split at hget
  · cases hget
    rw [hquiet] at hloud
    cases hloud
  · exact hget

/-- Setting a call that counted its cash well. -/
theorem CloseInv.counted_set (h : CloseInv db) (hcall : call.IsCounted) :
    ∀ id', ∀ other ∈ (db.calls.set id call).get? id',
      other.IsCounted := by
  intro id' other hget
  rw [OrderedMap.get?_set] at hget
  split at hget
  · cases hget
    exact hcall
  · exact h.counted id' other hget

/-- A call goes on without writing anything. -/
theorem CloseInv.moves (h : CloseInv db) (hquiet : call.isQuiet = true)
    (hcounted : call.IsCounted) : CloseInv (db.put id call) where
  wellFormed := h.wellFormed
  counted := h.counted_set hcounted
  held hget := h.held (get?_of_quiet hquiet rfl hget)
  heldOnce hget hget' :=
    h.heldOnce (get?_of_quiet hquiet rfl hget) (get?_of_quiet hquiet rfl hget')
  opened := h.opened
  closed := h.closed
  due hget := h.due (get?_of_quiet hquiet rfl hget)
  journal := h.journal

theorem CloseDb.insertMovement_eq_some {data : RecordMovementData} {inserted : CloseDb}
    (h : db.insertMovement data = some inserted) :
    inserted = { db with
      movements := db.movements ++ [data.row db.nextId]
      nextId := db.nextId + 1 } := by
  unfold CloseDb.insertMovement at h
  dsimp only at h
  split at h
  · cases h
  · cases h
    rfl

/-- A movement that may be inserted. -/
theorem CloseInv.inserts (h : CloseInv db) {data : RecordMovementData} {inserted : CloseDb}
    (hinserted : db.insertMovement data = some inserted) (hmay : MayInsert db data) :
    CloseInv inserted := by
  rw [CloseDb.insertMovement_eq_some hinserted]
  have hsame : (data.row db.nextId).tillChange = 0 →
      calculateExpectedClosing (db.movements ++ [data.row db.nextId]) db.sessionId =
        db.expected := by
    intro hzero
    rw [CloseDb.expected]
    unfold calculateExpectedClosing
    rw [List.filter_append, List.map_append, List.sum_append]
    have hnew : ((([data.row db.nextId].filter fun movement =>
        decide (movement.sessionId = db.sessionId)).map (·.tillChange)).sum : Cents) = 0 := by
      refine List.sum_eq_zero fun x hx => ?_
      obtain ⟨movement, hmem, rfl⟩ := List.mem_map.mp hx
      rw [List.mem_singleton.mp (List.mem_filter.mp hmem).1]
      exact hzero
    rw [hnew, add_zero]
  constructor
  case wellFormed => exact h.wellFormed
  case counted => exact h.counted
  case held =>
    intro id closing row hget
    obtain ⟨hopen, hstatus, hcomplete⟩ := h.held hget
    refine ⟨hopen, hstatus, ?_⟩
    rcases hmay with ⟨-, hfree⟩ | hzero
    · exact absurd hget (not_held hfree)
    · change Complete row (calculateExpectedClosing _ _)
      rw [hsame hzero]
      exact hcomplete
  case heldOnce => exact h.heldOnce
  case opened => exact h.opened
  case closed =>
    intro hstatus
    obtain ⟨hcomplete, honce⟩ := h.closed hstatus
    refine ⟨?_, honce⟩
    rcases hmay with ⟨hopen, -⟩ | hzero
    · exact absurd hopen hstatus
    · change Complete db.session (calculateExpectedClosing _ _)
      rw [hsame hzero]
      exact hcomplete
  case due => exact h.due
  case journal => exact h.journal

/-! ## Postings -/

theorem PostedOrNot.wellFormed {ledger' : LedgerDb} (hwf : WellFormed ledger)
    (h : PostedOrNot ledger request ledger') : WellFormed ledger' := by
  cases h with
  | kept => exact hwf
  | posted hposted => exact hposted.wellFormed hwf

/-- A variance journal after a posting was there before with the same amounts, or it is the
new one. -/
theorem PostedOrNot.journal_cases {ledger' : LedgerDb} (hwf : WellFormed ledger)
    (h : PostedOrNot ledger request ledger') {sessionId : SessionId} {id : TransactionId}
    {row : TransactionRow} (hactive : ActiveRow ledger' id row)
    (htype : isVarianceRow sessionId row = true) :
    (ActiveRow ledger id row ∧ ∀ a account, ledger'.accounts.get? a = some account →
      ∃ before, ledger.accounts.get? a = some before ∧
        before.accountCode = account.accountCode ∧
        amountOf ledger' id a .DEBIT = amountOf ledger id a .DEBIT) ∨
    (request.referenceType = "CASH_SESSION" ∧
      ∀ a account, ledger'.accounts.get? a = some account →
        amountOf ledger' id a .DEBIT = linesChange .DEBIT account.accountCode request.lines) := by
  cases h with
  | kept => exact .inl ⟨hactive, fun a account haccount => ⟨account, haccount, rfl, rfl⟩⟩
  | posted hposted =>
    rcases (hposted.activeRow_iff hwf).mp hactive with ⟨rfl, rfl⟩ | hold
    · rw [isVarianceRow, Bool.and_eq_true, decide_eq_true_eq, hposted.header_fields.1] at htype
      refine .inr ⟨htype.1, fun a account haccount => ?_⟩
      obtain ⟨before, hbefore, hcode⟩ := hposted.account_before haccount
      rw [hposted.amountOf_eq hwf hbefore, if_pos rfl, hcode]
    · refine .inl ⟨hold, fun a account haccount => ?_⟩
      obtain ⟨before, hbefore, hcode⟩ := hposted.account_before haccount
      have hid : id ≠ ledger.nextId := (hwf.idsBelow id row hold.1).ne
      exact ⟨before, hbefore, hcode, by rw [hposted.amountOf_eq hwf hbefore, if_neg hid]⟩

theorem linesChange_varianceLines (sessionId : SessionId) (session : CashRegisterSession)
    (variance : Cents) (code : String) :
    linesChange .DEBIT code (varianceLines sessionId session variance) =
      varianceEffect variance code := by
  have hneg : (Numeric.ofRat (-variance.toRat) : Amount) = -Numeric.ofRat variance.toRat := by
    apply Numeric.toRat_injective
    rw [Numeric.toRat_neg, ← Numeric.toRat_neg, toRat_ofRat_of_le (by decide),
      toRat_ofRat_of_le (by decide), Numeric.toRat_neg]
  unfold varianceLines varianceEffect
  dsimp only
  by_cases hpos : 0 < variance
  · have habs : |variance.toRat| = variance.toRat := abs_of_pos (Numeric.toRat_pos_iff.mpr hpos)
    simp only [if_pos hpos, linesChange_cons, linesChange_nil, varianceLine,
      JournalLine.storedChange, Numeric.ofRat_zero, sub_zero, zero_sub, add_zero, habs]
    by_cases hcash : code = CASH
    · subst hcash
      simp [CASH, CASH_OVERAGE]
    · rw [if_neg (Ne.symm hcash), if_neg hcash, zero_add]
      by_cases hover : code = CASH_OVERAGE
      · rw [if_pos hover.symm, if_pos hover]
      · rw [if_neg (Ne.symm hover), if_neg hover]
  · have hle : variance.toRat ≤ 0 := not_lt.mp (mt Numeric.toRat_pos_iff.mp hpos)
    have habs : |variance.toRat| = -variance.toRat := abs_of_nonpos hle
    simp only [if_neg hpos, linesChange_cons, linesChange_nil, varianceLine,
      JournalLine.storedChange, Numeric.ofRat_zero, sub_zero, zero_sub, add_zero, habs, hneg,
      neg_neg]
    by_cases hcash : code = CASH
    · subst hcash
      simp [CASH, CASH_SHORTAGE]
    · rw [if_neg (Ne.symm hcash), if_neg hcash, add_zero]
      by_cases hshort : code = CASH_SHORTAGE
      · rw [if_pos hshort.symm, if_pos hshort]
      · rw [if_neg (Ne.symm hshort), if_neg hshort]

/-- A posting that is no variance journal, or the one the closed row asks for. -/
theorem CloseInv.posts (h : CloseInv db) (hledger : PostedOrNot db.ledger request ledger)
    (hnew : request.referenceType = "CASH_SESSION" → db.session.status ≠ .OPEN ∧
      ∃ variance, db.session.variance = some variance ∧
        ∀ code, linesChange .DEBIT code request.lines = varianceEffect variance code) :
    CloseInv ({ db with ledger := ledger }.put id .over) := by
  constructor
  case wellFormed => exact hledger.wellFormed h.wellFormed
  case counted => exact h.counted_set trivial
  case held => exact fun hget => h.held (get?_of_quiet rfl rfl hget)
  case heldOnce =>
    exact fun hget hget' => h.heldOnce (get?_of_quiet rfl rfl hget) (get?_of_quiet rfl rfl hget')
  case opened => exact h.opened
  case closed => exact h.closed
  case due => exact fun hget => h.due (get?_of_quiet rfl rfl hget)
  case journal =>
    intro t row hactive htype
    rcases hledger.journal_cases h.wellFormed hactive htype with ⟨hold, hsame⟩ | ⟨hvar, hamount⟩
    · obtain ⟨hstatus, variance, hvariance, hall⟩ := h.journal t row hold htype
      refine ⟨hstatus, variance, hvariance, fun a account haccount => ?_⟩
      obtain ⟨before, hbefore, hcode, hamount⟩ := hsame a account haccount
      exact hamount.trans ((hall a before hbefore).trans (by rw [hcode]))
    · obtain ⟨hstatus, variance, hvariance, hlines⟩ := hnew hvar
      refine ⟨hstatus, variance, hvariance, fun a account haccount => ?_⟩
      exact (hamount a account haccount).trans (hlines account.accountCode)

/-! ## Closing -/

/-- What the update of a close writes, when its sum is up to date. -/
theorem complete_row {session : CashRegisterSession} {expectedClosing : Cents}
    (htie : Numeric.IsTie 2 closing.actualClosing → expectedClosing.toRat ≤ closing.actualClosing)
    (hnonneg : Numeric.IsTie 2 closing.actualClosing → 0 ≤ closing.actualClosing) :
    Complete (closing.row session expectedClosing) expectedClosing where
  expectedClosing := rfl
  variance := by
    refine ⟨_, _, rfl, rfl, ?_⟩
    have hneg : closing.actualClosing - expectedClosing.toRat =
        (-expectedClosing).toRat + closing.actualClosing := by
      rw [Numeric.toRat_neg]
      ring
    rw [hneg, sub_eq_neg_add]
    by_cases hhalf : Numeric.IsTie 2 closing.actualClosing
    · refine Numeric.ofRat_toRat_add (hnonneg hhalf) ?_
      rw [Numeric.toRat_neg]
      have := htie hhalf
      linarith
    · exact Numeric.ofRat_toRat_add_of_not_tie hhalf

/-- A close writes the row of the open session. -/
theorem CloseInv.writes (h : CloseInv db) {expectedClosing : Cents}
    (hcall : db.calls.get? id = some (.closeSummed closing expectedClosing))
    (hfree : db.rowHeld = false) (hmay : MayClose db closing expectedClosing) :
    CloseInv (db.put id (.closeWritten closing (closing.row db.session expectedClosing))) := by
  obtain ⟨hopen, hsum, htie⟩ := hmay
  -- nobody else holds the row, so what holds it afterwards is this close
  have hself : ∀ {id' closing' row'},
      (db.calls.set id (.closeWritten closing (closing.row db.session expectedClosing))).get? id' =
        some (.closeWritten closing' row') →
      id = id' ∧ row' = closing.row db.session expectedClosing := by
    intro id' closing' row' hget
    rw [OrderedMap.get?_set] at hget
    split at hget
    · rename_i heq
      cases hget
      exact ⟨heq.symm, rfl⟩
    · exact absurd hget (not_held hfree)
  constructor
  case wellFormed => exact h.wellFormed
  case counted => exact h.counted_set trivial
  case held =>
    intro id' closing' row' hget
    obtain ⟨-, rfl⟩ := hself hget
    refine ⟨hopen, rfl, ?_⟩
    subst hsum
    exact complete_row htie (h.counted id _ hcall)
  case heldOnce =>
    intro id₁ id₂ closing₁ closing₂ row₁ row₂ hget₁ hget₂
    exact (hself hget₁).1.symm.trans (hself hget₂).1
  case opened => exact h.opened
  case closed => exact h.closed
  case due =>
    intro id' userId row variance hget
    change (db.calls.set id _).get? id' = _ at hget
    rw [OrderedMap.get?_set] at hget
    split at hget
    · cases hget
    · exact h.due hget
  case journal => exact h.journal

/-- A close commits the row it holds. -/
theorem CloseInv.commits (h : CloseInv db) {row : CashRegisterSession}
    (hcall : db.calls.get? id = some (.closeWritten closing row))
    (hnext : call = .over ∨ ∃ userId, call = .closeCommitted userId row (row.variance.getD 0)) :
    CloseInv ({ db with
      session := row
      closes := db.closes + 1 }.put id call) := by
  obtain ⟨hopen, hstatus, hcomplete⟩ := h.held hcall
  have hnotOpen : row.status ≠ .OPEN := by
    rw [hstatus]
    decide
  -- the row is free again: it was held once
  have hfreed : ∀ {id' closing' row'},
      (db.calls.set id call).get? id' ≠ some (.closeWritten closing' row') := by
    intro id' closing' row' hget
    rw [OrderedMap.get?_set] at hget
    split at hget
    · cases hget
      rcases hnext with hover | ⟨userId, hdue⟩
      · cases hover
      · cases hdue
    · rename_i hne
      exact hne (h.heldOnce hget hcall)
  constructor
  case wellFormed => exact h.wellFormed
  case counted =>
    refine h.counted_set ?_
    rcases hnext with rfl | ⟨userId, rfl⟩
    · trivial
    · trivial
  case held => exact fun hget => absurd hget hfreed
  case heldOnce => exact fun hget => absurd hget hfreed
  case opened => exact fun hrow => absurd hrow hnotOpen
  case closed =>
    intro _
    refine ⟨hcomplete, ?_⟩
    change db.closes + 1 = 1
    rw [h.opened hopen]
  case due =>
    intro id' userId row' variance hget
    change (db.calls.set id call).get? id' = _ at hget
    rw [OrderedMap.get?_set] at hget
    split at hget
    · cases hget
      obtain ⟨actual, variance', -, hvariance, -⟩ := hcomplete.variance
      rcases hnext with hover | ⟨userId', hdue⟩
      · cases hover
      · cases hdue
        refine ⟨hnotOpen, ?_⟩
        change row.variance = some (row.variance.getD 0)
        rw [hvariance]
        rfl
    · exact absurd hopen (h.due hget).1
  case journal =>
    intro t header hactive htype
    exact absurd hopen (h.journal t header hactive htype).1

/-- A closed session is reconciled. -/
theorem CloseInv.reconciles (h : CloseInv db) (hfree : db.rowHeld = false)
    (hclosed : db.session.status = .CLOSED) :
    CloseInv ({ db with session := { db.session with status := .RECONCILED } }.put id .over) := by
  have hnotOpen : db.session.status ≠ .OPEN := by
    rw [hclosed]
    decide
  obtain ⟨hcomplete, honce⟩ := h.closed hnotOpen
  constructor
  case wellFormed => exact h.wellFormed
  case counted => exact h.counted_set trivial
  case held => exact fun hget => absurd (get?_of_quiet rfl rfl hget) (not_held hfree)
  case heldOnce => exact fun hget => absurd (get?_of_quiet rfl rfl hget) (not_held hfree)
  case opened => exact fun hopen => nomatch hopen
  case closed => exact fun _ => ⟨⟨hcomplete.expectedClosing, hcomplete.variance⟩, honce⟩
  case due => exact fun hget => ⟨nofun, (h.due (get?_of_quiet rfl rfl hget)).2⟩
  case journal => exact fun t row hactive htype => ⟨nofun, (h.journal t row hactive htype).2⟩

/-! ## Runs -/

theorem CloseInv.exec (h : CloseInv db) {action : TillAction} {db' : CloseDb}
    (hexec : db.exec action = some db') (hturn : ClosesInTurn db action) : CloseInv db' := by
  cases CloseDb.exec_effect hexec with
  | moves hquiet hcounted => exact h.moves hquiet (hcounted (h.counted _))
  | inserts hcall hmay hinserted hquiet hcounted =>
    exact (h.inserts hinserted (hmay (hturn _ hcall))).moves hquiet hcounted
  | postsMovement htype hledger =>
    refine h.posts hledger fun hsession => ?_
    rw [htype] at hsession
    exact absurd hsession (by decide)
  | writes hcall hfree => exact h.writes hcall hfree (hturn _ hcall)
  | commits hcall hnext => exact h.commits hcall hnext
  | @postsVariance _ id today userId row variance ledger hcall hledger =>
    obtain ⟨hstatus, hvariance⟩ := h.due hcall
    exact h.posts hledger fun _ =>
      ⟨hstatus, variance, hvariance, linesChange_varianceLines db.sessionId row variance⟩
  | reconciles hfree hclosed => exact h.reconciles hfree hclosed

/-- No action takes a reconciled session out of that status. -/
theorem CloseInv.reconciled_stays (h : CloseInv db) {action : TillAction} {db' : CloseDb}
    (hexec : db.exec action = some db') (hreconciled : db.session.status = .RECONCILED) :
    db'.session.status = .RECONCILED := by
  cases CloseDb.exec_effect hexec with
  | moves => exact hreconciled
  | inserts hcall hmay hinserted =>
    rw [CloseDb.insertMovement_eq_some hinserted]
    exact hreconciled
  | postsMovement => exact hreconciled
  | writes => exact hreconciled
  | commits hcall =>
    rw [(h.held hcall).1] at hreconciled
    cases hreconciled
  | postsVariance => exact hreconciled
  | reconciles => rfl

/-- A session that was just opened and has no variance journal. -/
structure CloseDb.Opened (db : CloseDb) : Prop where
  wellFormed : WellFormed db.ledger
  open_ : db.session.status = .OPEN
  closes : db.closes = 0
  calls : db.calls = .empty
  journal : ∀ id row, ActiveRow db.ledger id row → isVarianceRow db.sessionId row = false

theorem CloseDb.Opened.inv (h : db.Opened) : CloseInv db := by
  have hnone : ∀ {id call}, db.calls.get? id ≠ some call := by
    intro id call
    rw [h.calls]
    exact nofun
  constructor
  case wellFormed => exact h.wellFormed
  case counted => exact fun id call hget => absurd hget hnone
  case held => exact fun hget => absurd hget hnone
  case heldOnce => exact fun hget => absurd hget hnone
  case opened => exact fun _ => h.closes
  case closed => exact fun hstatus => absurd h.open_ hstatus
  case due => exact fun hget => absurd hget hnone
  case journal =>
    intro id row hactive htype
    rw [h.journal id row hactive] at htype
    cases htype

/-- Along every run in which the session is closed in turn, it is closed for good after every
action, and once it is reconciled it stays so. -/
theorem closedForGood_of_run {ts : List (CloseDb × TillAction × CloseDb)} {start db : CloseDb}
    (hstart : start.Opened)
    (hrun : Run (fun s a s' => CloseDb.exec s a = some s') start ts db)
    (hturn : ∀ t ∈ ts, ClosesInTurn t.1 t.2.1) :
    ∀ t ∈ ts, ClosedForGood t.2.2 ∧
      (t.1.session.status = .RECONCILED → t.2.2.session.status = .RECONCILED) := by
  obtain ⟨-, hall⟩ := hrun.holds (P := CloseInv) (K := ClosesInTurn)
    (fun _ _ _ hs hstep hkeep => hs.exec hstep hkeep) hturn hstart.inv
  intro t ht
  obtain ⟨hbefore, hafter⟩ := hall t ht
  exact ⟨hafter.closedForGood, hbefore.reconciled_stays (hrun.step_of_mem ht)⟩

/-! ## A till at the end of the day -/

/-- The accounts of the drawer with one for missing cash. -/
def shortageBooks : LedgerDb where
  accounts := drawerBooks.accounts.set 5 (plainAccount CASH_SHORTAGE "Cash Shortage" .DEBIT)
  transactions := .empty
  entries := []
  periods := .empty
  periodBalances := .empty
  events := .empty
  nextId := 100
  codes_nodup := by decide

/-- A session with a float of 100, its ledger without journals. -/
def dayTill : CloseDb where
  sessionId := 10
  session :=
    { registerId := 1
      userId := 7
      sessionNumber := "REG-2026-0001"
      status := .OPEN
      openingFloat := .ofRat 100
      expectedClosing := none
      actualClosing := none
      variance := none
      varianceReason := none }
  movements :=
    [{ id := 11
       sessionId := 10
       userId := 7
       movementType := .CASH_IN_FLOAT
       amount := .ofRat 100
       reason := none
       clientUuid := none }]
  ledger := shortageBooks
  nextId := 12
  calls := .empty
  closes := 0

theorem dayTill_opened : dayTill.Opened where
  wellFormed := EmptyLedger.wellFormed
    { transactions := rfl
      entries := rfl
      balances := by
        intro a row hrow
        have hall : ∀ e ∈ shortageBooks.accounts.entries, e.2.currentBalance = 0 := by decide
        exact hall (a, row) (OrderedMap.get?_eq_some_iff.mp hrow)
      periodBalances := rfl
      events := rfl }
  open_ := rfl
  closes := rfl
  calls := rfl
  journal _ _ h := nomatch h.1

def CloseDb.after (db : CloseDb) (action : TillAction) : CloseDb := (db.exec action).getD db

/-- A receipt of 30 in cash. -/
def cashReceipt : RecordMovementData where
  sessionId := 10
  userId := 7
  movementType := .CASH_IN_OTHER
  amount := 30
  reason := none
  clientUuid := none

def runs (n : ℕ) (id : CallId) : List TillAction := List.replicate n (.run id morning)

/-- A receipt, then a close that finds 5 missing, then the reconciliation. -/
def receiptThenClose : List TillAction :=
  .call 1 (.recordMovement cashReceipt) :: runs 4 1 ++
    .call 2 (.closeSession ⟨125, some "miscount"⟩ 7) :: runs 6 2 ++
    .call 3 .reconcileSession :: runs 2 3

/-- A receipt that found the session open and is inserted after the close. -/
def lateReceipt : List TillAction :=
  .call 1 (.recordMovement cashReceipt) :: runs 2 1 ++
    .call 2 (.closeSession ⟨100, none⟩ 7) :: runs 5 2 ++ runs 2 1

theorem receiptThenClose_closedForGood : dayTill.Opened ∧
    ∀ t ∈ transitions CloseDb.after dayTill receiptThenClose, ClosedForGood t.2.2 ∧
      (t.1.session.status = .RECONCILED → t.2.2.session.status = .RECONCILED) :=
  ⟨dayTill_opened,
    closedForGood_of_run dayTill_opened (.of_exec (by decide +kernel)) (by decide +kernel)⟩

/-- The closed row expects 100 where the movements add up to 130, and nothing is in progress. -/
theorem lateReceipt_not_closedForGood :
    dayTill.Opened ∧
      Run (fun s a s' => CloseDb.exec s a = some s') dayTill
        (transitions CloseDb.after dayTill lateReceipt) (lateReceipt.foldl .after dayTill) ∧
      (lateReceipt.foldl CloseDb.after dayTill).Idle ∧
      (lateReceipt.foldl CloseDb.after dayTill).session.status = .CLOSED ∧
      ¬ ClosedForGood (lateReceipt.foldl .after dayTill) := by
  have hclosed : (lateReceipt.foldl CloseDb.after dayTill).session.status = .CLOSED := by
    decide +kernel
  refine ⟨dayTill_opened, .of_exec (by decide +kernel), ?_, hclosed, fun h => ?_⟩
  · have hover : (lateReceipt.foldl CloseDb.after dayTill).calls.entries.all
        (fun e => match e.2 with | .over => true | _ => false) = true := by decide +kernel
    intro e he
    have := List.all_eq_true.mp hover e he
    split at this
    · assumption
    · cases this
  · have hsum : (lateReceipt.foldl CloseDb.after dayTill).session.expectedClosing ≠
        some (lateReceipt.foldl CloseDb.after dayTill).expected := by decide +kernel
    refine hsum (h.complete ?_).expectedClosing
    rw [hclosed]
    decide

end SmartErpPos.CashRegister
