/-
  Ledger/Effects.lean --- what one successful call does to the ledger.

  A posting and a reversal write the same way: a header, one entry and one change
  of a balance for each line, then the derived tables.  `LinesWritten` says what
  the lines do, for both loops at once; `JournalPosted` and `ReversalPosted` say
  what a whole call does.  Later modules use these and never unfold a call again.
-/
import SmartErpPos.Ledger.AccountingCore
import SmartErpPos.Lib.Passes

set_option autoImplicit false

namespace SmartErpPos.Ledger

open SmartErpPos.Lib

/-! ## Frames -/

section Frames

variable (db : LedgerDb)

@[simp] theorem addToBalance_accounts_get? (id a : AccountId) (change : ℚ) :
    (addToBalance db id change).accounts.get? a = (db.accounts.get? a).map fun row =>
      if a = id then { row with currentBalance := addToAmount row.currentBalance change }
      else row := by
  simp [addToBalance]

@[simp] theorem addToBalance_transactions (id : AccountId) (change : ℚ) :
    (addToBalance db id change).transactions = db.transactions := rfl
@[simp] theorem addToBalance_entries (id : AccountId) (change : ℚ) :
    (addToBalance db id change).entries = db.entries := rfl
@[simp] theorem addToBalance_periods (id : AccountId) (change : ℚ) :
    (addToBalance db id change).periods = db.periods := rfl
@[simp] theorem addToBalance_periodBalances (id : AccountId) (change : ℚ) :
    (addToBalance db id change).periodBalances = db.periodBalances := rfl
@[simp] theorem addToBalance_events (id : AccountId) (change : ℚ) :
    (addToBalance db id change).events = db.events := rfl
@[simp] theorem addToBalance_nextId (id : AccountId) (change : ℚ) :
    (addToBalance db id change).nextId = db.nextId := rfl

/-- An event changes the event table only. -/
theorem writeProjectionEvent_eq (key : PeriodKey) (id : TransactionId) (idempotencyKey : String)
    (now : Timestamp) : ∃ events, writeProjectionEvent db key id idempotencyKey now =
      { db with events := events } := by
  unfold writeProjectionEvent
  dsimp only
  split
  · exact ⟨db.events, rfl⟩
  · exact ⟨_, rfl⟩

theorem writeProjectionEvent_get? (key : PeriodKey) (id : TransactionId) (idempotencyKey : String)
    (now : Timestamp) (k : ProjectionEventKey) :
    (writeProjectionEvent db key id idempotencyKey now).events.get? k =
      (db.events.get? k).or (if k = ⟨key, id⟩ then some ⟨idempotencyKey, .PENDING, 0, now⟩
        else none) := by
  unfold writeProjectionEvent
  dsimp only
  split
  · rename_i row hrow
    rcases eq_or_ne k ⟨key, id⟩ with rfl | hk
    · simp [hrow]
    · simp [hk]
  · rename_i hnone
    rcases eq_or_ne k ⟨key, id⟩ with rfl | hk
    · simp [hnone]
    · simp [OrderedMap.get?_set_of_ne hk, hk]

/-- A rebuild changes the period balances only. -/
theorem rebuildSingleAccountPeriod_eq (key : PeriodKey) :
    ∃ balances, rebuildSingleAccountPeriod db key = { db with periodBalances := balances } := by
  unfold rebuildSingleAccountPeriod writePeriodBalance
  split
  · exact ⟨db.periodBalances, rfl⟩
  · split
    · exact ⟨_, rfl⟩
    · exact ⟨_, rfl⟩

theorem rebuildAll_eq (keys : List PeriodKey) :
    ∃ balances, rebuildAll db keys = { db with periodBalances := balances } := by
  unfold rebuildAll
  induction keys generalizing db with
  | nil => exact ⟨db.periodBalances, rfl⟩
  | cons key rest ih =>
    obtain ⟨b, hb⟩ := rebuildSingleAccountPeriod_eq db key
    obtain ⟨b', hb'⟩ := ih (rebuildSingleAccountPeriod db key)
    refine ⟨b', ?_⟩
    rw [List.foldl_cons, hb', hb]

@[simp] theorem afterJournalEntryGovernance_transactions (codes : List String) :
    (afterJournalEntryGovernance db codes).transactions = db.transactions := rfl
@[simp] theorem afterJournalEntryGovernance_entries (codes : List String) :
    (afterJournalEntryGovernance db codes).entries = db.entries := rfl
@[simp] theorem afterJournalEntryGovernance_periods (codes : List String) :
    (afterJournalEntryGovernance db codes).periods = db.periods := rfl
@[simp] theorem afterJournalEntryGovernance_periodBalances (codes : List String) :
    (afterJournalEntryGovernance db codes).periodBalances = db.periodBalances := rfl
@[simp] theorem afterJournalEntryGovernance_events (codes : List String) :
    (afterJournalEntryGovernance db codes).events = db.events := rfl
@[simp] theorem afterJournalEntryGovernance_nextId (codes : List String) :
    (afterJournalEntryGovernance db codes).nextId = db.nextId := rfl

variable (path : PostingPath) (keys : List PeriodKey) (lines : List JournalLine)

@[simp] theorem finishPosting_transactions :
    (finishPosting path db keys lines).transactions = db.transactions := by
  obtain ⟨b, hb⟩ := rebuildAll_eq db keys.eraseDups
  cases path <;> simp [finishPosting, hb]

@[simp] theorem finishPosting_entries :
    (finishPosting path db keys lines).entries = db.entries := by
  obtain ⟨b, hb⟩ := rebuildAll_eq db keys.eraseDups
  cases path <;> simp [finishPosting, hb]

@[simp] theorem finishPosting_periods :
    (finishPosting path db keys lines).periods = db.periods := by
  obtain ⟨b, hb⟩ := rebuildAll_eq db keys.eraseDups
  cases path <;> simp [finishPosting, hb]

@[simp] theorem finishPosting_events :
    (finishPosting path db keys lines).events = db.events := by
  obtain ⟨b, hb⟩ := rebuildAll_eq db keys.eraseDups
  cases path <;> simp [finishPosting, hb]

@[simp] theorem finishPosting_nextId :
    (finishPosting path db keys lines).nextId = db.nextId := by
  obtain ⟨b, hb⟩ := rebuildAll_eq db keys.eraseDups
  cases path <;> simp [finishPosting, hb]

/-- The sums of entries are read off the transactions and the entries. -/
theorem balanceOver_congr {db db' : LedgerDb} (hentries : db'.entries = db.entries)
    {p p' : LedgerEntry → Bool} (hp : ∀ e ∈ db.entries, p' e = p e) (a : AccountId)
    (normal : NormalBalance) : balanceOver db' p' a normal = balanceOver db p a normal := by
  unfold balanceOver sumEntries
  rw [hentries]
  congr 2
  refine List.filter_congr fun e he => ?_
  rw [hp e he]

theorem isPostedId_congr {db db' : LedgerDb} (h : db'.transactions = db.transactions) :
    isPostedId db' = isPostedId db := by
  unfold isPostedId transactionIs
  rw [h]

theorem isNetActive_congr {db db' : LedgerDb} (h : db'.transactions = db.transactions) :
    isNetActive db' = isNetActive db := by
  unfold isNetActive reversingIds
  rw [h]

theorem isActiveId_congr {db db' : LedgerDb} (h : db'.transactions = db.transactions) :
    isActiveId db' = isActiveId db := by
  unfold isActiveId transactionIs
  rw [h, isNetActive_congr h]

theorem postedBalance_congr {db db' : LedgerDb} (htx : db'.transactions = db.transactions)
    (hentries : db'.entries = db.entries) : postedBalance db' = postedBalance db := by
  funext a normal
  exact balanceOver_congr hentries (fun e _ => congrFun (isPostedId_congr htx) _) a normal

theorem netActiveBalance_congr {db db' : LedgerDb} (htx : db'.transactions = db.transactions)
    (hentries : db'.entries = db.entries) : netActiveBalance db' = netActiveBalance db := by
  funext a normal
  exact balanceOver_congr hentries (fun e _ => congrFun (isActiveId_congr htx) _) a normal

/-- The codes the account check looks at. -/
def checkedCodes (lines : List JournalLine) : List String :=
  (lines.map (·.accountCode)).filter fun code => code ≠ ""

theorem finishPosting_accounts_get? (a : AccountId) :
    (finishPosting path db keys lines).accounts.get? a =
      (db.accounts.get? a).map (·.rebased db (checkedCodes lines) a) := by
  have hrebased : ∀ b, AccountRow.rebased { db with periodBalances := b } = AccountRow.rebased db :=
    fun _ => rfl
  obtain ⟨b, hb⟩ := rebuildAll_eq db keys.eraseDups
  cases path with
  | txClient =>
    simp [finishPosting, hb, afterJournalEntryGovernance, rebaseAccountCaches, checkedCodes,
      hrebased]
  | ownTransaction =>
    simp [finishPosting, afterJournalEntryGovernance, rebaseAccountCaches, checkedCodes]

theorem finishPosting_periodBalances :
    (finishPosting path db keys lines).periodBalances =
      match path with
      | .txClient => (rebuildAll db keys.eraseDups).periodBalances
      | .ownTransaction => db.periodBalances := by
  cases path <;> rfl

end Frames

/-! ## The lines -/

/-- The entry carries the amounts of the line. -/
structure IsEntryOf (id : TransactionId) (line : JournalLine) (e : LedgerEntry) : Prop where
  transactionId : e.transactionId = id
  amount : e.amount = Numeric.ofRat (if line.isDebit then line.debitAmount else line.creditAmount)
  debitAmount : e.debitAmount = Numeric.ofRat line.debitAmount
  creditAmount : e.creditAmount = Numeric.ofRat line.creditAmount

/-- The lines on an account. -/
def linesOn (code : String) (lines : List JournalLine) : List JournalLine :=
  lines.filter fun line => line.accountCode = code

/-- A balance after the lines, each of them rounded on its own. -/
def applyLines (normal : NormalBalance) (lines : List JournalLine) (balance : Amount) : Amount :=
  lines.foldl (fun b line => addToAmount b (line.balanceChange normal)) balance

/-- An account after the lines of a journal. -/
def AccountRow.afterLines (lines : List JournalLine) (row : AccountRow) : AccountRow :=
  { row with
    currentBalance :=
      applyLines row.normalBalance (linesOn row.accountCode lines) row.currentBalance }

/-- The line was entered on the account it names. -/
def Entered (db : LedgerDb) (id : TransactionId) (line : JournalLine) (e : LedgerEntry) : Prop :=
  IsEntryOf id line e ∧
    ∃ row, db.accounts.get? e.accountId = some row ∧ row.accountCode = line.accountCode

/-- What writing the lines of a journal does. -/
structure LinesWritten (id : TransactionId) (before after : LedgerDb) (lines : List JournalLine)
    (written : List LedgerEntry) : Prop where
  entered : List.Forall₂ (Entered before id) lines written
  entries : after.entries = before.entries ++ written
  accounts : ∀ a, after.accounts.get? a = (before.accounts.get? a).map (·.afterLines lines)
  transactions : after.transactions = before.transactions
  periods : after.periods = before.periods
  periodBalances : after.periodBalances = before.periodBalances
  nextId : after.nextId = before.nextId

theorem LinesWritten.nil (id : TransactionId) (db : LedgerDb) : LinesWritten id db db [] [] where
  entered := .nil
  entries := by simp
  accounts a := by
    cases db.accounts.get? a <;> rfl
  transactions := rfl
  periods := rfl
  periodBalances := rfl
  nextId := rfl

/-- One more line in front. -/
theorem LinesWritten.cons {id : TransactionId} {before mid after : LedgerDb} {line : JournalLine}
    {lines : List JournalLine} {e : LedgerEntry} {written : List LedgerEntry} {row : AccountRow}
    (hentry : IsEntryOf id line e) (hrow : before.accounts.get? e.accountId = some row)
    (hcode : row.accountCode = line.accountCode) {events}
    (hmid : mid = { writeLine before e (line.balanceChange row.normalBalance) with events := events })
    (h : LinesWritten id mid after lines written) :
    LinesWritten id before after (line :: lines) (e :: written) := by
  have haccounts : ∀ a, mid.accounts.get? a = (before.accounts.get? a).map fun r =>
      if a = e.accountId then
        { r with currentBalance :=
            addToAmount r.currentBalance (line.balanceChange row.normalBalance) }
      else r := by
    intro a
    rw [hmid]
    exact addToBalance_accounts_get? (insertEntry before e) e.accountId a _
  refine
    { entered := .cons ⟨hentry, row, hrow, hcode⟩ (h.entered.imp ?_)
      entries := ?_
      accounts := ?_
      transactions := ?_
      periods := ?_
      periodBalances := ?_
      nextId := ?_ }
  · rintro line' e' ⟨hentry', row', hrow', hcode'⟩
    rw [haccounts] at hrow'
    obtain ⟨r, hr, rfl⟩ := Option.map_eq_some_iff.mp hrow'
    refine ⟨hentry', r, hr, ?_⟩
    rw [← hcode']
    split <;> rfl
  · rw [h.entries, hmid]
    simp [writeLine, insertEntry]
  · intro a
    rw [h.accounts, haccounts, Option.map_map]
    refine Option.map_congr fun r hr => ?_
    have hr : before.accounts.get? a = some r := hr
    rcases eq_or_ne a e.accountId with rfl | ha
    · obtain rfl : r = row := by
        rw [hrow] at hr
        exact (Option.some.inj hr).symm
      simp [AccountRow.afterLines, linesOn, applyLines, hcode]
    · have hne : line.accountCode ≠ r.accountCode := fun heq =>
        ha (before.account_unique hr hrow (heq.symm.trans hcode.symm))
      simp [AccountRow.afterLines, linesOn, ha, hne]
  · rw [h.transactions, hmid]
    rfl
  · rw [h.periods, hmid]
    rfl
  · rw [h.periodBalances, hmid]
    rfl
  · rw [h.nextId, hmid]
    rfl

variable {id : TransactionId} {ctx : PostingContext} {request : JournalEntryRequest}
  {out : PostingOutcome}

/-- A loop over the lines in which every round writes one line. -/
theorem linesWritten_of_foldlM {step : LineProgress → JournalLine → Except LedgerError LineProgress}
    (keysOf : AccountId → List PeriodKey)
    (hstep : ∀ p line p', step p line = .ok p' → ∃ e row events, IsEntryOf id line e ∧
      p.db.accounts.get? e.accountId = some row ∧ row.accountCode = line.accountCode ∧
      p'.db = { writeLine p.db e (line.balanceChange row.normalBalance) with events := events } ∧
      p'.keys = p.keys ++ keysOf e.accountId) {lines : List JournalLine} {p p' : LineProgress}
    (h : lines.foldlM step p = .ok p') :
    ∃ written, LinesWritten id p.db p'.db lines written ∧
      p'.keys = p.keys ++ written.flatMap fun e => keysOf e.accountId := by
  induction lines generalizing p with
  | nil =>
    rw [List.foldlM_nil, pure_eq_ok] at h
    subst h
    exact ⟨[], .nil id p.db, by simp⟩
  | cons line rest ih =>
    rw [List.foldlM_cons, bind_eq_ok] at h
    obtain ⟨q, hq, hrest⟩ := h
    obtain ⟨e, row, events, hentry, hrow, hcode, hdb, hkeys⟩ := hstep p line q hq
    obtain ⟨written, hwritten, hkeys'⟩ := ih hrest
    exact ⟨e :: written, .cons hentry hrow hcode hdb hwritten, by simp [hkeys', hkeys]⟩

/-! ## Whole calls -/

/-- The unique indexes leave room for the row. -/
structure Insertable (db : LedgerDb) (row : TransactionRow) : Prop where
  number : ∀ e ∈ db.transactions.entries, e.2.transactionNumber ≠ row.transactionNumber
  key : ∀ e ∈ db.transactions.entries, e.2.idempotencyKey ≠ row.idempotencyKey
  saleReference : ∀ e ∈ db.transactions.entries, isSaleReference row.referenceType = true →
    e.2.referenceType = row.referenceType → e.2.referenceNumber ≠ row.referenceNumber

/-- The ledger with a new header. -/
def withHeader (db : LedgerDb) (id : TransactionId) (row : TransactionRow) : LedgerDb :=
  { db with transactions := db.transactions.set id row, nextId := max db.nextId (id + 1) }

theorem insertTransaction_eq_ok {db db' : LedgerDb} {row : TransactionRow} :
    insertTransaction db id row = .ok db' ↔ Insertable db row ∧ db' = withHeader db id row := by
  unfold insertTransaction
  simp only [bind_eq_ok, require_eq_ok, pure_eq_ok]
  constructor
  · rintro ⟨-, hnumber, -, hkey, -, hsale, rfl⟩
    exact ⟨⟨hnumber, hkey, hsale⟩, rfl⟩
  · rintro ⟨h, rfl⟩
    exact ⟨(), h.number, (), h.key, (), h.saleReference, rfl⟩

/-- What a posting that does not find an earlier one does. -/
structure JournalPosted (ctx : PostingContext) (db : LedgerDb) (request : JournalEntryRequest)
    (out : PostingOutcome) (header : TransactionRow) (written : List LedgerEntry)
    (mid : LedgerDb) : Prop where
  periodOpen : isPeriodOpen db request.entryDate = true
  referenceId : request.referenceId = some header.referenceId
  header_eq : header = { request.header (nextTransactionNumber db) header.referenceId with
    postingSource := some request.postingSource }
  insertable : Insertable db header
  lines : LinesWritten db.nextId (withHeader db db.nextId header) mid request.lines written
  checked : assertWrittenJournalMatchesHeader mid db.nextId = .ok ()
  db_eq : out.db = finishPosting ctx.path mid
    (written.map fun e => PeriodKey.of e.accountId request.entryDate) request.lines
  result_eq : out.result = ⟨db.nextId, nextTransactionNumber db, .POSTED,
    (validateDoubleEntry request.lines).totalDebits,
    (validateDoubleEntry request.lines).totalCredits⟩
  jobs_eq : out.pendingRebuildJobs =
    queuedJobs ctx.path (written.map fun e => PeriodKey.of e.accountId request.entryDate)
  events : ∀ k, out.db.events.get? k = (db.events.get? k).or
    (if k.transactionId = db.nextId ∧ k.key ∈ out.pendingRebuildJobs then
      some ⟨request.idempotencyKey, .PENDING, 0, ctx.now⟩ else none)

theorem postLine_step {p p' : LineProgress} {line : JournalLine}
    (h : postLine ctx id request p line = .ok p') :
    ∃ e row events, IsEntryOf id line e ∧ p.db.accounts.get? e.accountId = some row ∧
      row.accountCode = line.accountCode ∧
      p'.db = { writeLine p.db e (line.balanceChange row.normalBalance) with events := events } ∧
      p'.keys = p.keys ++ [PeriodKey.of e.accountId request.entryDate] := by
  unfold postLine at h
  simp only [bind_eq_ok, orThrow_eq_ok, pure_eq_ok] at h
  obtain ⟨⟨a, row⟩, hfind, rfl⟩ := h
  have hmem := List.mem_of_find?_eq_some hfind
  have hcode := List.find?_some hfind
  simp only [Bool.and_eq_true, decide_eq_true_eq] at hcode
  have hrow : p.db.accounts.get? a = some row := OrderedMap.get?_eq_some_iff.mpr hmem
  refine ⟨entryOfLine id request.entryDate p.lineNumber line.stored a, row, ?_⟩
  cases hpath : ctx.path with
  | txClient => exact ⟨_, ⟨rfl, rfl, rfl, rfl⟩, hrow, hcode.1, rfl, rfl⟩
  | ownTransaction =>
    obtain ⟨events, hevents⟩ := writeProjectionEvent_eq
      (writeLine p.db (entryOfLine id request.entryDate p.lineNumber line.stored a)
        (line.balanceChange row.normalBalance)) (PeriodKey.of a request.entryDate) id
      request.idempotencyKey ctx.now
    exact ⟨events, ⟨rfl, rfl, rfl, rfl⟩, hrow, hcode.1, hevents, rfl⟩

/-- Every queued job has its event. -/
theorem postLines_events {lines : List JournalLine} {p p' : LineProgress} (hkeys : p.keys = [])
    (h : lines.foldlM (postLine ctx id request) p = .ok p') (k : ProjectionEventKey) :
    p'.db.events.get? k = (p.db.events.get? k).or
      (if k.transactionId = id ∧ k.key ∈ queuedJobs ctx.path p'.keys then
        some ⟨request.idempotencyKey, .PENDING, 0, ctx.now⟩ else none) := by
  refine foldlM_invariant (P := fun q => q.db.events.get? k = (p.db.events.get? k).or
    (if k.transactionId = id ∧ k.key ∈ queuedJobs ctx.path q.keys then
      some ⟨request.idempotencyKey, .PENDING, 0, ctx.now⟩ else none)) ?_ ?_ h
  · intro q line _ q' hq hstep
    unfold postLine at hstep
    simp only [bind_eq_ok, orThrow_eq_ok, pure_eq_ok] at hstep
    obtain ⟨⟨a, row⟩, -, rfl⟩ := hstep
    cases hpath : ctx.path with
    | txClient =>
      simp only [hpath, queuedJobs] at hq ⊢
      exact hq
    | ownTransaction =>
      simp only [hpath, queuedJobs] at hq ⊢
      rw [writeProjectionEvent_get?]
      show (q.db.events.get? k).or _ = _
      rw [hq, Option.or_assoc]
      congr 1
      obtain ⟨key, transactionId⟩ := k
      simp only [ProjectionEventKey.mk.injEq, List.mem_append, List.mem_singleton]
      by_cases hid : transactionId = id
      · by_cases hmem : key ∈ q.keys
        · simp [hid, hmem]
        · simp [hid, hmem]
      · simp [hid]
  · rw [hkeys]
    cases ctx.path <;> simp [queuedJobs]

theorem postJournal_cases {db : LedgerDb} (h : postJournal ctx db request = .ok out) :
    ∃ header written mid, JournalPosted ctx db request out header written mid := by
  unfold postJournal requirePeriodOpen at h
  simp only [bind_eq_ok, orThrow_eq_ok, require_eq_ok, pure_eq_ok, insertTransaction_eq_ok] at h
  obtain ⟨-, hopen, refId, href, -, ⟨hins, rfl⟩, last, hloop, ⟨⟩, hchecked, rfl⟩ := h
  obtain ⟨written, hlines, hkeys⟩ := linesWritten_of_foldlM
    (fun a => [PeriodKey.of a request.entryDate])
    (fun p line p' hp => postLine_step hp) hloop
  have hkeys : last.keys = written.map fun e => PeriodKey.of e.accountId request.entryDate := by
    rw [hkeys]
    simp [List.map_eq_flatMap]
  refine ⟨{ request.header (nextTransactionNumber db) refId with
    postingSource := some request.postingSource }, written, last.db, ?_⟩
  exact
    { periodOpen := hopen
      referenceId := href
      header_eq := rfl
      insertable := ⟨hins.number, hins.key, hins.saleReference⟩
      lines := by
        have hstamp : stampPostingSource (withHeader db db.nextId
            (request.header (nextTransactionNumber db) refId)) db.nextId request.postingSource =
            withHeader db db.nextId { request.header (nextTransactionNumber db) refId with
              postingSource := some request.postingSource } := by
          simp [stampPostingSource, withHeader]
        rw [← hstamp]
        exact hlines
      checked := hchecked
      db_eq := by rw [hkeys]
      result_eq := rfl
      jobs_eq := by rw [hkeys]
      events := fun k => by
        rw [finishPosting_events]
        exact postLines_events rfl hloop k }

/-- No earlier result for a key: nothing holds the key. -/
theorem existingByKey_none {db : LedgerDb} {key : String}
    (h : existingByKey ctx db key = .ok none) : checkIdempotencyKey db key = none := by
  unfold existingByKey at h
  split at h
  · assumption
  · split at h <;> cases h

/-- An earlier result for a key is the transaction that holds the key. -/
theorem existingByKey_some {db : LedgerDb} {key : String} {result : JournalEntryResult}
    (h : existingByKey ctx db key = .ok (some result)) :
    ∃ id, checkIdempotencyKey db key = some id ∧ getTransaction ctx.pool id = some result := by
  unfold existingByKey at h
  split at h
  · cases h
  · rename_i id hid
    split at h
    · rename_i r hr
      cases h
      exact ⟨id, hid, hr⟩
    · cases h

theorem existingByKey_eq_none {db : LedgerDb} {key : String}
    (h : checkIdempotencyKey db key = none) : existingByKey ctx db key = .ok none := by
  unfold existingByKey
  simp only [h]
  rfl

/-- A posting that passes the checks and whose key is free. -/
theorem createJournalEntry_of_free {db : LedgerDb}
    (hvalid : validateRequest ctx db request = .ok ())
    (hkey : checkIdempotencyKey db request.idempotencyKey = none) :
    createJournalEntry ctx db request =
      match existingByReference ctx db request with
      | some existing => .ok ⟨db, existing, []⟩
      | none => postJournal ctx db request := by
  unfold createJournalEntry
  rw [hvalid, existingByKey_eq_none hkey]
  rfl

/-- A posting that passes the checks and whose key is held by a transaction that the pool
sees. -/
theorem createJournalEntry_of_held {db : LedgerDb} {result : JournalEntryResult}
    (hvalid : validateRequest ctx db request = .ok ())
    (hkey : checkIdempotencyKey db request.idempotencyKey = some id)
    (hget : getTransaction ctx.pool id = some result) :
    createJournalEntry ctx db request = .ok ⟨db, result, []⟩ := by
  have hexisting : existingByKey ctx db request.idempotencyKey = .ok (some result) := by
    unfold existingByKey
    simp only [hkey, hget]
    rfl
  unfold createJournalEntry
  rw [hvalid, hexisting]
  rfl

theorem validateRequest_of_ok {db : LedgerDb} (h : createJournalEntry ctx db request = .ok out) :
    validateRequest ctx db request = .ok () := by
  unfold createJournalEntry at h
  simp only [bind_eq_ok] at h
  obtain ⟨⟨⟩, hvalid, -⟩ := h
  exact hvalid

/-- A successful posting returns an earlier one and changes nothing, or posts. -/
theorem createJournalEntry_cases {db : LedgerDb} (h : createJournalEntry ctx db request = .ok out) :
    (out.db = db ∧ out.pendingRebuildJobs = [] ∧
      (existingByKey ctx db request.idempotencyKey = .ok (some out.result) ∨
        (checkIdempotencyKey db request.idempotencyKey = none ∧
          existingByReference ctx db request = some out.result))) ∨
      (checkIdempotencyKey db request.idempotencyKey = none ∧
        existingByReference ctx db request = none ∧ postJournal ctx db request = .ok out) := by
  unfold createJournalEntry at h
  simp only [bind_eq_ok] at h
  obtain ⟨-, -, existing, hkey, h⟩ := h
  cases existing with
  | some existing =>
    simp only [pure_eq_ok] at h
    subst h
    exact .inl ⟨rfl, rfl, .inl hkey⟩
  | none =>
    dsimp only at h
    split at h
    · rename_i existing href
      simp only [pure_eq_ok] at h
      subst h
      exact .inl ⟨rfl, rfl, .inr ⟨existingByKey_none hkey, href⟩⟩
    · rename_i href
      exact .inr ⟨existingByKey_none hkey, href, h⟩

/-- Every transaction has a key that was drawn before. -/
def IdsBelow (db : LedgerDb) : Prop := ∀ id row, db.transactions.get? id = some row → id < db.nextId

theorem IdsBelow.get?_nextId {db : LedgerDb} (h : IdsBelow db) :
    db.transactions.get? db.nextId = none := by
  cases hget : db.transactions.get? db.nextId with
  | none => rfl
  | some row => exact absurd (h _ row hget) (lt_irrefl _)

/-- The ledger after the original of a reversal is marked. -/
def withReversed (db : LedgerDb) (originalId : TransactionId) (original : TransactionRow)
    (reversalId : TransactionId) : LedgerDb :=
  { db with transactions := db.transactions.set originalId (original.reversedBy reversalId) }

/-- What a reversal that does not find an earlier one does. -/
structure ReversalPosted (ctx : PostingContext) (db : LedgerDb) (request : ReversalRequest)
    (out : PostingOutcome) (original header : TransactionRow) (written : List LedgerEntry)
    (mid : LedgerDb) : Prop where
  original_get : db.transactions.get? request.originalTransactionId = some original
  original_posted : original.status = .POSTED
  original_lt : request.originalTransactionId < db.nextId
  periodOpen : isPeriodOpen db request.reversalDate = true
  header_eq : header = request.header original (nextTransactionNumber db)
    (reversedLines db request.originalTransactionId)
  insertable : Insertable db header
  lines : LinesWritten db.nextId (withHeader db db.nextId header) mid
    (reversedLines db request.originalTransactionId) written
  checked : assertWrittenJournalMatchesHeader mid db.nextId = .ok ()
  releasedKey_free : ∀ e ∈ mid.transactions.entries, e.1 ≠ request.originalTransactionId →
    e.2.idempotencyKey ≠ releasedKey original.idempotencyKey db.nextId
  db_eq : out.db = finishPosting ctx.path
    (withReversed mid request.originalTransactionId original db.nextId)
    (written.flatMap fun e => [PeriodKey.of e.accountId request.reversalDate,
      PeriodKey.of e.accountId original.transactionDate])
    (reversedLines db request.originalTransactionId)
  result_eq : out.result = ⟨db.nextId, nextTransactionNumber db, .POSTED,
    (validateDoubleEntry (reversedLines db request.originalTransactionId)).totalDebits,
    (validateDoubleEntry (reversedLines db request.originalTransactionId)).totalCredits⟩
  jobs_eq : out.pendingRebuildJobs = queuedJobs ctx.path
    (written.flatMap fun e => [PeriodKey.of e.accountId request.reversalDate,
      PeriodKey.of e.accountId original.transactionDate])
  /-- No event covers a reversal. -/
  events : out.db.events = db.events

theorem reverseLine_step {request : ReversalRequest} {original : TransactionRow}
    {p p' : LineProgress} {line : JournalLine}
    (h : reverseLine id request original p line = .ok p') :
    ∃ e row events, IsEntryOf id line e ∧ p.db.accounts.get? e.accountId = some row ∧
      row.accountCode = line.accountCode ∧
      p'.db = { writeLine p.db e (line.balanceChange row.normalBalance) with events := events } ∧
      p'.keys = p.keys ++ [PeriodKey.of e.accountId request.reversalDate,
        PeriodKey.of e.accountId original.transactionDate] := by
  unfold reverseLine at h
  simp only [bind_eq_ok, orThrow_eq_ok, pure_eq_ok] at h
  obtain ⟨⟨a, row⟩, hfind, rfl⟩ := h
  have hmem := List.mem_of_find?_eq_some hfind
  have hcode := List.find?_some hfind
  simp only [decide_eq_true_eq] at hcode
  exact ⟨entryOfLine id request.reversalDate p.lineNumber line a, row, p.db.events,
    ⟨rfl, rfl, rfl, rfl⟩, OrderedMap.get?_eq_some_iff.mpr hmem, hcode, rfl, rfl⟩

theorem reverseLines_events {request : ReversalRequest} {original : TransactionRow}
    {lines : List JournalLine} {p p' : LineProgress}
    (h : lines.foldlM (reverseLine id request original) p = .ok p') :
    p'.db.events = p.db.events := by
  refine foldlM_invariant (P := fun q => q.db.events = p.db.events) ?_ rfl h
  intro q line _ q' hq hstep
  unfold reverseLine at hstep
  simp only [bind_eq_ok, orThrow_eq_ok, pure_eq_ok] at hstep
  obtain ⟨-, -, rfl⟩ := hstep
  exact hq

theorem readOriginal_eq_ok {db : LedgerDb} {row : TransactionRow} :
    readOriginal db id = .ok row ↔ db.transactions.get? id = some row ∧ row.status = .POSTED := by
  unfold readOriginal
  simp only [bind_eq_ok, orThrow_eq_ok, require_eq_ok, pure_eq_ok]
  constructor
  · rintro ⟨row', hrow, -, hreversed, -, hdraft, rfl⟩
    refine ⟨hrow, ?_⟩
    cases hstatus : row'.status with
    | POSTED => rfl
    | REVERSED => exact absurd hstatus hreversed
    | DRAFT => exact absurd hstatus hdraft
  · rintro ⟨hrow, hposted⟩
    exact ⟨row, hrow, (), by simp [hposted], (), by simp [hposted], rfl⟩

theorem postReversal_cases {db : LedgerDb} {request : ReversalRequest} {original : TransactionRow}
    (hids : IdsBelow db) (horiginal : readOriginal db request.originalTransactionId = .ok original)
    (hopen : isPeriodOpen db request.reversalDate = true)
    (h : postReversal ctx db request original = .ok out) :
    ∃ header written mid, ReversalPosted ctx db request out original header written mid := by
  obtain ⟨hget, hposted⟩ := readOriginal_eq_ok.mp horiginal
  have hlt := hids _ _ hget
  unfold postReversal at h
  simp only [bind_eq_ok, pure_eq_ok, insertTransaction_eq_ok] at h
  obtain ⟨-, ⟨hins, rfl⟩, last, hloop, ⟨⟩, hchecked, marked, hmarked, rfl⟩ := h
  obtain ⟨written, hlines, hkeys⟩ := linesWritten_of_foldlM
    (fun a => [PeriodKey.of a request.reversalDate,
      PeriodKey.of a original.transactionDate]) (fun p line p' hp => reverseLine_step hp) hloop
  have hmid : last.db.transactions.get? request.originalTransactionId = some original := by
    rw [hlines.transactions]
    exact (OrderedMap.get?_set_of_ne hlt.ne _ _).trans hget
  unfold markReversed at hmarked
  simp only [hmid, bind_eq_ok, require_eq_ok, pure_eq_ok] at hmarked
  obtain ⟨-, hfree, rfl⟩ := hmarked
  have hkeys : last.keys = written.flatMap fun e => [PeriodKey.of e.accountId request.reversalDate,
      PeriodKey.of e.accountId original.transactionDate] := by
    simpa using hkeys
  exact ⟨_, written, last.db,
    { original_get := hget
      original_posted := hposted
      original_lt := hlt
      periodOpen := hopen
      header_eq := rfl
      insertable := hins
      lines := hlines
      checked := hchecked
      releasedKey_free := hfree
      db_eq := by
        rw [hkeys]
        rfl
      result_eq := rfl
      jobs_eq := by rw [hkeys]
      events := by
        rw [finishPosting_events]
        exact reverseLines_events hloop }⟩

/-- A successful reversal returns an earlier one and changes nothing, or reverses. -/
theorem reverseTransaction_cases {db : LedgerDb} {request : ReversalRequest} (hids : IdsBelow db)
    (h : reverseTransaction ctx db request = .ok out) :
    (out.db = db ∧ out.pendingRebuildJobs = [] ∧
      existingByKey ctx db request.idempotencyKey = .ok (some out.result)) ∨
      (checkIdempotencyKey db request.idempotencyKey = none ∧
        ∃ original header written mid,
          ReversalPosted ctx db request out original header written mid) := by
  unfold reverseTransaction at h
  simp only [bind_eq_ok] at h
  obtain ⟨existing, hkey, h⟩ := h
  cases existing with
  | some existing =>
    simp only [pure_eq_ok] at h
    subst h
    exact .inl ⟨rfl, rfl, hkey⟩
  | none =>
    dsimp only at h
    simp only [bind_eq_ok, requirePeriodOpen, require_eq_ok] at h
    obtain ⟨original, horiginal, -, hopen, h⟩ := h
    exact .inr ⟨existingByKey_none hkey, original, postReversal_cases hids horiginal hopen h⟩

end SmartErpPos.Ledger
