/-
  Ledger/OwnJournals.lean --- journals seen from the document they belong to.

  A document posts, and later reverses, journals of its own.  What the guards of a posting
  look at are its open rows: posted and not reversed.  A posting adds one open row, a
  reversal adds one of type `REVERSAL`, and both leave the codes of the accounts alone.

  Most journals here have two lines: they move an amount from one account to another.
-/
import SmartErpPos.Ledger.DocumentBalances
import SmartErpPos.Ledger.Reposting

set_option autoImplicit false

namespace SmartErpPos.Ledger

open SmartErpPos.Lib

/-! ## Open rows -/

/-- A posted row that is not reversed. -/
structure OpenRow (db : LedgerDb) (id : TransactionId) (row : TransactionRow) : Prop where
  get : db.transactions.get? id = some row
  posted : row.status = .POSTED
  live : row.isReversed = false

theorem ActiveRow.openRow {db : LedgerDb} {id : TransactionId} {row : TransactionRow}
    (h : ActiveRow db id row) : OpenRow db id row := by
  obtain ⟨hget, hactive⟩ := h
  obtain ⟨hposted, hlive, -⟩ := isNetActive_iff.mp hactive
  exact ⟨hget, hposted, hlive⟩

/-- A key is free when no open row has it. -/
theorem checkIdempotencyKey_of_open {db : LedgerDb} {key : String}
    (h : ∀ id row, OpenRow db id row → row.idempotencyKey ≠ key) :
    checkIdempotencyKey db key = none :=
  checkIdempotencyKey_eq_none_iff.mpr fun id row hget hlive hposted =>
    h id row ⟨hget, hposted, hlive⟩

namespace JournalPosted

variable {ctx : PostingContext} {db : LedgerDb} {request : JournalEntryRequest}
  {out : PostingOutcome} {header : TransactionRow} {written : List LedgerEntry} {mid : LedgerDb}

theorem openRow_iff (hwf : WellFormed db)
    (h : JournalPosted ctx db request out header written mid) {id : TransactionId}
    {row : TransactionRow} :
    OpenRow out.db id row ↔ (id = db.nextId ∧ row = header) ∨ OpenRow db id row := by
  have hadded := h.headerAdded
  constructor
  · rintro ⟨hget, hposted, hlive⟩
    rcases hadded.get?_cases hget with hnew | hold
    · exact .inl hnew
    · exact .inr ⟨hold, hposted, hlive⟩
  · rintro (⟨rfl, rfl⟩ | ⟨hget, hposted, hlive⟩)
    · exact ⟨by rw [hadded.transactions, OrderedMap.get?_set_self], hadded.posted,
        hadded.notReversed⟩
    · refine ⟨?_, hposted, hlive⟩
      rw [hadded.transactions, OrderedMap.get?_set_of_ne (hwf.idsBelow id row hget).ne]
      exact hget

theorem header_reverses (h : JournalPosted ctx db request out header written mid) :
    header.reversesTransactionId = none := by
  rw [h.header_eq]
  rfl

end JournalPosted

namespace ReversalPosted

variable {ctx : PostingContext} {db : LedgerDb} {request : ReversalRequest} {out : PostingOutcome}
  {original header : TransactionRow} {written : List LedgerEntry} {mid : LedgerDb}

theorem header_fields (h : ReversalPosted ctx db request out original header written mid) :
    header.referenceType = "REVERSAL" ∧ header.idempotencyKey = request.idempotencyKey := by
  rw [h.header_eq]
  exact ⟨rfl, rfl⟩

theorem openRow_cases (hwf : WellFormed db)
    (h : ReversalPosted ctx db request out original header written mid) {id : TransactionId}
    {row : TransactionRow} (hopen : OpenRow out.db id row) :
    (id = db.nextId ∧ row = header) ∨ OpenRow db id row := by
  obtain ⟨hget, hposted, hlive⟩ := hopen
  rcases h.originalReversed.get?_cases hwf hget with ⟨-, rfl⟩ | hnew | ⟨-, hold⟩
  · cases hlive
  · exact .inl hnew
  · exact .inr ⟨hold, hposted, hlive⟩

end ReversalPosted

/-! ## Requests without an earlier journal -/

instance (db : LedgerDb) (request : JournalEntryRequest) : Decidable (Unposted db request) :=
  decidable_of_iff (checkIdempotencyKey db request.idempotencyKey = none ∧
      existingByReference ⟨.txClient, db.transactions, .enforce, 0⟩ db request = none)
    ⟨fun h => ⟨h.1, (existingByReference_own rfl).mp h.2⟩,
      fun h => ⟨h.key, (existingByReference_own rfl).mpr h.document⟩⟩

/-- Such a request posts, whatever the pool sees. -/
theorem Unposted.posts {ctx : PostingContext} {db : LedgerDb} {request : JournalEntryRequest}
    {out : PostingOutcome} (h : Unposted db request)
    (hok : createJournalEntry ctx db request = .ok out) :
    ∃ header written mid, JournalPosted ctx db request out header written mid := by
  rcases createJournalEntry_cases hok with ⟨-, -, hkey | ⟨-, href⟩⟩ | ⟨-, -, hpost⟩
  · obtain ⟨id, hid, -⟩ := existingByKey_some hkey
    rw [h.key] at hid
    cases hid
  · obtain ⟨row, hactive, hsame, -⟩ := existingByReference_eq_some href
    exact absurd hsame (h.document _ row hactive)
  · exact postJournal_cases hpost

/-- A posting of another document under another key leaves it so. -/
theorem Unposted.of_posted {ctx : PostingContext} {db : LedgerDb}
    {request other : JournalEntryRequest} {out : PostingOutcome} {header : TransactionRow}
    {written : List LedgerEntry} {mid : LedgerDb} (h : Unposted db other) (hwf : WellFormed db)
    (hposted : JournalPosted ctx db request out header written mid)
    (hkey : request.idempotencyKey ≠ other.idempotencyKey)
    (hid : request.referenceId ≠ other.referenceId)
    (hnumber : request.referenceNumber ≠ other.referenceNumber) : Unposted out.db other := by
  obtain ⟨-, hheaderId, hheaderNumber, hheaderKey⟩ := hposted.header_fields
  constructor
  case key =>
    refine checkIdempotencyKey_of_open fun id row hopen hsame => ?_
    rcases (hposted.openRow_iff hwf).mp hopen with ⟨-, rfl⟩ | hold
    · exact hkey (hheaderKey.symm.trans hsame)
    · exact checkIdempotencyKey_eq_none_iff.mp h.key id row hold.get hold.live hold.posted hsame
  case document =>
    rintro id row hactive ⟨htype, hsame⟩
    rcases (hposted.activeRow_iff hwf).mp hactive with ⟨-, rfl⟩ | hold
    · rcases hsame with hsame | ⟨-, hsame⟩
      · exact hid (hheaderId.trans (matchesId_iff.mp hsame).2.symm)
      · exact hnumber (hheaderNumber.symm.trans (matchesNumber_iff.mp hsame).2)
    · exact h.document id row hold ⟨htype, hsame⟩

/-! ## Codes -/

theorem LedgerDb.codeOf_eq_some {db : LedgerDb} {a : AccountId} {code : String} :
    db.codeOf a = some code ↔ ∃ row, db.accounts.get? a = some row ∧ row.accountCode = code := by
  unfold LedgerDb.codeOf
  rw [Option.map_eq_some_iff]

theorem SameAccounts.codeOf {db db' : LedgerDb} (h : SameAccounts db db') (a : AccountId) :
    db'.codeOf a = db.codeOf a := by
  unfold LedgerDb.codeOf
  rcases h a with ⟨hnone', hnone⟩ | ⟨row, balance, hrow, hrow'⟩
  · rw [hnone', hnone]
  · rw [hrow', hrow]
    rfl

/-- What a posting adds to an account with a code. -/
theorem JournalPosted.balance_codeOf {ctx : PostingContext} {db : LedgerDb}
    {request : JournalEntryRequest} {out : PostingOutcome} {header : TransactionRow}
    {written : List LedgerEntry} {mid : LedgerDb} (hwf : WellFormed db)
    (h : JournalPosted ctx db request out header written mid) (p : TransactionRow → Bool)
    {a : AccountId} {code : String} (hcode : db.codeOf a = some code) (normal : NormalBalance) :
    balanceWhere out.db p a normal = balanceWhere db p a normal +
      if p header then linesChange normal code request.lines else 0 := by
  obtain ⟨row, hrow, rfl⟩ := LedgerDb.codeOf_eq_some.mp hcode
  exact h.balanceWhere_eq hwf p hrow normal

/-! ## Entries of an account -/

/-- How many entries an account has. -/
def entryCount (db : LedgerDb) (a : AccountId) : ℕ :=
  db.entries.countP fun e => e.accountId = a

/-- As many entries on an account as lines that name it. -/
theorem countP_entered {db : LedgerDb} {id : TransactionId} {lines : List JournalLine}
    {written : List LedgerEntry} {a : AccountId} {row : AccountRow}
    (hrow : db.accounts.get? a = some row) (h : List.Forall₂ (Entered db id) lines written) :
    (written.countP fun e => e.accountId = a) = (linesOn row.accountCode lines).length := by
  unfold linesOn
  induction h with
  | nil => rfl
  | cons hentry _ ih =>
    rw [List.countP_cons, ih, List.filter_cons]
    simp only [hentry.accountId_eq_iff hrow, decide_eq_true_eq]
    split
    · rfl
    · rfl

/-- A posting adds an entry for each of its lines on the account. -/
theorem JournalPosted.entryCount_eq {ctx : PostingContext} {db : LedgerDb}
    {request : JournalEntryRequest} {out : PostingOutcome} {header : TransactionRow}
    {written : List LedgerEntry} {mid : LedgerDb}
    (h : JournalPosted ctx db request out header written mid) {a : AccountId} {code : String}
    (hcode : db.codeOf a = some code) :
    entryCount out.db a = entryCount db a + (linesOn code request.lines).length := by
  obtain ⟨row, hrow, rfl⟩ := LedgerDb.codeOf_eq_some.mp hcode
  unfold entryCount
  rw [h.entries_eq, List.countP_append, countP_entered hrow h.lines.entered]

/-! ## Moving an amount -/

/-- What moving an amount to `debit` from `credit` adds on the debit side of a code. -/
def moved (debit credit : String) (amount : Amount) (code : String) : Amount :=
  (if code = debit then amount else 0) - (if code = credit then amount else 0)

/-- By way of a third account. -/
theorem moved_add_moved (debit through credit : String) (amount : Amount) (code : String) :
    moved debit through amount code + moved through credit amount code =
      moved debit credit amount code := by
  unfold moved
  rw [sub_add_sub_cancel]

theorem linesChange_pair {debit credit : JournalLine} (hdebit : debit.creditAmount = 0)
    (hcredit : credit.debitAmount = 0) (hsame : credit.creditAmount = debit.debitAmount)
    (code : String) : linesChange .DEBIT code [debit, credit] =
      moved debit.accountCode credit.accountCode (.ofRat debit.debitAmount) code := by
  simp only [linesChange_cons, linesChange_nil, JournalLine.storedChange, hdebit, hcredit, hsame,
    Numeric.ofRat_zero, sub_zero, zero_sub, add_zero, moved, eq_comm (a := code)]
  rw [sub_eq_add_neg]
  congr 1
  split
  · rfl
  · exact neg_zero.symm

end SmartErpPos.Ledger
