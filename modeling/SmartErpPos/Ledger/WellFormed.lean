/-
  Ledger/WellFormed.lean --- what holds of the ledger after every call.

  A transaction is posted and linked to nothing, or reversed and linked to its
  reversal; entries belong to transactions and accounts that exist; numbers and
  keys are unique.  On such a ledger a posting adds one net-active transaction,
  and a reversal takes one away: its own transaction never counts.
-/
import SmartErpPos.Ledger.Effects
import SmartErpPos.Lib.Transition

set_option autoImplicit false

namespace SmartErpPos.Ledger

open SmartErpPos.Lib

/-! ## Calls -/

/-- A call of one of the two services. -/
inductive LedgerCall where
  | create (ctx : PostingContext) (request : JournalEntryRequest)
  | reverse (ctx : PostingContext) (request : ReversalRequest)

def LedgerCall.run (db : LedgerDb) : LedgerCall → Except LedgerError PostingOutcome
  | .create ctx request => createJournalEntry ctx db request
  | .reverse ctx request => reverseTransaction ctx db request

/-- A successful call. -/
def CallStep (db : LedgerDb) (call : LedgerCall) (db' : LedgerDb) : Prop :=
  (call.run db).map (·.db) = .ok db'

/-- The call finds no earlier posting, so it writes. -/
def LedgerCall.Writes (db : LedgerDb) : LedgerCall → Prop
  | .create ctx request => checkIdempotencyKey db request.idempotencyKey = none ∧
      existingByReference ctx db request = none
  | .reverse _ request => checkIdempotencyKey db request.idempotencyKey = none

/-- A ledger without transactions, whose accounts are at zero. -/
structure EmptyLedger (db : LedgerDb) : Prop where
  transactions : db.transactions = OrderedMap.empty
  entries : db.entries = []
  balances : ∀ a row, db.accounts.get? a = some row → row.currentBalance = 0
  periodBalances : db.periodBalances = OrderedMap.empty
  events : db.events = OrderedMap.empty

/-! ## The invariant -/

/-- A posted row is not reversed, and a row that is not reversed is not linked.  A parked row
may be either. -/
structure TransactionRow.Settled (row : TransactionRow) : Prop where
  notReversed : row.status = .POSTED → row.isReversed = false
  unlinked : row.isReversed = false → row.reversedByTransactionId = none

structure WellFormed (db : LedgerDb) : Prop where
  idsBelow : IdsBelow db
  linksBelow : ∀ id row j, db.transactions.get? id = some row →
    row.reversedByTransactionId = some j → j < db.nextId
  settled : ∀ id row, db.transactions.get? id = some row → row.Settled
  entryTransaction : ∀ e ∈ db.entries, ∃ row, db.transactions.get? e.transactionId = some row
  entryAccount : ∀ e ∈ db.entries, ∃ row, db.accounts.get? e.accountId = some row
  numberUnique : db.transactions.UniqueBy (·.transactionNumber)
  keyUnique : db.transactions.UniqueBy (·.idempotencyKey)

/-- The invariant is about transactions, entries and accounts. -/
theorem WellFormed.congr {db db' : LedgerDb} (hwf : WellFormed db)
    (htransactions : db'.transactions = db.transactions) (hentries : db'.entries = db.entries)
    (haccounts : db'.accounts = db.accounts) (hnextId : db'.nextId = db.nextId) :
    WellFormed db' where
  idsBelow := by
    unfold IdsBelow
    rw [htransactions, hnextId]
    exact hwf.idsBelow
  linksBelow := by
    rw [htransactions, hnextId]
    exact hwf.linksBelow
  settled := by
    rw [htransactions]
    exact hwf.settled
  entryTransaction := by
    rw [htransactions, hentries]
    exact hwf.entryTransaction
  entryAccount := by
    rw [haccounts, hentries]
    exact hwf.entryAccount
  numberUnique := by
    rw [htransactions]
    exact hwf.numberUnique
  keyUnique := by
    rw [htransactions]
    exact hwf.keyUnique

theorem EmptyLedger.wellFormed {db : LedgerDb} (h : EmptyLedger db) : WellFormed db := by
  have hnone : ∀ id row, db.transactions.get? id ≠ some row := by
    intro id row hget
    rw [h.transactions] at hget
    cases hget
  have hentries : ∀ e, e ∉ db.entries := by
    intro e he
    rw [h.entries] at he
    cases he
  exact
    { idsBelow := fun id row hget => absurd hget (hnone id row)
      linksBelow := fun id row _ hget => absurd hget (hnone id row)
      settled := fun id row hget => absurd hget (hnone id row)
      entryTransaction := fun e he => absurd he (hentries e)
      entryAccount := fun e he => absurd he (hentries e)
      numberUnique := fun id _ row _ hget => absurd hget (hnone id row)
      keyUnique := fun id _ row _ hget => absurd hget (hnone id row) }

/-! ## Activity -/

theorem mem_reversingIds {db : LedgerDb} {j : TransactionId} :
    j ∈ reversingIds db ↔
      ∃ id row, db.transactions.get? id = some row ∧ row.reversedByTransactionId = some j := by
  unfold reversingIds
  simp only [List.mem_filterMap, Prod.exists, ← OrderedMap.get?_eq_some_iff]

variable {id : TransactionId} {row : TransactionRow} {call : LedgerCall}

theorem isNetActive_iff {db : LedgerDb} :
    isNetActive db id row = true ↔
      row.status = .POSTED ∧ row.isReversed = false ∧ id ∉ reversingIds db := by
  simp [isNetActive, and_assoc]

theorem isActiveId_iff {db : LedgerDb} :
    isActiveId db id = true ↔ ∃ row, db.transactions.get? id = some row ∧
      isNetActive db id row = true := by
  simp [isActiveId, transactionIs, Option.any_eq_true]

theorem isPostedId_iff {db : LedgerDb} :
    isPostedId db id = true ↔ ∃ row, db.transactions.get? id = some row ∧ row.status = .POSTED := by
  simp [isPostedId, transactionIs, Option.any_eq_true]

theorem WellFormed.nextId_notMem_reversingIds {db : LedgerDb} (hwf : WellFormed db) :
    db.nextId ∉ reversingIds db := by
  intro hmem
  obtain ⟨id, row, hget, hlink⟩ := mem_reversingIds.mp hmem
  exact lt_irrefl _ (hwf.linksBelow id row _ hget hlink)

theorem WellFormed.link_of_posted {db : LedgerDb} (hwf : WellFormed db)
    (hget : db.transactions.get? id = some row) (hposted : row.status = .POSTED) :
    row.isReversed = false ∧ row.reversedByTransactionId = none := by
  have hsettled := hwf.settled id row hget
  have hlive := hsettled.notReversed hposted
  exact ⟨hlive, hsettled.unlinked hlive⟩

/-- A transaction that is not linked stays out of the list of reversals. -/
theorem mem_reversingIds_set {db db' : LedgerDb}
    (htx : db'.transactions = db.transactions.set id row)
    (hold : ∀ old, db.transactions.get? id = some old → old.reversedByTransactionId = none)
    {j : TransactionId} :
    j ∈ reversingIds db' ↔ j ∈ reversingIds db ∨ row.reversedByTransactionId = some j := by
  simp only [mem_reversingIds, htx, OrderedMap.get?_set]
  constructor
  · rintro ⟨k, r, hget, hlink⟩
    split at hget
    · cases hget
      exact .inr hlink
    · exact .inl ⟨k, r, hget, hlink⟩
  · rintro (⟨k, r, hget, hlink⟩ | hlink)
    · rcases eq_or_ne k id with rfl | hk
      · rw [hold r hget] at hlink
        cases hlink
      · exact ⟨k, r, by rw [if_neg hk]; exact hget, hlink⟩
    · exact ⟨id, row, by rw [if_pos rfl], hlink⟩

/-- The transactions after a posting. -/
structure HeaderAdded (db db' : LedgerDb) (header : TransactionRow) : Prop where
  transactions : db'.transactions = db.transactions.set db.nextId header
  posted : header.status = .POSTED
  notReversed : header.isReversed = false
  unlinked : header.reversedByTransactionId = none

section HeaderAdded

variable {db db' : LedgerDb} {header : TransactionRow} (hwf : WellFormed db)
  (h : HeaderAdded db db' header)

include hwf h

theorem HeaderAdded.mem_reversingIds {j : TransactionId} :
    j ∈ reversingIds db' ↔ j ∈ reversingIds db := by
  rw [mem_reversingIds_set h.transactions (by
    intro old hold
    rw [hwf.idsBelow.get?_nextId] at hold
    cases hold), h.unlinked]
  simp

/-- A posting adds one net-active transaction. -/
theorem HeaderAdded.isActiveId (t : TransactionId) :
    isActiveId db' t = if t = db.nextId then true else isActiveId db t := by
  rw [Bool.eq_iff_iff]
  rcases eq_or_ne t db.nextId with rfl | ht
  · simp only [isActiveId_iff, h.transactions, OrderedMap.get?_set_self, if_pos, iff_true]
    refine ⟨header, rfl, isNetActive_iff.mpr ⟨h.posted, h.notReversed, ?_⟩⟩
    rw [h.mem_reversingIds hwf]
    exact hwf.nextId_notMem_reversingIds
  · simp only [isActiveId_iff, h.transactions, OrderedMap.get?_set_of_ne ht, if_neg ht,
      isNetActive_iff, h.mem_reversingIds hwf]

end HeaderAdded

/-- The rows after a posting: the new one and the old ones. -/
theorem HeaderAdded.get?_cases {db db' : LedgerDb} {header : TransactionRow}
    (h : HeaderAdded db db' header) (hget : db'.transactions.get? id = some row) :
    (id = db.nextId ∧ row = header) ∨ db.transactions.get? id = some row := by
  rw [h.transactions, OrderedMap.get?_set] at hget
  split at hget
  · rename_i hid
    cases hget
    exact .inl ⟨hid, rfl⟩
  · exact .inr hget

theorem HeaderAdded.isPostedId {db db' : LedgerDb} {header : TransactionRow}
    (h : HeaderAdded db db' header) (t : TransactionId) :
    isPostedId db' t = if t = db.nextId then true else isPostedId db t := by
  rw [Bool.eq_iff_iff]
  rcases eq_or_ne t db.nextId with rfl | ht
  · simp [isPostedId_iff, h.transactions, h.posted]
  · simp [isPostedId_iff, h.transactions, OrderedMap.get?_set_of_ne ht, ht]

/-- The transactions after a reversal. -/
structure OriginalReversed (db db' : LedgerDb) (header original : TransactionRow)
    (originalId : TransactionId) : Prop where
  transactions : db'.transactions = (db.transactions.set db.nextId header).set originalId
    (original.reversedBy db.nextId)
  original_get : db.transactions.get? originalId = some original
  original_posted : original.status = .POSTED
  posted : header.status = .POSTED
  notReversed : header.isReversed = false
  unlinked : header.reversedByTransactionId = none

namespace OriginalReversed

variable {db db' : LedgerDb} {header original : TransactionRow} {originalId : TransactionId}

theorem get?_original (h : OriginalReversed db db' header original originalId) :
    db'.transactions.get? originalId = some (original.reversedBy db.nextId) := by
  rw [h.transactions, OrderedMap.get?_set_self]

theorem get?_nextId (hwf : WellFormed db) (h : OriginalReversed db db' header original originalId) :
    db'.transactions.get? db.nextId = some header := by
  have hne : db.nextId ≠ originalId := (hwf.idsBelow _ _ h.original_get).ne'
  rw [h.transactions, OrderedMap.get?_set_of_ne hne, OrderedMap.get?_set_self]

theorem get?_other (h : OriginalReversed db db' header original originalId) {t : TransactionId}
    (hnew : t ≠ db.nextId) (hold : t ≠ originalId) :
    db'.transactions.get? t = db.transactions.get? t := by
  rw [h.transactions, OrderedMap.get?_set_of_ne hold, OrderedMap.get?_set_of_ne hnew]

/-- The rows after a reversal: the marked original, the new one and the others. -/
theorem get?_cases (hwf : WellFormed db)
    (h : OriginalReversed db db' header original originalId) {id : TransactionId}
    {row : TransactionRow} (hget : db'.transactions.get? id = some row) :
    (id = originalId ∧ row = original.reversedBy db.nextId) ∨ (id = db.nextId ∧ row = header) ∨
      (id ≠ originalId ∧ db.transactions.get? id = some row) := by
  rcases eq_or_ne id originalId with rfl | hold
  · rw [h.get?_original] at hget
    exact .inl ⟨rfl, (Option.some.inj hget).symm⟩
  · rcases eq_or_ne id db.nextId with rfl | hnew
    · rw [h.get?_nextId hwf] at hget
      exact .inr (.inl ⟨rfl, (Option.some.inj hget).symm⟩)
    · rw [h.get?_other hnew hold] at hget
      exact .inr (.inr ⟨hold, hget⟩)

theorem mem_reversingIds (hwf : WellFormed db)
    (h : OriginalReversed db db' header original originalId) {j : TransactionId} :
    j ∈ reversingIds db' ↔ j ∈ reversingIds db ∨ j = db.nextId := by
  have hne : originalId ≠ db.nextId := (hwf.idsBelow _ _ h.original_get).ne
  have hadded : HeaderAdded db (withHeader db db.nextId header) header :=
    ⟨rfl, h.posted, h.notReversed, h.unlinked⟩
  have hset : db'.transactions = (withHeader db db.nextId header).transactions.set originalId
      (original.reversedBy db.nextId) := h.transactions
  rw [mem_reversingIds_set hset, hadded.mem_reversingIds hwf]
  · simp [TransactionRow.reversedBy, eq_comm]
  · intro old hold
    have hold : (db.transactions.set db.nextId header).get? originalId = some old := hold
    rw [OrderedMap.get?_set_of_ne hne, h.original_get] at hold
    cases hold
    exact (hwf.link_of_posted h.original_get h.original_posted).2

/-- A reversal takes its original out of the net-active transactions and stays out
itself. -/
theorem isActiveId (hwf : WellFormed db) (h : OriginalReversed db db' header original originalId)
    (t : TransactionId) :
    isActiveId db' t = if t = db.nextId ∨ t = originalId then false else isActiveId db t := by
  rw [Bool.eq_iff_iff]
  simp only [isActiveId_iff, isNetActive_iff, h.mem_reversingIds hwf]
  rcases eq_or_ne t originalId with rfl | hold
  · simp only [h.get?_original, or_true, if_pos, Bool.false_eq_true, iff_false]
    rintro ⟨row, hrow, hposted, -⟩
    cases hrow
    cases hposted
  · rcases eq_or_ne t db.nextId with rfl | hnew
    · simp
    · simp only [h.get?_other hnew hold, hnew, hold, or_self, or_false, if_false, isActiveId_iff,
        isNetActive_iff]

theorem isPostedId (hwf : WellFormed db) (h : OriginalReversed db db' header original originalId)
    (t : TransactionId) :
    isPostedId db' t =
      if t = db.nextId then true else if t = originalId then false else isPostedId db t := by
  rw [Bool.eq_iff_iff]
  simp only [isPostedId_iff]
  rcases eq_or_ne t db.nextId with rfl | hnew
  · simp [h.get?_nextId hwf, h.posted]
  · rcases eq_or_ne t originalId with rfl | hold
    · simp [h.get?_original, hnew, TransactionRow.reversedBy]
    · simp [h.get?_other hnew hold, hnew, hold, isPostedId_iff]

end OriginalReversed

/-! ## Every call keeps the ledger well formed -/

theorem JournalPosted.headerAdded {ctx : PostingContext} {db : LedgerDb}
    {request : JournalEntryRequest} {out : PostingOutcome} {header : TransactionRow}
    {written : List LedgerEntry} {mid : LedgerDb}
    (h : JournalPosted ctx db request out header written mid) :
    HeaderAdded db out.db header where
  transactions := by
    rw [h.db_eq, finishPosting_transactions, h.lines.transactions]
    rfl
  posted := by
    rw [h.header_eq]
    rfl
  notReversed := by
    rw [h.header_eq]
    rfl
  unlinked := by
    rw [h.header_eq]
    rfl

theorem ReversalPosted.originalReversed {ctx : PostingContext} {db : LedgerDb}
    {request : ReversalRequest} {out : PostingOutcome} {original header : TransactionRow}
    {written : List LedgerEntry} {mid : LedgerDb}
    (h : ReversalPosted ctx db request out original header written mid) :
    OriginalReversed db out.db header original request.originalTransactionId where
  transactions := by
    rw [h.db_eq, finishPosting_transactions]
    show mid.transactions.set _ _ = _
    rw [h.lines.transactions]
    rfl
  original_get := h.original_get
  original_posted := h.original_posted
  posted := by
    rw [h.header_eq]
    rfl
  notReversed := by
    rw [h.header_eq]
    rfl
  unlinked := by
    rw [h.header_eq]
    rfl

theorem LinesWritten.of_mem {before after : LedgerDb} {lines : List JournalLine}
    {written : List LedgerEntry} (h : LinesWritten id before after lines written) {e : LedgerEntry}
    (he : e ∈ written) :
    e.transactionId = id ∧ ∃ row, before.accounts.get? e.accountId = some row := by
  obtain ⟨line, -, hentry, row, hrow, -⟩ := exists_left_of_mem h.entered he
  exact ⟨hentry.transactionId, row, hrow⟩

namespace JournalPosted

variable {ctx : PostingContext} {db : LedgerDb} {request : JournalEntryRequest}
  {out : PostingOutcome} {header : TransactionRow} {written : List LedgerEntry} {mid : LedgerDb}

theorem entries_eq (h : JournalPosted ctx db request out header written mid) :
    out.db.entries = db.entries ++ written := by
  rw [h.db_eq, finishPosting_entries]
  exact h.lines.entries

theorem nextId_eq (h : JournalPosted ctx db request out header written mid) :
    out.db.nextId = db.nextId + 1 := by
  rw [h.db_eq, finishPosting_nextId, h.lines.nextId]
  exact Nat.max_eq_right (Nat.le_succ _)

theorem accounts_get? (h : JournalPosted ctx db request out header written mid) (a : AccountId) :
    out.db.accounts.get? a = (db.accounts.get? a).map fun row =>
      (row.afterLines request.lines).rebased mid (checkedCodes request.lines) a := by
  rw [h.db_eq, finishPosting_accounts_get?, h.lines.accounts, Option.map_map]
  rfl

theorem wellFormed (hwf : WellFormed db)
    (h : JournalPosted ctx db request out header written mid) : WellFormed out.db := by
  have hadded := h.headerAdded
  have hrows : ∀ id row, out.db.transactions.get? id = some row →
      (id = db.nextId ∧ row = header) ∨ db.transactions.get? id = some row := fun _ _ =>
    hadded.get?_cases
  refine
    { idsBelow := ?_
      linksBelow := ?_
      settled := ?_
      entryTransaction := ?_
      entryAccount := ?_
      numberUnique := ?_
      keyUnique := ?_ }
  · intro id row hget
    rw [h.nextId_eq]
    rcases hrows id row hget with ⟨rfl, -⟩ | hold
    · exact Nat.lt_succ_self _
    · exact Nat.lt_succ_of_lt (hwf.idsBelow id row hold)
  · intro id row j hget hlink
    rw [h.nextId_eq]
    rcases hrows id row hget with ⟨-, rfl⟩ | hold
    · rw [hadded.unlinked] at hlink
      cases hlink
    · exact Nat.lt_succ_of_lt (hwf.linksBelow id row j hold hlink)
  · intro id row hget
    rcases hrows id row hget with ⟨-, rfl⟩ | hold
    · exact ⟨fun _ => hadded.notReversed, fun _ => hadded.unlinked⟩
    · exact hwf.settled id row hold
  · intro e he
    rw [hadded.transactions]
    rw [h.entries_eq] at he
    rcases List.mem_append.mp he with he | he
    · obtain ⟨row, hrow⟩ := hwf.entryTransaction e he
      refine ⟨row, ?_⟩
      rw [OrderedMap.get?_set_of_ne (hwf.idsBelow _ _ hrow).ne, hrow]
    · exact ⟨header, by rw [(h.lines.of_mem he).1, OrderedMap.get?_set_self]⟩
  · intro e he
    rw [h.entries_eq] at he
    have hold : ∃ row, db.accounts.get? e.accountId = some row := by
      rcases List.mem_append.mp he with he | he
      · exact hwf.entryAccount e he
      · exact (h.lines.of_mem he).2
    obtain ⟨row, hrow⟩ := hold
    exact ⟨_, by rw [h.accounts_get?, hrow]; rfl⟩
  · rw [hadded.transactions]
    exact hwf.numberUnique.set fun e he _ => h.insertable.number e he
  · rw [hadded.transactions]
    exact hwf.keyUnique.set fun e he _ => h.insertable.key e he

end JournalPosted

namespace ReversalPosted

variable {ctx : PostingContext} {db : LedgerDb} {request : ReversalRequest} {out : PostingOutcome}
  {original header : TransactionRow} {written : List LedgerEntry} {mid : LedgerDb}

theorem entries_eq (h : ReversalPosted ctx db request out original header written mid) :
    out.db.entries = db.entries ++ written := by
  rw [h.db_eq, finishPosting_entries]
  exact h.lines.entries

theorem nextId_eq (h : ReversalPosted ctx db request out original header written mid) :
    out.db.nextId = db.nextId + 1 := by
  rw [h.db_eq, finishPosting_nextId]
  show mid.nextId = _
  rw [h.lines.nextId]
  exact Nat.max_eq_right (Nat.le_succ _)

theorem accounts_get? (h : ReversalPosted ctx db request out original header written mid)
    (a : AccountId) :
    out.db.accounts.get? a = (db.accounts.get? a).map fun row =>
      (row.afterLines (reversedLines db request.originalTransactionId)).rebased
        (withReversed mid request.originalTransactionId original db.nextId)
        (checkedCodes (reversedLines db request.originalTransactionId)) a := by
  rw [h.db_eq, finishPosting_accounts_get?]
  show (mid.accounts.get? a).map _ = _
  rw [h.lines.accounts, Option.map_map]
  rfl

theorem wellFormed (hwf : WellFormed db)
    (h : ReversalPosted ctx db request out original header written mid) : WellFormed out.db := by
  have hrev := h.originalReversed
  have hne : db.nextId ≠ request.originalTransactionId := h.original_lt.ne'
  have hrows : ∀ id row, out.db.transactions.get? id = some row →
      (id = request.originalTransactionId ∧ row = original.reversedBy db.nextId) ∨
        (id = db.nextId ∧ row = header) ∨ (id ≠ request.originalTransactionId ∧
          db.transactions.get? id = some row) := fun _ _ => hrev.get?_cases hwf
  have hmid : mid.transactions = db.transactions.set db.nextId header := h.lines.transactions
  have hmidOriginal : mid.transactions.get? request.originalTransactionId = some original := by
    rw [hmid, OrderedMap.get?_set_of_ne hne.symm, h.original_get]
  refine
    { idsBelow := ?_
      linksBelow := ?_
      settled := ?_
      entryTransaction := ?_
      entryAccount := ?_
      numberUnique := ?_
      keyUnique := ?_ }
  · intro id row hget
    rw [h.nextId_eq]
    rcases hrows id row hget with ⟨rfl, -⟩ | ⟨rfl, -⟩ | ⟨-, hold⟩
    · exact Nat.lt_succ_of_lt h.original_lt
    · exact Nat.lt_succ_self _
    · exact Nat.lt_succ_of_lt (hwf.idsBelow id row hold)
  · intro id row j hget hlink
    rw [h.nextId_eq]
    rcases hrows id row hget with ⟨-, rfl⟩ | ⟨-, rfl⟩ | ⟨-, hold⟩
    · cases hlink
      exact Nat.lt_succ_self _
    · rw [hrev.unlinked] at hlink
      cases hlink
    · exact Nat.lt_succ_of_lt (hwf.linksBelow id row j hold hlink)
  · intro id row hget
    rcases hrows id row hget with ⟨-, rfl⟩ | ⟨-, rfl⟩ | ⟨-, hold⟩
    · exact ⟨fun h => (nomatch h), fun h => (nomatch h)⟩
    · exact ⟨fun _ => hrev.notReversed, fun _ => hrev.unlinked⟩
    · exact hwf.settled id row hold
  · intro e he
    rw [h.entries_eq] at he
    rcases List.mem_append.mp he with he | he
    · obtain ⟨row, hrow⟩ := hwf.entryTransaction e he
      rcases eq_or_ne e.transactionId request.originalTransactionId with heq | hold
      · exact ⟨_, by rw [heq]; exact hrev.get?_original⟩
      · exact ⟨row, by rw [hrev.get?_other (hwf.idsBelow _ _ hrow).ne hold, hrow]⟩
    · exact ⟨header, by rw [(h.lines.of_mem he).1, hrev.get?_nextId hwf]⟩
  · intro e he
    rw [h.entries_eq] at he
    have hold : ∃ row, db.accounts.get? e.accountId = some row := by
      rcases List.mem_append.mp he with he | he
      · exact hwf.entryAccount e he
      · exact (h.lines.of_mem he).2
    obtain ⟨row, hrow⟩ := hold
    exact ⟨_, by rw [h.accounts_get?, hrow]; rfl⟩
  · rw [hrev.transactions, ← hmid]
    have hunique : mid.transactions.UniqueBy (·.transactionNumber) := by
      rw [hmid]
      exact hwf.numberUnique.set fun e he _ => h.insertable.number e he
    have hfree := hunique.free hmidOriginal
    exact hunique.set hfree
  · rw [hrev.transactions, ← hmid]
    have hunique : mid.transactions.UniqueBy (·.idempotencyKey) := by
      rw [hmid]
      exact hwf.keyUnique.set fun e he _ => h.insertable.key e he
    exact hunique.set h.releasedKey_free

end ReversalPosted

/-! ## Runs -/

/-- What a successful call does, in one of three ways. -/
inductive CallEffect (db : LedgerDb) : LedgerCall → PostingOutcome → Prop
  /-- It returns an earlier posting. -/
  | found {call : LedgerCall} {out : PostingOutcome} (hdb : out.db = db)
      (hjobs : out.pendingRebuildJobs = []) (hfound : ¬ call.Writes db) : CallEffect db call out
  /-- It posts. -/
  | posted {ctx : PostingContext} {request : JournalEntryRequest} {out : PostingOutcome}
      {header : TransactionRow} {written : List LedgerEntry} {mid : LedgerDb}
      (hwrites : (LedgerCall.create ctx request).Writes db)
      (h : JournalPosted ctx db request out header written mid) :
      CallEffect db (.create ctx request) out
  /-- It reverses. -/
  | reversed {ctx : PostingContext} {request : ReversalRequest} {out : PostingOutcome}
      {original header : TransactionRow} {written : List LedgerEntry} {mid : LedgerDb}
      (hwrites : (LedgerCall.reverse ctx request).Writes db)
      (h : ReversalPosted ctx db request out original header written mid) :
      CallEffect db (.reverse ctx request) out

theorem LedgerCall.effect {db : LedgerDb} (hids : IdsBelow db) (call : LedgerCall)
    {out : PostingOutcome} (h : call.run db = .ok out) : CallEffect db call out := by
  cases call with
  | create ctx request =>
    rcases createJournalEntry_cases h with ⟨hdb, hjobs, hfound⟩ | ⟨hkey, href, hpost⟩
    · refine .found hdb hjobs ?_
      rintro ⟨hkey, href⟩
      rcases hfound with hfound | ⟨-, hfound⟩
      · obtain ⟨id, hid, -⟩ := existingByKey_some hfound
        rw [hkey] at hid
        cases hid
      · rw [href] at hfound
        cases hfound
    · obtain ⟨header, written, mid, hposted⟩ := postJournal_cases hpost
      exact .posted ⟨hkey, href⟩ hposted
  | reverse ctx request =>
    rcases reverseTransaction_cases hids h with ⟨hdb, hjobs, hfound⟩ | ⟨hkey, hreversed⟩
    · refine .found hdb hjobs fun hkey => ?_
      obtain ⟨id, hid, -⟩ := existingByKey_some hfound
      have hkey : checkIdempotencyKey db request.idempotencyKey = none := hkey
      rw [hkey] at hid
      cases hid
    · obtain ⟨original, header, written, mid, hposted⟩ := hreversed
      exact .reversed hkey hposted

/-- A posting that finds no earlier one posts. -/
theorem createJournalEntry_posted {ctx : PostingContext} {db : LedgerDb}
    {request : JournalEntryRequest} {out : PostingOutcome}
    (hwrites : (LedgerCall.create ctx request).Writes db)
    (h : createJournalEntry ctx db request = .ok out) :
    ∃ header written mid, JournalPosted ctx db request out header written mid := by
  rcases createJournalEntry_cases h with ⟨-, -, hkey | ⟨-, href⟩⟩ | ⟨-, -, hpost⟩
  · obtain ⟨id, hid, -⟩ := existingByKey_some hkey
    rw [hwrites.1] at hid
    cases hid
  · rw [hwrites.2] at href
    cases href
  · exact postJournal_cases hpost

/-- A reversal that finds no earlier one reverses. -/
theorem reverseTransaction_posted {ctx : PostingContext} {db : LedgerDb}
    {request : ReversalRequest} {out : PostingOutcome} (hids : IdsBelow db)
    (hwrites : (LedgerCall.reverse ctx request).Writes db)
    (h : reverseTransaction ctx db request = .ok out) :
    ∃ original header written mid, ReversalPosted ctx db request out original header written mid := by
  rcases reverseTransaction_cases hids h with ⟨-, -, hkey⟩ | ⟨-, hposted⟩
  · obtain ⟨id, hid, -⟩ := existingByKey_some hkey
    have hnone : checkIdempotencyKey db request.idempotencyKey = none := hwrites
    rw [hnone] at hid
    cases hid
  · exact hposted

/-- A key is free when no posted row holds it. -/
theorem checkIdempotencyKey_eq_none_iff {db : LedgerDb} {key : String} :
    checkIdempotencyKey db key = none ↔ ∀ id row, db.transactions.get? id = some row →
      row.isReversed = false → row.status = .POSTED → row.idempotencyKey ≠ key := by
  unfold checkIdempotencyKey
  rw [Option.map_eq_none_iff, List.find?_eq_none]
  constructor
  · intro h id row hrow hlive hposted hkey
    have hnot := h (id, row) (OrderedMap.get?_eq_some_iff.mp hrow)
    simp [hlive, hposted, hkey] at hnot
  · rintro h ⟨id, row⟩ hmem htrue
    simp only [Bool.and_eq_true, decide_eq_true_eq, Bool.not_eq_true'] at htrue
    exact h id row (OrderedMap.get?_eq_some_iff.mpr hmem) htrue.1.2 htrue.2 htrue.1.1

/-- Every successful call keeps the ledger well formed. -/
theorem CallEffect.wellFormed {db : LedgerDb} (hwf : WellFormed db) {out : PostingOutcome}
    (h : CallEffect db call out) : WellFormed out.db := by
  cases h with
  | found hdb _ _ => exact hdb ▸ hwf
  | posted _ h => exact h.wellFormed hwf
  | reversed _ h => exact h.wellFormed hwf

theorem CallStep.effect {db db' : LedgerDb} (hwf : WellFormed db) (h : CallStep db call db') :
    ∃ out, out.db = db' ∧ CallEffect db call out := by
  obtain ⟨out, hout, rfl⟩ := map_eq_ok h
  exact ⟨out, rfl, LedgerCall.effect hwf.idsBelow _ hout⟩

theorem CallStep.wellFormed {db db' : LedgerDb} (hwf : WellFormed db) (h : CallStep db call db') :
    WellFormed db' := by
  obtain ⟨out, rfl, heffect⟩ := h.effect hwf
  exact heffect.wellFormed hwf

/-! ## Books with two accounts -/

def rentAccount : AccountRow :=
  ⟨"6100", "Rent", .DEBIT, true, true, [], none, 0⟩

def loanAccount : AccountRow :=
  ⟨"2500", "Loan", .CREDIT, true, true, [], none, 0⟩

/-- No transactions, and no periods: every date is open. -/
def books : LedgerDb where
  accounts := (OrderedMap.empty.set 1 rentAccount).set 2 loanAccount
  transactions := OrderedMap.empty
  entries := []
  periods := OrderedMap.empty
  periodBalances := OrderedMap.empty
  events := OrderedMap.empty
  nextId := 10
  codes_nodup := by decide

theorem books_empty : EmptyLedger books where
  transactions := rfl
  entries := rfl
  balances := by
    intro a row hrow
    have hmem := OrderedMap.get?_eq_some_iff.mp hrow
    have hall : ∀ e ∈ books.accounts.entries, e.2.currentBalance = 0 := by decide
    exact hall (a, row) hmem
  periodBalances := rfl
  events := rfl

def january : IsoDate := ⟨2026, 1, 15, isMonth_one⟩

/-- Rent paid with a loan. -/
def rentJournal (amount : ℚ) (date : IsoDate) (key : String) (document : DocumentId) :
    JournalEntryRequest where
  entryDate := date
  description := "Rent"
  referenceType := "EXPENSE"
  referenceId := some document
  referenceNumber := "EXP-" ++ toString document
  lines := [⟨"6100", "Rent", amount, 0, none, none⟩, ⟨"2500", "Loan", 0, amount, none, none⟩]
  userId := "clerk"
  idempotencyKey := key
  source := none

/-- Taking a transaction back. -/
def takeBack (original : TransactionId) (date : IsoDate) (key : String) : ReversalRequest where
  originalTransactionId := original
  reversalDate := date
  reason := "wrong amount"
  userId := "clerk"
  idempotencyKey := key

/-- A context whose pool sees everything in the ledger. -/
def contextOf (path : PostingPath) (db : LedgerDb) : PostingContext where
  path := path
  pool := db.transactions
  arMode := .enforce
  now := 0

/-- The ledger after a call; a failed call changes nothing. -/
def LedgerCall.after (db : LedgerDb) (call : LedgerCall) : LedgerDb :=
  settled ((call.run db).map (·.db)) db

theorem LedgerCall.step_after {db : LedgerDb} (h : ((call.run db).map (·.db)).toBool = true) :
    CallStep db call (call.after db) :=
  eq_ok_settled h db

/-- A posting of 100. -/
def rentCall : LedgerCall :=
  .create (contextOf .ownTransaction books) (rentJournal 100 january "rent" 7)

def booksWithRent : LedgerDb := rentCall.after books

theorem rentCall_step : CallStep books rentCall booksWithRent :=
  LedgerCall.step_after (by decide +kernel)

end SmartErpPos.Ledger
