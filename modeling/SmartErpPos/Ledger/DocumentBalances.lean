/-
  Ledger/DocumentBalances.lean --- the balances of one kind of journal.

  `balanceWhere p` is a balance over the net-active journals whose header satisfies `p`:
  those of one reference type, or of one document.  A posting adds its lines when its own
  header satisfies `p`; a reversal takes out what its original added.

  A call on its own transaction sees everything in the ledger, so it posts exactly when no
  earlier posting holds its key or its document.
-/
import SmartErpPos.Ledger.ActivePosting

set_option autoImplicit false

namespace SmartErpPos.Ledger

open SmartErpPos.Lib

/-! ## Selections of journals -/

/-- A net-active transaction whose header satisfies `p`. -/
def isActiveWhere (p : TransactionRow → Bool) (db : LedgerDb) (id : TransactionId) : Bool :=
  transactionIs db (fun id row => isNetActive db id row && p row) id

/-- The balance of an account over such transactions. -/
def balanceWhere (db : LedgerDb) (p : TransactionRow → Bool) (a : AccountId)
    (normal : NormalBalance) : Amount :=
  balanceOver db (fun e => isActiveWhere p db e.transactionId) a normal

theorem isActiveWhere_iff {p : TransactionRow → Bool} {db : LedgerDb} {id : TransactionId} :
    isActiveWhere p db id = true ↔ ∃ row, ActiveRow db id row ∧ p row = true := by
  simp only [isActiveWhere, transactionIs, Option.any_eq_true, Bool.and_eq_true, ActiveRow]
  constructor
  · rintro ⟨row, hget, hactive, hp⟩
    exact ⟨row, ⟨hget, hactive⟩, hp⟩
  · rintro ⟨row, ⟨hget, hactive⟩, hp⟩
    exact ⟨row, hget, hactive, hp⟩

/-- A ledger without such transactions. -/
theorem balanceWhere_eq_zero {db : LedgerDb} {p : TransactionRow → Bool}
    (h : ∀ id row, ActiveRow db id row → p row = false) (a : AccountId) (normal : NormalBalance) :
    balanceWhere db p a normal = 0 := by
  refine sumEntries_eq_zero (fun e _ => ?_) _
  have hnone : isActiveWhere p db e.transactionId = false := by
    rw [Bool.eq_false_iff]
    intro hactive
    obtain ⟨row, hrow, hp⟩ := isActiveWhere_iff.mp hactive
    rw [h _ row hrow] at hp
    cases hp
  simp only [hnone, Bool.and_false]

/-! ## Postings -/

namespace JournalPosted

variable {ctx : PostingContext} {db : LedgerDb} {request : JournalEntryRequest}
  {out : PostingOutcome} {header : TransactionRow} {written : List LedgerEntry} {mid : LedgerDb}

theorem isActiveWhere (hwf : WellFormed db)
    (h : JournalPosted ctx db request out header written mid) (p : TransactionRow → Bool)
    (t : TransactionId) : isActiveWhere p out.db t =
      if t = db.nextId then p header else isActiveWhere p db t := by
  rw [Bool.eq_iff_iff]
  simp only [isActiveWhere_iff, h.activeRow_iff hwf]
  rcases eq_or_ne t db.nextId with rfl | hne
  · have hnone : ∀ row, ¬ ActiveRow db db.nextId row := by
      rintro row ⟨hget, -⟩
      rw [hwf.idsBelow.get?_nextId] at hget
      cases hget
    simp [hnone]
  · rw [if_neg hne]
    simp [isActiveWhere_iff, hne]

theorem balanceWhere_eq (hwf : WellFormed db)
    (h : JournalPosted ctx db request out header written mid) (p : TransactionRow → Bool)
    {a : AccountId} {row : AccountRow} (hrow : db.accounts.get? a = some row)
    (normal : NormalBalance) : balanceWhere out.db p a normal = balanceWhere db p a normal +
      if p header then linesChange normal row.accountCode request.lines else 0 :=
  h.balanceOver_after hwf (q := fun db t => Ledger.isActiveWhere p db t)
    (fun t => h.isActiveWhere hwf p t) hrow normal

/-- An account of the ledger after a posting was there before, under the same code. -/
theorem account_before (h : JournalPosted ctx db request out header written mid) {a : AccountId}
    {row : AccountRow} (hrow : out.db.accounts.get? a = some row) :
    ∃ before, db.accounts.get? a = some before ∧ before.accountCode = row.accountCode := by
  rw [h.accounts_get?] at hrow
  obtain ⟨before, hbefore, rfl⟩ := Option.map_eq_some_iff.mp hrow
  refine ⟨before, hbefore, ?_⟩
  unfold AccountRow.rebased AccountRow.afterLines
  dsimp only
  split <;> rfl

/-- What the header of a posting says. -/
theorem header_fields (h : JournalPosted ctx db request out header written mid) :
    header.referenceType = request.referenceType ∧
      request.referenceId = some header.referenceId ∧
      header.referenceNumber = request.referenceNumber ∧
      header.idempotencyKey = request.idempotencyKey := by
  have hid := h.referenceId
  have hheader := h.header_eq
  refine ⟨?_, hid, ?_, ?_⟩
  all_goals
    rw [hheader]
    rfl

end JournalPosted

/-! ## Reversals -/

namespace ReversalPosted

variable {ctx : PostingContext} {db : LedgerDb} {request : ReversalRequest} {out : PostingOutcome}
  {original header : TransactionRow} {written : List LedgerEntry} {mid : LedgerDb}

theorem isActiveWhere (hwf : WellFormed db)
    (h : ReversalPosted ctx db request out original header written mid)
    (p : TransactionRow → Bool) (t : TransactionId) : isActiveWhere p out.db t =
      (decide (t ≠ request.originalTransactionId) && isActiveWhere p db t) := by
  rw [Bool.eq_iff_iff]
  simp only [isActiveWhere_iff, h.activeRow_iff hwf, Bool.and_eq_true, decide_eq_true_eq]
  constructor
  · rintro ⟨row, ⟨hrow, hne⟩, hp⟩
    exact ⟨hne, row, hrow, hp⟩
  · rintro ⟨hne, row, hrow, hp⟩
    exact ⟨row, ⟨hrow, hne⟩, hp⟩

/-- A reversal takes out what its original added. -/
theorem balanceWhere_eq (hwf : WellFormed db)
    (h : ReversalPosted ctx db request out original header written mid)
    (p : TransactionRow → Bool) (a : AccountId) (normal : NormalBalance) :
    balanceWhere out.db p a normal = balanceWhere db p a normal -
      if Ledger.isActiveWhere p db request.originalTransactionId = true then
        amountOf db request.originalTransactionId a normal else 0 := by
  have hactive := h.isActiveWhere hwf p
  refine h.balanceOver_reversed hwf (q := Ledger.isActiveWhere p) ?_ (fun t _ => hactive t) a normal
  rw [hactive, Bool.and_eq_false_iff]
  refine .inr (Bool.eq_false_iff.mpr fun htrue => ?_)
  obtain ⟨row, ⟨hget, -⟩, -⟩ := isActiveWhere_iff.mp htrue
  rw [hwf.idsBelow.get?_nextId] at hget
  cases hget

end ReversalPosted

/-! ## A call on its own transaction -/

/-- The duplicate check is silent exactly when the document has no active posting. -/
theorem existingByReference_own {ctx : PostingContext} {db : LedgerDb}
    (hpool : ctx.pool = db.transactions) {request : JournalEntryRequest} :
    existingByReference ctx db request = none ↔
      ∀ id row, ActiveRow db id row → ¬ SameDocument request row := by
  have hsome : ∀ {p : TransactionRow → Bool} {id row}, ActiveRow db id row → p row = true →
      ∃ result, returnExistingByReference ctx db p = some result := by
    intro p id row hactive hp
    obtain ⟨id', hid'⟩ := findActive_isSome hactive hp
    obtain ⟨row', hactive', -⟩ := findActive_eq_some hid'
    have hseen : Seen ctx.pool id' := by
      rw [Seen, hpool, hactive'.1]
      rfl
    obtain ⟨result, hresult, -⟩ := getTransaction_of_seen hseen
    exact ⟨result, by simp [returnExistingByReference, hid', hresult]⟩
  constructor
  · intro hnone id row hactive hsame
    obtain ⟨htype, hm | ⟨hnumber, hm⟩⟩ := hsame
    · obtain ⟨result, hresult⟩ := hsome hactive hm
      have hid : request.referenceId.isSome = true := by
        rw [(matchesId_iff.mp hm).2]
        rfl
      simp [existingByReference, htype, hid, hresult] at hnone
    · obtain ⟨result, hresult⟩ := hsome hactive hm
      unfold existingByReference at hnone
      dsimp only at hnone
      split at hnone
      · cases hnone
      · simp [htype, hnumber, hresult] at hnone
  · intro hfree
    cases hresult : existingByReference ctx db request with
    | none => rfl
    | some result =>
      obtain ⟨row, hactive, hsame, -⟩ := existingByReference_eq_some hresult
      exact absurd hsame (hfree _ row hactive)

/-- The key and the document of a request are free. -/
structure Unposted (db : LedgerDb) (request : JournalEntryRequest) : Prop where
  key : checkIdempotencyKey db request.idempotencyKey = none
  document : ∀ id row, ActiveRow db id row → ¬ SameDocument request row

/-- A successful call on its own transaction posts when nothing was posted before, and
changes nothing otherwise. -/
theorem createJournalEntry_own {ctx : PostingContext} {db : LedgerDb}
    (hpool : ctx.pool = db.transactions) {request : JournalEntryRequest} {out : PostingOutcome}
    (h : createJournalEntry ctx db request = .ok out) :
    (¬ Unposted db request ∧ out.db = db) ∨
      (Unposted db request ∧
        ∃ header written mid, JournalPosted ctx db request out header written mid) := by
  rcases createJournalEntry_cases h with ⟨hdb, -, hkey | ⟨-, href⟩⟩ | ⟨hkey, href, hpost⟩
  · refine .inl ⟨fun hfree => ?_, hdb⟩
    obtain ⟨id, hid, -⟩ := existingByKey_some hkey
    rw [hfree.key] at hid
    cases hid
  · refine .inl ⟨fun hfree => ?_, hdb⟩
    rw [(existingByReference_own hpool).mpr hfree.document] at href
    cases href
  · exact .inr ⟨⟨hkey, (existingByReference_own hpool).mp href⟩, postJournal_cases hpost⟩

end SmartErpPos.Ledger
