/-
  Ledger/ActivePosting.lean --- at most one active posting per document.

  A posting looks for an earlier one with its key, then for a net-active one about
  its document.  The look-ups run inside the caller's transaction, but what they
  find is fetched through the pool.  A posting that the caller has not committed
  yet is found and then not seen: the document is posted a second time.

  `Session` is a ledger together with what has been committed of it.  While every
  posting sees the active one of its document there is at most one of each.
-/
import SmartErpPos.Ledger.Balances

set_option autoImplicit false

namespace SmartErpPos.Ledger

open SmartErpPos.Lib

/-! ## Sessions -/

/-- The ledger as the calls of one caller see it, and as it was last committed. -/
structure Session where
  db : LedgerDb
  committed : LedgerDb

inductive SessionAction where
  | call (call : LedgerCall)
  | commit

def LedgerCall.context : LedgerCall → PostingContext
  | .create ctx _ => ctx
  | .reverse ctx _ => ctx

/-- One step of a caller.  A call on its own transaction needs everything before it
committed, and is committed at its end. -/
inductive SessionStep : Session → SessionAction → Session → Prop
  | own {s : Session} {call : LedgerCall} {db : LedgerDb}
      (hpath : call.context.path = .ownTransaction)
      (hpool : call.context.pool = s.committed.transactions)
      (hcommitted : s.committed = s.db) (hcall : CallStep s.db call db) :
      SessionStep s (.call call) ⟨db, db⟩
  | client {s : Session} {call : LedgerCall} {db : LedgerDb}
      (hpath : call.context.path = .txClient)
      (hpool : call.context.pool = s.committed.transactions) (hcall : CallStep s.db call db) :
      SessionStep s (.call call) ⟨db, s.committed⟩
  | commit {s : Session} : SessionStep s .commit ⟨s.db, s.db⟩

/-! ## Documents -/

/-- An active transaction and its row. -/
def ActiveRow (db : LedgerDb) (id : TransactionId) (row : TransactionRow) : Prop :=
  db.transactions.get? id = some row ∧ isNetActive db id row = true

/-- Two active transactions that agree in `f` are one. -/
def OneActiveBy {B : Type} (db : LedgerDb) (f : TransactionRow → Option B) : Prop :=
  ∀ id id' row row' b, ActiveRow db id row → ActiveRow db id' row' → f row = some b →
    f row' = some b → id = id'

/-- The document of a row by its id. -/
def TransactionRow.documentId (row : TransactionRow) : Option (String × DocumentId) :=
  if row.referenceType ≠ "" then some (row.referenceType, row.referenceId) else none

/-- The document of a row by its number. -/
def TransactionRow.documentNumber (row : TransactionRow) : Option (String × String) :=
  if row.referenceType ≠ "" ∧ row.referenceNumber ≠ "" then
    some (row.referenceType, row.referenceNumber)
  else none

/-- At most one active posting per key and per document. -/
structure OncePerDocument (db : LedgerDb) : Prop where
  key : OneActiveBy db fun row => some row.idempotencyKey
  documentId : OneActiveBy db TransactionRow.documentId
  documentNumber : OneActiveBy db TransactionRow.documentNumber

/-- The row is about the document of a request, as the duplicate check compares them. -/
def SameDocument (request : JournalEntryRequest) (row : TransactionRow) : Prop :=
  request.referenceType ≠ "" ∧ (request.matchesId row = true ∨
    (request.referenceNumber ≠ "" ∧ request.matchesNumber row = true))

/-- The pool sees the transaction. -/
def Seen (pool : OrderedMap TransactionId TransactionRow) (id : TransactionId) : Prop :=
  (pool.get? id).isSome = true

/-- When there is an active posting of the document, the pool sees one. -/
def SeesDocument (pool : OrderedMap TransactionId TransactionRow) (db : LedgerDb)
    (request : JournalEntryRequest) : Prop :=
  (∃ id row, ActiveRow db id row ∧ SameDocument request row) →
    ∃ id row, ActiveRow db id row ∧ SameDocument request row ∧ Seen pool id

/-! ## The look-ups -/

variable {id : TransactionId} {row : TransactionRow}

theorem findActive_eq_some {db : LedgerDb} {p : TransactionRow → Bool}
    (h : findActive db p = some id) : ∃ row, ActiveRow db id row ∧ p row = true := by
  unfold findActive at h
  obtain ⟨⟨id', row⟩, hfind, rfl⟩ := Option.map_eq_some_iff.mp h
  have hmem := List.mem_of_find?_eq_some hfind
  have htrue := List.find?_some hfind
  simp only [Bool.and_eq_true] at htrue
  exact ⟨row, ⟨OrderedMap.get?_eq_some_iff.mpr hmem, htrue.2⟩, htrue.1⟩

theorem findActive_isSome {db : LedgerDb} {p : TransactionRow → Bool}
    (hactive : ActiveRow db id row) (hp : p row = true) : ∃ id', findActive db p = some id' := by
  have hsome : (db.transactions.entries.find? fun e => p e.2 && isNetActive db e.1 e.2).isSome :=
    List.find?_isSome.mpr ⟨(id, row), OrderedMap.get?_eq_some_iff.mp hactive.1, by
      simp [hp, hactive.2]⟩
  obtain ⟨e, he⟩ := Option.isSome_iff_exists.mp hsome
  exact ⟨e.1, by simp [findActive, he]⟩

theorem getTransaction_eq_some {pool : OrderedMap TransactionId TransactionRow}
    {result : JournalEntryResult} (h : getTransaction pool id = some result) :
    result.transactionId = id ∧ Seen pool id := by
  unfold getTransaction at h
  obtain ⟨row, hrow, rfl⟩ := Option.map_eq_some_iff.mp h
  exact ⟨rfl, Option.isSome_iff_exists.mpr ⟨row, hrow⟩⟩

theorem getTransaction_of_seen {pool : OrderedMap TransactionId TransactionRow} (h : Seen pool id) :
    ∃ result, getTransaction pool id = some result ∧ result.transactionId = id := by
  obtain ⟨row, hrow⟩ := Option.isSome_iff_exists.mp h
  exact ⟨⟨id, row.transactionNumber, row.status, row.totalDebitAmount.toRat,
    row.totalCreditAmount.toRat⟩, by simp [getTransaction, hrow], rfl⟩

theorem matchesId_iff {request : JournalEntryRequest} :
    request.matchesId row = true ↔
      row.referenceType = request.referenceType ∧ request.referenceId = some row.referenceId := by
  simp only [JournalEntryRequest.matchesId, Bool.and_eq_true, decide_eq_true_eq]
  exact and_congr_right fun _ => eq_comm

theorem matchesNumber_iff {request : JournalEntryRequest} :
    request.matchesNumber row = true ↔
      row.referenceType = request.referenceType ∧
        row.referenceNumber = request.referenceNumber := by
  simp [JournalEntryRequest.matchesNumber]

/-- Two active rows with the id of a request are one. -/
theorem OncePerDocument.eq_of_matchesId {db : LedgerDb} (honce : OncePerDocument db)
    {request : JournalEntryRequest} (htype : request.referenceType ≠ "") {id' : TransactionId}
    {row' : TransactionRow} (h : ActiveRow db id row) (h' : ActiveRow db id' row')
    (hm : request.matchesId row = true) (hm' : request.matchesId row' = true) : id = id' := by
  obtain ⟨hrow, hid⟩ := matchesId_iff.mp hm
  obtain ⟨hrow', hid'⟩ := matchesId_iff.mp hm'
  rw [hid] at hid'
  refine honce.documentId id id' row row' (request.referenceType, row.referenceId) h h' ?_ ?_
  · simp [TransactionRow.documentId, hrow, htype]
  · simp [TransactionRow.documentId, hrow', htype, Option.some.inj hid']

/-- Two active rows with the number of a request are one. -/
theorem OncePerDocument.eq_of_matchesNumber {db : LedgerDb} (honce : OncePerDocument db)
    {request : JournalEntryRequest} (htype : request.referenceType ≠ "")
    (hnumber : request.referenceNumber ≠ "") {id' : TransactionId} {row' : TransactionRow}
    (h : ActiveRow db id row) (h' : ActiveRow db id' row') (hm : request.matchesNumber row = true)
    (hm' : request.matchesNumber row' = true) : id = id' := by
  obtain ⟨hrow, hid⟩ := matchesNumber_iff.mp hm
  obtain ⟨hrow', hid'⟩ := matchesNumber_iff.mp hm'
  refine honce.documentNumber id id' row row' (request.referenceType, request.referenceNumber)
    h h' ?_ ?_
  · simp [TransactionRow.documentNumber, hrow, hid, htype, hnumber]
  · simp [TransactionRow.documentNumber, hrow', hid', htype, hnumber]

/-- What the duplicate check returns is an active posting of the document that the pool
sees. -/
theorem existingByReference_eq_some {ctx : PostingContext} {db : LedgerDb}
    {request : JournalEntryRequest} {result : JournalEntryResult}
    (h : existingByReference ctx db request = some result) :
    ∃ row, ActiveRow db result.transactionId row ∧ SameDocument request row ∧
      Seen ctx.pool result.transactionId := by
  have hfetched : ∀ p, returnExistingByReference ctx db p = some result →
      ∃ row, ActiveRow db result.transactionId row ∧ p row = true ∧
        Seen ctx.pool result.transactionId := by
    intro p hp
    unfold returnExistingByReference at hp
    obtain ⟨id, hid, hget⟩ := Option.bind_eq_some_iff.mp hp
    obtain ⟨row, hactive, hprow⟩ := findActive_eq_some hid
    obtain ⟨heq, hseen⟩ := getTransaction_eq_some hget
    exact ⟨row, heq ▸ hactive, hprow, heq ▸ hseen⟩
  unfold existingByReference at h
  dsimp only at h
  split at h
  · rename_i existing hbyId
    cases h
    split at hbyId
    · rename_i hguard
      obtain ⟨row, hactive, hm, hseen⟩ := hfetched _ hbyId
      exact ⟨row, hactive, ⟨hguard.1, .inl hm⟩, hseen⟩
    · cases hbyId
  · split at h
    · rename_i hguard
      obtain ⟨row, hactive, hm, hseen⟩ := hfetched _ h
      exact ⟨row, hactive, ⟨hguard.1, .inr ⟨hguard.2, hm⟩⟩, hseen⟩
    · cases h

/-- The duplicate check returns something when the pool sees an active posting of the
document. -/
theorem existingByReference_isSome {ctx : PostingContext} {db : LedgerDb}
    {request : JournalEntryRequest} (honce : OncePerDocument db) (hactive : ActiveRow db id row)
    (hsame : SameDocument request row) (hseen : Seen ctx.pool id) :
    ∃ result, existingByReference ctx db request = some result := by
  obtain ⟨result, hresult, -⟩ := getTransaction_of_seen hseen
  obtain ⟨htype, hm | ⟨hnumber, hm⟩⟩ := hsame
  · have hfound : returnExistingByReference ctx db request.matchesId = some result := by
      obtain ⟨id', hid'⟩ := findActive_isSome hactive hm
      obtain ⟨row', hactive', hm'⟩ := findActive_eq_some hid'
      have heq := honce.eq_of_matchesId htype hactive hactive' hm hm'
      simp [returnExistingByReference, hid', ← heq, hresult]
    have hsome : request.referenceId.isSome = true := by
      rw [(matchesId_iff.mp hm).2]
      rfl
    exact ⟨result, by simp [existingByReference, htype, hsome, hfound]⟩
  · have hfound : returnExistingByReference ctx db request.matchesNumber = some result := by
      obtain ⟨id', hid'⟩ := findActive_isSome hactive hm
      obtain ⟨row', hactive', hm'⟩ := findActive_eq_some hid'
      have heq := honce.eq_of_matchesNumber htype hnumber hactive hactive' hm hm'
      simp [returnExistingByReference, hid', ← heq, hresult]
    unfold existingByReference
    dsimp only
    split
    · exact ⟨_, rfl⟩
    · exact ⟨result, by simp [htype, hnumber, hfound]⟩

/-- The duplicate check is silent exactly when the pool sees no active posting of the
document. -/
theorem existingByReference_eq_none_iff {ctx : PostingContext} {db : LedgerDb}
    {request : JournalEntryRequest} (honce : OncePerDocument db) :
    existingByReference ctx db request = none ↔
      ∀ id row, ActiveRow db id row → SameDocument request row → ¬ Seen ctx.pool id := by
  constructor
  · intro h id row hactive hsame hseen
    obtain ⟨result, hresult⟩ := existingByReference_isSome honce hactive hsame hseen
    rw [h] at hresult
    cases hresult
  · intro h
    cases hresult : existingByReference ctx db request with
    | none => rfl
    | some result =>
      obtain ⟨row, hactive, hsame, hseen⟩ := existingByReference_eq_some hresult
      exact absurd hseen (h _ row hactive hsame)

/-! ## The active rows after a call -/

theorem activeRow_iff {db : LedgerDb} :
    ActiveRow db id row ↔ db.transactions.get? id = some row ∧ isActiveId db id = true := by
  unfold ActiveRow
  rw [isActiveId_iff]
  constructor
  · exact fun h => ⟨h.1, row, h⟩
  · rintro ⟨hget, row', hget', hactive⟩
    rw [hget] at hget'
    cases hget'
    exact ⟨hget, hactive⟩

theorem JournalPosted.activeRow_iff {ctx : PostingContext} {db : LedgerDb}
    {request : JournalEntryRequest} {out : PostingOutcome} {header : TransactionRow}
    {written : List LedgerEntry} {mid : LedgerDb} (hwf : WellFormed db)
    (h : JournalPosted ctx db request out header written mid) :
    ActiveRow out.db id row ↔ (id = db.nextId ∧ row = header) ∨ ActiveRow db id row := by
  have hadded := h.headerAdded
  simp only [Ledger.activeRow_iff, hadded.isActiveId hwf, hadded.transactions, OrderedMap.get?_set]
  rcases eq_or_ne id db.nextId with rfl | hid
  · rw [if_pos rfl, if_pos rfl, hwf.idsBelow.get?_nextId]
    constructor
    · rintro ⟨hrow, -⟩
      exact .inl ⟨rfl, (Option.some.inj hrow).symm⟩
    · rintro (⟨-, rfl⟩ | ⟨hrow, -⟩)
      · exact ⟨rfl, rfl⟩
      · cases hrow
  · simp [hid]

theorem ReversalPosted.activeRow_iff {ctx : PostingContext} {db : LedgerDb}
    {request : ReversalRequest} {out : PostingOutcome} {original header : TransactionRow}
    {written : List LedgerEntry} {mid : LedgerDb} (hwf : WellFormed db)
    (h : ReversalPosted ctx db request out original header written mid) :
    ActiveRow out.db id row ↔ ActiveRow db id row ∧ id ≠ request.originalTransactionId := by
  have hrev := h.originalReversed
  simp only [Ledger.activeRow_iff, hrev.isActiveId hwf]
  rcases eq_or_ne id request.originalTransactionId with rfl | hold
  · simp
  · rcases eq_or_ne id db.nextId with rfl | hnew
    · simp [hwf.idsBelow.get?_nextId]
    · simp [hrev.get?_other hnew hold, hnew, hold]

/-! ## One call -/

theorem OneActiveBy.of_subset {B : Type} {db db' : LedgerDb} {f : TransactionRow → Option B}
    (h : OneActiveBy db f) (hsub : ∀ id row, ActiveRow db' id row → ActiveRow db id row) :
    OneActiveBy db' f :=
  fun id id' row row' b hrow hrow' => h id id' row row' b (hsub id row hrow) (hsub id' row' hrow')

/-- One more active row that agrees with no other. -/
theorem OneActiveBy.add {B : Type} {db db' : LedgerDb} {f : TransactionRow → Option B}
    {newId : TransactionId} {header : TransactionRow} (h : OneActiveBy db f)
    (hrows : ∀ id row, ActiveRow db' id row → (id = newId ∧ row = header) ∨ ActiveRow db id row)
    (hfree : ∀ id row b, ActiveRow db id row → f row = some b → f header ≠ some b) :
    OneActiveBy db' f := by
  intro id id' row row' b hrow hrow' hb hb'
  rcases hrows id row hrow with ⟨rfl, rfl⟩ | hold
  · rcases hrows id' row' hrow' with ⟨rfl, rfl⟩ | hold'
    · rfl
    · exact absurd hb (hfree id' row' b hold' hb')
  · rcases hrows id' row' hrow' with ⟨rfl, rfl⟩ | hold'
    · exact absurd hb' (hfree id row b hold hb)
    · exact h id id' row row' b hold hold' hb hb'

theorem EmptyLedger.oncePerDocument {db : LedgerDb} (h : EmptyLedger db) : OncePerDocument db := by
  have hnone : ∀ id row, ¬ ActiveRow db id row := by
    rintro id row ⟨hget, -⟩
    rw [h.transactions] at hget
    cases hget
  exact ⟨fun id _ row _ _ hrow => absurd hrow (hnone id row),
    fun id _ row _ _ hrow => absurd hrow (hnone id row),
    fun id _ row _ _ hrow => absurd hrow (hnone id row)⟩

/-- A reversal adds no active row. -/
theorem ReversalPosted.oncePerDocument {ctx : PostingContext} {db : LedgerDb}
    {request : ReversalRequest} {out : PostingOutcome} {original header : TransactionRow}
    {written : List LedgerEntry} {mid : LedgerDb} (hwf : WellFormed db)
    (honce : OncePerDocument db)
    (h : ReversalPosted ctx db request out original header written mid) :
    OncePerDocument out.db := by
  have hsub : ∀ id row, ActiveRow out.db id row → ActiveRow db id row := fun id row hrow =>
    ((h.activeRow_iff hwf).mp hrow).1
  exact ⟨honce.key.of_subset hsub, honce.documentId.of_subset hsub,
    honce.documentNumber.of_subset hsub⟩

namespace JournalPosted

variable {ctx : PostingContext} {db : LedgerDb} {request : JournalEntryRequest}
  {out : PostingOutcome} {header : TransactionRow} {written : List LedgerEntry} {mid : LedgerDb}

/-- The new row is about the document of its request. -/
theorem referenceType_eq (h : JournalPosted ctx db request out header written mid) :
    header.referenceType = request.referenceType ∧
      header.referenceNumber = request.referenceNumber ∧
      header.idempotencyKey = request.idempotencyKey := by
  rw [h.header_eq]
  exact ⟨rfl, rfl, rfl⟩

/-- Rows with the document of the new row are rows with the document of its request. -/
theorem sameDocument_iff (h : JournalPosted ctx db request out header written mid)
    (row : TransactionRow) : SameDocument request row ↔
      (∃ b, row.documentId = some b ∧ header.documentId = some b) ∨
        ∃ b, row.documentNumber = some b ∧ header.documentNumber = some b := by
  obtain ⟨htype, hnumber, -⟩ := h.referenceType_eq
  unfold SameDocument TransactionRow.documentId TransactionRow.documentNumber
  rw [matchesId_iff, matchesNumber_iff, h.referenceId, htype, hnumber]
  constructor
  · rintro ⟨hne, ⟨hrow, hid⟩ | ⟨hnum, hrow, hid⟩⟩
    · refine .inl ⟨(request.referenceType, header.referenceId), ?_, by simp [hne]⟩
      simp [hrow, hne, Option.some.inj hid]
    · refine .inr ⟨(request.referenceType, request.referenceNumber), ?_, by simp [hne, hnum]⟩
      simp [hrow, hid, hne, hnum]
  · rintro (⟨b, hb, hb'⟩ | ⟨b, hb, hb'⟩)
    · split at hb
      · split at hb'
        · rename_i hne
          cases hb'
          have hpair := Prod.mk.inj (Option.some.inj hb)
          exact ⟨hne, .inl ⟨hpair.1, congrArg some hpair.2.symm⟩⟩
        · cases hb'
      · cases hb
    · split at hb
      · split at hb'
        · rename_i hne
          cases hb'
          have hpair := Prod.mk.inj (Option.some.inj hb)
          exact ⟨hne.1, .inr ⟨hne.2, hpair.1, hpair.2⟩⟩
        · cases hb'
      · cases hb

/-- A posting leaves one active posting per document exactly when there was none of its
own. -/
theorem oncePerDocument_iff (hwf : WellFormed db) (honce : OncePerDocument db)
    (h : JournalPosted ctx db request out header written mid) :
    OncePerDocument out.db ↔ ∀ id row, ActiveRow db id row → ¬ SameDocument request row := by
  have hnew : ActiveRow out.db db.nextId header := (h.activeRow_iff hwf).mpr (.inl ⟨rfl, rfl⟩)
  constructor
  · intro honce' id row hactive hsame
    have hkept : ActiveRow out.db id row := (h.activeRow_iff hwf).mpr (.inr hactive)
    have hne : id ≠ db.nextId := (hwf.idsBelow id row hactive.1).ne
    rcases (h.sameDocument_iff row).mp hsame with ⟨b, hb, hb'⟩ | ⟨b, hb, hb'⟩
    · exact hne (honce'.documentId _ _ _ _ b hkept hnew hb hb')
    · exact hne (honce'.documentNumber _ _ _ _ b hkept hnew hb hb')
  · intro hfree
    have hrows : ∀ id row, ActiveRow out.db id row →
        (id = db.nextId ∧ row = header) ∨ ActiveRow db id row := fun id row =>
      (h.activeRow_iff hwf).mp
    refine ⟨honce.key.add hrows ?_, honce.documentId.add hrows ?_,
      honce.documentNumber.add hrows ?_⟩
    · intro id row b hactive hb hb'
      refine h.insertable.key (id, row) (OrderedMap.get?_eq_some_iff.mp hactive.1) ?_
      exact (Option.some.inj hb).trans (Option.some.inj hb').symm
    · exact fun id row b hactive hb hb' =>
        hfree id row hactive ((h.sameDocument_iff row).mpr (.inl ⟨b, hb, hb'⟩))
    · exact fun id row b hactive hb hb' =>
        hfree id row hactive ((h.sameDocument_iff row).mpr (.inr ⟨b, hb, hb'⟩))

end JournalPosted

/-! ## Runs of sessions -/

/-- The condition on a step: a posting whose key is free sees the active posting of its
document, when there is one. -/
def SeesEarlier (s : Session) : SessionAction → Prop
  | .call (.create ctx request) => checkIdempotencyKey s.db request.idempotencyKey = none →
      SeesDocument ctx.pool s.db request
  | _ => True

theorem CallEffect.oncePerDocument_iff {db : LedgerDb} {call : LedgerCall} {out : PostingOutcome}
    (hwf : WellFormed db) (honce : OncePerDocument db) (h : CallEffect db call out) :
    OncePerDocument out.db ↔ SeesEarlier ⟨db, db⟩ (.call call) := by
  cases h with
  | found hdb _ hfound =>
    rw [hdb]
    refine iff_of_true honce ?_
    cases call with
    | create ctx request =>
      intro hkey hactive
      cases href : existingByReference ctx db request with
      | none => exact absurd ⟨hkey, href⟩ hfound
      | some result =>
        obtain ⟨row, hrow, hsame, hseen⟩ := existingByReference_eq_some href
        exact ⟨_, row, hrow, hsame, hseen⟩
    | reverse ctx request => trivial
  | posted hwrites h =>
    rw [h.oncePerDocument_iff hwf honce]
    have hunseen := (existingByReference_eq_none_iff honce).mp hwrites.2
    constructor
    · rintro hfree - ⟨id, row, hactive, hsame⟩
      exact absurd hsame (hfree id row hactive)
    · intro hsees id row hactive hsame
      obtain ⟨id', row', hactive', hsame', hseen⟩ := hsees hwrites.1 ⟨id, row, hactive, hsame⟩
      exact hunseen id' row' hactive' hsame' hseen
  | reversed _ h => exact iff_of_true (h.oncePerDocument hwf honce) trivial

/-- The ledger of a session is well formed and has one active posting per document. -/
structure SessionGood (s : Session) : Prop where
  wellFormed : WellFormed s.db
  oncePerDocument : OncePerDocument s.db

theorem SessionStep.oncePerDocument_iff {s s' : Session} {action : SessionAction}
    (hgood : SessionGood s) (h : SessionStep s action s') :
    OncePerDocument s'.db ↔ SeesEarlier s action := by
  have hcall : ∀ {call db}, CallStep s.db call db →
      (OncePerDocument db ↔ SeesEarlier s (.call call)) := by
    intro call db hstep
    obtain ⟨out, rfl, heffect⟩ := hstep.effect hgood.wellFormed
    exact heffect.oncePerDocument_iff hgood.wellFormed hgood.oncePerDocument
  cases h with
  | own _ _ _ hstep => exact hcall hstep
  | client _ _ hstep => exact hcall hstep
  | commit => exact iff_of_true hgood.oncePerDocument trivial

theorem SessionStep.wellFormed {s s' : Session} {action : SessionAction} (hwf : WellFormed s.db)
    (h : SessionStep s action s') : WellFormed s'.db := by
  cases h with
  | own _ _ _ hstep => exact hstep.wellFormed hwf
  | client _ _ hstep => exact hstep.wellFormed hwf
  | commit => exact hwf

theorem SessionStep.good {s s' : Session} {action : SessionAction} (hgood : SessionGood s)
    (h : SessionStep s action s') (hsees : SeesEarlier s action) : SessionGood s' :=
  ⟨h.wellFormed hgood.wellFormed, (h.oncePerDocument_iff hgood).mpr hsees⟩

theorem EmptyLedger.sessionGood {s : Session} (h : EmptyLedger s.db) : SessionGood s :=
  ⟨h.wellFormed, h.oncePerDocument⟩

/-! ## Repeated postings -/

/-- The key check finds the active posting with a key. -/
theorem checkIdempotencyKey_of_active {db : LedgerDb} (hwf : WellFormed db)
    (hactive : ActiveRow db id row) : checkIdempotencyKey db row.idempotencyKey = some id := by
  obtain ⟨hget, hon⟩ := hactive
  obtain ⟨hposted, hlive, -⟩ := isNetActive_iff.mp hon
  cases hfind : db.transactions.entries.find? fun e =>
      decide (e.2.idempotencyKey = row.idempotencyKey) && !e.2.isReversed &&
        decide (e.2.status = .POSTED) with
  | none =>
    have hnone := List.find?_eq_none.mp hfind (id, row) (OrderedMap.get?_eq_some_iff.mp hget)
    simp [hposted, hlive] at hnone
  | some e =>
    have hmem := List.mem_of_find?_eq_some hfind
    have hkey := List.find?_some hfind
    simp only [Bool.and_eq_true, decide_eq_true_eq] at hkey
    have heq := hwf.keyUnique e.1 id e.2 row (OrderedMap.get?_eq_some_iff.mpr hmem) hget hkey.1.1
    simp [checkIdempotencyKey, hfind, heq]

/-- The posting with the key of a request, or the postings of its document. -/
def EarlierPosting (db : LedgerDb) (request : JournalEntryRequest) (id : TransactionId) : Prop :=
  ∃ row, ActiveRow db id row ∧
    (row.idempotencyKey = request.idempotencyKey ∨ SameDocument request row)

/-- The call returns an earlier posting and changes nothing. -/
def ReturnsEarlier (ctx : PostingContext) (db : LedgerDb) (request : JournalEntryRequest) : Prop :=
  ∃ out, createJournalEntry ctx db request = .ok out ∧ out.db = db ∧
    out.pendingRebuildJobs = [] ∧ EarlierPosting db request out.result.transactionId

/-- The look-up that answers a request finds an active posting that the pool sees. -/
def SeesRepeated (ctx : PostingContext) (db : LedgerDb) (request : JournalEntryRequest) : Prop :=
  match checkIdempotencyKey db request.idempotencyKey with
  | some id => isActiveId db id = true ∧ Seen ctx.pool id
  | none => SeesDocument ctx.pool db request

theorem checkIdempotencyKey_eq_some {db : LedgerDb} {key : String}
    (h : checkIdempotencyKey db key = some id) :
    ∃ row, db.transactions.get? id = some row ∧ row.idempotencyKey = key := by
  unfold checkIdempotencyKey at h
  obtain ⟨e, hfind, rfl⟩ := Option.map_eq_some_iff.mp h
  have hmem := List.mem_of_find?_eq_some hfind
  have hkey := List.find?_some hfind
  simp only [Bool.and_eq_true, decide_eq_true_eq] at hkey
  exact ⟨e.2, OrderedMap.get?_eq_some_iff.mpr hmem, hkey.1.1⟩

/-- A request that passes the checks and has an earlier posting gets it back when the
look-ups see it. -/
private theorem returnsEarlier_of_seesRepeated {ctx : PostingContext} {db : LedgerDb}
    {request : JournalEntryRequest} (hwf : WellFormed db) (honce : OncePerDocument db)
    (hvalid : validateRequest ctx db request = .ok ())
    (hearlier : ∃ id, EarlierPosting db request id) (hsees : SeesRepeated ctx db request) :
    ReturnsEarlier ctx db request := by
  unfold SeesRepeated at hsees
  cases hkey : checkIdempotencyKey db request.idempotencyKey with
  | some id =>
    simp only [hkey] at hsees
    obtain ⟨hactive, hseen⟩ := hsees
    obtain ⟨result, hresult, rfl⟩ := getTransaction_of_seen hseen
    obtain ⟨row, hrow, hrowKey⟩ := checkIdempotencyKey_eq_some hkey
    exact ⟨⟨db, result, []⟩, createJournalEntry_of_held hvalid hkey hresult, rfl, rfl, row,
      activeRow_iff.mpr ⟨hrow, hactive⟩, .inl hrowKey⟩
  | none =>
    simp only [hkey] at hsees
    have hactive : ∃ id row, ActiveRow db id row ∧ SameDocument request row := by
      obtain ⟨id, row, hrow, hmatch | hsame⟩ := hearlier
      · have hheld := checkIdempotencyKey_of_active hwf hrow
        rw [hmatch, hkey] at hheld
        cases hheld
      · exact ⟨id, row, hrow, hsame⟩
    obtain ⟨id, row, hrow, hsame, hseen⟩ := hsees hactive
    obtain ⟨result, hresult⟩ := existingByReference_isSome honce hrow hsame hseen
    obtain ⟨row', hrow', hsame', -⟩ := existingByReference_eq_some hresult
    refine ⟨⟨db, result, []⟩, ?_, rfl, rfl, row', hrow', .inr hsame'⟩
    rw [createJournalEntry_of_free hvalid hkey, hresult]

/-- A valid request with an earlier posting gets it back, with nothing changed, exactly
when the look-up that answers it sees an active posting. -/
theorem returnsEarlier_iff {ctx : PostingContext} {db : LedgerDb} {request : JournalEntryRequest}
    (hwf : WellFormed db) (honce : OncePerDocument db)
    (hvalid : validateRequest ctx db request = .ok ())
    (hearlier : ∃ id, EarlierPosting db request id) :
    ReturnsEarlier ctx db request ↔ SeesRepeated ctx db request := by
  refine ⟨?_, returnsEarlier_of_seesRepeated hwf honce hvalid hearlier⟩
  rintro ⟨out, hout, hdb, -, row, hrow, -⟩
  unfold SeesRepeated
  rcases createJournalEntry_cases hout with ⟨-, -, hkey | ⟨hkey, href⟩⟩ | ⟨-, -, hpost⟩
  · obtain ⟨id, hid, hget⟩ := existingByKey_some hkey
    obtain ⟨heq, hseen⟩ := getTransaction_eq_some hget
    simp only [hid]
    exact ⟨heq ▸ (activeRow_iff.mp hrow).2, hseen⟩
  · obtain ⟨row', hrow', hsame, hseen⟩ := existingByReference_eq_some href
    simp only [hkey]
    exact fun _ => ⟨_, row', hrow', hsame, hseen⟩
  · obtain ⟨header, written, mid, hposted⟩ := postJournal_cases hpost
    have hnext := hposted.nextId_eq
    rw [hdb] at hnext
    omega

end SmartErpPos.Ledger
