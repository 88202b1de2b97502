/-
  Ledger/ParkedJournals.lean --- what parking a journal does to the balances.

  A journal that is parked leaves the sums the reports are made of, and a journal that is
  posted again joins them.  The cached balances of the accounts follow neither, and an
  approval that needs no review schedules no rebuild.  A run keeps caches, rows and statuses
  together exactly when no step of it parks, or posts again, a journal that adds something.
-/
import SmartErpPos.Ledger.BalanceCache
import SmartErpPos.Ledger.JeApproval
import SmartErpPos.Ledger.ProjectionOutbox

set_option autoImplicit false

namespace SmartErpPos.Ledger

open SmartErpPos.Lib

/-! ## A status is stored -/

section SetStatus

variable (db : LedgerDb) (t : TransactionId) (status : TransactionStatus)

/-- The transaction counts once it is posted. -/
def countsPosted : Bool :=
  transactionIs db (fun id row => !row.isReversed && !(reversingIds db).contains id) t

theorem setStatus_get? (k : TransactionId) :
    (setStatus db t status).transactions.get? k =
      if k = t then (db.transactions.get? k).map fun row => { row with status := status }
      else db.transactions.get? k :=
  OrderedMap.get?_modify _ _ _ _

/-- A row differs from the old one in its status only, if at all. -/
theorem setStatus_get?_cases {k : TransactionId} {row : TransactionRow}
    (h : (setStatus db t status).transactions.get? k = some row) :
    ∃ old, db.transactions.get? k = some old ∧ row = { old with status := row.status } ∧
      ((k = t ∧ row.status = status) ∨ row = old) := by
  rw [setStatus_get?] at h
  split at h
  · rename_i hk
    obtain ⟨old, hold, rfl⟩ := Option.map_eq_some_iff.mp h
    exact ⟨old, hold, rfl, .inl ⟨hk, rfl⟩⟩
  · exact ⟨row, h, rfl, .inr rfl⟩

theorem mem_reversingIds_setStatus {j : TransactionId} :
    j ∈ reversingIds (setStatus db t status) ↔ j ∈ reversingIds db := by
  simp only [mem_reversingIds, setStatus_get?]
  constructor
  · rintro ⟨k, row, hrow, hlink⟩
    split at hrow
    · obtain ⟨old, hold, rfl⟩ := Option.map_eq_some_iff.mp hrow
      exact ⟨k, old, hold, hlink⟩
    · exact ⟨k, row, hrow, hlink⟩
  · rintro ⟨k, row, hrow, hlink⟩
    by_cases hk : k = t
    · subst hk
      exact ⟨k, { row with status := status }, by rw [if_pos rfl, hrow]; rfl, hlink⟩
    · exact ⟨k, row, by rw [if_neg hk]; exact hrow, hlink⟩

theorem countsPosted_iff : countsPosted db t = true ↔ ∃ row, db.transactions.get? t = some row ∧
    row.isReversed = false ∧ t ∉ reversingIds db := by
  simp [countsPosted, transactionIs, Option.any_eq_true]

/-- What counts after a status is stored. -/
theorem isActiveId_setStatus (k : TransactionId) :
    isActiveId (setStatus db t status) k =
      if k = t then decide (status = .POSTED) && countsPosted db t else isActiveId db k := by
  rw [Bool.eq_iff_iff]
  by_cases hk : k = t
  · subst hk
    rw [if_pos rfl, isActiveId_iff, Bool.and_eq_true, decide_eq_true_eq, countsPosted_iff]
    simp only [setStatus_get?, if_pos, isNetActive_iff, mem_reversingIds_setStatus,
      Option.map_eq_some_iff]
    constructor
    · rintro ⟨_, ⟨row, hrow, rfl⟩, hposted, hlive, hid⟩
      exact ⟨hposted, row, hrow, hlive, hid⟩
    · rintro ⟨hposted, row, hrow, hlive, hid⟩
      exact ⟨_, ⟨row, hrow, rfl⟩, hposted, hlive, hid⟩
  · simp only [if_neg hk, isActiveId_iff, setStatus_get?, isNetActive_iff,
      mem_reversingIds_setStatus]

/-- What counts would count when it is posted again. -/
theorem countsPosted_of_active (h : isActiveId db t = true) : countsPosted db t = true := by
  obtain ⟨row, hrow, hactive⟩ := isActiveId_iff.mp h
  exact (countsPosted_iff db t).mpr ⟨row, hrow, (isNetActive_iff.mp hactive).2⟩

/-- A status other than `POSTED`, or of a transaction that is not reversed, keeps the ledger well
formed. -/
theorem WellFormed.setStatus {db : LedgerDb} (hwf : WellFormed db) {t : TransactionId}
    {status : TransactionStatus} (hlive : status = .POSTED →
      ∀ row, db.transactions.get? t = some row → row.isReversed = false) :
    WellFormed (setStatus db t status) := by
  have hunique : ∀ {B : Type} (f : TransactionRow → B),
      (∀ row status', f { row with status := status' } = f row) →
        db.transactions.UniqueBy f → (Ledger.setStatus db t status).transactions.UniqueBy f := by
    intro B f hf h k k' v v' hv hv' hsame
    obtain ⟨old, hold, heq, -⟩ := setStatus_get?_cases _ _ _ hv
    obtain ⟨old', hold', heq', -⟩ := setStatus_get?_cases _ _ _ hv'
    have hread : f old = f old' := by
      rw [← hf old v.status, ← heq, hsame, heq', hf]
    exact h k k' old old' hold hold' hread
  exact
    { idsBelow := fun k row hrow => by
        obtain ⟨old, hold, -⟩ := setStatus_get?_cases _ _ _ hrow
        exact hwf.idsBelow k old hold
      linksBelow := fun k row j hrow hlink => by
        obtain ⟨old, hold, heq, -⟩ := setStatus_get?_cases _ _ _ hrow
        rw [heq] at hlink
        exact hwf.linksBelow k old j hold hlink
      settled := fun k row hrow => by
        obtain ⟨old, hold, heq, hcase⟩ := setStatus_get?_cases _ _ _ hrow
        have hsettled := hwf.settled k old hold
        rcases hcase with ⟨hk, hstatus⟩ | rfl
        · refine ⟨fun hposted => ?_, fun hrow => ?_⟩
          · rw [heq]
            exact hlive (hstatus.symm.trans hposted) old (hk ▸ hold)
          · rw [heq] at hrow ⊢
            exact hsettled.unlinked hrow
        · exact hsettled
      entryTransaction := fun e he => by
        obtain ⟨row, hrow⟩ := hwf.entryTransaction e he
        rw [setStatus_get?, hrow]
        split
        · exact ⟨_, rfl⟩
        · exact ⟨row, rfl⟩
      entryAccount := hwf.entryAccount
      numberUnique := hunique _ (fun _ _ => rfl) hwf.numberUnique
      keyUnique := hunique _ (fun _ _ => rfl) hwf.keyUnique }

end SetStatus

/-! ## The sums -/

/-- What the journal has in a row of the period balances. -/
def journalPart (db : LedgerDb) (t : TransactionId) (key : PeriodKey) (f : LedgerEntry → Amount) :
    Amount :=
  sumEntries db.entries (fun e => decide (e.transactionId = t) &&
    (decide (e.accountId = key.accountId) && transactionIs db (fun _ row =>
      PeriodKey.of key.accountId row.transactionDate = key) t)) f

section Sums

variable (db : LedgerDb) (t : TransactionId) (status : TransactionStatus)

/-- A balance changes by what the journal adds to it, when it stops to count or starts. -/
theorem netActiveBalance_setStatus (a : AccountId) (normal : NormalBalance) :
    netActiveBalance (setStatus db t status) a normal = netActiveBalance db a normal -
        (if isActiveId db t = true then amountOf db t a normal else 0) +
      if isActiveId (setStatus db t status) t = true then amountOf db t a normal else 0 := by
  have hpart : ∀ l : LedgerDb, sumEntries db.entries (fun e => (decide (e.accountId = a) &&
      isActiveEntry l e) && decide (e.transactionId = t)) (·.signed normal) =
        if isActiveId l t = true then amountOf db t a normal else 0 := by
    intro l
    split
    · rename_i hactive
      refine sumEntries_congr (fun e _ => ?_) _
      by_cases he : e.transactionId = t
      · simp [isActiveEntry, he, hactive]
      · simp [he]
    · rename_i hinactive
      refine sumEntries_eq_zero (fun e _ => ?_) _
      by_cases he : e.transactionId = t
      · simp [isActiveEntry, he, Bool.eq_false_iff.mpr hinactive]
      · simp [he]
  rw [← hpart db, ← hpart (setStatus db t status)]
  refine sumEntries_agree (fun e _ he => ?_) _
  rw [isActiveEntry, isActiveId_setStatus, if_neg (of_decide_eq_false he)]
  rfl

theorem isPeriodEntry_setStatus (key : PeriodKey) (e : LedgerEntry)
    (he : e.transactionId ≠ t) :
    isPeriodEntry (setStatus db t status) key e = isPeriodEntry db key e := by
  rw [Bool.eq_iff_iff, isPeriodEntry_iff, isPeriodEntry_iff, isActiveId_setStatus, if_neg he,
    setStatus_get?, if_neg he]

/-- The total of a row changes by what the journal has in it. -/
theorem periodTotal_setStatus (key : PeriodKey) (f : LedgerEntry → Amount) :
    sumEntries db.entries (isPeriodEntry (setStatus db t status) key) f =
      sumEntries db.entries (isPeriodEntry db key) f -
          (if isActiveId db t = true then journalPart db t key f else 0) +
        if isActiveId (setStatus db t status) t = true then journalPart db t key f else 0 := by
  have hpart : ∀ l : LedgerDb,
      (∀ p : IsoDate → Bool, transactionIs l (fun _ row => p row.transactionDate) t =
        transactionIs db (fun _ row => p row.transactionDate) t) →
      sumEntries db.entries (fun e => isPeriodEntry l key e && decide (e.transactionId = t)) f =
        if isActiveId l t = true then journalPart db t key f else 0 := by
    intro l hdates
    have hentry : ∀ e : LedgerEntry, e.transactionId = t → isPeriodEntry l key e =
        (isActiveId l t && (decide (e.accountId = key.accountId) && transactionIs db (fun _ row =>
          PeriodKey.of key.accountId row.transactionDate = key) t)) := by
      rintro e rfl
      rw [← hdates fun date => PeriodKey.of key.accountId date = key]
      unfold isPeriodEntry isActiveId transactionIs
      cases l.transactions.get? e.transactionId with
      | none => simp
      | some row => simp [Bool.and_left_comm]
    split
    · rename_i hactive
      refine sumEntries_congr (fun e _ => ?_) _
      by_cases he : e.transactionId = t
      · simp [hentry e he, he, hactive]
      · simp [he]
    · rename_i hinactive
      refine sumEntries_eq_zero (fun e _ => ?_) _
      by_cases he : e.transactionId = t
      · simp [hentry e he, he, Bool.eq_false_iff.mpr hinactive]
      · simp [he]
  rw [← hpart db fun _ => rfl, ← hpart (setStatus db t status) fun p => ?_]
  · exact sumEntries_agree (fun e _ he =>
      isPeriodEntry_setStatus db t status key e (of_decide_eq_false he)) _
  · unfold transactionIs
    rw [setStatus_get?, if_pos rfl]
    cases db.transactions.get? t <;> rfl

/-- A journal has nothing in the rows a rebuild is not scheduled for. -/
theorem journalPart_eq_zero {key : PeriodKey} (h : key ∉ transactionKeys db t)
    (f : LedgerEntry → Amount) : journalPart db t key f = 0 := by
  refine sumEntries_eq_zero (fun e he => ?_) f
  rw [Bool.eq_false_iff]
  intro htrue
  simp only [Bool.and_eq_true, decide_eq_true_eq, transactionIs, Option.any_eq_true] at htrue
  obtain ⟨hid, haccount, row, hrow, hkey⟩ := htrue
  refine h ?_
  unfold transactionKeys
  rw [hrow, List.mem_eraseDups]
  refine List.mem_map.mpr ⟨e, List.mem_filter.mpr ⟨he, decide_eq_true hid⟩, ?_⟩
  rw [haccount, hkey]

end Sums

end SmartErpPos.Ledger
