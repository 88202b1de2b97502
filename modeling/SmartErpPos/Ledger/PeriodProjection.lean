/-
  Ledger/PeriodProjection.lean --- the period balances on the caller's transaction.

  A call on a caller's transaction recomputes every account and month it touches
  before it returns: for a posting the month of its date, for a reversal also the
  month of its original.  A month that is closed or locked is left as it was, and
  that is the only way in which a row and the ledger part.
-/
import SmartErpPos.Ledger.Balances
import SmartErpPos.Lib.KeyedSum

set_option autoImplicit false

namespace SmartErpPos.Ledger

open SmartErpPos.Lib

/-! ## Steps -/

inductive PeriodAction where
  | call (call : LedgerCall)
  | lock (period : PeriodId)
  | close (period : PeriodId)

def LedgerCall.path : LedgerCall → PostingPath
  | .create ctx _ => ctx.path
  | .reverse ctx _ => ctx.path

/-- A call on a caller's transaction, or a month that is locked or closed. -/
def PeriodStep (db : LedgerDb) (action : PeriodAction) (db' : LedgerDb) : Prop :=
  match action with
  | .call call => call.path = .txClient ∧ CallStep db call db'
  | .lock period => lockPeriod db period = .ok db'
  | .close period => closePeriod db period = .ok db'

/-- The month of a row is closed or locked. -/
def Frozen (db : LedgerDb) (key : PeriodKey) : Prop :=
  isPeriodFrozen db key.fiscalYear key.fiscalPeriod = true

instance (db : LedgerDb) (key : PeriodKey) : Decidable (Frozen db key) :=
  inferInstanceAs (Decidable (_ = true))

/-- The row is what a rebuild would store. -/
def RowMatches (db : LedgerDb) (key : PeriodKey) : Prop :=
  db.periodBalances.get? key = rowOfTotals (periodDebits db key) (periodCredits db key)

/-- The call adds or removes net-active entries of an account and month. -/
def Touches (db : LedgerDb) (key : PeriodKey) : LedgerCall → Prop
  | .create _ request => PeriodKey.of key.accountId request.entryDate = key ∧
      ∃ row, db.accounts.get? key.accountId = some row ∧
        ∃ line ∈ request.lines, line.accountCode = row.accountCode
  | .reverse _ request => ∃ original,
      db.transactions.get? request.originalTransactionId = some original ∧
        PeriodKey.of key.accountId original.transactionDate = key ∧
          ∃ e ∈ entriesOf db request.originalTransactionId, e.accountId = key.accountId

/-! ## Rebuilding -/

theorem frozen_congr {db db' : LedgerDb} (h : db'.periods = db.periods) (key : PeriodKey) :
    Frozen db' key ↔ Frozen db key := by
  unfold Frozen isPeriodFrozen
  rw [h]

/-- The totals of a row are read off the transactions and the entries. -/
theorem isPeriodEntry_congr {db db' : LedgerDb} (h : db'.transactions = db.transactions)
    (key : PeriodKey) : isPeriodEntry db' key = isPeriodEntry db key := by
  unfold isPeriodEntry transactionIs
  rw [h, isNetActive_congr h]

theorem periodDebits_congr {db db' : LedgerDb} (htx : db'.transactions = db.transactions)
    (hentries : db'.entries = db.entries) (key : PeriodKey) :
    periodDebits db' key = periodDebits db key := by
  unfold periodDebits
  rw [hentries, isPeriodEntry_congr htx]

theorem periodCredits_congr {db db' : LedgerDb} (htx : db'.transactions = db.transactions)
    (hentries : db'.entries = db.entries) (key : PeriodKey) :
    periodCredits db' key = periodCredits db key := by
  unfold periodCredits
  rw [hentries, isPeriodEntry_congr htx]

theorem rebuildSingleAccountPeriod_get? (db : LedgerDb) (key k : PeriodKey) :
    (rebuildSingleAccountPeriod db key).periodBalances.get? k =
      if k = key ∧ ¬ Frozen db key then rowOfTotals (periodDebits db key) (periodCredits db key)
      else db.periodBalances.get? k := by
  unfold rebuildSingleAccountPeriod writePeriodBalance Frozen
  split
  · rename_i hfrozen
    simp [hfrozen]
  · rename_i hopen
    rcases eq_or_ne k key with rfl | hne
    · rw [if_pos ⟨rfl, hopen⟩]
      split
      · rename_i row hrow
        rw [hrow, OrderedMap.get?_set_self]
      · rename_i hrow
        rw [hrow, OrderedMap.get?_erase_self]
    · rw [if_neg fun h => hne h.1]
      split
      · exact OrderedMap.get?_set_of_ne hne _ _
      · exact OrderedMap.get?_erase_of_ne hne _

/-- Rebuilding several rows: each of an open month is what the ledger says. -/
theorem rebuildAll_get? (db : LedgerDb) (keys : List PeriodKey) (k : PeriodKey) :
    (rebuildAll db keys).periodBalances.get? k =
      if k ∈ keys ∧ ¬ Frozen db k then rowOfTotals (periodDebits db k) (periodCredits db k)
      else db.periodBalances.get? k := by
  unfold rebuildAll
  induction keys generalizing db with
  | nil => simp
  | cons key rest ih =>
    obtain ⟨b, hb⟩ := rebuildSingleAccountPeriod_eq db key
    have hrow := rebuildSingleAccountPeriod_get? db key k
    have hfrozen : Frozen (rebuildSingleAccountPeriod db key) k ↔ Frozen db k :=
      frozen_congr (by rw [hb]) k
    have hdebits : periodDebits (rebuildSingleAccountPeriod db key) k = periodDebits db k :=
      periodDebits_congr (by rw [hb]) (by rw [hb]) k
    have hcredits : periodCredits (rebuildSingleAccountPeriod db key) k = periodCredits db k :=
      periodCredits_congr (by rw [hb]) (by rw [hb]) k
    rw [List.foldl_cons, ih]
    simp only [hfrozen, hdebits, hcredits, hrow]
    rcases eq_or_ne k key with rfl | hne
    · by_cases hf : Frozen db k
      · simp [hf]
      · simp [hf]
    · simp [hne]

/-- The rows after a call on a caller's transaction. -/
theorem finishPosting_txClient_get? (db : LedgerDb) (keys : List PeriodKey)
    (lines : List JournalLine) (k : PeriodKey) :
    (finishPosting .txClient db keys lines).periodBalances.get? k =
      if k ∈ keys ∧ ¬ Frozen db k then rowOfTotals (periodDebits db k) (periodCredits db k)
      else db.periodBalances.get? k := by
  rw [finishPosting_periodBalances]
  simp only [rebuildAll_get?, List.mem_eraseDups]

/-! ## The totals of an untouched row -/

variable {key : PeriodKey} {period : PeriodId}

/-- An entry that counts in a row belongs to its account and month. -/
theorem isPeriodEntry_iff {db : LedgerDb} {e : LedgerEntry} :
    isPeriodEntry db key e = true ↔ e.accountId = key.accountId ∧
      ∃ row, db.transactions.get? e.transactionId = some row ∧
        isActiveId db e.transactionId = true ∧
          PeriodKey.of key.accountId row.transactionDate = key := by
  unfold isPeriodEntry transactionIs
  simp only [Bool.and_eq_true, decide_eq_true_eq, Option.any_eq_true, isActiveId_iff]
  refine and_congr_right fun _ => ?_
  constructor
  · rintro ⟨row, hrow, hactive, hkey⟩
    exact ⟨row, hrow, ⟨row, hrow, hactive⟩, hkey⟩
  · rintro ⟨row, hrow, ⟨row', hrow', hactive⟩, hkey⟩
    rw [hrow] at hrow'
    cases hrow'
    exact ⟨row, hrow, hactive, hkey⟩

/-- Totals do not change when no counted entry comes or goes. -/
theorem periodTotals_eq {db db' : LedgerDb} {written : List LedgerEntry}
    (hentries : db'.entries = db.entries ++ written)
    (hold : ∀ e ∈ db.entries, (isPeriodEntry db' key e = true ↔ isPeriodEntry db key e = true))
    (hnew : ∀ e ∈ written, isPeriodEntry db' key e ≠ true) :
    periodDebits db' key = periodDebits db key ∧ periodCredits db' key = periodCredits db key := by
  have hsum : ∀ f, sumEntries db'.entries (isPeriodEntry db' key) f =
      sumEntries db.entries (isPeriodEntry db key) f := by
    intro f
    rw [hentries, sumEntries_append,
      sumEntries_eq_zero (fun e he => Bool.eq_false_iff.mpr (hnew e he)), add_zero]
    exact sumEntries_congr (fun e he => Bool.eq_iff_iff.mpr (hold e he)) f
  exact ⟨hsum _, hsum _⟩

namespace JournalPosted

variable {ctx : PostingContext} {db : LedgerDb} {request : JournalEntryRequest}
  {out : PostingOutcome} {header : TransactionRow} {written : List LedgerEntry} {mid : LedgerDb}

theorem isPeriodEntry_old (hwf : WellFormed db)
    (h : JournalPosted ctx db request out header written mid) (key : PeriodKey) {e : LedgerEntry}
    (he : e ∈ db.entries) : isPeriodEntry out.db key e = true ↔ isPeriodEntry db key e = true := by
  obtain ⟨row, hrow⟩ := hwf.entryTransaction e he
  have hne := (hwf.idsBelow _ _ hrow).ne
  rw [isPeriodEntry_iff, isPeriodEntry_iff, h.headerAdded.isActiveId hwf, if_neg hne,
    h.headerAdded.transactions, OrderedMap.get?_set_of_ne hne]

/-- A new entry counts in the month of the posting. -/
theorem isPeriodEntry_new (hwf : WellFormed db)
    (h : JournalPosted ctx db request out header written mid) (key : PeriodKey) {e : LedgerEntry}
    (he : e ∈ written) : isPeriodEntry out.db key e = true ↔
      PeriodKey.of e.accountId request.entryDate = key := by
  have hid := (h.lines.of_mem he).1
  have hdate : header.transactionDate = request.entryDate := by
    rw [h.header_eq]
    rfl
  rw [isPeriodEntry_iff, hid, h.headerAdded.isActiveId hwf, if_pos rfl, h.headerAdded.transactions,
    OrderedMap.get?_set_self]
  constructor
  · rintro ⟨haccount, row, hrow, -, hkey⟩
    cases hrow
    rw [haccount, ← hdate]
    exact hkey
  · rintro rfl
    exact ⟨rfl, header, rfl, rfl, by rw [hdate]; rfl⟩

/-- A posting keeps the totals of a row it does not touch. -/
theorem periodTotals_of_not_touches (hwf : WellFormed db)
    (h : JournalPosted ctx db request out header written mid) {key : PeriodKey}
    (htouch : ¬ Touches db key (.create ctx request)) :
    periodDebits out.db key = periodDebits db key ∧
      periodCredits out.db key = periodCredits db key := by
  refine periodTotals_eq h.entries_eq (fun e he => h.isPeriodEntry_old hwf key he)
    fun e he hcount => htouch ?_
  have hkey := (h.isPeriodEntry_new hwf key he).mp hcount
  obtain ⟨line, hline, -, row, hrow, hcode⟩ := exists_left_of_mem h.lines.entered he
  subst hkey
  exact ⟨rfl, row, hrow, line, hline, hcode.symm⟩

end JournalPosted

namespace ReversalPosted

variable {ctx : PostingContext} {db : LedgerDb} {request : ReversalRequest} {out : PostingOutcome}
  {original header : TransactionRow} {written : List LedgerEntry} {mid : LedgerDb}

theorem isPeriodEntry_new (hwf : WellFormed db)
    (h : ReversalPosted ctx db request out original header written mid) (key : PeriodKey)
    {e : LedgerEntry} (he : e ∈ written) : isPeriodEntry out.db key e ≠ true := by
  rw [ne_eq, isPeriodEntry_iff, (h.lines.of_mem he).1, h.originalReversed.isActiveId hwf]
  simp

/-- An old entry stops counting when it belongs to the original. -/
theorem isPeriodEntry_old (hwf : WellFormed db)
    (h : ReversalPosted ctx db request out original header written mid) (key : PeriodKey)
    {e : LedgerEntry} (he : e ∈ db.entries) : isPeriodEntry out.db key e = true ↔
      isPeriodEntry db key e = true ∧ e.transactionId ≠ request.originalTransactionId := by
  obtain ⟨row, hrow⟩ := hwf.entryTransaction e he
  have hnew := (hwf.idsBelow _ _ hrow).ne
  have hrev := h.originalReversed
  rw [isPeriodEntry_iff, isPeriodEntry_iff, hrev.isActiveId hwf]
  rcases eq_or_ne e.transactionId request.originalTransactionId with heq | hold
  · simp [heq]
  · simp [hnew, hold, hrev.get?_other hnew hold]

/-- A reversal keeps the totals of a row it does not touch. -/
theorem periodTotals_of_not_touches (hwf : WellFormed db)
    (h : ReversalPosted ctx db request out original header written mid) {key : PeriodKey}
    (htouch : ¬ Touches db key (.reverse ctx request)) :
    periodDebits out.db key = periodDebits db key ∧
      periodCredits out.db key = periodCredits db key := by
  refine periodTotals_eq h.entries_eq (fun e he => ?_)
    (fun e he => h.isPeriodEntry_new hwf key he)
  rw [h.isPeriodEntry_old hwf key he]
  refine and_iff_left_of_imp fun hcount heq => htouch ?_
  obtain ⟨haccount, row, hrow, -, hkey⟩ := isPeriodEntry_iff.mp hcount
  refine ⟨row, heq ▸ hrow, hkey, e, List.mem_filter.mpr ⟨he, by simpa using heq⟩, haccount⟩

/-- A reversal writes an entry on every account of its original. -/
theorem exists_written (hwf : WellFormed db)
    (h : ReversalPosted ctx db request out original header written mid) {e : LedgerEntry}
    (he : e ∈ entriesOf db request.originalTransactionId) :
    ∃ e' ∈ written, e'.accountId = e.accountId := by
  have hordered : e ∈ orderedEntries db request.originalTransactionId :=
    (List.perm_insertionSort _ _).mem_iff.mpr he
  obtain ⟨line, hline, row, hrow, rfl⟩ :=
    exists_right_of_mem (reversedLines_paired hwf request.originalTransactionId) hordered
  obtain ⟨e', he', -, row', hrow', hcode⟩ := exists_right_of_mem h.lines.entered hline
  exact ⟨e', he', db.account_unique hrow' hrow hcode⟩

end ReversalPosted

/-! ## One step -/

namespace JournalPosted

variable {ctx : PostingContext} {db : LedgerDb} {request : JournalEntryRequest}
  {out : PostingOutcome} {header : TransactionRow} {written : List LedgerEntry} {mid : LedgerDb}

theorem periodRow_eq (hpath : ctx.path = .txClient)
    (h : JournalPosted ctx db request out header written mid) (key : PeriodKey) :
    out.db.periodBalances.get? key =
      if key ∈ written.map (fun e => PeriodKey.of e.accountId request.entryDate) ∧ ¬ Frozen db key
      then rowOfTotals (periodDebits out.db key) (periodCredits out.db key)
      else db.periodBalances.get? key := by
  have hdebits : periodDebits mid key = periodDebits out.db key := by
    rw [h.db_eq]
    exact (periodDebits_congr (finishPosting_transactions ..) (finishPosting_entries ..) key).symm
  have hcredits : periodCredits mid key = periodCredits out.db key := by
    rw [h.db_eq]
    exact (periodCredits_congr (finishPosting_transactions ..) (finishPosting_entries ..) key).symm
  have hfrozen : Frozen mid key ↔ Frozen db key := frozen_congr h.lines.periods key
  have hrows : mid.periodBalances = db.periodBalances := h.lines.periodBalances
  have hrow := finishPosting_txClient_get? mid
    (written.map fun e => PeriodKey.of e.accountId request.entryDate) request.lines key
  rw [← hpath, ← h.db_eq] at hrow
  rw [hrow]
  simp only [hdebits, hcredits, hfrozen, hrows]

theorem key_mem_of_touches (h : JournalPosted ctx db request out header written mid)
    {key : PeriodKey} (htouch : Touches db key (.create ctx request)) :
    key ∈ written.map fun e => PeriodKey.of e.accountId request.entryDate := by
  obtain ⟨hkey, row, hrow, line, hline, hcode⟩ := htouch
  obtain ⟨e, he, -, row', hrow', hcode'⟩ := exists_right_of_mem h.lines.entered hline
  have haccount : e.accountId = key.accountId :=
    db.account_unique hrow' hrow (hcode'.trans hcode)
  exact List.mem_map.mpr ⟨e, he, by rw [haccount, hkey]⟩

end JournalPosted

namespace ReversalPosted

variable {ctx : PostingContext} {db : LedgerDb} {request : ReversalRequest} {out : PostingOutcome}
  {original header : TransactionRow} {written : List LedgerEntry} {mid : LedgerDb}

theorem periodRow_eq (hpath : ctx.path = .txClient)
    (h : ReversalPosted ctx db request out original header written mid) (key : PeriodKey) :
    out.db.periodBalances.get? key =
      if key ∈ (written.flatMap fun e => [PeriodKey.of e.accountId request.reversalDate,
        PeriodKey.of e.accountId original.transactionDate]) ∧ ¬ Frozen db key
      then rowOfTotals (periodDebits out.db key) (periodCredits out.db key)
      else db.periodBalances.get? key := by
  let marked := withReversed mid request.originalTransactionId original db.nextId
  have hdebits : periodDebits marked key = periodDebits out.db key := by
    rw [h.db_eq]
    exact (periodDebits_congr (finishPosting_transactions ..) (finishPosting_entries ..) key).symm
  have hcredits : periodCredits marked key = periodCredits out.db key := by
    rw [h.db_eq]
    exact (periodCredits_congr (finishPosting_transactions ..) (finishPosting_entries ..) key).symm
  have hfrozen : Frozen marked key ↔ Frozen db key := frozen_congr h.lines.periods key
  have hrows : marked.periodBalances = db.periodBalances := h.lines.periodBalances
  have hrow := finishPosting_txClient_get? marked
    (written.flatMap fun e => [PeriodKey.of e.accountId request.reversalDate,
      PeriodKey.of e.accountId original.transactionDate])
    (reversedLines db request.originalTransactionId) key
  rw [← hpath, ← h.db_eq] at hrow
  rw [hrow]
  simp only [hdebits, hcredits, hfrozen, hrows]

theorem key_mem_of_touches (hwf : WellFormed db)
    (h : ReversalPosted ctx db request out original header written mid) {key : PeriodKey}
    (htouch : Touches db key (.reverse ctx request)) :
    key ∈ written.flatMap fun e => [PeriodKey.of e.accountId request.reversalDate,
      PeriodKey.of e.accountId original.transactionDate] := by
  obtain ⟨row, hrow, hkey, e, he, haccount⟩ := htouch
  obtain rfl : row = original := Option.some.inj (hrow.symm.trans h.original_get)
  obtain ⟨e', he', hsame⟩ := h.exists_written hwf he
  refine List.mem_flatMap.mpr ⟨e', he', ?_⟩
  rw [hsame, haccount, hkey]
  exact List.mem_cons_of_mem _ List.mem_cons_self

end ReversalPosted

/-- What a call on a caller's transaction does to a row: the row of a closed or locked month
stays; every other row that matched the ledger still does; and a row the call does not
touch matches as before. -/
structure RowStep (db db' : LedgerDb) (key : PeriodKey) (touched : Prop) : Prop where
  frozen : Frozen db key → db'.periodBalances.get? key = db.periodBalances.get? key
  open_ : ¬ Frozen db key → RowMatches db key → RowMatches db' key
  untouched : ¬ touched → RowMatches db key → RowMatches db' key

theorem RowStep.of_rebuilt {db db' : LedgerDb} {touched rebuilt : Prop} [Decidable rebuilt]
    (hrow : db'.periodBalances.get? key = if rebuilt ∧ ¬ Frozen db key
      then rowOfTotals (periodDebits db' key) (periodCredits db' key)
      else db.periodBalances.get? key) (hrebuilt : touched → rebuilt) (hkept : ¬ touched →
      periodDebits db' key = periodDebits db key ∧ periodCredits db' key = periodCredits db key) :
    RowStep db db' key touched := by
  have huntouched : ¬ touched → RowMatches db key → RowMatches db' key := by
    intro hnot hmatches
    obtain ⟨hdebits, hcredits⟩ := hkept hnot
    unfold RowMatches at hmatches ⊢
    rw [hrow]
    split
    · rfl
    · rw [hmatches, hdebits, hcredits]
  refine ⟨fun hfrozen => ?_, fun hopen hmatches => ?_, huntouched⟩
  · rw [hrow, if_neg fun h => h.2 hfrozen]
  · by_cases ht : touched
    · unfold RowMatches
      rw [hrow, if_pos ⟨hrebuilt ht, hopen⟩]
    · exact huntouched ht hmatches

theorem CallEffect.rowStep {db : LedgerDb} {call : LedgerCall} {out : PostingOutcome}
    (hwf : WellFormed db) (hpath : call.path = .txClient) (h : CallEffect db call out)
    (key : PeriodKey) : RowStep db out.db key (Touches db key call) := by
  cases h with
  | found hdb _ _ =>
    rw [hdb]
    exact ⟨fun _ => rfl, fun _ h => h, fun _ h => h⟩
  | posted _ h =>
    exact .of_rebuilt (h.periodRow_eq hpath key) h.key_mem_of_touches
      (h.periodTotals_of_not_touches hwf)
  | reversed _ h =>
    exact .of_rebuilt (h.periodRow_eq hpath key) (h.key_mem_of_touches hwf)
      (h.periodTotals_of_not_touches hwf)

/-- Locking and closing keep everything but the periods, and reopen nothing. -/
structure OnlyFreezes (db db' : LedgerDb) : Prop where
  transactions : db'.transactions = db.transactions
  entries : db'.entries = db.entries
  accounts : db'.accounts = db.accounts
  periodBalances : db'.periodBalances = db.periodBalances
  nextId : db'.nextId = db.nextId

theorem lockPeriod_eq_ok {db db' : LedgerDb} :
    lockPeriod db period = .ok db' ↔ ∃ row, db.periods.get? period = some row ∧
      row.status ≠ .LOCKED ∧
        { db with periods := db.periods.set period { row with status := .LOCKED } } = db' := by
  unfold lockPeriod
  simp only [bind_eq_ok, orThrow_eq_ok, require_eq_ok, pure_eq_ok]
  constructor
  · rintro ⟨row, hrow, -, hstatus, hdb⟩
    exact ⟨row, hrow, hstatus, hdb⟩
  · rintro ⟨row, hrow, hstatus, hdb⟩
    exact ⟨row, hrow, (), hstatus, hdb⟩

theorem closePeriod_eq_ok {db db' : LedgerDb} :
    closePeriod db period = .ok db' ↔ ∃ row, db.periods.get? period = some row ∧
      row.status = .OPEN ∧
        { db with periods := db.periods.set period { row with status := .CLOSED } } = db' := by
  unfold closePeriod
  cases hrow : db.periods.get? period with
  | none => simp
  | some row =>
    by_cases hstatus : row.status = .OPEN
    · simp [hstatus, pure_eq_ok]
    · simp [hstatus]

theorem lockPeriod_onlyFreezes {db db' : LedgerDb} (h : lockPeriod db period = .ok db') :
    OnlyFreezes db db' := by
  obtain ⟨row, -, -, rfl⟩ := lockPeriod_eq_ok.mp h
  exact ⟨rfl, rfl, rfl, rfl, rfl⟩

theorem closePeriod_onlyFreezes {db db' : LedgerDb} (h : closePeriod db period = .ok db') :
    OnlyFreezes db db' := by
  obtain ⟨row, -, -, rfl⟩ := closePeriod_eq_ok.mp h
  exact ⟨rfl, rfl, rfl, rfl, rfl⟩

theorem frozen_iff {db : LedgerDb} :
    Frozen db key ↔ ∃ id row, db.periods.get? id = some row ∧ row.periodYear = key.fiscalYear ∧
      row.periodMonth = key.fiscalPeriod ∧ row.status ≠ .OPEN := by
  unfold Frozen isPeriodFrozen OrderedMap.values
  simp [List.any_map, and_assoc, OrderedMap.get?_eq_some_iff]

/-- Storing a status that is not open keeps closed and locked months. -/
theorem frozen_of_set {db : LedgerDb} {row : FinancialPeriodRow}
    (hrow : db.periods.get? period = some row) {status : PeriodStatus} (hstatus : status ≠ .OPEN)
    (hfrozen : Frozen db key) :
    Frozen { db with periods := db.periods.set period { row with status := status } } key := by
  obtain ⟨id, old, hold, hy, hm, hs⟩ := frozen_iff.mp hfrozen
  refine frozen_iff.mpr ?_
  rcases eq_or_ne id period with rfl | hne
  · rw [hrow] at hold
    cases hold
    exact ⟨id, _, OrderedMap.get?_set_self .., hy, hm, hstatus⟩
  · exact ⟨id, old, (OrderedMap.get?_set_of_ne hne ..).trans hold, hy, hm, hs⟩

theorem CallEffect.periods {db : LedgerDb} {call : LedgerCall} {out : PostingOutcome}
    (h : CallEffect db call out) : out.db.periods = db.periods := by
  cases h with
  | found hdb _ _ => rw [hdb]
  | posted _ h =>
    rw [h.db_eq, finishPosting_periods]
    exact h.lines.periods
  | reversed _ h =>
    rw [h.db_eq, finishPosting_periods]
    exact h.lines.periods

namespace OnlyFreezes

variable {db db' : LedgerDb} (h : OnlyFreezes db db')

include h

theorem wellFormed (hwf : WellFormed db) : WellFormed db' :=
  hwf.congr h.transactions h.entries h.accounts h.nextId

theorem rowStep (key : PeriodKey) : RowStep db db' key False := by
  have hrow : db'.periodBalances.get? key = db.periodBalances.get? key := by
    rw [h.periodBalances]
  have hmatches : RowMatches db key → RowMatches db' key := by
    unfold RowMatches
    rw [hrow, periodDebits_congr h.transactions h.entries,
      periodCredits_congr h.transactions h.entries]
    exact id
  exact ⟨fun _ => hrow, fun _ => hmatches, fun _ => hmatches⟩

end OnlyFreezes

/-- The step is a call that touches the row. -/
def PeriodAction.Touches (db : LedgerDb) (key : PeriodKey) : PeriodAction → Prop
  | .call c => Ledger.Touches db key c
  | _ => False

theorem PeriodStep.wellFormed {db db' : LedgerDb} {action : PeriodAction} (hwf : WellFormed db)
    (h : PeriodStep db action db') : WellFormed db' := by
  cases action with
  | call call => exact h.2.wellFormed hwf
  | lock period => exact (lockPeriod_onlyFreezes h).wellFormed hwf
  | close period => exact (closePeriod_onlyFreezes h).wellFormed hwf

theorem PeriodStep.rowStep {db db' : LedgerDb} {action : PeriodAction} (hwf : WellFormed db)
    (h : PeriodStep db action db') (key : PeriodKey) :
    RowStep db db' key (PeriodAction.Touches db key action) := by
  cases action with
  | call call =>
    obtain ⟨out, rfl, heffect⟩ := h.2.effect hwf
    exact heffect.rowStep hwf h.1 key
  | lock period => exact (lockPeriod_onlyFreezes h).rowStep key
  | close period => exact (closePeriod_onlyFreezes h).rowStep key

/-- No step opens a month. -/
theorem PeriodStep.frozen {db db' : LedgerDb} {action : PeriodAction} (hwf : WellFormed db)
    (h : PeriodStep db action db') (hfrozen : Frozen db key) : Frozen db' key := by
  cases action with
  | call call =>
    obtain ⟨out, rfl, heffect⟩ := h.2.effect hwf
    exact (frozen_congr heffect.periods key).mpr hfrozen
  | lock period =>
    obtain ⟨row, hrow, -, rfl⟩ := lockPeriod_eq_ok.mp h
    exact frozen_of_set hrow (by decide) hfrozen
  | close period =>
    obtain ⟨row, hrow, -, rfl⟩ := closePeriod_eq_ok.mp h
    exact frozen_of_set hrow (by decide) hfrozen

/-! ## Runs -/

theorem EmptyLedger.rowMatches {db : LedgerDb} (h : EmptyLedger db) (key : PeriodKey) :
    RowMatches db key := by
  unfold RowMatches periodDebits periodCredits
  rw [h.periodBalances, h.entries]
  rfl

/-- No call of the run touches the row while its month is closed or locked. -/
def UntouchedWhileFrozen (ts : List (LedgerDb × PeriodAction × LedgerDb)) (key : PeriodKey) : Prop :=
  ∀ t ∈ ts, Frozen t.1 key → ¬ PeriodAction.Touches t.1 key t.2.1

/-- A row that is not touched while its month is closed or locked is what the ledger says. -/
theorem rowMatches_of_run {db db' : LedgerDb} {ts : List (LedgerDb × PeriodAction × LedgerDb)}
    (hempty : EmptyLedger db) (hrun : Run PeriodStep db ts db')
    (huntouched : UntouchedWhileFrozen ts key) : RowMatches db' key := by
  refine (hrun.ends (P := fun s => WellFormed s ∧ RowMatches s key)
    (K := fun s a => Frozen s key → ¬ PeriodAction.Touches s key a) ?_ huntouched
    ⟨hempty.wellFormed, hempty.rowMatches key⟩).2
  rintro s action s' ⟨hs, hmatches⟩ hstep hkeep
  refine ⟨hstep.wellFormed hs, ?_⟩
  have hrow := hstep.rowStep hs key
  by_cases hfrozen : Frozen s key
  · exact hrow.untouched (hkeep hfrozen) hmatches
  · exact hrow.open_ hfrozen hmatches

/-- A month that is open at the end was open all along. -/
theorem untouchedWhileFrozen_of_open {db db' : LedgerDb}
    {ts : List (LedgerDb × PeriodAction × LedgerDb)} (hempty : EmptyLedger db)
    (hrun : Run PeriodStep db ts db') (hopen : ¬ Frozen db' key) : UntouchedWhileFrozen ts key := by
  intro t ht hfrozen
  obtain ⟨-, hwf⟩ := hrun.invariant (P := WellFormed)
    (fun _ _ _ hs h => h.wellFormed hs) hempty.wellFormed
  obtain ⟨rest, hrest⟩ := hrun.suffix_of_mem ht
  have hnext := (hrun.step_of_mem ht).frozen (hwf t ht).1 hfrozen
  obtain ⟨⟨-, hlast⟩, -⟩ := hrest.invariant (P := fun s => WellFormed s ∧ Frozen s key)
    (fun _ _ _ hs h => ⟨h.wellFormed hs.1, h.frozen hs.1 hs.2⟩) ⟨(hwf t ht).2, hnext⟩
  exact absurd hlast hopen

/-! ## Totals of an account -/

/-- The sum over all rows of an account, debits minus credits. -/
def rowsTotal (db : LedgerDb) (a : AccountId) : PeriodAmount :=
  db.periodBalances.sumWhere (fun key => key.accountId = a) fun row =>
    row.debitTotal - row.creditTotal

/-- The amounts of the entries are whole cents. -/
def WholeCents (db : LedgerDb) : Prop :=
  ∀ e ∈ db.entries, e.debitAmount.toRat = (roundCents e.debitAmount).toRat ∧
    e.creditAmount.toRat = (roundCents e.creditAmount).toRat

/-- A sum of whole cents is not rounded. -/
theorem roundCents_sum {amounts : List Amount}
    (h : ∀ x ∈ amounts, x.toRat = (roundCents x).toRat) :
    (roundCents amounts.sum).toRat = amounts.sum.toRat := by
  obtain ⟨cents, hcents⟩ : ∃ c : PeriodAmount, amounts.sum.toRat = c.toRat := by
    induction amounts with
    | nil => exact ⟨0, by simp⟩
    | cons x rest ih =>
      obtain ⟨hx, hrest⟩ := List.forall_mem_cons.mp h
      obtain ⟨c, hc⟩ := ih hrest
      exact ⟨roundCents x + c, by rw [List.sum_cons, Numeric.toRat_add, Numeric.toRat_add, hx, hc]⟩
  unfold roundCents
  rw [hcents, Numeric.ofRat_toRat]

/-- The account and month an entry belongs to. -/
def entryKey (db : LedgerDb) (e : LedgerEntry) : PeriodKey :=
  match db.transactions.get? e.transactionId with
  | some row => PeriodKey.of e.accountId row.transactionDate
  | none => ⟨e.accountId, 0, 0⟩

/-- The net-active entries of an account. -/
def activeEntries (db : LedgerDb) (a : AccountId) : List LedgerEntry :=
  db.entries.filter fun e => decide (e.accountId = a) && isActiveEntry db e

/-- Debits minus credits of an entry. -/
def LedgerEntry.net (e : LedgerEntry) : Amount := e.debitAmount - e.creditAmount

theorem sumEntries_net (entries : List LedgerEntry) (p : LedgerEntry → Bool) :
    sumEntries entries p LedgerEntry.net =
      sumEntries entries p (·.debitAmount) - sumEntries entries p (·.creditAmount) := by
  unfold sumEntries
  induction entries.filter p with
  | nil => simp
  | cons e rest ih =>
    simp only [List.map_cons, List.sum_cons, ih, LedgerEntry.net]
    abel

/-- The net-active entries of an account in a month are what its row counts. -/
theorem activeEntries_of_key {db : LedgerDb} (hwf : WellFormed db) :
    (((activeEntries db key.accountId).filter fun e => entryKey db e = key).map
      LedgerEntry.net).sum = periodDebits db key - periodCredits db key := by
  unfold periodDebits periodCredits
  rw [← sumEntries_net]
  unfold activeEntries sumEntries
  rw [List.filter_filter]
  congr 2
  refine List.filter_congr fun e he => ?_
  obtain ⟨row, hrow⟩ := hwf.entryTransaction e he
  rw [Bool.eq_iff_iff, isPeriodEntry_iff]
  simp only [Bool.and_eq_true, decide_eq_true_eq, entryKey, hrow, isActiveEntry]
  constructor
  · rintro ⟨hkey, haccount, hactive⟩
    exact ⟨haccount, row, rfl, hactive, haccount ▸ hkey⟩
  · rintro ⟨haccount, row', hrow', hactive, hkey⟩
    cases hrow'
    exact ⟨haccount ▸ hkey, haccount, hactive⟩

/-- A row of whole cents is not rounded. -/
theorem rowValue_eq {db : LedgerDb} (hcents : WholeCents db) (hmatches : RowMatches db key) :
    (db.periodBalances.valueAt
        (fun row : PeriodBalanceRow => row.debitTotal - row.creditTotal) key).toRat =
      (periodDebits db key - periodCredits db key).toRat := by
  unfold RowMatches at hmatches
  cases hrow : db.periodBalances.get? key with
  | none =>
    rw [hrow] at hmatches
    unfold rowOfTotals at hmatches
    split at hmatches
    · rename_i hzero
      rw [OrderedMap.valueAt_of_get?_none hrow, hzero.1, hzero.2]
      simp
    · cases hmatches
  | some row =>
    rw [hrow] at hmatches
    unfold rowOfTotals at hmatches
    split at hmatches
    · cases hmatches
    · cases hmatches
      have hdebits : (roundCents (periodDebits db key)).toRat = (periodDebits db key).toRat := by
        refine roundCents_sum fun x hx => ?_
        obtain ⟨e, he, rfl⟩ := List.mem_map.mp hx
        exact (hcents e (List.mem_filter.mp he).1).1
      have hcredits : (roundCents (periodCredits db key)).toRat = (periodCredits db key).toRat := by
        refine roundCents_sum fun x hx => ?_
        obtain ⟨e, he, rfl⟩ := List.mem_map.mp hx
        exact (hcents e (List.mem_filter.mp he).1).2
      rw [OrderedMap.valueAt_of_get? hrow]
      show (roundCents (periodDebits db key) - roundCents (periodCredits db key)).toRat = _
      rw [Numeric.toRat_sub, Numeric.toRat_sub, hdebits, hcredits]

/-- When every row of an account matches, its rows add up to its net-active entries. -/
theorem rowsTotal_eq {db : LedgerDb} (hwf : WellFormed db) (hcents : WholeCents db)
    {a : AccountId} (hmatches : ∀ key : PeriodKey, key.accountId = a → RowMatches db key) :
    (rowsTotal db a).toRat = (netActiveBalance db a .DEBIT).toRat := by
  let rowKeys := (db.periodBalances.keys.filter fun key => key.accountId = a).toFinset
  let keys := rowKeys ∪ ((activeEntries db a).map (entryKey db)).toFinset
  have haccount : ∀ key ∈ keys, key.accountId = a := by
    intro key hkey
    rcases Finset.mem_union.mp hkey with hkey | hkey
    · simpa using (List.mem_filter.mp (List.mem_toFinset.mp hkey)).2
    · obtain ⟨e, he, rfl⟩ := List.mem_map.mp (List.mem_toFinset.mp hkey)
      have hactive := (List.mem_filter.mp he).2
      simp only [Bool.and_eq_true, decide_eq_true_eq] at hactive
      unfold entryKey
      split
      · exact hactive.1
      · exact hactive.1
  have hledger : netActiveBalance db a .DEBIT =
      ∑ key ∈ keys, (periodDebits db key - periodCredits db key) := by
    have hgroups : (∑ key ∈ keys, (((activeEntries db a).filter fun e =>
        entryKey db e = key).map LedgerEntry.net).sum) =
        ((activeEntries db a).map LedgerEntry.net).sum :=
      sum_groups fun e he => Finset.mem_union_right _
        (List.mem_toFinset.mpr (List.mem_map.mpr ⟨e, he, rfl⟩))
    show ((activeEntries db a).map LedgerEntry.net).sum = _
    rw [← hgroups]
    refine Finset.sum_congr rfl fun key hkey => ?_
    rw [← haccount key hkey]
    exact activeEntries_of_key hwf
  have hrows : (rowsTotal db a).toRat = ∑ key ∈ rowKeys,
      (periodDebits db key - periodCredits db key).toRat := by
    unfold rowsTotal
    rw [OrderedMap.sumWhere_eq_sum_keys, Numeric.toRat_sum]
    refine Finset.sum_congr rfl fun key hkey => ?_
    exact rowValue_eq hcents (hmatches key (haccount key (Finset.mem_union_left _ hkey)))
  rw [hrows, hledger, Numeric.toRat_sum]
  refine Finset.sum_subset Finset.subset_union_left fun key hkey hno => ?_
  have hnone : db.periodBalances.get? key = none := by
    cases hget : db.periodBalances.get? key with
    | none => rfl
    | some row =>
      have hmem := OrderedMap.get?_eq_some_iff.mp hget
      refine absurd (List.mem_toFinset.mpr (List.mem_filter.mpr
        ⟨List.mem_map.mpr ⟨_, hmem, rfl⟩, ?_⟩)) hno
      simpa using haccount key hkey
  rw [← rowValue_eq hcents (hmatches key (haccount key hkey)),
    OrderedMap.valueAt_of_get?_none hnone]
  simp

/-- The period balances after any run of calls on callers' transactions, locks and closings:
the row of a closed or locked month stays as it is; the row of every other month, and of every
month without a touch while it was closed or locked, is what the ledger says; and the rows of
an account whose months all are so add up to its net-active entries. -/
theorem periodBalances_of_run {db db' : LedgerDb} {ts : List (LedgerDb × PeriodAction × LedgerDb)}
    (hempty : EmptyLedger db) (hrun : Run PeriodStep db ts db') :
    (∀ key, ∀ t ∈ ts, Frozen t.1 key →
      t.2.2.periodBalances.get? key = t.1.periodBalances.get? key) ∧
    (∀ key, (¬ Frozen db' key ∨ UntouchedWhileFrozen ts key) → RowMatches db' key) ∧
    ∀ a, (∀ key : PeriodKey, key.accountId = a →
        ¬ Frozen db' key ∨ UntouchedWhileFrozen ts key) → WholeCents db' →
      (rowsTotal db' a).toRat = (netActiveBalance db' a .DEBIT).toRat := by
  obtain ⟨hlast, hwf⟩ := hrun.invariant (P := WellFormed)
    (fun _ _ _ hs h => h.wellFormed hs) hempty.wellFormed
  have hmatches : ∀ key, (¬ Frozen db' key ∨ UntouchedWhileFrozen ts key) →
      RowMatches db' key := by
    intro key hkey
    refine rowMatches_of_run hempty hrun ?_
    rcases hkey with hopen | huntouched
    · exact untouchedWhileFrozen_of_open hempty hrun hopen
    · exact huntouched
  refine ⟨fun key t ht => ((hrun.step_of_mem ht).rowStep (hwf t ht).1 key).frozen, hmatches, ?_⟩
  intro a hkeys hcents
  exact rowsTotal_eq hlast hcents fun key haccount => hmatches key (hkeys key haccount)

/-! ## A month is locked, then its rent taken back -/

instance (db : LedgerDb) (key : PeriodKey) : Decidable (RowMatches db key) :=
  inferInstanceAs (Decidable (_ = _))

instance (db : LedgerDb) : Decidable (WholeCents db) :=
  inferInstanceAs (Decidable (∀ e ∈ db.entries, _))

def february : IsoDate := { year := 2026, month := 2, day := 1 }

/-- The accounts of `books`, and two open months. -/
def booksWithMonths : LedgerDb :=
  { books with
    periods := (OrderedMap.empty.set 1 ⟨2026, 1, ⟨2026, 1, 1, isMonth_one⟩,
      ⟨2026, 1, 31, isMonth_one⟩, .OPEN⟩).set 2
      ⟨2026, 2, ⟨2026, 2, 1, isMonth_two⟩, ⟨2026, 2, 28, isMonth_two⟩, .OPEN⟩ }

theorem booksWithMonths_empty : EmptyLedger booksWithMonths :=
  ⟨books_empty.transactions, books_empty.entries, books_empty.balances,
    books_empty.periodBalances, books_empty.events⟩

/-- A posting of 100 in January. -/
def januaryRent : LedgerCall :=
  .create (contextOf .txClient booksWithMonths) (rentJournal 100 january "rent" 7)

def monthsWithRent : LedgerDb := januaryRent.after booksWithMonths

theorem januaryRent_step : PeriodStep booksWithMonths (.call januaryRent) monthsWithRent :=
  ⟨rfl, LedgerCall.step_after (by decide +kernel)⟩

/-- The same, with January locked. -/
def monthsLocked : LedgerDb := settled (lockPeriod monthsWithRent 1) monthsWithRent

theorem lockJanuary_step : PeriodStep monthsWithRent (.lock 1) monthsLocked :=
  eq_ok_settled (by decide +kernel) monthsWithRent

/-- Locking a month after its last posting keeps its rows right. -/
theorem januaryRent_locked_matches : RowMatches monthsLocked ⟨1, 2026, 1⟩ ∧
    (rowsTotal monthsLocked 1).toRat = (netActiveBalance monthsLocked 1 .DEBIT).toRat := by
  have hrun : Run PeriodStep booksWithMonths [(booksWithMonths, .call januaryRent, monthsWithRent),
      (monthsWithRent, .lock 1, monthsLocked)] monthsLocked :=
    .cons januaryRent_step (.cons lockJanuary_step (.nil _))
  have huntouched : ∀ key, UntouchedWhileFrozen [(booksWithMonths, .call januaryRent,
      monthsWithRent), (monthsWithRent, .lock 1, monthsLocked)] key := by
    intro key t ht hfrozen
    rcases List.mem_cons.mp ht with rfl | ht
    · obtain ⟨id, row, hrow, -, -, hstatus⟩ := frozen_iff.mp hfrozen
      have hopen : ∀ e ∈ booksWithMonths.periods.entries, e.2.status = .OPEN := by decide
      exact absurd (hopen _ (OrderedMap.get?_eq_some_iff.mp hrow)) hstatus
    · rw [List.mem_singleton.mp ht]
      exact id
  have hrows := (periodBalances_of_run booksWithMonths_empty hrun).2
  exact ⟨hrows.1 _ (.inr (huntouched _)),
    hrows.2 1 (fun key _ => .inr (huntouched key)) (by decide +kernel)⟩

/-- The rent taken back in February. -/
def rentBackInFebruary : LedgerCall :=
  .reverse (contextOf .txClient monthsLocked) (takeBack 10 february "rent-back")

/-- The row of January keeps the 100 that the ledger no longer counts. -/
theorem locked_month_keeps_reversed_rent :
    ¬ ∀ (db db' : LedgerDb) (ts : List (LedgerDb × PeriodAction × LedgerDb)), EmptyLedger db →
        Run PeriodStep db ts db' → ∀ a,
          (rowsTotal db' a).toRat = (netActiveBalance db' a .DEBIT).toRat ∧
            ∀ key : PeriodKey, key.accountId = a → RowMatches db' key := by
  intro h
  have hback : PeriodStep monthsLocked (.call rentBackInFebruary)
      (rentBackInFebruary.after monthsLocked) := ⟨rfl, LedgerCall.step_after (by decide +kernel)⟩
  have hbad : ¬ RowMatches (rentBackInFebruary.after monthsLocked) ⟨1, 2026, 1⟩ := by
    decide +kernel
  have hrun : Run PeriodStep booksWithMonths [(booksWithMonths, .call januaryRent, monthsWithRent),
      (monthsWithRent, .lock 1, monthsLocked), (monthsLocked, .call rentBackInFebruary,
        rentBackInFebruary.after monthsLocked)] (rentBackInFebruary.after monthsLocked) :=
    .cons januaryRent_step (.cons lockJanuary_step (.cons hback (.nil _)))
  exact hbad ((h _ _ _ booksWithMonths_empty hrun 1).2 ⟨1, 2026, 1⟩ rfl)

end SmartErpPos.Ledger
