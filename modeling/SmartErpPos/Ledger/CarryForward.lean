/-
  Ledger/CarryForward.lean --- the balances carried into the next year.

  A close sums all rows of an account up to its year, and writes the sum into period 0 of
  the next one.  From the second close on the rows include what earlier closes have
  written, next to the months it was computed from; and a balance that has gone to zero is
  not written at all, so that an older row stays.

  The rows written are the balances of the ledger along a run in which every close meets
  months that are those of the ledger, no carried balance in the years it sums, and no old
  row where the balance is zero.
-/
import SmartErpPos.Ledger.Reposting
import SmartErpPos.Ledger.YearEndJournal

set_option autoImplicit false

namespace SmartErpPos.Ledger

open SmartErpPos.Lib

/-! ## The balance up to the end of a year -/

/-- A net-active transaction dated in the year or before. -/
def countsUpTo (year : ℕ) (db : LedgerDb) (id : TransactionId) : Bool :=
  isActiveId db id && transactionIs db (fun _ row => row.transactionDate.year ≤ year) id

/-- Debits minus credits of an account up to the end of a year. -/
def balanceUpTo (db : LedgerDb) (a : AccountId) (year : ℕ) : Amount :=
  balanceOver db (fun e => countsUpTo year db e.transactionId) a .DEBIT

/-- A row, or the lack of one, says that the balance is `net`. -/
def RowIs (row : Option PeriodBalanceRow) (net : ℚ) : Prop :=
  match row with
  | none => net = 0
  | some row => row.runningBalance.toRat = net ∧ row.debitTotal.toRat - row.creditTotal.toRat = net

/-- Period 0 of the next year holds the balance of every asset, liability and equity account
at the end of the year. -/
def CarriedForward (books : FiscalBooks) (year : ℕ) : Prop :=
  ∀ a row, books.ledger.accounts.get? a = some row →
    (books.accountType a).isBalanceSheet = true →
      RowIs (books.ledger.periodBalances.get? (openingKey a (year + 1)))
        (balanceUpTo books.ledger a year).toRat

/-! ## Runs -/

/-- The books, and the years that were closed and in which nothing has been posted or taken
back since. -/
structure YearState where
  books : FiscalBooks
  closed : Set ℕ

inductive YearAction where
  | call (call : LedgerCall)
  | lock (period : PeriodId)
  | close (period : PeriodId)
  /-- A worker recomputes the row of an account in the month of a date. -/
  | rebuild (account : AccountId) (date : IsoDate)
  | closeYear (env : FiscalEnv) (request : FiscalYearCloseRequest)

/-- The call posts a journal of the year or an earlier one, or takes one back. -/
def LedgerCall.WritesUpTo (db : LedgerDb) (year : ℕ) (call : LedgerCall) : Prop :=
  call.Writes db ∧ match call with
    | .create _ request => request.entryDate.year ≤ year
    | .reverse _ request => ∃ original,
        db.transactions.get? request.originalTransactionId = some original ∧
          original.transactionDate.year ≤ year

/-- What an action does to the books. -/
def BooksStep (books : FiscalBooks) (action : YearAction) (after : FiscalBooks) : Prop :=
  match action with
  | .call call => ∃ db, CallStep books.ledger call db ∧ after = { books with ledger := db }
  | .lock period => ∃ db, lockPeriod books.ledger period = .ok db ∧
      after = { books with ledger := db }
  | .close period => ∃ db, closePeriod books.ledger period = .ok db ∧
      after = { books with ledger := db }
  | .rebuild a date => after =
      { books with ledger := rebuildSingleAccountPeriod books.ledger (PeriodKey.of a date) }
  | .closeYear env request => ∃ result, closeFiscalYear env books request = .ok (after, result)

/-- The years that stand closed after an action. -/
def YearAction.closedAfter (s : YearState) : YearAction → Set ℕ
  | .call c => { year ∈ s.closed | ¬ c.WritesUpTo s.books.ledger year }
  | .closeYear _ request => insert request.fiscalYear s.closed
  | _ => s.closed

def YearStep (s : YearState) (action : YearAction) (s' : YearState) : Prop :=
  BooksStep s.books action s'.books ∧ s'.closed = action.closedAfter s

/-! ## When a close counts once -/

/-- Debits minus credits of the rows a condition selects. -/
def rowsNet (db : LedgerDb) (p : PeriodKey → Bool) : ℚ :=
  (db.periodBalances.sumWhere p PeriodBalanceRow.debitTotal).toRat -
    (db.periodBalances.sumWhere p PeriodBalanceRow.creditTotal).toRat

def isOpeningRow (key : PeriodKey) : Bool := decide (key.fiscalPeriod = 0)

/-- The months of the account up to the year are those of the ledger; no balance has been
carried into these years; and a balance of zero finds no other row in the next year. -/
structure CountsOnce (db : LedgerDb) (year : ℕ) (a : AccountId) : Prop where
  months : rowsNet db (fun key => isUpTo a year key && !isOpeningRow key) =
    (balanceUpTo db a year).toRat
  openings : rowsNet db (fun key => isUpTo a year key && isOpeningRow key) = 0
  notStale : balanceUpTo db a year = 0 →
    RowIs (db.periodBalances.get? (openingKey a (year + 1))) 0

/-- The condition on an action: a close counts every balance once. -/
def KeepsOpenings (s : YearState) : YearAction → Prop
  | .closeYear _ request => ∀ a row, s.books.ledger.accounts.get? a = some row →
      (s.books.accountType a).isBalanceSheet = true →
        CountsOnce s.books.ledger request.fiscalYear a
  | _ => True

variable {books : FiscalBooks} {db db' : LedgerDb}

/-! ## The rows a close writes -/

variable {year : ℕ} {a : AccountId}

/-- What a close sums for an account. -/
theorem CountsOnce.carriedNet_eq (h : CountsOnce db year a) :
    (carriedNet db a year).toRat = (balanceUpTo db a year).toRat := by
  have hsplit : ∀ f : PeriodBalanceRow → PeriodAmount,
      db.periodBalances.sumWhere (isUpTo a year) f =
        db.periodBalances.sumWhere (fun key => isUpTo a year key && isOpeningRow key) f +
          db.periodBalances.sumWhere (fun key => isUpTo a year key && !isOpeningRow key) f :=
    fun f => OrderedMap.sumWhere_split (isUpTo a year) isOpeningRow f db.periodBalances
  have hmonths := h.months
  have hopenings := h.openings
  unfold rowsNet at hmonths hopenings
  unfold carriedNet
  rw [hsplit, hsplit, Numeric.toRat_sub, Numeric.toRat_add, Numeric.toRat_add]
  linarith

/-- An amount in cents within 0.001 of zero is zero. -/
theorem periodAmount_eq_zero {x : PeriodAmount} (h : ¬ 1 / 1000 < |x.toRat|) : x = 0 := by
  have hsmall : |(x.units : ℚ)| < 1 := by
    have hunits := Numeric.toRat_mul_pow x
    rw [← hunits, abs_mul]
    have hpow : |(10 : ℚ) ^ 2| = 100 := by norm_num
    rw [hpow]
    linarith [not_lt.mp h]
  have hzero : x.units = 0 := by
    rw [← Int.abs_lt_one_iff]
    exact_mod_cast hsmall
  apply Numeric.toRat_injective
  rw [Numeric.toRat_zero, Numeric.toRat, hzero]
  simp

/-- Such a row says what was summed. -/
theorem rowIs_carriedRow {row : PeriodBalanceRow} (h : carriedRow db a year = some row) :
    RowIs (some row) (carriedNet db a year).toRat := by
  unfold carriedRow at h
  dsimp only at h
  split at h
  · cases h
    refine ⟨rfl, ?_⟩
    dsimp only
    rw [← Numeric.toRat_sub]
    congr 1
    rcases le_total 0 (carriedNet db a year) with hpos | hneg
    · rw [max_eq_left hpos, max_eq_right (neg_nonpos.mpr hpos), sub_zero]
    · rw [max_eq_right hneg, max_eq_left (neg_nonneg.mpr hneg), zero_sub, neg_neg]
  · cases h

theorem openingKey_inj {a' : AccountId} {year' : ℕ} (h : openingKey a year = openingKey a' year') :
    a = a' ∧ year = year' :=
  ⟨congrArg PeriodKey.accountId h, congrArg PeriodKey.fiscalYear h⟩

/-- The rows a close writes, by account. -/
theorem mem_carriedRows_iff {e : AccountId × PeriodBalanceRow} :
    e ∈ books.carriedRows year ↔ (∃ row, books.ledger.accounts.get? e.1 = some row) ∧
      (books.accountType e.1).isBalanceSheet = true ∧
        carriedRow books.ledger e.1 year = some e.2 := by
  unfold FiscalBooks.carriedRows
  simp only [List.mem_filterMap, List.mem_filter, OrderedMap.mem_keys_iff, Option.map_eq_some_iff]
  constructor
  · rintro ⟨a, ⟨hrow, htype⟩, row, hcarried, rfl⟩
    exact ⟨hrow, htype, hcarried⟩
  · rintro ⟨hrow, htype, hcarried⟩
    exact ⟨e.1, ⟨hrow, htype⟩, e.2, hcarried, rfl⟩

theorem carriedRows_keys_nodup (books : FiscalBooks) (year : ℕ) :
    ((books.carriedRows year).map fun e => openingKey e.1 (year + 1)).Nodup := by
  unfold FiscalBooks.carriedRows
  rw [List.map_filterMap]
  refine List.Nodup.filterMap ?_ (books.ledger.accounts.nodup.filter _)
  intro a a' key h h'
  simp only [Option.mem_def, Option.map_map, Option.map_eq_some_iff] at h h'
  obtain ⟨row, -, hkey⟩ := h
  obtain ⟨row', -, hkey'⟩ := h'
  exact (openingKey_inj (hkey.trans hkey'.symm)).1

/-- The row of an account in the next year after a close: the sum, or what was there. -/
theorem lockedAndCarried_get?_opening {row : AccountRow}
    (hrow : books.ledger.accounts.get? a = some row)
    (htype : (books.accountType a).isBalanceSheet = true) :
    (books.lockedAndCarried year).ledger.periodBalances.get? (openingKey a (year + 1)) =
      (carriedRow books.ledger a year).or
        (books.ledger.periodBalances.get? (openingKey a (year + 1))) := by
  rw [lockedAndCarried_periodBalances]
  cases hcarried : carriedRow books.ledger a year with
  | some carried =>
    have hmem : (a, carried) ∈ books.carriedRows year :=
      mem_carriedRows_iff.mpr ⟨⟨row, hrow⟩, htype, hcarried⟩
    exact OrderedMap.get?_foldl_set (carriedRows_keys_nodup books year) _ hmem
  | none =>
    refine OrderedMap.get?_foldl_set_of_notMem (fun hmem => ?_) _
    obtain ⟨e, he, hkey⟩ := List.mem_map.mp hmem
    obtain ⟨-, -, hsome⟩ := mem_carriedRows_iff.mp he
    rw [(openingKey_inj hkey).1, hcarried] at hsome
    cases hsome

/-- The rows of other years stay. -/
theorem lockedAndCarried_get?_other {closed : ℕ} (h : year ≠ closed) (a : AccountId) :
    (books.lockedAndCarried closed).ledger.periodBalances.get? (openingKey a (year + 1)) =
      books.ledger.periodBalances.get? (openingKey a (year + 1)) := by
  rw [lockedAndCarried_periodBalances]
  refine OrderedMap.get?_foldl_set_of_notMem (fun hmem => h ?_) _
  obtain ⟨e, -, hkey⟩ := List.mem_map.mp hmem
  exact (Nat.succ_injective (openingKey_inj hkey).2).symm

theorem balanceUpTo_congr (htx : db'.transactions = db.transactions)
    (hentries : db'.entries = db.entries) (a : AccountId) (year : ℕ) :
    balanceUpTo db' a year = balanceUpTo db a year := by
  have hcounts : countsUpTo year db' = countsUpTo year db := by
    unfold countsUpTo transactionIs
    rw [isActiveId_congr htx, htx]
  unfold balanceUpTo
  rw [hcounts]
  exact balanceOver_congr hentries (fun _ _ => rfl) a .DEBIT

/-- A close that counts every balance once carries the balances forward. -/
theorem carriedForward_lockedAndCarried (h : ∀ a row, books.ledger.accounts.get? a = some row →
      (books.accountType a).isBalanceSheet = true → CountsOnce books.ledger year a) :
    CarriedForward (books.lockedAndCarried year) year := by
  intro a row hrow htype
  have hrow : books.ledger.accounts.get? a = some row := hrow
  have htype : (books.accountType a).isBalanceSheet = true := htype
  have honce := h a row hrow htype
  rw [lockedAndCarried_get?_opening hrow htype,
    balanceUpTo_congr (lockedAndCarried_transactions books year)
      (lockedAndCarried_entries books year)]
  cases hcarried : carriedRow books.ledger a year with
  | some carried =>
    rw [Option.some_or, ← honce.carriedNet_eq]
    exact rowIs_carriedRow hcarried
  | none =>
    have hzero : carriedNet books.ledger a year = 0 := by
      unfold carriedRow at hcarried
      dsimp only at hcarried
      split at hcarried
      · cases hcarried
      · rename_i hsmall
        exact periodAmount_eq_zero hsmall
    have hbalance : balanceUpTo books.ledger a year = 0 := by
      apply Numeric.toRat_injective
      rw [← honce.carriedNet_eq, hzero, Numeric.toRat_zero, Numeric.toRat_zero]
    rw [Option.none_or, hbalance, Numeric.toRat_zero]
    exact honce.notStale hbalance

/-! ## Postings in between -/

theorem countsUpTo_iff {id : TransactionId} :
    countsUpTo year db id = true ↔ isActiveId db id = true ∧
      ∃ row, db.transactions.get? id = some row ∧ row.transactionDate.year ≤ year := by
  simp [countsUpTo, transactionIs, Option.any_eq_true]

/-- A posting of a later year keeps the balance. -/
theorem JournalPosted.balanceUpTo_eq {ctx : PostingContext} {request : JournalEntryRequest}
    {out : PostingOutcome} {header : TransactionRow} {written : List LedgerEntry} {mid : LedgerDb}
    (hwf : WellFormed db) (h : JournalPosted ctx db request out header written mid)
    (hdate : year < request.entryDate.year) {row : AccountRow}
    (hrow : db.accounts.get? a = some row) : balanceUpTo out.db a year = balanceUpTo db a year := by
  have hheader : header.transactionDate = request.entryDate := by
    rw [h.header_eq]
    rfl
  have hcounts : ∀ t, countsUpTo year out.db t =
      if t = db.nextId then false else countsUpTo year db t := by
    intro t
    rw [Bool.eq_iff_iff, countsUpTo_iff, h.headerAdded.isActiveId hwf, h.headerAdded.transactions,
      OrderedMap.get?_set]
    split
    · simp [hheader, hdate]
    · exact countsUpTo_iff.symm
  have hafter := h.balanceOver_after hwf (q := countsUpTo year) hcounts hrow .DEBIT
  rw [if_neg Bool.false_ne_true, add_zero] at hafter
  exact hafter

/-- Taking back a journal of a later year keeps the balance. -/
theorem ReversalPosted.balanceUpTo_eq {ctx : PostingContext} {request : ReversalRequest}
    {out : PostingOutcome} {original header : TransactionRow} {written : List LedgerEntry}
    {mid : LedgerDb} (hwf : WellFormed db)
    (h : ReversalPosted ctx db request out original header written mid)
    (hdate : year < original.transactionDate.year) (a : AccountId) :
    balanceUpTo out.db a year = balanceUpTo db a year := by
  have hcounts : ∀ t, countsUpTo year out.db t =
      if t = db.nextId then false else countsUpTo year db t := by
    intro t
    rw [Bool.eq_iff_iff, countsUpTo_iff, h.originalReversed.isActiveId hwf]
    rcases eq_or_ne t db.nextId with rfl | hnew
    · simp
    · rcases eq_or_ne t request.originalTransactionId with rfl | hold
      · rw [if_pos (.inr rfl), if_neg hnew, countsUpTo_iff, h.original_get]
        simp [hdate]
      · rw [if_neg (not_or.mpr ⟨hnew, hold⟩), if_neg hnew, countsUpTo_iff,
          h.originalReversed.get?_other hnew hold]
  unfold balanceUpTo balanceOver
  have hwritten : sumEntries written
      (fun e => decide (e.accountId = a) && countsUpTo year out.db e.transactionId)
      (·.signed .DEBIT) = 0 := by
    refine sumEntries_eq_zero (fun e he => ?_) _
    rw [hcounts, if_pos (h.lines.of_mem he).1, Bool.and_false]
  rw [h.entries_eq, sumEntries_append, hwritten, add_zero]
  refine sumEntries_congr (fun e he => ?_) _
  obtain ⟨r, hr⟩ := hwf.entryTransaction e he
  dsimp only
  rw [hcounts, if_neg (hwf.idsBelow _ _ hr).ne]

/-- A rebuild leaves the rows of period 0. -/
theorem rebuildAll_get?_opening (db : LedgerDb) {keys : List PeriodKey}
    (hkeys : ∀ key ∈ keys, 1 ≤ key.fiscalPeriod) (a : AccountId) (year : ℕ) :
    (rebuildAll db keys).periodBalances.get? (openingKey a year) =
      db.periodBalances.get? (openingKey a year) := by
  rw [rebuildAll_get?, if_neg]
  rintro ⟨hmem, -⟩
  exact absurd (hkeys _ hmem) (by simp [openingKey])

theorem finishPosting_get?_opening (path : PostingPath) (db : LedgerDb) {keys : List PeriodKey}
    (hkeys : ∀ key ∈ keys, 1 ≤ key.fiscalPeriod) (lines : List JournalLine) (a : AccountId)
    (year : ℕ) : (finishPosting path db keys lines).periodBalances.get? (openingKey a year) =
      db.periodBalances.get? (openingKey a year) := by
  rw [finishPosting_periodBalances]
  cases path with
  | ownTransaction => rfl
  | txClient =>
    exact rebuildAll_get?_opening db (fun key hkey => hkeys key (List.mem_eraseDups.mp hkey)) a year

/-- What a call keeps of the years it does not write in. -/
structure KeepsYear (db db' : LedgerDb) (year : ℕ) : Prop where
  accounts : ∀ a row', db'.accounts.get? a = some row' → ∃ row, db.accounts.get? a = some row
  openings : ∀ a, db'.periodBalances.get? (openingKey a (year + 1)) =
    db.periodBalances.get? (openingKey a (year + 1))
  balances : ∀ a row, db.accounts.get? a = some row → balanceUpTo db' a year = balanceUpTo db a year

/-- Then the balances stay carried forward. -/
theorem KeepsYear.carriedForward (h : KeepsYear books.ledger db' year)
    (hcarried : CarriedForward books year) : CarriedForward { books with ledger := db' } year := by
  intro a row' hrow' htype
  obtain ⟨row, hrow⟩ := h.accounts a row' hrow'
  dsimp only
  rw [h.openings, h.balances a row hrow]
  exact hcarried a row hrow htype

theorem SameAccounts.exists_row (h : SameAccounts db db') {row' : AccountRow}
    (hrow' : db'.accounts.get? a = some row') : ∃ row, db.accounts.get? a = some row := by
  rcases h a with ⟨hnone, -⟩ | ⟨row, -, hrow, -⟩
  · rw [hrow'] at hnone
    cases hnone
  · exact ⟨row, hrow⟩

theorem CallEffect.keepsYear {call : LedgerCall} {out : PostingOutcome} (hwf : WellFormed db)
    (h : CallEffect db call out) (hkeeps : ¬ call.WritesUpTo db year) :
    KeepsYear db out.db year := by
  cases h with
  | found hdb _ _ =>
    rw [hdb]
    exact ⟨fun a row hrow => ⟨row, hrow⟩, fun _ => rfl, fun _ _ _ => rfl⟩
  | @posted ctx request _ header written mid hwrites h =>
    have hdate : year < request.entryDate.year := not_le.mp fun hle => hkeeps ⟨hwrites, hle⟩
    refine ⟨fun a row' hrow' => h.sameAccounts.exists_row hrow', fun a => ?_,
      fun a row hrow => h.balanceUpTo_eq hwf hdate hrow⟩
    rw [h.db_eq, finishPosting_get?_opening, h.lines.periodBalances]
    · rfl
    · intro key hkey
      obtain ⟨e, -, rfl⟩ := List.mem_map.mp hkey
      exact request.entryDate.month_valid.1
  | @reversed ctx request _ original header written mid hwrites h =>
    have hdate : year < original.transactionDate.year :=
      not_le.mp fun hle => hkeeps ⟨hwrites, original, h.original_get, hle⟩
    refine ⟨fun a row' hrow' => h.sameAccounts.exists_row hrow', fun a => ?_,
      fun a _ _ => h.balanceUpTo_eq hwf hdate a⟩
    rw [h.db_eq, finishPosting_get?_opening]
    · show mid.periodBalances.get? _ = _
      rw [h.lines.periodBalances]
      rfl
    · intro key hkey
      obtain ⟨e, -, hkey⟩ := List.mem_flatMap.mp hkey
      rcases List.mem_cons.mp hkey with rfl | hkey
      · exact request.reversalDate.month_valid.1
      · rw [List.mem_singleton.mp hkey]
        exact original.transactionDate.month_valid.1

/-- Locking and closing a month keep everything that is carried. -/
theorem OnlyFreezes.keepsYear (h : OnlyFreezes db db') (year : ℕ) : KeepsYear db db' year where
  accounts := fun a row hrow => ⟨row, by rw [← h.accounts, hrow]⟩
  openings := fun a => by rw [h.periodBalances]
  balances := fun a _ _ => balanceUpTo_congr h.transactions h.entries a year

theorem rebuild_keepsYear (db : LedgerDb) (a : AccountId) (date : IsoDate) (year : ℕ) :
    KeepsYear db (rebuildSingleAccountPeriod db (PeriodKey.of a date)) year := by
  obtain ⟨rows, hrows⟩ := rebuildSingleAccountPeriod_eq db (PeriodKey.of a date)
  have hkeys : ∀ key ∈ [PeriodKey.of a date], 1 ≤ key.fiscalPeriod := by
    intro key hkey
    rw [List.mem_singleton.mp hkey]
    exact date.month_valid.1
  refine ⟨fun b row hrow => ⟨row, ?_⟩, fun b => ?_, fun b _ _ => ?_⟩
  · rw [hrows] at hrow
    exact hrow
  · exact rebuildAll_get?_opening db hkeys b (year + 1)
  · rw [hrows]
    exact balanceUpTo_congr rfl rfl b year

/-! ## Runs -/

/-- What holds along a run: the ledger is well formed, and the years that stand closed are
carried forward. -/
structure OpeningsKept (s : YearState) : Prop where
  wellFormed : WellFormed s.books.ledger
  carried : ∀ year ∈ s.closed, CarriedForward s.books year

theorem lockedAndCarried_wellFormed (h : WellFormed books.ledger) (year : ℕ) :
    WellFormed (books.lockedAndCarried year).ledger :=
  h.congr (lockedAndCarried_transactions books year) (lockedAndCarried_entries books year)
    (lockedAndCarried_accounts books year) rfl

/-- A close keeps the rows of the other years. -/
theorem CarriedForward.after_close {closed : ℕ} (hne : year ≠ closed)
    (h : CarriedForward books year) : CarriedForward (books.lockedAndCarried closed) year := by
  intro a row hrow htype
  rw [lockedAndCarried_get?_other hne, balanceUpTo_congr (lockedAndCarried_transactions books closed)
    (lockedAndCarried_entries books closed)]
  exact h a row hrow htype

/-- A step whose close counts once keeps the openings. -/
theorem YearStep.openingsKept {s s' : YearState} {action : YearAction} (h : OpeningsKept s)
    (hstep : YearStep s action s') (hkeeps : KeepsOpenings s action) : OpeningsKept s' := by
  obtain ⟨books', closed'⟩ := s'
  obtain ⟨hbooks, hclosed⟩ := hstep
  dsimp only at hbooks hclosed
  subst hclosed
  cases action with
  | call c =>
    obtain ⟨db, hcall, rfl⟩ := hbooks
    obtain ⟨out, rfl, heffect⟩ := hcall.effect h.wellFormed
    refine ⟨heffect.wellFormed h.wellFormed, fun year hyear => ?_⟩
    exact (heffect.keepsYear h.wellFormed hyear.2).carriedForward (h.carried year hyear.1)
  | lock period =>
    obtain ⟨db, hlock, rfl⟩ := hbooks
    have honly := lockPeriod_onlyFreezes hlock
    refine ⟨honly.wellFormed h.wellFormed, fun year hyear => ?_⟩
    exact (honly.keepsYear year).carriedForward (h.carried year hyear)
  | close period =>
    obtain ⟨db, hclose, rfl⟩ := hbooks
    have honly := closePeriod_onlyFreezes hclose
    refine ⟨honly.wellFormed h.wellFormed, fun year hyear => ?_⟩
    exact (honly.keepsYear year).carriedForward (h.carried year hyear)
  | rebuild a date =>
    cases hbooks
    obtain ⟨rows, hrows⟩ := rebuildSingleAccountPeriod_eq s.books.ledger (PeriodKey.of a date)
    refine ⟨?_, fun year hyear => ?_⟩
    · dsimp only
      rw [hrows]
      exact h.wellFormed.congr rfl rfl rfl rfl
    · exact (rebuild_keepsYear s.books.ledger a date year).carriedForward (h.carried year hyear)
  | closeYear env request =>
    obtain ⟨result, hok⟩ := hbooks
    obtain rfl := (closeFiscalYear_ok hok).after_eq
    refine ⟨lockedAndCarried_wellFormed h.wellFormed _, fun year hyear => ?_⟩
    by_cases hsame : year = request.fiscalYear
    · rw [hsame]
      exact carriedForward_lockedAndCarried hkeeps
    · exact (h.carried year (hyear.resolve_left hsame)).after_close hsame

/-- Where every close counts every balance once, the balances of every year that stands closed
are carried into the next one. -/
theorem carriedForward_of_run {s s' : YearState} {ts : List (YearState × YearAction × YearState)}
    (hwf : WellFormed s.books.ledger) (hstart : s.closed = ∅) (hrun : Run YearStep s ts s')
    (hkeeps : ∀ t ∈ ts, KeepsOpenings t.1 t.2.1) :
    ∀ year ∈ s'.closed, CarriedForward s'.books year := by
  have hinit : OpeningsKept s := ⟨hwf, fun year hyear => by
    rw [hstart] at hyear
    cases hyear⟩
  exact (hrun.ends (P := OpeningsKept) (K := KeepsOpenings)
    (fun _ _ _ h hstep hkeep => hstep.openingsKept h hkeep) hkeeps hinit).carried

/-! ## Two closes -/

/-- The state after a call, and after a close. -/
def YearState.afterCall (s : YearState) (c : LedgerCall) : YearState :=
  ⟨{ s.books with ledger := c.after s.books.ledger }, YearAction.closedAfter s (.call c)⟩

def YearState.afterClose (s : YearState) (request : FiscalYearCloseRequest) : YearState :=
  ⟨settled ((closeFiscalYear fiscalEnv s.books request).map Prod.fst) s.books,
    YearAction.closedAfter s (.closeYear fiscalEnv request)⟩

theorem YearState.step_afterCall {s : YearState} {c : LedgerCall}
    (h : ((c.run s.books.ledger).map (·.db)).toBool = true) :
    YearStep s (.call c) (s.afterCall c) :=
  ⟨⟨_, LedgerCall.step_after h, rfl⟩, rfl⟩

theorem YearState.step_afterClose {s : YearState} {request : FiscalYearCloseRequest}
    (h : ((closeFiscalYear fiscalEnv s.books request).map Prod.fst).toBool = true) :
    YearStep s (.closeYear fiscalEnv request) (s.afterClose request) := by
  obtain ⟨⟨books', result⟩, hok, hbooks'⟩ := map_eq_ok (eq_ok_settled h s.books)
  refine ⟨⟨result, ?_⟩, rfl⟩
  rw [hok]
  exact congrArg (fun b => Except.ok (b, result)) hbooks'

/-- Rent, a loan, retained earnings, cash and a shareholder's loan; nothing posted. -/
def companyStart : YearState :=
  ⟨⟨{ yearStart with
      accounts := (yearStart.accounts.set 4
          ⟨"1010", "Cash", .DEBIT, true, true, [], none, 0⟩).set 5
            ⟨"2600", "Shareholder Loans", .CREDIT, true, true, [], none, 0⟩
      codes_nodup := by decide },
    fun a => if a = 1 then .EXPENSE else if a = 3 then .EQUITY else if a = 4 then .ASSET
      else .LIABILITY⟩, ∅⟩

/-- `drawLoan`: the key is the one the request brings. -/
def drawLoan (db : LedgerDb) (date : IsoDate) (key : String) (document : DocumentId) :
    LedgerCall :=
  .create (contextOf .txClient db)
    { entryDate := date
      description := "Shareholder loan"
      referenceType := "SHAREHOLDER_LOAN"
      referenceId := some document
      referenceNumber := toString document
      lines := [⟨"1010", "Shareholder loan received", 500, 0, none, none⟩,
        ⟨"2600", "Shareholder loan liability", 0, 500, none, none⟩]
      userId := "owner"
      idempotencyKey := key
      source := some .OWNERSHIP_EQUITY }

def january2025 : IsoDate := ⟨2025, 1, 15, isMonth_one⟩

/-- Rent of a year on the loan. -/
def rentOf (db : LedgerDb) (date : IsoDate) (key : String) (document : DocumentId) : LedgerCall :=
  .create (contextOf .txClient db) (rentJournal 100 date key document)

def rentCall2025 : LedgerCall := rentOf companyStart.books.ledger january2025 "rent-2025" 1

def rent2025 : YearState := companyStart.afterCall rentCall2025

def loanCall2025 : LedgerCall := drawLoan rent2025.books.ledger january2025 "year-end-close-2025" 2

def loan2025 : YearState := rent2025.afterCall loanCall2025

def closeOf2025 : FiscalYearCloseRequest := ⟨2025, january2025, "owner", none⟩

def closed2025 : YearState := loan2025.afterClose closeOf2025

def rentCall2026 : LedgerCall := rentOf closed2025.books.ledger january "rent-2026" 3

def rent2026 : YearState := closed2025.afterCall rentCall2026

def loanCall2026 : LedgerCall := drawLoan rent2026.books.ledger january "year-end-close-2026" 4

def loan2026 : YearState := rent2026.afterCall loanCall2026

def closed2026 : YearState := loan2026.afterClose closeOf2026

theorem companyStart_empty : EmptyLedger companyStart.books.ledger where
  transactions := rfl
  entries := rfl
  balances := by
    intro a row hrow
    have hmem := OrderedMap.get?_eq_some_iff.mp hrow
    have hall : ∀ e ∈ companyStart.books.ledger.accounts.entries, e.2.currentBalance = 0 := by
      decide +kernel
    exact hall (a, row) hmem
  periodBalances := rfl
  events := rfl

theorem run_to_closed2025 : Run YearStep companyStart
    [(companyStart, .call rentCall2025, rent2025), (rent2025, .call loanCall2025, loan2025),
      (loan2025, .closeYear fiscalEnv closeOf2025, closed2025)] closed2025 := by
  obtain ⟨hrent, hloan, hclose⟩ :
      ((rentCall2025.run companyStart.books.ledger).map (·.db)).toBool = true ∧
        ((loanCall2025.run rent2025.books.ledger).map (·.db)).toBool = true ∧
        ((closeFiscalYear fiscalEnv loan2025.books closeOf2025).map Prod.fst).toBool = true := by
    decide +kernel
  exact .cons (YearState.step_afterCall hrent)
    (.cons (YearState.step_afterCall hloan)
      (.cons (YearState.step_afterClose hclose) (.nil closed2025)))

theorem run_to_closed2026 : Run YearStep closed2025
    [(closed2025, .call rentCall2026, rent2026), (rent2026, .call loanCall2026, loan2026),
      (loan2026, .closeYear fiscalEnv closeOf2026, closed2026)] closed2026 := by
  obtain ⟨hrent, hloan, hclose⟩ :
      ((rentCall2026.run closed2025.books.ledger).map (·.db)).toBool = true ∧
        ((loanCall2026.run rent2026.books.ledger).map (·.db)).toBool = true ∧
        ((closeFiscalYear fiscalEnv loan2026.books closeOf2026).map Prod.fst).toBool = true := by
    decide +kernel
  exact .cons (YearState.step_afterCall hrent)
    (.cons (YearState.step_afterCall hloan)
      (.cons (YearState.step_afterClose hclose) (.nil closed2026)))

/-- The first close counts every balance once. -/
theorem loan2025_keepsOpenings :
    KeepsOpenings loan2025 (.closeYear fiscalEnv closeOf2025) := by
  intro a row hrow _
  have hmem := OrderedMap.get?_eq_some_iff.mp hrow
  have hnone : loan2025.books.ledger.periodBalances.get? (openingKey a (2025 + 1)) = none := by
    have hkeys : ∀ key ∈ loan2025.books.ledger.periodBalances.keys, key.fiscalPeriod ≠ 0 := by
      decide +kernel
    refine Option.eq_none_iff_forall_ne_some.mpr fun r hr => ?_
    exact hkeys _ (OrderedMap.mem_keys_iff.mpr ⟨r, hr⟩) rfl
  have hall : ∀ e ∈ loan2025.books.ledger.accounts.entries,
      rowsNet loan2025.books.ledger (fun key => isUpTo e.1 2025 key && !isOpeningRow key) =
          (balanceUpTo loan2025.books.ledger e.1 2025).toRat ∧
        rowsNet loan2025.books.ledger (fun key => isUpTo e.1 2025 key && isOpeningRow key) = 0 := by
    decide +kernel
  obtain ⟨hmonths, hopenings⟩ := hall (a, row) hmem
  refine ⟨hmonths, hopenings, fun _ => ?_⟩
  show RowIs (loan2025.books.ledger.periodBalances.get? (openingKey a (2025 + 1))) 0
  rw [hnone]
  rfl

theorem closed2025_carriedForward : EmptyLedger companyStart.books.ledger ∧
    ∀ year ∈ closed2025.closed, CarriedForward closed2025.books year :=
  ⟨companyStart_empty, carriedForward_of_run companyStart_empty.wellFormed rfl run_to_closed2025
    (List.forall_mem_cons.mpr ⟨trivial, List.forall_mem_cons.mpr ⟨trivial,
      List.forall_mem_singleton.mpr loan2025_keepsOpenings⟩⟩)⟩

/-- The second close counts the balance of the first year twice. -/
theorem closed2026_counted_twice : EmptyLedger companyStart.books.ledger ∧
    (∃ ts, Run YearStep companyStart ts closed2026) ∧ 2026 ∈ closed2026.closed ∧
      ¬ CarriedForward closed2026.books 2026 := by
  refine ⟨companyStart_empty, ⟨_, run_to_closed2025.append run_to_closed2026⟩,
    Set.mem_insert _ _, ?_⟩
  intro hcarried
  -- one evaluation of the two years
  obtain ⟨hsome, hopening, hbalance, htype⟩ :
      closed2026.books.ledger.accounts.get? 2 ≠ none ∧
        closed2026.books.ledger.periodBalances.get? (openingKey 2 2027) =
          some ⟨0, ⟨30000⟩, ⟨-30000⟩⟩ ∧
        balanceUpTo closed2026.books.ledger 2 2026 = ⟨-200000000⟩ ∧
        (closed2026.books.accountType 2).isBalanceSheet = true := by decide +kernel
  obtain ⟨row, hrow⟩ := Option.ne_none_iff_exists'.mp hsome
  have his := hcarried 2 row hrow htype
  rw [hopening, hbalance] at his
  have hfalse : ((⟨-30000⟩ : PeriodAmount)).toRat ≠ ((⟨-200000000⟩ : Amount)).toRat := by
    decide +kernel
  exact hfalse his.1

end SmartErpPos.Ledger
