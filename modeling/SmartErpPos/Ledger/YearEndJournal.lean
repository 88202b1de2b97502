/-
  Ledger/YearEndJournal.lean --- when the close of a fiscal year does its work.

  The close posts nothing: it fails, or it finds the journal that holds its key and goes on
  as if that were the closing journal.  So the accounts are at zero after it exactly when
  they were at zero before.
-/
import Mathlib.Order.Interval.Finset.Nat
import SmartErpPos.Ledger.ActivePosting
import SmartErpPos.Ledger.YearEndClose

set_option autoImplicit false

namespace SmartErpPos.Ledger

open SmartErpPos.Lib

/-! ## Years to close -/

/-- What the year of an account adds to the result. -/
def yearNet (db : LedgerDb) (a : AccountId) (year : ℕ) : Amount :=
  ∑ month ∈ Finset.Icc 1 12,
    (periodCredits db ⟨a, year, month⟩ - periodDebits db ⟨a, year, month⟩)

/-- Revenue minus expenses of the year. -/
def FiscalBooks.netIncome (books : FiscalBooks) (year : ℕ) : Amount :=
  ((books.ledger.accounts.keys.filter fun a => (books.accountType a).isProfitAndLoss).map
    fun a => yearNet books.ledger a year).sum

/-- Every month row holds the net-active totals of the ledger. -/
def InSync (db : LedgerDb) : Prop :=
  ∀ key : PeriodKey, 1 ≤ key.fiscalPeriod → key.fiscalPeriod ≤ 12 →
    (db.periodBalances.valueAt PeriodBalanceRow.debitTotal key).toRat = (periodDebits db key).toRat ∧
      (db.periodBalances.valueAt PeriodBalanceRow.creditTotal key).toRat = (periodCredits db key).toRat

/-- The year can be closed: the rows are those of the ledger, no month is open, there are
revenues or expenses, and the closing date lies in the year. -/
structure YearIsOver (books : FiscalBooks) (request : FiscalYearCloseRequest) : Prop where
  inSync : InSync books.ledger
  notOpen : ∀ p ∈ books.ledger.periods.values, p.periodYear = request.fiscalYear →
    p.status ≠ .OPEN
  hasEntries : books.plResult request.fiscalYear ≠ []
  inYear : request.closingDate.year = request.fiscalYear

/-- The revenue and expense accounts are at zero, in the ledger and in the rows of the year. -/
structure ZeroedOut (books : FiscalBooks) (year : ℕ) : Prop where
  balances : ∀ a row, books.ledger.accounts.get? a = some row →
    (books.accountType a).isProfitAndLoss = true →
      netActiveBalance books.ledger a row.normalBalance = 0
  totals : ∀ a row, books.ledger.accounts.get? a = some row →
    (books.accountType a).isProfitAndLoss = true →
      books.ledger.periodBalances.sumWhere (isMonthOf a year) (·.debitTotal) =
        books.ledger.periodBalances.sumWhere (isMonthOf a year) (·.creditTotal)

/-- The entries of a transaction balance. -/
def EntriesBalance (db : LedgerDb) (id : TransactionId) : Prop :=
  ((entriesOf db id).map (·.debitAmount)).sum = ((entriesOf db id).map (·.creditAmount)).sum

/-- The close succeeds, its journal balances, revenues and expenses are at zero, and retained
earnings have moved by the result of the year. -/
def ClosesYear (env : FiscalEnv) (books : FiscalBooks) (request : FiscalYearCloseRequest) : Prop :=
  ∃ after result, closeFiscalYear env books request = .ok (after, result) ∧
    EntriesBalance after.ledger result.closingTransactionId ∧
    ZeroedOut after request.fiscalYear ∧
    ∀ a row, books.ledger.accounts.get? a = some row →
      row.accountCode = request.retainedEarnings →
        netActiveBalance after.ledger a .CREDIT - netActiveBalance books.ledger a .CREDIT =
          books.netIncome request.fiscalYear

/-- Another journal holds the key of the close, and there is nothing to close. -/
structure NothingToClose (books : FiscalBooks) (request : FiscalYearCloseRequest) : Prop where
  notClosed : isClosed books.ledger request.fiscalYear = false
  held : ∃ id, checkIdempotencyKey books.ledger (closeKey request.fiscalYear) = some id ∧
    EntriesBalance books.ledger id
  zeroed : ZeroedOut books request.fiscalYear

variable {env : FiscalEnv} {books after : FiscalBooks} {request : FiscalYearCloseRequest}
  {result : FiscalYearCloseResult} {db : LedgerDb}

/-! ## What a close changes -/

theorem closeReferenceId_not_uuid (year : ℕ) : isUuidInput (closeReferenceId year) = false := by
  refine isUuidInput_eq_false (c := 'Y') ?_ (by decide)
  unfold closeReferenceId
  rw [String.toList_append]
  exact List.mem_append_left _ (by decide)

/-- The books after a close. -/
def FiscalBooks.lockedAndCarried (books : FiscalBooks) (year : ℕ) : FiscalBooks :=
  ({ books with ledger := lockYear books.ledger year } : FiscalBooks).carryForward year

@[simp] theorem lockedAndCarried_accounts (books : FiscalBooks) (year : ℕ) :
    (books.lockedAndCarried year).ledger.accounts = books.ledger.accounts := rfl
@[simp] theorem lockedAndCarried_transactions (books : FiscalBooks) (year : ℕ) :
    (books.lockedAndCarried year).ledger.transactions = books.ledger.transactions := rfl
@[simp] theorem lockedAndCarried_entries (books : FiscalBooks) (year : ℕ) :
    (books.lockedAndCarried year).ledger.entries = books.ledger.entries := rfl
theorem lockedAndCarried_periodBalances (books : FiscalBooks) (year : ℕ) :
    (books.lockedAndCarried year).ledger.periodBalances =
      (books.carriedRows year).foldl (fun m e => m.set (openingKey e.1 (year + 1)) e.2)
        books.ledger.periodBalances := rfl

/-- What is known of a close that succeeds. -/
structure YearClosed (books : FiscalBooks) (request : FiscalYearCloseRequest)
    (after : FiscalBooks) (result : FiscalYearCloseResult) : Prop where
  noneOpen : openPeriods books.ledger request.fiscalYear = 0
  notClosed : isClosed books.ledger request.fiscalYear = false
  held : checkIdempotencyKey books.ledger (closeKey request.fiscalYear) =
    some result.closingTransactionId
  after_eq : after = books.lockedAndCarried request.fiscalYear

/-- A close that succeeds has found its key. -/
theorem closeFiscalYear_ok (h : closeFiscalYear env books request = .ok (after, result)) :
    YearClosed books request after result := by
  unfold closeFiscalYear at h
  simp only [bind_eq_ok, require_eq_ok, pure_eq_ok] at h
  obtain ⟨-, hopen, -, hnot, -, -, posted, hposted, h⟩ := h
  unfold createJournalEntryByText readUuid at hposted
  rw [closeReferenceId_not_uuid] at hposted
  simp only [Bool.false_eq_true, if_false, bind_eq_ok] at hposted
  obtain ⟨-, -, found, hfound, hposted⟩ := hposted
  cases found with
  | none => cases hposted
  | some existing =>
    simp only [pure_eq_ok] at hposted
    subst hposted
    obtain ⟨id, hid, hget⟩ := existingByKey_some hfound
    obtain ⟨row, -, rfl⟩ := Option.map_eq_some_iff.mp hget
    cases h
    exact ⟨hopen, hnot, hid, rfl⟩

theorem closeKey_no_driftHeal (stem : String) (year : ℕ)
    (h : stem.toList.head? = some 'A') : jsStartsWith stem (closeKey year) = false := by
  obtain ⟨rest, hstem⟩ := List.head?_eq_some_iff.mp h
  have hkey : (closeKey year).toList =
      'y' :: ("ear-end-close-".toList ++ (toString year).toList) := by
    unfold closeKey
    rw [String.toList_append]
    rfl
  unfold jsStartsWith
  rw [hstem, hkey]
  rfl

/-- A journal without lines passes the checks of a posting. -/
theorem validateRequest_closing {ctx : PostingContext} {c : Closing}
    (h : (c.journal request).lines = []) :
    validateRequest ctx db (c.journal request) = .ok () := by
  have hap : jsStartsWith "AP-DRIFT-HEAL-" (c.journal request).idempotencyKey = false :=
    closeKey_no_driftHeal _ _ (by decide)
  have har : jsStartsWith "AR-DRIFT-HEAL-" (c.journal request).idempotencyKey = false :=
    closeKey_no_driftHeal _ _ (by decide)
  have htype : (c.journal request).referenceType = "YEAR_END_CLOSE" := rfl
  have hsource : (c.journal request).postingSource = .MANUAL_JOURNAL := rfl
  have hposting : validatePosting .MANUAL_JOURNAL [] (governanceAccounts db [])
      (c.journal request).idempotencyKey = .ok () := rfl
  have hvalid : (validateDoubleEntry []).isValid = true := by decide +kernel
  have hapOk : validateApJournalPosting (c.journal request) = .ok () := by
    unfold validateApJournalPosting
    rw [h, hap, htype]
    rfl
  have harOk : validateArJournalPosting ctx.arMode .MANUAL_JOURNAL (c.journal request) = .ok () := by
    unfold validateArJournalPosting validateArJournalPostingEntity
    rw [h, har]
    cases ctx.arMode <;> rfl
  unfold validateRequest validateJournal
  rw [hsource, hapOk, harOk, h]
  dsimp only
  rw [hposting, require, if_pos hvalid]
  rfl

/-! ## Nothing to close -/

/-- The rows of the months of a year, month by month. -/
theorem sumWhere_isMonthOf (db : LedgerDb) (a : AccountId) (year : ℕ)
    (f : PeriodBalanceRow → PeriodAmount) :
    db.periodBalances.sumWhere (isMonthOf a year) f =
      ∑ month ∈ Finset.Icc 1 12, db.periodBalances.valueAt f ⟨a, year, month⟩ := by
  have hinj : Set.InjOn (fun month : ℕ => (⟨a, year, month⟩ : PeriodKey)) (Finset.Icc 1 12) := by
    intro m _ n _ heq
    exact congrArg PeriodKey.fiscalPeriod heq
  rw [OrderedMap.sumWhere_eq_sum_keys, ← Finset.sum_image hinj]
  refine Finset.sum_subset (fun key hkey => ?_) fun key hkey hnot => ?_
  · rw [List.mem_toFinset, List.mem_filter] at hkey
    have hmonth := hkey.2
    unfold isMonthOf at hmonth
    simp only [Bool.and_eq_true, decide_eq_true_eq] at hmonth
    obtain ⟨⟨⟨haccount, hyear⟩, hlow⟩, hhigh⟩ := hmonth
    refine Finset.mem_image.mpr ⟨key.fiscalPeriod, Finset.mem_Icc.mpr ⟨hlow, hhigh⟩, ?_⟩
    rw [← haccount, ← hyear]
  · obtain ⟨month, hmonth, rfl⟩ := Finset.mem_image.mp hkey
    obtain ⟨hlow, hhigh⟩ := Finset.mem_Icc.mp hmonth
    have hselected : isMonthOf a year ⟨a, year, month⟩ = true := by
      simp [isMonthOf, hlow, hhigh]
    refine OrderedMap.valueAt_of_get?_none (Option.eq_none_iff_forall_ne_some.mpr fun row hrow => ?_)
    refine hnot (List.mem_toFinset.mpr (List.mem_filter.mpr ⟨?_, hselected⟩))
    exact OrderedMap.mem_keys_iff.mpr ⟨row, hrow⟩

/-- On rows that are those of the ledger, the year of an account at zero adds nothing. -/
theorem InSync.yearNet_eq_zero (h : InSync db) {a : AccountId} {year : ℕ}
    (hzero : db.periodBalances.sumWhere (isMonthOf a year) PeriodBalanceRow.debitTotal =
      db.periodBalances.sumWhere (isMonthOf a year) PeriodBalanceRow.creditTotal) : yearNet db a year = 0 := by
  have hdebit : (db.periodBalances.sumWhere (isMonthOf a year) PeriodBalanceRow.debitTotal).toRat =
      ∑ month ∈ Finset.Icc 1 12, (periodDebits db ⟨a, year, month⟩).toRat := by
    rw [sumWhere_isMonthOf, Numeric.toRat_sum]
    refine Finset.sum_congr rfl fun month hmonth => ?_
    obtain ⟨hlow, hhigh⟩ := Finset.mem_Icc.mp hmonth
    exact (h ⟨a, year, month⟩ hlow hhigh).1
  have hcredit : (db.periodBalances.sumWhere (isMonthOf a year) PeriodBalanceRow.creditTotal).toRat =
      ∑ month ∈ Finset.Icc 1 12, (periodCredits db ⟨a, year, month⟩).toRat := by
    rw [sumWhere_isMonthOf, Numeric.toRat_sum]
    refine Finset.sum_congr rfl fun month hmonth => ?_
    obtain ⟨hlow, hhigh⟩ := Finset.mem_Icc.mp hmonth
    exact (h ⟨a, year, month⟩ hlow hhigh).2
  apply Numeric.toRat_injective
  unfold yearNet
  rw [Numeric.toRat_sum]
  simp only [Numeric.toRat_sub, Finset.sum_sub_distrib, Numeric.toRat_zero]
  rw [← hdebit, ← hcredit, hzero, sub_self]

theorem ZeroedOut.netIncome_eq_zero {year : ℕ} (h : ZeroedOut books year)
    (hsync : InSync books.ledger) : books.netIncome year = 0 := by
  unfold FiscalBooks.netIncome
  refine List.sum_eq_zero fun x hx => ?_
  obtain ⟨a, ha, rfl⟩ := List.mem_map.mp hx
  obtain ⟨hmem, htype⟩ := List.mem_filter.mp ha
  obtain ⟨row, hrow⟩ := OrderedMap.mem_keys_iff.mp hmem
  exact hsync.yearNet_eq_zero (h.totals a row hrow htype)

/-- The accounts the close reads are at zero. -/
theorem ZeroedOut.balanceToReverse {year : ℕ} (h : ZeroedOut books year) {row : PlRow}
    (hrow : row ∈ books.plResult year) : row.balanceToReverse = 0 := by
  unfold FiscalBooks.plResult at hrow
  obtain ⟨e, he, rfl⟩ := List.mem_map.mp ((List.perm_insertionSort _ _).mem_iff.mp hrow)
  obtain ⟨hmem, hselected⟩ := List.mem_filter.mp he
  simp only [Bool.and_eq_true] at hselected
  have htotals := h.totals e.1 e.2 (OrderedMap.get?_eq_some_iff.mpr hmem) hselected.1.1
  unfold PlRow.balanceToReverse
  dsimp only
  rw [htotals]
  split <;> exact sub_self _

/-- Accounts at zero give no lines and no result. -/
theorem closeAccounts_of_zero {year : ℕ} {rows : List PlRow}
    (h : ∀ row ∈ rows, row.balanceToReverse = 0) : closeAccounts year rows = ⟨[], 0, 0, 0⟩ := by
  unfold closeAccounts
  induction rows with
  | nil => rfl
  | cons row rest ih =>
    obtain ⟨hrow, hrest⟩ := List.forall_mem_cons.mp h
    have hstep : Closing.addAccount year ⟨[], 0, 0, 0⟩ row = ⟨[], 0, 0, 0⟩ := by
      unfold Closing.addAccount
      simp only [hrow, add_zero, if_true]
      split <;> rfl
    rw [List.foldl_cons, hstep, ih hrest]

/-- Then the close finds its key and goes on. -/
theorem NothingToClose.succeeds (h : NothingToClose books request)
    (hyear : YearIsOver books request) : ∃ result, closeFiscalYear env books request =
      .ok (books.lockedAndCarried request.fiscalYear, result) := by
  obtain ⟨id, hkey, -⟩ := h.held
  obtain ⟨row, hrow, -⟩ := checkIdempotencyKey_eq_some hkey
  have hopen : openPeriods books.ledger request.fiscalYear = 0 := by
    unfold openPeriods
    rw [List.length_eq_zero_iff, List.filter_eq_nil_iff]
    intro p hp
    rw [Bool.and_eq_true, decide_eq_true_eq, decide_eq_true_eq]
    rintro ⟨hof, hstatus⟩
    exact hyear.notOpen p hp hof hstatus
  have hzero : closeAccounts request.fiscalYear (books.plResult request.fiscalYear) = ⟨[], 0, 0, 0⟩ :=
    closeAccounts_of_zero fun row hrow => h.zeroed.balanceToReverse hrow
  have hlines : ((closeAccounts request.fiscalYear
      (books.plResult request.fiscalYear)).journal request).lines = [] := by
    rw [hzero]
    simp [Closing.journal, Closing.retainedLine, Closing.netIncome]
  have hget : getTransaction (books.context env).pool id =
      some ⟨id, row.transactionNumber, row.status, row.totalDebitAmount.toRat,
        row.totalCreditAmount.toRat⟩ := by
    unfold getTransaction FiscalBooks.context
    rw [hrow]
    rfl
  have hposted : createJournalEntryByText env.number (books.context env) books.ledger
      ((closeAccounts request.fiscalYear (books.plResult request.fiscalYear)).journal request)
      (closeReferenceId request.fiscalYear) = .ok ⟨books.ledger, _, []⟩ :=
    createJournalEntryByText_of_held (closeReferenceId_not_uuid request.fiscalYear)
      (validateRequest_closing hlines) hkey hget
  unfold closeFiscalYear
  dsimp only
  rw [require, if_pos hopen, require, if_pos h.notClosed, require, if_pos hyear.hasEntries, hposted]
  exact ⟨_, rfl⟩

/-! ## Afterwards -/

/-- The rows of the months are not those that are carried forward. -/
theorem sumWhere_isMonthOf_lockedAndCarried (books : FiscalBooks) (closed : ℕ) (a : AccountId)
    (year : ℕ) (f : PeriodBalanceRow → PeriodAmount) :
    (books.lockedAndCarried closed).ledger.periodBalances.sumWhere (isMonthOf a year) f =
      books.ledger.periodBalances.sumWhere (isMonthOf a year) f := by
  rw [lockedAndCarried_periodBalances]
  generalize books.carriedRows closed = rows
  generalize books.ledger.periodBalances = m
  induction rows generalizing m with
  | nil => rfl
  | cons e rest ih =>
    have hkey : isMonthOf a year (openingKey e.1 (closed + 1)) = false := by
      simp [isMonthOf, openingKey]
    rw [List.foldl_cons, ih, OrderedMap.sumWhere_set, hkey]
    exact add_zero _

/-- A close changes neither the balances of the ledger nor the totals of the months. -/
theorem zeroedOut_lockedAndCarried_iff (closed year : ℕ) :
    ZeroedOut (books.lockedAndCarried closed) year ↔ ZeroedOut books year := by
  have hbalance : ∀ a normal, netActiveBalance (books.lockedAndCarried closed).ledger a normal =
      netActiveBalance books.ledger a normal := by
    intro a normal
    rw [netActiveBalance_congr (lockedAndCarried_transactions books closed)
      (lockedAndCarried_entries books closed)]
  constructor
  · rintro ⟨hbalances, htotals⟩
    refine ⟨fun a row hrow htype => ?_, fun a row hrow htype => ?_⟩
    · rw [← hbalance]
      exact hbalances a row hrow htype
    · rw [← sumWhere_isMonthOf_lockedAndCarried books closed,
        ← sumWhere_isMonthOf_lockedAndCarried books closed]
      exact htotals a row hrow htype
  · rintro ⟨hbalances, htotals⟩
    refine ⟨fun a row hrow htype => ?_, fun a row hrow htype => ?_⟩
    · rw [hbalance]
      exact hbalances a row hrow htype
    · rw [sumWhere_isMonthOf_lockedAndCarried, sumWhere_isMonthOf_lockedAndCarried]
      exact htotals a row hrow htype

/-- The entries of a transaction stay as they are. -/
theorem entriesBalance_lockedAndCarried_iff (year : ℕ) (id : TransactionId) :
    EntriesBalance (books.lockedAndCarried year).ledger id ↔ EntriesBalance books.ledger id :=
  Iff.rfl

/-- A year is closed as it should be exactly when there is nothing to close in it and the key
of the close is held by another journal. -/
theorem closesYear_iff_nothingToClose (hyear : YearIsOver books request) :
    ClosesYear env books request ↔ NothingToClose books request := by
  constructor
  · rintro ⟨after, result, hok, hbalance, hzero, -⟩
    obtain ⟨-, hnot, hheld, rfl⟩ := closeFiscalYear_ok hok
    exact ⟨hnot, ⟨_, hheld, (entriesBalance_lockedAndCarried_iff _ _).mp hbalance⟩,
      (zeroedOut_lockedAndCarried_iff _ _).mp hzero⟩
  · intro h
    obtain ⟨result, hok⟩ : ∃ result, closeFiscalYear env books request =
        .ok (books.lockedAndCarried request.fiscalYear, result) := h.succeeds hyear
    obtain ⟨id, hkey, hbalance⟩ := h.held
    have hid : result.closingTransactionId = id := by
      have hheld := (closeFiscalYear_ok hok).held
      rw [hkey] at hheld
      exact (Option.some.inj hheld).symm
    refine ⟨_, result, hok, ?_, (zeroedOut_lockedAndCarried_iff _ _).mpr h.zeroed, ?_⟩
    · rw [hid]
      exact (entriesBalance_lockedAndCarried_iff _ _).mpr hbalance
    · intro a row _ _
      rw [h.zeroed.netIncome_eq_zero hyear.inSync]
      have hsame : netActiveBalance (books.lockedAndCarried request.fiscalYear).ledger a .CREDIT =
          netActiveBalance books.ledger a .CREDIT := by
        rw [netActiveBalance_congr (lockedAndCarried_transactions books request.fiscalYear)
          (lockedAndCarried_entries books request.fiscalYear)]
      rw [hsame, sub_self]

/-! ## Two years -/

/-- Rows and entries of some months only. -/
theorem inSync_of_keys {keys : List PeriodKey}
    (hentries : ∀ e ∈ db.entries, ∀ row ∈ db.transactions.get? e.transactionId,
      PeriodKey.of e.accountId row.transactionDate ∈ keys)
    (hrows : ∀ key ∈ db.periodBalances.keys, key ∈ keys)
    (h : ∀ key ∈ keys,
      (db.periodBalances.valueAt PeriodBalanceRow.debitTotal key).toRat =
          (periodDebits db key).toRat ∧
        (db.periodBalances.valueAt PeriodBalanceRow.creditTotal key).toRat =
          (periodCredits db key).toRat) : InSync db := by
  intro key _ _
  by_cases hkey : key ∈ keys
  · exact h key hkey
  · have hnone : db.periodBalances.get? key = none :=
      Option.eq_none_iff_forall_ne_some.mpr fun row hrow =>
        hkey (hrows key (OrderedMap.mem_keys_iff.mpr ⟨row, hrow⟩))
    have hcounts : ∀ e ∈ db.entries, isPeriodEntry db key e = false := by
      intro e he
      refine Bool.eq_false_iff.mpr fun hcount => hkey ?_
      obtain ⟨haccount, row, hrow, -, hof⟩ := isPeriodEntry_iff.mp hcount
      rw [← hof, ← haccount]
      exact hentries e he row hrow
    unfold periodDebits periodCredits
    rw [OrderedMap.valueAt_of_get?_none hnone, OrderedMap.valueAt_of_get?_none hnone,
      sumEntries_eq_zero hcounts, sumEntries_eq_zero hcounts]
    simp

/-- The accounts one by one. -/
theorem zeroedOut_of_entries {year : ℕ} (h : ∀ e ∈ books.ledger.accounts.entries,
    (books.accountType e.1).isProfitAndLoss = true →
      netActiveBalance books.ledger e.1 e.2.normalBalance = 0 ∧
        books.ledger.periodBalances.sumWhere (isMonthOf e.1 year) PeriodBalanceRow.debitTotal =
          books.ledger.periodBalances.sumWhere (isMonthOf e.1 year)
            PeriodBalanceRow.creditTotal) : ZeroedOut books year where
  balances := fun a row hrow htype => (h (a, row) (OrderedMap.get?_eq_some_iff.mp hrow) htype).1
  totals := fun a row hrow htype => (h (a, row) (OrderedMap.get?_eq_some_iff.mp hrow) htype).2

/-- Rent, a loan and retained earnings. -/
def yearStart : LedgerDb :=
  { Ledger.books with
    accounts := Ledger.books.accounts.set 3
      ⟨"3100", "Retained Earnings", .CREDIT, true, true, [], none, 0⟩
    codes_nodup := by decide }

def typeOf : AccountId → AccountType
  | 1 => .EXPENSE
  | 2 => .LIABILITY
  | _ => .EQUITY

/-- The only month of the year, closed. -/
def januaryClosed : OrderedMap PeriodId FinancialPeriodRow :=
  OrderedMap.empty.set 1
    ⟨2026, 1, ⟨2026, 1, 1, isMonth_one⟩, ⟨2026, 1, 31, isMonth_one⟩, .CLOSED⟩

/-- A posting inside a business transaction. -/
def ownRent (db : LedgerDb) (amount : ℚ) (key : String) (document : DocumentId) : LedgerCall :=
  .create (contextOf .txClient db) (rentJournal amount january key document)

def yearWithRent : LedgerDb := (ownRent yearStart 100 "rent" 7).after yearStart

/-- A year with rent of 100. -/
def rentYear : FiscalBooks := ⟨{ yearWithRent with periods := januaryClosed }, typeOf⟩

def fiscalEnv : FiscalEnv := ⟨fun _ => 0, .enforce, 0⟩

def closeOf2026 : FiscalYearCloseRequest := ⟨2026, ⟨2026, 1, 31, isMonth_one⟩, "owner", none⟩

theorem rentYear_isOver : YearIsOver rentYear closeOf2026 where
  inSync := by
    have hkeys : ∀ key ∈ rentYear.ledger.periodBalances.keys,
        key ∈ [(⟨1, 2026, 1⟩ : PeriodKey), ⟨2, 2026, 1⟩] := by decide +kernel
    exact inSync_of_keys (by decide +kernel) hkeys (by decide +kernel)
  notOpen := by decide +kernel
  hasEntries := by
    have hlength : (rentYear.plResult closeOf2026.fiscalYear).length = 1 := by decide +kernel
    intro hnil
    rw [hnil] at hlength
    cases hlength
  inYear := rfl

/-- The close of a year with rent in it fails: its reference is no UUID. -/
theorem rentYear_not_closed : YearIsOver rentYear closeOf2026 ∧
    ¬ ClosesYear fiscalEnv rentYear closeOf2026 := by
  refine ⟨rentYear_isOver, ?_⟩
  rintro ⟨after, result, hok, -⟩
  have hfails : (closeFiscalYear fiscalEnv rentYear closeOf2026).toBool = false := by
    decide +kernel
  rw [hok] at hfails
  cases hfails

/-- The rent is taken back by a journal that has the key of the close. -/
def rentRefund : JournalEntryRequest where
  entryDate := january
  description := "Rent refund"
  referenceType := "EXPENSE"
  referenceId := some 8
  referenceNumber := "EXP-8"
  lines := [⟨"2500", "Loan", 100, 0, none, none⟩, ⟨"6100", "Rent", 0, 100, none, none⟩]
  userId := "clerk"
  idempotencyKey := "year-end-close-2026"
  source := none

def yearWithRefund : LedgerDb :=
  (LedgerCall.create (contextOf .txClient yearWithRent) rentRefund).after yearWithRent

/-- A year whose accounts are at zero. -/
def settledYear : FiscalBooks := ⟨{ yearWithRefund with periods := januaryClosed }, typeOf⟩

theorem settledYear_isOver : YearIsOver settledYear closeOf2026 where
  inSync := by
    have hkeys : ∀ key ∈ settledYear.ledger.periodBalances.keys,
        key ∈ [(⟨1, 2026, 1⟩ : PeriodKey), ⟨2, 2026, 1⟩] := by decide +kernel
    exact inSync_of_keys (by decide +kernel) hkeys (by decide +kernel)
  notOpen := by decide +kernel
  hasEntries := by
    have hlength : (settledYear.plResult closeOf2026.fiscalYear).length = 1 := by decide +kernel
    intro hnil
    rw [hnil] at hlength
    cases hlength
  inYear := rfl

theorem settledYear_nothingToClose : NothingToClose settledYear closeOf2026 where
  notClosed := by decide +kernel
  held := ⟨11, by decide +kernel, by unfold EntriesBalance; decide +kernel⟩
  zeroed := zeroedOut_of_entries (by decide +kernel)

theorem closesYear_settledYear : YearIsOver settledYear closeOf2026 ∧
    ClosesYear fiscalEnv settledYear closeOf2026 :=
  ⟨settledYear_isOver,
    (closesYear_iff_nothingToClose settledYear_isOver).mpr settledYear_nothingToClose⟩

end SmartErpPos.Ledger
