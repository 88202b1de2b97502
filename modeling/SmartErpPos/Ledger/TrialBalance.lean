/-
  Ledger/TrialBalance.lean --- the books balance as a whole.

  Sources: `services/accountingCore.ts` (`createJournalEntry`, `reverseTransaction`,
  `getAccountBalance`) and `services/glPeriodRebuildService.ts`.

  Each journal balances when it is posted, and a reversal swaps the sides of rows that
  balance.  A report counts the rows of a transaction all or none.  So over all accounts
  every report comes to zero, month by month, and so do the cached balances wherever they
  are those of the ledger.
-/
import SmartErpPos.Ledger.BalanceCache
import SmartErpPos.Ledger.JournalBalance
import SmartErpPos.Lib.KeyedSum

set_option autoImplicit false

namespace SmartErpPos.Ledger

open SmartErpPos.Lib

/-- The rows of every journal come to zero. -/
def JournalsBalance (db : LedgerDb) : Prop :=
  ∀ id, ((entriesOf db id).map (·.signed .DEBIT)).sum = 0

/-- A balance seen from the debit side. -/
def AccountRow.cachedDebit (row : AccountRow) : Amount :=
  match row.normalBalance with
  | .DEBIT => row.currentBalance
  | .CREDIT => -row.currentBalance

/-- The trial balance, the totals of each month, and the cached balances where they are those
of the ledger. -/
structure BooksBalance (db : LedgerDb) : Prop where
  trial : (db.accounts.keys.map fun a => netActiveBalance db a .DEBIT).sum = 0
  months : ∀ year month,
    (db.accounts.keys.map fun a => periodDebits db ⟨a, year, month⟩).sum =
      (db.accounts.keys.map fun a => periodCredits db ⟨a, year, month⟩).sum
  cached : CacheMatches db → (db.accounts.values.map (·.cachedDebit)).sum = 0

/-- The lines of a posting are whole thousandths. -/
def LedgerCall.WholeThousandths : LedgerCall → Prop
  | .create _ request => Ledger.WholeThousandths request.lines
  | .reverse _ _ => True

/-! ## Every journal -/

variable {db : LedgerDb} {written : List LedgerEntry}

/-- The rows come to what the lines say. -/
theorem sum_signed_of_entered {id : TransactionId} {lines : List JournalLine}
    (h : List.Forall₂ (Entered db id) lines written) :
    (written.map (·.signed .DEBIT)).sum = (lines.map (·.storedChange .DEBIT)).sum := by
  refine congrArg List.sum (map_eq_map h fun line e he => ?_).symm
  exact (he.1.signed_eq .DEBIT).symm

/-- New rows leave those of the other journals. -/
theorem entriesOf_append {db' : LedgerDb} {n id : TransactionId}
    (hentries : db'.entries = db.entries ++ written) (hwritten : ∀ e ∈ written, e.transactionId = n)
    (hid : id ≠ n) : entriesOf db' id = entriesOf db id := by
  have hnone : written.filter (fun e => decide (e.transactionId = id)) = [] := by
    refine List.filter_eq_nil_iff.mpr fun e he => ?_
    rw [hwritten e he]
    simpa using hid.symm
  unfold entriesOf
  rw [hentries, List.filter_append, hnone, List.append_nil]

/-- A new journal has the rows that are written for it. -/
theorem entriesOf_new {db' : LedgerDb} (hwf : WellFormed db)
    (hentries : db'.entries = db.entries ++ written)
    (hwritten : ∀ e ∈ written, e.transactionId = db.nextId) :
    entriesOf db' db.nextId = written := by
  have hold : db.entries.filter (fun e => decide (e.transactionId = db.nextId)) = [] :=
    List.filter_eq_nil_iff.mpr fun e he => by simp [hwf.entries_fresh e he]
  have hnew : written.filter (fun e => decide (e.transactionId = db.nextId)) = written :=
    List.filter_eq_self.mpr fun e he => decide_eq_true (hwritten e he)
  unfold entriesOf
  rw [hentries, List.filter_append, hold, hnew, List.nil_append]

/-- A new journal that comes to zero keeps all in balance. -/
theorem JournalsBalance.add {db' : LedgerDb} (h : JournalsBalance db) (hwf : WellFormed db)
    (hentries : db'.entries = db.entries ++ written)
    (hwritten : ∀ e ∈ written, e.transactionId = db.nextId)
    (hzero : (written.map (·.signed .DEBIT)).sum = 0) : JournalsBalance db' := by
  intro id
  rcases eq_or_ne id db.nextId with rfl | hid
  · rw [entriesOf_new hwf hentries hwritten]
    exact hzero
  · rw [entriesOf_append hentries hwritten hid]
    exact h id

/-- A reversal takes back what comes to zero. -/
theorem sum_reversedLines (hwf : WellFormed db) (h : JournalsBalance db) (id : TransactionId) :
    ((reversedLines db id).map (·.storedChange .DEBIT)).sum = 0 := by
  have hlines : (reversedLines db id).map (·.storedChange .DEBIT) =
      (orderedEntries db id).map fun e => -e.signed .DEBIT := by
    refine (map_eq_map (reversedLines_paired hwf id) fun e line hline => ?_).symm
    obtain ⟨row, -, rfl⟩ := hline
    exact (storedChange_reversedLine row.accountCode e .DEBIT).symm
  have hperm : (orderedEntries db id).Perm (entriesOf db id) := List.perm_insertionSort _ _
  have hneg : ((orderedEntries db id).map fun e => -e.signed .DEBIT).sum =
      -((orderedEntries db id).map (·.signed .DEBIT)).sum := by
    rw [List.sum_neg, List.map_map]
    rfl
  rw [hlines, hneg, (hperm.map _).sum_eq, h id, neg_zero]

theorem CallEffect.journalsBalance (hwf : WellFormed db) (h : JournalsBalance db)
    {call : LedgerCall} {out : PostingOutcome} (heffect : CallEffect db call out)
    (hrun : call.run db = .ok out) (hwhole : call.WholeThousandths) : JournalsBalance out.db := by
  cases heffect with
  | found hdb _ _ => exact hdb ▸ h
  | @posted ctx request out header written mid hwrites hposted =>
    obtain ⟨hvalid, hlines⟩ := lines_of_validateRequest (validateRequest_of_ok hrun)
    have hexact := (hposted.balancesExactly hwf hvalid hlines hwhole).balanced
    refine h.add hwf hposted.entries_eq (fun e he => (hposted.lines.of_mem he).1) ?_
    have hsides : (request.lines.map (·.storedChange .DEBIT)).sum =
        debitsOf out.db db.nextId - creditsOf out.db db.nextId := by
      rw [hposted.debitsOf_eq hwf, hposted.creditsOf_eq hwf, ← sum_map_sub]
      rfl
    rw [sum_signed_of_entered hposted.lines.entered, hsides, hexact, sub_self]
  | reversed hwrites hreversed =>
    refine h.add hwf hreversed.entries_eq (fun e he => (hreversed.lines.of_mem he).1) ?_
    rw [sum_signed_of_entered hreversed.lines.entered]
    exact sum_reversedLines hwf h _

/-! ## Over all accounts -/

/-- Where the rows of every journal come to zero, so do those of any choice of journals. -/
theorem sum_signed_of_journals (h : JournalsBalance db) (p : TransactionId → Bool) :
    ((db.entries.filter fun e => p e.transactionId).map (·.signed .DEBIT)).sum = 0 := by
  have hcover : ∀ e ∈ db.entries.filter fun e => p e.transactionId,
      e.transactionId ∈ (db.entries.map (·.transactionId)).toFinset := fun e he =>
    List.mem_toFinset.mpr (List.mem_map_of_mem (List.mem_of_mem_filter he))
  rw [← sum_groups hcover]
  refine Finset.sum_eq_zero fun id _ => ?_
  rw [List.filter_filter]
  cases hp : p id with
  | true =>
    have hall : db.entries.filter (fun e => decide (e.transactionId = id) && p e.transactionId) =
        entriesOf db id := by
      refine List.filter_congr fun e _ => ?_
      rcases eq_or_ne e.transactionId id with rfl | hne
      · rw [hp, Bool.and_true]
      · rw [decide_eq_false hne, Bool.false_and]
    rw [hall]
    exact h id
  | false =>
    have hnone : db.entries.filter (fun e => decide (e.transactionId = id) && p e.transactionId) =
        [] := by
      refine List.filter_eq_nil_iff.mpr fun e _ htrue => ?_
      rw [Bool.and_eq_true, decide_eq_true_eq] at htrue
      rw [htrue.1, hp] at htrue
      cases htrue.2
    rw [hnone]
    rfl

/-- Every row is on one account, so the accounts together have them all. -/
theorem sum_over_accounts (hwf : WellFormed db) (p : LedgerEntry → Bool)
    (f : LedgerEntry → Amount) :
    (db.accounts.keys.map fun a =>
      sumEntries db.entries (fun e => decide (e.accountId = a) && p e) f).sum =
        sumEntries db.entries p f := by
  have hcover : ∀ e ∈ db.entries.filter p, e.accountId ∈ db.accounts.keys.toFinset := fun e he =>
    List.mem_toFinset.mpr
      (OrderedMap.mem_keys_iff.mpr (hwf.entryAccount e (List.mem_of_mem_filter he)))
  have hkeys : db.accounts.keys.Nodup := db.accounts.nodup
  rw [sumEntries, ← sum_groups hcover, List.sum_toFinset _ hkeys]
  refine congrArg List.sum (List.map_congr_left fun a _ => ?_)
  rw [List.filter_filter]
  rfl

/-- The accounts come to zero over any choice of journals. -/
theorem sum_balanceOver (hwf : WellFormed db) (h : JournalsBalance db) (p : TransactionId → Bool) :
    (db.accounts.keys.map fun a => balanceOver db (fun e => p e.transactionId) a .DEBIT).sum = 0 :=
  (sum_over_accounts hwf _ _).trans (sum_signed_of_journals h p)

/-- The credit side of a balance is its debit side with the other sign. -/
theorem netActiveBalance_credit (db : LedgerDb) (a : AccountId) :
    netActiveBalance db a .CREDIT = -netActiveBalance db a .DEBIT := by
  unfold netActiveBalance balanceOver sumEntries
  rw [List.sum_neg, List.map_map]
  exact congrArg List.sum (List.map_congr_left fun e _ => (neg_sub _ _).symm)

theorem cachedDebit_eq {a : AccountId} {row : AccountRow}
    (h : row.currentBalance = netActiveBalance db a row.normalBalance) :
    row.cachedDebit = netActiveBalance db a .DEBIT := by
  unfold AccountRow.cachedDebit
  cases hnormal : row.normalBalance with
  | DEBIT => rw [h, hnormal]
  | CREDIT => rw [h, hnormal, netActiveBalance_credit, neg_neg]

/-- A net-active transaction of a month. -/
def isMonthId (db : LedgerDb) (year month : ℕ) : TransactionId → Bool :=
  transactionIs db fun id row => isNetActive db id row &&
    decide (row.transactionDate.year = year ∧ row.transactionDate.month = month)

/-- A row counts in a month by its account and its journal. -/
theorem isPeriodEntry_eq (db : LedgerDb) (a : AccountId) (year month : ℕ) :
    isPeriodEntry db ⟨a, year, month⟩ =
      fun e => decide (e.accountId = a) && isMonthId db year month e.transactionId := by
  funext e
  simp [isPeriodEntry, isMonthId, PeriodKey.of]

/-- Where every journal comes to zero, the books balance. -/
theorem JournalsBalance.books (h : JournalsBalance db) (hwf : WellFormed db) : BooksBalance db := by
  have htrial : (db.accounts.keys.map fun a => netActiveBalance db a .DEBIT).sum = 0 :=
    sum_balanceOver hwf h (isActiveId db)
  refine ⟨htrial, fun year month => ?_, fun hmatches => ?_⟩
  · have hdebits := sum_over_accounts hwf
      (fun e => isMonthId db year month e.transactionId) (·.debitAmount)
    have hcredits := sum_over_accounts hwf
      (fun e => isMonthId db year month e.transactionId) (·.creditAmount)
    simp only [periodDebits, periodCredits, isPeriodEntry_eq]
    rw [hdebits, hcredits, ← sub_eq_zero, sumEntries, sumEntries, ← sum_map_sub]
    exact sum_signed_of_journals h (isMonthId db year month)
  · rw [← htrial, OrderedMap.values, OrderedMap.keys, List.map_map, List.map_map]
    refine congrArg List.sum (List.map_congr_left fun e he => ?_)
    exact cachedDebit_eq (hmatches e.1 e.2 (OrderedMap.get?_eq_some_iff.mpr he))

/-- After every run of postings of whole thousandths and of reversals, the books balance. -/
theorem books_balance_of_run {db db' : LedgerDb} {ts : List (LedgerDb × LedgerCall × LedgerDb)}
    (hempty : EmptyLedger db) (hrun : Run CallStep db ts db')
    (hwhole : ∀ t ∈ ts, t.2.1.WholeThousandths) : BooksBalance db' := by
  have hgood : WellFormed db' ∧ JournalsBalance db' := by
    refine hrun.ends (P := fun db => WellFormed db ∧ JournalsBalance db)
      (K := fun _ call => call.WholeThousandths) (fun s call s' hgood hstep hwhole => ?_) hwhole
      ⟨hempty.wellFormed, fun id => ?_⟩
    · obtain ⟨out, hout, rfl⟩ := map_eq_ok hstep
      have heffect := LedgerCall.effect hgood.1.idsBelow call hout
      exact ⟨heffect.wellFormed hgood.1, heffect.journalsBalance hgood.1 hgood.2 hout hwhole⟩
    · rw [entriesOf, hempty.entries]
      rfl
  exact hgood.2.books hgood.1

/-- The books balance after the rent. -/
theorem books_balance_rent : BooksBalance booksWithRent :=
  books_balance_of_run books_empty (.cons rentCall_step (.nil _))
    (List.forall_mem_singleton.mpr (show WholeThousandths _ by decide +kernel))

end SmartErpPos.Ledger
