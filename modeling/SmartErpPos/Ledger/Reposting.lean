/-
  Ledger/Reposting.lean --- posting a document again after its reversal.

  A reversal renames the key of its original and takes the original out of the
  duplicate check, so the same request can be posted again.  That it then succeeds
  needs more: the checks of a request look at the accounts without their balances,
  and nothing else that a posting depends on changes between the two postings.

  Two kinds of documents cannot be posted again.  An empty key is not renamed, and
  the index on sales still sees the reversed row.
-/
import SmartErpPos.Ledger.ActivePosting

set_option autoImplicit false

namespace SmartErpPos.Ledger

open SmartErpPos.Lib

/-! ## Accounts without balances -/

/-- The account with another balance. -/
def AccountRow.withBalance (row : AccountRow) (balance : Amount) : AccountRow :=
  { row with currentBalance := balance }

/-- Two account tables that differ in balances only. -/
def SameAccounts (db db' : LedgerDb) : Prop :=
  ∀ a, (db'.accounts.get? a = none ∧ db.accounts.get? a = none) ∨
    ∃ row balance, db.accounts.get? a = some row ∧
      db'.accounts.get? a = some (row.withBalance balance)

theorem SameAccounts.refl (db : LedgerDb) : SameAccounts db db := by
  intro a
  cases h : db.accounts.get? a with
  | none => exact .inl ⟨rfl, rfl⟩
  | some row => exact .inr ⟨row, row.currentBalance, rfl, rfl⟩

theorem SameAccounts.trans {db db' db'' : LedgerDb} (h : SameAccounts db db')
    (h' : SameAccounts db' db'') : SameAccounts db db'' := by
  intro a
  rcases h a with ⟨hnone', hnone⟩ | ⟨row, b, hrow, hrow'⟩
  · rcases h' a with ⟨hnone'', -⟩ | ⟨r, -, hr, -⟩
    · exact .inl ⟨hnone'', hnone⟩
    · rw [hnone'] at hr
      cases hr
  · rcases h' a with ⟨-, hnone'⟩ | ⟨r, b', hr, hr'⟩
    · rw [hrow'] at hnone'
      cases hnone'
    · rw [hrow'] at hr
      cases hr
      exact .inr ⟨row, b', hrow, hr'⟩

theorem SameAccounts.of_map {db db' : LedgerDb} {f : AccountId → AccountRow → AccountRow}
    (hget : ∀ a, db'.accounts.get? a = (db.accounts.get? a).map (f a))
    (hf : ∀ a row, ∃ balance, f a row = row.withBalance balance) : SameAccounts db db' := by
  intro a
  rw [hget]
  cases h : db.accounts.get? a with
  | none => exact .inl ⟨rfl, rfl⟩
  | some row =>
    obtain ⟨balance, hbalance⟩ := hf a row
    exact .inr ⟨row, balance, rfl, congrArg some hbalance⟩

theorem rebased_withBalance (db : LedgerDb) (codes : List String) (a : AccountId)
    (row : AccountRow) : ∃ balance, row.rebased db codes a = row.withBalance balance := by
  unfold AccountRow.rebased
  dsimp only
  split
  · exact ⟨_, rfl⟩
  · exact ⟨row.currentBalance, rfl⟩

theorem JournalPosted.sameAccounts {ctx : PostingContext} {db : LedgerDb}
    {request : JournalEntryRequest} {out : PostingOutcome} {header : TransactionRow}
    {written : List LedgerEntry} {mid : LedgerDb}
    (h : JournalPosted ctx db request out header written mid) : SameAccounts db out.db := by
  refine .of_map h.accounts_get? fun a row => ?_
  obtain ⟨balance, hbalance⟩ :=
    rebased_withBalance mid (checkedCodes request.lines) a (row.afterLines request.lines)
  exact ⟨balance, hbalance⟩

theorem ReversalPosted.sameAccounts {ctx : PostingContext} {db : LedgerDb}
    {request : ReversalRequest} {out : PostingOutcome} {original header : TransactionRow}
    {written : List LedgerEntry} {mid : LedgerDb}
    (h : ReversalPosted ctx db request out original header written mid) :
    SameAccounts db out.db := by
  refine .of_map h.accounts_get? fun a row => ?_
  obtain ⟨balance, hbalance⟩ := rebased_withBalance
    (withReversed mid request.originalTransactionId original db.nextId)
    (checkedCodes (reversedLines db request.originalTransactionId)) a
    (row.afterLines (reversedLines db request.originalTransactionId))
  exact ⟨balance, hbalance⟩

/-! ## The checks of a request do not look at balances -/

/-- The same account under a code, up to its balance. -/
def SameFound (accounts accounts' : List AccountRow) : Prop :=
  ∀ code, (findAccount accounts code = none ∧ findAccount accounts' code = none) ∨
    ∃ row balance, findAccount accounts code = some row ∧
      findAccount accounts' code = some (row.withBalance balance)

section SameFound

variable {accounts accounts' : List AccountRow} (h : SameFound accounts accounts')
  (source : PostingSource)

include h

theorem checkLine_congr (line : JournalLine) :
    checkLine source accounts' line = checkLine source accounts line := by
  unfold checkLine
  rcases h line.accountCode with ⟨hnone, hnone'⟩ | ⟨row, balance, hrow, hrow'⟩
  · rw [hnone, hnone']
  · rw [hrow, hrow']
    rfl

theorem restrictTag_congr {tag : String} {sources : List PostingSource}
    {side : JournalLine → Bool} {error : AccountRow → LedgerError}
    (herror : ∀ row balance, error (row.withBalance balance) = error row) (line : JournalLine) :
    restrictTag tag sources side error source accounts' line =
      restrictTag tag sources side error source accounts line := by
  unfold restrictTag
  rcases h line.accountCode with ⟨hnone, hnone'⟩ | ⟨row, balance, hrow, hrow'⟩
  · rw [hnone, hnone']
  · rw [hrow, hrow']
    simp only [herror]
    rfl

theorem someLine_congr {side : JournalLine → Bool} {p : AccountRow → Bool}
    (hp : ∀ row balance, p (row.withBalance balance) = p row) (lines : List JournalLine) :
    someLine accounts' lines side p = someLine accounts lines side p := by
  unfold someLine
  refine congrArg (List.any lines) (funext fun line => ?_)
  rcases h line.accountCode with ⟨hnone, hnone'⟩ | ⟨row, balance, hrow, hrow'⟩
  · rw [hnone, hnone']
  · rw [hrow, hrow']
    simp only [Option.any_some, hp]

theorem ruleE_congr (lines : List JournalLine) :
    ruleE source accounts' lines = ruleE source accounts lines := by
  have htagged : ∀ side tag, someLine accounts' lines side (·.tagged tag) =
      someLine accounts lines side (·.tagged tag) := fun side tag =>
    someLine_congr h (fun _ _ => rfl) lines
  have htaggedOr : ∀ side tags codes, someLine accounts' lines side (·.taggedOr tags codes) =
      someLine accounts lines side (·.taggedOr tags codes) := fun side tags codes =>
    someLine_congr h (fun _ _ => rfl) lines
  have hdeposits : ∀ side, someLine accounts' lines side isCustomerDeposits =
      someLine accounts lines side isCustomerDeposits := fun side =>
    someLine_congr h (fun _ _ => rfl) lines
  have hliquidity : ∀ side, someLine accounts' lines side isLiquidity =
      someLine accounts lines side isLiquidity := fun side =>
    someLine_congr h (fun _ _ => rfl) lines
  have htill : ∀ side, someLine accounts' lines side
      (fun a => a.accountCode = "1010" && a.tagged "CASH") = someLine accounts lines side
        (fun a => a.accountCode = "1010" && a.tagged "CASH") := fun side =>
    someLine_congr h (fun _ _ => rfl) lines
  unfold ruleE
  simp only [htagged, htaggedOr, hdeposits, hliquidity, htill]

theorem ruleH_congr (idempotencyKey : String) (line : JournalLine) :
    ruleH source idempotencyKey accounts' line = ruleH source idempotencyKey accounts line := by
  have hany : (findAccount accounts' line.accountCode).any (·.tagged "INVENTORY") =
      (findAccount accounts line.accountCode).any (·.tagged "INVENTORY") := by
    rcases h line.accountCode with ⟨hnone, hnone'⟩ | ⟨row, balance, hrow, hrow'⟩
    · rw [hnone, hnone']
    · rw [hrow, hrow']
      rfl
  unfold ruleH
  rw [restrictTag_congr h source (fun _ _ => rfl), hany]

theorem validatePosting_congr (lines : List JournalLine) (idempotencyKey : String) :
    validatePosting source lines accounts' idempotencyKey =
      validatePosting source lines accounts idempotencyKey := by
  have hA : checkLine source accounts' = checkLine source accounts :=
    funext (checkLine_congr h source)
  have hD : ruleD source accounts' = ruleD source accounts :=
    funext (restrictTag_congr h source fun _ _ => rfl)
  have hF : ruleF source accounts' = ruleF source accounts :=
    funext (restrictTag_congr h source fun _ _ => rfl)
  have hG : ruleG source accounts' = ruleG source accounts :=
    funext (restrictTag_congr h source fun _ _ => rfl)
  have hH : ruleH source idempotencyKey accounts' = ruleH source idempotencyKey accounts :=
    funext (ruleH_congr h source idempotencyKey)
  unfold validatePosting
  rw [hA, hD, ruleE_congr h source lines, hF, hG, hH]

end SameFound

theorem findAccount_governanceAccounts {db : LedgerDb} {lines : List JournalLine} {code : String}
    {row : AccountRow} : findAccount (governanceAccounts db lines) code = some row ↔
      (∃ a, db.accounts.get? a = some row) ∧ row.accountCode = code ∧
        code ∈ lines.map (·.accountCode) := by
  have hmem : ∀ r, r ∈ governanceAccounts db lines ↔ (∃ a, db.accounts.get? a = some r) ∧
      r.accountCode ∈ lines.map (·.accountCode) := by
    intro r
    simp [governanceAccounts, OrderedMap.mem_values_iff]
  unfold findAccount
  constructor
  · intro hfind
    have hcode : row.accountCode = code := by simpa using List.find?_some hfind
    obtain ⟨ha, hin⟩ := (hmem row).mp (List.mem_of_find?_eq_some hfind)
    exact ⟨ha, hcode, hcode ▸ hin⟩
  · rintro ⟨⟨a, ha⟩, rfl, hin⟩
    cases hfind : (governanceAccounts db lines).find? fun x => x.accountCode = row.accountCode with
    | none =>
      have hnone := List.find?_eq_none.mp hfind row ((hmem row).mpr ⟨⟨a, ha⟩, hin⟩)
      simp at hnone
    | some r =>
      have hcode : r.accountCode = row.accountCode := by simpa using List.find?_some hfind
      obtain ⟨⟨b, hb⟩, -⟩ := (hmem r).mp (List.mem_of_find?_eq_some hfind)
      have heq := db.account_unique hb ha hcode
      rw [heq, ha] at hb
      exact congrArg some (Option.some.inj hb).symm

theorem SameAccounts.sameFound {db db' : LedgerDb} (h : SameAccounts db db')
    (lines : List JournalLine) :
    SameFound (governanceAccounts db lines) (governanceAccounts db' lines) := by
  intro code
  cases hfind : findAccount (governanceAccounts db lines) code with
  | some row =>
    obtain ⟨⟨a, ha⟩, hcode, hin⟩ := findAccount_governanceAccounts.mp hfind
    rcases h a with ⟨-, hnone⟩ | ⟨r, balance, hr, hr'⟩
    · rw [ha] at hnone
      cases hnone
    · rw [ha] at hr
      cases hr
      exact .inr ⟨row, balance, rfl,
        findAccount_governanceAccounts.mpr ⟨⟨a, hr'⟩, hcode, hin⟩⟩
  | none =>
    refine .inl ⟨rfl, ?_⟩
    cases hfind' : findAccount (governanceAccounts db' lines) code with
    | none => rfl
    | some row =>
      obtain ⟨⟨a, ha⟩, hcode, hin⟩ := findAccount_governanceAccounts.mp hfind'
      rcases h a with ⟨hnone, -⟩ | ⟨r, balance, hr, hr'⟩
      · rw [ha] at hnone
        cases hnone
      · rw [ha] at hr'
        cases hr'
        have hsome := findAccount_governanceAccounts.mpr ⟨⟨a, hr⟩, hcode, hin⟩
        rw [hfind] at hsome
        cases hsome

/-- A request passes its checks on one ledger when it does on the other. -/
theorem SameAccounts.validateRequest_eq {db db' : LedgerDb} (h : SameAccounts db db')
    {ctx ctx' : PostingContext} (hmode : ctx'.arMode = ctx.arMode) (request : JournalEntryRequest) :
    validateRequest ctx' db' request = validateRequest ctx db request := by
  unfold validateRequest
  rw [validatePosting_congr (h.sameFound request.lines), hmode]

/-! ## When a posting can be written -/

/-- A line names an active account. -/
def NamesActiveAccount (db : LedgerDb) (line : JournalLine) : Prop :=
  ∃ a row, db.accounts.get? a = some row ∧ row.accountCode = line.accountCode ∧
    row.isActive = true

/-- The totals of the lines agree with the stored amounts, to the cent. -/
structure HeaderMatches (lines : List JournalLine) : Prop where
  nonempty : lines ≠ []
  debits : roundCents (Numeric.ofRat (validateDoubleEntry lines).totalDebits) =
    roundCents (lines.map fun line => (Numeric.ofRat line.debitAmount : Amount)).sum
  credits : roundCents (Numeric.ofRat (validateDoubleEntry lines).totalCredits) =
    roundCents (lines.map fun line => (Numeric.ofRat line.creditAmount : Amount)).sum
  amounts : ∀ line ∈ lines,
    (Numeric.ofRat (if line.isDebit then line.debitAmount else line.creditAmount) : Amount) =
      Numeric.ofRat line.debitAmount + Numeric.ofRat line.creditAmount

variable {line : JournalLine} {id : TransactionId} {call : LedgerCall}

theorem namesActiveAccount_iff {db : LedgerDb} :
    NamesActiveAccount db line ↔
      ∃ account, activeAccountByCode db line.accountCode = some account := by
  unfold activeAccountByCode
  constructor
  · rintro ⟨a, row, hrow, hcode, hactive⟩
    refine Option.isSome_iff_exists.mp (List.find?_isSome.mpr ?_)
    exact ⟨(a, row), OrderedMap.get?_eq_some_iff.mp hrow, by simp [hcode, hactive]⟩
  · rintro ⟨⟨a, row⟩, hfind⟩
    have hfound := List.find?_some hfind
    simp only [Bool.and_eq_true, decide_eq_true_eq] at hfound
    exact ⟨a, row, OrderedMap.get?_eq_some_iff.mpr (List.mem_of_find?_eq_some hfind), hfound⟩

theorem SameAccounts.namesActiveAccount_iff {db db' : LedgerDb} (h : SameAccounts db db') :
    NamesActiveAccount db' line ↔ NamesActiveAccount db line := by
  constructor
  · rintro ⟨a, row, hrow, hcode, hactive⟩
    rcases h a with ⟨hnone, -⟩ | ⟨r, balance, hr, hr'⟩
    · rw [hrow] at hnone
      cases hnone
    · rw [hrow] at hr'
      cases hr'
      exact ⟨a, r, hr, hcode, hactive⟩
  · rintro ⟨a, row, hrow, hcode, hactive⟩
    rcases h a with ⟨-, hnone⟩ | ⟨r, balance, hr, hr'⟩
    · rw [hrow] at hnone
      cases hnone
    · rw [hrow] at hr
      cases hr
      exact ⟨a, row.withBalance balance, hr', hcode, hactive⟩

theorem postLine_sameAccounts {ctx : PostingContext} {request : JournalEntryRequest}
    {p p' : LineProgress} (h : postLine ctx id request p line = .ok p') :
    SameAccounts p.db p'.db := by
  obtain ⟨e, row, events, -, -, -, hdb, -⟩ := postLine_step h
  rw [hdb]
  refine .of_map (addToBalance_accounts_get? (insertEntry p.db e) e.accountId · _) fun a r => ?_
  split
  · exact ⟨_, rfl⟩
  · exact ⟨r.currentBalance, rfl⟩

theorem postLine_ok_iff {ctx : PostingContext} {request : JournalEntryRequest} {p : LineProgress} :
    (∃ p', postLine ctx id request p line = .ok p') ↔ NamesActiveAccount p.db line := by
  rw [namesActiveAccount_iff]
  unfold postLine
  simp only [bind_eq_ok, orThrow_eq_ok, pure_eq_ok]
  constructor
  · rintro ⟨p', account, haccount, -⟩
    exact ⟨account, haccount⟩
  · rintro ⟨account, haccount⟩
    exact ⟨_, account, haccount, rfl⟩

/-- The loop over the lines succeeds exactly when every line names an active account. -/
theorem postLines_ok_iff {ctx : PostingContext} {request : JournalEntryRequest} {p : LineProgress}
    {lines : List JournalLine} :
    (∃ p', lines.foldlM (postLine ctx id request) p = .ok p') ↔
      ∀ line ∈ lines, NamesActiveAccount p.db line := by
  constructor
  · rintro ⟨p', hp'⟩
    refine (foldlM_forall (P := fun q => SameAccounts p.db q.db) ?_ (.refl p.db) hp').2
    intro q line q' hq hstep
    exact ⟨hq.trans (postLine_sameAccounts hstep),
      hq.namesActiveAccount_iff.mp (postLine_ok_iff.mp ⟨q', hstep⟩)⟩
  · intro hall
    refine foldlM_ok (P := fun q => SameAccounts p.db q.db) ?_ (.refl p.db) hall
    intro q line hq hline
    obtain ⟨q', hstep⟩ : ∃ q', postLine ctx id request q line = .ok q' :=
      postLine_ok_iff.mpr (hq.namesActiveAccount_iff.mpr hline)
    exact ⟨q', hstep, hq.trans (postLine_sameAccounts hstep)⟩

theorem WellFormed.entries_fresh {db : LedgerDb} (hwf : WellFormed db) :
    ∀ e ∈ db.entries, e.transactionId ≠ db.nextId := by
  intro e he
  obtain ⟨row, hrow⟩ := hwf.entryTransaction e he
  exact (hwf.idsBelow _ _ hrow).ne

/-- The check after writing looks at the lines only. -/
theorem LinesWritten.checked_iff {before after : LedgerDb} {lines : List JournalLine}
    {written : List LedgerEntry} {header : TransactionRow}
    (h : LinesWritten id before after lines written) (hfresh : ∀ e ∈ before.entries,
      e.transactionId ≠ id) (hheader : before.transactions.get? id = some header)
    (hdebits : header.totalDebitAmount = Numeric.ofRat (validateDoubleEntry lines).totalDebits)
    (hcredits : header.totalCreditAmount = Numeric.ofRat (validateDoubleEntry lines).totalCredits) :
    assertWrittenJournalMatchesHeader after id = .ok () ↔ HeaderMatches lines := by
  have hentries : entriesOf after id = written := by
    unfold entriesOf
    rw [h.entries, List.filter_append]
    have hold : before.entries.filter (fun e => decide (e.transactionId = id)) = [] :=
      List.filter_eq_nil_iff.mpr fun e he => by simp [hfresh e he]
    have hnew : written.filter (fun e => decide (e.transactionId = id)) = written :=
      List.filter_eq_self.mpr fun e he => by simp [(h.of_mem he).1]
    rw [hold, hnew, List.nil_append]
  have hdebit : (written.map (·.debitAmount)) =
      lines.map fun line => (Numeric.ofRat line.debitAmount : Amount) :=
    (map_eq_map h.entered fun line e hle => hle.1.debitAmount.symm).symm
  have hcredit : (written.map (·.creditAmount)) =
      lines.map fun line => (Numeric.ofRat line.creditAmount : Amount) :=
    (map_eq_map h.entered fun line e hle => hle.1.creditAmount.symm).symm
  have hamounts : (∀ e ∈ written, e.amount = e.debitAmount + e.creditAmount) ↔ ∀ line ∈ lines,
      (Numeric.ofRat (if line.isDebit then line.debitAmount else line.creditAmount) : Amount) =
        Numeric.ofRat line.debitAmount + Numeric.ofRat line.creditAmount := by
    constructor
    · intro hall line hline
      obtain ⟨e, he, hle⟩ := exists_right_of_mem h.entered hline
      rw [← hle.1.amount, ← hle.1.debitAmount, ← hle.1.creditAmount]
      exact hall e he
    · intro hall e he
      obtain ⟨line, hline, hle⟩ := exists_left_of_mem h.entered he
      rw [hle.1.amount, hle.1.debitAmount, hle.1.creditAmount]
      exact hall line hline
  have hempty : written = [] ↔ lines = [] := by
    rw [← List.length_eq_zero_iff, ← List.length_eq_zero_iff, h.entered.length_eq]
  unfold assertWrittenJournalMatchesHeader
  rw [h.transactions, hheader, hentries]
  cases hwritten : written with
  | nil =>
    refine iff_of_false (by rintro ⟨⟩) fun hmatches => ?_
    exact hmatches.nonempty (hempty.mp hwritten)
  | cons e rest =>
    rw [hwritten] at hdebit hcredit hamounts hempty
    simp only [require_eq_ok, hdebits, hcredits, hdebit, hcredit, List.length_eq_zero_iff,
      List.filter_eq_nil_iff]
    constructor
    · rintro ⟨hd, hc, hall⟩
      exact ⟨fun hnil => by simp at hempty; exact hempty hnil, hd, hc,
        hamounts.mp fun x hx => by simpa using hall x hx⟩
    · intro hmatches
      exact ⟨hmatches.debits, hmatches.credits, fun x hx => by
        simpa using hamounts.mpr hmatches.amounts x hx⟩

/-- Everything a posting that finds no earlier one needs. -/
structure Postable (db : LedgerDb) (request : JournalEntryRequest) : Prop where
  periodOpen : isPeriodOpen db request.entryDate = true
  insertable : ∃ referenceId, request.referenceId = some referenceId ∧
    Insertable db (request.header (nextTransactionNumber db) referenceId)
  accounts : ∀ line ∈ request.lines, NamesActiveAccount db line
  headerMatches : HeaderMatches request.lines

theorem postJournal_ok_iff {ctx : PostingContext} {db : LedgerDb} {request : JournalEntryRequest}
    (hwf : WellFormed db) : (∃ out, postJournal ctx db request = .ok out) ↔ Postable db request := by
  have hchecked : ∀ (last : LineProgress) referenceId,
      request.lines.foldlM (postLine ctx db.nextId request) ⟨stampPostingSource (withHeader db
        db.nextId (request.header (nextTransactionNumber db) referenceId)) db.nextId
          request.postingSource, 1, []⟩ = .ok last →
      (assertWrittenJournalMatchesHeader last.db db.nextId = .ok () ↔
        HeaderMatches request.lines) := by
    intro last referenceId hloop
    obtain ⟨written, hlines, -⟩ := linesWritten_of_foldlM
      (fun a => [PeriodKey.of a request.entryDate]) (fun p line p' hp => postLine_step hp) hloop
    exact hlines.checked_iff hwf.entries_fresh (by simp [stampPostingSource, withHeader]; rfl)
      rfl rfl
  unfold postJournal requirePeriodOpen
  simp only [bind_eq_ok, orThrow_eq_ok, require_eq_ok, pure_eq_ok, insertTransaction_eq_ok]
  constructor
  · rintro ⟨out, -, hopen, referenceId, href, -, ⟨hins, rfl⟩, last, hloop, ⟨⟩, hwritten, -⟩
    exact ⟨hopen, ⟨referenceId, href, hins⟩, postLines_ok_iff.mp ⟨last, hloop⟩,
      (hchecked last referenceId hloop).mp hwritten⟩
  · rintro ⟨hopen, ⟨referenceId, href, hins⟩, haccounts, hmatches⟩
    obtain ⟨last, hloop⟩ : ∃ last, request.lines.foldlM (postLine ctx db.nextId request)
        ⟨stampPostingSource (withHeader db db.nextId (request.header (nextTransactionNumber db)
          referenceId)) db.nextId request.postingSource, 1, []⟩ = .ok last :=
      postLines_ok_iff.mpr haccounts
    exact ⟨_, (), hopen, referenceId, href, _, ⟨hins, rfl⟩, last, hloop, (),
      (hchecked last referenceId hloop).mpr hmatches, rfl⟩

/-! ## What a run leaves alone -/

/-- Accounts but for their balances, months, and transactions but for reversals. -/
structure Kept (db db' : LedgerDb) : Prop where
  accounts : SameAccounts db db'
  periods : db'.periods = db.periods
  rows : ∀ id row, db.transactions.get? id = some row →
    ∃ row', db'.transactions.get? id = some row' ∧ (row' = row ∨ row'.status = .REVERSED)

theorem Kept.refl (db : LedgerDb) : Kept db db :=
  ⟨.refl db, rfl, fun _ row hrow => ⟨row, hrow, .inl rfl⟩⟩

theorem Kept.trans {db db' db'' : LedgerDb} (h : Kept db db') (h' : Kept db' db'') :
    Kept db db'' := by
  refine ⟨h.accounts.trans h'.accounts, h'.periods.trans h.periods, fun id row hrow => ?_⟩
  obtain ⟨row', hrow', hsame⟩ := h.rows id row hrow
  obtain ⟨row'', hrow'', hsame'⟩ := h'.rows id row' hrow'
  refine ⟨row'', hrow'', ?_⟩
  rcases hsame' with rfl | hreversed
  · exact hsame
  · exact .inr hreversed

theorem CallEffect.kept {db : LedgerDb} {out : PostingOutcome} (hwf : WellFormed db)
    (h : CallEffect db call out) : Kept db out.db := by
  cases h with
  | found hdb _ _ => exact hdb ▸ .refl db
  | posted _ h =>
    refine ⟨h.sameAccounts, ?_, fun id row hrow => ⟨row, ?_, .inl rfl⟩⟩
    · rw [h.db_eq, finishPosting_periods, h.lines.periods]
      rfl
    · rw [h.headerAdded.transactions, OrderedMap.get?_set_of_ne (hwf.idsBelow id row hrow).ne, hrow]
  | reversed hwrites h =>
    rename_i ctx request original header written mid
    refine ⟨h.sameAccounts, ?_, fun id row hrow => ?_⟩
    · rw [h.db_eq, finishPosting_periods]
      exact h.lines.periods
    · have hrev := h.originalReversed
      rcases eq_or_ne id request.originalTransactionId with rfl | hid
      · exact ⟨_, hrev.get?_original, .inr rfl⟩
      · exact ⟨row, by rw [hrev.get?_other (hwf.idsBelow id row hrow).ne hid, hrow], .inl rfl⟩

theorem SessionStep.kept {s s' : Session} {action : SessionAction} (hwf : WellFormed s.db)
    (h : SessionStep s action s') : Kept s.db s'.db := by
  cases h with
  | own _ _ _ hstep =>
    obtain ⟨out, rfl, heffect⟩ := hstep.effect hwf
    exact heffect.kept hwf
  | client _ _ hstep =>
    obtain ⟨out, rfl, heffect⟩ := hstep.effect hwf
    exact heffect.kept hwf
  | commit => exact .refl s.db

/-! ## After a reversal -/

theorem lt_nextTransactionNumber {db : LedgerDb} {row : TransactionRow}
    (h : db.transactions.get? id = some row) :
    row.transactionNumber < nextTransactionNumber db := by
  have hmem : row.transactionNumber ∈ db.transactions.values.map (·.transactionNumber) :=
    List.mem_map.mpr ⟨row, OrderedMap.mem_values_iff.mpr ⟨id, h⟩, rfl⟩
  have hle : ∀ (ns : List ℕ) (n : ℕ), n ∈ ns → n ≤ ns.foldr max 0 := by
    intro ns n hn
    induction ns with
    | nil => cases hn
    | cons m rest ih =>
      rcases List.mem_cons.mp hn with rfl | hn
      · exact Nat.le_max_left _ _
      · exact le_trans (ih hn) (Nat.le_max_right _ _)
  exact Nat.lt_succ_of_le (hle _ _ hmem)

theorem releasedKey_ne {key : String} (hkey : key ≠ "") (id : TransactionId) :
    releasedKey key id ≠ key := by
  intro heq
  have hlength := congrArg String.length heq
  simp only [releasedKey, ne_eq, hkey, not_false_eq_true, if_true, String.length_append] at hlength
  have hmark : "::REVERSED::".length = 12 := by decide
  omega

namespace ReversalPosted

variable {ctx : PostingContext} {db : LedgerDb} {request : ReversalRequest} {out : PostingOutcome}
  {original header : TransactionRow} {written : List LedgerEntry} {mid : LedgerDb}

/-- The key of the original is free after its reversal, unless it is empty. -/
theorem key_free (hwf : WellFormed db)
    (h : ReversalPosted ctx db request out original header written mid)
    (hkey : original.idempotencyKey ≠ "") :
    ∀ e ∈ out.db.transactions.entries, e.2.idempotencyKey ≠ original.idempotencyKey := by
  have hrev := h.originalReversed
  rintro ⟨id, row⟩ he
  have hrow : out.db.transactions.get? id = some row := OrderedMap.get?_eq_some_iff.mpr he
  rcases eq_or_ne id request.originalTransactionId with rfl | hold
  · rw [hrev.get?_original] at hrow
    cases hrow
    exact releasedKey_ne hkey db.nextId
  · rcases eq_or_ne id db.nextId with rfl | hnew
    · rw [hrev.get?_nextId hwf] at hrow
      cases hrow
      exact (h.insertable.key _ (OrderedMap.get?_eq_some_iff.mp h.original_get)).symm
    · rw [hrev.get?_other hnew hold] at hrow
      exact fun heq => hold (hwf.keyUnique _ _ _ _ hrow h.original_get heq)

end ReversalPosted

theorem checkIdempotencyKey_eq_none {db : LedgerDb} {key : String}
    (h : ∀ e ∈ db.transactions.entries, e.2.idempotencyKey ≠ key) :
    checkIdempotencyKey db key = none := by
  cases hcheck : checkIdempotencyKey db key with
  | none => rfl
  | some id =>
    obtain ⟨row, hrow, hkey⟩ := checkIdempotencyKey_eq_some hcheck
    exact absurd hkey (h (id, row) (OrderedMap.get?_eq_some_iff.mp hrow))

/-- A call that posted a transaction, and the ledger it left. -/
structure PostedIn (db db' : LedgerDb) (ctx : PostingContext) (request : JournalEntryRequest) :
    Prop where
  writes : (LedgerCall.create ctx request).Writes db
  step : CallStep db (.create ctx request) db'

/-- What a posting tells about posting the same request later. -/
theorem PostedIn.facts {db db' : LedgerDb} {ctx : PostingContext} {request : JournalEntryRequest}
    (hwf : WellFormed db) (h : PostedIn db db' ctx request) :
    validateRequest ctx db request = .ok () ∧ Postable db request ∧
      ∃ header, db'.transactions.get? db.nextId = some header ∧
        header.idempotencyKey = request.idempotencyKey ∧
        request.referenceId = some header.referenceId ∧
        header.referenceType = request.referenceType ∧
        header.referenceNumber = request.referenceNumber := by
  obtain ⟨out, hout, rfl⟩ := map_eq_ok h.step
  have hout : createJournalEntry ctx db request = .ok out := hout
  rcases createJournalEntry_cases hout with ⟨-, -, hfound⟩ | ⟨-, -, hpost⟩
  · rcases hfound with hfound | ⟨-, hfound⟩
    · obtain ⟨id, hid, -⟩ := existingByKey_some hfound
      rw [h.writes.1] at hid
      cases hid
    · rw [h.writes.2] at hfound
      cases hfound
  · obtain ⟨header, written, mid, hposted⟩ := postJournal_cases hpost
    obtain ⟨htype, hnumber, hkey⟩ := hposted.referenceType_eq
    refine ⟨validateRequest_of_ok hout, (postJournal_ok_iff hwf).mp ⟨out, hpost⟩, header, ?_, hkey,
      hposted.referenceId, htype, hnumber⟩
    rw [hposted.headerAdded.transactions, OrderedMap.get?_set_self]

/-- The request posts, and from then on returns what it posted. -/
def PostsOnce (mode : ArGovernanceMode) (db : LedgerDb) (request : JournalEntryRequest) : Prop :=
  ∀ ctx : PostingContext, ctx.arMode = mode →
    ∃ out, createJournalEntry ctx db request = .ok out ∧
      db.transactions.get? out.result.transactionId = none ∧
      EarlierPosting out.db request out.result.transactionId ∧
      ∀ ctx' : PostingContext, ctx'.arMode = mode → Seen ctx'.pool out.result.transactionId →
        ∃ out', createJournalEntry ctx' out.db request = .ok out' ∧ out'.db = out.db ∧
          out'.pendingRebuildJobs = [] ∧ out'.result.transactionId = out.result.transactionId

/-- A valid request whose key is free and whose document has no active posting. -/
theorem postsOnce_of_free {db : LedgerDb} {ctx₀ : PostingContext} {request : JournalEntryRequest}
    (hwf : WellFormed db) (honce : OncePerDocument db)
    (hvalid : validateRequest ctx₀ db request = .ok ()) (hpostable : Postable db request)
    (hkey : checkIdempotencyKey db request.idempotencyKey = none)
    (hfree : ∀ id row, ActiveRow db id row → ¬ SameDocument request row) :
    PostsOnce ctx₀.arMode db request := by
  intro ctx hmode
  have hvalid' : ∀ ctx : PostingContext, ctx.arMode = ctx₀.arMode → ∀ db', SameAccounts db db' →
      validateRequest ctx db' request = .ok () := by
    intro ctx' hmode' db' hsame
    rw [hsame.validateRequest_eq hmode', hvalid]
  have href : existingByReference ctx db request = none :=
    (existingByReference_eq_none_iff honce).mpr fun id row hactive hsame =>
      absurd hsame (hfree id row hactive)
  obtain ⟨out, hpost⟩ : ∃ out, postJournal ctx db request = .ok out :=
    (postJournal_ok_iff hwf).mpr hpostable
  obtain ⟨header, written, mid, hposted⟩ := postJournal_cases hpost
  have hid : out.result.transactionId = db.nextId := by rw [hposted.result_eq]
  have hnew : ActiveRow out.db db.nextId header := (hposted.activeRow_iff hwf).mpr (.inl ⟨rfl, rfl⟩)
  have hheaderKey : header.idempotencyKey = request.idempotencyKey := hposted.referenceType_eq.2.2
  have hwf' : WellFormed out.db := hposted.wellFormed hwf
  refine ⟨out, ?_, ?_, ⟨header, hid ▸ hnew, .inl hheaderKey⟩, fun ctx' hmode' hseen => ?_⟩
  · rw [createJournalEntry_of_free (hvalid' ctx hmode db (.refl db)) hkey, href]
    exact hpost
  · rw [hid]
    exact hwf.idsBelow.get?_nextId
  · have hheld : checkIdempotencyKey out.db request.idempotencyKey = some db.nextId :=
      hheaderKey ▸ checkIdempotencyKey_of_active hwf' hnew
    obtain ⟨result, hresult, hresultId⟩ := getTransaction_of_seen hseen
    rw [hid] at hresult hresultId
    exact ⟨⟨out.db, result, []⟩, createJournalEntry_of_held
      (hvalid' ctx' hmode' out.db hposted.sameAccounts) hheld hresult, rfl, rfl,
      hresultId.trans hid.symm⟩

/-- What posts is insertable. -/
theorem PostsOnce.insertable {mode : ArGovernanceMode} {db : LedgerDb}
    {request : JournalEntryRequest} (h : PostsOnce mode db request) :
    ∃ header, header.idempotencyKey = request.idempotencyKey ∧
      header.referenceType = request.referenceType ∧
      header.referenceNumber = request.referenceNumber ∧ Insertable db header := by
  obtain ⟨out, hout, hnew, -⟩ := h ⟨.ownTransaction, db.transactions, mode, 0⟩ rfl
  rcases createJournalEntry_cases hout with ⟨-, -, hfound⟩ | ⟨-, -, hpost⟩
  · exfalso
    rcases hfound with hfound | ⟨-, hfound⟩
    · obtain ⟨id, hid, hget⟩ := existingByKey_some hfound
      obtain ⟨row, hrow, -⟩ := checkIdempotencyKey_eq_some hid
      rw [(getTransaction_eq_some hget).1, hrow] at hnew
      cases hnew
    · obtain ⟨row, hactive, -⟩ := existingByReference_eq_some hfound
      rw [hactive.1] at hnew
      cases hnew
  · obtain ⟨header, written, mid, hposted⟩ := postJournal_cases hpost
    obtain ⟨htype, hnumber, hkey⟩ := hposted.referenceType_eq
    exact ⟨header, hkey, htype, hnumber, hposted.insertable⟩

/-- A request that was posted can be posted once more right after the reversal of its
posting, exactly when its key is not empty and it is not about a sale. -/
theorem ReversalPosted.postsOnce_iff {db₀ db₁ db : LedgerDb} {ctx₀ ctx : PostingContext}
    {posted : JournalEntryRequest} {request : ReversalRequest} {out : PostingOutcome}
    {original header : TransactionRow} {written : List LedgerEntry} {mid : LedgerDb}
    (hwf₀ : WellFormed db₀) (hpostedIn : PostedIn db₀ db₁ ctx₀ posted) (hkept₀ : Kept db₀ db₁)
    (hkept : Kept db₁ db) (hwf : WellFormed db) (honce : OncePerDocument db)
    (hactive : isActiveId db db₀.nextId = true) (horiginal : request.originalTransactionId =
      db₀.nextId) (h : ReversalPosted ctx db request out original header written mid) :
    PostsOnce ctx₀.arMode out.db posted ↔
      posted.idempotencyKey ≠ "" ∧ isSaleReference posted.referenceType = false := by
  obtain ⟨hvalid, hpostable, row, hrow, hrowKey, hrowId, hrowType, hrowNumber⟩ :=
    hpostedIn.facts hwf₀
  -- the posting is still as it was written
  have hrowEq : original = row := by
    obtain ⟨row', hrow', hsame⟩ := hkept.rows _ _ hrow
    have hget := h.original_get
    rw [horiginal, hrow'] at hget
    cases hget
    rcases hsame with rfl | hreversed
    · rfl
    · rw [h.original_posted] at hreversed
      cases hreversed
  subst hrowEq
  have hrev := h.originalReversed
  have hafter : out.db.transactions.get? request.originalTransactionId =
      some (original.reversedBy db.nextId) := hrev.get?_original
  have hafterMem := OrderedMap.get?_eq_some_iff.mp hafter
  have hkeptOut : Kept db out.db := (CallEffect.kept hwf (.reversed (by
    have hkeyFree : checkIdempotencyKey db request.idempotencyKey = none :=
      checkIdempotencyKey_eq_none fun e he => by
        have hne := h.insertable.key e he
        rwa [h.header_eq] at hne
    exact hkeyFree) h))
  constructor
  · intro hposts
    obtain ⟨header', hkey, htype, hnumber, hins⟩ := hposts.insertable
    refine ⟨fun hempty => ?_, ?_⟩
    · refine hins.key _ hafterMem ?_
      have hreleased : (original.reversedBy db.nextId).idempotencyKey =
          releasedKey original.idempotencyKey db.nextId := rfl
      rw [hreleased, hrowKey, hkey, hempty]
      rfl
    · cases hsale : isSaleReference posted.referenceType with
      | false => rfl
      | true =>
        exact absurd (hrowNumber.trans hnumber.symm)
          (hins.saleReference _ hafterMem (htype ▸ hsale) (hrowType.trans htype.symm))
  · rintro ⟨hkey, hsale⟩
    have hfreeKey := h.key_free hwf (hrowKey ▸ hkey)
    rw [hrowKey] at hfreeKey
    have hall : Kept db₀ out.db := (hkept₀.trans hkept).trans hkeptOut
    have hpostable' : Postable out.db posted :=
      { periodOpen := by
          have hopen := hpostable.periodOpen
          unfold isPeriodOpen getPeriodStatus periodAt at hopen ⊢
          rw [hall.periods]
          exact hopen
        insertable := by
          obtain ⟨referenceId, href, -⟩ := hpostable.insertable
          refine ⟨referenceId, href, ?_, hfreeKey, ?_⟩
          · intro e he
            exact (lt_nextTransactionNumber (OrderedMap.get?_eq_some_iff.mpr he)).ne
          · intro e _ hsale'
            have hsale' : isSaleReference posted.referenceType = true := hsale'
            rw [hsale] at hsale'
            cases hsale'
        accounts := fun line hline =>
          hall.accounts.namesActiveAccount_iff.mpr (hpostable.accounts line hline)
        headerMatches := hpostable.headerMatches }
    have hvalid' : validateRequest ctx₀ out.db posted = .ok () := by
      rw [hall.accounts.validateRequest_eq rfl, hvalid]
    refine postsOnce_of_free (h.wellFormed hwf) (h.oncePerDocument hwf honce) hvalid' hpostable'
      (checkIdempotencyKey_eq_none hfreeKey) ?_
    intro id r hr hsame
    obtain ⟨hrActive, hne⟩ := (h.activeRow_iff hwf).mp hr
    have horiginalActive : ActiveRow db request.originalTransactionId original :=
      Ledger.activeRow_iff.mpr ⟨h.original_get, horiginal ▸ hactive⟩
    obtain ⟨htype, hm | ⟨hnumber, hm⟩⟩ := hsame
    · exact hne (honce.eq_of_matchesId htype hrActive horiginalActive hm
        (matchesId_iff.mpr ⟨hrowType, hrowId⟩))
    · exact hne (honce.eq_of_matchesNumber htype hnumber hrActive horiginalActive hm
        (matchesNumber_iff.mpr ⟨hrowType, hrowNumber⟩))

/-! ## Runs -/

/-- A repeated request gets the earlier posting exactly when its look-up sees one. -/
def RepeatsReturn (s : Session) : Prop :=
  ∀ ctx request, validateRequest ctx s.db request = .ok () →
    (∃ id, EarlierPosting s.db request id) →
      (ReturnsEarlier ctx s.db request ↔ SeesRepeated ctx s.db request)

/-- Once the active posting of a request of the run is reversed, the request posts exactly
once more, unless its key is empty or it is about a sale. -/
def RepostsOnce (ts : List (Session × SessionAction × Session)) (s : Session) : Prop :=
  ∀ t ∈ ts, ∀ ctx posted, t.2.1 = .call (.create ctx posted) →
    (LedgerCall.create ctx posted).Writes t.1.db → isActiveId s.db t.1.db.nextId = true →
    ∀ rctx request s', request.originalTransactionId = t.1.db.nextId →
      (LedgerCall.reverse rctx request).Writes s.db →
      SessionStep s (.call (.reverse rctx request)) s' →
        (PostsOnce ctx.arMode s'.db posted ↔
          posted.idempotencyKey ≠ "" ∧ isSaleReference posted.referenceType = false)

theorem SessionStep.callStep {s s' : Session} (h : SessionStep s (.call call) s') :
    CallStep s.db call s'.db := by
  cases h with
  | own _ _ _ hstep => exact hstep
  | client _ _ hstep => exact hstep

theorem repostsOnce_of_run {s s' : Session} {ts : List (Session × SessionAction × Session)}
    (hempty : EmptyLedger s.db) (hrun : Run SessionStep s ts s') (honce : OncePerDocument s'.db) :
    RepostsOnce ts s' := by
  intro t ht ctx posted hcall hwrites hactive rctx request s'' horiginal hrwrites hreverse
  have hinv : ∀ a act b, WellFormed (Session.db a) → SessionStep a act b → WellFormed b.db :=
    fun _ _ _ hwf hstep => hstep.wellFormed hwf
  obtain ⟨hwf, hall⟩ := hrun.invariant (P := fun a => WellFormed (Session.db a)) hinv
    hempty.wellFormed
  obtain ⟨hwf₀, hwf₁⟩ := hall t ht
  have hstep := hrun.step_of_mem ht
  obtain ⟨rest, hrest⟩ := hrun.suffix_of_mem ht
  have hkept : Kept t.2.2.db s'.db :=
    hrest.relates (P := fun a => WellFormed (Session.db a))
      (R := fun a b => Kept (Session.db a) (Session.db b)) (fun a => .refl a.db)
      (fun _ _ _ hab hbc => hab.trans hbc)
      (fun _ _ _ hwf hstep => ⟨hstep.wellFormed hwf, hstep.kept hwf⟩) hwf₁
  have hpostedIn : PostedIn t.1.db t.2.2.db ctx posted :=
    ⟨hwrites, (hcall ▸ hstep).callStep⟩
  obtain ⟨out, hout, heffect⟩ := hreverse.callStep.effect hwf
  cases heffect with
  | found _ _ hfound => exact absurd hrwrites hfound
  | reversed _ h =>
    rw [← hout]
    exact h.postsOnce_iff hwf₀ hpostedIn (hstep.kept hwf₀) hkept hwf honce hactive horiginal

/-- From an empty ledger there is at most one active posting per key and document in every
state of a run exactly when every posting of the run sees the active one of its document;
and then repeated requests get it back, and reversed documents can be posted once more. -/
theorem active_postings_of_run {s s' : Session} {ts : List (Session × SessionAction × Session)}
    (hempty : EmptyLedger s.db) (hrun : Run SessionStep s ts s') :
    ((∀ t ∈ ts, OncePerDocument t.2.2.db) ↔ ∀ t ∈ ts, SeesEarlier t.1 t.2.1) ∧
      ((∀ t ∈ ts, SeesEarlier t.1 t.2.1) →
        OncePerDocument s'.db ∧ RepeatsReturn s' ∧ RepostsOnce ts s') := by
  have hiff : (∀ t ∈ ts, OncePerDocument t.2.2.db) ↔ ∀ t ∈ ts, SeesEarlier t.1 t.2.1 :=
    hrun.forall_iff (P := SessionGood) (Q := fun a => OncePerDocument (Session.db a))
      (fun _ _ _ hgood h => h.oncePerDocument_iff hgood)
      (fun _ _ _ hgood h hsees => h.good hgood hsees) hempty.sessionGood
  refine ⟨hiff, fun hsees => ?_⟩
  have hgood : SessionGood s' :=
    hrun.ends (P := SessionGood) (fun _ _ _ hgood h hsees => h.good hgood hsees) hsees
      hempty.sessionGood
  exact ⟨hgood.oncePerDocument,
    fun ctx request hvalid hearlier =>
      returnsEarlier_iff hgood.wellFormed hgood.oncePerDocument hvalid hearlier,
    repostsOnce_of_run hempty hrun hgood.oncePerDocument⟩

/-! ## Rent posted again -/

/-- A pool that sees the whole ledger sees the active posting of every document. -/
theorem seesDocument_of_committed (db : LedgerDb) (request : JournalEntryRequest) :
    SeesDocument db.transactions db request := by
  rintro ⟨id, row, hactive, hsame⟩
  exact ⟨id, row, hactive, hsame, Option.isSome_iff_exists.mpr ⟨row, hactive.1⟩⟩

/-- A posting on its own transaction meets the condition. -/
theorem seesEarlier_of_own {s : Session} (hpool : call.context.pool = s.db.transactions) :
    SeesEarlier s (.call call) := by
  cases call with
  | create ctx request =>
    intro _
    have hpool : ctx.pool = s.db.transactions := hpool
    rw [hpool]
    exact seesDocument_of_committed s.db request
  | reverse ctx request => trivial

theorem SessionStep.own_after {db : LedgerDb} (hpath : call.context.path = .ownTransaction)
    (hpool : call.context.pool = db.transactions) (hok : ((call.run db).map (·.db)).toBool = true) :
    SessionStep ⟨db, db⟩ (.call call) ⟨call.after db, call.after db⟩ :=
  .own hpath hpool rfl (LedgerCall.step_after hok)

def rentPosting (db : LedgerDb) : LedgerCall :=
  .create (contextOf .ownTransaction db) (rentJournal 100 january "rent" 7)

def rentReversal (db : LedgerDb) : LedgerCall :=
  .reverse (contextOf .ownTransaction db) (takeBack 10 january "rent-back")

def booksPosted : LedgerDb := (rentPosting books).after books
def booksReversed : LedgerDb := (rentReversal booksPosted).after booksPosted
def booksReposted : LedgerDb := (rentPosting booksReversed).after booksReversed

/-- The rent posted, taken back and posted again: one active posting throughout. -/
theorem rent_reposted_once : EmptyLedger books ∧ ∀ t ∈
    [((⟨books, books⟩ : Session), SessionAction.call (rentPosting books),
        (⟨booksPosted, booksPosted⟩ : Session)),
      (⟨booksPosted, booksPosted⟩, .call (rentReversal booksPosted),
        ⟨booksReversed, booksReversed⟩),
      (⟨booksReversed, booksReversed⟩, .call (rentPosting booksReversed),
        ⟨booksReposted, booksReposted⟩)],
    OncePerDocument t.2.2.db := by
  refine ⟨books_empty, (active_postings_of_run (s := ⟨books, books⟩) books_empty
    (.cons (.own_after rfl rfl (by decide +kernel))
      (.cons (.own_after rfl rfl (by decide +kernel))
        (.cons (.own_after rfl rfl (by decide +kernel)) (.nil _))))).1.mpr ?_⟩
  · intro t ht
    simp only [List.mem_cons, List.not_mem_nil, or_false] at ht
    rcases ht with rfl | rfl | rfl
    · exact seesEarlier_of_own rfl
    · exact seesEarlier_of_own rfl
    · exact seesEarlier_of_own rfl

/-- A posting on a caller's transaction that has committed nothing yet. -/
def uncommittedRent (key : String) : LedgerCall :=
  .create (contextOf .txClient books) (rentJournal 100 january key 7)

def booksOnce : LedgerDb := (uncommittedRent "rent").after books
def booksTwice : LedgerDb := (uncommittedRent "rent-again").after booksOnce

/-- Two postings of one document on one transaction of the caller: the second finds the
first, does not see it in the pool, and posts as well. -/
theorem uncommitted_document_is_posted_twice :
    ¬ ∀ (s s' : Session) (ts : List (Session × SessionAction × Session)), EmptyLedger s.db →
        s.committed = s.db → Run SessionStep s ts s' → OncePerDocument s'.db := by
  intro h
  have hrun : Run SessionStep ⟨books, books⟩ [
      (⟨books, books⟩, .call (uncommittedRent "rent"), ⟨booksOnce, books⟩),
      (⟨booksOnce, books⟩, .call (uncommittedRent "rent-again"), ⟨booksTwice, books⟩)]
      ⟨booksTwice, books⟩ :=
    .cons (.client rfl rfl (LedgerCall.step_after (by decide +kernel)))
      (.cons (.client rfl rfl (LedgerCall.step_after (by decide +kernel))) (.nil _))
  have honce := (h _ _ _ books_empty rfl hrun).documentId
  have hactive : ∀ id ∈ [10, 11], ∃ row, ActiveRow booksTwice id row ∧
      row.documentId = some ("EXPENSE", 7) := by
    intro id hid
    have hon : isActiveId booksTwice id = true ∧
        (booksTwice.transactions.get? id).bind TransactionRow.documentId = some ("EXPENSE", 7) := by
      have hall : ∀ id ∈ [10, 11], isActiveId booksTwice id = true ∧
          (booksTwice.transactions.get? id).bind TransactionRow.documentId =
            some ("EXPENSE", 7) := by decide +kernel
      exact hall id hid
    obtain ⟨row, hrow, hdocument⟩ := Option.bind_eq_some_iff.mp hon.2
    exact ⟨row, activeRow_iff.mpr ⟨hrow, hon.1⟩, hdocument⟩
  obtain ⟨row, hrow, hdocument⟩ := hactive 10 (by decide)
  obtain ⟨row', hrow', hdocument'⟩ := hactive 11 (by decide)
  exact absurd (honce 10 11 row row' _ hrow hrow' hdocument hdocument') (by decide)

end SmartErpPos.Ledger
