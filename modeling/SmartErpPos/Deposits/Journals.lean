/-
  Deposits/Journals.lean --- the journals of the deposits and what they add to account 2200.

  Taking a deposit and restoring an application post under keys of their own.  The ledger
  would return an earlier posting for a key that is held, or for a document that is posted,
  so the invariant `Journals` says which keys and documents are taken: those of deposits
  that exist and of applications that are gone.
-/
import SmartErpPos.Deposits.Rows
import SmartErpPos.Ledger.Reposting

set_option autoImplicit false

namespace SmartErpPos.Deposits

open SmartErpPos.Lib SmartErpPos.Ledger

/-! ## Keys -/

theorem depositKey_injective {id id' : DocumentId} (h : depositKey id = depositKey id') :
    id = id' := natText_injective (append_left_cancel h)

theorem restoreKey_injective {id id' : DocumentId} (h : restoreKey id = restoreKey id') :
    id = id' := natText_injective (append_left_cancel h)

/-- The key of a deposit starts with another letter than the other keys. -/
theorem depositKey_ne_restoreKey (id id' : DocumentId) : depositKey id ≠ restoreKey id' :=
  append_ne_append 1 (by decide) (by decide) (by decide) _ _

theorem depositKey_ne_applicationKey (id id' : DocumentId) : depositKey id ≠ applicationKey id' :=
  append_ne_append 1 (by decide) (by decide) (by decide) _ _

theorem restoreKey_ne_applicationKey (id id' : DocumentId) : restoreKey id ≠ applicationKey id' :=
  append_ne_append 20 (by decide) (by decide) (by decide) _ _

theorem sliceKey_eq (id : DocumentId) (slice : Cents) : sliceKey id slice =
    "DEPOSIT_APP_RESTORE-" ++ (idText id ++ ("-" ++ fixedText 2 slice.toRat)) := by
  unfold sliceKey restoreKey
  rw [String.append_assoc, String.append_assoc]

theorem depositKey_ne_sliceKey (id id' : DocumentId) (slice : Cents) :
    depositKey id ≠ sliceKey id' slice := by
  rw [sliceKey_eq]
  exact append_ne_append 1 (by decide) (by decide) (by decide) _ _

/-- The key of a part has a dash behind the id, and no id has one. -/
theorem restoreKey_ne_sliceKey (id id' : DocumentId) (slice : Cents) :
    restoreKey id ≠ sliceKey id' slice := by
  intro h
  rw [sliceKey_eq] at h
  have hrest : idText id = idText id' ++ ("-" ++ fixedText 2 slice.toRat) := append_left_cancel h
  refine notMem_natText (c := '-') (by decide) id ?_
  have hlist := congrArg String.toList hrest
  rw [show (toString id).toList = (idText id).toList from rfl, hlist, String.toList_append,
    String.toList_append]
  exact List.mem_append_right _ (List.mem_append_left _ (by decide))

/-! ## What the journals add to the account -/

theorem customerLine_storedChange (code description customerId : String) (debit credit : ℚ) :
    (customerLine code description customerId debit credit).storedChange .CREDIT =
      Numeric.ofRat credit - Numeric.ofRat debit := rfl

/-- A journal with one line on the account and one on another. -/
theorem linesChange_pair {code other : String} (hother : other ≠ code) (d d' c c' : String)
    (debit debit' credit credit' : ℚ) :
    linesChange .CREDIT code [customerLine other d c debit credit,
      customerLine code d' c' debit' credit'] = Numeric.ofRat credit' - Numeric.ofRat debit' ∧
    linesChange .CREDIT code [customerLine code d' c' debit' credit',
      customerLine other d c debit credit] = Numeric.ofRat credit' - Numeric.ofRat debit' := by
  have hcode : (customerLine code d' c' debit' credit').accountCode = code := rfl
  have hne : (customerLine other d c debit credit).accountCode ≠ code := hother
  constructor
  · rw [linesChange_cons, linesChange_cons, if_neg hne, if_pos hcode, linesChange_nil, zero_add,
      add_zero, customerLine_storedChange]
  · rw [linesChange_cons, linesChange_cons, if_neg hne, if_pos hcode, linesChange_nil, zero_add,
      add_zero, customerLine_storedChange]

theorem linesChange_deposit (id : DocumentId) (row : DepositRow) (date : IsoDate) (name : String) :
    linesChange .CREDIT CUSTOMER_DEPOSITS (customerDepositRequest id row date name).lines =
      Numeric.ofRat row.amount.toRat := by
  have hother : UNDEPOSITED_FUNDS ≠ CUSTOMER_DEPOSITS := by decide
  refine (linesChange_pair hother _ _ _ _ _ _ _ _).1.trans ?_
  rw [Numeric.ofRat_zero, sub_zero]

theorem linesChange_application (data : DepositApplicationGLData) :
    linesChange .CREDIT CUSTOMER_DEPOSITS (depositApplicationRequest data).lines =
      -Numeric.ofRat data.amount.toRat := by
  have hother : ACCOUNTS_RECEIVABLE ≠ CUSTOMER_DEPOSITS := by decide
  refine (linesChange_pair hother _ _ _ _ _ _ _ _).2.trans ?_
  rw [Numeric.ofRat_zero, zero_sub]

theorem linesChange_slice (env : DepositEnv) (input : RestoreInput) (app : SaleApplication)
    (slice : Cents) : linesChange .CREDIT CUSTOMER_DEPOSITS (sliceRequest env input app slice).lines =
      Numeric.ofRat slice.toRat := by
  have hother : ACCOUNTS_RECEIVABLE ≠ CUSTOMER_DEPOSITS := by decide
  refine (linesChange_pair hother _ _ _ _ _ _ _ _).1.trans ?_
  rw [Numeric.ofRat_zero, sub_zero]

/-- The total of the journal of an application is its amount. -/
theorem totalDebits_application (data : DepositApplicationGLData) :
    (validateDoubleEntry (depositApplicationRequest data).lines).totalDebits = data.amount.toRat := by
  simp [validateDoubleEntry, depositApplicationRequest, customerLine]

/-! ## Journals of applications -/

/-- A journal of an application that is not reversed. -/
structure IsJournalOf (l : LedgerDb) (applicationId : DocumentId) (id : TransactionId)
    (row : TransactionRow) : Prop where
  get : l.transactions.get? id = some row
  referenceType : row.referenceType = "DEPOSIT_APPLICATION"
  referenceId : row.referenceId = applicationId
  notReversed : row.isReversed = false

def HasJournal (l : LedgerDb) (applicationId : DocumentId) : Prop :=
  ∃ id row, IsJournalOf l applicationId id row

theorem applicationJournal_eq_some {l : LedgerDb} {applicationId : DocumentId}
    {e : TransactionId × TransactionRow} (h : applicationJournal l applicationId = some e) :
    IsJournalOf l applicationId e.1 e.2 := by
  unfold applicationJournal at h
  have hmem := List.mem_reverse.mp (List.mem_of_find?_eq_some h)
  have htrue := List.find?_some h
  simp only [Bool.and_eq_true, decide_eq_true_eq, Bool.not_eq_true'] at htrue
  exact ⟨OrderedMap.get?_eq_some_iff.mpr hmem, htrue.1.1, htrue.1.2, htrue.2⟩

theorem HasJournal.found {l : LedgerDb} {applicationId : DocumentId}
    (h : HasJournal l applicationId) : ∃ e, applicationJournal l applicationId = some e := by
  obtain ⟨id, row, hrow⟩ := h
  refine Option.isSome_iff_exists.mp (List.find?_isSome.mpr ⟨(id, row), ?_, ?_⟩)
  · exact List.mem_reverse.mpr (OrderedMap.get?_eq_some_iff.mp hrow.get)
  · simp [hrow.referenceType, hrow.referenceId, hrow.notReversed]

/-! ## The invariant -/

/-- What is known of the ledger: `next` is the first unused id, `taken` are the numbers of
deposits, and `alive` are the applications that exist. -/
structure Journals (a : AccountId) (next : DocumentId) (taken : String → Prop)
    (alive : DocumentId → Prop) (l : LedgerDb) : Prop where
  wellFormed : WellFormed l
  account : ∃ row, l.accounts.get? a = some row ∧ row.accountCode = CUSTOMER_DEPOSITS
  depositKeys : ∀ t row id, l.transactions.get? t = some row → row.status = .POSTED →
    row.idempotencyKey = depositKey id → id < next
  restoreKeys : ∀ t row id, l.transactions.get? t = some row → row.status = .POSTED →
    row.idempotencyKey = restoreKey id → id < next ∧ ¬ alive id
  depositRows : ∀ t row, l.transactions.get? t = some row →
    row.referenceType = "CUSTOMER_DEPOSIT" → row.referenceId < next ∧ taken row.referenceNumber
  applicationRows : ∀ applicationId t row, IsJournalOf l applicationId t row →
    isActiveId l t = true ∧ amountOf l t a .CREDIT = -row.totalDebitAmount

namespace Journals

variable {a : AccountId} {next next' : DocumentId} {taken taken' : String → Prop}
  {alive alive' : DocumentId → Prop} {l : LedgerDb}

/-- Ids are drawn, deposits join, and applications join with new ids. -/
theorem mono (h : Journals a next taken alive l) (hnext : next ≤ next')
    (htaken : ∀ number, taken number → taken' number)
    (halive : ∀ id, alive' id → alive id ∨ next ≤ id) : Journals a next' taken' alive' l where
  wellFormed := h.wellFormed
  account := h.account
  depositKeys t row id hrow hposted hkey :=
    lt_of_lt_of_le (h.depositKeys t row id hrow hposted hkey) hnext
  restoreKeys t row id hrow hposted hkey := by
    obtain ⟨hlt, hgone⟩ := h.restoreKeys t row id hrow hposted hkey
    refine ⟨lt_of_lt_of_le hlt hnext, fun hback => ?_⟩
    rcases halive id hback with hid | hid
    · exact hgone hid
    · exact absurd hlt (not_lt.mpr hid)
  depositRows t row hrow htype := by
    obtain ⟨hlt, hnumber⟩ := h.depositRows t row hrow htype
    exact ⟨lt_of_lt_of_le hlt hnext, htaken _ hnumber⟩
  applicationRows := h.applicationRows

theorem account_kept (h : Journals a next taken alive l) {l' : LedgerDb}
    (hsame : SameAccounts l l') :
    ∃ row, l'.accounts.get? a = some row ∧ row.accountCode = CUSTOMER_DEPOSITS := by
  obtain ⟨row, hrow, hcode⟩ := h.account
  rcases hsame a with ⟨-, hnone⟩ | ⟨row', balance, hrow', hafter⟩
  · rw [hrow] at hnone
    cases hnone
  · rw [hrow] at hrow'
    cases hrow'
    exact ⟨_, hafter, hcode⟩

section Posted

variable {ctx : PostingContext} {request : JournalEntryRequest} {out : PostingOutcome}
  {header : TransactionRow} {written : List LedgerEntry} {mid : LedgerDb}

/-- A posting whose key and document are no obstacle to later ones. -/
theorem posted (h : Journals a next taken alive l)
    (hp : JournalPosted ctx l request out header written mid)
    (hdeposit : ∀ id, request.idempotencyKey = depositKey id → id < next)
    (hrestore : ∀ id, request.idempotencyKey ≠ restoreKey id)
    (hrows : request.referenceType = "CUSTOMER_DEPOSIT" → ∀ id, request.referenceId = some id →
      id < next ∧ taken request.referenceNumber)
    (happlication : request.referenceType = "DEPOSIT_APPLICATION" →
      linesChange .CREDIT CUSTOMER_DEPOSITS request.lines =
        -Numeric.ofRat (validateDoubleEntry request.lines).totalDebits) :
    Journals a next taken alive out.db := by
  obtain ⟨account, haccount, hcode⟩ := h.account
  obtain ⟨htype, hnumber, hkey⟩ := hp.referenceType_eq
  have htotal : header.totalDebitAmount =
      Numeric.ofRat (validateDoubleEntry request.lines).totalDebits := by
    rw [hp.header_eq]
    rfl
  have hadded := hp.headerAdded
  refine
    { wellFormed := hp.wellFormed h.wellFormed
      account := h.account_kept hp.sameAccounts
      depositKeys := ?_
      restoreKeys := ?_
      depositRows := ?_
      applicationRows := ?_ }
  · intro t row id hrow hposted hrowKey
    rcases hadded.get?_cases hrow with ⟨-, rfl⟩ | hold
    · exact hdeposit id (hkey.symm.trans hrowKey)
    · exact h.depositKeys t row id hold hposted hrowKey
  · intro t row id hrow hposted hrowKey
    rcases hadded.get?_cases hrow with ⟨-, rfl⟩ | hold
    · exact absurd (hkey.symm.trans hrowKey) (hrestore id)
    · exact h.restoreKeys t row id hold hposted hrowKey
  · intro t row hrow hrowType
    rcases hadded.get?_cases hrow with ⟨-, rfl⟩ | hold
    · rw [hnumber]
      exact hrows (htype.symm.trans hrowType) _ hp.referenceId
    · exact h.depositRows t row hold hrowType
  · rintro applicationId t row ⟨hrow, hrowType, hid, hlive⟩
    rw [hadded.isActiveId h.wellFormed, hp.amountOf_eq h.wellFormed haccount, hcode]
    rcases hadded.get?_cases hrow with ⟨rfl, rfl⟩ | hold
    · rw [if_pos rfl, if_pos rfl, htotal]
      exact ⟨rfl, happlication (htype.symm.trans hrowType)⟩
    · have hne := (h.wellFormed.idsBelow t row hold).ne
      rw [if_neg hne, if_neg hne]
      exact h.applicationRows applicationId t row ⟨hold, hrowType, hid, hlive⟩

theorem hasJournal_posted (h : Journals a next taken alive l)
    (hp : JournalPosted ctx l request out header written mid) {applicationId : DocumentId}
    (hjournal : HasJournal l applicationId) : HasJournal out.db applicationId := by
  obtain ⟨t, row, hrow, htype, hid, hlive⟩ := hjournal
  refine ⟨t, row, ?_, htype, hid, hlive⟩
  rw [hp.headerAdded.transactions,
    OrderedMap.get?_set_of_ne (h.wellFormed.idsBelow t row hrow).ne, hrow]

/-- The balance moves by the lines on the account. -/
theorem balance_posted (h : Journals a next taken alive l)
    (hp : JournalPosted ctx l request out header written mid) :
    netActiveBalance out.db a .CREDIT = netActiveBalance l a .CREDIT +
      linesChange .CREDIT CUSTOMER_DEPOSITS request.lines := by
  obtain ⟨account, haccount, hcode⟩ := h.account
  rw [hp.netActiveBalance_eq h.wellFormed haccount, hcode]

end Posted

section Reversed

variable {ctx : PostingContext} {request : ReversalRequest} {out : PostingOutcome}
  {original header : TransactionRow} {written : List LedgerEntry} {mid : LedgerDb}

/-- A reversal under the restore key of an application that is gone. -/
theorem reversed (h : Journals a next taken alive l)
    (hp : ReversalPosted ctx l request out original header written mid) {applicationId : DocumentId}
    (hkey : request.idempotencyKey = restoreKey applicationId) (hlt : applicationId < next)
    (hgone : ¬ alive applicationId) : Journals a next taken alive out.db := by
  have hrev := hp.originalReversed
  have hheader : header.idempotencyKey = restoreKey applicationId ∧
      header.referenceType = "REVERSAL" := by
    rw [hp.header_eq]
    exact ⟨hkey, rfl⟩
  refine
    { wellFormed := hp.wellFormed h.wellFormed
      account := h.account_kept hp.sameAccounts
      depositKeys := ?_
      restoreKeys := ?_
      depositRows := ?_
      applicationRows := ?_ }
  · intro t row id hrow hposted hrowKey
    rcases hrev.get?_cases h.wellFormed hrow with ⟨-, rfl⟩ | ⟨-, rfl⟩ | ⟨-, hold⟩
    · cases hposted
    · exact absurd (hrowKey.symm.trans hheader.1) (depositKey_ne_restoreKey id applicationId)
    · exact h.depositKeys t row id hold hposted hrowKey
  · intro t row id hrow hposted hrowKey
    rcases hrev.get?_cases h.wellFormed hrow with ⟨-, rfl⟩ | ⟨-, rfl⟩ | ⟨-, hold⟩
    · cases hposted
    · obtain rfl := restoreKey_injective (hrowKey.symm.trans hheader.1)
      exact ⟨hlt, hgone⟩
    · exact h.restoreKeys t row id hold hposted hrowKey
  · intro t row hrow hrowType
    rcases hrev.get?_cases h.wellFormed hrow with ⟨-, rfl⟩ | ⟨-, rfl⟩ | ⟨-, hold⟩
    · exact h.depositRows _ original hp.original_get hrowType
    · rw [hheader.2] at hrowType
      exact absurd hrowType (by decide)
    · exact h.depositRows t row hold hrowType
  · rintro k t row ⟨hrow, hrowType, hid, hlive⟩
    rcases hrev.get?_cases h.wellFormed hrow with ⟨-, rfl⟩ | ⟨-, rfl⟩ | ⟨hother, hold⟩
    · cases hlive
    · rw [hheader.2] at hrowType
      exact absurd hrowType (by decide)
    · have hne := (h.wellFormed.idsBelow t row hold).ne
      rw [hrev.isActiveId h.wellFormed, if_neg (not_or.mpr ⟨hne, hother⟩),
        hp.amountOf_of_ne a .CREDIT hne]
      exact h.applicationRows k t row ⟨hold, hrowType, hid, hlive⟩

/-- The journals of other applications stay. -/
theorem hasJournal_reversed (h : Journals a next taken alive l)
    (hp : ReversalPosted ctx l request out original header written mid) {applicationId : DocumentId}
    (hother : original.referenceId ≠ applicationId) (hjournal : HasJournal l applicationId) :
    HasJournal out.db applicationId := by
  obtain ⟨t, row, hrow, htype, hid, hlive⟩ := hjournal
  refine ⟨t, row, ?_, htype, hid, hlive⟩
  have hne : t ≠ request.originalTransactionId := by
    rintro rfl
    rw [hp.original_get] at hrow
    cases hrow
    exact hother hid
  rw [hp.originalReversed.get?_other (h.wellFormed.idsBelow t row hrow).ne hne, hrow]

/-- A journal of an application after a reversal was one before. -/
theorem isJournalOf_of_reversed (h : Journals a next taken alive l)
    (hp : ReversalPosted ctx l request out original header written mid) {applicationId : DocumentId}
    {t : TransactionId} {row : TransactionRow} (hjournal : IsJournalOf out.db applicationId t row) :
    IsJournalOf l applicationId t row := by
  obtain ⟨hrow, htype, hid, hlive⟩ := hjournal
  have htypeHeader : header.referenceType = "REVERSAL" := by
    rw [hp.header_eq]
    rfl
  rcases hp.originalReversed.get?_cases h.wellFormed hrow with ⟨-, rfl⟩ | ⟨-, rfl⟩ | ⟨-, hold⟩
  · cases hlive
  · rw [htypeHeader] at htype
    exact absurd htype (by decide)
  · exact ⟨hold, htype, hid, hlive⟩

/-- The reversal of the journal of an application gives its whole amount back. -/
theorem balance_reversed (h : Journals a next taken alive l)
    (hp : ReversalPosted ctx l request out original header written mid) {applicationId : DocumentId}
    {row : TransactionRow} (hjournal : IsJournalOf l applicationId request.originalTransactionId row) :
    netActiveBalance out.db a .CREDIT = netActiveBalance l a .CREDIT + row.totalDebitAmount := by
  obtain ⟨hactive, hamount⟩ := h.applicationRows applicationId _ row hjournal
  rw [hp.netActiveBalance_eq h.wellFormed, if_pos hactive, hamount, sub_neg_eq_add]

end Reversed

end Journals

end SmartErpPos.Deposits
