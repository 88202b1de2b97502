/-
  Expenses/StatusRuns.lean --- runs in which status and journals of the expenses stay in step.

  Each call keeps the invariant: an edit writes a row, an approval and a payment post one
  journal each, and a reversal reverses all the journals of one expense or fails.
-/
import SmartErpPos.Expenses.StatusJournals

set_option autoImplicit false

namespace SmartErpPos.Expenses

open SmartErpPos.Lib SmartErpPos.Ledger

variable {db : ExpenseDb}

/-! ## Before approval -/

variable {expense before : Expense} {db' : ExpenseDb} {env : ExpenseEnv}

theorem StatusAgrees.approved_iff {id : ExpenseId} (hstatus : expense.status = .APPROVED) :
    StatusAgrees db id expense ↔
      ∃ credit, (credit = ACCOUNTS_PAYABLE ∨ credit = CASH) ∧
        credit ≠ expenseAccountCode db expense ∧
        Moves db.ledger id (expenseAccountCode db expense) credit expense.amount := by
  unfold StatusAgrees
  rw [hstatus]

theorem StatusAgrees.paid_iff {id : ExpenseId} (hstatus : expense.status = .PAID) :
    StatusAgrees db id expense ↔
      ∃ credit, IsLiquidityCode db.ledger credit ∧ credit ≠ expenseAccountCode db expense ∧
        credit ≠ ACCOUNTS_PAYABLE ∧ expenseAccountCode db expense ≠ ACCOUNTS_PAYABLE ∧
        Moves db.ledger id (expenseAccountCode db expense) credit expense.amount := by
  unfold StatusAgrees
  rw [hstatus]

theorem ExpenseInv.inserts (h : ExpenseInv db) {now : Timestamp} {expenseNumber : String}
    {data : CreateExpenseData} (hinsert : insertExpense db now expenseNumber data = .ok db') :
    ExpenseInv db' := by
  obtain ⟨row, categories, rfl, hstatus, hpositive, hnumber, haccounts⟩ := insertExpense_spec hinsert
  refine h.put (h.rows.put rfl (Nat.lt_succ_self _) (Nat.le_succ _) hpositive ?_) haccounts ?_ ?_
  · exact fun n other _ hother => hnumber n other hother
  · intro before hbefore
    exact absurd (h.rows.below _ before hbefore) (Nat.lt_irrefl _)
  · rw [hstatus]
    rintro (happroved | hpaid)
    · cases happroved
    · cases hpaid

/-- A row that posted nothing gets a status that stands for nothing. -/
theorem ExpenseInv.moves (h : ExpenseInv db) {id : ExpenseId} {row : Expense}
    (hget : db.expenses.get? id = some before) (hnumber : row.expenseNumber = before.expenseNumber)
    (hpositive : 0 < row.amount) {categories : OrderedMap CategoryId ExpenseCategory}
    (haccounts : ∀ expense, expenseAccountCode { db with categories := categories } expense =
      expenseAccountCode db expense)
    (hbefore : ¬ (before.status = .APPROVED ∨ before.status = .PAID))
    (hstatus : ¬ (row.status = .APPROVED ∨ row.status = .PAID)) :
    ExpenseInv { db with
      categories := categories
      expenses := db.expenses.set id row } := by
  refine h.put (h.rows.rewrite hget rfl le_rfl hpositive hnumber) haccounts ?_ ?_
  · intro other hother
    rw [hget] at hother
    cases hother
    exact ⟨hnumber, fun hpaid => hbefore (.inr hpaid), fun happroved =>
      absurd (.inl happroved) hbefore⟩
  · exact fun hposted => absurd hposted hstatus

/-- What `CreditedTo` says about the account an approval credited. -/
theorem credit_eq_of_creditedTo {id : ExpenseId} {credit code : String}
    (hpositive : 0 < expense.amount)
    (hmoves : Moves db.ledger id (expenseAccountCode db expense) credit expense.amount)
    (hcredited : CreditedTo db id expense code) : credit = code := by
  obtain ⟨⟨a, account⟩, hmem, rfl, hbalance⟩ := hcredited
  have hcode : db.ledger.codeOf a = some account.accountCode :=
    LedgerDb.codeOf_eq_some.mpr ⟨account, OrderedMap.get?_eq_some_iff.mpr hmem, rfl⟩
  have hamount : 0 < (Numeric.ofRat expense.amount.toRat : Amount) := by
    rw [← Numeric.toRat_pos_iff, toRat_ofRat_of_le (by decide)]
    exact Numeric.toRat_pos_iff.mpr hpositive
  rw [hmoves a _ hcode] at hbalance
  by_contra hne
  rw [moved, if_neg (Ne.symm hne), sub_zero] at hbalance
  -- a debit of the amount, or nothing, is no credit of it
  have hneg : -(Numeric.ofRat expense.amount.toRat : Amount) < 0 := neg_neg_iff_pos.mpr hamount
  rw [← hbalance] at hneg
  split at hneg
  · exact absurd hneg hamount.not_gt
  · exact absurd hneg (lt_irrefl 0)

/-- The status after an edit of an expense that is not approved. -/
theorem requireModifiable_ok {status : ExpenseStatus} {newStatus : Option ExpenseStatus}
    (h : requireModifiable status newStatus = .ok ()) : status ≠ .PAID := by
  rintro rfl
  cases h

theorem ExpenseInv.updates (h : ExpenseInv db) {now : Timestamp} {id : ExpenseId}
    {data : UpdateExpenseData} (hget : db.expenses.get? id = some before)
    (hmay : MayEdit db now id data before) (hupdate : updateRow db now id data = .ok db') :
    ExpenseInv db' := by
  obtain ⟨⟨row, db₁⟩, hmodifiable, hcategory, hpositive, rfl⟩ := updateRow_spec hget hupdate
  obtain ⟨hsame, categories, rfl, haccounts⟩ := applyCategory_spec hcategory
  dsimp only at hsame hpositive haccounts ⊢
  have hnumber : row.expenseNumber = before.expenseNumber := hsame.expenseNumber
  have hstatus : row.status = data.status.getD before.status := hsame.status
  have hnotPaid := requireModifiable_ok hmodifiable
  by_cases happroved : before.status = .APPROVED
  · rw [MayEdit, if_pos happroved] at hmay
    obtain ⟨hamount, hkeeps, hsets⟩ := hmay
    have hrowAmount : row.amount = before.amount := hsame.amount.trans hamount
    have haccount : expenseAccountCode { db with categories := categories } row =
        expenseAccountCode db before := by
      refine hkeeps (row, _) ?_
      rw [hcategory]
      rfl
    have hagrees := (StatusAgrees.approved_iff happroved).mp (h.agrees id before hget (.inl happroved))
    obtain ⟨credit, hcredit, hne, hmoves⟩ := hagrees
    have hnew : row.status = .APPROVED ∨ row.status = .PAID := by
      cases hdata : data.status with
      | none =>
        left
        rw [hstatus, hdata]
        exact happroved
      | some status =>
        right
        rw [hstatus, hdata]
        exact (hsets status hdata).1
    refine h.put (h.rows.rewrite hget rfl le_rfl hpositive hnumber) haccounts ?_ fun _ => ?_
    · intro other hother
      rw [hget] at hother
      cases hother
      exact ⟨hnumber, hnotPaid, fun _ => hnew⟩
    rcases hnew with hrow | hrow
    · refine (StatusAgrees.approved_iff hrow).mpr ⟨credit, hcredit, ?_, ?_⟩
      · rw [haccount]
        exact hne
      · rw [haccount, hrowAmount]
        exact hmoves
    · -- the status was set to `PAID`: the drawer was credited
      obtain ⟨status, hdata⟩ : ∃ status, data.status = some status := by
        cases hdata : data.status with
        | none =>
          rw [hstatus, hdata, Option.getD_none, happroved] at hrow
          cases hrow
        | some status => exact ⟨status, rfl⟩
      obtain ⟨-, hcredited, hpayable⟩ := hsets status hdata
      have hcash := credit_eq_of_creditedTo (h.rows.positive id before hget) hmoves hcredited
      subst hcash
      obtain ⟨e, hmem, hcode, -⟩ := hcredited
      refine (StatusAgrees.paid_iff hrow).mpr ⟨CASH, ⟨e, hmem, hcode, ?_⟩, ?_, by decide, ?_, ?_⟩
      · simp [isLiquidity, hcode, CASH]
      · rw [haccount]
        exact hne
      · rw [haccount]
        exact hpayable
      · rw [haccount, hrowAmount]
        exact hmoves
  · rw [MayEdit, if_neg happroved] at hmay
    refine h.moves hget hnumber hpositive haccounts ?_ ?_
    · exact not_or.mpr ⟨happroved, hnotPaid⟩
    · rw [hstatus]
      cases hdata : data.status with
      | none => exact not_or.mpr ⟨happroved, hnotPaid⟩
      | some status => exact not_or.mpr (hmay status hdata)

/-- An update of the status alone, between statuses that stand for nothing. -/
theorem ExpenseInv.setsStatus (h : ExpenseInv db) {now : Timestamp} {id : ExpenseId}
    {data : UpdateExpenseData} (hget : db.expenses.get? id = some before)
    (hbefore : ¬ (before.status = .APPROVED ∨ before.status = .PAID))
    (hstatus : ∀ status ∈ data.status, status ≠ .APPROVED ∧ status ≠ .PAID)
    (hupdate : updateRow db now id data = .ok db') : ExpenseInv db' := by
  refine h.updates hget ?_ hupdate
  rw [MayEdit, if_neg fun happroved => hbefore (.inl happroved)]
  exact hstatus

theorem ExpenseInv.deletes (h : ExpenseInv db) {id : ExpenseId}
    (hdelete : deleteRow db id = .ok db') : ExpenseInv db' := by
  unfold deleteRow at hdelete
  cases hget : db.expenses.get? id with
  | none =>
    rw [hget] at hdelete
    cases hdelete
    exact h
  | some before =>
    rw [hget] at hdelete
    dsimp only at hdelete
    have hpositive := h.rows.positive id before hget
    split at hdelete
    · cases hdelete
    · cases hdelete
    · cases hdelete
    · rename_i hpaid hreversed happroved
      cases hdelete
      refine h.moves hget ?_ ?_ (fun _ => rfl) (not_or.mpr ⟨happroved, hpaid⟩) ?_
      · rfl
      · exact hpositive
      · exact not_or.mpr ⟨nofun, nofun⟩

/-! ## Approval and payment -/

theorem ofLedger_eq_ok {α : Type} {x : Except LedgerError α} {a : α} :
    ofLedger x = .ok a ↔ x = .ok a := by
  cases x with
  | ok b =>
    constructor
    · rintro ⟨⟩
      rfl
    · rintro ⟨⟩
      rfl
  | error e =>
    constructor
    · intro h
      cases h
    · intro h
      cases h

theorem approvalRequest_own (id : ExpenseId) (expense : Expense) (account : String) :
    IsOwnRequest id (approvalRequest id expense account) :=
  ⟨rfl, .inl ⟨rfl, rfl⟩⟩

theorem paymentRequest_own (id : ExpenseId) (expense : Expense) (paymentDate : IsoDate)
    (credit : String) : IsOwnRequest id (paymentRequest id expense paymentDate credit) :=
  ⟨rfl, .inr ⟨rfl, rfl⟩⟩

theorem linesChange_approval (id : ExpenseId) (expense : Expense) (account code : String) :
    linesChange .DEBIT code (approvalRequest id expense account).lines =
      moved account (approvalCredit expense) (.ofRat expense.amount.toRat) code :=
  linesChange_pair rfl rfl rfl code

theorem linesChange_payment (id : ExpenseId) (expense : Expense) (paymentDate : IsoDate)
    (credit code : String) :
    linesChange .DEBIT code (paymentRequest id expense paymentDate credit).lines =
      moved ACCOUNTS_PAYABLE credit (.ofRat expense.amount.toRat) code :=
  linesChange_pair rfl rfl rfl code

/-- A request of an expense is about no open journal, when the expense has none of its
type. -/
theorem ExpenseInv.unposted (h : ExpenseInv db) {id : ExpenseId} {request : JournalEntryRequest}
    (hget : db.expenses.get? id = some expense) (hown : IsOwnRequest id request)
    (hnumber : request.referenceNumber = expense.expenseNumber)
    (hfree : ¬ (expense.status = .PAID ∨
      expense.status = .APPROVED ∧ request.referenceType = "EXPENSE")) :
    Unposted db.ledger request := by
  have hnone : ∀ t row, OpenRow db.ledger t row → row.referenceType = request.referenceType →
      row.referenceId ≠ id ∧ row.referenceNumber ≠ request.referenceNumber := by
    intro t row hopen htype
    have hof : isOfExpense row.referenceId row = true := by
      refine isOfExpense_iff.mpr ⟨?_, rfl⟩
      rw [htype]
      exact hown.kind.imp And.left And.left
    obtain ⟨other, hother, hsame, hposted⟩ := h.document t row _ hopen hof
    have hne : row.referenceId ≠ id := by
      intro heq
      rw [heq, hget] at hother
      cases hother
      rw [htype] at hposted
      exact hfree hposted
    refine ⟨hne, fun heq => hne ?_⟩
    exact h.rows.numbers _ _ other expense hother hget (hsame.trans (heq.trans hnumber))
  constructor
  case key =>
    refine checkIdempotencyKey_of_open fun t row hopen hkey => ?_
    rcases hown.kind with ⟨htype, hkind⟩ | ⟨htype, hkind⟩
    · obtain ⟨hrow, hid⟩ := h.journals.approvalKey t row id hopen (hkey.trans hkind)
      exact (hnone t row hopen (hrow.trans htype.symm)).1 hid
    · obtain ⟨hrow, hid⟩ := h.journals.paymentKey t row id hopen (hkey.trans hkind)
      exact (hnone t row hopen (hrow.trans htype.symm)).1 hid
  case document =>
    rintro t row hactive ⟨-, hsame | ⟨-, hsame⟩⟩
    · obtain ⟨htype, hid⟩ := matchesId_iff.mp hsame
      rw [hown.referenceId] at hid
      exact (hnone t row hactive.openRow htype).1 (Option.some.inj hid).symm
    · obtain ⟨htype, hrow⟩ := matchesNumber_iff.mp hsame
      exact (hnone t row hactive.openRow htype).2 hrow

theorem ExpenseInv.approves (h : ExpenseInv db) {id : ExpenseId}
    (hget : db.expenses.get? id = some before) (hmay : MayApprove db before)
    (happrove : approveExpense env db id = .ok db') : ExpenseInv db' := by
  unfold approveExpense at happrove
  rw [hget] at happrove
  simp only [bind_eq_ok, require_eq_ok, pure_eq_ok, ofLedger_eq_ok] at happrove
  obtain ⟨-, hpending, updated, hupdate, out, hposting, rfl⟩ := happrove
  obtain ⟨-, rfl⟩ := updateRow_of_no_category hget rfl rfl hupdate
  have hquiet : ¬ (before.status = .APPROVED ∨ before.status = .PAID) := by
    rw [hpending]
    exact not_or.mpr ⟨nofun, nofun⟩
  have haccount : ∀ expense, expenseAccountCode
      { db with expenses := db.expenses.set id (UpdateExpenseData.apply
        { status := some .APPROVED
          hasOther := true } before) } expense = expenseAccountCode db expense := fun _ => rfl
  rw [haccount] at hposting
  have hown := approvalRequest_own id before (expenseAccountCode db before)
  have hunposted := h.unposted hget hown rfl (by
    rintro (hpaid | ⟨happroved, -⟩)
    · exact hquiet (.inr hpaid)
    · exact hquiet (.inl happroved))
  rcases createJournalEntry_own rfl hposting with ⟨hnot, -⟩ | ⟨-, header, written, mid, hposted⟩
  · exact absurd hunposted hnot
  refine h.posts hget hposted hown rfl rfl (h.rows.positive id before hget) ?_ ?_ ?_
  · exact fun hpaid => hquiet (.inr hpaid)
  · exact .inr ⟨rfl, rfl⟩
  refine (StatusAgrees.approved_iff rfl).mpr ⟨approvalCredit before, ?_, ?_, ?_⟩
  · unfold approvalCredit
    split
    · exact .inr rfl
    · exact .inl rfl
  all_goals
    have hsame : expenseAccountCode { db with ledger := out.db } (UpdateExpenseData.apply
        { status := some .APPROVED
          hasOther := true } before) = expenseAccountCode db before := by
      refine (expenseAccountCode_congr ?_ ?_ _).trans rfl
      · exact hposted.sameAccounts.codeOf
      · rfl
    rw [hsame]
  · exact hmay
  · intro a code hcode
    have hcode' : db.ledger.codeOf a = some code := (hposted.sameAccounts.codeOf a).symm.trans hcode
    rw [hown.balance h.journals.wellFormed hposted hcode', h.quiet hget hquiet, zero_add,
      linesChange_approval]
    rfl

/-- The account a payment credits is the one the condition looks at. -/
theorem payFrom_eq {data : PaymentData} {code : Option String}
    (h : paymentAccountCode db expense.amount.toRat (data.paymentAccountId.orElse fun _ =>
      defaultPaymentAccount db expense.amount.toRat) = .ok code) :
    code.getD CASH = payFrom db expense data := by
  unfold payFrom
  unfold paymentAccountCode at h
  split at h
  · rename_i hnone
    rw [pure_eq_ok] at h
    subst h
    rw [hnone]
    rfl
  · rename_i a hsome
    simp only [bind_eq_ok, orThrow_eq_ok, require_eq_ok, pure_eq_ok] at h
    obtain ⟨account, haccount, -, -, -, -, -, -, rfl⟩ := h
    rw [hsome, Option.bind_some, LedgerDb.codeOf, haccount]
    rfl

/-- The bank register gets a row that is linked to a journal of the expense. -/
theorem ExpenseInv.mirrors (h : ExpenseInv db) {id : ExpenseId} {expenseNumber : String}
    {accountCode : Option String}
    (hmirror : mirrorPayment db id expenseNumber accountCode = .ok db') : ExpenseInv db' := by
  have hbooks : ∀ books, ExpenseInv { db with bankBooks := books } := fun books =>
    { rows := ⟨h.rows.below, h.rows.numbers, h.rows.positive⟩
      journals := h.journals
      document := h.document
      bank := h.bank
      agrees := h.agrees }
  unfold mirrorPayment at hmirror
  split at hmirror
  · rename_i code t hlive
    unfold createFromExpense at hmirror
    split at hmirror
    · cases hmirror
      exact h
    · simp only [bind_eq_ok, require_eq_ok] at hmirror
      obtain ⟨-, -, hmirror⟩ := hmirror
      split at hmirror
      · cases hmirror
        -- the linked journal is a payment of the expense
        unfold livePayment at hlive
        obtain ⟨⟨t', row⟩, hfind, rfl⟩ := Option.map_eq_some_iff.mp hlive
        have hmem := List.mem_reverse.mp (List.mem_of_find?_eq_some hfind)
        have hrow : db.ledger.transactions.get? t' = some row := OrderedMap.get?_eq_some_iff.mpr hmem
        have hkind := List.find?_some hfind
        simp only [Bool.and_eq_true, decide_eq_true_eq] at hkind
        exact
          { rows := ⟨fun n expense hget => (h.rows.below n expense hget).trans (Nat.lt_succ_self _),
              h.rows.numbers, h.rows.positive⟩
            journals := h.journals
            document := h.document
            bank := by
              intro b hb
              rcases List.mem_append.mp hb with hold | hnew
              · exact h.bank b hold
              · rw [List.mem_singleton.mp hnew]
                refine ⟨h.journals.wellFormed.idsBelow t' row hrow, fun journal hjournal => ?_⟩
                change db.ledger.transactions.get? t' = some journal at hjournal
                rw [hrow] at hjournal
                cases hjournal
                exact isOfExpense_iff.mpr ⟨.inr hkind.1.1, hkind.1.2⟩
            agrees := h.agrees }
      · cases hmirror
        exact hbooks _
  · cases hmirror
    exact h

theorem ExpenseInv.pays (h : ExpenseInv db) {id : ExpenseId} {data : PaymentData}
    (hget : db.expenses.get? id = some before) (hmay : MayPay db id before data)
    (hpay : markExpensePaid env db id data = .ok db') : ExpenseInv db' := by
  unfold markExpensePaid at hpay
  rw [hget] at hpay
  simp only [bind_eq_ok, require_eq_ok, ofLedger_eq_ok] at hpay
  obtain ⟨-, happroved, code, hcode, updated, hupdate, out, hposting, hmirror⟩ := hpay
  obtain ⟨-, rfl⟩ := updateRow_of_no_category hget rfl rfl hupdate
  rw [payFrom_eq hcode] at hposting
  refine ExpenseInv.mirrors ?_ hmirror
  have hown := paymentRequest_own id before (data.paymentDate.getD env.today)
    (payFrom db before data)
  have hunposted := h.unposted hget hown rfl (by
    rintro (hpaid | ⟨-, htype⟩)
    · rw [happroved] at hpaid
      cases hpaid
    · exact absurd htype (by decide : ("EXPENSE_PAYMENT" : String) ≠ "EXPENSE"))
  rcases createJournalEntry_own rfl hposting with ⟨hnot, -⟩ | ⟨-, header, written, mid, hposted⟩
  · exact absurd hunposted hnot
  obtain ⟨hcredited, hliquid, hne, hpayable⟩ := hmay
  obtain ⟨credit, -, hcreditNe, hmoves⟩ :=
    (StatusAgrees.approved_iff happroved).mp (h.agrees id before hget (.inl happroved))
  -- the approval credited payables, so the payment moves the amount on
  obtain rfl := credit_eq_of_creditedTo (h.rows.positive id before hget) hmoves hcredited
  refine h.posts hget hposted hown rfl rfl (h.rows.positive id before hget) ?_ (.inl rfl) ?_
  · rw [happroved]
    exact nofun
  have hsame : expenseAccountCode { db with ledger := out.db } (UpdateExpenseData.apply
      { status := some .PAID
        paymentStatus := some .PAID
        hasOther := true } before) = expenseAccountCode db before := by
    refine (expenseAccountCode_congr ?_ ?_ _).trans rfl
    · exact hposted.sameAccounts.codeOf
    · rfl
  refine (StatusAgrees.paid_iff rfl).mpr ⟨payFrom db before data, ?_, ?_, hpayable, ?_, ?_⟩
  · exact hliquid.frame hposted.sameAccounts
  · rw [hsame]
    exact hne
  · rw [hsame]
    exact hcreditNe.symm
  · rw [hsame]
    intro a code hacode
    have hacode' : db.ledger.codeOf a = some code :=
      (hposted.sameAccounts.codeOf a).symm.trans hacode
    rw [hown.balance h.journals.wellFormed hposted hacode', hmoves a code hacode',
      linesChange_payment, moved_add_moved]
    rfl

/-! ## Reversal -/

theorem reversalKey_stem (banks : List BankTransaction) (id : ExpenseId)
    (journal : TransactionId × TransactionRow) :
    ∃ rest, reversalKey banks id journal = "REV-" ++ rest := by
  unfold reversalKey
  split
  · rename_i bank _
    exact ⟨"EXPENSE-BANK-" ++ toString bank.id, by rw [← String.append_assoc]; rfl⟩
  · exact ⟨journal.2.referenceType ++ "-" ++ toString id, by simp only [String.append_assoc]⟩

theorem reversalKey_ne (banks : List BankTransaction) (id n : ExpenseId)
    (journal : TransactionId × TransactionRow) :
    reversalKey banks id journal ≠ expenseKey n ∧
      reversalKey banks id journal ≠ expensePaymentKey n := by
  obtain ⟨rest, hrest⟩ := reversalKey_stem banks id journal
  rw [hrest]
  exact ⟨append_ne_append 4 (by decide) (by decide) (by decide) _ _,
    append_ne_append 4 (by decide) (by decide) (by decide) _ _⟩

/-- What reversing journals of one expense leaves alone. -/
structure ReversalFrame (id : ExpenseId) (ledger ledger' : LedgerDb) : Prop where
  frame : LedgerFrame id ledger ledger'
  openRows : ∀ t row, OpenRow ledger' t row →
    row.referenceType = "REVERSAL" ∨ OpenRow ledger t row
  nextId_le : ledger.nextId ≤ ledger'.nextId
  /-- No journal changes its document. -/
  sameDocument : ∀ t row', t < ledger.nextId → ledger'.transactions.get? t = some row' →
    ∃ row, ledger.transactions.get? t = some row ∧ row'.referenceType = row.referenceType ∧
      row'.referenceId = row.referenceId

theorem ReversalFrame.refl (id : ExpenseId) (ledger : LedgerDb) :
    ReversalFrame id ledger ledger where
  frame := .refl id ledger
  openRows _ _ hopen := .inr hopen
  nextId_le := le_rfl
  sameDocument _ row' _ hget := ⟨row', hget, rfl, rfl⟩

theorem ReversalFrame.trans {id : ExpenseId} {ledger ledger' ledger'' : LedgerDb}
    (h : ReversalFrame id ledger ledger') (h' : ReversalFrame id ledger' ledger'') :
    ReversalFrame id ledger ledger'' where
  frame := h.frame.trans h'.frame
  openRows t row hopen := by
    rcases h'.openRows t row hopen with htype | hopen'
    · exact .inl htype
    · exact h.openRows t row hopen'
  nextId_le := h.nextId_le.trans h'.nextId_le
  sameDocument t row'' hlt hget := by
    obtain ⟨row', hget', htype', hid'⟩ := h'.sameDocument t row'' (hlt.trans_le h.nextId_le) hget
    obtain ⟨row, hrow, htype, hid⟩ := h.sameDocument t row' hlt hget'
    exact ⟨row, hrow, htype'.trans htype, hid'.trans hid⟩

/-- A journal that is there belongs to the expense. -/
def IsJournalOf (ledger : LedgerDb) (id : ExpenseId) (t : TransactionId) : Prop :=
  t < ledger.nextId ∧ ∀ row, ledger.transactions.get? t = some row → isOfExpense id row = true

theorem IsJournalOf.mono {ledger ledger' : LedgerDb} {id n : ExpenseId} {t : TransactionId}
    (h : IsJournalOf ledger n t) (hframe : ReversalFrame id ledger ledger') :
    IsJournalOf ledger' n t := by
  refine ⟨h.1.trans_le hframe.nextId_le, fun row' hget => ?_⟩
  obtain ⟨row, hrow, htype, hid⟩ := hframe.sameDocument t row' h.1 hget
  have hof := isOfExpense_iff.mp (h.2 row hrow)
  rw [isOfExpense_iff, htype, hid]
  exact hof

section Reversals

variable {ctx : PostingContext} {ledger : LedgerDb} {request : ReversalRequest}
  {out : PostingOutcome} {original header : TransactionRow} {written : List LedgerEntry}
  {mid : LedgerDb} {id : ExpenseId}

theorem JournalsInv.reverses (hinv : JournalsInv ledger)
    (hkey : ∀ n, request.idempotencyKey ≠ expenseKey n ∧
      request.idempotencyKey ≠ expensePaymentKey n)
    (h : ReversalPosted ctx ledger request out original header written mid) :
    JournalsInv out.db := by
  obtain ⟨htype, hheaderKey⟩ := h.header_fields
  constructor
  case wellFormed => exact h.wellFormed hinv.wellFormed
  case approvalKey =>
    intro t row n hopen hn
    rcases h.openRow_cases hinv.wellFormed hopen with ⟨-, rfl⟩ | hold
    · exact absurd (hheaderKey.symm.trans hn) (hkey n).1
    · exact hinv.approvalKey t row n hold hn
  case paymentKey =>
    intro t row n hopen hn
    rcases h.openRow_cases hinv.wellFormed hopen with ⟨-, rfl⟩ | hold
    · exact absurd (hheaderKey.symm.trans hn) (hkey n).2
    · exact hinv.paymentKey t row n hold hn
  case original =>
    intro t row n hopen hof
    rcases h.openRow_cases hinv.wellFormed hopen with ⟨-, rfl⟩ | hold
    · rw [isOfExpense_iff, htype] at hof
      exact absurd hof.1 (by decide)
    · exact hinv.original t row n hold hof

theorem ReversalFrame.of_reversal (hwf : WellFormed ledger)
    (hof : IsJournalOf ledger id request.originalTransactionId)
    (h : ReversalPosted ctx ledger request out original header written mid) :
    ReversalFrame id ledger out.db where
  frame :=
    { accounts := h.sameAccounts
      others := by
        intro n hn a code hcode
        have hother : isActiveWhere (isOfExpense n) ledger request.originalTransactionId =
            false := by
          rw [Bool.eq_false_iff]
          intro hactive
          obtain ⟨row, hrow, hofn⟩ := isActiveWhere_iff.mp hactive
          have hid := (isOfExpense_iff.mp (hof.2 row hrow.1)).2
          exact hn ((isOfExpense_iff.mp hofn).2.symm.trans hid)
        rw [h.balanceWhere_eq hwf, hother]
        exact sub_zero _ }
  openRows t row hopen := by
    rcases h.openRow_cases hwf hopen with ⟨-, rfl⟩ | hold
    · exact .inl h.header_fields.1
    · exact .inr hold
  nextId_le := by
    rw [h.nextId_eq]
    exact Nat.le_succ _
  sameDocument t row' hlt hget := by
    rcases h.originalReversed.get?_cases hwf hget with ⟨rfl, rfl⟩ | ⟨rfl, -⟩ | ⟨-, hold⟩
    · exact ⟨original, h.original_get, rfl, rfl⟩
    · exact absurd hlt (Nat.lt_irrefl _)
    · exact ⟨row', hold, rfl, rfl⟩

end Reversals

/-- The loop over the journals of an expense. -/
theorem reverseJournals_frame {pool : LedgerDb} {banks : List BankTransaction} {id : ExpenseId}
    {userId : UserId} {reason : String} {ledger ledger' : LedgerDb}
    {journals : List (TransactionId × TransactionRow)} (hinv : JournalsInv ledger)
    (hof : ∀ journal ∈ journals, IsJournalOf ledger id journal.1)
    (h : reverseJournals env pool banks id expense userId reason ledger journals = .ok ledger') :
    JournalsInv ledger' ∧ ReversalFrame id ledger ledger' := by
  unfold reverseJournals at h
  induction journals generalizing ledger with
  | nil =>
    cases h
    exact ⟨hinv, .refl id _⟩
  | cons journal rest ih =>
    simp only [List.foldlM_cons, bind_eq_ok, pure_eq_ok, ofLedger_eq_ok] at h
    obtain ⟨_, ⟨out, hreverse, rfl⟩, hrest⟩ := h
    obtain ⟨hhead, htail⟩ := List.forall_mem_cons.mp hof
    have hstep : JournalsInv out.db ∧ ReversalFrame id ledger out.db := by
      rcases reverseTransaction_cases hinv.wellFormed.idsBelow hreverse with
        ⟨hdb, -⟩ | ⟨-, original, header, written, mid, hposted⟩
      · rw [hdb]
        exact ⟨hinv, .refl id ledger⟩
      · exact ⟨hinv.reverses (fun n => reversalKey_ne banks id n journal) hposted,
          .of_reversal hinv.wellFormed hhead hposted⟩
    obtain ⟨hinv', hframe⟩ := hstep
    obtain ⟨hlast, hframe'⟩ := ih hinv' (fun j hj => (htail j hj).mono hframe) hrest
    exact ⟨hlast, hframe.trans hframe'⟩

/-- The listed journals belong to the expense. -/
theorem ExpenseInv.listed (h : ExpenseInv db) {id : ExpenseId}
    {journal : TransactionId × TransactionRow} (hmem : journal ∈ listLiveExpenseJournals db id) :
    IsJournalOf db.ledger id journal.1 := by
  unfold listLiveExpenseJournals at hmem
  rcases List.mem_append.mp hmem with hprimary | hlinked
  · obtain ⟨hentry, hkind⟩ := List.mem_filter.mp (List.mem_reverse.mp hprimary)
    have hget : db.ledger.transactions.get? journal.1 = some journal.2 :=
      OrderedMap.get?_eq_some_iff.mpr hentry
    refine ⟨h.journals.wellFormed.idsBelow _ _ hget, fun row hrow => ?_⟩
    rw [hget] at hrow
    cases hrow
    exact (Bool.and_eq_true_iff.mp hkind).1
  · obtain ⟨bank, hbank, hrow⟩ := List.mem_filterMap.mp (List.mem_filter.mp hlinked).1
    obtain ⟨hbankMem, hsource⟩ := List.mem_filter.mp hbank
    obtain ⟨row, -, rfl⟩ := Option.map_eq_some_iff.mp hrow
    obtain ⟨hbelow, hofBank⟩ := h.bank bank hbankMem
    rw [of_decide_eq_true hsource] at hofBank
    exact ⟨hbelow, hofBank⟩

/-- When no journal of an expense is listed, none is open. -/
theorem not_open_of_listed {ledger : LedgerDb} (hinv : JournalsInv ledger)
    {id : ExpenseId} (hledger : db.ledger = ledger) (hnone : listLiveExpenseJournals db id = [])
    {t : TransactionId} {row : TransactionRow} (hopen : OpenRow ledger t row) :
    isOfExpense id row = false := by
  subst hledger
  rw [Bool.eq_false_iff]
  intro hof
  have hlive : isLive row = true := by
    simp [isLive, hinv.original t row id hopen hof, hopen.live, hopen.posted]
  have hmem : (t, row) ∈ listLiveExpenseJournals db id := by
    refine List.mem_append_left _ (List.mem_reverse.mpr (List.mem_filter.mpr ⟨?_, ?_⟩))
    · exact OrderedMap.get?_eq_some_iff.mp hopen.get
    · exact Bool.and_eq_true_iff.mpr ⟨hof, hlive⟩
  rw [hnone] at hmem
  cases hmem

/-- What a reversal marks: the row of the expense and its rows of the bank register. -/
theorem markExpenseReversed_spec {id : ExpenseId} (h : markExpenseReversed db id = .ok db')
    (hget : db.expenses.get? id = some before) :
    db' = { db with
      expenses := db.expenses.set id { before with
        status := .REVERSED
        paymentStatus := .UNPAID } } := by
  unfold markExpenseReversed at h
  rw [hget] at h
  dsimp only at h
  split at h
  · cases h
    rfl
  · cases h
    rfl
  · cases h
  · cases h

theorem ExpenseInv.reverses (h : ExpenseInv db) {id : ExpenseId} {userId : UserId} {reason : String}
    (hreverse : reverseExpense env db id userId reason = .ok db') : ExpenseInv db' := by
  unfold reverseExpense at hreverse
  simp only [bind_eq_ok, require_eq_ok] at hreverse
  obtain ⟨-, -, hreverse⟩ := hreverse
  cases hget : db.expenses.get? id with
  | none =>
    rw [hget] at hreverse
    cases hreverse
    exact h
  | some before =>
    rw [hget] at hreverse
    simp only [bind_eq_ok, require_eq_ok] at hreverse
    obtain ⟨-, -, -, -, -, -, -, -, ledger, hloop, _, hassert, hmark⟩ := hreverse
    obtain rfl := markExpenseReversed_spec hmark hget
    obtain ⟨hjournals, hframe⟩ := reverseJournals_frame h.journals (fun _ => h.listed) hloop
    simp only [assertExpenseReverseLeavesNoMismatch, bind_eq_ok, require_eq_ok] at hassert
    obtain ⟨-, hnone, -⟩ := hassert
    constructor
    case rows => exact h.rows.rewrite hget rfl le_rfl (h.rows.positive id before hget) rfl
    case journals => exact hjournals
    case document =>
      intro t row n hopen hof
      have hne : n ≠ id := by
        rintro rfl
        rw [not_open_of_listed hjournals rfl hnone hopen] at hof
        cases hof
      rcases hframe.openRows t row hopen with htype | hold
      · rw [isOfExpense_iff, htype] at hof
        exact absurd hof.1 (by decide)
      · obtain ⟨expense, hexpense, hrest⟩ := h.document t row n hold hof
        exact ⟨expense, (OrderedMap.get?_set_of_ne hne _ _).trans hexpense, hrest⟩
    case bank =>
      intro b hb
      obtain ⟨bank, hbank, rfl⟩ := List.mem_map.mp hb
      have hkept := IsJournalOf.mono (h.bank bank hbank) hframe
      split
      · exact hkept
      · exact hkept
    case agrees =>
      intro n other hother hstatus
      rcases get?_set_cases hother with ⟨rfl, rfl⟩ | ⟨hne, hold⟩
      · rcases hstatus with happroved | hpaid
        · cases happroved
        · cases hpaid
      · refine (h.agrees n other hold hstatus).frame hframe.frame ?_ hne hstatus
        refine expenseAccountCode_congr ?_ ?_ other
        · exact hframe.frame.accounts.codeOf
        · rfl

/-! ## Runs -/

theorem ExpenseInv.exec (h : ExpenseInv db) {action : ExpenseAction}
    (hexec : db.exec action = some db') (hkeeps : KeepsStep db action) : ExpenseInv db' := by
  cases action with
  | createExpense env expenseNumber data =>
    have hcall := toOption_eq_some hexec
    simp only [createExpense, bind_eq_ok] at hcall
    obtain ⟨-, -, hinsert⟩ := hcall
    exact h.inserts hinsert
  | updateExpense env id data userId =>
    have hcall := toOption_eq_some hexec
    unfold updateExpense at hcall
    cases hget : db.expenses.get? id with
    | none =>
      rw [hget] at hcall
      cases hcall
      exact h
    | some before =>
      rw [hget] at hcall
      simp only [bind_eq_ok] at hcall
      obtain ⟨-, -, -, -, -, -, -, -, hupdate⟩ := hcall
      exact h.updates hget (hkeeps before hget) hupdate
  | deleteExpense id userId =>
    have hcall := toOption_eq_some hexec
    unfold deleteExpense at hcall
    split at hcall
    · cases hcall
      exact h
    · simp only [bind_eq_ok] at hcall
      obtain ⟨-, -, hdelete⟩ := hcall
      exact h.deletes hdelete
  | submitExpense env id =>
    have hcall := toOption_eq_some hexec
    simp only [submitExpense, bind_eq_ok, orThrow_eq_ok, require_eq_ok] at hcall
    obtain ⟨before, hget, -, hdraft, hupdate⟩ := hcall
    refine h.setsStatus hget ?_ (fun status hstatus => ?_) hupdate
    · rw [hdraft]
      exact not_or.mpr ⟨nofun, nofun⟩
    · cases hstatus
      exact ⟨nofun, nofun⟩
  | approveExpense env id =>
    have hcall := toOption_eq_some hexec
    cases hget : db.expenses.get? id with
    | none =>
      rw [approveExpense, hget] at hcall
      cases hcall
      exact h
    | some before => exact h.approves hget (hkeeps before hget) hcall
  | rejectExpense env id =>
    have hcall := toOption_eq_some hexec
    unfold rejectExpense at hcall
    cases hget : db.expenses.get? id with
    | none =>
      rw [hget] at hcall
      cases hcall
      exact h
    | some before =>
      rw [hget] at hcall
      simp only [bind_eq_ok, require_eq_ok] at hcall
      obtain ⟨-, hpending, hupdate⟩ := hcall
      refine h.setsStatus hget ?_ (fun status hstatus => ?_) hupdate
      · rw [hpending]
        exact not_or.mpr ⟨nofun, nofun⟩
      · cases hstatus
        exact ⟨nofun, nofun⟩
  | markExpensePaid env id data =>
    have hcall := toOption_eq_some hexec
    cases hget : db.expenses.get? id with
    | none =>
      rw [markExpensePaid, hget] at hcall
      cases hcall
      exact h
    | some before => exact h.pays hget (hkeeps before hget) hcall
  | reverseExpense env id userId reason =>
    have hcall : Expenses.reverseExpense env db id userId reason = .ok db' :=
      toOption_eq_some hexec
    exact h.reverses hcall

/-- No expenses yet, and a ledger that knows none. -/
structure ExpenseDb.Fresh (db : ExpenseDb) : Prop where
  wellFormed : WellFormed db.ledger
  expenses : db.expenses = .empty
  bankTransactions : db.bankTransactions = []
  rows : ∀ t row, db.ledger.transactions.get? t = some row → ∀ n, isOfExpense n row = false ∧
    row.idempotencyKey ≠ expenseKey n ∧ row.idempotencyKey ≠ expensePaymentKey n

theorem ExpenseDb.Fresh.inv (h : db.Fresh) : ExpenseInv db := by
  have hnone : ∀ {id expense}, db.expenses.get? id ≠ some expense := by
    intro id expense
    rw [h.expenses]
    exact nofun
  constructor
  case rows =>
    exact ⟨fun _ _ hget => absurd hget hnone, fun _ _ _ _ hget => absurd hget hnone,
      fun _ _ hget => absurd hget hnone⟩
  case journals =>
    constructor
    case wellFormed => exact h.wellFormed
    case approvalKey => exact fun t row n hopen hkey => absurd hkey (h.rows t row hopen.get n).2.1
    case paymentKey => exact fun t row n hopen hkey => absurd hkey (h.rows t row hopen.get n).2.2
    case original =>
      intro t row n hopen hof
      rw [(h.rows t row hopen.get n).1] at hof
      cases hof
  case document =>
    intro t row n hopen hof
    rw [(h.rows t row hopen.get n).1] at hof
    cases hof
  case bank =>
    intro b hb
    rw [h.bankTransactions] at hb
    cases hb
  case agrees => exact fun _ _ hget => absurd hget hnone

/-- Along every run whose calls keep step, the journals of every expense say what its status
says, after every call. -/
theorem expensesAgree_of_run {ts : List (ExpenseDb × ExpenseAction × ExpenseDb)}
    {start db : ExpenseDb} (hstart : start.Fresh)
    (hrun : Run (fun s a s' => ExpenseDb.exec s a = some s') start ts db)
    (hkeeps : ∀ t ∈ ts, KeepsStep t.1 t.2.1) : ∀ t ∈ ts, ExpensesAgree t.2.2 := by
  obtain ⟨-, hall⟩ := hrun.holds (P := ExpenseInv) (K := KeepsStep)
    (fun _ _ _ hs hstep hkeep => hs.exec hstep hkeep) hkeeps hstart.inv
  exact fun t ht => (hall t ht).2.expensesAgree

/-! ## An office -/

def officeAccount (accountCode accountName : String) (normalBalance : NormalBalance) : AccountRow :=
  ⟨accountCode, accountName, normalBalance, true, true, [], none, 0⟩

/-- Cash, payables and office expenses, and no transactions. -/
def officeBooks : LedgerDb where
  accounts := ((OrderedMap.empty.set 1 (officeAccount CASH "Cash Drawer" .DEBIT)).set 2
    (officeAccount ACCOUNTS_PAYABLE "Accounts Payable" .CREDIT)).set 3
    (officeAccount "6400" "Office Supplies" .DEBIT)
  transactions := .empty
  entries := []
  periods := .empty
  periodBalances := .empty
  events := .empty
  nextId := 100
  codes_nodup := by decide

def office : ExpenseDb where
  ledger := officeBooks
  assets := [1]
  bankBooks := []
  categories := .set .empty 4 ⟨"OFFICE", none, true, 0⟩
  employees := .empty
  expenses := .empty
  bankTransactions := []
  nextId := 10

theorem office_fresh : office.Fresh where
  wellFormed := EmptyLedger.wellFormed
    { transactions := rfl
      entries := rfl
      balances := by
        intro a row hrow
        have hall : ∀ e ∈ officeBooks.accounts.entries, e.2.currentBalance = 0 := by decide
        exact hall (a, row) (OrderedMap.get?_eq_some_iff.mp hrow)
      periodBalances := rfl
      events := rfl }
  expenses := rfl
  bankTransactions := rfl
  rows _ _ h := nomatch h

def ExpenseDb.after (db : ExpenseDb) (action : ExpenseAction) : ExpenseDb :=
  (db.exec action).getD db

def workday : ExpenseEnv := ⟨january, .enforce, 0⟩

/-- An expense of user 7. -/
def officeExpense (expenseNumber : String) (amount : ℚ) (paymentStatus : Option PaymentStatus) :
    ExpenseAction :=
  .createExpense workday expenseNumber
    { title := "Paper"
      amount := amount
      expenseDate := january
      category := some "OFFICE"
      categoryId := none
      employeeId := none
      createdBy := some 7
      paymentStatus := paymentStatus }

/-- An expense is approved on credit and paid; another one, paid at approval, is reversed. -/
def paidAndReversed : List ExpenseAction :=
  [officeExpense "EXP-202601-0001" 100 none, .submitExpense workday 10, .approveExpense workday 10,
    .markExpensePaid workday 10 ⟨none, none⟩, officeExpense "EXP-202601-4711" 20 (some .PAID),
    .submitExpense workday 11, .approveExpense workday 11,
    .reverseExpense workday 11 8 "wrong receipt"]

/-- The creator raises the amount after the approval. -/
def raisedAfterApproval : List ExpenseAction :=
  [officeExpense "EXP-202601-0001" 100 none, .submitExpense workday 10, .approveExpense workday 10,
    .updateExpense workday 10 { amount := some 150 } 7]

theorem paidAndReversed_agree : office.Fresh ∧
    ∀ t ∈ transitions ExpenseDb.after office paidAndReversed, ExpensesAgree t.2.2 :=
  ⟨office_fresh,
    expensesAgree_of_run office_fresh (.of_exec (by decide +kernel)) (by decide +kernel)⟩

/-- The approved expense says 150 and its journal 100. -/
theorem raisedAfterApproval_disagrees :
    office.Fresh ∧
      Run (fun s a s' => ExpenseDb.exec s a = some s') office
        (transitions ExpenseDb.after office raisedAfterApproval)
        (raisedAfterApproval.foldl .after office) ∧
      ¬ ExpensesAgree (raisedAfterApproval.foldl .after office) := by
  refine ⟨office_fresh, .of_exec (by decide +kernel), fun h => ?_⟩
  have hrow : ((raisedAfterApproval.foldl ExpenseDb.after office).expenses.get? 10).map
      (fun expense => (expense.status, expense.amount.toRat)) = some (.APPROVED, 150) := by
    decide +kernel
  obtain ⟨expense, hget, hfields⟩ := Option.map_eq_some_iff.mp hrow
  obtain ⟨hstatus, hamount⟩ := Prod.mk.inj hfields
  obtain ⟨credit, -, hne, hmoves⟩ := (StatusAgrees.approved_iff hstatus).mp (h 10 expense hget)
  have hcode : (raisedAfterApproval.foldl ExpenseDb.after office).ledger.codeOf 3 = some "6400" := by
    decide +kernel
  have haccount : ((raisedAfterApproval.foldl ExpenseDb.after office).expenses.get? 10).map
      (expenseAccountCode (raisedAfterApproval.foldl .after office)) = some "6400" := by
    decide +kernel
  rw [hget, Option.map_some, Option.some.injEq] at haccount
  rw [haccount] at hne hmoves
  have hposted : balanceWhere (raisedAfterApproval.foldl ExpenseDb.after office).ledger
      (isOfExpense 10) 3 .DEBIT = .ofRat 100 := by decide +kernel
  have hmarked := hmoves 3 "6400" hcode
  rw [hposted, moved, if_pos rfl, if_neg (Ne.symm hne), sub_zero, hamount] at hmarked
  exact absurd hmarked (by decide +kernel)

end SmartErpPos.Expenses
