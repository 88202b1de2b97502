/-
  Expenses/StatusJournals.lean --- when the status of an expense and its journals agree.

  Approval moves the amount from payables or cash to the expense account, and payment moves
  it on from a paying account to payables.  Nothing ties an edit, or the payment, to what
  the approval posted.  While an approved expense is edited in other columns only, and only
  what was approved on credit is paid, the journals of every expense say what its status says.
-/
import SmartErpPos.Expenses.Rows
import SmartErpPos.Lib.Transition
import SmartErpPos.Lib.RoundedRat

set_option autoImplicit false

namespace SmartErpPos.Expenses

open SmartErpPos.Lib SmartErpPos.Ledger

/-! ## Agreement -/

/-- The journals of an expense move its amount from one account to another. -/
def Moves (ledger : LedgerDb) (id : ExpenseId) (debit credit : String) (amount : Cents) : Prop :=
  ∀ a code, ledger.codeOf a = some code →
    balanceWhere ledger (isOfExpense id) a .DEBIT = moved debit credit (.ofRat amount.toRat) code

/-- The code is that of a liquidity account. -/
def IsLiquidityCode (ledger : LedgerDb) (code : String) : Prop :=
  ∃ e ∈ ledger.accounts.entries, e.2.accountCode = code ∧ isLiquidity e.2 = true

/-- An approved expense is owed or was paid from the drawer, a paid one was paid from one
liquidity account, and the others have posted nothing that is left. -/
def StatusAgrees (db : ExpenseDb) (id : ExpenseId) (expense : Expense) : Prop :=
  let account := expenseAccountCode db expense
  match expense.status with
  | .APPROVED => ∃ credit, (credit = ACCOUNTS_PAYABLE ∨ credit = CASH) ∧ credit ≠ account ∧
      Moves db.ledger id account credit expense.amount
  | .PAID => ∃ credit, IsLiquidityCode db.ledger credit ∧ credit ≠ account ∧
      credit ≠ ACCOUNTS_PAYABLE ∧ account ≠ ACCOUNTS_PAYABLE ∧
      Moves db.ledger id account credit expense.amount
  | _ => ∀ a, balanceWhere db.ledger (isOfExpense id) a .DEBIT = 0

def ExpensesAgree (db : ExpenseDb) : Prop :=
  ∀ id expense, db.expenses.get? id = some expense → StatusAgrees db id expense

/-! ## The condition -/

/-- The journals of the expense leave its amount on the credit side of an account. -/
def CreditedTo (db : ExpenseDb) (id : ExpenseId) (expense : Expense) (code : String) : Prop :=
  ∃ e ∈ db.ledger.accounts.entries, e.2.accountCode = code ∧
    balanceWhere db.ledger (isOfExpense id) e.1 .DEBIT = -.ofRat expense.amount.toRat

/-- The category an edit names has the account of the expense. -/
def KeepsAccount (db : ExpenseDb) (now : Timestamp) (data : UpdateExpenseData)
    (expense : Expense) : Prop :=
  ∀ updated ∈ (applyCategory db now data (data.apply expense)).toOption,
    expenseAccountCode updated.2 updated.1 = expenseAccountCode db expense

/-- An edit of an approved expense keeps the amount and the account, and sets `PAID` only if
the drawer was credited; other edits do not set the status to one that has journals. -/
def MayEdit (db : ExpenseDb) (now : Timestamp) (id : ExpenseId) (data : UpdateExpenseData)
    (expense : Expense) : Prop :=
  if expense.status = .APPROVED then
    (data.apply expense).amount = expense.amount ∧ KeepsAccount db now data expense ∧
      ∀ status ∈ data.status, status = .PAID ∧ CreditedTo db id expense CASH ∧
        expenseAccountCode db expense ≠ ACCOUNTS_PAYABLE
  else ∀ status ∈ data.status, status ≠ .APPROVED ∧ status ≠ .PAID

/-- The account of the category is not the one the approval credits. -/
def MayApprove (db : ExpenseDb) (expense : Expense) : Prop :=
  approvalCredit expense ≠ expenseAccountCode db expense

/-- The code of the account a payment will credit. -/
def payFrom (db : ExpenseDb) (expense : Expense) (data : PaymentData) : String :=
  ((data.paymentAccountId.orElse fun _ =>
    defaultPaymentAccount db expense.amount.toRat).bind db.ledger.codeOf).getD CASH

/-- The approval credited payables, and the payment comes from a liquidity account. -/
def MayPay (db : ExpenseDb) (id : ExpenseId) (expense : Expense) (data : PaymentData) : Prop :=
  CreditedTo db id expense ACCOUNTS_PAYABLE ∧
    IsLiquidityCode db.ledger (payFrom db expense data) ∧
    payFrom db expense data ≠ expenseAccountCode db expense ∧
    payFrom db expense data ≠ ACCOUNTS_PAYABLE

/-- The calls that keep status and journals in step. -/
def KeepsStep (db : ExpenseDb) : ExpenseAction → Prop
  | .updateExpense env id data _ =>
    ∀ expense ∈ db.expenses.get? id, MayEdit db env.now id data expense
  | .approveExpense _ id => ∀ expense ∈ db.expenses.get? id, MayApprove db expense
  | .markExpensePaid _ id data => ∀ expense ∈ db.expenses.get? id, MayPay db id expense data
  | _ => True

instance (ledger : LedgerDb) (code : String) : Decidable (IsLiquidityCode ledger code) :=
  inferInstanceAs (Decidable (∃ e ∈ ledger.accounts.entries, _))

instance (db : ExpenseDb) (id : ExpenseId) (expense : Expense) (code : String) :
    Decidable (CreditedTo db id expense code) :=
  inferInstanceAs (Decidable (∃ e ∈ db.ledger.accounts.entries, _))

instance (db : ExpenseDb) (now : Timestamp) (data : UpdateExpenseData) (expense : Expense) :
    Decidable (KeepsAccount db now data expense) :=
  inferInstanceAs (Decidable (∀ updated ∈ (_ : Option (Expense × ExpenseDb)), _))

instance (db : ExpenseDb) (now : Timestamp) (id : ExpenseId) (data : UpdateExpenseData)
    (expense : Expense) : Decidable (MayEdit db now id data expense) := by
  unfold MayEdit
  infer_instance

instance (db : ExpenseDb) (expense : Expense) : Decidable (MayApprove db expense) :=
  inferInstanceAs (Decidable (_ ≠ _))

instance (db : ExpenseDb) (id : ExpenseId) (expense : Expense) (data : PaymentData) :
    Decidable (MayPay db id expense data) :=
  inferInstanceAs (Decidable (_ ∧ _))

instance (db : ExpenseDb) (action : ExpenseAction) : Decidable (KeepsStep db action) := by
  cases action <;> unfold KeepsStep <;> infer_instance

/-! ## Frames -/

/-- What the journals of one expense leave alone. -/
structure LedgerFrame (id : ExpenseId) (ledger ledger' : LedgerDb) : Prop where
  accounts : SameAccounts ledger ledger'
  others : ∀ n, n ≠ id → ∀ a code, ledger.codeOf a = some code →
    balanceWhere ledger' (isOfExpense n) a .DEBIT = balanceWhere ledger (isOfExpense n) a .DEBIT

theorem LedgerFrame.refl (id : ExpenseId) (ledger : LedgerDb) : LedgerFrame id ledger ledger :=
  ⟨.refl ledger, fun _ _ _ _ _ => rfl⟩

theorem LedgerFrame.trans {id : ExpenseId} {ledger ledger' ledger'' : LedgerDb}
    (h : LedgerFrame id ledger ledger') (h' : LedgerFrame id ledger' ledger'') :
    LedgerFrame id ledger ledger'' where
  accounts := h.accounts.trans h'.accounts
  others n hn a code hcode := by
    have hcode' : ledger'.codeOf a = some code := (h.accounts.codeOf a).trans hcode
    exact (h'.others n hn a code hcode').trans (h.others n hn a code hcode)

theorem isOfExpense_iff {id : ExpenseId} {row : TransactionRow} : isOfExpense id row = true ↔
    (row.referenceType = "EXPENSE" ∨ row.referenceType = "EXPENSE_PAYMENT") ∧
      row.referenceId = id := by
  simp [isOfExpense]

theorem IsLiquidityCode.frame {ledger ledger' : LedgerDb} (h : SameAccounts ledger ledger')
    {code : String} (hcode : IsLiquidityCode ledger code) : IsLiquidityCode ledger' code := by
  obtain ⟨⟨a, row⟩, hmem, hrow, hliquid⟩ := hcode
  rcases h a with ⟨-, hnone⟩ | ⟨row', balance, hget, hget'⟩
  · rw [OrderedMap.get?_eq_some_iff.mpr hmem] at hnone
    cases hnone
  · rw [OrderedMap.get?_eq_some_iff.mpr hmem] at hget
    cases hget
    exact ⟨(a, row.withBalance balance), OrderedMap.get?_eq_some_iff.mp hget', hrow, hliquid⟩

variable {db : ExpenseDb}

variable {db' : ExpenseDb} {expense row : Expense}

/-- The status of another expense agrees as before. -/
theorem StatusAgrees.frame {id n : ExpenseId} (hframe : LedgerFrame id db.ledger db'.ledger)
    (haccount : expenseAccountCode db' expense = expenseAccountCode db expense) (hn : n ≠ id)
    (hstatus : expense.status = .APPROVED ∨ expense.status = .PAID)
    (h : StatusAgrees db n expense) : StatusAgrees db' n expense := by
  have hmoves : ∀ {debit credit amount}, Moves db.ledger n debit credit amount →
      Moves db'.ledger n debit credit amount := by
    intro debit credit amount hmoves a code hcode
    have hcode' : db.ledger.codeOf a = some code := by
      rw [← hframe.accounts.codeOf]
      exact hcode
    rw [hframe.others n hn a code hcode']
    exact hmoves a code hcode'
  unfold StatusAgrees at h ⊢
  rw [haccount]
  rcases hstatus with happroved | hpaid
  · rw [happroved] at h ⊢
    obtain ⟨credit, hcredit, hne, hall⟩ := h
    exact ⟨credit, hcredit, hne, hmoves hall⟩
  · rw [hpaid] at h ⊢
    obtain ⟨credit, hliquid, hne, hpayable, haccountPayable, hall⟩ := h
    exact ⟨credit, hliquid.frame hframe.accounts, hne, hpayable, haccountPayable, hmoves hall⟩

/-! ## Rows -/

/-- Ids are below the next one, numbers are unique and amounts positive. -/
structure RowsInv (db : ExpenseDb) : Prop where
  below : ∀ id expense, db.expenses.get? id = some expense → id < db.nextId
  numbers : ∀ id id' expense expense', db.expenses.get? id = some expense →
    db.expenses.get? id' = some expense' → expense.expenseNumber = expense'.expenseNumber →
      id = id'
  positive : ∀ id expense, db.expenses.get? id = some expense → 0 < expense.amount

theorem get?_set_cases {expenses : OrderedMap ExpenseId Expense} {id n : ExpenseId}
    {other : Expense} (hget : (expenses.set id row).get? n = some other) :
    (n = id ∧ other = row) ∨ (n ≠ id ∧ expenses.get? n = some other) := by
  rw [OrderedMap.get?_set] at hget
  split at hget
  · rename_i heq
    cases hget
    exact .inl ⟨heq, rfl⟩
  · rename_i hne
    exact .inr ⟨hne, hget⟩

theorem RowsInv.put (h : RowsInv db) {id : ExpenseId}
    (hexpenses : db'.expenses = db.expenses.set id row) (hbelow : id < db'.nextId)
    (hnextId : db.nextId ≤ db'.nextId) (hpositive : 0 < row.amount)
    (hnumber : ∀ n other, n ≠ id → db.expenses.get? n = some other →
      other.expenseNumber ≠ row.expenseNumber) : RowsInv db' := by
  constructor
  case below =>
    rw [hexpenses]
    intro n other hget
    rcases get?_set_cases hget with ⟨rfl, -⟩ | ⟨-, hold⟩
    · exact hbelow
    · exact (h.below n other hold).trans_le hnextId
  case numbers =>
    rw [hexpenses]
    intro n n' other other' hget hget' hsame
    rcases get?_set_cases hget with ⟨rfl, rfl⟩ | ⟨hne, hold⟩
    · rcases get?_set_cases hget' with ⟨rfl, -⟩ | ⟨hne', hold'⟩
      · rfl
      · exact absurd hsame.symm (hnumber n' other' hne' hold')
    · rcases get?_set_cases hget' with ⟨rfl, rfl⟩ | ⟨hne', hold'⟩
      · exact absurd hsame (hnumber n other hne hold)
      · exact h.numbers n n' other other' hold hold' hsame
  case positive =>
    rw [hexpenses]
    intro n other hget
    rcases get?_set_cases hget with ⟨-, rfl⟩ | ⟨-, hold⟩
    · exact hpositive
    · exact h.positive n other hold

/-- A row is rewritten under its number. -/
theorem RowsInv.rewrite (h : RowsInv db) {id : ExpenseId} {before : Expense}
    (hget : db.expenses.get? id = some before) (hexpenses : db'.expenses = db.expenses.set id row)
    (hnextId : db.nextId ≤ db'.nextId) (hpositive : 0 < row.amount)
    (hnumber : row.expenseNumber = before.expenseNumber) : RowsInv db' := by
  refine h.put hexpenses ((h.below id before hget).trans_le hnextId) hnextId hpositive ?_
  intro n other hne hother hsame
  exact hne (h.numbers n id other before hother hget (hsame.trans hnumber))

/-! ## Journals -/

/-- The open journals with a key of an expense are its own, and reverse nothing. -/
structure JournalsInv (ledger : LedgerDb) : Prop where
  wellFormed : WellFormed ledger
  approvalKey : ∀ t row n, OpenRow ledger t row → row.idempotencyKey = expenseKey n →
    row.referenceType = "EXPENSE" ∧ row.referenceId = n
  paymentKey : ∀ t row n, OpenRow ledger t row → row.idempotencyKey = expensePaymentKey n →
    row.referenceType = "EXPENSE_PAYMENT" ∧ row.referenceId = n
  original : ∀ t row n, OpenRow ledger t row → isOfExpense n row = true →
    row.reversesTransactionId = none

theorem expenseKey_injective {m n : ExpenseId} (h : expenseKey m = expenseKey n) : m = n :=
  natText_injective (append_left_cancel h)

theorem expensePaymentKey_injective {m n : ExpenseId}
    (h : expensePaymentKey m = expensePaymentKey n) : m = n :=
  natText_injective (append_left_cancel h)

theorem expenseKey_ne_paymentKey (m n : ExpenseId) : expenseKey m ≠ expensePaymentKey n :=
  append_ne_append 8 (by decide) (by decide) (by decide) _ _

/-- A journal of an expense, the approval or the payment. -/
structure IsOwnRequest (id : ExpenseId) (request : JournalEntryRequest) : Prop where
  referenceId : request.referenceId = some id
  kind : (request.referenceType = "EXPENSE" ∧ request.idempotencyKey = expenseKey id) ∨
    (request.referenceType = "EXPENSE_PAYMENT" ∧ request.idempotencyKey = expensePaymentKey id)

section Postings

variable {ctx : PostingContext} {ledger : LedgerDb} {request : JournalEntryRequest}
  {out : PostingOutcome} {header : TransactionRow} {written : List LedgerEntry} {mid : LedgerDb}
  {id : ExpenseId}

theorem IsOwnRequest.isOfExpense (hown : IsOwnRequest id request)
    (h : JournalPosted ctx ledger request out header written mid) (n : ExpenseId) :
    isOfExpense n header = true ↔ n = id := by
  obtain ⟨htype, hid, -, -⟩ := h.header_fields
  rw [hown.referenceId] at hid
  rw [isOfExpense_iff, ← Option.some.inj hid, htype, eq_comm (a := n)]
  constructor
  · exact fun hof => hof.2
  · exact fun heq => ⟨hown.kind.imp And.left And.left, heq⟩

theorem JournalsInv.posts (hinv : JournalsInv ledger) (hown : IsOwnRequest id request)
    (h : JournalPosted ctx ledger request out header written mid) : JournalsInv out.db := by
  obtain ⟨htype, hid, -, hkey⟩ := h.header_fields
  rw [hown.referenceId] at hid
  have hheaderId : header.referenceId = id := (Option.some.inj hid).symm
  constructor
  case wellFormed => exact h.wellFormed hinv.wellFormed
  case approvalKey =>
    intro t row n hopen hn
    rcases (h.openRow_iff hinv.wellFormed).mp hopen with ⟨-, rfl⟩ | hold
    · rcases hown.kind with ⟨hkind, hownKey⟩ | ⟨-, hownKey⟩
      · rw [hkey, hownKey] at hn
        exact ⟨htype.trans hkind, hheaderId.trans (expenseKey_injective hn)⟩
      · rw [hkey, hownKey] at hn
        exact absurd hn.symm (expenseKey_ne_paymentKey n id)
    · exact hinv.approvalKey t row n hold hn
  case paymentKey =>
    intro t row n hopen hn
    rcases (h.openRow_iff hinv.wellFormed).mp hopen with ⟨-, rfl⟩ | hold
    · rcases hown.kind with ⟨-, hownKey⟩ | ⟨hkind, hownKey⟩
      · rw [hkey, hownKey] at hn
        exact absurd hn (expenseKey_ne_paymentKey id n)
      · rw [hkey, hownKey] at hn
        exact ⟨htype.trans hkind, hheaderId.trans (expensePaymentKey_injective hn)⟩
    · exact hinv.paymentKey t row n hold hn
  case original =>
    intro t row n hopen hof
    rcases (h.openRow_iff hinv.wellFormed).mp hopen with ⟨-, rfl⟩ | hold
    · exact h.header_reverses
    · exact hinv.original t row n hold hof

/-- The journals of the other expenses stay as they are. -/
theorem IsOwnRequest.frame (hown : IsOwnRequest id request) (hwf : WellFormed ledger)
    (h : JournalPosted ctx ledger request out header written mid) :
    LedgerFrame id ledger out.db where
  accounts := h.sameAccounts
  others n hn a code hcode := by
    have hoff : Expenses.isOfExpense n header = false := by
      rw [Bool.eq_false_iff, ne_eq, hown.isOfExpense h]
      exact hn
    rw [h.balance_codeOf hwf _ hcode, hoff]
    exact add_zero _

/-- What the journal adds to those of its own expense. -/
theorem IsOwnRequest.balance (hown : IsOwnRequest id request) (hwf : WellFormed ledger)
    (h : JournalPosted ctx ledger request out header written mid) {a : AccountId} {code : String}
    (hcode : ledger.codeOf a = some code) :
    balanceWhere out.db (Expenses.isOfExpense id) a .DEBIT =
      balanceWhere ledger (Expenses.isOfExpense id) a .DEBIT +
        linesChange .DEBIT code request.lines := by
  rw [h.balance_codeOf hwf _ hcode, if_pos ((hown.isOfExpense h id).mpr rfl)]

end Postings

/-! ## The invariant -/

/-- What holds after every call that keeps step. -/
structure ExpenseInv (db : ExpenseDb) : Prop where
  rows : RowsInv db
  journals : JournalsInv db.ledger
  document : ∀ t row n, OpenRow db.ledger t row → isOfExpense n row = true →
    ∃ expense, db.expenses.get? n = some expense ∧
      expense.expenseNumber = row.referenceNumber ∧
      (expense.status = .PAID ∨ expense.status = .APPROVED ∧ row.referenceType = "EXPENSE")
  bank : ∀ b ∈ db.bankTransactions, b.glTransactionId < db.ledger.nextId ∧
    ∀ row, db.ledger.transactions.get? b.glTransactionId = some row →
      isOfExpense b.sourceId row = true
  agrees : ∀ id expense, db.expenses.get? id = some expense →
    expense.status = .APPROVED ∨ expense.status = .PAID → StatusAgrees db id expense

/-- An expense that is neither approved nor paid has no journals. -/
theorem ExpenseInv.not_open (h : ExpenseInv db) {id : ExpenseId}
    (hget : db.expenses.get? id = some expense)
    (hstatus : ¬ (expense.status = .APPROVED ∨ expense.status = .PAID)) {t : TransactionId}
    {row : TransactionRow} (hopen : OpenRow db.ledger t row) : isOfExpense id row = false := by
  rw [Bool.eq_false_iff]
  intro hof
  obtain ⟨expense', hget', -, hposted⟩ := h.document t row id hopen hof
  rw [hget] at hget'
  cases hget'
  rcases hposted with hpaid | ⟨happroved, -⟩
  · exact hstatus (.inr hpaid)
  · exact hstatus (.inl happroved)

theorem ExpenseInv.quiet (h : ExpenseInv db) {id : ExpenseId}
    (hget : db.expenses.get? id = some expense)
    (hstatus : ¬ (expense.status = .APPROVED ∨ expense.status = .PAID)) (a : AccountId) :
    balanceWhere db.ledger (isOfExpense id) a .DEBIT = 0 :=
  balanceWhere_eq_zero (fun _ _ hactive => h.not_open hget hstatus hactive.openRow) a .DEBIT

theorem ExpenseInv.expensesAgree (h : ExpenseInv db) : ExpensesAgree db := by
  intro id expense hget
  by_cases hstatus : expense.status = .APPROVED ∨ expense.status = .PAID
  · exact h.agrees id expense hget hstatus
  · have hzero := h.quiet hget hstatus
    unfold StatusAgrees
    cases hcase : expense.status with
    | APPROVED => exact absurd (.inl hcase) hstatus
    | PAID => exact absurd (.inr hcase) hstatus
    | _ => exact hzero

/-- A journal of an expense stays documented when its row keeps the number and stays posted. -/
theorem ExpenseInv.documented (h : ExpenseInv db) {id : ExpenseId}
    (hbefore : ∀ before, db.expenses.get? id = some before →
      row.expenseNumber = before.expenseNumber ∧ before.status ≠ .PAID ∧
        (before.status = .APPROVED → row.status = .APPROVED ∨ row.status = .PAID))
    {t : TransactionId} {journal : TransactionRow} {n : ExpenseId}
    (hopen : OpenRow db.ledger t journal) (hof : isOfExpense n journal = true) :
    ∃ expense, (db.expenses.set id row).get? n = some expense ∧
      expense.expenseNumber = journal.referenceNumber ∧
      (expense.status = .PAID ∨
        expense.status = .APPROVED ∧ journal.referenceType = "EXPENSE") := by
  obtain ⟨other, hother, hsame, hposted⟩ := h.document t journal n hopen hof
  rcases eq_or_ne n id with rfl | hne
  · obtain ⟨hnumber, hpaid, happroved⟩ := hbefore other hother
    refine ⟨row, OrderedMap.get?_set_self _ _ _, hnumber.trans hsame, ?_⟩
    rcases hposted with hisPaid | ⟨hisApproved, htype⟩
    · exact absurd hisPaid hpaid
    · exact (happroved hisApproved).symm.imp_right fun hstatus => ⟨hstatus, htype⟩
  · exact ⟨other, (OrderedMap.get?_set_of_ne hne _ _).trans hother, hsame, hposted⟩

/-- A row is inserted, or rewritten before it is paid. -/
theorem ExpenseInv.put (h : ExpenseInv db) {id : ExpenseId} {nextId : ℕ}
    {categories : OrderedMap CategoryId ExpenseCategory} (hrows : RowsInv { db with
      categories := categories
      expenses := db.expenses.set id row
      nextId := nextId })
    (haccounts : ∀ expense, expenseAccountCode { db with categories := categories } expense =
      expenseAccountCode db expense) (hbefore : ∀ before, db.expenses.get? id = some before →
      row.expenseNumber = before.expenseNumber ∧ before.status ≠ .PAID ∧
        (before.status = .APPROVED → row.status = .APPROVED ∨ row.status = .PAID))
    (hagrees : row.status = .APPROVED ∨ row.status = .PAID →
      StatusAgrees { db with categories := categories } id row) :
    ExpenseInv { db with
      categories := categories
      expenses := db.expenses.set id row
      nextId := nextId } where
  rows := hrows
  journals := h.journals
  document _ _ _ hopen hof := h.documented hbefore hopen hof
  bank := h.bank
  agrees n other hget hstatus := by
    rcases get?_set_cases hget with ⟨rfl, rfl⟩ | ⟨hne, hold⟩
    · exact hagrees hstatus
    · exact (h.agrees n other hold hstatus).frame (.refl id db.ledger) (haccounts other) hne hstatus

/-- An expense posts a journal and gets the status it stands for. -/
theorem ExpenseInv.posts (h : ExpenseInv db) {id : ExpenseId} {before : Expense}
    {ctx : PostingContext} {request : JournalEntryRequest} {out : PostingOutcome}
    {header : TransactionRow} {written : List LedgerEntry} {mid : LedgerDb}
    (hget : db.expenses.get? id = some before)
    (hposted : JournalPosted ctx db.ledger request out header written mid)
    (hown : IsOwnRequest id request) (hnumber : request.referenceNumber = before.expenseNumber)
    (hsame : row.expenseNumber = before.expenseNumber) (hpositive : 0 < row.amount)
    (hpaid : before.status ≠ .PAID) (hstatus : row.status = .PAID ∨
      row.status = .APPROVED ∧ request.referenceType = "EXPENSE")
    (hagrees : StatusAgrees { db with ledger := out.db } id row) :
    ExpenseInv { db with
      ledger := out.db
      expenses := db.expenses.set id row } := by
  have hwf := h.journals.wellFormed
  constructor
  case rows => exact h.rows.rewrite hget rfl le_rfl hpositive hsame
  case journals => exact h.journals.posts hown hposted
  case document =>
    intro t journal n hopen hof
    rcases (hposted.openRow_iff hwf).mp hopen with ⟨-, rfl⟩ | hold
    · obtain rfl := (hown.isOfExpense hposted n).mp hof
      obtain ⟨htype, -, hheaderNumber, -⟩ := hposted.header_fields
      refine ⟨row, OrderedMap.get?_set_self _ _ _, ?_, ?_⟩
      · rw [hheaderNumber, hnumber, hsame]
      · rw [htype]
        exact hstatus
    · refine h.documented (fun other hother => ?_) hold hof
      rw [hget] at hother
      cases hother
      exact ⟨hsame, hpaid, fun _ => hstatus.symm.imp_left And.left⟩
  case bank =>
    intro b hb
    obtain ⟨hbelow, hrow⟩ := h.bank b hb
    have hadded := hposted.headerAdded
    refine ⟨?_, fun journal hjournal => ?_⟩
    · rw [hposted.nextId_eq]
      exact hbelow.trans (Nat.lt_succ_self _)
    rw [hadded.transactions, OrderedMap.get?_set_of_ne hbelow.ne] at hjournal
    exact hrow journal hjournal
  case agrees =>
    intro n other hother hotherStatus
    rcases get?_set_cases hother with ⟨rfl, rfl⟩ | ⟨hne, hold⟩
    · exact hagrees
    · have haccount : expenseAccountCode { db with
            ledger := out.db
            expenses := db.expenses.set id row } other = expenseAccountCode db other := by
        refine expenseAccountCode_congr ?_ ?_ other
        · exact hposted.sameAccounts.codeOf
        · rfl
      exact (h.agrees n other hold hotherStatus).frame (hown.frame hwf hposted) haccount hne
        hotherStatus

end SmartErpPos.Expenses
