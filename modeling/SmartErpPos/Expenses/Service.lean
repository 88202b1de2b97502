/-
  Expenses/Service.lean --- the life of an expense and the journals it posts.

  Sources: `services/expenseService.ts`, `recordExpenseApprovalToGL` and
  `recordExpensePaymentToGL` of `services/glEntryService.ts`, and `createFromExpense` of
  `services/bankingService.ts`.

  Every operation runs in one transaction.  Notifications, approval records and the upkeep of
  the cash and mobile-money accounts by `ensureDepositLiquidityBook` are left out; of the
  bank register the rows of expenses are kept.
-/
import SmartErpPos.Expenses.Repository
import SmartErpPos.Ledger.AccountingCore

set_option autoImplicit false

namespace SmartErpPos.Expenses

open SmartErpPos.Lib SmartErpPos.Ledger

/-- The day and the clock of a call. -/
structure ExpenseEnv where
  today : IsoDate
  arMode : ArGovernanceMode
  now : Timestamp

/-- A posting inside the transaction of an operation that began on `ledger`. -/
def ExpenseEnv.client (env : ExpenseEnv) (ledger : LedgerDb) : PostingContext where
  path := .txClient
  pool := ledger.transactions
  arMode := env.arMode
  now := env.now

def ofLedger {α : Type} (x : Except LedgerError α) : Except ExpenseError α :=
  x.mapError .ledger

/-! ## Journals -/

def CASH : String := "1010"
def ACCOUNTS_PAYABLE : String := "2100"
def SYSTEM_USER_ID : String := "00000000-0000-0000-0000-000000000000"

/-- `EXPENSE-${expenseId}`. -/
def expenseKey (id : ExpenseId) : String := "EXPENSE-" ++ toString id

/-- `EXPENSE_PAYMENT-${expenseId}`. -/
def expensePaymentKey (id : ExpenseId) : String := "EXPENSE_PAYMENT-" ++ toString id

/-- A line of an expense. -/
def expenseLine (accountCode description : String) (debitAmount creditAmount : ℚ) :
    JournalLine where
  accountCode := accountCode
  description := description
  debitAmount := debitAmount
  creditAmount := creditAmount
  entityType := none
  entityId := none

/-- `Expense: ${description || expenseNumber}`. -/
def approvalText (expense : Expense) : String :=
  "Expense: " ++ orText (some (orText (some expense.title) expense.expenseNumber))
    expense.expenseNumber

/-- The account an approval credits. -/
def approvalCredit (expense : Expense) : String :=
  if expense.paymentStatus = .PAID then CASH else ACCOUNTS_PAYABLE

/-- The journal `recordExpenseApprovalToGL` asks for. -/
def approvalRequest (id : ExpenseId) (expense : Expense) (expenseAccountCode : String) :
    JournalEntryRequest where
  entryDate := expense.expenseDate
  description := approvalText expense
  referenceType := "EXPENSE"
  referenceId := some id
  referenceNumber := expense.expenseNumber
  lines :=
    [expenseLine expenseAccountCode (approvalText expense) expense.amount.toRat 0,
      expenseLine (approvalCredit expense) ("Expense recognition: " ++ expense.expenseNumber) 0
        expense.amount.toRat]
  userId := SYSTEM_USER_ID
  idempotencyKey := expenseKey id
  source := some .EXPENSE_PAYMENT

/-- The journal `recordExpensePaymentToGL` asks for. -/
def paymentRequest (id : ExpenseId) (expense : Expense) (paymentDate : IsoDate)
    (creditAccountCode : String) : JournalEntryRequest where
  entryDate := paymentDate
  description := "Payment for expense: " ++ expense.expenseNumber
  referenceType := "EXPENSE_PAYMENT"
  referenceId := some id
  referenceNumber := expense.expenseNumber
  lines :=
    [expenseLine ACCOUNTS_PAYABLE ("Clear AP for expense: " ++ expense.expenseNumber)
        expense.amount.toRat 0,
      expenseLine creditAccountCode ("Payment for expense: " ++ expense.expenseNumber) 0
        expense.amount.toRat]
  userId := SYSTEM_USER_ID
  idempotencyKey := expensePaymentKey id
  source := some .EXPENSE_PAYMENT

/-! ## Before approval -/

/-- `createExpense`. -/
def createExpense (env : ExpenseEnv) (db : ExpenseDb) (expenseNumber : String)
    (data : CreateExpenseData) : Except ExpenseError ExpenseDb := do
  let _ ← assertActiveEmployee db data.employeeId
  insertExpense db env.now expenseNumber data

/-- A draft, or an expense of the user. -/
def mayTouch (expense : Expense) (userId : UserId) : Prop :=
  expense.status = .DRAFT ∨ expense.createdBy = some userId

instance (expense : Expense) (userId : UserId) : Decidable (mayTouch expense userId) :=
  inferInstanceAs (Decidable (_ ∨ _))

/-- The code of the category an expense will have. -/
def nextCategory (db : ExpenseDb) (expense : Expense) (data : UpdateExpenseData) :
    Except ExpenseError String :=
  match data.categoryId with
  | some categoryId => do
    let resolved ← resolveExpenseCategory db (some categoryId) none
    pure (upperCase resolved.2.code)
  | none => pure (upperCase (orText data.category expense.category))

/-- `updateExpense`. -/
def updateExpense (env : ExpenseEnv) (db : ExpenseDb) (id : ExpenseId) (data : UpdateExpenseData)
    (userId : UserId) : Except ExpenseError ExpenseDb :=
  match db.expenses.get? id with
  | none => pure db
  | some existing => do
    let _ ← require (mayTouch existing userId)
      (.business "Cannot modify expense in current status" "ERR_EXPENSE_001")
    let _ ← assertActiveEmployee db data.employeeId.join
    let category ← nextCategory db existing data
    let _ ← require (¬ (category = "ALLOWANCE" ∧ data.employeeId.getD existing.employeeId = none))
      (.validation "Employee is required for Employee Allowances (audit who received the payout)")
    updateRow db env.now id data

/-- `deleteExpense`. -/
def deleteExpense (db : ExpenseDb) (id : ExpenseId) (userId : UserId) :
    Except ExpenseError ExpenseDb :=
  match db.expenses.get? id with
  | none => pure db
  | some existing => do
    let _ ← require (mayTouch existing userId)
      (.business "Cannot delete expense in current status" "ERR_EXPENSE_002")
    deleteRow db id

/-- `submitExpense`. -/
def submitExpense (env : ExpenseEnv) (db : ExpenseDb) (id : ExpenseId) :
    Except ExpenseError ExpenseDb := do
  let existing ← orThrow (db.expenses.get? id) (.other "Expense not found")
  let _ ← require (existing.status = .DRAFT)
    (.business "Only draft expenses can be submitted for approval" "ERR_EXPENSE_003")
  updateRow db env.now id { status := some .PENDING_APPROVAL }

/-- `rejectExpense`. -/
def rejectExpense (env : ExpenseEnv) (db : ExpenseDb) (id : ExpenseId) :
    Except ExpenseError ExpenseDb :=
  match db.expenses.get? id with
  | none => pure db
  | some existing => do
    let _ ← require (existing.status = .PENDING_APPROVAL)
      (.business "Cannot reject expense in current status" "ERR_EXPENSE_005")
    updateRow db env.now id
      { status := some .REJECTED
        hasOther := true }

/-! ## Approval and payment -/

/-- `approveExpense`: the status and the journal in one transaction. -/
def approveExpense (env : ExpenseEnv) (db : ExpenseDb) (id : ExpenseId) :
    Except ExpenseError ExpenseDb :=
  match db.expenses.get? id with
  | none => pure db
  | some existing => do
    let _ ← require (existing.status = .PENDING_APPROVAL)
      (.business "Cannot approve expense in current status" "ERR_EXPENSE_004")
    let updated ← updateRow db env.now id
      { status := some .APPROVED
        hasOther := true }
    let out ← ofLedger (createJournalEntry (env.client db.ledger) updated.ledger
      (approvalRequest id existing (expenseAccountCode updated existing)))
    pure { updated with ledger := out.db }

structure PaymentData where
  paymentDate : Option IsoDate
  paymentAccountId : Option AccountId

/-- The account an expense is paid from when none is given: the cash drawer if it has the
money, else the first that has. -/
def defaultPaymentAccount (db : ExpenseDb) (amount : ℚ) : Option AccountId :=
  let funded := (getPaymentAccounts db).filter fun e =>
    decide (amount ≤ available db.ledger e.1 e.2 + 1 / 10000)
  ((funded.find? fun e => decide (e.2.accountCode = CASH)).orElse fun _ => funded.head?).map
    Prod.fst

/-- The code of the account an expense is paid from: it takes expense payments and has the
money. -/
def paymentAccountCode (db : ExpenseDb) (amount : ℚ) (paymentAccountId : Option AccountId) :
    Except ExpenseError (Option String) :=
  match paymentAccountId with
  | none => pure none
  | some a => do
    let account ← orThrow (db.ledger.accounts.get? a)
      (.business "Payment account not found" "ERR_EXPENSE_009")
    let _ ← require (PostingSource.EXPENSE_PAYMENT ∈ account.allowedSources)
      (.business ("Cannot pay expense from " ++ account.accountCode ++ " (" ++
        account.accountName ++ "). Choose Cash, Bank, MoMo, or Petty Cash.") "ERR_EXPENSE_010")
    let _ ← require (account.isActive = true)
      (.validation ("Account " ++ account.accountCode ++ " not found or inactive"))
    let _ ← require (amount ≤ available db.ledger a account + 1 / 10000)
      (.business ("Insufficient funds in " ++ account.accountCode ++ " (" ++ account.accountName ++
        "). Available " ++ fixedText 2 (available db.ledger a account) ++ ", required " ++
        fixedText 2 amount ++ ".") "ERR_EXPENSE_011")
    pure (some account.accountCode)

/-- The row a journal of an expense still stands for, as the queries of the service test it. -/
def isLive (row : TransactionRow) : Bool :=
  row.reversesTransactionId.isNone && !row.isReversed && decide (row.status = .POSTED)

/-- A journal of an expense. -/
def isOfExpense (id : ExpenseId) (row : TransactionRow) : Bool :=
  decide (row.referenceType = "EXPENSE" ∨ row.referenceType = "EXPENSE_PAYMENT") &&
    decide (row.referenceId = id)

/-- The last live payment journal of an expense. -/
def livePayment (ledger : LedgerDb) (id : ExpenseId) : Option TransactionId :=
  (ledger.transactions.entries.reverse.find? fun e =>
    decide (e.2.referenceType = "EXPENSE_PAYMENT") && decide (e.2.referenceId = id) &&
      isLive e.2).map Prod.fst

/-- The journal credits the account. -/
def creditsAccount (ledger : LedgerDb) (t : TransactionId) (accountCode : String) : Bool :=
  ledger.entries.any fun e => decide (e.transactionId = t) && decide (0 < e.creditAmount) &&
    decide (ledger.codeOf e.accountId = some accountCode)

/-- The bank books after `ensureDepositLiquidityBook`. -/
def ensuredBooks (books : List String) (accountCode : String) : List String :=
  if accountCode = "1040" then "1040" :: books
  else if accountCode = "1010" ∨ accountCode = "1012" then "1010" :: books
  else books

/-- `BankingService.createFromExpense`: a row of the bank register that is linked to the
payment journal. -/
def createFromExpense (db : ExpenseDb) (id : ExpenseId) (expenseNumber accountCode : String)
    (glTransactionId : TransactionId) : Except ExpenseError ExpenseDb :=
  if db.bankTransactions.any fun bank => decide (bank.sourceId = id) && !bank.isReversed then
    pure db
  else do
    let _ ← require (creditsAccount db.ledger glTransactionId accountCode = true)
      (.other ("Expense " ++ expenseNumber ++ " GL does not credit " ++ accountCode ++
        " — refusing bank mirror (no mismatch)"))
    let ensured := { db with bankBooks := ensuredBooks db.bankBooks accountCode }
    if accountCode ∈ ensured.bankBooks then
      let row : BankTransaction :=
        { id := db.nextId
          sourceId := id
          glTransactionId := glTransactionId
          isReconciled := false
          isReversed := false }
      pure { ensured with
        bankTransactions := db.bankTransactions ++ [row]
        nextId := db.nextId + 1 }
    else pure ensured

/-- The bank register after a payment from an account. -/
def mirrorPayment (db : ExpenseDb) (id : ExpenseId) (expenseNumber : String)
    (accountCode : Option String) : Except ExpenseError ExpenseDb :=
  match accountCode, livePayment db.ledger id with
  | some code, some t => createFromExpense db id expenseNumber code t
  | _, _ => pure db

/-- `markExpensePaid`. -/
def markExpensePaid (env : ExpenseEnv) (db : ExpenseDb) (id : ExpenseId) (data : PaymentData) :
    Except ExpenseError ExpenseDb :=
  match db.expenses.get? id with
  | none => pure db
  | some existing => do
    let _ ← require (existing.status = .APPROVED)
      (.business "Cannot mark expense as paid in current status" "ERR_EXPENSE_006")
    let account := data.paymentAccountId.orElse fun _ =>
      defaultPaymentAccount db existing.amount.toRat
    let code ← paymentAccountCode db existing.amount.toRat account
    let updated ← updateRow db env.now id
      { status := some .PAID
        paymentStatus := some .PAID
        hasOther := true }
    let out ← ofLedger (createJournalEntry (env.client db.ledger) updated.ledger
      (paymentRequest id existing (data.paymentDate.getD env.today) (code.getD CASH)))
    mirrorPayment { updated with ledger := out.db } id existing.expenseNumber code

/-! ## Reversal -/

/-- `listLiveExpenseJournals`: those of the expense, the newest first, then those linked to
its rows of the bank register. -/
def listLiveExpenseJournals (db : ExpenseDb) (id : ExpenseId) :
    List (TransactionId × TransactionRow) :=
  let primary := (db.ledger.transactions.entries.filter fun e =>
    isOfExpense id e.2 && isLive e.2).reverse
  let linked := (db.bankTransactions.filter fun bank => decide (bank.sourceId = id)).filterMap
    fun bank => ((db.ledger.transactions.get? bank.glTransactionId).filter isLive).map
      fun row => (bank.glTransactionId, row)
  primary ++ linked.filter fun e => decide (e.1 ∉ primary.map Prod.fst)

/-- The key of the reversal of a journal. -/
def reversalKey (banks : List BankTransaction) (id : ExpenseId)
    (journal : TransactionId × TransactionRow) : String :=
  match banks.find? fun bank => decide (bank.glTransactionId = journal.1) with
  | some bank => "REV-EXPENSE-BANK-" ++ toString bank.id
  | none => "REV-" ++ journal.2.referenceType ++ "-" ++ toString id

/-- The reversal of a journal of an expense. -/
def expenseReversal (env : ExpenseEnv) (banks : List BankTransaction) (id : ExpenseId)
    (expense : Expense) (userId : UserId) (reason : String)
    (journal : TransactionId × TransactionRow) : ReversalRequest where
  originalTransactionId := journal.1
  reversalDate := env.today
  reason := "Expense " ++ expense.expenseNumber ++
    (if banks.any fun bank => decide (bank.glTransactionId = journal.1) then " bank: " else ": ") ++
    reason
  userId := toString userId
  idempotencyKey := reversalKey banks id journal

/-- What the journals and their reversals leave on an account. -/
def residual (ledger : LedgerDb) (originals : List TransactionId) (a : AccountId) : Amount :=
  balanceOver ledger (fun e => isActiveEntry ledger e &&
    (ledger.transactions.get? e.transactionId).any fun row =>
      decide (e.transactionId ∈ originals) ||
        row.reversesTransactionId.any fun t => decide (t ∈ originals)) a .DEBIT

/-- `assertExpenseReverseLeavesNoMismatch`. -/
def assertExpenseReverseLeavesNoMismatch (db : ExpenseDb) (id : ExpenseId)
    (originals : List TransactionId) : Except ExpenseError Unit := do
  let _ ← require (listLiveExpenseJournals db id = [])
    (.business "Expense reverse left posted GL. Reversal was not applied." "ERR_EXPENSE_016")
  require (∀ e ∈ db.ledger.accounts.entries,
      |(residual db.ledger originals e.1).toRat| ≤ 1 / 10000)
    (.business "Expense reverse left a GL imbalance. Reversal was not applied." "ERR_EXPENSE_016")

/-- The journals of a list are reversed one after the other. -/
def reverseJournals (env : ExpenseEnv) (pool : LedgerDb) (banks : List BankTransaction)
    (id : ExpenseId) (expense : Expense) (userId : UserId) (reason : String) (ledger : LedgerDb)
    (journals : List (TransactionId × TransactionRow)) : Except ExpenseError LedgerDb :=
  journals.foldlM (fun ledger journal => do
    let out ← ofLedger (reverseTransaction (env.client pool) ledger
      (expenseReversal env banks id expense userId reason journal))
    pure out.db) ledger

/-- `reverseExpense`. -/
def reverseExpense (env : ExpenseEnv) (db : ExpenseDb) (id : ExpenseId) (userId : UserId)
    (reason : String) : Except ExpenseError ExpenseDb := do
  let trimmed := jsTrim reason
  let _ ← require (3 ≤ trimmed.length) (.validation "Reversal reason is required")
  match db.expenses.get? id with
  | none => pure db
  | some existing => do
    let _ ← require (existing.status ≠ .REVERSED)
      (.business "Expense has already been reversed" "ERR_EXPENSE_012")
    let _ ← require (existing.status = .APPROVED ∨ existing.status = .PAID)
      (.business "Only approved or paid expenses can be reversed" "ERR_EXPENSE_013")
    let journals := listLiveExpenseJournals db id
    let _ ← require (journals ≠ [])
      (.business "No posted GL found for this expense. It cannot be reversed." "ERR_EXPENSE_014")
    let banks := db.bankTransactions.filter fun bank => decide (bank.sourceId = id)
    let _ ← require (∀ bank ∈ banks, bank.isReversed = true ∨ bank.isReconciled = false)
      (.business
        "Linked bank transaction is reconciled. Unreconcile it before reversing this expense."
        "ERR_EXPENSE_015")
    let ledger ← reverseJournals env db.ledger banks id existing userId trimmed db.ledger journals
    let reversed := { db with
      ledger := ledger
      bankTransactions := db.bankTransactions.map fun bank =>
        if bank.sourceId = id then { bank with isReversed := true } else bank }
    let _ ← assertExpenseReverseLeavesNoMismatch reversed id (journals.map Prod.fst)
    markExpenseReversed reversed id

/-! ## Runs -/

inductive ExpenseAction where
  | createExpense (env : ExpenseEnv) (expenseNumber : String) (data : CreateExpenseData)
  | updateExpense (env : ExpenseEnv) (id : ExpenseId) (data : UpdateExpenseData) (userId : UserId)
  | deleteExpense (id : ExpenseId) (userId : UserId)
  | submitExpense (env : ExpenseEnv) (id : ExpenseId)
  | approveExpense (env : ExpenseEnv) (id : ExpenseId)
  | rejectExpense (env : ExpenseEnv) (id : ExpenseId)
  | markExpensePaid (env : ExpenseEnv) (id : ExpenseId) (data : PaymentData)
  | reverseExpense (env : ExpenseEnv) (id : ExpenseId) (userId : UserId) (reason : String)

/-- A successful call; nothing where the call fails. -/
def ExpenseDb.exec (db : ExpenseDb) : ExpenseAction → Option ExpenseDb
  | .createExpense env expenseNumber data => (Expenses.createExpense env db expenseNumber data).toOption
  | .updateExpense env id data userId => (Expenses.updateExpense env db id data userId).toOption
  | .deleteExpense id userId => (Expenses.deleteExpense db id userId).toOption
  | .submitExpense env id => (Expenses.submitExpense env db id).toOption
  | .approveExpense env id => (Expenses.approveExpense env db id).toOption
  | .rejectExpense env id => (Expenses.rejectExpense env db id).toOption
  | .markExpensePaid env id data => (Expenses.markExpensePaid env db id data).toOption
  | .reverseExpense env id userId reason =>
    (Expenses.reverseExpense env db id userId reason).toOption

end SmartErpPos.Expenses
