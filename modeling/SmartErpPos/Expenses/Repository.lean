/-
  Expenses/Repository.lean --- expenses, their categories and the rows they keep.

  Sources: `repositories/expenseRepository.ts` and `shared/expense/categoryGlMap.ts`.

  Ids are numbers drawn from one counter.  The number of a new expense is the one
  `generateExpenseNumber` returned, whose fallback reads the clock; the column is unique.
  Vendors, documents, tags, approval records and payment methods are left out: no operation
  here reads them.
-/
import SmartErpPos.Ledger.NetActive
import SmartErpPos.Lib.JsText

set_option autoImplicit false

namespace SmartErpPos.Expenses

open SmartErpPos.Lib SmartErpPos.Ledger

/-! ## Rows -/

abbrev ExpenseId := ℕ
abbrev CategoryId := ℕ
abbrev EmployeeId := ℕ
abbrev UserId := ℕ

/-- `numeric(15, 2)`. -/
abbrev Cents := Numeric 2

inductive ExpenseStatus where
  | DRAFT
  | PENDING_APPROVAL
  | APPROVED
  | REJECTED
  | PAID
  | CANCELLED
  | REVERSED
  deriving DecidableEq

def ExpenseStatus.text : ExpenseStatus → String
  | .DRAFT => "DRAFT"
  | .PENDING_APPROVAL => "PENDING_APPROVAL"
  | .APPROVED => "APPROVED"
  | .REJECTED => "REJECTED"
  | .PAID => "PAID"
  | .CANCELLED => "CANCELLED"
  | .REVERSED => "REVERSED"

inductive PaymentStatus where
  | UNPAID
  | PAID
  | PARTIAL
  deriving DecidableEq

/-- A row of `expense_categories`. -/
structure ExpenseCategory where
  code : String
  accountId : Option AccountId
  isActive : Bool
  updatedAt : Timestamp
  deriving DecidableEq

/-- A row of `expenses`. -/
structure Expense where
  expenseNumber : String
  title : String
  amount : Cents
  expenseDate : IsoDate
  category : String
  categoryId : CategoryId
  employeeId : Option EmployeeId
  status : ExpenseStatus
  createdBy : Option UserId
  accountId : Option AccountId
  paymentStatus : PaymentStatus
  deriving DecidableEq

/-- A row of `bank_transactions` that an expense payment wrote. -/
structure BankTransaction where
  id : ℕ
  sourceId : ExpenseId
  glTransactionId : TransactionId
  isReconciled : Bool
  isReversed : Bool
  deriving DecidableEq

/-- The tables of the expenses and the ledger they post to. -/
structure ExpenseDb where
  ledger : LedgerDb
  /-- The posting accounts of type `ASSET`. -/
  assets : List AccountId
  /-- The codes of the accounts that have an active bank book. -/
  bankBooks : List String
  categories : OrderedMap CategoryId ExpenseCategory
  /-- The employees, and whether they are active. -/
  employees : OrderedMap EmployeeId Bool
  expenses : OrderedMap ExpenseId Expense
  bankTransactions : List BankTransaction
  nextId : ℕ

/-! ## Errors -/

/-- What a failed call throws. -/
inductive ExpenseError where
  | business (message code : String)
  | conflict (message : String)
  | validation (message : String)
  | other (message : String)
  | database (constraint : String)
  | ledger (error : LedgerError)
  deriving DecidableEq

/-! ## Categories -/

def DEFAULT_EXPENSE_GL_CODE : String := "6900"

/-- `EXPENSE_CATEGORY_ALIASES`. -/
def EXPENSE_CATEGORY_ALIASES : List (String × String) :=
  [("OFFICE_SUPPLIES", "OFFICE"), ("PROFESSIONAL_SERVICES", "PROFESSIONAL"), ("GENERAL", "OTHER")]

/-- `EXPENSE_CATEGORY_GL_CODES`. -/
def EXPENSE_CATEGORY_GL_CODES : List (String × String) :=
  [("OFFICE", "6400"), ("OFFICE_SUPPLIES", "6400"), ("TRAVEL", "6800"), ("MEALS", "6800"),
    ("FUEL", "6800"), ("ACCOMMODATION", "6800"), ("UTILITIES", "6200"), ("SALARIES", "6000"),
    ("ALLOWANCE", "6000"), ("RENT", "6100"), ("MARKETING", "6300"), ("INSURANCE", "6600"),
    ("PROFESSIONAL", "6700"), ("PROFESSIONAL_SERVICES", "6700"), ("MAINTENANCE", "6900"),
    ("EQUIPMENT", "6900"), ("SOFTWARE", "6900"), ("TRAINING", "6900"), ("OTHER", "6900"),
    ("GENERAL", "6900")]

/-- `code.toUpperCase()`. -/
def upperCase (code : String) : String := String.ofList (code.toList.map Char.toUpper)

/-- `normalizeExpenseCategoryCode`. -/
def normalizeExpenseCategoryCode (code : String) : String :=
  if code = "" then "OTHER"
  else
    let upper := String.ofList ((upperCase code).toList.map fun c =>
      if ('A' ≤ c ∧ c ≤ 'Z') ∨ c.isDigit then c else '_')
    (EXPENSE_CATEGORY_ALIASES.lookup upper).getD upper

/-- `mapExpenseCategoryCodeToGl`. -/
def mapExpenseCategoryCodeToGl (code : String) : String :=
  ((EXPENSE_CATEGORY_GL_CODES.lookup (normalizeExpenseCategoryCode code)).orElse fun _ =>
    EXPENSE_CATEGORY_GL_CODES.lookup (upperCase code)).getD DEFAULT_EXPENSE_GL_CODE

/-- The category of a code, active ones first, then the one updated last. -/
def categoryByCode (db : ExpenseDb) (codes : List String) :
    Option (CategoryId × ExpenseCategory) :=
  let found := db.categories.entries.filter fun e => decide (upperCase e.2.code ∈ codes)
  let active := found.filter (·.2.isActive)
  let best := if active = [] then found else active
  best.foldl (fun best e => match best with
    | some b => if b.2.updatedAt < e.2.updatedAt then some e else some b
    | none => some e) none

/-- `resolveExpenseCategory`. -/
def resolveExpenseCategory (db : ExpenseDb) (categoryId : Option CategoryId)
    (categoryCode : Option String) : Except ExpenseError (CategoryId × ExpenseCategory) :=
  let rawCode := trimmedText categoryCode
  let byId := categoryId.bind fun id => (db.categories.get? id).map fun category => (id, category)
  let byCode := rawCode.bind fun code =>
    categoryByCode db [upperCase code, normalizeExpenseCategoryCode code]
  orThrow (byId.orElse fun _ => byCode) (.validation ("Unknown expense category" ++
    match rawCode, categoryId with
    | some code, _ => ": " ++ code
    | none, some id => " id " ++ toString id
    | none, none => ""))

/-- The account of a code. -/
def accountOfCode (ledger : LedgerDb) (code : String) : Option AccountId :=
  (ledger.accounts.entries.find? fun e => decide (e.2.accountCode = code)).map Prod.fst

/-- `resolveGlAccountIdForCategory`: the account, and the table in which a mapping found by
its code is kept. -/
def resolveGlAccountIdForCategory (db : ExpenseDb) (now : Timestamp)
    (category : CategoryId × ExpenseCategory) : Option AccountId × ExpenseDb :=
  match category.2.accountId with
  | some a => (some a, db)
  | none =>
    match accountOfCode db.ledger (mapExpenseCategoryCodeToGl category.2.code) with
    | some a => (some a, { db with
        categories := db.categories.modify category.1 fun row =>
          if row.accountId = none then
            { row with
              accountId := some a
              updatedAt := now }
          else row })
    | none => (accountOfCode db.ledger DEFAULT_EXPENSE_GL_CODE, db)

/-- `resolveExpenseGlAccountCode` of a row: its own account, that of its category, or the
usual one for the code of the category. -/
def expenseAccountCode (db : ExpenseDb) (expense : Expense) : String :=
  let category := db.categories.get? expense.categoryId
  let own := expense.accountId.bind db.ledger.codeOf
  let ofCategory := (category.bind (·.accountId)).bind db.ledger.codeOf
  (own.orElse fun _ => ofCategory).getD
    (mapExpenseCategoryCodeToGl ((category.map (·.code)).getD expense.category))

/-! ## Employees -/

/-- `assertActiveEmployeeForExpense`, when an employee is given. -/
def assertActiveEmployee (db : ExpenseDb) (employeeId : Option EmployeeId) :
    Except ExpenseError Unit :=
  match employeeId with
  | none => pure ()
  | some id => do
    let active ← orThrow (db.employees.get? id)
      (.validation "Employee not found for expense link")
    require (active = true) (.validation "Cannot link expense to an inactive employee")

/-! ## Writing rows -/

structure CreateExpenseData where
  title : String
  amount : ℚ
  expenseDate : IsoDate
  category : Option String
  categoryId : Option CategoryId
  employeeId : Option EmployeeId
  createdBy : Option UserId
  paymentStatus : Option PaymentStatus

/-- What an update writes; `employeeId` may be set to `NULL`, and `hasOther` says that a
column is given that is left out here. -/
structure UpdateExpenseData where
  title : Option String := none
  amount : Option ℚ := none
  expenseDate : Option IsoDate := none
  category : Option String := none
  categoryId : Option CategoryId := none
  employeeId : Option (Option EmployeeId) := none
  status : Option ExpenseStatus := none
  paymentStatus : Option PaymentStatus := none
  hasOther : Bool := false

/-- `expenseRepository.createExpense`. -/
def insertExpense (db : ExpenseDb) (now : Timestamp) (expenseNumber : String)
    (data : CreateExpenseData) : Except ExpenseError ExpenseDb := do
  let category ← resolveExpenseCategory db data.categoryId data.category
  let resolved := resolveGlAccountIdForCategory db now category
  let row : Expense :=
    { expenseNumber := expenseNumber
      title := data.title
      amount := .ofRat data.amount
      expenseDate := data.expenseDate
      category := category.2.code
      categoryId := category.1
      employeeId := data.employeeId
      status := .DRAFT
      createdBy := data.createdBy
      accountId := resolved.1
      paymentStatus := data.paymentStatus.getD .UNPAID }
  let _ ← require (0 < row.amount) (.database "expenses_amount_check")
  let _ ← require (∀ other ∈ db.expenses.values, other.expenseNumber ≠ expenseNumber)
    (.database "expenses_expense_number_key")
  pure { resolved.2 with
    expenses := resolved.2.expenses.set resolved.2.nextId row
    nextId := resolved.2.nextId + 1 }

/-- No column is given. -/
def UpdateExpenseData.isEmpty (data : UpdateExpenseData) : Bool :=
  data.title.isNone && data.amount.isNone && data.expenseDate.isNone && data.category.isNone &&
    data.categoryId.isNone && data.employeeId.isNone && data.status.isNone &&
    data.paymentStatus.isNone && !data.hasOther

/-- The statuses an update refuses to touch. -/
def requireModifiable (status : ExpenseStatus) (newStatus : Option ExpenseStatus) :
    Except ExpenseError Unit :=
  match status with
  | .REVERSED => .error (.conflict "Cannot modify a reversed expense")
  | .PAID => .error (.conflict "Cannot modify a paid expense")
  | .APPROVED => require (∀ s ∈ newStatus, s = .PAID ∨ s = .CANCELLED)
      (.conflict "Approved expense can only transition to PAID or CANCELLED")
  | _ => pure ()

/-- The row after an update, the category apart. -/
def UpdateExpenseData.apply (data : UpdateExpenseData) (row : Expense) : Expense :=
  { row with
    title := data.title.getD row.title
    amount := (data.amount.map .ofRat).getD row.amount
    expenseDate := data.expenseDate.getD row.expenseDate
    category := data.category.getD row.category
    employeeId := data.employeeId.getD row.employeeId
    status := data.status.getD row.status
    paymentStatus := data.paymentStatus.getD row.paymentStatus }

/-- The category of an update, when it names one; the row gets its account. -/
def applyCategory (db : ExpenseDb) (now : Timestamp) (data : UpdateExpenseData) (row : Expense) :
    Except ExpenseError (Expense × ExpenseDb) :=
  if data.categoryId.isSome ∨ (data.category.filter (· ≠ "")).isSome then do
    let category ← resolveExpenseCategory db data.categoryId data.category
    let resolved := resolveGlAccountIdForCategory db now category
    pure ({ row with
      category := category.2.code
      categoryId := category.1
      accountId := resolved.1 }, resolved.2)
  else pure (row, db)

/-- `expenseRepository.updateExpense`; a missing expense is left alone. -/
def updateRow (db : ExpenseDb) (now : Timestamp) (id : ExpenseId) (data : UpdateExpenseData) :
    Except ExpenseError ExpenseDb :=
  match db.expenses.get? id with
  | none => pure db
  | some row => do
    let _ ← requireModifiable row.status data.status
    let updated ← applyCategory db now data (data.apply row)
    let _ ← require (data.isEmpty = false) (.other "No fields to update")
    let _ ← require (0 < updated.1.amount) (.database "expenses_amount_check")
    pure { updated.2 with expenses := updated.2.expenses.set id updated.1 }

/-- `expenseRepository.deleteExpense`. -/
def deleteRow (db : ExpenseDb) (id : ExpenseId) : Except ExpenseError ExpenseDb :=
  match db.expenses.get? id with
  | none => pure db
  | some row =>
    match row.status with
    | .PAID => .error (.conflict "Cannot delete a paid expense")
    | .REVERSED => .error (.conflict "Cannot delete a reversed expense")
    | .APPROVED => .error (.conflict "Cannot delete an approved expense")
    | _ => pure { db with expenses := db.expenses.set id { row with status := .CANCELLED } }

/-- `markExpenseReversed`. -/
def markExpenseReversed (db : ExpenseDb) (id : ExpenseId) : Except ExpenseError ExpenseDb :=
  match db.expenses.get? id with
  | none => .error (.business
      "Expense reverse did not set status REVERSED. Reversal was not applied." "ERR_EXPENSE_016")
  | some row =>
    match row.status with
    | .APPROVED | .PAID => pure { db with
        expenses := db.expenses.set id { row with
          status := .REVERSED
          paymentStatus := .UNPAID } }
    | .REVERSED => .error (.conflict "Expense has already been reversed")
    | status => .error (.conflict ("Cannot reverse expense in status " ++ status.text))

/-! ## Paying accounts -/

/-- Cash, bank, mobile money or petty cash. -/
def isLiquidity (row : AccountRow) : Bool :=
  row.systemAccountTag.any (· ∈ ["CASH", "BANK", "MOBILE_MONEY", "PETTY_CASH"]) ||
    decide (row.accountCode ∈ ["1010", "1012", "1030", "1040"])

/-- `roundMoney`. -/
def roundMoney (value : ℚ) : ℚ := (⌊value * 100 + 1 / 2⌋ : ℚ) / 100

/-- `availableFromPostedTotals` of an account. -/
def available (ledger : LedgerDb) (id : AccountId) (row : AccountRow) : ℚ :=
  roundMoney (netActiveBalance ledger id row.normalBalance).toRat

/-- `getPaymentAccounts`, in the order of the codes. -/
def getPaymentAccounts (db : ExpenseDb) : List (AccountId × AccountRow) :=
  (db.ledger.accounts.entries.filter fun e => decide (e.1 ∈ db.assets) && e.2.isActive &&
    isLiquidity e.2 && decide (PostingSource.EXPENSE_PAYMENT ∈ e.2.allowedSources)).mergeSort
    fun a b => decide (a.2.accountCode ≤ b.2.accountCode)

end SmartErpPos.Expenses
