/-
  Ledger/Statements.lean --- the statements that write the ledger.

  Sources: `services/accountingCore.ts`, and `writeProjectionEvent` of
  `services/periodBalanceWorker.ts`.

  `createJournalEntry` and `reverseTransaction` send the same few statements: an
  `INSERT` of the header, for each line an `INSERT` of the entry and an `UPDATE` of
  the account, and an `UPDATE` of the transaction that is reversed.  Each is one
  function here, with the constraints of the tables as its errors.
-/
import SmartErpPos.Ledger.NetActive

set_option autoImplicit false

namespace SmartErpPos.Ledger

open SmartErpPos.Lib

/-! ## Headers -/

/-- The rows `uq_ledger_sale_gl_reference` is about. -/
def isSaleReference (referenceType : String) : Bool :=
  referenceType = "SALE" || referenceType = "SALE_COGS"

/-- `INSERT INTO ledger_transactions`, with its three unique indexes. -/
def insertTransaction (db : LedgerDb) (id : TransactionId) (row : TransactionRow) :
    Except LedgerError LedgerDb := do
  let _ ← require (∀ e ∈ db.transactions.entries, e.2.transactionNumber ≠ row.transactionNumber)
    (.database "IX_ledger_transactions_TransactionNumber")
  let _ ← require (∀ e ∈ db.transactions.entries, e.2.idempotencyKey ≠ row.idempotencyKey)
    (.database "ledger_transactions_IdempotencyKey_key")
  let _ ← require (∀ e ∈ db.transactions.entries, isSaleReference row.referenceType = true →
      e.2.referenceType = row.referenceType → e.2.referenceNumber ≠ row.referenceNumber)
    (.database "uq_ledger_sale_gl_reference")
  pure { db with transactions := db.transactions.set id row, nextId := max db.nextId (id + 1) }

/-- `UPDATE ledger_transactions SET "PostingSource"`. -/
def stampPostingSource (db : LedgerDb) (id : TransactionId) (source : PostingSource) : LedgerDb :=
  { db with
    transactions := db.transactions.modify id fun row => { row with postingSource := some source } }

/-- The key a reversed transaction keeps: its own is free again unless it was empty. -/
def releasedKey (key : String) (reversalId : TransactionId) : String :=
  if key ≠ "" then key ++ "::REVERSED::" ++ toString reversalId else key

/-- The row of a transaction after its reversal. -/
def TransactionRow.reversedBy (row : TransactionRow) (reversalId : TransactionId) :
    TransactionRow :=
  { row with
    status := .REVERSED
    reversedByTransactionId := some reversalId
    isReversed := true
    idempotencyKey := releasedKey row.idempotencyKey reversalId }

/-- `UPDATE ledger_transactions SET "Status" = 'REVERSED'`; the new key has to be unique. -/
def markReversed (db : LedgerDb) (originalId reversalId : TransactionId) :
    Except LedgerError LedgerDb :=
  match db.transactions.get? originalId with
  | none => pure db
  | some row => do
    let _ ← require (∀ e ∈ db.transactions.entries, e.1 ≠ originalId →
        e.2.idempotencyKey ≠ (row.reversedBy reversalId).idempotencyKey)
      (.database "ledger_transactions_IdempotencyKey_key")
    pure { db with transactions := db.transactions.set originalId (row.reversedBy reversalId) }

/-! ## Lines -/

/-- What a line adds to the balance of an account. -/
def JournalLine.balanceChange (normal : NormalBalance) (line : JournalLine) : ℚ :=
  match normal with
  | .DEBIT => line.debitAmount - line.creditAmount
  | .CREDIT => line.creditAmount - line.debitAmount

/-- The entry of a line. -/
def entryOfLine (transactionId : TransactionId) (date : IsoDate) (lineNumber : ℕ)
    (line : JournalLine) (accountId : AccountId) : LedgerEntry where
  transactionId := transactionId
  accountId := accountId
  entryType := if line.isDebit then .DEBIT else .CREDIT
  amount := Numeric.ofRat (if line.isDebit then line.debitAmount else line.creditAmount)
  debitAmount := Numeric.ofRat line.debitAmount
  creditAmount := Numeric.ofRat line.creditAmount
  description := line.description
  lineNumber := lineNumber
  entityType := line.entityType
  entityId := line.entityId
  entryDate := date

/-- `INSERT INTO ledger_entries`. -/
def insertEntry (db : LedgerDb) (entry : LedgerEntry) : LedgerDb :=
  { db with entries := db.entries ++ [entry] }

/-- `CurrentBalance + change`, as the column stores it. -/
def addToAmount (balance : Amount) (change : ℚ) : Amount := Numeric.ofRat (balance.toRat + change)

/-- `UPDATE accounts SET "CurrentBalance" = "CurrentBalance" + change`. -/
def addToBalance (db : LedgerDb) (accountId : AccountId) (change : ℚ) : LedgerDb :=
  db.mapAccounts (fun id row =>
    if id = accountId then { row with currentBalance := addToAmount row.currentBalance change }
    else row) (by
      intro id row
      split <;> rfl)

/-- The two statements of one line. -/
def writeLine (db : LedgerDb) (entry : LedgerEntry) (change : ℚ) : LedgerDb :=
  addToBalance (insertEntry db entry) entry.accountId change

/-- `writeProjectionEvent`: `ON CONFLICT DO NOTHING`. -/
def writeProjectionEvent (db : LedgerDb) (key : PeriodKey) (transactionId : TransactionId)
    (idempotencyKey : String) (now : Timestamp) : LedgerDb :=
  let eventKey : ProjectionEventKey := ⟨key, transactionId⟩
  match db.events.get? eventKey with
  | some _ => db
  | none => { db with events := db.events.set eventKey ⟨idempotencyKey, .PENDING, 0, now⟩ }

end SmartErpPos.Ledger
