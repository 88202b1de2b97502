/-
  Treasury/Receipts.lean --- receipts, their journals, and the table of what is left to deposit.

  Sources: `modules/treasury/receiptSettlementRepository.ts`, `createCustomerPayment` and
  `reverseCustomerPayment` of `modules/ar-payments/arPaymentService.ts`,
  `recordCustomerPaymentToGL` and `recordCustomerDepositToGL` of `services/glEntryService.ts`,
  and `refundDeposit` of `modules/deposits/depositsRepository.ts`.

  A receipt debits Undeposited Funds, 1015.  Its settlement row is inserted later, by the next
  synchronisation.  Of the ledger only the journals are kept, with their lines and with what
  reverses them.
-/
import SmartErpPos.Deposits.Repository
import SmartErpPos.Lib.KeyedSum
import SmartErpPos.Treasury.Settlements

set_option autoImplicit false

namespace SmartErpPos.Treasury

open SmartErpPos.Lib SmartErpPos.Ledger SmartErpPos.Deposits

/-! ## Accounts -/

def UNDEPOSITED_FUNDS : String := "1015"
def ACCOUNTS_RECEIVABLE : String := "1200"
def CUSTOMER_DEPOSITS : String := "2200"

/-! ## Tables -/

inductive ArPaymentStatus where
  | DRAFT
  | POSTED
  | PARTIALLY_ALLOCATED
  | FULLY_ALLOCATED
  | REVERSED
  deriving DecidableEq

def ArPaymentStatus.text : ArPaymentStatus → String
  | .DRAFT => "DRAFT"
  | .POSTED => "POSTED"
  | .PARTIALLY_ALLOCATED => "PARTIALLY_ALLOCATED"
  | .FULLY_ALLOCATED => "FULLY_ALLOCATED"
  | .REVERSED => "REVERSED"

/-- `REVERSIBLE_AR_PAYMENT_STATUSES`. -/
def REVERSIBLE_AR_PAYMENT_STATUSES : List ArPaymentStatus :=
  [.POSTED, .PARTIALLY_ALLOCATED, .FULLY_ALLOCATED]

/-- A row of `ar_customer_payments`. -/
structure ArCustomerPayment where
  paymentNumber : String
  totalAmount : Money
  status : ArPaymentStatus
  total_pos : 0 < totalAmount

/-- A row of `pos_customer_deposits`. -/
structure CustomerDeposit where
  depositNumber : String
  amount : Money
  status : DepositStatus
  amount_pos : 0 < amount

/-- What a journal is about: `ReferenceType` and `ReferenceId`. -/
inductive JournalReference where
  | CUSTOMER_PAYMENT (paymentId : SourceId)
  | CUSTOMER_DEPOSIT (depositId : SourceId)
  | TREASURY_DOCUMENT (documentId : DocumentId)
  | REVERSAL (transactionId : TransactionId)
  deriving DecidableEq

def JournalReference.id : JournalReference → ℕ
  | .CUSTOMER_PAYMENT id => id
  | .CUSTOMER_DEPOSIT id => id
  | .TREASURY_DOCUMENT id => id
  | .REVERSAL id => id

/-- A posted journal. -/
structure PostedJournal where
  reference : JournalReference
  lines : List JournalLine
  isReversed : Bool
  reversedByTransactionId : Option TransactionId
  deriving DecidableEq

/-- The tables.  `nextId` is the first unused key. -/
structure ReceiptDb where
  arPayments : OrderedMap SourceId ArCustomerPayment
  deposits : OrderedMap SourceId CustomerDeposit
  settlements : Settlements
  applications : List SettlementApplication
  documents : OrderedMap DocumentId (TreasuryDocument × DocumentLines)
  journals : OrderedMap TransactionId PostedJournal
  nextId : ℕ

/-! ## The ledger -/

/-- What lines add to an account. -/
def changeOn (accountCode : String) (lines : List JournalLine) : ℚ :=
  ((lines.filter fun line => decide (line.accountCode = accountCode)).map fun line =>
    line.debitAmount - line.creditAmount).sum

namespace ReceiptDb

variable (db : ReceiptDb)

/-- `LEDGER_NET_ACTIVE_SQL`: neither reversed nor a reversal. -/
def isNetActive (id : TransactionId) : Bool :=
  match db.journals.get? id with
  | some j => !j.isReversed && db.journals.values.all fun other =>
      decide (other.reversedByTransactionId ≠ some id)
  | none => false

/-- `getClearingGlBalance`. -/
def getClearingGlBalance (accountCode : String) : ℚ :=
  db.journals.sumWhere db.isNetActive fun j => changeOn accountCode j.lines

/-- `createJournalEntry`, as the journals here use it: one journal for each reference. -/
def createJournalEntry (reference : JournalReference) (lines : List JournalLine) :
    Except TreasuryError (TransactionId × ReceiptDb) := do
  checkJournal lines
  match db.journals.entries.find? fun e =>
      decide (e.2.reference = reference) && !e.2.isReversed with
  | some e => pure (e.1, db)
  | none => pure (db.nextId,
      { db with
        journals := db.journals.set db.nextId
          { reference := reference
            lines := lines
            isReversed := false
            reversedByTransactionId := none }
        nextId := db.nextId + 1 })

/-- `reverseTransaction` of a journal that is not reversed. -/
def reverseTransaction (id : TransactionId) (journal : PostedJournal) : ReceiptDb :=
  { db with
    journals := (db.journals.set id
        { journal with
          isReversed := true
          reversedByTransactionId := some db.nextId }).set db.nextId
      { reference := .REVERSAL id
        lines := journal.lines.map fun line =>
          { line with
            description := "REVERSAL: " ++ line.description
            debitAmount := line.creditAmount
            creditAmount := line.debitAmount }
        isReversed := false
        reversedByTransactionId := none }
    nextId := db.nextId + 1 }

end ReceiptDb

/-! ## Receiving money -/

/-- A receipt at the office.  The tax a customer withholds has an account of its own. -/
structure CustomerPaymentInput where
  paymentNumber : String
  amount : ℚ
  whtAmount : ℚ
  whtAccountCode : String
  /-- Where the allocation to invoices leaves the payment. -/
  status : ArPaymentStatus
  notClearing : whtAccountCode ≠ UNDEPOSITED_FUNDS

/-- `splitCustomerPaymentDebits`: cash, tax withheld, and receivable. -/
def splitCustomerPaymentDebits (grossAmount whtAmount : ℚ) :
    Except TreasuryError (ℚ × ℚ × ℚ) := do
  let wht := if 9 / 1000 < whtAmount then whtAmount else 0
  let _ ← require (wht ≤ grossAmount + 9 / 1000)
    (.validation ("WHT amount (" ++ decimalText wht ++ ") cannot exceed payment amount (" ++
      decimalText grossAmount ++ ")"))
  pure (roundMoney (grossAmount - wht), roundMoney wht, grossAmount)

/-- A line of a receipt's journal. -/
def receiptLine (accountCode description : String) (debitAmount creditAmount : ℚ) :
    JournalLine where
  accountCode := accountCode
  description := description
  debitAmount := debitAmount
  creditAmount := creditAmount
  entityType := some "customer"
  entityId := none

/-- The lines of `recordCustomerPaymentToGL`. -/
def customerPaymentLines (input : CustomerPaymentInput) (cashDebit whtDebit arCredit : ℚ) :
    List JournalLine :=
  [receiptLine UNDEPOSITED_FUNDS ("Payment received — " ++ input.paymentNumber) cashDebit 0] ++
  (if 9 / 1000 < whtDebit then
    [receiptLine input.whtAccountCode ("WHT withheld by customer — " ++ input.paymentNumber)
      whtDebit 0]
  else []) ++
  [receiptLine ACCOUNTS_RECEIVABLE "Reduce A/R" 0 arCredit]

/-- `createCustomerPayment`. -/
def createCustomerPayment (db : ReceiptDb) (input : CustomerPaymentInput) :
    Except TreasuryError ReceiptDb := do
  let _ ← require (0 < input.amount)
    (.validation "Payment amount must be greater than zero")
  let _ ← require (input.status ∈ REVERSIBLE_AR_PAYMENT_STATUSES)
    (.database "ar_customer_payments_alloc_bounds")
  if htotal : 0 < (Numeric.ofRat input.amount : Money) then
    let (cashDebit, whtDebit, arCredit) ←
      splitCustomerPaymentDebits input.amount
        (if 9 / 1000 < input.whtAmount then input.whtAmount else 0)
    let inserted : ReceiptDb :=
      { db with
        arPayments := db.arPayments.set db.nextId
          { paymentNumber := input.paymentNumber
            totalAmount := .ofRat input.amount
            status := input.status
            total_pos := htotal }
        nextId := db.nextId + 1 }
    let (_, posted) ← inserted.createJournalEntry (.CUSTOMER_PAYMENT db.nextId)
      (customerPaymentLines input cashDebit whtDebit arCredit)
    pure posted
  else .error (.database "ar_customer_payments_total_amount_check")

/-- The lines of `recordCustomerDepositToGL`. -/
def customerDepositLines (depositNumber : String) (amount : Money) : List JournalLine :=
  [receiptLine UNDEPOSITED_FUNDS ("Deposit received — " ++ depositNumber) amount.toRat 0,
   receiptLine CUSTOMER_DEPOSITS ("Customer deposit liability — " ++ depositNumber) 0 amount.toRat]

/-- `createDeposit` with its journal. -/
def createDeposit (db : ReceiptDb) (depositNumber : String) (inputAmount : ℚ) :
    Except TreasuryError ReceiptDb := do
  let amount : Money := Numeric.ofRat inputAmount
  if hamount : 0 < amount then
    let inserted : ReceiptDb :=
      { db with
        deposits := db.deposits.set db.nextId
          { depositNumber := depositNumber
            amount := amount
            status := .ACTIVE
            amount_pos := hamount }
        nextId := db.nextId + 1 }
    let (_, posted) ← inserted.createJournalEntry (.CUSTOMER_DEPOSIT db.nextId)
      (customerDepositLines depositNumber amount)
    pure posted
  else .error (.database "chk_deposit_amount_positive")

/-- `refundDeposit`: the row is marked, and nothing else. -/
def refundDeposit (db : ReceiptDb) (depositId : SourceId) : Except TreasuryError ReceiptDb := do
  let deposit ← orThrow ((db.deposits.get? depositId).filter fun d => decide (d.status = .ACTIVE))
    (.validation "Deposit not found or not refundable")
  pure { db with deposits := db.deposits.set depositId { deposit with status := .REFUNDED } }

/-! ## Synchronising -/

/-- `SUM("DebitAmount")` over the lines that debit the account; nothing where there is none. -/
def debitOn (accountCode : String) (lines : List JournalLine) : Option ℚ :=
  match lines.filter fun line => decide (line.accountCode = accountCode ∧ 0 < line.debitAmount) with
  | [] => none
  | debits => some (debits.map (·.debitAmount)).sum

namespace ReceiptDb

variable (db : ReceiptDb)

/-- What the journal of a payment debits Undeposited Funds by. -/
def cashDebitOf (paymentId : SourceId) : Option Money :=
  db.journals.values.findSome? fun j =>
    if j.reference = .CUSTOMER_PAYMENT paymentId then
      (debitOn UNDEPOSITED_FUNDS j.lines).map Numeric.ofRat
    else none

/-- The receipt of the row is a payment that has been reversed. -/
def isReversed (receipt : ReceiptKey) : Bool :=
  decide (receipt.sourceType = .AR_CUSTOMER_PAYMENT) &&
    (db.arPayments.get? receipt.sourceId).any fun p => decide (p.status = .REVERSED)

end ReceiptDb

/-- A receipt of which nothing is deposited. -/
def ReceiptSettlement.unsettled (sourceNumber : String) (amount : Money) (hamount : 0 < amount) :
    ReceiptSettlement where
  sourceNumber := some sourceNumber
  originatingAmount := amount
  settledAmount := 0
  residualAmount := amount
  settlementStatus := .UNSETTLED
  originating_pos := hamount
  settled_nonneg := le_refl 0
  residual_eq := (sub_zero amount).symm
  residual_nonneg := hamount.le

/-- A receipt that no longer waits for a deposit. -/
def ReceiptSettlement.closed (s : ReceiptSettlement) : ReceiptSettlement where
  sourceNumber := s.sourceNumber
  originatingAmount := s.originatingAmount
  settledAmount := s.originatingAmount
  residualAmount := 0
  settlementStatus := .SETTLED
  originating_pos := s.originating_pos
  settled_nonneg := s.originating_pos.le
  residual_eq := (sub_self s.originatingAmount).symm
  residual_nonneg := le_refl 0

theorem toRat_le_iff {x : Money} : x.toRat ≤ 9 / 1000 ↔ x ≤ 0 := by
  have hunits : x.toRat = x.units / 100 := by
    unfold Numeric.toRat
    norm_num
  rw [hunits, Numeric.le_iff_units, Numeric.units_zero]
  constructor
  · intro h
    have hlt : (x.units : ℚ) < 1 := by linarith
    have hint : x.units < 1 := by exact_mod_cast hlt
    omega
  · intro h
    have hcast : (x.units : ℚ) ≤ 0 := by exact_mod_cast h
    linarith

/-- The cash of a payment in place of its total, while nothing is deposited. -/
def ReceiptSettlement.aligned (s : ReceiptSettlement) (cashDebit : Money) : ReceiptSettlement :=
  if h : 0 < cashDebit ∧ 9 / 1000 < |s.originatingAmount.toRat - cashDebit.toRat| ∧
      s.settledAmount.toRat ≤ 9 / 1000 then
    { sourceNumber := s.sourceNumber
      originatingAmount := cashDebit
      settledAmount := s.settledAmount
      residualAmount := cashDebit - s.settledAmount
      settlementStatus :=
        if (cashDebit - s.settledAmount).toRat ≤ 9 / 1000 then .SETTLED
        else if 9 / 1000 < s.settledAmount.toRat then .PARTIALLY_SETTLED
        else .UNSETTLED
      originating_pos := h.1
      settled_nonneg := s.settled_nonneg
      residual_eq := rfl
      residual_nonneg := sub_nonneg.mpr ((toRat_le_iff.mp h.2.2).trans h.1.le) }
  else s

namespace ReceiptDb

variable (db : ReceiptDb)

/-- The first insertion: payments that are not reversed and debit Undeposited Funds. -/
def insertPayment (rows : Settlements) (e : SourceId × ArCustomerPayment) : Settlements :=
  let receipt : ReceiptKey := ⟨.AR_CUSTOMER_PAYMENT, e.1⟩
  if e.2.status ≠ .REVERSED ∧ (db.cashDebitOf e.1).isSome = true ∧ rows.get? receipt = none then
    rows.set receipt (.unsettled e.2.paymentNumber e.2.totalAmount e.2.total_pos)
  else rows

/-- The second insertion: deposits that are neither refunded nor cancelled. -/
def insertDeposit (rows : Settlements) (e : SourceId × CustomerDeposit) : Settlements :=
  let receipt : ReceiptKey := ⟨.CUSTOMER_DEPOSIT, e.1⟩
  if e.2.status ≠ .REFUNDED ∧ e.2.status ≠ .CANCELLED ∧ rows.get? receipt = none then
    rows.set receipt (.unsettled e.2.depositNumber e.2.amount e.2.amount_pos)
  else rows

/-- The first update: rows of reversed payments of which nothing is deposited. -/
def closeReversed (receipt : ReceiptKey) (s : ReceiptSettlement) : ReceiptSettlement :=
  if db.isReversed receipt = true ∧ 9 / 1000 < s.residualAmount.toRat ∧
      s.settledAmount.toRat ≤ 9 / 1000 then s.closed
  else s

/-- The second update. -/
def alignCash (receipt : ReceiptKey) (s : ReceiptSettlement) : ReceiptSettlement :=
  match receipt.sourceType, db.cashDebitOf receipt.sourceId with
  | .AR_CUSTOMER_PAYMENT, some cashDebit => s.aligned cashDebit
  | _, _ => s

/-- `syncReceiptSettlements`.  There are no payments outside `ar_customer_payments`, so the
insertion for them finds nothing. -/
def syncReceiptSettlements : ReceiptDb :=
  let payments := db.arPayments.entries.foldl db.insertPayment db.settlements
  let inserted := db.deposits.entries.foldl insertDeposit payments
  let closed := inserted.mapWithKey db.closeReversed
  { db with settlements := closed.mapWithKey db.alignCash }

/-- `lockSettlement`: a receipt without a row is looked for again after a synchronisation. -/
def lockSettlement (receipt : ReceiptKey) :
    Except TreasuryError (ReceiptDb × ReceiptSettlement) :=
  match db.settlements.get? receipt with
  | some s => pure (db, s)
  | none =>
    let synced := db.syncReceiptSettlements
    match synced.settlements.get? receipt with
    | some s => pure (synced, s)
    | none => .error (.notFound "Receipt settlement not found")

/-- `sumUnsettledResidual`; every row is of account 1015. -/
def sumUnsettledResidual : ℚ :=
  ((db.settlements.entries.filter fun e =>
    decide (9 / 1000 < e.2.residualAmount.toRat) && !db.isReversed e.1).map fun e =>
      e.2.residualAmount.toRat).sum

end ReceiptDb

/-! ## Reversing a receipt -/

/-- What a refused reversal of a receipt says. -/
def alreadyDeposited (label : String) (amount : Money) (advice : String) : TreasuryError :=
  .validation ("Cannot reverse receipt " ++ label ++ ": " ++ fixedText 2 amount.toRat ++
    " already deposited via Deposit Worksheet. Reverse that deposit first, then " ++ advice ++
    " the receipt. Undeposited Funds cannot go negative.")

/-- `voidSettlementForReversedArPayment`. -/
def voidSettlementForReversedArPayment (db : ReceiptDb) (paymentId : SourceId) :
    Except TreasuryError ReceiptDb := do
  let receipt : ReceiptKey := ⟨.AR_CUSTOMER_PAYMENT, paymentId⟩
  let row := db.settlements.get? receipt
  let label := ((row.bind (·.sourceNumber)).filter fun text => decide (text ≠ "")).getD
    (toString paymentId)
  let active := activeApplications db.applications
  let _ ← require ((∀ a ∈ active, a.receipt ≠ receipt) ∧
      (amountOn active receipt).toRat ≤ 9 / 1000)
    (alreadyDeposited label (amountOn active receipt) "reverse/correct")
  match row with
  | none => pure db
  | some s => do
    let _ ← require (s.settledAmount.toRat ≤ 9 / 1000)
      (alreadyDeposited label s.settledAmount "reverse")
    pure { db with settlements := db.settlements.set receipt s.closed }

/-- The latest journal of a payment that is not reversed. -/
def ReceiptDb.openJournal (db : ReceiptDb) (paymentId : SourceId) :
    Option (TransactionId × PostedJournal) :=
  db.journals.entries.reverse.find? fun e =>
    decide (e.2.reference = .CUSTOMER_PAYMENT paymentId) && !e.2.isReversed

/-- `reverseCustomerPayment`. -/
def reverseCustomerPayment (db : ReceiptDb) (paymentId : SourceId) :
    Except TreasuryError ReceiptDb := do
  let payment ← orThrow (db.arPayments.get? paymentId) (.validation "Customer payment not found")
  let _ ← require (payment.status ≠ .REVERSED)
    (.validation ("Payment " ++ payment.paymentNumber ++ " is already reversed."))
  let _ ← require (payment.status ∈ REVERSIBLE_AR_PAYMENT_STATUSES)
    (.validation ("Cannot reverse payment " ++ payment.paymentNumber ++ " with status " ++
      payment.status.text ++ ". Only posted / allocated receipts can be reversed."))
  let voided ← voidSettlementForReversedArPayment db paymentId
  let reversed := match voided.openJournal paymentId with
    | some e => voided.reverseTransaction e.1 e.2
    | none => voided
  pure
    { reversed with
      arPayments := reversed.arPayments.set paymentId { payment with status := .REVERSED } }

end SmartErpPos.Treasury
