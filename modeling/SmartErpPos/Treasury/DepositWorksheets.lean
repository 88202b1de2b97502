/-
  Treasury/DepositWorksheets.lean --- depositing receipts.

  Sources: `modules/treasury/depositWorksheetService.ts`, and `submit`, `reject`, `post`,
  `approve` and `reverse` of `modules/treasury/treasuryService.ts`.

  A worksheet takes receipts, or parts of them, from Undeposited Funds to a bank account.  Its
  posting settles the receipts, and its reversal releases them.
-/
import SmartErpPos.Lib.Transition
import SmartErpPos.Treasury.Receipts

set_option autoImplicit false

namespace SmartErpPos.Treasury

open SmartErpPos.Lib SmartErpPos.Ledger

/-! ## Creating -/

def SHORTAGE_CODE : String := "6850"
def OVERAGE_CODE : String := "4900"

/-- A bank account joined with its account of the ledger; tag and type in capitals. -/
structure BankAccountGl where
  name : String
  accountCode : String
  accountType : String
  systemAccountTag : String
  isPosting : Bool

structure ReceiptToDeposit where
  receipt : ReceiptKey
  amount : ℚ

structure CreateDepositWorksheetInput where
  /-- The active bank account the destination stands for. -/
  bank : Option BankAccountGl
  bankDescription : String
  receipts : List ReceiptToDeposit
  shortageAmount : Option ℚ
  overageAmount : Option ℚ
  requiresApproval : Bool

/-- The tags that cannot receive deposits. -/
def blockedTags : List String :=
  ["ACCOUNTS_RECEIVABLE", "ACCOUNTS_PAYABLE", "UNDEPOSITED_FUNDS", "OPENING_BALANCE_EQUITY",
    "COGS", "INVENTORY"]

/-- `resolveBankGlCode`. -/
def resolveBankGlCode (bank : Option BankAccountGl) : Except TreasuryError String := do
  let row ← orThrow bank (.notFound "Bank account not found or inactive")
  let named := "Bank account \"" ++ row.name ++ "\" is linked to "
  let _ ← require (¬ (row.systemAccountTag ∈ blockedTags ∨ row.accountCode = "1200" ∨
      row.accountCode = "1015" ∨ row.accountCode = "3050"))
    (.validation (named ++ "GL " ++ row.accountCode ++ ", which cannot receive deposits. "))
  let _ ← require (row.accountType = "ASSET")
    (.validation (named ++ "non-asset GL " ++ row.accountCode ++
      ". Deposit destination must be an Asset bank/cash account."))
  let _ ← require (row.isPosting = true)
    (.validation (named ++ "header GL " ++ row.accountCode ++ ". Select a posting Asset account."))
  pure row.accountCode

/-- The line of a receipt. -/
def applicationLine (receipt : ReceiptKey) (s : ReceiptSettlement) (amount : ℚ) :
    DocumentLineInput where
  lineType := some .RECEIPT_APPLICATION
  accountCode := UNDEPOSITED_FUNDS
  description := some ("Deposit " ++ s.sourceNumber.getD (toString receipt.sourceId))
  debitAmount := some 0
  creditAmount := some amount
  amount := none
  sourceReceiptId := if receipt.sourceType = .CUSTOMER_DEPOSIT then some receipt.sourceId else none
  sourcePaymentId :=
    if receipt.sourceType = .AR_CUSTOMER_PAYMENT ∨ receipt.sourceType = .INVOICE_PAYMENT then
      some receipt.sourceId
    else none
  memo := some receipt

/-- A line that is not about a receipt. -/
def otherLine (lineType : TreasuryLineType) (accountCode description : String)
    (debitAmount creditAmount : ℚ) : DocumentLineInput where
  lineType := some lineType
  accountCode := accountCode
  description := some description
  debitAmount := some debitAmount
  creditAmount := some creditAmount
  amount := none
  sourceReceiptId := none
  sourcePaymentId := none
  memo := none

/-- The rows as far as they are locked, the running total, and the lines. -/
structure WorksheetProgress where
  db : ReceiptDb
  receiptTotal : ℚ
  lines : List DocumentLineInput

/-- One receipt of a worksheet. -/
def addReceipt (p : WorksheetProgress) (r : ReceiptToDeposit) :
    Except TreasuryError WorksheetProgress := do
  let amount := roundMoney r.amount
  let _ ← require (0 < amount)
    (.validation "Each receipt application amount must be positive")
  let (db, s) ← p.db.lockSettlement r.receipt
  assertDepositConsumesUnsettled s s.sourceNumber
  assertSettlementCeiling amount s s.sourceNumber
  pure
    { db := db
      receiptTotal := roundMoney (p.receiptTotal + amount)
      lines := p.lines ++ [applicationLine r.receipt s amount] }

/-- The lines of a worksheet. -/
def worksheetLines (bankGlCode bankDescription : String) (bankDebit : ℚ)
    (receipts : List DocumentLineInput) (shortageAmount overageAmount : ℚ) :
    List DocumentLineInput :=
  [otherLine .ACCOUNT_MOVE bankGlCode bankDescription bankDebit 0] ++ receipts ++
  (if 0 < shortageAmount then
    [otherLine .SHORTAGE SHORTAGE_CODE "Cash shortage on deposit" shortageAmount 0] else []) ++
  (if 0 < overageAmount then
    [otherLine .OVERAGE OVERAGE_CODE "Cash overage on deposit" 0 overageAmount] else [])

/-- A draft with its lines; its number is its key. -/
def createDocument (db : ReceiptDb) (documentType : TreasuryDocumentType)
    (requiresApproval : Bool) (reverses : Option DocumentId) (inputs : List DocumentLineInput) :
    Except TreasuryError (DocumentId × ReceiptDb) := do
  let lines ← storedLines (db.nextId + 1) inputs
  let doc : TreasuryDocument :=
    { documentNumber := "TD-" ++ toString db.nextId
      documentType := documentType
      status := .DRAFT
      requiresApproval := requiresApproval
      approvedBy := none
      journalEntryId := none
      reversesDocumentId := reverses
      reversedByDocumentId := none
      rowVersion := 1 }
  pure (db.nextId,
    { db with
      documents := db.documents.set db.nextId (doc, lines)
      nextId := db.nextId + 1 + lines.length })

/-- `createDepositWorksheet`. -/
def createDepositWorksheet (db : ReceiptDb) (input : CreateDepositWorksheetInput) :
    Except TreasuryError ReceiptDb := do
  let _ ← require (input.receipts ≠ []) (.validation "Select at least one receipt to deposit")
  let shortageAmount := roundMoney (input.shortageAmount.getD 0)
  let overageAmount := roundMoney (input.overageAmount.getD 0)
  let _ ← require (¬ (0 < shortageAmount ∧ 0 < overageAmount))
    (.validation "Cannot have both shortage and overage on the same worksheet")
  let bankGlCode ← resolveBankGlCode input.bank
  let progress ← input.receipts.foldlM addReceipt ⟨db, 0, []⟩
  let bankDebit := roundMoney (progress.receiptTotal - shortageAmount + overageAmount)
  let _ ← require (0 < bankDebit)
    (.validation "Bank deposit amount must be greater than zero after shortage")
  let inputs := worksheetLines bankGlCode input.bankDescription bankDebit progress.lines
    shortageAmount overageAmount
  -- The amounts are whole cents already, so they are balanced as they will be stored.
  let rows ← inputs.mapM storedLine
  assertBalancedLines rows
  let (_, created) ← createDocument progress.db .DEPOSIT_WORKSHEET input.requiresApproval none
    inputs
  pure created

/-! ## Posting -/

namespace ReceiptDb

variable (db : ReceiptDb)

/-- `getById`. -/
def getById (id : DocumentId) : Except TreasuryError (TreasuryDocument × DocumentLines) :=
  orThrow (db.documents.get? id) (.notFound "Treasury Document not found")

def setDocument (id : DocumentId) (doc : TreasuryDocument) (lines : DocumentLines) : ReceiptDb :=
  { db with documents := db.documents.set id (doc, lines) }

end ReceiptDb

/-- `applySettlement` for a line of a worksheet. -/
def applySettlement (documentId : DocumentId) (db : ReceiptDb) (line : LineId × DocumentLine) :
    Except TreasuryError ReceiptDb := do
  let receipt ← orThrow (receiptOf line.2)
    (.validation "Receipt application line is missing source identity")
  let (locked, s) ← db.lockSettlement receipt
  let s' ← s.apply (receiptAmount line.2).toRat line.2.description
  let _ ← require (∀ a ∈ locked.applications,
      ¬ (a.treasuryDocumentId = documentId ∧ a.receipt = receipt))
    (.database "uq_rsa_doc_settlement")
  pure
    { locked with
      settlements := locked.settlements.set receipt s'
      applications := locked.applications ++ [applicationOf documentId line receipt] }

/-- `applySettlementsForDepositWorksheet`. -/
def applySettlementsForDepositWorksheet (db : ReceiptDb) (id : DocumentId)
    (lines : DocumentLines) : Except TreasuryError ReceiptDb := do
  let _ ← require (receiptLines lines ≠ [])
    (.validation "Deposit Worksheet has no receipt application lines")
  (receiptLines lines).foldlM (applySettlement id) db

/-- `postInternal`. -/
def postInternal (asApproval : Bool) (actorUserId : String) (db : ReceiptDb) (id : DocumentId) :
    Except TreasuryError ReceiptDb := do
  let (doc, lines) ← db.getById id
  checkPost asApproval doc (linesOf lines)
  let applied ←
    if doc.documentType = .DEPOSIT_WORKSHEET then applySettlementsForDepositWorksheet db id lines
    else pure db
  let (entryId, journalled) ← applied.createJournalEntry (.TREASURY_DOCUMENT id)
    (journalLines doc.documentNumber (linesOf lines))
  let posted : TreasuryDocument :=
    { doc with
      status := .POSTED
      journalEntryId := some entryId
      approvedBy :=
        if asApproval = true ∨ doc.requiresApproval = true then some actorUserId
        else doc.approvedBy
      rowVersion := doc.rowVersion + 1 }
  assertPostedAuditFields posted
  pure (journalled.setDocument id posted lines)

/-- `approve`. -/
def approve (db : ReceiptDb) (id : DocumentId) (actorUserId : String) :
    Except TreasuryError ReceiptDb := do
  let (doc, _) ← db.getById id
  checkApprove true doc
  postInternal true actorUserId db id

/-- `submit`. -/
def submit (db : ReceiptDb) (id : DocumentId) : Except TreasuryError ReceiptDb := do
  let (doc, lines) ← db.getById id
  assertMutableStatus doc.status
  let _ ← require (doc.status = .DRAFT) (.validation "Only DRAFT documents can be submitted")
  assertBalancedLines (linesOf lines)
  pure (db.setDocument id
    { doc with
      status := .PENDING_APPROVAL
      rowVersion := doc.rowVersion + 1 } lines)

/-- `reject`. -/
def reject (db : ReceiptDb) (id : DocumentId) : Except TreasuryError ReceiptDb := do
  let (doc, lines) ← db.getById id
  checkReject doc
  pure (db.setDocument id
    { doc with
      status := .DRAFT
      approvedBy := none
      rowVersion := doc.rowVersion + 1 } lines)

/-! ## Reversing -/

/-- One application of `reverseApplicationsForDocument`. -/
def releaseSettlement (db : ReceiptDb) (application : SettlementApplication) :
    Except TreasuryError ReceiptDb := do
  let s ← orThrow (db.settlements.get? application.receipt)
    (.database "receipt_settlement_applications_receipt_settlement_id_fkey")
  let s' ← s.release application.amount
  pure { db with settlements := db.settlements.set application.receipt s' }

/-- `reversed_at` is set for the applications of a document. -/
def markReversed (id : DocumentId) (applications : List SettlementApplication) :
    List SettlementApplication :=
  applications.map fun a =>
    if a.treasuryDocumentId = id then { a with reversed := true } else a

/-- `reverseApplicationsForDocument`. -/
def reverseApplicationsForDocument (db : ReceiptDb) (id : DocumentId) :
    Except TreasuryError ReceiptDb := do
  let released ← ((activeApplications db.applications).filter fun a =>
    decide (a.treasuryDocumentId = id)).foldlM releaseSettlement db
  pure { released with applications := markReversed id released.applications }

/-- `reverse`. -/
def reverseDocument (db : ReceiptDb) (id : DocumentId) (actorUserId : String) :
    Except TreasuryError ReceiptDb := do
  let (original, lines) ← db.getById id
  checkReverse original
  let released ←
    if original.documentType = .DEPOSIT_WORKSHEET then reverseApplicationsForDocument db id
    else pure db
  let (reversalId, created) ← createDocument released .TREASURY_REVERSAL false (some id)
    (lines.map fun line => line.2.opposite)
  let posted ← postInternal false actorUserId created reversalId
  pure (posted.setDocument id
    { original with
      status := .POSTED
      reversedByDocumentId := some reversalId
      rowVersion := original.rowVersion + 1 } lines)

/-! ## Calls -/

inductive ReceiptAction where
  | receive (input : CustomerPaymentInput)
  | deposit (depositNumber : String) (amount : ℚ)
  | reverseReceipt (paymentId : SourceId)
  | refundDeposit (depositId : SourceId)
  | syncReceiptSettlements
  | createDepositWorksheet (input : CreateDepositWorksheetInput)
  | submit (id : DocumentId)
  | approve (id : DocumentId) (actorUserId : String)
  | reject (id : DocumentId)
  | post (id : DocumentId) (actorUserId : String)
  | reverse (id : DocumentId) (actorUserId : String)

/-- A call, in a transaction of its own. -/
def ReceiptDb.exec (db : ReceiptDb) : ReceiptAction → Except TreasuryError ReceiptDb
  | .receive input => createCustomerPayment db input
  | .deposit depositNumber amount => createDeposit db depositNumber amount
  | .reverseReceipt paymentId => reverseCustomerPayment db paymentId
  | .refundDeposit depositId => Treasury.refundDeposit db depositId
  | .syncReceiptSettlements => pure db.syncReceiptSettlements
  | .createDepositWorksheet input => Treasury.createDepositWorksheet db input
  | .submit id => Treasury.submit db id
  | .approve id actorUserId => Treasury.approve db id actorUserId
  | .reject id => Treasury.reject db id
  | .post id actorUserId => postInternal false actorUserId db id
  | .reverse id actorUserId => reverseDocument db id actorUserId

/-- A successful call. -/
def ReceiptStep (db : ReceiptDb) (action : ReceiptAction) (db' : ReceiptDb) : Prop :=
  (db.exec action).toOption = some db'

/-- The tables after a call, which leaves them as they are where it fails. -/
def ReceiptDb.after (db : ReceiptDb) (action : ReceiptAction) : ReceiptDb :=
  (db.exec action).toOption.getD db

/-! ## What the table says -/

/-- How many receipts there are. -/
def ReceiptDb.receiptCount (db : ReceiptDb) : ℕ :=
  db.arPayments.entries.length + db.deposits.entries.length

/-- Each row counts what its applications have taken. -/
structure RowsAddUp (db : ReceiptDb) : Prop where
  residual : ∀ receipt s, db.settlements.get? receipt = some s →
    s.residualAmount = s.originatingAmount - s.settledAmount ∧
      0 ≤ s.settledAmount ∧ s.settledAmount ≤ s.originatingAmount
  settled : ∀ receipt s, db.settlements.get? receipt = some s → db.isReversed receipt = false →
    s.settledAmount = amountOn (activeApplications db.applications) receipt

/-- Undeposited Funds is what the rows still wait for, within one cent for each receipt. -/
def ClearingAgrees (db : ReceiptDb) : Prop :=
  |db.getClearingGlBalance UNDEPOSITED_FUNDS - db.sumUnsettledResidual| ≤ db.receiptCount / 100

instance (db : ReceiptDb) : Decidable (ClearingAgrees db) := inferInstanceAs (Decidable (_ ≤ _))

/-- There are no receipts, no treasury documents and no journals of any, and nothing on 1015. -/
structure ReceiptDb.Starts (db : ReceiptDb) : Prop where
  arPayments : db.arPayments = .empty
  deposits : db.deposits = .empty
  settlements : db.settlements = .empty
  applications : db.applications = []
  documents : db.documents = .empty
  balance : db.getClearingGlBalance UNDEPOSITED_FUNDS = 0
  journals : ∀ id j, db.journals.get? id = some j → id < db.nextId ∧ j.reference.id < db.nextId ∧
    ∀ by', j.reversedByTransactionId = some by' → by' < db.nextId
  references : ∀ id j, db.journals.get? id = some j → ∀ docId, j.reference ≠ .TREASURY_DOCUMENT docId

/-- A refund is of a deposit that has a settlement row. -/
def RefundsListed (db : ReceiptDb) : ReceiptAction → Prop
  | .refundDeposit depositId => (db.settlements.get? ⟨.CUSTOMER_DEPOSIT, depositId⟩).isSome = true
  | _ => True

instance (db : ReceiptDb) (action : ReceiptAction) : Decidable (RefundsListed db action) := by
  cases action <;> unfold RefundsListed <;> infer_instance

end SmartErpPos.Treasury
