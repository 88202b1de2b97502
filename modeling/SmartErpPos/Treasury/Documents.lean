/-
  Treasury/Documents.lean --- treasury documents and the rules for posting them.

  Sources: `541_treasury_document_foundation.sql`, `shared/treasury/treasuryInvariants.ts` and
  `treasuryTypes.ts`, and the checks of `modules/treasury/treasuryService.ts`.

  A document moves money between accounts by the journal of its lines.  It is a draft, may
  wait for approval, and is posted once; a posted document is corrected by another document
  with the opposite lines.  Columns no operation of this development reads are left out.
-/
import SmartErpPos.Ledger.AccountingCore

set_option autoImplicit false

namespace SmartErpPos.Treasury

open SmartErpPos.Lib SmartErpPos.Ledger

/-! ## Enumerations -/

inductive TreasuryDocumentType where
  | DEPOSIT_WORKSHEET
  | TREASURY_TRANSFER
  | PETTY_CASH
  | CASH_WITHDRAWAL
  | CASH_DEPOSIT
  | CARD_SETTLEMENT
  | MOBILE_MONEY_SETTLEMENT
  | VAT_REMITTANCE
  | WHT_REMITTANCE
  | TREASURY_REVERSAL
  deriving DecidableEq

inductive TreasuryDocumentStatus where
  | DRAFT
  | PENDING_APPROVAL
  | POSTED
  | CANCELLED
  deriving DecidableEq

def TreasuryDocumentStatus.text : TreasuryDocumentStatus → String
  | .DRAFT => "DRAFT"
  | .PENDING_APPROVAL => "PENDING_APPROVAL"
  | .POSTED => "POSTED"
  | .CANCELLED => "CANCELLED"

inductive TreasuryLineType where
  | RECEIPT_APPLICATION
  | ACCOUNT_MOVE
  | ADJUSTMENT
  | FEE
  | SHORTAGE
  | OVERAGE
  deriving DecidableEq

inductive ReceiptSourceType where
  | AR_CUSTOMER_PAYMENT
  | INVOICE_PAYMENT
  | CUSTOMER_DEPOSIT
  deriving DecidableEq

/-! ## Rows -/

/-- `numeric(18, 2)`. -/
abbrev Money := Numeric 2

abbrev LineId := ℕ
abbrev SourceId := ℕ

/-- The receipt a settlement is about. -/
structure ReceiptKey where
  sourceType : ReceiptSourceType
  sourceId : SourceId
  deriving DecidableEq

/-- A row of `treasury_document_lines`, its key and number apart. -/
structure DocumentLine where
  lineType : TreasuryLineType
  accountCode : String
  description : Option String
  debitAmount : Money
  creditAmount : Money
  amount : Money
  sourceReceiptId : Option SourceId
  sourcePaymentId : Option SourceId
  /-- The receipt the memo names as `TYPE:id`; none where it says something else. -/
  memo : Option ReceiptKey
  deriving DecidableEq

/-- The lines of a document in the order of their numbers, each with its key. -/
abbrev DocumentLines := List (LineId × DocumentLine)

/-- What the lines say. -/
def linesOf (lines : DocumentLines) : List DocumentLine := lines.map Prod.snd

/-- A row of `treasury_documents`. -/
structure TreasuryDocument where
  documentNumber : String
  documentType : TreasuryDocumentType
  status : TreasuryDocumentStatus
  requiresApproval : Bool
  approvedBy : Option String
  journalEntryId : Option TransactionId
  reversesDocumentId : Option DocumentId
  reversedByDocumentId : Option DocumentId
  rowVersion : ℕ
  deriving DecidableEq

/-! ## Refusals -/

/-- What a refused call throws.  A broken invariant is a validation error for the caller. -/
inductive TreasuryError where
  | validation (message : String)
  | conflict (message : String)
  | notFound (message : String)
  | ledger (error : LedgerError)
  | database (constraint : String)
  deriving DecidableEq

/-- `roundMoney`. -/
def roundMoney (n : ℚ) : ℚ := (⌊n * 100 + 1 / 2⌋ : ℚ) / 100

theorem roundMoney_toRat (x : Money) : roundMoney x.toRat = x.toRat := by
  have hunits : x.toRat * 100 = x.units := by
    have h := x.toRat_mul_pow
    norm_num at h
    exact h
  have hfloor : ⌊(x.units : ℚ) + 1 / 2⌋ = x.units := by
    rw [Int.floor_eq_iff]
    constructor <;> linarith
  unfold roundMoney
  rw [hunits, hfloor, ← hunits]
  linarith

/-! ## Lines -/

/-- A line as a caller gives it; a missing type is an account move. -/
structure DocumentLineInput where
  lineType : Option TreasuryLineType
  accountCode : String
  description : Option String
  debitAmount : Option ℚ
  creditAmount : Option ℚ
  amount : Option ℚ
  sourceReceiptId : Option SourceId
  sourcePaymentId : Option SourceId
  memo : Option ReceiptKey
  deriving DecidableEq

/-- `normalizeLineAmounts`: debit, credit and amount. -/
def normalizeLineAmounts (line : DocumentLineInput) : Except TreasuryError (ℚ × ℚ × ℚ) := do
  let debit := roundMoney (line.debitAmount.getD 0)
  let credit := roundMoney (line.creditAmount.getD 0)
  let _ ← require (¬ (0 < debit ∧ 0 < credit))
    (.validation "Line cannot have both debit and credit amounts")
  let _ ← require (0 ≤ debit ∧ 0 ≤ credit) (.validation "Line amounts cannot be negative")
  if debit = 0 ∧ credit = 0 then
    let amount := roundMoney (line.amount.getD 0)
    let _ ← require (0 ≤ amount) (.validation "Line amounts cannot be negative")
    pure (amount, 0, amount)
  else pure (debit, credit, if 0 < debit then debit else credit)

/-- The row `replaceLines` writes for a line. -/
def storedLine (line : DocumentLineInput) : Except TreasuryError DocumentLine := do
  let (debit, credit, amount) ← normalizeLineAmounts line
  pure
    { lineType := line.lineType.getD .ACCOUNT_MOVE
      accountCode := line.accountCode
      description := line.description
      debitAmount := .ofRat debit
      creditAmount := .ofRat credit
      amount := .ofRat amount
      sourceReceiptId := line.sourceReceiptId
      sourcePaymentId := line.sourcePaymentId
      memo := line.memo }

/-- The rows `replaceLines` writes, with keys from a counter. -/
def storedLines (nextId : LineId) (inputs : List DocumentLineInput) :
    Except TreasuryError DocumentLines := do
  let rows ← inputs.mapM storedLine
  pure ((List.range' nextId rows.length).zip rows)

/-- The line that takes a line back. -/
def DocumentLine.opposite (line : DocumentLine) : DocumentLineInput where
  lineType := some line.lineType
  accountCode := line.accountCode
  description := some ("Reversal: " ++ orText line.description line.accountCode)
  debitAmount := some line.creditAmount.toRat
  creditAmount := some line.debitAmount.toRat
  amount := none
  sourceReceiptId := none
  sourcePaymentId := none
  memo := none

/-! ## Invariants -/

/-- The running totals of `assertBalancedLines`. -/
def runningTotals (lines : List DocumentLine) : ℚ × ℚ :=
  lines.foldl (fun totals line => (roundMoney (totals.1 + line.debitAmount.toRat),
    roundMoney (totals.2 + line.creditAmount.toRat))) (0, 0)

/-- `assertBalancedLines`. -/
def assertBalancedLines (lines : List DocumentLine) : Except TreasuryError Unit := do
  let totalDebits := (runningTotals lines).1
  let totalCredits := (runningTotals lines).2
  let _ ← require (lines ≠ [])
    (.validation "Treasury Document must have at least one line before posting")
  let _ ← require (|totalDebits - totalCredits| ≤ 9 / 1000)
    (.validation ("Treasury Document journal is unbalanced: debits " ++ decimalText totalDebits ++
      " ≠ credits " ++ decimalText totalCredits))
  require (0 < totalDebits)
    (.validation "Treasury Document journal total must be greater than zero")

/-- `assertMutableStatus`. -/
def assertMutableStatus (status : TreasuryDocumentStatus) : Except TreasuryError Unit := do
  let _ ← require (status ≠ .POSTED)
    (.validation ("Posted Treasury Documents are immutable; create a TREASURY_REVERSAL to correct"))
  require (status ≠ .CANCELLED) (.validation "Cancelled Treasury Documents cannot be modified")

/-- `assertPostedAuditFields`: the creator is never null, and the posting time is written
together with the journal. -/
def assertPostedAuditFields (doc : TreasuryDocument) : Except TreasuryError Unit := do
  let _ ← require (doc.journalEntryId.isSome = true)
    (.validation "journalEntryId is required after post")
  require (doc.requiresApproval = true → doc.approvedBy.isSome = true)
    (.validation "approvedBy is required when document required approval")

/-! ## Checks of the calls -/

/-- The update is of a draft. -/
def checkUpdateDraft (doc : TreasuryDocument) : Except TreasuryError Unit := do
  assertMutableStatus doc.status
  require (doc.status = .DRAFT) (.validation "Only DRAFT documents can be updated")

def checkReject (doc : TreasuryDocument) : Except TreasuryError Unit :=
  require (doc.status = .PENDING_APPROVAL)
    (.validation "Only PENDING_APPROVAL documents can be rejected")

/-- The check of `approve`; `post` has none of its own. -/
def checkApprove (asApproval : Bool) (doc : TreasuryDocument) : Except TreasuryError Unit :=
  require (asApproval = true → doc.status = .PENDING_APPROVAL)
    (.validation "Only PENDING_APPROVAL documents can be approved")

/-- What `postInternal` checks first. -/
def checkPost (asApproval : Bool) (doc : TreasuryDocument) (lines : List DocumentLine) :
    Except TreasuryError Unit := do
  let _ ← require (doc.status ≠ .POSTED) (.validation "Document is already posted")
  let _ ← require (¬ (doc.requiresApproval = true ∧ doc.status ≠ .PENDING_APPROVAL ∧
      asApproval = false)) (.validation "Document requires approval before posting")
  let _ ← require (doc.requiresApproval = false →
      doc.status = .DRAFT ∨ doc.status = .PENDING_APPROVAL)
    (.validation ("Cannot post document in status " ++ doc.status.text))
  assertBalancedLines lines

/-- What `reverse` checks of the document. -/
def checkReverse (doc : TreasuryDocument) : Except TreasuryError Unit := do
  let _ ← require (doc.documentType ≠ .TREASURY_REVERSAL ∧ doc.reversesDocumentId = none)
    (.validation
      "Reversal documents cannot be reversed — post a correcting transfer instead")
  let _ ← require (doc.status = .POSTED) (.validation "Only POSTED documents can be reversed")
  let _ ← require (doc.reversedByDocumentId = none)
    (.conflict "Document has already been reversed")
  require (doc.journalEntryId.isSome = true)
    (.validation "Posted document is missing journalEntryId")

/-! ## The journal of a document -/

/-- The lines `postInternal` posts. -/
def journalLines (documentNumber : String) (lines : List DocumentLine) : List JournalLine :=
  lines.map fun line =>
    { accountCode := line.accountCode
      description := orText line.description documentNumber
      debitAmount := line.debitAmount.toRat
      creditAmount := line.creditAmount.toRat
      entityType := none
      entityId := none }

/-- What `createJournalEntry` checks of the lines. -/
def checkJournal (lines : List JournalLine) : Except TreasuryError Unit := do
  let validation := validateDoubleEntry lines
  let _ ← require (validation.isValid = true) (.ledger (.doubleEntryViolation
    validation.totalDebits validation.totalCredits validation.difference))
  lines.forM fun line => require (validateLineAmounts line = true)
    (.ledger (.accounting "INVALID_LINE_AMOUNTS" ("Invalid line for account " ++
      line.accountCode ++ ": must have either debit OR credit, not both or neither")))

end SmartErpPos.Treasury
