/-
  Grir/Clearing.lean --- clearing a receipt against an invoice, by hand and automatically.

  Source: `modules/grir-clearing/grirClearingService.ts` (`clearItem`, `autoMatch`).

  A clear runs in one database transaction of its own.  An automatic run makes one clear
  after the other; a failed one is reported and the run goes on.
-/
import SmartErpPos.Grir.Documents

set_option autoImplicit false

namespace SmartErpPos.Grir

open SmartErpPos.Lib SmartErpPos.Ledger

def GRIR_CLEARING_ACCOUNT : String := "2150"
def ACCOUNTS_PAYABLE : String := "2100"
def PRICE_VARIANCE : String := "5020"

/-- What a failed call throws. -/
inductive GrirError where
  | notFound (message : String)
  | validation (message : String)
  | conflict (message : String)
  /-- An error of the ledger. -/
  | ledger (error : LedgerError)
  deriving DecidableEq

def ofLedger {α : Type} : Except LedgerError α → Except GrirError α
  | .ok a => .ok a
  | .error e => .error (.ledger e)

theorem ofLedger_eq_ok {α : Type} {x : Except LedgerError α} {a : α} :
    ofLedger x = .ok a ↔ x = .ok a := by
  cases x with
  | ok b => simp [ofLedger]
  | error e => simp [ofLedger]

/-- The business date, and what the pool shows of a committed ledger. -/
structure GrirEnv where
  today : IsoDate
  userId : String
  pool : LedgerDb → OrderedMap TransactionId TransactionRow
  arMode : ArGovernanceMode
  now : Timestamp

/-- A journal of a clear is posted on the client of the clear. -/
def GrirEnv.context (env : GrirEnv) (ledger : LedgerDb) : PostingContext :=
  ⟨.txClient, env.pool ledger, env.arMode, env.now⟩

/-! ## Clearing one pair -/

/-- The amounts of a clear, and the texts its journal shows. -/
structure ClearAmounts where
  receiptNumber : String
  poNumber : Option String
  invoiceNumber : Option String
  grAmount : ℚ
  invoiceAmount : ℚ

def ClearAmounts.variance (a : ClearAmounts) : ℚ := a.grAmount - a.invoiceAmount

def ClearAmounts.isExactMatch (a : ClearAmounts) : Bool := |a.variance| < 1 / 100

/-- `inv.SupplierInvoiceNumber || data.invoiceId.slice(0, 8)`. -/
def invoiceLabel (number : Option String) (invoiceId : InvoiceId) : String :=
  orText number (jsPrefix 8 (toString invoiceId))

/-- A line of the journal of a clear. -/
def clearLine (clearingId : ClearingId) (accountCode description : String) (debit credit : ℚ) :
    JournalLine :=
  { accountCode := accountCode
    description := description
    debitAmount := debit
    creditAmount := credit
    entityType := some "GRIR_CLEARING"
    entityId := some (toString clearingId) }

/-- The line for the variance. -/
def varianceLines (clearingId : ClearingId) (a : ClearAmounts) : List JournalLine :=
  if a.isExactMatch then []
  else if 0 < a.variance then
    [clearLine clearingId PRICE_VARIANCE ("Price variance (GR > Invoice) on " ++
      orText a.poNumber a.receiptNumber ++ ": " ++ fixedText 2 a.variance) 0 |a.variance|]
  else
    [clearLine clearingId PRICE_VARIANCE ("Price variance (Invoice > GR) on " ++
      orText a.poNumber a.receiptNumber ++ ": " ++ fixedText 2 |a.variance|) |a.variance| 0]

/-- `GRIR-CLEAR-${grId}-${invoiceId}`. -/
def clearKey (receiptId : ReceiptId) (invoiceId : InvoiceId) : String :=
  "GRIR-CLEAR-" ++ toString receiptId ++ "-" ++ toString invoiceId

/-- The journal of a clear. -/
def clearRequest (env : GrirEnv) (date : Option IsoDate) (clearingId : ClearingId)
    (receiptId : ReceiptId) (invoiceId : InvoiceId) (a : ClearAmounts) : JournalEntryRequest where
  entryDate := date.getD env.today
  description := "GR/IR Clearing: " ++ a.receiptNumber ++ " ↔ " ++ orText a.invoiceNumber "INV"
  referenceType := "GRIR_CLEARING"
  referenceId := some clearingId
  referenceNumber := "GRIR-" ++ a.receiptNumber
  lines :=
    [clearLine clearingId GRIR_CLEARING_ACCOUNT ("GR/IR Clear: " ++ a.receiptNumber ++ " ↔ " ++
      invoiceLabel a.invoiceNumber invoiceId) a.grAmount 0,
    clearLine clearingId ACCOUNTS_PAYABLE ("AP: Invoice " ++ invoiceLabel a.invoiceNumber invoiceId ++
      " for " ++ orText a.poNumber a.receiptNumber) 0 a.invoiceAmount] ++ varianceLines clearingId a
  userId := env.userId
  idempotencyKey := clearKey receiptId invoiceId
  source := none

structure ClearItemData where
  receiptId : ReceiptId
  invoiceId : InvoiceId
  date : Option IsoDate

structure ClearResult where
  clearingId : ClearingId
  status : ClearingStatus
  variancePosted : Bool
  varianceAmount : ℚ

/-- `clearItem`. -/
def clearItem (env : GrirEnv) (db : GrirDb) (data : ClearItemData) :
    Except GrirError (ClearResult × GrirDb) := do
  let receipt ← orThrow (db.documents.receipts.get? data.receiptId)
    (.notFound "Goods receipt not found")
  let _ ← require (receipt.status = "COMPLETED")
    (.validation "Goods receipt must be COMPLETED to clear")
  let invoice ← orThrow ((db.documents.invoices.get? data.invoiceId).filter fun i => !i.isDeleted)
    (.notFound "Supplier invoice not found")
  let _ ← require (invoice.status ∉ ["Cancelled", "CANCELLED", "Voided", "VOIDED"])
    (.validation "Cannot clear against a cancelled/voided invoice")
  let existing := findClearingRecord db data.receiptId data.invoiceId
  let _ ← require (existing.any (fun e => e.2.status.isCleared) = false)
    (.conflict "This GR-Invoice pair is already cleared")
  let order := receipt.purchaseOrderId.bind db.documents.orders.get?
  let amounts : ClearAmounts := ⟨receipt.receiptNumber, order.map (·.orderNumber),
    invoice.supplierInvoiceNumber, receiptTotal receipt, invoice.totalAmount.toRat⟩
  let status := if amounts.isExactMatch then .MATCHED else .VARIANCE
  let purchaseOrderId ← orThrow (receipt.purchaseOrderId.or invoice.purchaseOrderId)
    (.validation ("Cannot record GR/IR clear for " ++ receipt.receiptNumber ++
      ": no purchase order on GR or invoice. Link the bill to a PO or GR first."))
  let id := (existing.map (·.1)).getD db.nextClearing
  let recorded := createClearingRecord db id
    { purchaseOrderId := purchaseOrderId
      goodsReceiptId := data.receiptId
      invoiceId := data.invoiceId
      poAmount := (order.map (·.totalAmount.toRat)).getD 0
      grAmount := amounts.grAmount
      invoiceAmount := amounts.invoiceAmount
      variance := amounts.variance
      status := status }
  let result : ClearResult := ⟨id, status, !amounts.isExactMatch, amounts.variance⟩
  if invoice.isPostedToGl then pure (result, recorded)
  else do
    let out ← ofLedger (createJournalEntry (env.context db.ledger) db.ledger
      (clearRequest env data.date id data.receiptId data.invoiceId amounts))
    pure (result, { recorded with ledger := out.db })

/-! ## Clearing automatically -/

structure AutoMatchOptions where
  supplierFilter : SupplierFilter
  tolerancePercent : Option ℚ

/-- The pairs a run will try. -/
def selectedPairs (db : GrirDb) (options : AutoMatchOptions) : List MatchCandidate :=
  selectF13Pairs (getMatchCandidates db options.supplierFilter)
    (options.tolerancePercent.getD F13_DEFAULT_TOLERANCE_PERCENT)

structure AutoMatchResult where
  matched : ℕ
  withVariance : ℕ
  skipped : ℕ
  failures : List (MatchCandidate × GrirError)
  details : List (MatchCandidate × ClearResult)

/-- One pair of a run. -/
def autoClear (env : GrirEnv) (s : AutoMatchResult × GrirDb) (candidate : MatchCandidate) :
    AutoMatchResult × GrirDb :=
  match clearItem env s.2 ⟨candidate.receiptId, candidate.invoiceId, none⟩ with
  | .ok (result, db) =>
    ({ s.1 with
      matched := if result.variancePosted then s.1.matched else s.1.matched + 1
      withVariance := if result.variancePosted then s.1.withVariance + 1 else s.1.withVariance
      details := s.1.details ++ [(candidate, result)] }, db)
  | .error error =>
    ({ s.1 with
      skipped := s.1.skipped + 1
      failures := s.1.failures ++ [(candidate, error)] }, s.2)

/-- `autoMatch`. -/
def autoMatch (env : GrirEnv) (db : GrirDb) (options : AutoMatchOptions) :
    AutoMatchResult × GrirDb :=
  let selected := selectedPairs db options
  let raw := getMatchCandidates db options.supplierFilter
  selected.foldl (autoClear env) (⟨0, 0, raw.length - selected.length, [], []⟩, db)

end SmartErpPos.Grir
