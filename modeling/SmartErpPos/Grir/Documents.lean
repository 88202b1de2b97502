/-
  Grir/Documents.lean --- receipts, supplier invoices and the records that clear them.

  Sources: `modules/grir-clearing/grirIntegrity.ts`, `grirClearingRepository.ts` and
  `supplierFilter.ts`.

  A receipt and an invoice are linked in three ways.  The candidates for automatic clearing
  are all linked pairs that are not cleared with each other; a pair is chosen when its
  receipt and its invoice are in no pair chosen before.
-/
import Mathlib.Data.List.Sort
import SmartErpPos.Ledger.AccountingCore
import SmartErpPos.Lib.GreedyMatching
import SmartErpPos.Lib.SqlText

set_option autoImplicit false

namespace SmartErpPos.Grir

open SmartErpPos.Lib SmartErpPos.Ledger

abbrev ReceiptId := ℕ
abbrev InvoiceId := ℕ
abbrev OrderId := ℕ
abbrev SupplierId := ℕ
abbrev ClearingId := DocumentId

/-! ## Tables -/

structure GoodsReceiptItem where
  receivedQuantity : Numeric 4
  costPrice : Numeric 2
  deriving DecidableEq

/-- A row of `goods_receipts` with its items. -/
structure GoodsReceipt where
  receiptNumber : String
  purchaseOrderId : Option OrderId
  status : String
  /-- `received_date`, as a day number. -/
  receivedDate : ℤ
  items : List GoodsReceiptItem
  deriving DecidableEq

/-- A row of `purchase_orders`. -/
structure PurchaseOrder where
  orderNumber : String
  supplierId : SupplierId
  totalAmount : Numeric 2
  deriving DecidableEq

/-- A row of `suppliers`. -/
structure Supplier where
  companyName : String
  supplierCode : Option String
  deriving DecidableEq

/-- A row of `supplier_invoices`. -/
structure SupplierInvoice where
  supplierInvoiceNumber : Option String
  internalReferenceNumber : Option String
  purchaseOrderId : Option OrderId
  supplierId : SupplierId
  totalAmount : Numeric 6
  status : String
  documentType : Option String
  isDeleted : Bool
  isPostedToGl : Bool
  deriving DecidableEq

inductive ClearingStatus where
  | OPEN
  | PARTIALLY_MATCHED
  | MATCHED
  | VARIANCE
  deriving DecidableEq

/-- The statuses of a cleared pair. -/
def ClearingStatus.isCleared (status : ClearingStatus) : Bool :=
  decide (status = .MATCHED) || decide (status = .VARIANCE)

/-- A row of `grir_clearing`. -/
structure GrirClearingRow where
  purchaseOrderId : OrderId
  goodsReceiptId : Option ReceiptId
  invoiceId : Option InvoiceId
  poAmount : Numeric 2
  grAmount : Option (Numeric 2)
  invoiceAmount : Option (Numeric 2)
  variance : Numeric 2
  status : ClearingStatus
  deriving DecidableEq

/-- The documents, which clearing does not change. -/
structure GrirDocuments where
  receipts : OrderedMap ReceiptId GoodsReceipt
  orders : OrderedMap OrderId PurchaseOrder
  suppliers : OrderedMap SupplierId Supplier
  invoices : OrderedMap InvoiceId SupplierInvoice
  /-- `supplier_invoice_grn_links`. -/
  grnLinks : List (ReceiptId × InvoiceId)

/-- The clearing records, the ledger, and the first unused record id. -/
structure GrirDb where
  documents : GrirDocuments
  clearing : OrderedMap ClearingId GrirClearingRow
  ledger : LedgerDb
  nextClearing : ClearingId

/-! ## Linked pairs -/

/-- `SUM(received_quantity * cost_price)`. -/
def receiptTotal (receipt : GoodsReceipt) : ℚ :=
  (receipt.items.map fun item => item.receivedQuantity.toRat * item.costPrice.toRat).sum

/-- `SI_ACTIVE_SQL`. -/
def isActiveInvoice (invoice : SupplierInvoice) : Bool :=
  !invoice.isDeleted && decide (invoice.documentType.getD "SUPPLIER_INVOICE" = "SUPPLIER_INVOICE") &&
    !(["Cancelled", "CANCELLED", "Voided", "VOIDED", "Void", "VOID"].contains invoice.status)

/-- `GR_HAS_LINES_SQL`. -/
def hasLines (receipt : GoodsReceipt) : Bool :=
  receipt.items.any fun item => 0 < item.receivedQuantity

/-- `SI_LINKS_GR_SQL`: by a link, by the order, or by the reference of the invoice. -/
def isLinked (documents : GrirDocuments) (receiptId : ReceiptId) (receipt : GoodsReceipt)
    (invoiceId : InvoiceId) (invoice : SupplierInvoice) : Bool :=
  documents.grnLinks.contains (receiptId, invoiceId) ||
    (receipt.purchaseOrderId.isSome && decide (invoice.purchaseOrderId = receipt.purchaseOrderId)) ||
    invoice.internalReferenceNumber.any fun reference => decide (sqlTrim reference ≠ "") &&
      (decide (sqlTrim reference = receipt.receiptNumber) ||
        ilike reference ("%" ++ receipt.receiptNumber ++ "%"))

/-- A supplier as a caller names it, resolved. -/
inductive SupplierFilter where
  | none
  | id (supplierId : SupplierId)
  | search (supplierSearch : String)
  deriving DecidableEq

/-- The supplier of a pair: of the order, or else of the invoice. -/
def supplierOf (documents : GrirDocuments) (receipt : GoodsReceipt) (invoice : SupplierInvoice) :
    SupplierId :=
  ((receipt.purchaseOrderId.bind documents.orders.get?).map (·.supplierId)).getD invoice.supplierId

def SupplierFilter.accepts (filter : SupplierFilter) (documents : GrirDocuments)
    (supplierId : SupplierId) : Bool :=
  match filter with
  | .none => true
  | .id wanted => supplierId = wanted
  | .search text => (documents.suppliers.get? supplierId).any fun s =>
      ilike s.companyName ("%" ++ text ++ "%") || ilike (s.supplierCode.getD "") ("%" ++ text ++ "%")

/-- The pair is cleared. -/
def isClearedPair (db : GrirDb) (receiptId : ReceiptId) (invoiceId : InvoiceId) : Bool :=
  db.clearing.entries.any fun e => decide (e.2.goodsReceiptId = some receiptId) &&
    decide (e.2.invoiceId = some invoiceId) && e.2.status.isCleared

/-- A row of `getMatchCandidates`. -/
structure MatchCandidate where
  receiptId : ReceiptId
  receiptNumber : String
  receivedDate : ℤ
  receiptTotal : ℚ
  invoiceId : InvoiceId
  invoiceNumber : Option String
  invoiceTotal : ℚ
  deriving DecidableEq

def MatchCandidate.amountDiff (c : MatchCandidate) : ℚ := |c.receiptTotal - c.invoiceTotal|

def MatchCandidate.isExactMatch (c : MatchCandidate) : Bool := c.amountDiff < 1 / 100

/-- `ORDER BY is_exact_match DESC, amount_diff ASC, received_date ASC`.  The difference is
selected as text, so it is ordered as text. -/
def MatchCandidate.comesBefore (c d : MatchCandidate) : Bool :=
  let diff := fixedText 6 c.amountDiff
  let diff' := fixedText 6 d.amountDiff
  if c.isExactMatch = d.isExactMatch then
    if diff = diff' then c.receivedDate ≤ d.receivedDate else decide (diff < diff')
  else c.isExactMatch

/-- The linked pairs of completed receipts and active invoices, in order.  Ties stay in the
order of the tables. -/
def linkedPairs (documents : GrirDocuments) (filter : SupplierFilter) : List MatchCandidate :=
  let pairs := documents.receipts.entries.flatMap fun r => documents.invoices.entries.filterMap
    fun i =>
      if r.2.status = "COMPLETED" ∧ hasLines r.2 = true ∧ isActiveInvoice i.2 = true ∧
          isLinked documents r.1 r.2 i.1 i.2 = true ∧
          filter.accepts documents (supplierOf documents r.2 i.2) = true then
        some (⟨r.1, r.2.receiptNumber, r.2.receivedDate, receiptTotal r.2, i.1,
          i.2.supplierInvoiceNumber, i.2.totalAmount.toRat⟩ : MatchCandidate)
      else none
  pairs.insertionSort fun c d => c.comesBefore d = true

/-- `getMatchCandidates`: without the cleared pairs. -/
def getMatchCandidates (db : GrirDb) (filter : SupplierFilter) : List MatchCandidate :=
  (linkedPairs db.documents filter).filter fun c => !isClearedPair db c.receiptId c.invoiceId

/-! ## Choosing pairs -/

/-- `F13_DEFAULT_TOLERANCE_PERCENT`. -/
def F13_DEFAULT_TOLERANCE_PERCENT : ℚ := 2

/-- The difference is within the tolerance. -/
def MatchCandidate.within (tolerancePercent : ℚ) (c : MatchCandidate) : Bool :=
  if 0 < c.receiptTotal then c.amountDiff / c.receiptTotal * 100 ≤ tolerancePercent
  else c.amountDiff ≤ 1 / 100

/-- `selectF13Pairs`. -/
def selectF13Pairs (raw : List MatchCandidate) (tolerancePercent : ℚ) : List MatchCandidate :=
  let tol := if 0 ≤ tolerancePercent then tolerancePercent else F13_DEFAULT_TOLERANCE_PERCENT
  greedyMatching (·.receiptId) (·.invoiceId) [] [] (raw.filter (·.within tol))

/-! ## Clearing records -/

/-- `findClearingRecord` for a receipt and an invoice. -/
def findClearingRecord (db : GrirDb) (receiptId : ReceiptId) (invoiceId : InvoiceId) :
    Option (ClearingId × GrirClearingRow) :=
  db.clearing.entries.find? fun e => decide (e.2.goodsReceiptId = some receiptId) &&
    decide (e.2.invoiceId = some invoiceId)

structure ClearingData where
  purchaseOrderId : OrderId
  goodsReceiptId : ReceiptId
  invoiceId : InvoiceId
  poAmount : ℚ
  grAmount : ℚ
  invoiceAmount : ℚ
  variance : ℚ
  status : ClearingStatus

/-- `createClearingRecord`: an existing record keeps its order and its receipt. -/
def createClearingRecord (db : GrirDb) (id : ClearingId) (data : ClearingData) : GrirDb :=
  let row : GrirClearingRow :=
    match db.clearing.get? id with
    | none =>
      { purchaseOrderId := data.purchaseOrderId
        goodsReceiptId := some data.goodsReceiptId
        invoiceId := some data.invoiceId
        poAmount := Numeric.ofRat data.poAmount
        grAmount := some (Numeric.ofRat data.grAmount)
        invoiceAmount := some (Numeric.ofRat data.invoiceAmount)
        variance := Numeric.ofRat data.variance
        status := data.status }
    | some row =>
      { row with
        invoiceId := some data.invoiceId
        grAmount := some (Numeric.ofRat data.grAmount)
        invoiceAmount := some (Numeric.ofRat data.invoiceAmount)
        variance := Numeric.ofRat data.variance
        status := data.status }
  { db with
    clearing := db.clearing.set id row
    nextClearing := max db.nextClearing (id + 1) }

end SmartErpPos.Grir
