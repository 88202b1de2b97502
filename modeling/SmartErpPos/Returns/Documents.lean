/-
  Returns/Documents.lean --- returns to the supplier, their bill and their credit notes.

  Sources: `030_return_grn.sql` and `522_gr_reversal_metadata.sql`,
  `shared/domain/grFullReverseSsot.ts`, and the checks of `createCreditNoteFromReturn` in
  `modules/return-grn/returnGrnService.ts`.

  A credit note needs a posted return that is not the reversal of a whole receipt, and a
  bill it does not exceed.  Line totals are read from the return; the note may be capped at
  the bill when the supplier billed less than was received.
-/
import SmartErpPos.Ledger.Types
import SmartErpPos.Lib.DecimalText
import SmartErpPos.Lib.Fallible
import SmartErpPos.Lib.JsText
import SmartErpPos.Lib.RoundedRat

set_option autoImplicit false

namespace SmartErpPos.Returns

open SmartErpPos.Lib SmartErpPos.Ledger

/-! ## Rows -/

abbrev ReturnGrnId := DocumentId
abbrev ReceiptId := String
abbrev BillId := ℕ
abbrev ProductId := String
abbrev BatchId := ℕ

inductive ReturnGrnStatus where
  | DRAFT
  | POSTED
  deriving DecidableEq

/-- A row of `return_grn_lines`. -/
structure ReturnGrnLine where
  productId : ProductId
  batchId : Option BatchId
  quantity : Numeric 4
  baseQuantity : Numeric 4
  unitCost : Numeric 2
  lineTotal : Numeric 2
  deriving DecidableEq

/-- A row of `return_grn` with its lines and the link its receipt has to a reversal. -/
structure ReturnGrn where
  returnGrnNumber : String
  grnId : ReceiptId
  status : ReturnGrnStatus
  reason : String
  lines : List ReturnGrnLine
  /-- `goods_receipts.reversed_by_return_grn_id`. -/
  reversedByReturnGrnId : Option ReturnGrnId
  deriving DecidableEq

/-- A supplier invoice as a credit note sees it. -/
structure SupplierBill where
  totalAmount : Numeric 6
  subtotal : Numeric 6
  status : String
  deriving DecidableEq

/-- A supplier credit note. -/
structure SupplierNote where
  referenceInvoiceId : BillId
  returnGrnId : Option ReturnGrnId
  totalAmount : Numeric 6
  status : String
  isDeleted : Bool
  deriving DecidableEq

/-! ## Refusals -/

/-- What a refused call throws: a plain error, one with a code, or what the ledger says. -/
inductive ReturnError where
  | error (message : String)
  | business (message code : String)
  | ledger (error : LedgerError)
  deriving DecidableEq

def GR_FULL_REVERSE_REASON_PREFIX : String := "[Full reverse]"
def GR_UNINVOICED_REVERSE_REASON_PREFIX : String := "[Uninvoiced reversal]"

def isFullReceiptReverseReason (reason : String) : Bool :=
  jsIncludes GR_FULL_REVERSE_REASON_PREFIX reason ||
    jsIncludes GR_UNINVOICED_REVERSE_REASON_PREFIX reason

/-- The return can be credited: it is posted and does not reverse its whole receipt. -/
def checkReturnGrn (rgrnId : ReturnGrnId) (row : Option ReturnGrn) :
    Except ReturnError ReturnGrn := do
  let rgrn ← orThrow row (.error "Return GRN not found")
  let _ ← require (rgrn.status = .POSTED)
    (.error "Return GRN must be POSTED before creating a Credit Note")
  let _ ← require (isFullReceiptReverseReason rgrn.reason = false)
    (.business ("This return fully reversed the goods receipt — stock and GR/IR are already " ++
      "cleared. No supplier credit note is required (and sibling bills must not be credited " ++
      "from this return).") "ERR_SCN_FULL_REVERSE")
  let _ ← require (rgrn.reversedByReturnGrnId ≠ some rgrnId)
    (.business ("This goods receipt was fully reversed by this return — stock, GR/IR, and any " ++
      "unpaid bill were already cleared. No supplier credit note is required.")
      "ERR_SCN_FULL_REVERSE")
  pure rgrn

/-! ## Notes -/

/-- The statuses of documents that no longer count. -/
def GONE_STATUSES : List String := ["CANCELLED", "VOID", "VOIDED", "DELETED"]

def isActiveNote (note : SupplierNote) : Bool :=
  !note.isDeleted && !GONE_STATUSES.contains note.status.toUpper

/-- The active notes of a return. -/
def notesOfReturn (notes : List SupplierNote) (rgrnId : ReturnGrnId) : List SupplierNote :=
  notes.filter fun note => decide (note.returnGrnId = some rgrnId) && isActiveNote note

def checkNoCreditNote (notes : List SupplierNote) (rgrnId : ReturnGrnId) :
    Except ReturnError Unit :=
  require (notesOfReturn notes rgrnId = [])
    (.error "A Supplier Credit Note already exists for this Return GRN")

/-- `getNotesForSupplierInvoice`.  Deleted and void notes are among them. -/
def getNotesForSupplierInvoice (notes : List SupplierNote) (billId : BillId) :
    List SupplierNote :=
  notes.filter fun note =>
    decide (note.referenceInvoiceId = billId) && decide (note.status ≠ "CANCELLED")

/-! ## Amounts -/

/-- What a bill may be exceeded by. -/
def BILL_TOLERANCE : ℚ := 9 / 1000

/-- The total of a return. -/
def returnTotal (lines : List ReturnGrnLine) : ℚ := (lines.map (·.lineTotal.toRat)).sum

def checkReturnTotal (lines : List ReturnGrnLine) : Except ReturnError ℚ := do
  let _ ← require (lines ≠ []) (.error "Return GRN has no line items")
  let _ ← require (0 < returnTotal lines)
    (.error "Return GRN total amount is zero — cannot create Credit Note")
  pure (returnTotal lines)

def checkBill (bill : SupplierBill) : Except ReturnError Unit :=
  require (GONE_STATUSES.contains bill.status.toUpper = false)
    (.business "Cannot create credit note against a cancelled supplier bill"
      "ERR_SCN_BILL_CANCELLED")

def exceedsBill (bill : SupplierBill) : ReturnError :=
  .business ("Return credit note would exceed supplier bill total (" ++
    fixedText 2 bill.totalAmount.toRat ++ ")") "ERR_SCN_EXCEEDS_BILL"

/-- The amount of the note: the return, or the bill where less was billed than received. -/
def scnAmount (bill : SupplierBill) (returnTotalNum : ℚ) : Except ReturnError ℚ :=
  if bill.totalAmount.toRat + BILL_TOLERANCE < returnTotalNum then
    if returnTotalNum ≤ bill.subtotal.toRat + BILL_TOLERANCE then pure bill.totalAmount.toRat
    else .error (exceedsBill bill)
  else pure returnTotalNum

def checkCumulativeCredits (notes : List SupplierNote) (billId : BillId) (bill : SupplierBill)
    (amount : ℚ) : Except ReturnError Unit :=
  require
    (((getNotesForSupplierInvoice notes billId).map (·.totalAmount.toRat)).sum + amount ≤
      bill.totalAmount.toRat + BILL_TOLERANCE)
    (exceedsBill bill)

/-- The note `createSupplierNote` inserts, as `postSupplierNote` leaves it. -/
def postedNote (billId : BillId) (rgrnId : ReturnGrnId) (amount : ℚ) : SupplierNote where
  referenceInvoiceId := billId
  returnGrnId := some rgrnId
  totalAmount := .ofRat amount
  status := "POSTED"
  isDeleted := false

@[simp] theorem isActiveNote_postedNote (billId : BillId) (rgrnId : ReturnGrnId) (amount : ℚ) :
    isActiveNote (postedNote billId rgrnId amount) = true := by
  change (!false && !GONE_STATUSES.contains "POSTED".toUpper) = true
  decide +kernel

end SmartErpPos.Returns
