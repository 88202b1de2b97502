/-
  Sales/ReturnRace.lean --- returns and voids of one sale, statement by statement.

  Sources: `refundSale` and `voidSale` of `modules/sales/salesService.ts` with the statements
  of `modules/sales/salesRepository.ts`, run as transactions under READ COMMITTED.

  A statement reads what is committed and what its own transaction has written.  An update
  waits for a row that another open transaction has written, and looks at the row again
  when that one has ended.  Neither call locks the sale when it reads it; what protects the
  sale are the conditions of the later updates, and the row counts of two of them are not
  looked at.
-/
import SmartErpPos.Sales.ReturnedItems

set_option autoImplicit false

namespace SmartErpPos.Sales

open SmartErpPos.Lib

/-! ## Transactions -/

abbrev TxnId := ℕ

/-- What a refund has read and validated. -/
structure RefundWork where
  input : RefundInput
  header : Sale
  saleItems : List SaleItem
  rows : List ValidatedItem

/-- The refund document for what is charged after so much has been given back. -/
def RefundWork.document (work : RefundWork) (alreadyRefundedCharged : ℚ) : RefundDocument :=
  let charged := chargeRefund { work.header with items := work.saleItems } alreadyRefundedCharged
    work.rows
  ⟨.ofRat (roundSaleMoney charged.refundChargedTotal), .ofRat (work.rows.map (·.costTotal)).sum,
    work.input.refundType⟩

/-- The returned quantities a transaction has written. -/
abbrev Raised := OrderedMap ℕ Quantity

/-- A transaction and the statement it is at; what it has written is carried along. -/
inductive Txn where
  | refundBegun (env : RefundEnv) (input : RefundInput)
  | refundSale (input : RefundInput) (header : Sale)
  | refundItems (work : RefundWork)
  | refundCharged (work : RefundWork) (refund : RefundDocument)
  | refundRaising (work : RefundWork) (refund : RefundDocument) (todo : List ValidatedItem)
      (raised : Raised)
  | refundStocked (work : RefundWork) (refund : RefundDocument) (raised : Raised)
  | refundCounted (work : RefundWork) (refund : RefundDocument) (raised : Raised)
      (isFullRefund : Bool)
  | refundMarked (work : RefundWork) (refund : RefundDocument) (raised : Raised)
      (newStatus : Option SaleStatus)
  | voidBegun (env : VoidEnv) (input : VoidInput)
  | voidSale (header : Sale)
  | voidItems (header : Sale) (saleItems : List SaleItem)
  | voidStocked (header : Sale) (saleItems : List SaleItem)
  | voidMarked (header : Sale) (saleItems : List SaleItem)
  | over

/-- The sale, what committed calls have put back into stock of each line and reversed in the
ledger, and the open transactions. -/
structure RaceDb where
  sale : Sale
  restored : List (ℕ × ℚ)
  reversed : ℚ
  txns : OrderedMap TxnId Txn

/-- The rows of `sale_items` a transaction has written. -/
def Txn.raised : Txn → Raised
  | .refundRaising _ _ _ raised => raised
  | .refundStocked _ _ raised => raised
  | .refundCounted _ _ raised _ => raised
  | .refundMarked _ _ raised _ => raised
  | _ => .empty

/-- The status a transaction has written into the row of the sale. -/
def Txn.newStatus : Txn → Option SaleStatus
  | .refundMarked _ _ _ newStatus => newStatus
  | .voidMarked _ _ => some .VOID
  | _ => none

/-- Another transaction has written the row of an item. -/
def RaceDb.itemLocked (db : RaceDb) (tid : TxnId) (id : ℕ) : Bool :=
  db.txns.entries.any fun e => decide (e.1 ≠ tid) && (e.2.raised.get? id).isSome

/-- Another transaction has written the row of the sale. -/
def RaceDb.saleLocked (db : RaceDb) (tid : TxnId) : Bool :=
  db.txns.entries.any fun e => decide (e.1 ≠ tid) && e.2.newStatus.isSome

def RaceDb.put (db : RaceDb) (tid : TxnId) (txn : Txn) : RaceDb :=
  { db with txns := db.txns.set tid txn }

/-- The items as a transaction sees them. -/
def ownItems (raised : Raised) (items : List SaleItem) : List SaleItem :=
  items.map fun item =>
    match raised.get? item.id with
    | some refundedQty => { item with refundedQty := refundedQty }
    | none => item

/-! ## Statements -/

/-- `UPDATE sale_items SET refunded_qty = refunded_qty + $1 WHERE id = $2 AND …`: the new
quantity, where the row qualifies. -/
def raiseItem (items : List SaleItem) (row : ValidatedItem) : Option Quantity :=
  match items.find? fun item => decide (item.id = row.saleItem.id) with
  | some current =>
    if current.refundedQty.toRat + row.refundQty ≤ current.quantity.toRat then
      some (.ofRat (current.refundedQty.toRat + row.refundQty))
    else none
  | none => none

/-- The update of `sales.status` at the end of a refund.  A sale that was partially returned
when it was read is not updated again, and an update that finds no row is not noticed. -/
def markSale (work : RefundWork) (isFullRefund : Bool) (status : SaleStatus) :
    Option SaleStatus :=
  if isFullRefund then
    if status = .COMPLETED ∨ status = .PARTIALLY_RETURNED then some .VOIDED_BY_RETURN else none
  else if work.header.status = .COMPLETED ∧ status = .COMPLETED then some .PARTIALLY_RETURNED
  else none

/-- Whether the end of a refund updates the sale at all. -/
def marksSale (work : RefundWork) (isFullRefund : Bool) : Bool :=
  isFullRefund || decide (work.header.status = .COMPLETED)

/-- The next statement of a transaction; nothing while it waits for a row.  A refused call
rolls back. -/
def RaceDb.run (db : RaceDb) (tid : TxnId) : Option RaceDb :=
  match db.txns.get? tid with
  | none => none
  | some .over => none
  | some (.refundBegun env input) =>
    match checkRefund env db.sale input with
    | .ok _ => some (db.put tid (.refundSale input db.sale))
    | .error _ => some (db.put tid .over)
  | some (.refundSale input header) =>
    match input.items.mapM (validateItem db.sale.items) with
    | .ok rows => some (db.put tid (.refundItems ⟨input, header, db.sale.items, rows⟩))
    | .error _ => some (db.put tid .over)
  | some (.refundItems work) =>
    some (db.put tid (.refundCharged work (work.document db.sale.refundedChargedTotal)))
  | some (.refundCharged work refund) =>
    some (db.put tid (.refundRaising work refund work.rows .empty))
  | some (.refundRaising work refund (row :: todo) raised) =>
    if db.itemLocked tid row.saleItem.id then none
    else
      match raiseItem (ownItems raised db.sale.items) row with
      | some refundedQty =>
        some (db.put tid
          (.refundRaising work refund todo (raised.set row.saleItem.id refundedQty)))
      | none => some (db.put tid .over)
  | some (.refundRaising work refund [] raised) =>
    some (db.put tid (.refundStocked work refund raised))
  | some (.refundStocked work refund raised) =>
    some (db.put tid (.refundCounted work refund raised
      (isSaleFullyRefunded (ownItems raised db.sale.items))))
  | some (.refundCounted work refund raised isFullRefund) =>
    if marksSale work isFullRefund && db.saleLocked tid then none
    else some (db.put tid (.refundMarked work refund raised
      (markSale work isFullRefund db.sale.status)))
  | some (.refundMarked work refund raised newStatus) =>
    some
      { db with
        sale :=
          { db.sale with
            items := ownItems raised db.sale.items
            refunds := db.sale.refunds ++ [refund]
            status := newStatus.getD db.sale.status }
        restored := db.restored ++ work.rows.map fun row => (row.saleItem.id, row.refundQty)
        txns := db.txns.set tid .over }
  | some (.voidBegun env input) =>
    match checkVoid env db.sale input with
    | .ok _ => some (db.put tid (.voidSale db.sale))
    | .error _ => some (db.put tid .over)
  | some (.voidSale header) => some (db.put tid (.voidItems header db.sale.items))
  | some (.voidItems header saleItems) => some (db.put tid (.voidStocked header saleItems))
  | some (.voidStocked header saleItems) =>
    if db.saleLocked tid then none
    else if db.sale.status = .COMPLETED then some (db.put tid (.voidMarked header saleItems))
    else some (db.put tid .over)
  | some (.voidMarked header saleItems) =>
    some
      { sale := { db.sale with status := .VOID }
        restored := db.restored ++ saleItems.map fun item => (item.id, item.quantity.toRat)
        reversed := db.reversed + header.totalAmount.toRat
        txns := db.txns.set tid .over }

inductive RaceAction where
  | beginRefund (tid : TxnId) (env : RefundEnv) (input : RefundInput)
  | beginVoid (tid : TxnId) (env : VoidEnv) (input : VoidInput)
  | run (tid : TxnId)
  /-- Something else in the call has failed. -/
  | rollBack (tid : TxnId)

/-- One statement of one transaction. -/
def RaceDb.exec (db : RaceDb) : RaceAction → Option RaceDb
  | .beginRefund tid env input =>
    if db.txns.get? tid = none then some (db.put tid (.refundBegun env input)) else none
  | .beginVoid tid env input =>
    if db.txns.get? tid = none then some (db.put tid (.voidBegun env input)) else none
  | .run tid => db.run tid
  | .rollBack tid => if (db.txns.get? tid).isSome then some (db.put tid .over) else none

def RaceStep (db : RaceDb) (action : RaceAction) (db' : RaceDb) : Prop := db.exec action = some db'

/-! ## Properties -/

/-- A completed sale of which nothing has come back. -/
structure FreshSale (sale : Sale) : Prop where
  status : sale.status = .COMPLETED
  refunds : sale.refunds = []
  total : 0 ≤ sale.totalAmount
  items : ItemsSound sale.items
  none : ∀ item ∈ sale.items, item.refundedQty = 0

/-- The sale before the first transaction. -/
def RaceDb.start (sale : Sale) : RaceDb := ⟨sale, [], 0, .empty⟩

/-- The quantity of a line that committed calls have put back into stock. -/
def restoredOf (restored : List (ℕ × ℚ)) (id : ℕ) : ℚ :=
  ((restored.filter fun e => e.1 = id).map (·.2)).sum

/-- Committed returns and voids give back no more than was sold. -/
structure GivesBackAtMost (db : RaceDb) : Prop where
  stock : ∀ item ∈ db.sale.items, restoredOf db.restored item.id ≤ item.quantity.toRat
  amount : db.sale.refundedChargedTotal + db.reversed ≤ db.sale.totalAmount.toRat
  voided : db.sale.status = .VOID → db.sale.refunds = []
  closed : db.sale.refunds ≠ [] → (∀ item ∈ db.sale.items, item.quantity ≤ item.refundedQty) →
    db.sale.status = .VOIDED_BY_RETURN ∧
      db.sale.refundedChargedTotal = db.sale.totalAmount.toRat

end SmartErpPos.Sales
