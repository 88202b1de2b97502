/-
  Returns/CreditNoteRace.lean --- credit notes for returns on one bill, statement by statement.

  Source: `createCreditNoteFromReturn` of `modules/return-grn/returnGrnService.ts`, run as
  transactions under READ COMMITTED.

  The duplicate check and the sum of the existing notes are read before the bill is locked,
  and what the lock returns is not looked at.  No other statement of these calls writes what
  they read: the returns, their lines and the bill stay as they are, and a note is seen by
  others when its transaction has committed.
-/
import SmartErpPos.Lib.OrderedMap
import SmartErpPos.Lib.Transition
import SmartErpPos.Returns.Documents

set_option autoImplicit false

namespace SmartErpPos.Returns

open SmartErpPos.Lib

/-! ## Calls -/

abbrev CallId := ℕ

/-- A call and the statement it is at. -/
inductive ScnCall where
  | begun (rgrnId : ReturnGrnId)
  | returnRead (rgrnId : ReturnGrnId) (lines : List ReturnGrnLine)
  | noDuplicate (rgrnId : ReturnGrnId) (lines : List ReturnGrnLine)
  | billRead (rgrnId : ReturnGrnId) (bill : SupplierBill) (amount : ℚ)
  | capped (rgrnId : ReturnGrnId) (amount : ℚ)
  | billLocked (rgrnId : ReturnGrnId) (amount : ℚ)
  | noteWritten (rgrnId : ReturnGrnId) (amount : ℚ)
  | over

/-- The bill, the returns that resolve to it, the committed credit notes, and the calls. -/
structure CreditDb where
  billId : BillId
  bill : SupplierBill
  returns : OrderedMap ReturnGrnId ReturnGrn
  notes : List SupplierNote
  calls : OrderedMap CallId ScnCall

def CreditDb.put (db : CreditDb) (id : CallId) (call : ScnCall) : CreditDb :=
  { db with calls := db.calls.set id call }

/-- The note a call is about to commit while it holds the bill. -/
def ScnCall.pending : ScnCall → Option (ReturnGrnId × ℚ)
  | .billLocked rgrnId amount => some (rgrnId, amount)
  | .noteWritten rgrnId amount => some (rgrnId, amount)
  | _ => none

/-- An open transaction holds the row of the bill. -/
def CreditDb.billHeld (db : CreditDb) : Bool :=
  db.calls.entries.any fun e => e.2.pending.isSome

/-! ## Statements -/

/-- A call goes on where a check passes, and is over where it fails. -/
def CreditDb.goOn {α : Type} (db : CreditDb) (id : CallId) (checked : Except ReturnError α)
    (next : α → ScnCall) : CreditDb :=
  match checked with
  | .ok a => db.put id (next a)
  | .error _ => db.put id .over

/-- The amount of the note for a return on the bill. -/
def noteAmount (bill : SupplierBill) (lines : List ReturnGrnLine) : Except ReturnError ℚ := do
  let returnTotalNum ← checkReturnTotal lines
  let _ ← checkBill bill
  scnAmount bill returnTotalNum

/-- The next statement of a call; nothing while it waits for the bill. -/
def CreditDb.run (db : CreditDb) (id : CallId) : Option CreditDb :=
  match db.calls.get? id with
  | none => none
  | some .over => none
  | some (.begun rgrnId) =>
    some (db.goOn id (checkReturnGrn rgrnId (db.returns.get? rgrnId)) fun rgrn =>
      .returnRead rgrnId rgrn.lines)
  | some (.returnRead rgrnId lines) =>
    some (db.goOn id (checkNoCreditNote db.notes rgrnId) fun _ => .noDuplicate rgrnId lines)
  | some (.noDuplicate rgrnId lines) =>
    some (db.goOn id (noteAmount db.bill lines) fun amount => .billRead rgrnId db.bill amount)
  | some (.billRead rgrnId bill amount) =>
    some (db.goOn id (checkCumulativeCredits db.notes db.billId bill amount) fun _ =>
      .capped rgrnId amount)
  | some (.capped rgrnId amount) =>
    -- `SELECT .. FOR UPDATE`: the sum is not taken again.
    if db.billHeld then none else some (db.put id (.billLocked rgrnId amount))
  | some (.billLocked rgrnId amount) => some (db.put id (.noteWritten rgrnId amount))
  | some (.noteWritten rgrnId amount) =>
    some ({ db with notes := db.notes ++ [postedNote db.billId rgrnId amount] }.put id .over)

/-- A call begins, runs its next statement, or fails for another reason and rolls back. -/
inductive ScnAction where
  | createCreditNoteFromReturn (id : CallId) (rgrnId : ReturnGrnId)
  | run (id : CallId)
  | fail (id : CallId)

/-- One action; nothing where it cannot happen. -/
def CreditDb.exec (db : CreditDb) : ScnAction → Option CreditDb
  | .createCreditNoteFromReturn id rgrnId =>
    if db.calls.get? id = none then some (db.put id (.begun rgrnId)) else none
  | .run id => db.run id
  | .fail id => if (db.calls.get? id).isSome then some (db.put id .over) else none

/-! ## Within the bill -/

/-- The active credit notes of the bill. -/
def CreditDb.activeCredits (db : CreditDb) : ℚ :=
  ((db.notes.filter fun note =>
    decide (note.referenceInvoiceId = db.billId) && isActiveNote note).map
      (·.totalAmount.toRat)).sum

/-- The committed notes do not exceed the bill, and no return has two. -/
structure WithinBill (db : CreditDb) : Prop where
  total : db.activeCredits ≤ db.bill.totalAmount.toRat + BILL_TOLERANCE
  once : ∀ rgrnId, (notesOfReturn db.notes rgrnId).length ≤ 1

/-- A note for a return that has none, within what the committed notes leave of the bill. -/
def StillFits (db : CreditDb) (rgrnId : ReturnGrnId) (amount : ℚ) : Prop :=
  notesOfReturn db.notes rgrnId = [] ∧
    db.activeCredits + (postedNote db.billId rgrnId amount).totalAmount.toRat ≤
      db.bill.totalAmount.toRat + BILL_TOLERANCE

instance (db : CreditDb) (rgrnId : ReturnGrnId) (amount : ℚ) :
    Decidable (StillFits db rgrnId amount) :=
  inferInstanceAs (Decidable (_ ∧ _))

def ScnCall.LocksInTime (db : CreditDb) : ScnCall → Prop
  | .capped rgrnId amount => StillFits db rgrnId amount
  | _ => True

/-- A call that takes the lock still may: what was committed since it looked leaves room for
its note. -/
def LocksInTime (db : CreditDb) : ScnAction → Prop
  | .run id => ∀ call ∈ db.calls.get? id, call.LocksInTime db
  | _ => True

instance (db : CreditDb) (call : ScnCall) : Decidable (call.LocksInTime db) := by
  cases call <;> unfold ScnCall.LocksInTime <;> infer_instance

instance (db : CreditDb) (action : ScnAction) : Decidable (LocksInTime db action) := by
  cases action <;> unfold LocksInTime <;> infer_instance

end SmartErpPos.Returns
