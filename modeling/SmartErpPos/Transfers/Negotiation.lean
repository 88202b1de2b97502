/-
  Transfers/Negotiation.lean --- the quantities of a transfer line and the status of a transfer.

  Sources: `shared/utils/transferNegotiation.ts`, `shared/types/storeTransfer.ts`,
  `shared/sql/526_warehouse_grn_transfers.sql` and `532_transfer_line_negotiation.sql`.

  A line is requested, approved, dispatched and received, each in parts.  What a receipt
  leaves out is its shortage.  The check constraint on the five quantities is a field of the
  row; it does not mention received and shortage together.
-/
import SmartErpPos.Lib.Numeric

set_option autoImplicit false

namespace SmartErpPos.Transfers

open SmartErpPos.Lib

abbrev StoreId := ℕ
abbrev LotId := ℕ
abbrev ProductId := ℕ
abbrev TransferId := ℕ
abbrev LineId := ℕ

/-- `NUMERIC(15, 4)`. -/
abbrev Quantity := Numeric 4

inductive StoreTransferStatus where
  | DRAFT
  | APPROVED
  | PARTIALLY_APPROVED
  | DISPATCHED
  | PARTIALLY_DISPATCHED
  | IN_TRANSIT
  | PARTIALLY_RECEIVED
  | RECEIVED
  | CANCELLED
  deriving DecidableEq

/-- The status as error messages show it. -/
def StoreTransferStatus.text : StoreTransferStatus → String
  | .DRAFT => "DRAFT"
  | .APPROVED => "APPROVED"
  | .PARTIALLY_APPROVED => "PARTIALLY_APPROVED"
  | .DISPATCHED => "DISPATCHED"
  | .PARTIALLY_DISPATCHED => "PARTIALLY_DISPATCHED"
  | .IN_TRANSIT => "IN_TRANSIT"
  | .PARTIALLY_RECEIVED => "PARTIALLY_RECEIVED"
  | .RECEIVED => "RECEIVED"
  | .CANCELLED => "CANCELLED"

/-! ## Lines -/

/-- `chk_transfer_line_qty`. -/
def LineCheck (quantity : Quantity) (approved : Option Quantity)
    (dispatched received shortage : Quantity) : Prop :=
  0 ≤ dispatched ∧ 0 ≤ received ∧ 0 ≤ shortage ∧ (∀ a, approved = some a → 0 ≤ a ∧ a ≤ quantity) ∧
    dispatched ≤ approved.getD quantity ∧ received ≤ dispatched

instance (quantity : Quantity) (approved : Option Quantity)
    (dispatched received shortage : Quantity) :
    Decidable (LineCheck quantity approved dispatched received shortage) :=
  match approved with
  | none => decidable_of_iff (0 ≤ dispatched ∧ 0 ≤ received ∧ 0 ≤ shortage ∧
      dispatched ≤ quantity ∧ received ≤ dispatched) (by simp [LineCheck])
  | some a => decidable_of_iff (0 ≤ dispatched ∧ 0 ≤ received ∧ 0 ≤ shortage ∧
      (0 ≤ a ∧ a ≤ quantity) ∧ dispatched ≤ a ∧ received ≤ dispatched) (by simp [LineCheck])

/-- A row of `store_transfer_lines`. -/
structure StoreTransferLine where
  storeTransferId : TransferId
  lineNumber : ℕ
  productId : ProductId
  productLotId : LotId
  quantity : Quantity
  /-- `none` until approved. -/
  quantityApproved : Option Quantity
  quantityDispatched : Quantity
  quantityReceived : Quantity
  quantityShortage : Quantity
  approvalComment : Option String
  dispatchComment : Option String
  receiveComment : Option String
  quantity_positive : 0 < quantity
  chk_transfer_line_qty :
    LineCheck quantity quantityApproved quantityDispatched quantityReceived quantityShortage

/-! ## What is left to do -/

/-- The approved quantity, or the requested one before approval. -/
def effectiveApprovedQty (line : StoreTransferLine) : Quantity :=
  line.quantityApproved.getD line.quantity

def remainingToDispatch (line : StoreTransferLine) : Quantity :=
  max 0 (effectiveApprovedQty line - line.quantityDispatched)

/-- What is still to be received.  The shortage is not taken off. -/
def remainingToReceive (line : StoreTransferLine) : Quantity :=
  max 0 (line.quantityDispatched - line.quantityReceived)

/-- The tolerance of the comparisons. -/
def qtyTolerance : ℚ := 1 / 10000

/-! ## The status of a transfer -/

def deriveStatusAfterApproval (lines : List StoreTransferLine) : StoreTransferStatus :=
  if lines = [] then .DRAFT
  else if ∀ l ∈ lines, l.quantityApproved.getD 0 ≤ 0 then .CANCELLED
  else if ∀ l ∈ lines, l.quantity.toRat ≤ (l.quantityApproved.getD 0).toRat + qtyTolerance then
    .APPROVED
  else .PARTIALLY_APPROVED

def deriveStatusAfterDispatch (lines : List StoreTransferLine) : StoreTransferStatus :=
  if ¬ ∃ l ∈ lines, 0 < l.quantityDispatched then .APPROVED
  else if ∀ l ∈ lines, (remainingToDispatch l).toRat ≤ qtyTolerance then .IN_TRANSIT
  else .PARTIALLY_DISPATCHED

def deriveStatusAfterReceive (lines : List StoreTransferLine) : StoreTransferStatus :=
  if ¬ ∃ l ∈ lines, 0 < l.quantityReceived then .IN_TRANSIT
  else if ∀ l ∈ lines, (remainingToReceive l).toRat ≤ qtyTolerance then .RECEIVED
  else .PARTIALLY_RECEIVED

end SmartErpPos.Transfers
