/-
  Treasury/Settlements.lean --- what is left to deposit of each receipt.

  Sources: `542_treasury_deposit_worksheet.sql`, `applySettlement` and
  `reverseApplicationsForDocument` of `modules/treasury/receiptSettlementRepository.ts`,
  `treasuryInvariants.ts`, and `applySettlementsForDepositWorksheet` of
  `modules/treasury/depositWorksheetService.ts`.

  A settlement row counts how much of a receipt has been deposited.  The constraints of the
  table are fields of the row: an update that would break one fails.
-/
import SmartErpPos.Treasury.Documents

set_option autoImplicit false

namespace SmartErpPos.Treasury

open SmartErpPos.Lib SmartErpPos.Ledger

/-! ## Rows -/

inductive SettlementStatus where
  | UNSETTLED
  | PARTIALLY_SETTLED
  | SETTLED
  deriving DecidableEq

/-- A row of `receipt_settlements`; the clearing account of every row is 1015. -/
structure ReceiptSettlement where
  sourceNumber : Option String
  originatingAmount : Money
  settledAmount : Money
  residualAmount : Money
  settlementStatus : SettlementStatus
  originating_pos : 0 < originatingAmount
  settled_nonneg : 0 ≤ settledAmount
  residual_eq : residualAmount = originatingAmount - settledAmount
  residual_nonneg : 0 ≤ residualAmount
  deriving DecidableEq

/-- The rows, one for each receipt. -/
abbrev Settlements := OrderedMap ReceiptKey ReceiptSettlement

/-- A row of `receipt_settlement_applications`. -/
structure SettlementApplication where
  receipt : ReceiptKey
  treasuryDocumentId : DocumentId
  treasuryDocumentLineId : LineId
  amount : Money
  /-- `reversed_at` is set. -/
  reversed : Bool
  deriving DecidableEq

namespace ReceiptSettlement

variable (s : ReceiptSettlement)

theorem settled_le_originating : s.settledAmount ≤ s.originatingAmount := by
  have h := s.residual_nonneg
  rw [s.residual_eq] at h
  exact sub_nonneg.mp h

/-- An update of the three columns, within the constraints of the table. -/
def update (settled residual : Money) (status : SettlementStatus) :
    Except TreasuryError ReceiptSettlement :=
  if h : 0 ≤ settled ∧ residual = s.originatingAmount - settled ∧ 0 ≤ residual then
    .ok
      { sourceNumber := s.sourceNumber
        originatingAmount := s.originatingAmount
        settledAmount := settled
        residualAmount := residual
        settlementStatus := status
        originating_pos := s.originating_pos
        settled_nonneg := h.1
        residual_eq := h.2.1
        residual_nonneg := h.2.2 }
  else .error (.database "chk_receipt_settlement_residual")

/-- A successful update writes the settled amount and keeps what was received. -/
theorem update_ok {s s' : ReceiptSettlement} {settled residual : Money}
    {status : SettlementStatus} (h : s.update settled residual status = .ok s') :
    s'.settledAmount = settled ∧ s'.originatingAmount = s.originatingAmount ∧
      s'.settlementStatus = status := by
  unfold update at h
  split at h
  · cases h
    exact ⟨rfl, rfl, rfl⟩
  · cases h

end ReceiptSettlement

/-! ## Applying a line -/

/-- `statusFor`. -/
def statusFor (settled residual : ℚ) : SettlementStatus :=
  if residual ≤ 9 / 1000 then .SETTLED
  else if 9 / 1000 < settled then .PARTIALLY_SETTLED
  else .UNSETTLED

/-- What an error adds about the receipt, where it has a label. -/
def labelText (before after : String) (sourceLabel : Option String) : String :=
  match sourceLabel.filter fun label => label ≠ "" with
  | some label => before ++ label ++ after
  | none => ""

/-- `assertDepositConsumesUnsettled`. -/
def assertDepositConsumesUnsettled (s : ReceiptSettlement) (sourceLabel : Option String) :
    Except TreasuryError Unit := do
  let _ ← require (9 / 1000 < roundMoney s.residualAmount.toRat)
    (.validation ("Receipt has no unsettled residual" ++ labelText " (" ")" sourceLabel))
  require (s.settlementStatus = .UNSETTLED ∨ s.settlementStatus = .PARTIALLY_SETTLED)
    (.validation ("Deposit Worksheet can only consume unsettled receipts; status=SETTLED" ++
      labelText " (" ")" sourceLabel))

/-- `assertSettlementCeiling`. -/
def assertSettlementCeiling (applyAmount : ℚ) (s : ReceiptSettlement)
    (sourceLabel : Option String) : Except TreasuryError Unit := do
  let apply := roundMoney applyAmount
  let residual := roundMoney s.residualAmount.toRat
  let _ ← require (0 < apply) (.validation "Settlement amount must be greater than zero")
  require (apply - residual ≤ 9 / 1000)
    (.validation ("Settlement " ++ decimalText apply ++ " exceeds residual " ++
      decimalText residual ++ labelText " for " "" sourceLabel))

/-- The update of `applySettlement` on a locked row. -/
def ReceiptSettlement.apply (s : ReceiptSettlement) (inputAmount : ℚ)
    (sourceLabel : Option String) : Except TreasuryError ReceiptSettlement := do
  assertDepositConsumesUnsettled s (sourceLabel <|> s.sourceNumber)
  assertSettlementCeiling inputAmount s (sourceLabel <|> s.sourceNumber)
  let amount := roundMoney inputAmount
  let settledAmount := roundMoney (s.settledAmount.toRat + amount)
  let residualAmount := roundMoney (s.originatingAmount.toRat - settledAmount)
  s.update (.ofRat settledAmount) (.ofRat residualAmount) (statusFor settledAmount residualAmount)

/-- The update of `reverseApplicationsForDocument`. -/
def ReceiptSettlement.release (s : ReceiptSettlement) (amount : Money) :
    Except TreasuryError ReceiptSettlement :=
  let settled := s.settledAmount - amount
  let residual := s.residualAmount + amount
  s.update settled residual
    (if settled.toRat ≤ 9 / 1000 then .UNSETTLED
    else if residual.toRat ≤ 9 / 1000 then .SETTLED
    else .PARTIALLY_SETTLED)

/-- Applying an amount of whole cents adds it to what is settled. -/
theorem ReceiptSettlement.apply_ok {s s' : ReceiptSettlement} {amount : Money}
    {sourceLabel : Option String} (h : s.apply amount.toRat sourceLabel = .ok s') :
    s'.settledAmount = s.settledAmount + amount ∧ s'.originatingAmount = s.originatingAmount ∧
      0 < amount := by
  unfold ReceiptSettlement.apply assertSettlementCeiling at h
  simp only [bind_eq_ok, require_eq_ok] at h
  obtain ⟨-, -, -, ⟨-, hpos, -⟩, hupdate⟩ := h
  obtain ⟨hsettled, hkept, -⟩ := ReceiptSettlement.update_ok hupdate
  rw [roundMoney_toRat] at hpos hsettled
  rw [← Numeric.toRat_add, roundMoney_toRat, Numeric.ofRat_toRat] at hsettled
  exact ⟨hsettled, hkept, Numeric.toRat_pos_iff.mp hpos⟩

/-- Releasing an amount takes it from what is settled. -/
theorem ReceiptSettlement.release_ok {s s' : ReceiptSettlement} {amount : Money}
    (h : s.release amount = .ok s') :
    s'.settledAmount = s.settledAmount - amount ∧
      s'.originatingAmount = s.originatingAmount := by
  obtain ⟨hsettled, hkept, -⟩ := ReceiptSettlement.update_ok h
  exact ⟨hsettled, hkept⟩

/-! ## The receipt lines of a worksheet -/

/-- The lines that apply receipts. -/
def receiptLines (lines : DocumentLines) : DocumentLines :=
  lines.filter fun line => decide (line.2.lineType = .RECEIPT_APPLICATION)

/-- The receipt a line is about: the one its memo names, a payment, or a deposit. -/
def receiptOf (line : DocumentLine) : Option ReceiptKey :=
  match line.memo, line.sourcePaymentId, line.sourceReceiptId with
  | some receipt, _, _ => some receipt
  | none, some paymentId, _ => some ⟨.AR_CUSTOMER_PAYMENT, paymentId⟩
  | none, none, some receiptId => some ⟨.CUSTOMER_DEPOSIT, receiptId⟩
  | none, none, none => none

/-- `line.creditAmount || line.amount`. -/
def receiptAmount (line : DocumentLine) : Money :=
  if line.creditAmount = 0 then line.amount else line.creditAmount

/-- The application of a line. -/
def applicationOf (documentId : DocumentId) (line : LineId × DocumentLine)
    (receipt : ReceiptKey) : SettlementApplication where
  receipt := receipt
  treasuryDocumentId := documentId
  treasuryDocumentLineId := line.1
  amount := .ofRat (roundMoney (roundMoney (receiptAmount line.2).toRat))
  reversed := false

theorem applicationOf_amount (documentId : DocumentId) (line : LineId × DocumentLine)
    (receipt : ReceiptKey) :
    (applicationOf documentId line receipt).amount = receiptAmount line.2 := by
  change Numeric.ofRat (roundMoney (roundMoney (receiptAmount line.2).toRat)) = _
  rw [roundMoney_toRat, roundMoney_toRat, Numeric.ofRat_toRat]

/-- What applications of one receipt add up to. -/
def amountOn (applications : List SettlementApplication) (receipt : ReceiptKey) : Money :=
  ((applications.filter fun a => decide (a.receipt = receipt)).map (·.amount)).sum

@[simp] theorem amountOn_nil (receipt : ReceiptKey) : amountOn [] receipt = 0 := rfl

theorem amountOn_append (xs ys : List SettlementApplication) (receipt : ReceiptKey) :
    amountOn (xs ++ ys) receipt = amountOn xs receipt + amountOn ys receipt := by
  unfold amountOn
  rw [List.filter_append, List.map_append, List.sum_append]

theorem amountOn_singleton (a : SettlementApplication) (receipt : ReceiptKey) :
    amountOn [a] receipt = if a.receipt = receipt then a.amount else 0 := by
  unfold amountOn
  by_cases h : a.receipt = receipt
  · simp [h]
  · simp [h]

/-- The applications that have not been reversed. -/
def activeApplications (applications : List SettlementApplication) :
    List SettlementApplication :=
  applications.filter fun a => !a.reversed

/-- Applications that are added are active. -/
theorem activeApplications_append {xs ys : List SettlementApplication}
    (hactive : ∀ a ∈ ys, a.reversed = false) :
    activeApplications (xs ++ ys) = activeApplications xs ++ ys := by
  have hall : ys.filter (fun a => !a.reversed) = ys := by
    refine List.filter_eq_self.mpr fun a ha => ?_
    rw [hactive a ha]
    rfl
  unfold activeApplications
  rw [List.filter_append, hall]

end SmartErpPos.Treasury
