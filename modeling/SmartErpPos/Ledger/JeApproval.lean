/-
  Ledger/JeApproval.lean --- parking a posted journal until it is approved.

  Source: `modules/je-approval/jeApprovalService.ts`.

  A journal is posted first.  Submitting it looks for the rule of the amount the caller names:
  without a rule, or with an automatic one, the journal is approved at once; else its status
  becomes `DRAFT`.  A review sets it back to `POSTED`, or leaves it.  The rows of the period
  balances follow by rebuilds that run after the commit.
-/
import SmartErpPos.Ledger.AccountingCore

set_option autoImplicit false

namespace SmartErpPos.Ledger

open SmartErpPos.Lib

abbrev ApprovalRuleId := ℕ
abbrev ApprovalRequestId := ℕ

/-! ## Tables -/

/-- A row of `je_approval_rules`. -/
structure ApprovalRule where
  name : String
  minAmount : Numeric 2
  maxAmount : Option (Numeric 2)
  requiredRole : String
  autoApprove : Bool
  isActive : Bool
  deriving DecidableEq

inductive ApprovalStatus where
  | PENDING
  | APPROVED
  | REJECTED
  deriving DecidableEq

def ApprovalStatus.text : ApprovalStatus → String
  | .PENDING => "PENDING"
  | .APPROVED => "APPROVED"
  | .REJECTED => "REJECTED"

/-- A row of `je_approval_requests`. -/
structure ApprovalRequest where
  transactionId : TransactionId
  requestedBy : String
  status : ApprovalStatus
  totalAmount : Numeric 2
  approvalRuleId : Option ApprovalRuleId
  reviewedBy : Option String
  reviewNotes : Option String
  deriving DecidableEq

/-- The ledger, the rules and the requests, and the rebuilds that are scheduled.
`nextRequest` is the first unused request id. -/
structure ApprovalDb where
  ledger : LedgerDb
  rules : OrderedMap ApprovalRuleId ApprovalRule
  requests : OrderedMap ApprovalRequestId ApprovalRequest
  nextRequest : ApprovalRequestId
  outstanding : List PeriodKey

inductive ApprovalError where
  | notFound (message : String)
  | validation (message : String)
  deriving DecidableEq

/-! ## Statements -/

/-- `UPDATE ledger_transactions SET "Status"`, whatever it was. -/
def setStatus (db : LedgerDb) (id : TransactionId) (status : TransactionStatus) : LedgerDb :=
  { db with transactions := db.transactions.modify id fun row => { row with status := status } }

/-- The accounts and months of `scheduleGlRebuildForTransaction`. -/
def transactionKeys (db : LedgerDb) (id : TransactionId) : List PeriodKey :=
  match db.transactions.get? id with
  | none => []
  | some row =>
    ((entriesOf db id).map fun e => PeriodKey.of e.accountId row.transactionDate).eraseDups

/-- `findApplicableRule`: of the active rules for an amount, one with the greatest minimum. -/
def findApplicableRule (rules : OrderedMap ApprovalRuleId ApprovalRule) (amount : ℚ) :
    Option (ApprovalRuleId × ApprovalRule) :=
  ((rules.entries.filter fun e => e.2.isActive && decide (e.2.minAmount.toRat ≤ amount) &&
    e.2.maxAmount.all fun max => amount ≤ max.toRat).insertionSort fun a b =>
      b.2.minAmount ≤ a.2.minAmount).head?

/-- A new row of `je_approval_requests`. -/
def insertRequest (db : ApprovalDb) (request : ApprovalRequest) : ApprovalDb :=
  { db with
    requests := db.requests.set db.nextRequest request
    nextRequest := db.nextRequest + 1 }

/-! ## The service -/

/-- No rule, or an automatic one: approved at once. -/
def autoApprove (db : ApprovalDb) (transactionId : TransactionId) (totalAmount : ℚ)
    (requestedBy : String) (rule : Option (ApprovalRuleId × ApprovalRule)) : ApprovalDb :=
  insertRequest { db with ledger := setStatus db.ledger transactionId .POSTED }
    { transactionId := transactionId
      requestedBy := requestedBy
      status := .APPROVED
      totalAmount := Numeric.ofRat totalAmount
      approvalRuleId := rule.map (·.1)
      reviewedBy := some requestedBy
      reviewNotes := some ("Auto-approved per rule: " ++
        orText (rule.map (·.2.name)) "No rule applies") }

/-- Parked until a review. -/
def park (db : ApprovalDb) (transactionId : TransactionId) (totalAmount : ℚ)
    (requestedBy : String) (ruleId : ApprovalRuleId) : ApprovalDb :=
  insertRequest
    { db with
      ledger := setStatus db.ledger transactionId .DRAFT
      outstanding := db.outstanding ++ transactionKeys db.ledger transactionId }
    { transactionId := transactionId
      requestedBy := requestedBy
      status := .PENDING
      totalAmount := Numeric.ofRat totalAmount
      approvalRuleId := some ruleId
      reviewedBy := none
      reviewNotes := none }

/-- `submitForApproval`. -/
def submitForApproval (db : ApprovalDb) (transactionId : TransactionId) (totalAmount : ℚ)
    (requestedBy : String) : ApprovalDb :=
  match findApplicableRule db.rules totalAmount with
  | none => autoApprove db transactionId totalAmount requestedBy none
  | some rule =>
    if rule.2.autoApprove then autoApprove db transactionId totalAmount requestedBy (some rule)
    else park db transactionId totalAmount requestedBy rule.1

inductive ApprovalDecision where
  | APPROVE
  | REJECT
  deriving DecidableEq

/-- The request after a review. -/
def ApprovalRequest.reviewed (request : ApprovalRequest) (decision : ApprovalDecision)
    (reviewedBy : String) (notes : Option String) : ApprovalRequest :=
  { request with
    status := match decision with
      | .APPROVE => .APPROVED
      | .REJECT => .REJECTED
    reviewedBy := some reviewedBy
    reviewNotes := notes.filter fun text => text ≠ "" }

/-- `reviewApproval`.  A rejected journal stays as it is. -/
def reviewApproval (db : ApprovalDb) (requestId : ApprovalRequestId) (decision : ApprovalDecision)
    (reviewedBy : String) (notes : Option String) : Except ApprovalError ApprovalDb := do
  let request ← orThrow (db.requests.get? requestId) (.notFound "Approval request")
  let _ ← require (request.status = .PENDING)
    (.validation ("Request already " ++ request.status.text))
  let reviewed :=
    { db with requests := db.requests.set requestId (request.reviewed decision reviewedBy notes) }
  let posted :=
    { reviewed with
      ledger := setStatus db.ledger request.transactionId .POSTED
      outstanding := db.outstanding ++ transactionKeys db.ledger request.transactionId }
  match decision with
  | .REJECT => pure reviewed
  | .APPROVE => pure posted

end SmartErpPos.Ledger
