/-
  Ledger/Governance.lean --- which journals may be posted.

  Sources: `services/postingGovernanceService.ts`, and `apJournalGovernance.ts` and
  `arJournalGovernance.ts` of `modules/accounting-governance`; the rules for
  inventory, cash and bank journals in the same folder are still empty.

  The rules are hard blocks: the first one that a journal breaks rejects it.
-/
import SmartErpPos.Lib.JsText
import SmartErpPos.Ledger.Types

set_option autoImplicit false

namespace SmartErpPos.Ledger

open SmartErpPos.Lib

/-! ## Keys and tags -/

/-- `\d{4}-\d{2}-\d{2}` and nothing else. -/
def isDateText (chars : List Char) : Bool :=
  match chars with
  | [a, b, c, d, s, e, f, t, g, h] =>
    ([a, b, c, d, e, f, g, h].all Char.isDigit) && s == '-' && t == '-'
  | _ => false

/-- `^<stem>\d{4}-\d{2}-\d{2}$`. -/
def isDatedKey (stem key : String) : Bool :=
  jsStartsWith stem key && isDateText (key.toList.drop stem.toList.length)

/-- The keys of the inventory drift heal. -/
def isApprovedInventoryDriftHealKey (key : String) : Bool :=
  isDatedKey "INV-GL-DRIFT-HEAL-" key || isDatedKey "inventory-gl-drift-fix-" key

/-- The line is tagged with an entity of the given type. -/
def JournalLine.hasEntity (line : JournalLine) (entityType : String) : Bool :=
  decide (line.entityType.map (fun t => t.toList.map Char.toLower) = some entityType.toList) &&
    (trimmedText line.entityId).isSome

/-- A `PostingGovernanceError`: the message repeats the code. -/
def governanceError (code message : String) : LedgerError :=
  .governance code ("[" ++ code ++ "] " ++ message)

/-- The first account with a code. -/
def findAccount (accounts : List AccountRow) (code : String) : Option AccountRow :=
  accounts.find? fun a => a.accountCode = code

def AccountRow.label (account : AccountRow) : String :=
  account.accountCode ++ " (" ++ account.accountName ++ ")"

/-- Some line on the given side has an account that satisfies `p`. -/
def someLine (accounts : List AccountRow) (lines : List JournalLine) (side : JournalLine → Bool)
    (p : AccountRow → Bool) : Bool :=
  lines.any fun line => side line && (findAccount accounts line.accountCode).any p

/-- The account carries the tag. -/
def AccountRow.tagged (account : AccountRow) (tag : String) : Bool :=
  account.systemAccountTag = some tag

/-- The account carries one of the tags or has one of the codes. -/
def AccountRow.taggedOr (account : AccountRow) (tags codes : List String) : Bool :=
  tags.any account.tagged || codes.contains account.accountCode

/-! ## Rules on one line -/

/-- Rule A: a manual entry stays on the normal side of a system account. -/
def ruleA (source : PostingSource) (account : AccountRow) (line : JournalLine) :
    Except LedgerError Unit := do
  let guarded := decide (source = .MANUAL_JOURNAL) && account.systemAccountTag.isSome
  let tag := account.systemAccountTag.getD ""
  let _ ← require (¬ (guarded = true ∧ account.normalBalance = .DEBIT ∧ line.isCredit = true ∧
      line.isDebit = false))
    (governanceError "GOV_RULE_A_NORMAL_BALANCE" ("Account " ++ account.label ++
      " is a debit-normal system account. Manual credit entries are not permitted. " ++
      "Normal balance: DEBIT, tag: " ++ tag ++ "."))
  let _ ← require (¬ (guarded = true ∧ account.normalBalance = .CREDIT ∧ line.isDebit = true ∧
      line.isCredit = false))
    (governanceError "GOV_RULE_A_NORMAL_BALANCE" ("Account " ++ account.label ++
      " is a credit-normal system account. Manual debit entries are not permitted. " ++
      "Normal balance: CREDIT, tag: " ++ tag ++ "."))
  pure ()

/-- Sources whose journals Rule E checks as a whole. -/
def paymentSources : List PostingSource :=
  [.PAYMENT_RECEIPT, .TILL_RECEIPT, .PAYMENT_DEPOSIT, .DEPOSIT_APPLICATION, .TREASURY_DEPOSIT,
    .TREASURY_TRANSFER, .TREASURY_PETTY_CASH, .BANK_MANUAL]

def cutoverSources : List PostingSource := [.CUTOVER_CORRECTION, .CUTOVER_OB]

/-- Rule B: the account lists the source, when it lists any. -/
def ruleB (source : PostingSource) (account : AccountRow) (line : JournalLine) :
    Except LedgerError Unit := do
  let exempt := paymentSources.contains source || cutoverSources.contains source ||
    (account.tagged "CASH" && line.isCredit) ||
    (!account.allowManualPosting && decide (source = .MANUAL_JOURNAL))
  let _ ← require (exempt = true ∨ account.allowedSources = [] ∨ source ∈ account.allowedSources)
    (governanceError "GOV_RULE_B_SOURCE_NOT_ALLOWED" ("Source '" ++ source.text ++
      "' is not permitted to post to account " ++ account.label ++ ". Allowed sources: [" ++
      String.intercalate ", " (account.allowedSources.map PostingSource.text) ++ "]."))
  pure ()

/-- Rule C: no manual entries on accounts that forbid them, except debits of cash. -/
def ruleC (source : PostingSource) (account : AccountRow) (line : JournalLine) :
    Except LedgerError Unit := do
  let isCashDebitOnly := account.tagged "CASH" && line.isDebit && !line.isCredit
  let _ ← require (account.allowManualPosting = true ∨ source ≠ .MANUAL_JOURNAL ∨
      isCashDebitOnly = true)
    (governanceError "GOV_RULE_C_NO_MANUAL_POSTING" ("Account " ++ account.label ++
      " does not allow manual journal entries. " ++
      "This account is system-controlled. Use the appropriate module to post to it."))
  pure ()

/-- The first pass over the lines.  An unknown account is reported later. -/
def checkLine (source : PostingSource) (accounts : List AccountRow) (line : JournalLine) :
    Except LedgerError Unit :=
  match findAccount accounts line.accountCode with
  | none => pure ()
  | some account => do
    ruleA source account line
    ruleB source account line
    ruleC source account line

/-- A rule on the lines that touch an account with a tag: the source must be listed. -/
def restrictTag (tag : String) (sources : List PostingSource) (side : JournalLine → Bool)
    (error : AccountRow → LedgerError) (source : PostingSource) (accounts : List AccountRow)
    (line : JournalLine) : Except LedgerError Unit :=
  match findAccount accounts line.accountCode with
  | none => pure ()
  | some account =>
    require (¬ (side line = true ∧ account.tagged tag = true ∧ source ∉ sources)) (error account)

/-- The line has an amount. -/
def JournalLine.touches (line : JournalLine) : Bool := line.isDebit || line.isCredit

def cashCreditSources : List PostingSource :=
  [.PAYMENT_DEPOSIT, .SUPPLIER_PAYMENT, .EXPENSE_PAYMENT, .SALES_REFUND, .SYSTEM_CORRECTION,
    .CUTOVER_CORRECTION, .WHT_REMITTANCE, .VAT_REMITTANCE, .TREASURY_DEPOSIT, .TREASURY_TRANSFER,
    .TREASURY_PETTY_CASH, .TREASURY_REVERSAL, .BANK_MANUAL, .CASH_VARIANCE, .OWNERSHIP_EQUITY]

/-- Rule D: who may credit cash. -/
def ruleD (source : PostingSource) : List AccountRow → JournalLine → Except LedgerError Unit :=
  restrictTag "CASH" cashCreditSources JournalLine.isCredit (fun account =>
    governanceError "GOV_RULE_D_CASH_CREDIT" ("Cannot credit Cash account " ++ account.label ++
      " from source '" ++ source.text ++ "'. " ++
      "Cash may only be credited by a bank deposit (PAYMENT_DEPOSIT), treasury document " ++
      "(TREASURY_*), manual bank withdrawal (BANK_MANUAL), supplier payment (SUPPLIER_PAYMENT), " ++
      "WHT remittance (WHT_REMITTANCE), VAT remittance (VAT_REMITTANCE), sale refund " ++
      "(SALES_REFUND), cash variance / till shortage charge (CASH_VARIANCE), ownership dividend " ++
      "or loan repayment (OWNERSHIP_EQUITY), or system correction.")) source

/-- Rule F: who may touch the cost of goods sold. -/
def ruleF (source : PostingSource) : List AccountRow → JournalLine → Except LedgerError Unit :=
  restrictTag "COGS" [.INVENTORY_MOVE, .SALES_INVOICE, .SALES_REFUND, .SYSTEM_CORRECTION]
    JournalLine.touches (fun account =>
    governanceError "GOV_RULE_F_COGS_RESTRICTED" ("Account " ++ account.label ++
      " is the Cost of Goods Sold account. " ++
      "Only inventory movements (INVENTORY_MOVE, SALES_INVOICE, SALES_REFUND) may post to COGS. " ++
      "Received source: '" ++ source.text ++ "'.")) source

/-- Rule G: who may touch the opening balance equity. -/
def ruleG (source : PostingSource) : List AccountRow → JournalLine → Except LedgerError Unit :=
  restrictTag "OPENING_BALANCE_EQUITY"
    [.OPENING_BALANCE_WIZARD, .CUTOVER_OB, .CUTOVER_CORRECTION, .SYSTEM_CORRECTION]
    JournalLine.touches (fun account =>
    governanceError "GOV_RULE_G_OBE_RESTRICTED" ("Account " ++ account.label ++
      " is the Opening Balance Equity account. " ++
      "It can only be posted via the Opening Balance Wizard (OPENING_BALANCE_WIZARD), " ++
      "a cutover entry (CUTOVER_OB, CUTOVER_CORRECTION), or system correction. " ++
      "Received source: '" ++ source.text ++ "'.")) source

/-- Rule H: who may touch inventory; a system correction needs a heal key. -/
def ruleH (source : PostingSource) (idempotencyKey : String) (accounts : List AccountRow)
    (line : JournalLine) : Except LedgerError Unit := do
  restrictTag "INVENTORY" [.INVENTORY_MOVE, .SYSTEM_CORRECTION, .OPENING_BALANCE_WIZARD]
    JournalLine.touches (fun account =>
    governanceError "GOV_RULE_H_INVENTORY_STRICT" ("Account " ++ account.label ++
      " is SAP-controlled Inventory. " ++
      "Only the inventory movement engine (INVENTORY_MOVE), SYSTEM_CORRECTION, " ++
      "or OPENING_BALANCE_WIZARD may post to it. Received source: '" ++ source.text ++ "'. " ++
      "If this is a sale/GR/return flow, route the inventory leg through the " ++
      "INVENTORY_MOVE engine instead of bundling it into a business-document journal."))
    source accounts line
  let inventory := line.touches && (findAccount accounts line.accountCode).any (·.tagged "INVENTORY")
  require (¬ (inventory = true ∧ source = .SYSTEM_CORRECTION ∧
      isApprovedInventoryDriftHealKey idempotencyKey = false))
    (governanceError "GOV_RULE_H_INVENTORY_HEAL_ONLY"
      ("SYSTEM_CORRECTION cannot post to Inventory (1300) except via the " ++
      "approved inventory drift heal workflow (idempotency key INV-GL-DRIFT-HEAL-YYYY-MM-DD). " ++
      "Received key: '" ++ idempotencyKey ++ "'."))

/-! ## Rule E: the structure of payments -/

/-- The accounts a customer deposit is owed on. -/
def isCustomerDeposits (account : AccountRow) : Bool :=
  account.taggedOr ["CUSTOMER_DEPOSITS"] ["2200"]

/-- The accounts a deposit may arrive on. -/
def isLiquidity (account : AccountRow) : Bool :=
  account.taggedOr ["CASH", "BANK", "MOBILE_MONEY", "PETTY_CASH", "CARD_CLEARING"] ["1010", "1030"]

/-- Rule E, for each source that has one. -/
def ruleE (source : PostingSource) (accounts : List AccountRow) (lines : List JournalLine) :
    Except LedgerError Unit :=
  let debits := someLine accounts lines JournalLine.isDebit
  let credits := someLine accounts lines JournalLine.isCredit
  let creditsAR := credits (·.tagged "ACCOUNTS_RECEIVABLE")
  match source with
  | .PAYMENT_RECEIPT => do
    let _ ← require (debits (·.tagged "UNDEPOSITED_FUNDS") = true)
      (governanceError "GOV_RULE_E_RECEIPT_STRUCTURE"
        ("PAYMENT_RECEIPT must debit Undeposited Funds (tag: UNDEPOSITED_FUNDS). " ++
        "Payments must flow through the clearing account before reaching the bank."))
    require (creditsAR = true ∨ credits isCustomerDeposits = true)
      (governanceError "GOV_RULE_E_RECEIPT_STRUCTURE"
        ("PAYMENT_RECEIPT must credit Accounts Receivable (tag: ACCOUNTS_RECEIVABLE) " ++
        "or Customer Deposits (2200). Invoice payments reduce AR; " ++
        "advances increase deposit liability."))
  | .TILL_RECEIPT =>
    require (debits (fun a => a.accountCode = "1010" && a.tagged "CASH") = true ∧
        creditsAR = true ∧ debits (·.tagged "UNDEPOSITED_FUNDS") = false)
      (governanceError "GOV_RULE_E_TILL_RECEIPT_STRUCTURE"
        ("TILL_RECEIPT must debit Cash Drawer 1010 and credit Accounts Receivable. " ++
        "Till collections must not debit Undeposited Funds (1015)."))
  | .DEPOSIT_APPLICATION =>
    require (debits isCustomerDeposits = true ∧ creditsAR = true)
      (governanceError "GOV_RULE_E_DEPOSIT_APPLICATION_STRUCTURE"
        ("DEPOSIT_APPLICATION must debit Customer Deposits (2200) and credit Accounts Receivable. " ++
        "This clears prepayment liability against sale AR — it is not a cash receipt."))
  | .PAYMENT_DEPOSIT | .TREASURY_DEPOSIT => do
    let _ ← require (debits isLiquidity = true)
      (governanceError "GOV_RULE_E_DEPOSIT_STRUCTURE" (source.text ++
        " must debit a Cash/Bank account. " ++
        "Bank deposit moves money from Undeposited Funds to Cash/Bank."))
    require (credits (·.taggedOr ["UNDEPOSITED_FUNDS"] ["1015"]) = true)
      (governanceError "GOV_RULE_E_DEPOSIT_STRUCTURE" (source.text ++
        " must credit Undeposited Funds (1015). " ++
        "Bank deposit clears the Undeposited Funds balance."))
  | _ => pure ()

/-- `PostingGovernanceService.validate`. -/
def validatePosting (source : PostingSource) (lines : List JournalLine)
    (accounts : List AccountRow) (idempotencyKey : String) : Except LedgerError Unit := do
  lines.forM (checkLine source accounts)
  lines.forM (ruleD source accounts)
  ruleE source accounts lines
  lines.forM (ruleF source accounts)
  lines.forM (ruleG source accounts)
  lines.forM (ruleH source idempotencyKey accounts)

/-! ## Payables and receivables -/

/-- The line has more than 0.009 on a side. -/
def JournalLine.substantial (line : JournalLine) : Bool :=
  decide (9 / 1000 < line.debitAmount) || decide (9 / 1000 < line.creditAmount)

/-- The reference types of corrections. -/
def isCorrection (referenceType : String) : Bool :=
  referenceType = "CORRECTION" || referenceType = "SYSTEM_CORRECTION"

/-- `validateApJournalPosting`. -/
def validateApJournalPosting (request : JournalEntryRequest) : Except LedgerError Unit := do
  let touchesAp := fun line : JournalLine => line.accountCode = "2100" && line.substantial
  let _ ← require (¬ (request.referenceType = "RETURN_GRN" ∧ request.lines.any touchesAp = true))
    (governanceError "GOV_RULE_I_AP_RETURN_GRN"
      ("RETURN_GRN must not post to Accounts Payable (2100). " ++
      "Use Supplier Return Clearing (2160) or GR/IR (2150), then create a Supplier Credit Note."))
  let _ ← require (¬ (request.referenceType = "GOODS_RECEIPT" ∧ request.lines.any (fun line =>
      line.accountCode = "2100" && decide (9 / 1000 < line.creditAmount)) = true))
    (governanceError "GOV_RULE_I_AP_GOODS_RECEIPT"
      "GOODS_RECEIPT must not credit Accounts Payable (2100). Post to GR/IR Clearing (2150).")
  let _ ← require (jsStartsWith "AP-DRIFT-HEAL-" request.idempotencyKey = false)
    (governanceError "GOV_RULE_I_AP_DRIFT_HEAL_DISABLED"
      ("Global AP drift heal journals are disabled. " ++
      "Decompose drift per supplier/document (proof-ap-drift-decompose) and fix at source."))
  require (¬ (isCorrection request.referenceType = true ∧ request.lines.any (fun line =>
      touchesAp line && !line.hasEntity "supplier") = true))
    (governanceError "GOV_RULE_I_AP_CORRECTION_ENTITY"
      ("CORRECTION on Accounts Payable (2100) requires entityType=supplier and entityId. " ++
      "Untagged AP adjustments break supplier subledger reconciliation."))

/-- `AR_GOVERNANCE_MODE`. -/
inductive ArGovernanceMode where
  | off
  | warn
  | enforce
  deriving DecidableEq

/-- `validateArJournalPostingEntity`: every line on 1200 names its customer. -/
def validateArJournalPostingEntity (source : PostingSource) (request : JournalEntryRequest) :
    Except LedgerError Unit :=
  let untagged := request.lines.any fun line =>
    line.accountCode = "1200" && line.substantial && !line.hasEntity "customer"
  if source = .CUTOVER_OB ∨ source = .OPENING_BALANCE_WIZARD ∨ untagged = false then pure ()
  else if isCorrection request.referenceType = true ∧ request.idempotencyKey ≠ "" then
    .error (governanceError "GOV_RULE_I_AR_CORRECTION_ENTITY"
      "CORRECTION on Accounts Receivable (1200) requires entityType=customer and entityId.")
  else
    .error (governanceError "GOV_RULE_I_AR_ENTITY_REQUIRED"
      ("AR journal missing customer attribution. " ++
      "Every line on account 1200 requires entityType=customer and entityId."))

/-- `validateArJournalPosting`; the mode `warn` only logs. -/
def validateArJournalPosting (mode : ArGovernanceMode) (source : PostingSource)
    (request : JournalEntryRequest) : Except LedgerError Unit := do
  let _ ← require (jsStartsWith "AR-DRIFT-HEAL-" request.idempotencyKey = false)
    (governanceError "GOV_RULE_I_AR_DRIFT_HEAL_DISABLED"
      ("Global AR drift heal journals are disabled. " ++
      "Fix posting paths at source; use Migration 534 for one-time metadata backfill."))
  if mode = .enforce then validateArJournalPostingEntity source request else pure ()

/-- `validateJournal`. -/
def validateJournal (mode : ArGovernanceMode) (source : PostingSource)
    (request : JournalEntryRequest) : Except LedgerError Unit := do
  validateApJournalPosting request
  validateArJournalPosting mode source request

end SmartErpPos.Ledger
