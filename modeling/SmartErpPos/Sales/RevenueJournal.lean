/-
  Sales/RevenueJournal.lean --- the lines of the revenue journal of a sale.

  Sources: `recordSaleToGL` of `services/glEntryService.ts` (the journal with source
  `SALES_INVOICE`), `shouldSkipSaleRevenueJournal` and `giftCoveredAmount` of
  `src/shared/domain/saleGiftFocSsot.ts`, and `customerArLine`, `requireCustomerIdForAr` of
  `modules/accounting-governance/arPostingHelpers.ts`.

  The items are revenue before a discount on the cart, so the discount is taken out of
  both revenue accounts in proportion.  What is given away is no revenue, and the tax is
  read off what is left between the amount billed and the revenue.
-/
import SmartErpPos.Ledger.AccountingCore
import SmartErpPos.Sales.TenderAllocation

set_option autoImplicit false

namespace SmartErpPos.Sales

open SmartErpPos.Lib SmartErpPos.Ledger

/-! ## Accounts -/

def CASH : String := "1010"
def CREDIT_CARD_RECEIPTS : String := "1020"
def CHECKING_ACCOUNT : String := "1030"
def MOBILE_MONEY : String := "1040"
def ACCOUNTS_RECEIVABLE : String := "1200"
def TAX_PAYABLE : String := "2300"
def SALES_REVENUE : String := "4000"
def SERVICE_REVENUE : String := "4100"

/-! ## The sale -/

inductive SaleProductType where
  | inventory
  | consumable
  | service
  deriving DecidableEq

structure SaleItemData where
  productType : SaleProductType
  totalPrice : ℚ

/-- `SaleData`, without the costs, which go to a journal of their own. -/
structure SaleData where
  saleNumber : String
  totalAmount : ℚ
  paymentMethod : PaymentMethod
  amountPaid : ℚ
  paymentLines : List PaymentLine
  giftAmount : ℚ
  taxAmount : ℚ
  customerId : Option String
  customerName : Option String
  saleItems : List SaleItemData

/-- `giftCoveredAmount`, with the gift amount of the sale. -/
def SaleData.giftCovered (sale : SaleData) : ℚ :=
  if sale.paymentLines.isEmpty ∧ 0 < sale.giftAmount then sale.giftAmount
  else giftCoveredAmount sale.paymentMethod sale.paymentLines sale.totalAmount

def SaleData.billedTotal (sale : SaleData) : ℚ := sale.totalAmount - sale.giftCovered

/-- `shouldSkipSaleRevenueJournal`. -/
def SaleData.skipRevenueJournal (sale : SaleData) : Bool :=
  isPureGiftSale sale.paymentMethod sale.paymentLines

/-! ## Revenue -/

structure Revenue where
  inventory : ℚ
  service : ℚ
  deriving DecidableEq

/-- The items by kind, before the discount. -/
def SaleData.grossRevenue (sale : SaleData) : Revenue where
  inventory := ((sale.saleItems.filter fun item => decide (item.productType ≠ .service)).map
    (·.totalPrice)).sum
  service := ((sale.saleItems.filter fun item => decide (item.productType = .service)).map
    (·.totalPrice)).sum

/-- What the items come to beyond the total without its tax. -/
def SaleData.discountAmount (sale : SaleData) : ℚ :=
  let gross := sale.grossRevenue
  let pretaxBase :=
    if 0 < sale.taxAmount then sale.totalAmount - sale.taxAmount else sale.totalAmount
  gross.inventory + gross.service - pretaxBase

/-- The revenue after the discount. -/
def SaleData.netRevenue (sale : SaleData) : Revenue :=
  if sale.saleItems.isEmpty then ⟨sale.totalAmount, 0⟩
  else
    let gross := sale.grossRevenue
    let grossTotal := gross.inventory + gross.service
    if 1 / 100 < sale.discountAmount ∧ 0 < grossTotal then
      let discountRatio := sale.discountAmount / grossTotal
      ⟨roundTo 2 (gross.inventory - gross.inventory * discountRatio),
        roundTo 2 (gross.service - gross.service * discountRatio)⟩
    else gross

/-- The billed part of the revenue, where part of the sale is given away. -/
def SaleData.billedRevenue (sale : SaleData) : Revenue :=
  let net := sale.netRevenue
  if 9 / 1000 < sale.giftCovered ∧ 9 / 1000 < sale.billedTotal ∧ 9 / 1000 < sale.totalAmount then
    let billedRatio := sale.billedTotal / sale.totalAmount
    ⟨roundTo 2 (net.inventory * billedRatio), roundTo 2 (net.service * billedRatio)⟩
  else net

/-! ## Lines -/

def debitLine (accountCode description : String) (amount : ℚ) : JournalLine where
  accountCode := accountCode
  description := description
  debitAmount := amount
  creditAmount := 0
  entityType := none
  entityId := none

def creditLine (accountCode description : String) (amount : ℚ) : JournalLine where
  accountCode := accountCode
  description := description
  debitAmount := 0
  creditAmount := amount
  entityType := none
  entityId := none

/-- `customerArLine`. -/
def customerArLine (customerId description : String) (debitAmount : ℚ) : JournalLine where
  accountCode := ACCOUNTS_RECEIVABLE
  description := description
  debitAmount := debitAmount
  creditAmount := 0
  entityType := some "customer"
  entityId := some customerId

/-- `requireCustomerIdForAr`; the refusal carries its message. -/
def requireCustomerIdForAr (customerId : Option String) (context : String) :
    Except String String :=
  match customerId with
  | some id =>
    if jsTrim id = "" then .error ("Accounts Receivable posting requires a customer: " ++ context)
    else .ok id
  | none => .error ("Accounts Receivable posting requires a customer: " ++ context)

/-- The debits of an allocation, with what it does not cover on an account of its own. -/
def TenderAllocation.debits (allocation : TenderAllocation)
    (itemText : TenderAllocationItem → String) (restAccount restText : String) :
    List JournalLine :=
  (allocation.items.map fun item =>
    debitLine item.accountCode (itemText item) ((item.amountCents : ℚ) / 100)) ++
  if 0 < allocation.shortfallCents then
    [debitLine restAccount restText ((allocation.shortfallCents : ℚ) / 100)]
  else []

def TenderAllocationItem.methodsText (item : TenderAllocationItem) : String :=
  "[" ++ "+".intercalate (item.methods.map PaymentMethod.text) ++ "]"

/-- What was paid of a credit sale. -/
def SaleData.partPaymentLines (sale : SaleData) : List JournalLine :=
  if 0 < sale.amountPaid then
    let text := "Partial payment received for " ++ sale.saleNumber
    match allocateTenderToLiquidity sale.amountPaid sale.paymentLines with
    | some allocation => allocation.debits (fun item => text ++ " " ++ item.methodsText) CASH text
    | none => [debitLine CASH text sale.amountPaid]
  else []

/-- The account and the text of a method that pays in full. -/
def paymentAccount : PaymentMethod → String × String
  | .CASH => (CASH, "Cash payment received")
  | .CARD => (CREDIT_CARD_RECEIPTS, "Credit card payment received")
  | .MOBILE_MONEY => (MOBILE_MONEY, "Mobile money payment received")
  | .AIRTEL_MONEY => (MOBILE_MONEY, "Mobile money payment received")
  | .BANK_TRANSFER => (CHECKING_ACCOUNT, "Bank transfer received")
  | _ => (CASH, "Cash payment received")

/-- What came in for a sale that is paid in full. -/
def SaleData.paymentLinesInFull (sale : SaleData) : List JournalLine :=
  let account := paymentAccount sale.paymentMethod
  let text := account.2 ++ " for " ++ sale.saleNumber
  let whole := [debitLine account.1 text sale.billedTotal]
  if 9 / 1000 < sale.billedTotal then
    match allocateTenderToLiquidity sale.billedTotal sale.paymentLines with
    | some allocation =>
      if allocation.items.isEmpty then whole
      else allocation.debits
        (fun item => "Payment received " ++ item.methodsText ++ " for " ++ sale.saleNumber)
        account.1 text
    | none => whole
  else []

/-- The debits: what came in, and what the customer owes. -/
def SaleData.debitLines (sale : SaleData) : Except String (List JournalLine) :=
  match sale.paymentMethod with
  | .DEPOSIT => do
    let customerId ← requireCustomerIdForAr sale.customerId ("deposit sale " ++ sale.saleNumber)
    pure [customerArLine customerId "DEPOSIT sale - A/R pending deposit application"
      sale.totalAmount]
  | .CREDIT =>
    let unpaidAmount := sale.totalAmount - sale.amountPaid
    if 0 < unpaidAmount then do
      let customerId ← requireCustomerIdForAr sale.customerId ("credit sale " ++ sale.saleNumber)
      pure (sale.partPaymentLines ++ [customerArLine customerId
        ("Credit sale to " ++ sale.customerName.getD "customer" ++ " - " ++ sale.saleNumber)
        unpaidAmount])
    else pure sale.partPaymentLines
  | _ => pure sale.paymentLinesInFull

/-- The credits of the revenue accounts. -/
def SaleData.revenueLines (sale : SaleData) : List JournalLine :=
  let revenue := sale.billedRevenue
  (if 0 < revenue.inventory then
    [creditLine SALES_REVENUE ("Inventory sales revenue for " ++ sale.saleNumber) revenue.inventory]
  else []) ++
  if 0 < revenue.service then
    [creditLine SERVICE_REVENUE ("Service revenue for " ++ sale.saleNumber) revenue.service]
  else []

/-- The tax on the billed part of a sale. -/
def SaleData.scaledTax (sale : SaleData) : ℚ :=
  if 9 / 1000 < sale.giftCovered ∧ 9 / 1000 < sale.totalAmount then
    sale.taxAmount * (sale.billedTotal / sale.totalAmount)
  else sale.taxAmount

/-- The tax that is credited: the gap the revenue leaves, and without one the tax itself. -/
def SaleData.effectiveTaxAmount (sale : SaleData) : ℚ :=
  let revenue := sale.billedRevenue
  let revenueGap := sale.billedTotal - (revenue.inventory + revenue.service)
  if 5 / 1000 < revenueGap then revenueGap else sale.scaledTax

def SaleData.taxLines (sale : SaleData) : List JournalLine :=
  if 0 < sale.effectiveTaxAmount then
    [creditLine TAX_PAYABLE ("Tax collected on sale " ++ sale.saleNumber) sale.effectiveTaxAmount]
  else []

/-- The lines `recordSaleToGL` builds for the journal `SALE-<number>`. -/
def SaleData.ledgerLines (sale : SaleData) : Except String (List JournalLine) :=
  if sale.skipRevenueJournal then pure []
  else do
    let debits ← sale.debitLines
    pure (debits ++ sale.revenueLines ++ sale.taxLines)

/-- `hasRevenueJournalLines`: whether the journal is posted. -/
def hasRevenueJournalLines (lines : List JournalLine) : Bool :=
  lines.any fun line => decide (9 / 1000 < line.debitAmount ∨ 9 / 1000 < line.creditAmount)

end SmartErpPos.Sales
