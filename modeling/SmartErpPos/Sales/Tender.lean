/-
  Sales/Tender.lean --- how a sale is paid, and what the sale row says of it.

  Sources: `src/shared/domain/saleGiftFocSsot.ts` (`isGiftSale`, `isPureGiftSale`,
  `giftCoveredAmount`, `assertGiftSale`, `resolveGiftSettlement`), `validatePaymentAmount` of
  `middleware/businessRules.ts`, and the payment part of `createSale` in
  `modules/sales/salesService.ts`.

  A gift is a payment method: it covers goods for which nothing is received and nothing is
  owed.  A sale that leaves something owed is a credit sale, whatever it was rung up as.
-/
import SmartErpPos.Lib.Fallible
import SmartErpPos.Lib.JsText
import SmartErpPos.Sales.SaleDiscounts

set_option autoImplicit false

namespace SmartErpPos.Sales

open SmartErpPos.Lib

/-! ## Payment methods and refusals -/

inductive PaymentMethod where
  | CASH
  | CARD
  | MOBILE_MONEY
  | AIRTEL_MONEY
  | BANK_TRANSFER
  | CREDIT
  | DEPOSIT
  | GIFT
  deriving DecidableEq

structure PaymentLine where
  paymentMethod : PaymentMethod
  amount : ℚ

/-- Why a call on a sale is refused. -/
inductive SaleError where
  | notFound
  | creditNeedsCustomer
  | negativePayment
  | creditOverpaid
  | cashRequired
  | underpaid
  | insufficientPayment
  | giftReason
  | giftMixed
  | giftAmount
  | giftMethod
  | giftPermission
  | giftAdminOnly
  | outstandingNeedsCustomer
  | completedNoVoid
  | forceVoidAdminOnly
  | deadStatus
  | periodClosed
  | voidReasonRequired
  | managerApprovalRequired
  | approverPermission
  | alreadyVoided
  | notReturnable
  | agedReturn
  | refundReasonRequired
  | noRefundItems
  | refundItemUnknown
  | refundQtyInvalid
  | refundQtyExceeds
  | refundApproverPermission
  | noItems
  | lineQuantity
  deriving DecidableEq

/-- The code of the error, where the source gives one. -/
def SaleError.code : SaleError → Option String
  | .notFound => none
  | .creditNeedsCustomer => some "ERR_SALE_002"
  | .negativePayment => some "ERR_PAYMENT_002"
  | .creditOverpaid => some "ERR_PAYMENT_003"
  | .cashRequired => some "CASH_PAYMENT_REQUIRED"
  | .underpaid => some "INSUFFICIENT_PAYMENT"
  | .insufficientPayment => some "ERR_PAYMENT_001"
  | .giftReason => some "ERR_GIFT_REASON"
  | .giftMixed => some "ERR_GIFT_MIXED"
  | .giftAmount => some "ERR_GIFT_AMOUNT"
  | .giftMethod => some "ERR_GIFT_METHOD"
  | .giftPermission => some "ERR_GIFT_PERMISSION"
  | .giftAdminOnly => some "ERR_GIFT_ADMIN_ONLY"
  | .outstandingNeedsCustomer => some "ERR_SALE_003"
  | .completedNoVoid => some "ERR_SALE_COMPLETED_NO_VOID"
  | .forceVoidAdminOnly => some "ERR_SALE_FORCE_VOID_ADMIN_ONLY"
  | .deadStatus => some "ERR_SALE_008"
  | .periodClosed => none
  | .voidReasonRequired => some "ERR_SALE_009"
  | .managerApprovalRequired => some "ERR_SALE_010"
  | .approverPermission => some "ERR_SALE_011"
  | .alreadyVoided => some "ERR_SALE_013"
  | .notReturnable => some "ERR_REFUND_001"
  | .agedReturn => some "ERR_REFUND_AGED_ADMIN_ONLY"
  | .refundReasonRequired => some "ERR_REFUND_003"
  | .noRefundItems => some "ERR_REFUND_004"
  | .refundItemUnknown => some "ERR_REFUND_006"
  | .refundQtyInvalid => some "ERR_REFUND_007"
  | .refundQtyExceeds => some "ERR_REFUND_002"
  | .refundApproverPermission => some "ERR_REFUND_005"
  | .noItems => some "EMPTY_SALE"
  | .lineQuantity => none

/-! ## Gifts -/

/-- `isGiftSale`. -/
def isGiftSale (paymentMethod : PaymentMethod) (paymentLines : List PaymentLine) : Bool :=
  if paymentLines.isEmpty then decide (paymentMethod = .GIFT)
  else paymentLines.any fun l => decide (l.paymentMethod = .GIFT)

/-- `isPureGiftSale`: nothing but gift. -/
def isPureGiftSale (paymentMethod : PaymentMethod) (paymentLines : List PaymentLine) : Bool :=
  if paymentLines.isEmpty then decide (paymentMethod = .GIFT)
  else paymentLines.all fun l => decide (l.paymentMethod = .GIFT)

/-- What the lines selected by `p` pay. -/
def tendered (paymentLines : List PaymentLine) (p : PaymentMethod → Bool) : ℚ :=
  ((paymentLines.filter fun l => p l.paymentMethod).map (·.amount)).sum

/-- `giftCoveredAmount`, as `createSale` calls it (without a gift amount of its own). -/
def giftCoveredAmount (paymentMethod : PaymentMethod) (paymentLines : List PaymentLine)
    (totalAmount : ℚ) : ℚ :=
  if ¬ paymentLines.isEmpty then tendered paymentLines fun m => decide (m = .GIFT)
  else if paymentMethod = .GIFT then totalAmount
  else 0

def GIFT_REASON_MIN_LENGTH : ℕ := 3
def GIFT_REASON_MAX_LENGTH : ℕ := 500

/-- `assertGiftSale`, for a sale known to be a gift. -/
def assertGiftSale (giftReason : String) (paymentMethod : PaymentMethod)
    (paymentLines : List PaymentLine) (totalAmount : ℚ) : Except SaleError Unit := do
  let reason := jsTrim giftReason
  require (GIFT_REASON_MIN_LENGTH ≤ reason.length) .giftReason
  require (reason.length ≤ GIFT_REASON_MAX_LENGTH) .giftReason
  if ¬ paymentLines.isEmpty then
    require (∀ l ∈ paymentLines, l.paymentMethod ≠ .CREDIT) .giftMixed
    let giftSum := tendered paymentLines fun m => decide (m = .GIFT)
    let paidSum := tendered paymentLines fun m => decide (m ≠ .GIFT)
    require (giftSum ≤ totalAmount + 1 / 100) .giftAmount
    require (totalAmount ≤ paidSum + giftSum + 1 / 100) .giftAmount
  else
    require (paymentMethod = .GIFT) .giftMethod

structure GiftSettlement where
  effectivePaymentMethod : PaymentMethod
  hasOutstandingBalance : Bool

/-- `resolveGiftSettlement`. -/
def resolveGiftSettlement (isGift : Bool) (paymentMethod : PaymentMethod)
    (hasOutstandingBalance : Bool) (paymentLines : List PaymentLine) : GiftSettlement :=
  if isGift then
    if isPureGiftSale paymentMethod paymentLines then ⟨.GIFT, false⟩
    else
      match paymentLines.find? fun l => decide (l.paymentMethod ≠ .GIFT) with
      | some line => ⟨line.paymentMethod, false⟩
      | none => ⟨if paymentMethod = .GIFT then .CASH else paymentMethod, false⟩
  else ⟨if hasOutstandingBalance then .CREDIT else paymentMethod, hasOutstandingBalance⟩

/-! ## The payment of a sale -/

structure TenderInput where
  paymentMethod : PaymentMethod
  paymentLines : List PaymentLine
  paymentReceived : ℚ
  finalTotalAmount : ℚ
  hasCustomer : Bool
  giftReason : String
  /-- The seller holds `sales.gift`. -/
  mayGift : Bool
  /-- The seller holds `admin.update`. -/
  mayUpdateAdmin : Bool

structure TenderSettlement where
  effectivePaymentMethod : PaymentMethod
  totalAmount : ℚ
  paymentReceived : ℚ
  changeAmount : ℚ
  giftAmount : ℚ
  deriving DecidableEq

/-- `validatePaymentAmount`. -/
def validatePaymentAmount (totalAmount paymentReceived : ℚ) (paymentMethod : PaymentMethod) :
    Except SaleError Unit := do
  require (¬ (paymentMethod = .CASH ∧ 9 / 1000 < totalAmount ∧ paymentReceived ≤ 0)) .cashRequired
  require (¬ (paymentMethod ≠ .CREDIT ∧ paymentReceived + 1 / 100 < totalAmount)) .underpaid

/-- The money received: neither credit nor gift is. -/
def TenderInput.received (input : TenderInput) : ℚ :=
  if input.paymentLines.isEmpty then input.paymentReceived
  else tendered input.paymentLines fun m => decide (m ≠ .CREDIT ∧ m ≠ .GIFT)

/-- Whether part of the payment is credit. -/
def TenderInput.hasCreditPayment (input : TenderInput) : Bool :=
  if input.paymentLines.isEmpty then decide (input.paymentMethod = .CREDIT)
  else input.paymentLines.any fun l => decide (l.paymentMethod = .CREDIT)

/-- The payment checks of `createSale`; payment lines without credit are not checked here. -/
def checkPayment (input : TenderInput) : Except SaleError Unit := do
  let paymentReceived := input.received
  if input.hasCreditPayment then
    require (input.hasCustomer = true) .creditNeedsCustomer
    require (0 ≤ paymentReceived) .negativePayment
    require (paymentReceived ≤ input.finalTotalAmount + 1 / 100) .creditOverpaid
  else if input.paymentLines.isEmpty then
    validatePaymentAmount input.finalTotalAmount paymentReceived input.paymentMethod
    require (0 ≤ paymentReceived - input.finalTotalAmount) .insufficientPayment
  else
    pure ()

/-- The payment columns of the sale row, as `createSale` decides them. -/
def settleTender (input : TenderInput) : Except SaleError TenderSettlement := do
  checkPayment input
  let actualAmountPaid := roundSaleMoney input.received
  let actualTotalAmount := roundSaleMoney input.finalTotalAmount
  let giftSale := isGiftSale input.paymentMethod input.paymentLines
  let pureGiftSale := isPureGiftSale input.paymentMethod input.paymentLines
  let giftAmount := roundSaleMoney
    (giftCoveredAmount input.paymentMethod input.paymentLines actualTotalAmount)
  if giftSale then
    assertGiftSale input.giftReason input.paymentMethod input.paymentLines actualTotalAmount
    require (input.mayGift = true) .giftPermission
    require (input.mayUpdateAdmin = true) .giftAdminOnly
  let settlement := resolveGiftSettlement giftSale input.paymentMethod
    (decide (actualAmountPaid < actualTotalAmount)) input.paymentLines
  require (settlement.hasOutstandingBalance = true → input.hasCustomer = true)
    .outstandingNeedsCustomer
  let changeAmount :=
    if pureGiftSale ∨ settlement.hasOutstandingBalance then 0
    else roundSaleMoney (actualAmountPaid - (actualTotalAmount - giftAmount))
  pure ⟨settlement.effectivePaymentMethod, actualTotalAmount,
    if pureGiftSale then 0 else actualAmountPaid, changeAmount, giftAmount⟩

end SmartErpPos.Sales
