/-
  Lot/Types.lean --- lots, their projection and the store balances.

  Sources: `shared/inventory-lot/lotTypes.ts`, `lotEvents.ts`, and the tables
  `inventory_batches`, `product_lots`, `inventory_balances`, `store_locations`.

  A lot is kept twice.  The master row in `inventory_batches` carries the
  remaining quantity; with multistore balances the row also has a projection in
  `product_lots`, and `inventory_balances` says how much of it lies in which
  store.

  Generated keys are numbers drawn from one counter.  Dates are day numbers,
  timestamps milliseconds, both since 1970-01-01.  Columns that no operation of
  this development reads are left out.
-/
import SmartErpPos.Lib.CivilDate
import SmartErpPos.Lib.Fallible
import SmartErpPos.Lib.OrderedMap

set_option autoImplicit false

namespace SmartErpPos.Lot

open SmartErpPos.Lib

/-! ## Enumerations -/

inductive LotStoredStatus where
  | ACTIVE
  | DEPLETED
  | EXPIRED
  | QUARANTINED
  | RECALLED
  | DISPOSED
  | ARCHIVED
  | BLOCKED
  deriving DecidableEq

/-- The text of a status, as error messages show it. -/
def LotStoredStatus.text : LotStoredStatus → String
  | .ACTIVE => "ACTIVE"
  | .DEPLETED => "DEPLETED"
  | .EXPIRED => "EXPIRED"
  | .QUARANTINED => "QUARANTINED"
  | .RECALLED => "RECALLED"
  | .DISPOSED => "DISPOSED"
  | .ARCHIVED => "ARCHIVED"
  | .BLOCKED => "BLOCKED"

inductive LotSourceType where
  | GOODS_RECEIPT
  | OPENING_BALANCE
  | ADJUSTMENT
  | PRODUCTION
  | CUSTOMER_RETURN
  | SUPPLIER_RETURN
  | SPLIT
  | MERGE
  deriving DecidableEq

inductive SelectionPolicy where
  | FEFO
  | FIFO
  | LIFO
  | MANUAL
  deriving DecidableEq

inductive StoreType where
  | MAIN
  | SELLING
  | TRANSIT
  | DAMAGE
  | EXPIRED
  | RETURN
  deriving DecidableEq

def StoreType.text : StoreType → String
  | .MAIN => "MAIN"
  | .SELLING => "SELLING"
  | .TRANSIT => "TRANSIT"
  | .DAMAGE => "DAMAGE"
  | .EXPIRED => "EXPIRED"
  | .RETURN => "RETURN"

inductive OpeningLotDuplicateStrategy where
  | UPDATE
  | SKIP
  | FAIL
  deriving DecidableEq

/-! ## Column types -/

abbrev BatchId := ℕ
abbrev ProductLotId := ℕ
abbrev StoreId := ℕ

/-- A calendar date as a day number. -/
abbrev LotDate := ℤ

/-- A `timestamptz` in milliseconds. -/
abbrev Timestamp := ℤ

/-- `numeric(15, 4)`. -/
abbrev Quantity := Numeric 4

/-- `numeric(15, 2)`. -/
abbrev Cost := Numeric 2

/-- The calendar day of a timestamp. -/
def dayOf (t : Timestamp) : LotDate := t / 86400000

/-! ## Rows -/

/-- A row of `inventory_batches`. -/
structure BatchRow where
  productId : String
  batchNumber : String
  quantity : Quantity
  remainingQuantity : Quantity
  expiryDate : Option LotDate
  costPrice : Cost
  receivedDate : Option Timestamp
  createdAt : Timestamp
  status : LotStoredStatus
  goodsReceiptId : Option String
  goodsReceiptItemId : Option String
  purchaseOrderId : Option String
  purchaseOrderItemId : Option String
  isBonus : Bool
  /-- `none` is the column default `UNKNOWN`. -/
  sourceType : Option LotSourceType
  parentLotId : Option BatchId
  notes : Option String
  deriving DecidableEq

/-- A row of `product_lots`, the warehouse projection of a batch. -/
structure ProductLotRow where
  productId : String
  lotNumber : String
  expiryDate : Option LotDate
  /-- `numeric(15, 4)` in this table. -/
  costPrice : Numeric 4
  goodsReceiptId : Option String
  inventoryBatchId : BatchId
  isBonus : Bool
  status : LotStoredStatus
  deriving DecidableEq

/-- A row of `inventory_balances`; store and lot are its key. -/
structure BalanceRow where
  productId : String
  quantityOnHand : Quantity
  quantityReserved : Quantity
  quantityCommitted : Quantity
  blocked : Bool
  deriving DecidableEq

/-- A row of `store_locations`. -/
structure StoreRow where
  code : String
  name : String
  storeType : StoreType
  isDefaultReceiving : Bool
  isPosSelling : Bool
  isActive : Bool
  deriving DecidableEq

/-- A row of `products`. -/
structure ProductRow where
  id : String
  trackExpiry : Bool
  deriving DecidableEq

/-- The tables the lot service works on.  `nextId` is the first unused key. -/
structure LotDb where
  products : List ProductRow
  stores : OrderedMap StoreId StoreRow
  batches : OrderedMap BatchId BatchRow
  productLots : OrderedMap ProductLotId ProductLotRow
  balances : OrderedMap (StoreId × ProductLotId) BalanceRow
  nextId : ℕ

/-! ## Deployment and clock -/

/-- What is fixed for a tenant's database. -/
structure LotEnv where
  /-- `isMultistoreEnabled`. -/
  multistore : Bool
  /-- The values of the enum type `batch_status`. -/
  batchStatusEnum : List LotStoredStatus
  /-- The text order of the database. -/
  textLe : String → String → Bool
  /-- `a.localeCompare(b) <= 0`. -/
  localeLe : String → String → Bool

/-- The time a call runs at: `CURRENT_TIMESTAMP` and `getBusinessDate()`. -/
structure Clock where
  now : Timestamp
  businessDate : LotDate

/-- `CURRENT_DATE`. -/
def Clock.currentDate (clock : Clock) : LotDate := dayOf clock.now

/-! ## Service types -/

structure LotAttributes where
  expiryDate : Option LotDate
  manufacturingDate : Option LotDate
  receivedDate : Option LotDate
  deriving DecidableEq

structure LotGenealogy where
  parentLotId : Option BatchId
  sourceType : LotSourceType
  goodsReceiptId : Option String
  goodsReceiptItemId : Option String
  deriving DecidableEq

/-- The business object read from a batch row. -/
structure InventoryLot where
  id : BatchId
  productId : String
  lotNumber : String
  attributes : LotAttributes
  quantity : ℚ
  remainingQuantity : ℚ
  costPrice : ℚ
  status : LotStoredStatus
  genealogy : LotGenealogy
  isBonus : Bool
  deriving DecidableEq

structure LotReceiveInput where
  productId : String
  lotNumber : String
  quantity : ℚ
  costPrice : ℚ
  attributes : LotAttributes
  sourceType : LotSourceType
  goodsReceiptId : Option String
  goodsReceiptItemId : Option String
  purchaseOrderId : Option String
  purchaseOrderItemId : Option String
  targetStoreLocationId : Option StoreId
  isBonus : Bool

structure LotOpeningReceiveInput extends LotReceiveInput where
  duplicateStrategy : OpeningLotDuplicateStrategy

structure LotConsumeInput where
  productId : String
  quantity : ℚ
  storeLocationId : Option StoreId
  specificLotId : Option BatchId
  selectionPolicy : Option SelectionPolicy
  minDaysBeforeExpiry : Option ℤ
  productName : Option String
  deductAcrossAllStoreBalances : Option Bool
  skipStoreBalanceDeduction : Option Bool
  allowDisposalStatuses : Option Bool

structure LotReturnInput where
  productId : String
  lotNumber : Option String
  batchId : Option BatchId
  quantity : ℚ
  expiryDate : Option LotDate
  costPrice : ℚ
  targetStoreLocationId : Option StoreId
  referenceId : String
  notes : Option String

structure LotStatusTransitionInput where
  lotId : BatchId
  newStatus : LotStoredStatus

structure LotSplitInput where
  lotId : BatchId
  quantity : ℚ
  childLotNumber : Option String

/-- What a failed call throws. -/
inductive LotError where
  /-- A `ValidationError` with its text. -/
  | validation (message : String)
  /-- A plain `Error` or `BusinessError` with its text. -/
  | failure (message : String)
  /-- The database rejects the statement: a constraint or a type. -/
  | database (constraint : String)
  deriving DecidableEq

end SmartErpPos.Lot
