/-
  Assets/Service.lean --- the register of fixed assets and the journals it posts.

  Source: `modules/asset-accounting/assetService.ts`.

  Every operation runs in one transaction; its journals go through `createJournalEntry`,
  which may hand back an earlier journal instead of posting.  Ids are numbers drawn from one
  counter.  Descriptions, locations, cost centres and the data of a disposal are left out: no
  operation here reads them.
-/
import SmartErpPos.Ledger.AccountingCore
import SmartErpPos.Lib.JsText

set_option autoImplicit false

namespace SmartErpPos.Assets

open SmartErpPos.Lib SmartErpPos.Ledger

/-! ## Rows -/

abbrev AssetId := ℕ
abbrev CategoryId := ℕ
abbrev UserId := ℕ

/-- `numeric(15, 2)`. -/
abbrev Cents := Numeric 2

inductive DepreciationMethod where
  | STRAIGHT_LINE
  | DECLINING_BALANCE
  deriving DecidableEq

inductive AssetStatus where
  | ACTIVE
  | DISPOSED
  | WRITTEN_OFF
  deriving DecidableEq

def AssetStatus.text : AssetStatus → String
  | .ACTIVE => "ACTIVE"
  | .DISPOSED => "DISPOSED"
  | .WRITTEN_OFF => "WRITTEN_OFF"

inductive AssetRegistrationMode where
  | PURCHASE
  | OPENING
  deriving DecidableEq

inductive AcquisitionPayment where
  | CASH
  | BANK
  | AP
  deriving DecidableEq

/-- A row of `asset_categories`. -/
structure AssetCategory where
  usefulLifeMonths : ℤ
  depreciationMethod : DepreciationMethod
  assetAccountCode : String
  depreciationAccountCode : String
  accumDepreciationAccountCode : String
  deriving DecidableEq

/-- A row of `fixed_assets`. -/
structure FixedAsset where
  assetNumber : String
  name : String
  categoryId : CategoryId
  acquisitionCost : Cents
  salvageValue : Cents
  usefulLifeMonths : ℤ
  depreciationMethod : DepreciationMethod
  depreciationStartDate : IsoDate
  accumulatedDepreciation : Cents
  netBookValue : Cents
  status : AssetStatus
  deriving DecidableEq

/-- A row of `depreciation_entries`. -/
structure DepreciationEntry where
  assetId : AssetId
  periodYear : ℕ
  periodMonth : ℕ
  depreciationAmount : Cents
  accumulatedTotal : Cents
  netBookValue : Cents
  glTransactionId : TransactionId
  deriving DecidableEq

/-- The register and the ledger it posts to. -/
structure AssetDb where
  ledger : LedgerDb
  categories : OrderedMap CategoryId AssetCategory
  assets : OrderedMap AssetId FixedAsset
  depreciationEntries : List DepreciationEntry
  nextId : ℕ

/-- What a failed call throws. -/
inductive AssetError where
  | notFound (what : String)
  | validation (message : String)
  | database (constraint : String)
  | ledger (error : LedgerError)
  deriving DecidableEq

def ofLedger {α : Type} (x : Except LedgerError α) : Except AssetError α := x.mapError .ledger

/-- The clock of a call. -/
structure AssetEnv where
  businessYear : ℕ
  arMode : ArGovernanceMode
  now : Timestamp

/-- A posting inside the transaction of an operation that began on `ledger`. -/
def AssetEnv.client (env : AssetEnv) (ledger : LedgerDb) : PostingContext where
  path := .txClient
  pool := ledger.transactions
  arMode := env.arMode
  now := env.now

/-! ## Accounts and lines -/

def CASH : String := "1010"
def ACCOUNTS_PAYABLE : String := "2100"
def OPENING_BALANCE_EQUITY : String := "3050"
def OTHER_INCOME : String := "4200"
def DEPRECIATION : String := "6500"
def GENERAL_EXPENSE : String := "6900"
def ACCUMULATED_DEPRECIATION : String := "1550"

/-- A line of a journal of an asset. -/
def assetLine (id : AssetId) (accountCode description : String)
    (debitAmount creditAmount : ℚ) : JournalLine where
  accountCode := accountCode
  description := description
  debitAmount := debitAmount
  creditAmount := creditAmount
  entityType := some "FIXED_ASSET"
  entityId := some (toString id)

/-- The account and the source an acquisition credits. -/
def acquisitionCredit (mode : AssetRegistrationMode) (paymentMethod : Option AcquisitionPayment) :
    Except AssetError (String × PostingSource) :=
  match mode, paymentMethod with
  | .OPENING, some _ => .error (.validation
      ("Opening balance assets cannot specify a payment method. " ++
        "Pre-ERP assets always credit Opening Balance Equity (3050), not Cash or Payables."))
  | .PURCHASE, none => .error (.validation
      "New asset purchase requires a payment method (CASH, BANK, or AP).")
  | .OPENING, none => pure (OPENING_BALANCE_EQUITY, .OPENING_BALANCE_WIZARD)
  | .PURCHASE, some .CASH | .PURCHASE, some .BANK => pure (CASH, .EXPENSE_PAYMENT)
  | .PURCHASE, some .AP => pure (ACCOUNTS_PAYABLE, .PURCHASE_BILL)

/-- The lines `buildAssetAcquisitionGLLines` builds for a credit account. -/
def acquisitionLines (mode : AssetRegistrationMode) (assetAccountCode creditAccountCode : String)
    (acquisitionCost : ℚ) (id : AssetId) (assetName assetNumber : String) : List JournalLine :=
  [assetLine id assetAccountCode ("Asset acquisition: " ++ assetName ++ " (" ++ assetNumber ++ ")")
      acquisitionCost 0,
    assetLine id creditAccountCode
      (if mode = .OPENING then "Opening balance — existing asset: " ++ assetNumber
        else "Payment for asset: " ++ assetNumber) 0 acquisitionCost]

/-! ## Acquisition -/

structure AcquireData where
  name : String
  categoryId : CategoryId
  acquisitionDate : IsoDate
  acquisitionCost : ℚ
  salvageValue : Option ℚ
  usefulLifeMonths : Option ℤ
  depreciationMethod : Option DepreciationMethod
  depreciationStartDate : Option IsoDate
  paymentMethod : Option AcquisitionPayment
  mode : AssetRegistrationMode
  userId : UserId

/-- `asset_number LIKE 'FA-____-%'`. -/
def isAssetNumber (assetNumber : String) : Bool :=
  jsStartsWith "FA-" assetNumber && decide (assetNumber.toList[7]? = some '-')

/-- `CAST(SUBSTRING(asset_number FROM 9) AS INTEGER)`. -/
def assetSequence (assetNumber : String) : ℕ :=
  (assetNumber.toList.drop 8).foldl (fun n c => 10 * n + (c.toNat - '0'.toNat)) 0

/-- The next number of the register. -/
def nextAssetNumber (db : AssetDb) (year : ℕ) : String :=
  let sequences := ((db.assets.values.map (·.assetNumber)).filter isAssetNumber).map assetSequence
  "FA-" ++ toString year ++ "-" ++ padDigits 4 (sequences.foldl max 0 + 1)

/-- The row an acquisition inserts. -/
def AcquireData.row (data : AcquireData) (category : AssetCategory) (assetNumber : String) :
    FixedAsset where
  assetNumber := assetNumber
  name := data.name
  categoryId := data.categoryId
  acquisitionCost := .ofRat data.acquisitionCost
  salvageValue := .ofRat (data.salvageValue.getD 0)
  usefulLifeMonths := (data.usefulLifeMonths.filter (· ≠ 0)).getD category.usefulLifeMonths
  depreciationMethod := data.depreciationMethod.getD category.depreciationMethod
  depreciationStartDate := data.depreciationStartDate.getD data.acquisitionDate
  accumulatedDepreciation := 0
  netBookValue := .ofRat data.acquisitionCost
  status := .ACTIVE

/-- `ASSET-ACQ-${assetId}`. -/
def acquisitionKey (id : AssetId) : String := "ASSET-ACQ-" ++ toString id

/-- The journal of an acquisition. -/
def acquisitionRequest (data : AcquireData) (category : AssetCategory) (id : AssetId)
    (assetNumber : String) (credit : String × PostingSource) : JournalEntryRequest where
  entryDate := data.acquisitionDate
  description := (if data.mode = .OPENING then "Opening balance asset: " else "Asset acquisition: ")
    ++ data.name ++ " (" ++ assetNumber ++ ")"
  referenceType := "ASSET_ACQUISITION"
  referenceId := some id
  referenceNumber := assetNumber
  lines := acquisitionLines data.mode category.assetAccountCode credit.1 data.acquisitionCost id
    data.name assetNumber
  userId := toString data.userId
  idempotencyKey := acquisitionKey id
  source := some credit.2

/-- `acquireAsset`. -/
def acquireAsset (env : AssetEnv) (db : AssetDb) (data : AcquireData) :
    Except AssetError AssetDb := do
  let category ← orThrow (db.categories.get? data.categoryId) (.notFound "Asset category")
  let assetNumber := nextAssetNumber db env.businessYear
  let _ ← require (∀ other ∈ db.assets.values, other.assetNumber ≠ assetNumber)
    (.database "fixed_assets_asset_number_key")
  let credit ← acquisitionCredit data.mode data.paymentMethod
  let out ← ofLedger (createJournalEntry (env.client db.ledger) db.ledger
    (acquisitionRequest data category db.nextId assetNumber credit))
  pure { db with
    ledger := out.db
    assets := db.assets.set db.nextId (data.row category assetNumber)
    nextId := db.nextId + 1 }

/-! ## Depreciation -/

/-- `Money.divide`: nothing for a zero divisor. -/
def moneyDivide (value divisor : ℚ) : ℚ := if divisor = 0 then 0 else value / divisor

/-- `calculateMonthlyDepreciation`. -/
def calculateMonthlyDepreciation (asset : FixedAsset) : ℚ :=
  if asset.status ≠ .ACTIVE then 0
  else if asset.netBookValue ≤ asset.salvageValue then 0
  else match asset.depreciationMethod with
    | .STRAIGHT_LINE =>
      moneyDivide (asset.acquisitionCost.toRat - asset.salvageValue.toRat) asset.usefulLifeMonths
    | .DECLINING_BALANCE =>
      let amount := asset.netBookValue.toRat * (2 / asset.usefulLifeMonths)
      max 0 (min amount (asset.netBookValue.toRat - asset.salvageValue.toRat))

/-- The account depreciation is charged to. -/
def AssetCategory.depreciationAccount (category : AssetCategory) : String :=
  if category.depreciationAccountCode = "" then DEPRECIATION else category.depreciationAccountCode

/-- The account depreciation accumulates on. -/
def AssetCategory.accumAccount (category : AssetCategory) : String :=
  if category.accumDepreciationAccountCode = "" then ACCUMULATED_DEPRECIATION
  else category.accumDepreciationAccountCode

/-- `DEPR-${assetId}-${year}-${month}`. -/
def depreciationKey (id : AssetId) (year month : ℕ) : String :=
  "DEPR-" ++ toString id ++ "-" ++ toString year ++ "-" ++ toString month

/-- `DEPR-${assetNumber}-${year}${month}`. -/
def depreciationNumber (assetNumber : String) (year month : ℕ) : String :=
  "DEPR-" ++ assetNumber ++ "-" ++ (toString year ++ padDigits 2 month)

/-- The journal of a month's depreciation. -/
def depreciationRequest (date : IsoDate) (userId : UserId) (id : AssetId) (asset : FixedAsset)
    (category : AssetCategory) (amount : ℚ) : JournalEntryRequest where
  entryDate := date
  description := "Monthly depreciation - " ++ asset.assetNumber ++ " - " ++ toString date.year ++
    "/" ++ padDigits 2 date.month
  referenceType := "DEPRECIATION"
  referenceId := some id
  referenceNumber := depreciationNumber asset.assetNumber date.year date.month
  lines :=
    [assetLine id category.depreciationAccount ("Depreciation - " ++ asset.name ++ " (" ++
        asset.assetNumber ++ ") - " ++ toString date.year ++ "/" ++ toString date.month) amount 0,
      assetLine id category.accumAccount ("Accumulated depreciation - " ++ asset.assetNumber) 0
        amount]
  userId := toString userId
  idempotencyKey := depreciationKey id date.year date.month
  source := some .ASSET_DEPRECIATION

/-- The assets a run looks at, as they are when it begins. -/
def depreciableAssets (db : AssetDb) (date : IsoDate) :
    List (AssetId × FixedAsset × AssetCategory) :=
  db.assets.entries.filterMap fun e =>
    if e.2.status = .ACTIVE ∧ e.2.salvageValue < e.2.netBookValue ∧
        e.2.depreciationStartDate.le date = true then
      (db.categories.get? e.2.categoryId).map fun category => (e.1, e.2, category)
    else none

/-- The month is already in the schedule of the asset. -/
def isProcessed (db : AssetDb) (id : AssetId) (date : IsoDate) : Bool :=
  db.depreciationEntries.any fun entry => decide (entry.assetId = id) &&
    decide (entry.periodYear = date.year) && decide (entry.periodMonth = date.month)

/-- The schedule and the register after a month, whatever the posting returned. -/
def recordDepreciation (db : AssetDb) (date : IsoDate) (id : AssetId) (asset : FixedAsset)
    (amount : ℚ) (glTransactionId : TransactionId) : AssetDb :=
  let newAccumulated := asset.accumulatedDepreciation.toRat + amount
  let newNbv := asset.acquisitionCost.toRat - newAccumulated
  let entry : DepreciationEntry :=
    { assetId := id
      periodYear := date.year
      periodMonth := date.month
      depreciationAmount := .ofRat amount
      accumulatedTotal := .ofRat newAccumulated
      netBookValue := .ofRat newNbv
      glTransactionId := glTransactionId }
  { db with
    depreciationEntries := db.depreciationEntries ++ [entry]
    assets := db.assets.modify id fun row =>
      { row with
        accumulatedDepreciation := .ofRat newAccumulated
        netBookValue := .ofRat newNbv } }

/-- One asset of a run that began on `pool`. -/
def depreciateAsset (env : AssetEnv) (pool : LedgerDb) (date : IsoDate) (userId : UserId)
    (db : AssetDb) (row : AssetId × FixedAsset × AssetCategory) : Except AssetError AssetDb :=
  let amount := calculateMonthlyDepreciation row.2.1
  if amount ≤ 0 then pure db
  else if isProcessed db row.1 date then pure db
  else do
    let out ← ofLedger (createJournalEntry (env.client pool) db.ledger
      (depreciationRequest date userId row.1 row.2.1 row.2.2 amount))
    pure (recordDepreciation { db with ledger := out.db } date row.1 row.2.1 amount
      out.result.transactionId)

/-- `runMonthlyDepreciation`; the 28th stands for the month. -/
def runMonthlyDepreciation (env : AssetEnv) (db : AssetDb) (year month : ℕ) (userId : UserId) :
    Except AssetError AssetDb :=
  if h : 1 ≤ month ∧ month ≤ 12 then
    let date : IsoDate := ⟨year, month, 28, h⟩
    (depreciableAssets db date).foldlM (depreciateAsset env db.ledger date userId) db
  else .error (.database "date/time field value out of range")

/-! ## Disposal -/

/-- `ASSET-DISP-${asset.id}`. -/
def disposalKey (id : AssetId) : String := "ASSET-DISP-" ++ toString id

/-- `DISP-${asset.assetNumber}`. -/
def disposalNumber (assetNumber : String) : String := "DISP-" ++ assetNumber

/-- What a disposal earns over the book value. -/
def gainLoss (asset : FixedAsset) (disposalAmount : ℚ) : ℚ :=
  disposalAmount + asset.accumulatedDepreciation.toRat - asset.acquisitionCost.toRat

/-- The proceeds of a disposal and its gain or loss. -/
def disposalSideLines (id : AssetId) (asset : FixedAsset) (disposalAmount : ℚ) :
    List JournalLine × List JournalLine :=
  let gain := gainLoss asset disposalAmount
  (if 0 < disposalAmount then
      [assetLine id CASH ("Disposal proceeds - " ++ asset.assetNumber) disposalAmount 0]
    else [],
    if 0 < gain then
      [assetLine id OTHER_INCOME ("Gain on disposal - " ++ asset.assetNumber) 0 gain]
    else if gain < 0 then
      [assetLine id GENERAL_EXPENSE ("Loss on disposal - " ++ asset.assetNumber) |gain| 0]
    else [])

/-- The accumulated depreciation a disposal removes. -/
def removedDepreciation (id : AssetId) (asset : FixedAsset) (category : AssetCategory) :
    List JournalLine :=
  if 0 < asset.accumulatedDepreciation then
    [assetLine id category.accumDepreciationAccountCode
      ("Remove accumulated depreciation - " ++ asset.assetNumber)
      asset.accumulatedDepreciation.toRat 0]
  else []

/-- The journal of a disposal. -/
def disposalRequest (date : IsoDate) (userId : UserId) (id : AssetId) (asset : FixedAsset)
    (category : AssetCategory) (disposalAmount : ℚ) : JournalEntryRequest where
  entryDate := date
  description := "Asset disposal: " ++ asset.name ++ " (" ++ asset.assetNumber ++ ")"
  referenceType := "ASSET_DISPOSAL"
  referenceId := some id
  referenceNumber := disposalNumber asset.assetNumber
  lines := (disposalSideLines id asset disposalAmount).1 ++ removedDepreciation id asset category ++
    [assetLine id category.assetAccountCode ("Dispose asset - " ++ asset.assetNumber) 0
      asset.acquisitionCost.toRat] ++ (disposalSideLines id asset disposalAmount).2
  userId := toString userId
  idempotencyKey := disposalKey id
  source := some .EXPENSE_PAYMENT

/-- `disposeAsset`. -/
def disposeAsset (env : AssetEnv) (db : AssetDb) (id : AssetId) (disposalDate : IsoDate)
    (disposalAmount : ℚ) (userId : UserId) : Except AssetError AssetDb := do
  let asset ← orThrow (db.assets.get? id) (.notFound "Fixed asset")
  let _ ← require (asset.status = .ACTIVE)
    (.validation ("Asset is already " ++ asset.status.text))
  let category ← orThrow (db.categories.get? asset.categoryId) (.notFound "Asset category")
  let out ← ofLedger (createJournalEntry (env.client db.ledger) db.ledger
    (disposalRequest disposalDate userId id asset category disposalAmount))
  pure { db with
    ledger := out.db
    assets := db.assets.modify id fun row =>
      { row with
        status := .DISPOSED
        netBookValue := 0 } }

/-! ## Runs -/

inductive AssetAction where
  | acquireAsset (env : AssetEnv) (data : AcquireData)
  | runMonthlyDepreciation (env : AssetEnv) (year month : ℕ) (userId : UserId)
  | disposeAsset (env : AssetEnv) (id : AssetId) (disposalDate : IsoDate) (disposalAmount : ℚ)
      (userId : UserId)

/-- A successful call; nothing where the call fails. -/
def AssetDb.exec (db : AssetDb) : AssetAction → Option AssetDb
  | .acquireAsset env data => (Assets.acquireAsset env db data).toOption
  | .runMonthlyDepreciation env year month userId =>
    (Assets.runMonthlyDepreciation env db year month userId).toOption
  | .disposeAsset env id disposalDate disposalAmount userId =>
    (Assets.disposeAsset env db id disposalDate disposalAmount userId).toOption

end SmartErpPos.Assets
