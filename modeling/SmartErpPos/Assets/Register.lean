/-
  Assets/Register.lean --- when the register says what the ledger says.

  The register has two figures for an asset: what it cost, and what has been depreciated.
  Each is held by an account of the asset's category.  An operation writes one row of the
  register and posts one journal for it; the two stay together as long as the journal moves
  what the row moves, up to a cent for each entry.

  A posting may hand back an earlier journal instead.  The condition on a step is that it
  finds none, and that its other accounts are not accounts of the register.
-/
import SmartErpPos.Assets.Service
import SmartErpPos.Ledger.OwnJournals
import SmartErpPos.Lib.KeyedSum
import SmartErpPos.Lib.RoundedRat

set_option autoImplicit false

namespace SmartErpPos.Assets

open SmartErpPos.Lib SmartErpPos.Ledger

/-! ## The two figures -/

inductive RegisterFigure where
  | cost
  | accumulated
  deriving DecidableEq

namespace RegisterFigure

/-- The account of a category that holds the figure. -/
def account : RegisterFigure → AssetCategory → String
  | cost => (·.assetAccountCode)
  | accumulated => (·.accumAccount)

/-- The side the figure stands on. -/
def normalBalance : RegisterFigure → NormalBalance
  | cost => .DEBIT
  | accumulated => .CREDIT

def amount : RegisterFigure → FixedAsset → Cents
  | cost => (·.acquisitionCost)
  | accumulated => (·.accumulatedDepreciation)

end RegisterFigure

namespace AssetDb

variable (db : AssetDb) (figure : RegisterFigure) (code : String)

/-- Some category keeps the figure on the account. -/
def IsUsed : Prop := ∃ category ∈ db.categories.values, figure.account category = code

instance : Decidable (db.IsUsed figure code) :=
  inferInstanceAs (Decidable (∃ category ∈ db.categories.values, figure.account category = code))

/-- What an asset adds to an account. -/
def share (asset : FixedAsset) : Cents :=
  if asset.status = .ACTIVE ∧
      (db.categories.get? asset.categoryId).map figure.account = some code then
    figure.amount asset
  else 0

/-- The figure of the active assets whose category keeps it on the account. -/
def registered : Cents := db.assets.sumWhere (fun _ => true) (db.share figure code)

/-- The entries of the schedule of an asset. -/
def scheduleOf (id : AssetId) : List DepreciationEntry :=
  db.depreciationEntries.filter fun entry => entry.assetId = id

end AssetDb

/-- The accounts of a figure say what the register says, up to a cent for each entry. -/
def FigureAgrees (db : AssetDb) (figure : RegisterFigure) : Prop :=
  ∀ a code, db.ledger.codeOf a = some code → db.IsUsed figure code →
    |(netActiveBalance db.ledger a figure.normalBalance).toRat - (db.registered figure code).toRat| ≤
      entryCount db.ledger a / 100

/-- The fixed-asset register equals the ledger, and its rows their schedules. -/
structure RegisterAgrees (db : AssetDb) : Prop where
  cost : FigureAgrees db .cost
  accumulated : FigureAgrees db .accumulated
  schedule : ∀ id asset, db.assets.get? id = some asset → asset.status = .ACTIVE →
    |asset.accumulatedDepreciation.toRat -
        ((db.scheduleOf id).map (·.depreciationAmount.toRat)).sum| ≤ (db.scheduleOf id).length / 100

/-! ## The condition on a step -/

/-- No category keeps a figure on the account. -/
def AssetDb.OffRegister (db : AssetDb) (code : String) : Prop :=
  ∀ figure, ¬ db.IsUsed figure code

instance (db : AssetDb) (code : String) : Decidable (db.OffRegister code) :=
  decidable_of_iff (¬ db.IsUsed .cost code ∧ ¬ db.IsUsed .accumulated code)
    ⟨fun h figure => match figure with
      | .cost => h.1
      | .accumulated => h.2, fun h => ⟨h .cost, h .accumulated⟩⟩

/-- The journal of an acquisition is its first, and moves the cost onto an account for costs
from one outside the register. -/
def MayAcquire (env : AssetEnv) (db : AssetDb) (data : AcquireData) : Prop :=
  ∀ category ∈ db.categories.get? data.categoryId,
    ∀ credit ∈ (acquisitionCredit data.mode data.paymentMethod).toOption,
      Unposted db.ledger (acquisitionRequest data category db.nextId
        (nextAssetNumber db env.businessYear) credit) ∧
      ¬ db.IsUsed .accumulated category.assetAccountCode ∧ db.OffRegister credit.1

/-- The journal of a month is the first of the asset, and moves the amount onto an account for
depreciation from one outside the register. -/
def MayDepreciate (db : AssetDb) (date : IsoDate) (userId : UserId)
    (row : AssetId × FixedAsset × AssetCategory) : Prop :=
  0 < calculateMonthlyDepreciation row.2.1 → isProcessed db row.1 date = false →
    Unposted db.ledger (depreciationRequest date userId row.1 row.2.1 row.2.2
      (calculateMonthlyDepreciation row.2.1)) ∧
    ¬ db.IsUsed .cost row.2.2.accumAccount ∧ db.OffRegister row.2.2.depreciationAccount

/-- The journal of a disposal is its first, takes the figures from the accounts that hold
them, and is balanced outside the register. -/
def MayDispose (db : AssetDb) (id : AssetId) (disposalDate : IsoDate) (disposalAmount : ℚ)
    (userId : UserId) : Prop :=
  ∀ asset ∈ db.assets.get? id, ∀ category ∈ db.categories.get? asset.categoryId,
    Unposted db.ledger (disposalRequest disposalDate userId id asset category disposalAmount) ∧
    ¬ db.IsUsed .accumulated category.assetAccountCode ∧
    (∀ line ∈ removedDepreciation id asset category,
      line.accountCode = category.accumAccount ∧ ¬ db.IsUsed .cost category.accumAccount) ∧
    (∀ line ∈ (disposalSideLines id asset disposalAmount).1 ++
        (disposalSideLines id asset disposalAmount).2, db.OffRegister line.accountCode)

/-- The condition on a step. -/
def KeepsStep (db : AssetDb) : AssetAction → Prop
  | .acquireAsset env data => MayAcquire env db data
  | .runMonthlyDepreciation _ year month userId => ∀ h : 1 ≤ month ∧ month ≤ 12,
    ∀ row ∈ depreciableAssets db ⟨year, month, 28, h⟩, MayDepreciate db ⟨year, month, 28, h⟩ userId row
  | .disposeAsset _ id disposalDate disposalAmount userId =>
    MayDispose db id disposalDate disposalAmount userId

instance (db : AssetDb) (action : AssetAction) : Decidable (KeepsStep db action) :=
  match action with
  | .acquireAsset _ _ => by
    unfold KeepsStep MayAcquire
    infer_instance
  | .runMonthlyDepreciation _ _ _ _ => by
    unfold KeepsStep MayDepreciate
    infer_instance
  | .disposeAsset _ _ _ _ _ => by
    unfold KeepsStep MayDispose
    infer_instance

end SmartErpPos.Assets
