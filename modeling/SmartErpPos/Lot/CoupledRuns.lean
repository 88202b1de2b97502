/-
  Lot/CoupledRuns.lean --- INV-002 over whole runs of the lot service.

  A run is any sequence of successful calls on a database that starts without
  lots.  `KeepsCoupling` describes the calls that stay clear of the branches named
  in `Lot/Coupling.lean`; a run of such calls keeps the two quantities of every lot
  equal.
-/
import SmartErpPos.Lot.Splitting

set_option autoImplicit false

namespace SmartErpPos.Lot

open SmartErpPos.Lib

/-! ## Calls -/

/-- The operations of the lot service that change quantities. -/
inductive LotOp where
  | receiveLot (input : LotReceiveInput)
  | receiveOpeningLot (input : LotOpeningReceiveInput)
  | consumeLot (input : LotConsumeInput)
  | returnLot (input : LotReturnInput)
  | splitLot (input : LotSplitInput)

/-- The tables after a call. -/
def applyOp (env : LotEnv) (clock : Clock) (db : LotDb) : LotOp → Except LotError LotDb
  | .receiveLot input => (receiveLot env clock db input).map Prod.fst
  | .receiveOpeningLot input => (receiveOpeningLot env clock db input).map Prod.fst
  | .consumeLot input => (consumeLot env clock db input).map Prod.fst
  | .returnLot input => (returnLot env clock db input).map Prod.fst
  | .splitLot input => (splitLot env clock db input).map Prod.fst

/-- The call does not ask for the balances to be left alone. -/
def LotOp.deductsBalances : LotOp → Prop
  | .consumeLot input => input.skipStoreBalanceDeduction ≠ some true
  | _ => True

/-- A successful call at some time. -/
def CallStep (env : LotEnv) (db : LotDb) (call : Clock × LotOp) (db' : LotDb) : Prop :=
  call.2.deductsBalances ∧ applyOp env call.1 db call.2 = .ok db'

/-- The inputs for which a call keeps masters and balances together. -/
def KeepsCoupling (env : LotEnv) (clock : Clock) (db : LotDb) : LotOp → Prop
  | .receiveLot input => 0 ≤ (Numeric.ofRat input.quantity : Quantity)
  | .receiveOpeningLot input => openingKeeps db input
  | .consumeLot input => consumeKeeps env clock db input
  | .returnLot _ => True
  | .splitLot input => splitKeeps env db input

theorem applyOp_good {env : LotEnv} (hmulti : env.multistore = true) {clock : Clock}
    {db db' : LotDb} (hgood : Good db) {op : LotOp} (hkeeps : KeepsCoupling env clock db op)
    (h : applyOp env clock db op = .ok db') : Good db' := by
  cases op with
  | receiveLot input =>
    obtain ⟨r, hr, rfl⟩ := map_eq_ok h
    exact receiveLot_good hmulti hgood hkeeps hr
  | receiveOpeningLot input =>
    obtain ⟨r, hr, rfl⟩ := map_eq_ok h
    exact receiveOpeningLot_good hmulti hgood hkeeps hr
  | consumeLot input =>
    obtain ⟨r, hr, rfl⟩ := map_eq_ok h
    exact consumeLot_good hgood hkeeps hr
  | returnLot input =>
    obtain ⟨r, hr, rfl⟩ := map_eq_ok h
    exact returnLot_good hmulti hgood hr
  | splitLot input =>
    obtain ⟨r, hr, rfl⟩ := map_eq_ok h
    exact splitLot_good hgood hkeeps hr

/-- Runs of calls that stay clear of the four branches keep every lot's remaining
quantity equal to the stock in its balances. -/
theorem coupled_of_keeping_run {env : LotEnv} (hmulti : env.multistore = true) {db : LotDb}
    (h : Reachable (fun db call db' =>
      CallStep env db call db' ∧ KeepsCoupling env call.1 db call.2) NoLots db) : Coupled db := by
  have hgood : Good db := by
    refine Reachable.invariant (fun s hs => hs.good) ?_ h
    rintro s ⟨clock, op⟩ s' hs ⟨⟨-, hcall⟩, hkeeps⟩
    exact applyOp_good hmulti hs hkeeps hcall
  exact hgood.coupled

/-! ## A shop that sells soap -/

instance (db : LotDb) : Decidable (Coupled db) :=
  decidable_of_iff (∀ e ∈ db.batches.entries, e.2.remainingQuantity = onHand db e.1) (by
    constructor
    · intro h id row hrow
      exact h (id, row) (OrderedMap.get?_eq_some_iff.mp hrow)
    · intro h e he
      exact h e.1 e.2 (OrderedMap.get?_eq_some_iff.mpr he))

/-- A tenant with multistore balances. -/
def shopEnv : LotEnv where
  multistore := true
  batchStatusEnum := [.ACTIVE, .DEPLETED, .EXPIRED, .QUARANTINED]
  textLe := fun a b => decide (a ≤ b)
  localeLe := fun a b => decide (a ≤ b)

/-- One product, no stores and no lots. -/
def emptyShop : LotDb where
  products := [⟨"soap", false⟩]
  stores := OrderedMap.empty
  batches := OrderedMap.empty
  productLots := OrderedMap.empty
  balances := OrderedMap.empty
  nextId := 0

def shopClock : Clock := ⟨0, 0⟩

/-- A receipt of soap. -/
def soapReceipt (quantity : ℚ) : LotReceiveInput where
  productId := "soap"
  lotNumber := "L1"
  quantity := quantity
  costPrice := 1
  attributes := ⟨none, none, some 0⟩
  sourceType := .GOODS_RECEIPT
  goodsReceiptId := none
  goodsReceiptItemId := none
  purchaseOrderId := none
  purchaseOrderItemId := none
  targetStoreLocationId := none
  isBonus := false

/-- The tables after a call; a failed call changes nothing. -/
def afterOp (env : LotEnv) (clock : Clock) (op : LotOp) (db : LotDb) : LotDb :=
  settled (applyOp env clock db op) db

theorem callStep_afterOp (env : LotEnv) (clock : Clock) (op : LotOp) (db : LotDb)
    (hdeducts : op.deductsBalances) (hok : (applyOp env clock db op).toBool = true) :
    CallStep env db (clock, op) (afterOp env clock op db) :=
  ⟨hdeducts, eq_ok_settled hok db⟩

/-- Two pieces of the first lot, from whatever stores hold it. -/
def soapSale : LotConsumeInput where
  productId := "soap"
  quantity := 2
  storeLocationId := none
  specificLotId := some 0
  selectionPolicy := none
  minDaysBeforeExpiry := none
  productName := none
  deductAcrossAllStoreBalances := none
  skipStoreBalanceDeduction := none
  allowDisposalStatuses := none

/-- Five pieces received, two of them sold. -/
def soldSoap : LotDb :=
  afterOp shopEnv shopClock (.consumeLot soapSale)
    (afterOp shopEnv shopClock (.receiveLot (soapReceipt 5)) emptyShop)

theorem soldSoap_coupled : remainingOf soldSoap 0 = Numeric.ofRat 3 ∧ Coupled soldSoap :=
  ⟨by decide +kernel, coupled_of_keeping_run (rfl : shopEnv.multistore = true)
    (.next
      (.next (.start ⟨rfl, rfl, rfl⟩)
        ⟨callStep_afterOp shopEnv shopClock (.receiveLot (soapReceipt 5)) emptyShop
          trivial (by decide +kernel), Numeric.ofRat_nonneg (by decide)⟩)
      ⟨callStep_afterOp shopEnv shopClock (.consumeLot soapSale) _
        (by decide : soapSale.skipStoreBalanceDeduction ≠ some true) (by decide +kernel),
        .inr (.inl (by decide))⟩)⟩

/-- Importing some pieces of the lot with strategy `UPDATE`. -/
def soapImport (quantity : ℚ) : LotOp := .receiveOpeningLot ⟨soapReceipt quantity, .UPDATE⟩

/-- Importing 5 pieces, and then 3 of the same lot. -/
def importedTwice : LotDb :=
  afterOp shopEnv shopClock (soapImport 3) (afterOp shopEnv shopClock (soapImport 5) emptyShop)

/-- The second import sets the master to 3 and raises the store to 8. -/
theorem importedTwice_not_coupled :
    ¬ ∀ (env : LotEnv) (db : LotDb), env.multistore = true →
        Reachable (CallStep env) NoLots db → Coupled db := by
  intro h
  have hstart : Reachable (CallStep shopEnv) NoLots emptyShop := .start ⟨rfl, rfl, rfl⟩
  have hreach : Reachable (CallStep shopEnv) NoLots importedTwice :=
    .next (.next hstart
        (callStep_afterOp shopEnv shopClock (soapImport 5) emptyShop trivial (by decide +kernel)))
      (callStep_afterOp shopEnv shopClock (soapImport 3) _ trivial (by decide +kernel))
  have hbad : ¬ Coupled importedTwice := by decide +kernel
  exact hbad (h shopEnv importedTwice rfl hreach)

end SmartErpPos.Lot
