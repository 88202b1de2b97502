/-
  Lot/Rules.lean --- receipt rules and lot selection.

  Sources: `lotRules.ts`, `lotInvariants.ts`, `lotPolicy.ts`, `lotValidation.ts`,
  `lotSelection.ts`, `fefoEngine.ts`, `fifoEngine.ts` and `index.ts` of
  `shared/inventory-lot`.

  These are the pure parts of the lot domain.  The service calls them with rows
  it has read; what it does with the answers is in `Lot/Service.lean`.
-/
import Mathlib.Data.List.Sort
import SmartErpPos.Lot.Types

set_option autoImplicit false

namespace SmartErpPos.Lot

open SmartErpPos.Lib

/-! ## Receipt validation -/

structure ProductLotPolicy where
  trackExpiry : Bool

structure LotValidationResult where
  valid : Bool
  error : Option String
  code : Option String
  rule : Option String
  deriving DecidableEq

def lotValidationOk : LotValidationResult := ⟨true, none, none, none⟩

def lotValidationFailure (error code rule : String) : LotValidationResult :=
  ⟨false, some error, some code, some rule⟩

def requiresExpiryOnReceipt (policy : ProductLotPolicy) (receivedQuantity : ℚ) : Bool :=
  policy.trackExpiry && decide (0 < receivedQuantity)

def receiptExpirySatisfied (policy : ProductLotPolicy) (receivedQuantity : ℚ)
    (expiryDate : Option LotDate) : Bool :=
  if !requiresExpiryOnReceipt policy receivedQuantity then true else expiryDate.isSome

/-- BR-INV-003: an expiry date lies on or after the business date. -/
def isExpiryNotPast (expiryDate businessDate : LotDate) : Bool := businessDate ≤ expiryDate

def isExpiryAfterManufacturing (expiryDate manufacturingDate : LotDate) : Bool :=
  manufacturingDate < expiryDate

def isExpiryOnOrAfterReceived (expiryDate receivedDate : LotDate) : Bool :=
  receivedDate ≤ expiryDate

/-- The text of the first date rule the attributes break. -/
def validateLotDateAttributes (attributes : LotAttributes) (businessDate : LotDate) :
    Option String :=
  match attributes.receivedDate with
  | none => some "Received date is required"
  | some received =>
    match attributes.expiryDate with
    | none => none
    | some expiry =>
      if !isExpiryNotPast expiry businessDate then
        some ("Expiry date " ++ isoDateText expiry ++ " cannot be in the past")
      else if attributes.manufacturingDate.any fun mfg => !isExpiryAfterManufacturing expiry mfg then
        some "Expiry date must be after manufacturing date"
      else if !isExpiryOnOrAfterReceived expiry received then
        some "Expiry date must be on or after received date"
      else none

/-- Validate lot attributes on goods receipt and opening balance. -/
def validateReceiptLot (policy : ProductLotPolicy) (receivedQuantity : ℚ)
    (attributes : LotAttributes) (businessDate : LotDate) : LotValidationResult :=
  if !receiptExpirySatisfied policy receivedQuantity attributes.expiryDate then
    lotValidationFailure "Expiry date is required for products with expiry tracking enabled"
      "MISSING_EXPIRY_DATE" "BR-INV-011"
  else if 0 < receivedQuantity ∧ policy.trackExpiry = true ∧ attributes.expiryDate.isSome = true then
    match validateLotDateAttributes attributes businessDate with
    | some dateError => lotValidationFailure dateError "INVALID_EXPIRY_DATE" "BR-INV-003"
    | none => lotValidationOk
  else lotValidationOk

/-! ## INV-004 -/

structure LotInvariantViolation where
  code : String
  message : String
  deriving DecidableEq

/-- Statuses that permanently block inbound stock. -/
def NON_RECEIVABLE_LOT_STATUSES : List LotStoredStatus := [.DISPOSED, .ARCHIVED]

/-- Statuses that block allocation unless an override is recorded. -/
def NON_ALLOCATABLE_WITHOUT_OVERRIDE : List LotStoredStatus := [.RECALLED, .QUARANTINED, .BLOCKED]

/-- INV-004: a disposed or archived lot cannot receive stock. -/
def assertLotCanReceiveStock (status : LotStoredStatus) : Option LotInvariantViolation :=
  if status ∈ NON_RECEIVABLE_LOT_STATUSES then
    some ⟨"INV-004", "Lot in status " ++ status.text ++ " cannot receive stock"⟩
  else none

/-! ## Selection -/

/-- A lot as the selection engines see it. -/
structure SelectableLot where
  lotId : BatchId
  lotNumber : String
  productId : String
  remainingQuantity : ℚ
  costPrice : ℚ
  expiryDate : Option LotDate
  receivedDate : Option LotDate
  storeLocationId : Option StoreId
  /-- The projection row, needed to deduct from a store. -/
  productLotId : Option ProductLotId
  deriving DecidableEq

structure LotSelectionRequest where
  policy : SelectionPolicy
  lots : List SelectableLot
  quantity : ℚ
  businessDate : LotDate
  minDaysBeforeExpirySale : ℤ
  specificLotId : Option BatchId

structure LotSelectionLayer where
  lotId : BatchId
  lotNumber : String
  quantity : ℚ
  costPrice : ℚ
  expiryDate : Option LotDate
  deriving DecidableEq

structure LotSelectionResult where
  policy : SelectionPolicy
  layers : List LotSelectionLayer
  totalAllocated : ℚ
  totalCost : ℚ
  shortfall : ℚ
  deriving DecidableEq

def emptySelectionResult (policy : SelectionPolicy) (requestedQuantity : ℚ) :
    LotSelectionResult :=
  ⟨policy, [], 0, 0, max 0 requestedQuantity⟩

def resolveDefaultSelectionPolicy (trackExpiry : Bool) : SelectionPolicy :=
  if trackExpiry then .FEFO else .FIFO

/-- Calendar expiry and the product's sell buffer. -/
def isLotEligibleForSale (expiryDate : Option LotDate) (businessDate : LotDate)
    (minDaysBeforeExpirySale : ℤ) : Bool :=
  match expiryDate with
  | none => true
  | some expiry =>
    if expiry ≤ businessDate then false
    else if minDaysBeforeExpirySale ≤ 0 then true
    else businessDate + minDaysBeforeExpirySale < expiry

/-- The day number of 9999-12-31, which stands for a missing date when sorting. -/
def noDate : LotDate := 2932896

/-- `compareFefo(a, b) <= 0`: by expiry, then receipt, then lot number. -/
def fefoLe (localeLe : String → String → Bool) (a b : SelectableLot) : Bool :=
  let expA := a.expiryDate.getD noDate
  let expB := b.expiryDate.getD noDate
  if expA ≠ expB then expA < expB
  else
    let recA := a.receivedDate.getD noDate
    let recB := b.receivedDate.getD noDate
    if recA ≠ recB then recA < recB else localeLe a.lotNumber b.lotNumber

/-- `compareFifo(a, b) <= 0`: by receipt, then lot number. -/
def fifoLe (localeLe : String → String → Bool) (a b : SelectableLot) : Bool :=
  let recA := a.receivedDate.getD noDate
  let recB := b.receivedDate.getD noDate
  if recA ≠ recB then recA < recB else localeLe a.lotNumber b.lotNumber

def sortLotsFefo (localeLe : String → String → Bool) (lots : List SelectableLot) :
    List SelectableLot :=
  lots.insertionSort fun a b => fefoLe localeLe a b = true

def sortLotsFifo (localeLe : String → String → Bool) (lots : List SelectableLot) :
    List SelectableLot :=
  lots.insertionSort fun a b => fifoLe localeLe a b = true

def filterLotsEligibleForSelection (lots : List SelectableLot) (businessDate : LotDate)
    (minDaysBeforeExpirySale : ℤ) : List SelectableLot :=
  lots.filter fun lot =>
    decide (0 < lot.remainingQuantity) &&
      isLotEligibleForSale lot.expiryDate businessDate minDaysBeforeExpirySale

/-- The loop of `allocateFromSortedLots`: the layers taken and what is still
missing. -/
def allocateLayers : List SelectableLot → ℚ → List LotSelectionLayer × ℚ
  | [], remaining => ([], remaining)
  | lot :: rest, remaining =>
    if remaining ≤ 0 then ([], remaining)
    else
      let take := min remaining lot.remainingQuantity
      if take ≤ 0 then allocateLayers rest remaining
      else
        let tail := allocateLayers rest (remaining - take)
        (⟨lot.lotId, lot.lotNumber, take, lot.costPrice, lot.expiryDate⟩ :: tail.1, tail.2)

def allocateFromSortedLots (policy : SelectionPolicy) (sorted : List SelectableLot)
    (quantity : ℚ) : LotSelectionResult :=
  let allocated := allocateLayers sorted quantity
  let remaining := allocated.2
  let totalCost : ℚ := (allocated.1.map fun layer => layer.quantity * layer.costPrice).sum
  { policy := policy
    layers := allocated.1
    totalAllocated := quantity - max 0 remaining
    totalCost := ((⌊totalCost * 100 + 1 / 2⌋ : ℤ) : ℚ) / 100
    shortfall := max 0 remaining }

/-- The body the FEFO and FIFO engines share; they differ in name and order. -/
def selectSorted (policy : SelectionPolicy) (sort : List SelectableLot → List SelectableLot)
    (request : LotSelectionRequest) : LotSelectionResult :=
  match request.specificLotId with
  | some specificLotId =>
    match request.lots.find? fun l => l.lotId = specificLotId with
    | none => emptySelectionResult policy request.quantity
    | some lot => allocateFromSortedLots policy [lot] request.quantity
  | none =>
    let eligible := filterLotsEligibleForSelection request.lots request.businessDate
      request.minDaysBeforeExpirySale
    allocateFromSortedLots policy (sort eligible) request.quantity

/-- `FefoSelectionPolicy.select`. -/
def fefoSelect (localeLe : String → String → Bool) : LotSelectionRequest → LotSelectionResult :=
  selectSorted .FEFO (sortLotsFefo localeLe)

/-- `FifoSelectionPolicy.select`. -/
def fifoSelect (localeLe : String → String → Bool) : LotSelectionRequest → LotSelectionResult :=
  selectSorted .FIFO (sortLotsFifo localeLe)

/-- LIFO, and MANUAL without a specific lot, have no engine. -/
def selectLots (localeLe : String → String → Bool) (request : LotSelectionRequest) :
    LotSelectionResult :=
  match request.policy, request.specificLotId with
  | .MANUAL, some _ => fefoSelect localeLe request
  | .FEFO, _ => fefoSelect localeLe request
  | .FIFO, _ => fifoSelect localeLe request
  | .LIFO, _ => emptySelectionResult .LIFO request.quantity
  | .MANUAL, none => emptySelectionResult .MANUAL request.quantity

/-! ## What a selection takes -/

/-- A layer takes a positive quantity from one of the lots, and no more than the
lot has. -/
structure LayerOf (lots : List SelectableLot) (layer : LotSelectionLayer) : Prop where
  pos : 0 < layer.quantity
  covered : ∃ lot ∈ lots, lot.lotId = layer.lotId ∧ layer.quantity ≤ lot.remainingQuantity

theorem LayerOf.mono {lots lots' : List SelectableLot} {layer : LotSelectionLayer}
    (h : LayerOf lots layer) (hsub : ∀ lot ∈ lots, lot ∈ lots') : LayerOf lots' layer := by
  obtain ⟨lot, hmem, hid, hle⟩ := h.covered
  exact ⟨h.pos, lot, hsub lot hmem, hid, hle⟩

theorem layerOf_allocateLayers {lots : List SelectableLot} {quantity : ℚ}
    {layer : LotSelectionLayer} (h : layer ∈ (allocateLayers lots quantity).1) :
    LayerOf lots layer := by
  induction lots generalizing quantity with
  | nil => simp [allocateLayers] at h
  | cons lot rest ih =>
    have hrest : ∀ l ∈ rest, l ∈ lot :: rest := fun l hl => List.mem_cons_of_mem lot hl
    simp only [allocateLayers] at h
    split at h
    · simp at h
    · split at h
      · exact (ih h).mono hrest
      · rename_i htake
        rcases List.mem_cons.mp h with rfl | h
        · exact ⟨not_le.mp htake, lot, List.mem_cons_self, rfl, min_le_right _ _⟩
        · exact (ih h).mono hrest

theorem layerOf_allocateFromSortedLots {policy : SelectionPolicy} {sorted : List SelectableLot}
    {quantity : ℚ} {layer : LotSelectionLayer}
    (h : layer ∈ (allocateFromSortedLots policy sorted quantity).layers) : LayerOf sorted layer :=
  layerOf_allocateLayers h

theorem layerOf_selectSorted {policy : SelectionPolicy}
    {sort : List SelectableLot → List SelectableLot}
    (hsort : ∀ lots, ∀ lot ∈ sort lots, lot ∈ lots) {request : LotSelectionRequest}
    {layer : LotSelectionLayer} (h : layer ∈ (selectSorted policy sort request).layers) :
    LayerOf request.lots layer ∧ ∀ id, request.specificLotId = some id → layer.lotId = id := by
  unfold selectSorted at h
  cases hspec : request.specificLotId with
  | none =>
    simp only [hspec] at h
    refine ⟨(layerOf_allocateFromSortedLots h).mono fun lot hlot => ?_, by simp⟩
    exact List.mem_of_mem_filter (hsort _ lot hlot)
  | some specificLotId =>
    simp only [hspec] at h
    cases hfind : request.lots.find? fun l => l.lotId = specificLotId with
    | none =>
      simp [hfind, emptySelectionResult] at h
    | some lot =>
      simp only [hfind] at h
      have hlayer := layerOf_allocateFromSortedLots h
      have hid : lot.lotId = specificLotId := by simpa using List.find?_some hfind
      refine ⟨hlayer.mono fun l hl => ?_, ?_⟩
      · rw [List.mem_singleton.mp hl]
        exact List.mem_of_find?_eq_some hfind
      · intro id hid'
        obtain ⟨l, hl, hlid, -⟩ := hlayer.covered
        cases hid'
        rw [← hlid, List.mem_singleton.mp hl, hid]

/-- Every layer of a selection is a layer of the lots offered, and of the specific
lot when one is named. -/
theorem layerOf_selectLots {localeLe : String → String → Bool} {request : LotSelectionRequest}
    {layer : LotSelectionLayer} (h : layer ∈ (selectLots localeLe request).layers) :
    LayerOf request.lots layer ∧ ∀ id, request.specificLotId = some id → layer.lotId = id := by
  have hfefo : ∀ lots, ∀ lot ∈ sortLotsFefo localeLe lots, lot ∈ lots :=
    fun lots lot hlot => (List.mem_insertionSort _).mp hlot
  have hfifo : ∀ lots, ∀ lot ∈ sortLotsFifo localeLe lots, lot ∈ lots :=
    fun lots lot hlot => (List.mem_insertionSort _).mp hlot
  unfold selectLots at h
  split at h
  · exact layerOf_selectSorted hfefo h
  · exact layerOf_selectSorted hfefo h
  · exact layerOf_selectSorted hfifo h
  · simp [emptySelectionResult] at h
  · simp [emptySelectionResult] at h

end SmartErpPos.Lot
