/-
  Lot/FefoOrder.lean --- what the FEFO engine owes its callers.

  Source: `fefoEngine.ts` of `shared/inventory-lot`.

  The engine drops lots that may not be sold, sorts the rest by expiry, receipt and
  lot number, and takes from them in turn.  Dates that are missing are sorted as
  9999-12-31, so a lot that carries this date ties with one that has none; and two
  different lot numbers may be the same to `localeCompare`.  Where neither matters
  before the demand is met, the engine does what its name says; the order of the lots
  it is given plays no part then.
-/
import SmartErpPos.Lib.SortedDraw
import SmartErpPos.Lot.Rules

set_option autoImplicit false

namespace SmartErpPos.Lot

open SmartErpPos.Lib

/-! ## The rule -/

/-- Something is left, and the lot outlives the date by the shelf life that is asked for. -/
def IsEligible (businessDate : LotDate) (minDaysBeforeExpirySale : ℤ) (lot : SelectableLot) : Prop :=
  0 < lot.remainingQuantity ∧
    ∀ expiry ∈ lot.expiryDate, businessDate + max 0 minDaysBeforeExpirySale < expiry

instance (businessDate : LotDate) (minDaysBeforeExpirySale : ℤ) (lot : SelectableLot) :
    Decidable (IsEligible businessDate minDaysBeforeExpirySale lot) :=
  inferInstanceAs (Decidable (_ ∧ _))

/-- An earlier date; a missing one is last. -/
def DateBefore : Option LotDate → Option LotDate → Prop
  | some a, some b => a < b
  | some _, none => True
  | none, _ => False

instance : DecidableRel DateBefore
  | some a, some b => inferInstanceAs (Decidable (a < b))
  | some _, none => inferInstanceAs (Decidable True)
  | none, _ => inferInstanceAs (Decidable False)

/-- First expiry, then receipt, then lot number. -/
def Precedes (localeLe : String → String → Bool) (a b : SelectableLot) : Prop :=
  DateBefore a.expiryDate b.expiryDate ∨ (a.expiryDate = b.expiryDate ∧
    (DateBefore a.receivedDate b.receivedDate ∨ (a.receivedDate = b.receivedDate ∧
      ¬ localeLe b.lotNumber a.lotNumber = true)))

instance (localeLe : String → String → Bool) : DecidableRel (Precedes localeLe) :=
  fun _ _ => inferInstanceAs (Decidable (_ ∨ _))

/-- A request for a quantity of any of the lots. -/
def fefoRequest (lots : List SelectableLot) (businessDate : LotDate)
    (minDaysBeforeExpirySale : ℤ) (quantity : ℚ) : LotSelectionRequest where
  policy := .FEFO
  lots := lots
  quantity := quantity
  businessDate := businessDate
  minDaysBeforeExpirySale := minDaysBeforeExpirySale
  specificLotId := none

/-- What a selection takes from a lot. -/
def LotSelectionResult.takenFrom (result : LotSelectionResult) (lot : SelectableLot) : ℚ :=
  ((result.layers.filter fun layer => layer.lotNumber = lot.lotNumber).map (·.quantity)).sum

/-- The layer that takes a quantity from a lot. -/
def SelectableLot.layer (lot : SelectableLot) (quantity : ℚ) : LotSelectionLayer where
  lotId := lot.lotId
  lotNumber := lot.lotNumber
  quantity := quantity
  costPrice := lot.costPrice
  expiryDate := lot.expiryDate

/-- A selection as it should be: it gives what is wanted or all there is, from eligible lots
only, and goes on to a lot when those that precede it are used up. -/
structure SelectionCorrect (localeLe : String → String → Bool) (lots eligible : List SelectableLot)
    (quantity : ℚ) (result : LotSelectionResult) : Prop where
  allocated : result.totalAllocated = min quantity (eligible.map (·.remainingQuantity)).sum
  layersTotal : (result.layers.map (·.quantity)).sum = max 0 result.totalAllocated
  complete : result.totalAllocated + result.shortfall = quantity
  eligibleOnly : ∀ layer ∈ result.layers, 0 < layer.quantity ∧
    ∃ lot ∈ eligible, layer = lot.layer layer.quantity
  available : ∀ lot ∈ lots, result.takenFrom lot ≤ max 0 lot.remainingQuantity
  inOrder : ∀ a ∈ eligible, ∀ b ∈ lots, Precedes localeLe a b → 0 < result.takenFrom b →
    result.takenFrom a = a.remainingQuantity

section Selection

variable (localeLe : String → String → Bool) (lots : List SelectableLot) (businessDate : LotDate)
  (minDaysBeforeExpirySale : ℤ) (quantity : ℚ)

/-- The lots that may be sold. -/
def eligibleLots : List SelectableLot :=
  lots.filter fun lot => IsEligible businessDate minDaysBeforeExpirySale lot

/-- The engine's answer. -/
def fefoResult : LotSelectionResult :=
  fefoSelect localeLe (fefoRequest lots businessDate minDaysBeforeExpirySale quantity)

/-- The engine's answer is as it should be, and the order of the lots plays no part. -/
structure FefoCorrect : Prop where
  selection : SelectionCorrect localeLe lots
    (eligibleLots lots businessDate minDaysBeforeExpirySale) quantity
    (fefoResult localeLe lots businessDate minDaysBeforeExpirySale quantity)
  anyOrder : ∀ lots', lots.Perm lots' →
    (fefoResult localeLe lots' businessDate minDaysBeforeExpirySale quantity).layers =
      (fefoResult localeLe lots businessDate minDaysBeforeExpirySale quantity).layers

/-- What the lots hold that the engine's comparison puts strictly before a lot. -/
def availableBefore (lot : SelectableLot) : ℚ :=
  (((eligibleLots lots businessDate minDaysBeforeExpirySale).filter fun other =>
    ¬ fefoLe localeLe lot other = true).map (·.remainingQuantity)).sum

/-- Before the demand is met, the engine's comparison tells all eligible lots apart, and puts
them in the order of the rule. -/
structure OrderDecided : Prop where
  noTie : ∀ a ∈ eligibleLots lots businessDate minDaysBeforeExpirySale,
    ∀ b ∈ eligibleLots lots businessDate minDaysBeforeExpirySale, a ≠ b →
      fefoLe localeLe a b = true → fefoLe localeLe b a = true →
        quantity ≤ availableBefore localeLe lots businessDate minDaysBeforeExpirySale b
  asRuled : ∀ a ∈ eligibleLots lots businessDate minDaysBeforeExpirySale,
    ∀ b ∈ eligibleLots lots businessDate minDaysBeforeExpirySale, Precedes localeLe a b →
      ¬ fefoLe localeLe a b = true →
        availableBefore localeLe lots businessDate minDaysBeforeExpirySale b < quantity →
          availableBefore localeLe lots businessDate minDaysBeforeExpirySale a +
            a.remainingQuantity ≤ quantity

end Selection

/-! ## The comparison -/

theorem fefoLe_iff {localeLe : String → String → Bool} {a b : SelectableLot} :
    fefoLe localeLe a b = true ↔ a.expiryDate.getD noDate < b.expiryDate.getD noDate ∨
      (a.expiryDate.getD noDate = b.expiryDate.getD noDate ∧
        (a.receivedDate.getD noDate < b.receivedDate.getD noDate ∨
          (a.receivedDate.getD noDate = b.receivedDate.getD noDate ∧
            localeLe a.lotNumber b.lotNumber = true))) := by
  unfold fefoLe
  dsimp only
  split
  · rename_i hne
    simp [hne]
  · rename_i heq
    rw [ne_eq, not_not] at heq
    split
    · rename_i hne
      simp [heq, hne]
    · rename_i heq'
      rw [ne_eq, not_not] at heq'
      simp [heq, heq']

section Comparison

variable {localeLe : String → String → Bool}
  (htotal : ∀ x y, localeLe x y = true ∨ localeLe y x = true)
  (htrans : ∀ x y z, localeLe x y = true → localeLe y z = true → localeLe x z = true)

include htotal in
theorem fefoLe_total : Std.Total fun a b => fefoLe localeLe a b = true := by
  refine ⟨fun a b => ?_⟩
  rw [fefoLe_iff, fefoLe_iff]
  rcases lt_trichotomy (a.expiryDate.getD noDate) (b.expiryDate.getD noDate) with h | h | h
  · exact .inl (.inl h)
  · rcases lt_trichotomy (a.receivedDate.getD noDate) (b.receivedDate.getD noDate) with h' | h' | h'
    · exact .inl (.inr ⟨h, .inl h'⟩)
    · exact (htotal a.lotNumber b.lotNumber).imp (fun hl => .inr ⟨h, .inr ⟨h', hl⟩⟩)
        fun hl => .inr ⟨h.symm, .inr ⟨h'.symm, hl⟩⟩
    · exact .inr (.inr ⟨h.symm, .inl h'⟩)
  · exact .inr (.inl h)

include htrans in
theorem fefoLe_trans : IsTrans SelectableLot fun a b => fefoLe localeLe a b = true := by
  refine ⟨fun a b c hab hbc => ?_⟩
  rw [fefoLe_iff] at hab hbc ⊢
  rcases hab with hab | ⟨hab, hab'⟩
  · rcases hbc with hbc | ⟨hbc, -⟩
    · exact .inl (hab.trans hbc)
    · exact .inl (hbc ▸ hab)
  · rcases hbc with hbc | ⟨hbc, hbc'⟩
    · exact .inl (hab ▸ hbc)
    · refine .inr ⟨hab.trans hbc, ?_⟩
      rcases hab' with hab' | ⟨hab', hl⟩
      · rcases hbc' with hbc' | ⟨hbc', -⟩
        · exact .inl (hab'.trans hbc')
        · exact .inl (hbc' ▸ hab')
      · rcases hbc' with hbc' | ⟨hbc', hl'⟩
        · exact .inl (hab' ▸ hbc')
        · exact .inr ⟨hab'.trans hbc', htrans _ _ _ hl hl'⟩

end Comparison

/-! ## The engine as a draw -/

/-- On lots that hold something the loop is a draw from them in turn. -/
theorem allocateLayers_eq {lots : List SelectableLot}
    (hpos : ∀ lot ∈ lots, 0 < lot.remainingQuantity) (quantity : ℚ) :
    (allocateLayers lots quantity).1 =
        (draws (·.remainingQuantity) lots quantity).map (fun p => p.1.layer p.2) ∧
      (allocateLayers lots quantity).2 =
        quantity - ((draws (·.remainingQuantity) lots quantity).map Prod.snd).sum := by
  induction lots generalizing quantity with
  | nil => simp [allocateLayers, draws]
  | cons lot rest ih =>
    obtain ⟨hlot, hrest⟩ := List.forall_mem_cons.mp hpos
    rcases le_or_gt quantity 0 with hnone | hsome
    · rw [draws_of_nonpos hnone]
      simp [allocateLayers, hnone]
    · have htake : ¬ min quantity lot.remainingQuantity ≤ 0 := not_le.mpr (lt_min hsome hlot)
      obtain ⟨hlayers, hleft⟩ := ih hrest (quantity - min quantity lot.remainingQuantity)
      rw [draws_cons_of_pos hsome]
      simp only [allocateLayers, not_le.mpr hsome, htake, if_false, hlayers, hleft,
        List.map_cons, List.sum_cons]
      exact ⟨rfl, by ring⟩

theorem add_max_zero_lt_iff (day minDays expiry : ℤ) :
    day + max 0 minDays < expiry ↔ day < expiry ∧ (minDays ≤ 0 ∨ day + minDays < expiry) := by
  omega

theorem isLotEligibleForSale_iff {expiryDate : Option LotDate} {businessDate : LotDate}
    {minDaysBeforeExpirySale : ℤ} :
    isLotEligibleForSale expiryDate businessDate minDaysBeforeExpirySale = true ↔
      ∀ expiry ∈ expiryDate, businessDate + max 0 minDaysBeforeExpirySale < expiry := by
  cases expiryDate with
  | none => simp [isLotEligibleForSale]
  | some expiry =>
    simp only [isLotEligibleForSale, Option.mem_some_iff, forall_eq']
    rw [add_max_zero_lt_iff]
    split
    · rename_i hexpired
      simp [not_lt.mpr hexpired]
    · rename_i hfresh
      split
      · rename_i hnone
        simp [not_le.mp hfresh, hnone]
      · rename_i hsome
        simp [not_le.mp hfresh, hsome]

theorem filterLots_eq (lots : List SelectableLot) (businessDate : LotDate)
    (minDaysBeforeExpirySale : ℤ) :
    filterLotsEligibleForSelection lots businessDate minDaysBeforeExpirySale =
      eligibleLots lots businessDate minDaysBeforeExpirySale := by
  refine List.filter_congr fun lot _ => ?_
  rw [Bool.eq_iff_iff, Bool.and_eq_true, decide_eq_true_iff, isLotEligibleForSale_iff,
    decide_eq_true_iff]
  rfl

/-! ## What the engine takes -/

section Taken

variable {localeLe : String → String → Bool} {lots : List SelectableLot} {businessDate : LotDate}
  {minDaysBeforeExpirySale : ℤ} {quantity : ℚ}

theorem mem_eligibleLots {lot : SelectableLot} :
    lot ∈ eligibleLots lots businessDate minDaysBeforeExpirySale ↔
      lot ∈ lots ∧ IsEligible businessDate minDaysBeforeExpirySale lot := by
  simp [eligibleLots]

theorem eligible_pos : ∀ lot ∈ eligibleLots lots businessDate minDaysBeforeExpirySale,
    0 < lot.remainingQuantity := fun _ h => (mem_eligibleLots.mp h).2.1

/-- The eligible lots as the engine sorts them. -/
def sortedLots (localeLe : String → String → Bool) (lots : List SelectableLot)
    (businessDate : LotDate) (minDaysBeforeExpirySale : ℤ) : List SelectableLot :=
  (eligibleLots lots businessDate minDaysBeforeExpirySale).insertionSort
    fun a b => fefoLe localeLe a b = true

theorem sortedLots_perm : (sortedLots localeLe lots businessDate minDaysBeforeExpirySale).Perm
    (eligibleLots lots businessDate minDaysBeforeExpirySale) := List.perm_insertionSort _ _

theorem sorted_pos : ∀ lot ∈ sortedLots localeLe lots businessDate minDaysBeforeExpirySale,
    0 < lot.remainingQuantity := fun lot h => eligible_pos lot (sortedLots_perm.mem_iff.mp h)

/-- What each eligible lot gives. -/
def lotDraws (localeLe : String → String → Bool) (lots : List SelectableLot)
    (businessDate : LotDate) (minDaysBeforeExpirySale : ℤ) (quantity : ℚ) :
    List (SelectableLot × ℚ) :=
  draws (·.remainingQuantity) (sortedLots localeLe lots businessDate minDaysBeforeExpirySale) quantity

theorem fefoResult_eq : fefoResult localeLe lots businessDate minDaysBeforeExpirySale quantity =
    allocateFromSortedLots .FEFO
      (sortedLots localeLe lots businessDate minDaysBeforeExpirySale) quantity := by
  show allocateFromSortedLots .FEFO (sortLotsFefo localeLe
    (filterLotsEligibleForSelection lots businessDate minDaysBeforeExpirySale)) quantity = _
  rw [filterLots_eq]
  rfl

theorem fefoResult_layers :
    (fefoResult localeLe lots businessDate minDaysBeforeExpirySale quantity).layers =
      (lotDraws localeLe lots businessDate minDaysBeforeExpirySale quantity).map
        fun p => p.1.layer p.2 := by
  rw [fefoResult_eq]
  exact (allocateLayers_eq sorted_pos quantity).1

/-- What is missing at the end. -/
theorem fefoResult_shortfall :
    (fefoResult localeLe lots businessDate minDaysBeforeExpirySale quantity).shortfall =
      max 0 (quantity - ((lotDraws localeLe lots businessDate minDaysBeforeExpirySale
        quantity).map Prod.snd).sum) := by
  rw [fefoResult_eq]
  show max 0 (allocateLayers _ quantity).2 = _
  rw [(allocateLayers_eq sorted_pos quantity).2]
  rfl

theorem fefoResult_totalAllocated :
    (fefoResult localeLe lots businessDate minDaysBeforeExpirySale quantity).totalAllocated =
      quantity - (fefoResult localeLe lots businessDate minDaysBeforeExpirySale
        quantity).shortfall := by
  rw [fefoResult_eq]
  rfl

/-- Lots with different numbers: what is taken under a lot's number is what it gives. -/
theorem takenFrom_eq (hdistinct : (lots.map (·.lotNumber)).Nodup) {lot : SelectableLot}
    (hlot : lot ∈ lots) :
    (fefoResult localeLe lots businessDate minDaysBeforeExpirySale quantity).takenFrom lot =
      drawn (lotDraws localeLe lots businessDate minDaysBeforeExpirySale quantity) lot := by
  unfold LotSelectionResult.takenFrom drawn
  rw [fefoResult_layers, List.filter_map, List.map_map]
  congr 1
  have hsame : (lotDraws localeLe lots businessDate minDaysBeforeExpirySale quantity).filter
      ((fun layer => decide (layer.lotNumber = lot.lotNumber)) ∘ fun p => p.1.layer p.2) =
      (lotDraws localeLe lots businessDate minDaysBeforeExpirySale quantity).filter
        fun p => p.1 = lot := by
    refine List.filter_congr fun p hp => ?_
    have hmem : p.1 ∈ lots :=
      (mem_eligibleLots.mp (sortedLots_perm.mem_iff.mp (mem_draws sorted_pos hp).1)).1
    show decide (p.1.lotNumber = lot.lotNumber) = _
    rw [decide_eq_decide]
    exact ⟨fun h => List.inj_on_of_nodup_map hdistinct hmem hlot h, fun h => h ▸ rfl⟩
  rw [hsame]
  rfl

/-- Nothing comes from a lot that is not eligible. -/
theorem drawn_of_not_eligible {lot : SelectableLot}
    (h : lot ∉ eligibleLots lots businessDate minDaysBeforeExpirySale) :
    drawn (lotDraws localeLe lots businessDate minDaysBeforeExpirySale quantity) lot = 0 := by
  refine drawn_of_not_mem fun p hp heq => h ?_
  exact heq ▸ sortedLots_perm.mem_iff.mp (mem_draws sorted_pos hp).1

/-- The quantities of the layers add up to what the lots give. -/
theorem sum_layers :
    ((fefoResult localeLe lots businessDate minDaysBeforeExpirySale quantity).layers.map
      (·.quantity)).sum =
    ((lotDraws localeLe lots businessDate minDaysBeforeExpirySale quantity).map Prod.snd).sum := by
  rw [fefoResult_layers, List.map_map]
  rfl

/-- All that is there, or all that is wanted. -/
theorem sum_lotDraws :
    ((lotDraws localeLe lots businessDate minDaysBeforeExpirySale quantity).map Prod.snd).sum =
      max 0 (min quantity ((eligibleLots lots businessDate minDaysBeforeExpirySale).map
        (·.remainingQuantity)).sum) := by
  have htotal : capTotal (·.remainingQuantity)
      (sortedLots localeLe lots businessDate minDaysBeforeExpirySale) =
      ((eligibleLots lots businessDate minDaysBeforeExpirySale).map (·.remainingQuantity)).sum :=
    capTotal_perm sortedLots_perm
  have hnonneg : 0 ≤ capTotal (·.remainingQuantity)
      (sortedLots localeLe lots businessDate minDaysBeforeExpirySale) := capTotal_nonneg sorted_pos
  unfold lotDraws
  rw [← htotal]
  rcases le_or_gt quantity 0 with hnone | hsome
  · rw [draws_of_nonpos hnone, max_eq_left (le_trans (min_le_left _ _) hnone)]
    rfl
  · rw [sum_draws sorted_pos hsome.le, max_eq_right (le_min hsome.le hnonneg)]

/-- The reported total is the smaller of what is wanted and what is there. -/
theorem totalAllocated_eq :
    (fefoResult localeLe lots businessDate minDaysBeforeExpirySale quantity).totalAllocated =
      min quantity ((eligibleLots lots businessDate minDaysBeforeExpirySale).map
        (·.remainingQuantity)).sum := by
  have hnonneg : 0 ≤ ((eligibleLots lots businessDate minDaysBeforeExpirySale).map
      (·.remainingQuantity)).sum := capTotal_nonneg eligible_pos
  rw [fefoResult_totalAllocated, fefoResult_shortfall, sum_lotDraws]
  generalize ((eligibleLots lots businessDate minDaysBeforeExpirySale).map
    (·.remainingQuantity)).sum = total at hnonneg
  rcases le_total quantity total with hle | hle
  · rw [min_eq_left hle]
    rcases le_total 0 quantity with hq | hq
    · rw [max_eq_right hq, sub_self, max_self, sub_zero]
    · rw [max_eq_left hq, sub_zero, max_eq_left hq, sub_zero]
  · rw [min_eq_right hle, max_eq_right hnonneg, max_eq_right (sub_nonneg.mpr hle), sub_sub_cancel]

/-- No lot gives more than it has. -/
theorem takenFrom_le (hdistinct : (lots.map (·.lotNumber)).Nodup) {lot : SelectableLot}
    (hlot : lot ∈ lots) :
    (fefoResult localeLe lots businessDate minDaysBeforeExpirySale quantity).takenFrom lot ≤
      max 0 lot.remainingQuantity := by
  rw [takenFrom_eq hdistinct hlot]
  by_cases heligible : lot ∈ eligibleLots lots businessDate minDaysBeforeExpirySale
  · have hsorted : lot ∈ sortedLots localeLe lots businessDate minDaysBeforeExpirySale :=
      sortedLots_perm.mem_iff.mpr heligible
    have hnodup : (sortedLots localeLe lots businessDate minDaysBeforeExpirySale).Nodup :=
      sortedLots_perm.nodup_iff.mpr (hdistinct.of_map.filter _)
    exact le_max_of_le_right (drawn_le sorted_pos hnodup hsorted)
  · rw [drawn_of_not_eligible heligible]
    exact le_max_left _ _

/-- Apart from the order, the engine's answer is always as it should be. -/
theorem selectionCorrect_of_inOrder (hdistinct : (lots.map (·.lotNumber)).Nodup)
    (horder : ∀ a ∈ eligibleLots lots businessDate minDaysBeforeExpirySale, ∀ b ∈ lots,
      Precedes localeLe a b →
        0 < (fefoResult localeLe lots businessDate minDaysBeforeExpirySale quantity).takenFrom b →
          (fefoResult localeLe lots businessDate minDaysBeforeExpirySale quantity).takenFrom a =
            a.remainingQuantity) :
    SelectionCorrect localeLe lots (eligibleLots lots businessDate minDaysBeforeExpirySale) quantity
      (fefoResult localeLe lots businessDate minDaysBeforeExpirySale quantity) where
  allocated := totalAllocated_eq
  layersTotal := by rw [sum_layers, sum_lotDraws, totalAllocated_eq]
  complete := by
    rw [fefoResult_totalAllocated]
    exact sub_add_cancel _ _
  eligibleOnly := by
    intro layer hlayer
    rw [fefoResult_layers] at hlayer
    obtain ⟨p, hp, rfl⟩ := List.mem_map.mp hlayer
    obtain ⟨hmem, hpos, -⟩ := mem_draws sorted_pos hp
    exact ⟨hpos, p.1, sortedLots_perm.mem_iff.mp hmem, rfl⟩
  available := fun _ hlot => takenFrom_le hdistinct hlot
  inOrder := horder

end Taken

/-! ## When the order is right -/

section Order

variable {localeLe : String → String → Bool}
  (htotal : ∀ x y, localeLe x y = true ∨ localeLe y x = true)
  (htrans : ∀ x y z, localeLe x y = true → localeLe y z = true → localeLe x z = true)
  {lots : List SelectableLot} {businessDate : LotDate} {minDaysBeforeExpirySale : ℤ} {quantity : ℚ}

/-- Lists that a map sends to one list are equal when the map tells their elements apart. -/
theorem eq_of_map_eq {A C : Type} {f : A → C} {l l' : List A}
    (hinj : ∀ a ∈ l, ∀ b ∈ l', f a = f b → a = b) (h : l.map f = l'.map f) : l = l' := by
  induction l generalizing l' with
  | nil =>
    cases l' with
    | nil => rfl
    | cons b l' => cases h
  | cons a l ih =>
    cases l' with
    | nil => cases h
    | cons b l' =>
      obtain ⟨hhead, htail⟩ := List.cons.inj h
      rw [hinj a List.mem_cons_self b List.mem_cons_self hhead,
        ih (fun x hx y hy => hinj x (List.mem_cons_of_mem a hx) y (List.mem_cons_of_mem b hy)) htail]

/-- The eligible lots can be put in any order. -/
theorem exists_lots_of_perm {eligible : List SelectableLot}
    (hperm : (eligibleLots lots businessDate minDaysBeforeExpirySale).Perm eligible) :
    ∃ lots', lots.Perm lots' ∧ eligibleLots lots' businessDate minDaysBeforeExpirySale = eligible := by
  refine ⟨eligible ++ lots.filter fun lot =>
    !decide (IsEligible businessDate minDaysBeforeExpirySale lot), ?_, ?_⟩
  · exact (List.filter_append_perm _ lots).symm.trans (hperm.append_right _)
  · have hfront : ∀ lot ∈ eligible, decide (IsEligible businessDate minDaysBeforeExpirySale lot) =
        true := by
      intro lot hlot
      exact decide_eq_true (mem_eligibleLots.mp (hperm.mem_iff.mpr hlot)).2
    unfold eligibleLots
    rw [List.filter_append, List.filter_eq_self.mpr hfront, List.filter_filter,
      List.filter_eq_nil_iff.mpr fun lot _ => by simp, List.append_nil]

/-- Equal layers come from equal draws. -/
theorem lotDraws_eq_of_layers (hdistinct : (lots.map (·.lotNumber)).Nodup)
    {lots' : List SelectableLot} (hperm : lots.Perm lots')
    (h : (fefoResult localeLe lots' businessDate minDaysBeforeExpirySale quantity).layers =
      (fefoResult localeLe lots businessDate minDaysBeforeExpirySale quantity).layers) :
    lotDraws localeLe lots' businessDate minDaysBeforeExpirySale quantity =
      lotDraws localeLe lots businessDate minDaysBeforeExpirySale quantity := by
  rw [fefoResult_layers, fefoResult_layers] at h
  refine eq_of_map_eq (fun p hp q hq heq => ?_) h
  have hmem : ∀ {l : List SelectableLot} {p}, p ∈ lotDraws localeLe l businessDate
      minDaysBeforeExpirySale quantity → p.1 ∈ l := fun hp =>
    (mem_eligibleLots.mp (sortedLots_perm.mem_iff.mp (mem_draws sorted_pos hp).1)).1
  have hlot : p.1 = q.1 := List.inj_on_of_nodup_map hdistinct (hperm.mem_iff.mpr (hmem hp))
    (hmem hq) (congrArg LotSelectionLayer.lotNumber heq)
  exact Prod.ext hlot (congrArg LotSelectionLayer.quantity heq)

theorem availableBefore_eq (lot : SelectableLot) :
    availableBefore localeLe lots businessDate minDaysBeforeExpirySale lot =
      strictTotal (fun a b => fefoLe localeLe a b = true) (·.remainingQuantity)
        (eligibleLots lots businessDate minDaysBeforeExpirySale) lot := rfl

include htotal htrans in
/-- Where no tie is reached, what a lot gives is decided by what comes before it. -/
theorem takenFrom_of_noTie (hdistinct : (lots.map (·.lotNumber)).Nodup)
    (hsettled : Settled (fun a b => fefoLe localeLe a b = true) (·.remainingQuantity)
      (eligibleLots lots businessDate minDaysBeforeExpirySale) quantity) {lot : SelectableLot}
    (hlot : lot ∈ eligibleLots lots businessDate minDaysBeforeExpirySale) :
    (fefoResult localeLe lots businessDate minDaysBeforeExpirySale quantity).takenFrom lot =
      max 0 (min (quantity - availableBefore localeLe lots businessDate minDaysBeforeExpirySale lot)
        lot.remainingQuantity) := by
  have := fefoLe_total htotal
  have := fefoLe_trans htrans
  have hperm : (sortedLots localeLe lots businessDate minDaysBeforeExpirySale).Perm
      (eligibleLots lots businessDate minDaysBeforeExpirySale) := sortedLots_perm
  rw [takenFrom_eq hdistinct (mem_eligibleLots.mp hlot).1, availableBefore_eq,
    ← strictTotal_perm hperm]
  exact drawn_eq sorted_pos (hperm.nodup_iff.mpr (hdistinct.of_map.filter _))
    (List.pairwise_insertionSort _ _) (hsettled.perm hperm.symm) (hperm.mem_iff.mpr hlot)

theorem not_dateBefore_self (date : Option LotDate) : ¬ DateBefore date date := by
  cases date with
  | none => exact id
  | some day => exact lt_irrefl day

include htotal in
theorem Precedes.ne {a b : SelectableLot} (h : Precedes localeLe a b) : a ≠ b := by
  rintro rfl
  rcases h with h | ⟨-, h | ⟨-, h⟩⟩
  · exact not_dateBefore_self _ h
  · exact not_dateBefore_self _ h
  · exact h ((htotal a.lotNumber a.lotNumber).elim id id)

/-- A lot that gives something holds something and may be sold. -/
theorem eligible_of_taken (hdistinct : (lots.map (·.lotNumber)).Nodup) {lot : SelectableLot}
    (hlot : lot ∈ lots)
    (htaken : 0 < (fefoResult localeLe lots businessDate minDaysBeforeExpirySale
      quantity).takenFrom lot) :
    lot ∈ eligibleLots lots businessDate minDaysBeforeExpirySale := by
  by_contra hnot
  rw [takenFrom_eq hdistinct hlot, drawn_of_not_eligible hnot] at htaken
  exact lt_irrefl 0 htaken

/-- A bounded share of something positive is all of it, or part of it. -/
theorem max_min_eq_iff {rest cap : ℚ} (hcap : 0 < cap) :
    max 0 (min rest cap) = cap ↔ cap ≤ rest := by
  constructor
  · intro h
    by_contra hlt
    have hless : max 0 (min rest cap) < cap :=
      max_lt hcap (lt_of_le_of_lt (min_le_left _ _) (not_le.mp hlt))
    exact absurd h hless.ne
  · intro h
    rw [min_eq_right h, max_eq_right hcap.le]

theorem max_min_pos_iff {rest cap : ℚ} (hcap : 0 < cap) :
    0 < max 0 (min rest cap) ↔ 0 < rest := by
  rw [lt_max_iff, lt_min_iff]
  exact ⟨fun h => (h.resolve_left (lt_irrefl 0)).1, fun h => .inr ⟨h, hcap⟩⟩

include htotal htrans in
theorem orderDecided_of_correct (hdistinct : (lots.map (·.lotNumber)).Nodup)
    (h : FefoCorrect localeLe lots businessDate minDaysBeforeExpirySale quantity) :
    OrderDecided localeLe lots businessDate minDaysBeforeExpirySale quantity := by
  have := fefoLe_total htotal
  have := fefoLe_trans htrans
  have hsettled : Settled (fun a b => fefoLe localeLe a b = true) (·.remainingQuantity)
      (eligibleLots lots businessDate minDaysBeforeExpirySale) quantity := by
    refine settled_of_draws_eq eligible_pos fun eligible hperm => ?_
    obtain ⟨lots', hlots', heligible⟩ := exists_lots_of_perm hperm
    have hdraws := lotDraws_eq_of_layers hdistinct hlots' (h.anyOrder lots' hlots')
    unfold lotDraws sortedLots at hdraws
    rwa [heligible] at hdraws
  refine ⟨hsettled, fun a ha b hb hab _ hmore => ?_⟩
  have hb' := eligible_pos b hb
  have htakenB := takenFrom_of_noTie htotal htrans hdistinct hsettled hb
  have htakenA := takenFrom_of_noTie htotal htrans hdistinct hsettled ha
  have hpos : 0 < (fefoResult localeLe lots businessDate minDaysBeforeExpirySale
      quantity).takenFrom b := by
    rw [htakenB, max_min_pos_iff hb']
    exact sub_pos.mpr hmore
  have hall := h.selection.inOrder a ha b (mem_eligibleLots.mp hb).1 hab hpos
  rw [htakenA, max_min_eq_iff (eligible_pos a ha)] at hall
  exact le_sub_iff_add_le'.mp hall

include htotal htrans in
theorem correct_of_orderDecided (hdistinct : (lots.map (·.lotNumber)).Nodup)
    (h : OrderDecided localeLe lots businessDate minDaysBeforeExpirySale quantity) :
    FefoCorrect localeLe lots businessDate minDaysBeforeExpirySale quantity := by
  have := fefoLe_total htotal
  have := fefoLe_trans htrans
  have hsettled : Settled (fun a b => fefoLe localeLe a b = true) (·.remainingQuantity)
      (eligibleLots lots businessDate minDaysBeforeExpirySale) quantity := h.noTie
  refine ⟨selectionCorrect_of_inOrder hdistinct fun a ha b hb hab htaken => ?_,
    fun lots' hlots' => ?_⟩
  · have hbE := eligible_of_taken hdistinct hb htaken
    rw [takenFrom_of_noTie htotal htrans hdistinct hsettled hbE,
      max_min_pos_iff (eligible_pos b hbE)] at htaken
    have hreached := sub_pos.mp htaken
    rw [takenFrom_of_noTie htotal htrans hdistinct hsettled ha,
      max_min_eq_iff (eligible_pos a ha), le_sub_iff_add_le']
    by_cases hle : fefoLe localeLe a b = true
    · have hstrict : ¬ fefoLe localeLe b a = true := fun hba =>
        absurd (h.noTie a ha b hbE (Precedes.ne htotal hab) hle hba) (not_le.mpr hreached)
      have hbefore : availableBefore localeLe lots businessDate minDaysBeforeExpirySale a +
          a.remainingQuantity ≤
            availableBefore localeLe lots businessDate minDaysBeforeExpirySale b := by
        rw [availableBefore_eq, availableBefore_eq]
        exact strictTotal_add_le (r := fun a b => fefoLe localeLe a b = true) eligible_pos ha hstrict
      exact hbefore.trans hreached.le
    · exact h.asRuled a ha b hbE hab hle hreached
  · have hperm : (eligibleLots lots businessDate minDaysBeforeExpirySale).Perm
        (eligibleLots lots' businessDate minDaysBeforeExpirySale) := hlots'.filter _
    have hsorted : (sortedLots localeLe lots businessDate minDaysBeforeExpirySale).Perm
        (sortedLots localeLe lots' businessDate minDaysBeforeExpirySale) :=
      (sortedLots_perm.trans hperm).trans sortedLots_perm.symm
    rw [fefoResult_layers, fefoResult_layers]
    congr 1
    exact (draws_eq_of_settled hsorted sorted_pos (List.pairwise_insertionSort _ _)
      (List.pairwise_insertionSort _ _) (hsettled.perm sortedLots_perm.symm)).symm

/-- The engine allocates what is wanted or all there is, from eligible lots only, in the order of
expiry, receipt and lot number, and whatever the order of its input, exactly when its comparison
decides that order before the demand is met. -/
theorem fefoCorrect_iff (localeLe : String → String → Bool)
    (htotal : ∀ x y, localeLe x y = true ∨ localeLe y x = true)
    (htrans : ∀ x y z, localeLe x y = true → localeLe y z = true → localeLe x z = true)
    (lots : List SelectableLot) (hdistinct : (lots.map (·.lotNumber)).Nodup)
    (businessDate : LotDate) (minDaysBeforeExpirySale : ℤ) (quantity : ℚ) :
    FefoCorrect localeLe lots businessDate minDaysBeforeExpirySale quantity ↔
      OrderDecided localeLe lots businessDate minDaysBeforeExpirySale quantity :=
  ⟨orderDecided_of_correct htotal htrans hdistinct, correct_of_orderDecided htotal htrans hdistinct⟩

end Order

/-! ## Two shelves -/

instance (localeLe : String → String → Bool) (lots : List SelectableLot) (businessDate : LotDate)
    (minDaysBeforeExpirySale : ℤ) (quantity : ℚ) :
    Decidable (OrderDecided localeLe lots businessDate minDaysBeforeExpirySale quantity) :=
  decidable_of_iff
    ((∀ a ∈ eligibleLots lots businessDate minDaysBeforeExpirySale,
      ∀ b ∈ eligibleLots lots businessDate minDaysBeforeExpirySale, a ≠ b →
        fefoLe localeLe a b = true → fefoLe localeLe b a = true →
          quantity ≤ availableBefore localeLe lots businessDate minDaysBeforeExpirySale b) ∧
      ∀ a ∈ eligibleLots lots businessDate minDaysBeforeExpirySale,
        ∀ b ∈ eligibleLots lots businessDate minDaysBeforeExpirySale, Precedes localeLe a b →
          ¬ fefoLe localeLe a b = true →
            availableBefore localeLe lots businessDate minDaysBeforeExpirySale b < quantity →
              availableBefore localeLe lots businessDate minDaysBeforeExpirySale a +
                a.remainingQuantity ≤ quantity)
    ⟨fun h => ⟨h.1, h.2⟩, fun h => ⟨h.noTie, h.asRuled⟩⟩

/-- The order of plain texts. -/
def plainLe (a b : String) : Bool := a ≤ b

theorem plainLe_total (x y : String) : plainLe x y = true ∨ plainLe y x = true := by
  simpa [plainLe] using String.le_total x y

theorem plainLe_trans (x y z : String) (hxy : plainLe x y = true) (hyz : plainLe y z = true) :
    plainLe x z = true := by
  simp only [plainLe, decide_eq_true_eq] at hxy hyz ⊢
  exact String.le_trans hxy hyz

/-- Ten pieces of a lot. -/
def tenOf (lotId : BatchId) (lotNumber : String) (expiryDate receivedDate : Option LotDate) :
    SelectableLot where
  lotId := lotId
  lotNumber := lotNumber
  productId := "tea"
  remainingQuantity := 10
  costPrice := 3
  expiryDate := expiryDate
  receivedDate := receivedDate
  storeLocationId := none
  productLotId := none

/-- Two lots that expire on different days, and one that does not expire. -/
def datedShelf : List SelectableLot :=
  [tenOf 1 "LOT-1" (some 20800) (some 20500), tenOf 2 "LOT-2" none (some 20400),
    tenOf 3 "LOT-3" (some 20700) (some 20600)]

theorem datedShelf_correct : FefoCorrect plainLe datedShelf 20650 7 15 :=
  (fefoCorrect_iff plainLe plainLe_total plainLe_trans datedShelf (by decide) 20650 7 15).mpr
    (by decide +kernel)

/-- A lot dated 9999-12-31, and an older one without a date. -/
def farShelf : List SelectableLot :=
  [tenOf 1 "LOT-1" (some noDate) (some 20500), tenOf 2 "LOT-2" none (some 20400)]

/-- The lot without a date is sold first. -/
theorem farShelf_not_correct :
    ¬ ∀ (localeLe : String → String → Bool),
      (∀ x y, localeLe x y = true ∨ localeLe y x = true) →
      (∀ x y z, localeLe x y = true → localeLe y z = true → localeLe x z = true) →
      ∀ lots : List SelectableLot, (lots.map (·.lotNumber)).Nodup →
        ∀ businessDate minDaysBeforeExpirySale quantity,
          FefoCorrect localeLe lots businessDate minDaysBeforeExpirySale quantity := by
  intro h
  have hcorrect := h plainLe plainLe_total plainLe_trans farShelf (by decide) 20650 0 5
  have hfirst := hcorrect.selection.inOrder (tenOf 1 "LOT-1" (some noDate) (some 20500))
    (by decide +kernel) (tenOf 2 "LOT-2" none (some 20400)) (by decide) (by decide)
    (by decide +kernel)
  exact absurd hfirst (by decide +kernel)

end SmartErpPos.Lot
