/-
  Costing/PathAgreement.lean --- the cost that is read and the layers that are written.

  Where the layers suffice all three loops meet the demand at the same layer.  What is
  left of that layer is stored with four decimals; the deduction looks at the exact
  remainder when it decides whether the layer stays active, the stock movement at the
  stored one.
-/
import SmartErpPos.Costing.CostLayers

set_option autoImplicit false

namespace SmartErpPos.Costing

open SmartErpPos.Lib

/-! ## What the loops walk -/

theorem mem_fifoLayers {books : CostBooks} {productId : ℕ} {row : LayerRow}
    (h : row ∈ books.fifoLayers productId) :
    books.layers.get? row.1 = some row.2 ∧ row.2.isActive = true ∧ 0 < row.2.remainingQuantity := by
  have hmem := (List.perm_insertionSort _ _).mem_iff.mp h
  obtain ⟨hin, hopen⟩ := List.mem_filter.mp hmem
  simp only [CostLayer.isOpenFor, Bool.and_eq_true, decide_eq_true_eq] at hopen
  exact ⟨OrderedMap.get?_eq_some_iff.mpr hin, hopen.1.2, hopen.2⟩

theorem nodup_fifoLayers (books : CostBooks) (productId : ℕ) :
    ((books.fifoLayers productId).map Prod.fst).Nodup := by
  have hperm := (List.perm_insertionSort olderFirst
    (books.layers.entries.filter fun row => row.2.isOpenFor productId)).map Prod.fst
  exact hperm.nodup_iff.mpr (books.layers.nodup.sublist (List.filter_sublist.map _))

theorem available_pos (books : CostBooks) (productId : ℕ) :
    ∀ row ∈ books.fifoLayers productId, 0 < available row :=
  fun _ h => Numeric.toRat_pos_iff.mpr (mem_fifoLayers h).2.2

/-- The rows stand in the table as they were selected. -/
def Current (layers : OrderedMap ℕ CostLayer) (rows : List LayerRow) : Prop :=
  (rows.map Prod.fst).Nodup ∧ ∀ row ∈ rows, layers.get? row.1 = some row.2 ∧ row.2.isActive = true

theorem current_fifoLayers (books : CostBooks) (productId : ℕ) :
    Current books.layers (books.fifoLayers productId) :=
  ⟨nodup_fifoLayers books productId, fun _ h => ⟨(mem_fifoLayers h).1, (mem_fifoLayers h).2.1⟩⟩

variable {layers : OrderedMap ℕ CostLayer} {rows : List LayerRow} {rule : ℚ → CostLayer → Bool}

/-- Writing the first row leaves the others. -/
theorem Current.write {row : LayerRow} (h : Current layers (row :: rows))
    (rule : ℚ → CostLayer → Bool) (taken : ℚ) :
    Current (writeLayer rule layers row taken) rows := by
  obtain ⟨hnodup, hrows⟩ := h
  rw [List.map_cons, List.nodup_cons] at hnodup
  refine ⟨hnodup.2, fun r hr => ?_⟩
  have hne : r.1 ≠ row.1 := by
    intro heq
    exact hnodup.1 (heq ▸ List.mem_map_of_mem hr)
  unfold writeLayer
  rw [OrderedMap.get?_modify_of_ne hne]
  exact hrows r (List.mem_cons_of_mem row hr)

/-- Draining rows leaves those behind them. -/
theorem Current.drain (rule : ℚ → CostLayer → Bool) {before : List LayerRow}
    (h : Current layers (before ++ rows)) :
    Current (drainAll available (writeLayer rule) before layers) rows := by
  induction before generalizing layers with
  | nil => exact h
  | cons row before ih => exact ih (h.write rule _)

/-- An emptied layer is inactive by both rules. -/
theorem writeLayer_available (layers : OrderedMap ℕ CostLayer) (row : LayerRow) :
    writeLayer activeWhileExact layers row (available row) =
      writeLayer activeWhileStored layers row (available row) := by
  unfold writeLayer activeWhileExact activeWhileStored
  simp

theorem drainAll_writeLayer (rows : List LayerRow) (layers : OrderedMap ℕ CostLayer) :
    drainAll available (writeLayer activeWhileExact) rows layers =
      drainAll available (writeLayer activeWhileStored) rows layers := by
  induction rows generalizing layers with
  | nil => rfl
  | cons row rows ih => rw [drainAll_cons, drainAll_cons, writeLayer_available, ih]

/-- The table of the stock movement's loop. -/
theorem layers_drawFold_consumeLayer (rows : List LayerRow) (d : ℚ) (p : Consumed) :
    (drawFold available consumeLayer rows d p).1.layers =
      (drawFold available (writeLayer activeWhileStored) rows d p.layers).1 := by
  induction rows generalizing d p with
  | nil => rfl
  | cons row rows ih =>
    unfold drawFold
    split
    · rfl
    · exact ih _ _

/-! ## The writes -/

/-- The written row, where the layer stands as it was selected. -/
theorem writeLayer_eq_set {row : LayerRow} (hrow : layers.get? row.1 = some row.2)
    (rule : ℚ → CostLayer → Bool) (taken : ℚ) :
    writeLayer rule layers row taken = layers.set row.1
      { row.2 with
        remainingQuantity := Numeric.ofRat (available row - taken)
        isActive := rule (available row - taken) row.2 } :=
  OrderedMap.modify_eq_set hrow _

/-- A layer is active iff its stored remaining quantity is positive. -/
def ActiveIffPositive (layers : OrderedMap ℕ CostLayer) : Prop :=
  ∀ id layer, layers.get? id = some layer → (layer.isActive = true ↔ 0 < layer.remainingQuantity)

/-- `CHECK (remaining_quantity >= 0)`. -/
def NonNegative (layers : OrderedMap ℕ CostLayer) : Prop :=
  ∀ id layer, layers.get? id = some layer → 0 ≤ layer.remainingQuantity

/-- The value of all layers. -/
def layerValue (layers : OrderedMap ℕ CostLayer) : ℚ :=
  layers.sumWhere (fun _ => true) fun layer => layer.remainingQuantity.toRat * layer.unitCost.toRat

theorem NonNegative.write {row : LayerRow} {taken : ℚ} (h : NonNegative layers)
    (hle : taken ≤ available row) : NonNegative (writeLayer rule layers row taken) := by
  intro id layer hget
  unfold writeLayer at hget
  rw [OrderedMap.get?_modify] at hget
  split at hget
  · obtain ⟨old, -, rfl⟩ := Option.map_eq_some_iff.mp hget
    exact Numeric.ofRat_nonneg (sub_nonneg.mpr hle)
  · exact h id layer hget

theorem NonNegative.drain (h : NonNegative layers) :
    NonNegative (drainAll available (writeLayer rule) rows layers) := by
  induction rows generalizing layers with
  | nil => exact h
  | cons row rows ih => exact ih (h.write le_rfl)

/-- A write whose flag agrees with the stored quantity keeps the invariant. -/
theorem ActiveIffPositive.write {row : LayerRow} {taken : ℚ} (h : ActiveIffPositive layers)
    (hrow : layers.get? row.1 = some row.2) (hrule : rule (available row - taken) row.2 = true ↔
      (0 : Numeric 4) < Numeric.ofRat (available row - taken)) :
    ActiveIffPositive (writeLayer rule layers row taken) := by
  intro id layer hget
  unfold writeLayer at hget
  rw [OrderedMap.get?_modify] at hget
  split at hget
  · rename_i hid
    rw [hid, hrow] at hget
    rw [← Option.some.inj hget]
    exact hrule
  · exact h id layer hget

/-- The stock movement looks at the stored quantity. -/
theorem activeWhileStored_iff {x : ℚ} {layer : CostLayer} (hactive : layer.isActive = true) :
    activeWhileStored x layer = true ↔ (0 : Numeric 4) < Numeric.ofRat x := by
  unfold activeWhileStored
  split
  · rename_i hle
    simp [hle]
  · rename_i hnot
    simp [hactive, not_le.mp hnot]

/-- The deduction looks at the exact one: the same, but for less than half a unit. -/
theorem activeWhileExact_iff {x : ℚ} (hx : 0 ≤ x) (layer : CostLayer) :
    (activeWhileExact x layer = true ↔ (0 : Numeric 4) < Numeric.ofRat x) ↔
      ¬ (0 < x ∧ x < 1 / 20000) := by
  have hhalf : (1 / 2 ≤ x * 10 ^ 4) ↔ 1 / 20000 ≤ x := by
    constructor <;> intro h <;> linarith
  unfold activeWhileExact
  rw [decide_eq_true_eq, Numeric.ofRat_pos_iff hx, hhalf]
  constructor
  · rintro hiff ⟨hpos, hlt⟩
    exact absurd (hiff.mp hpos) (not_le.mpr hlt)
  · intro hdust
    constructor
    · intro hpos
      exact not_lt.mp fun hlt => hdust ⟨hpos, hlt⟩
    · intro hle
      linarith

/-! ## Values and allocations -/

theorem layerValue_write {row : LayerRow} (hrow : layers.get? row.1 = some row.2) (taken : ℚ) :
    layerValue (writeLayer rule layers row taken) = layerValue layers +
      ((Numeric.ofRat (available row - taken) : Numeric 4).toRat - available row) *
        row.2.unitCost.toRat := by
  unfold layerValue
  rw [writeLayer_eq_set hrow, OrderedMap.sumWhere_set, OrderedMap.valueAt_of_get? hrow]
  simp only [if_true]
  unfold available
  ring

/-- What emptying the rows costs. -/
def drainedCost (rows : List LayerRow) : ℚ :=
  (rows.map fun row => available row * row.2.unitCost.toRat).sum

theorem layerValue_drain (h : Current layers rows) :
    layerValue (drainAll available (writeLayer rule) rows layers) =
      layerValue layers - drainedCost rows := by
  induction rows generalizing layers with
  | nil => simp [drainedCost]
  | cons row rows ih =>
    rw [drainAll_cons, ih (h.write rule _), layerValue_write (h.2 row (by simp)).1, sub_self,
      Numeric.ofRat_zero, Numeric.toRat_zero]
    simp only [drainedCost, List.map_cons, List.sum_cons]
    ring

theorem totalCost_allocate (p : Allocated) (row : LayerRow) (x : ℚ) :
    (allocate p row x).totalCost = p.totalCost + x * row.2.unitCost.toRat := rfl

theorem consumed_allocate (p : Allocated) (row : LayerRow) (x : ℚ) :
    ((allocate p row x).allocations.map (·.quantityConsumed)).sum =
      (p.allocations.map (·.quantityConsumed)).sum + x := by
  simp [allocate]

theorem allocate_drain (rows : List LayerRow) (p : Allocated) :
    (drainAll available allocate rows p).totalCost = p.totalCost + drainedCost rows ∧
      ((drainAll available allocate rows p).allocations.map (·.quantityConsumed)).sum =
        (p.allocations.map (·.quantityConsumed)).sum + capTotal available rows := by
  induction rows generalizing p with
  | nil => simp [drainedCost]
  | cons row rows ih =>
    obtain ⟨hcost, hquantity⟩ := ih (allocate p row (available row))
    rw [drainAll_cons]
    refine ⟨?_, ?_⟩
    · rw [hcost, totalCost_allocate]
      simp only [drainedCost, List.map_cons, List.sum_cons]
      ring
    · rw [hquantity, consumed_allocate, capTotal_cons]
      ring

/-! ## The layer at which the demand is met -/

/-- The demand is met at `row`: the layers before it are emptied. -/
structure MetAt (books : CostBooks) (productId : ℕ) (q : ℚ) (before : List LayerRow)
    (row : LayerRow) (after : List LayerRow) : Prop where
  rows : books.fifoLayers productId = before ++ row :: after
  more : capTotal available before < q
  met : q ≤ capTotal available before + available row

namespace MetAt

variable {books : CostBooks} {productId : ℕ} {q : ℚ} {before after : List LayerRow} {row : LayerRow}

/-- What is left of the layer. -/
theorem left_nonneg (h : MetAt books productId q before row after) :
    0 ≤ available row - (q - capTotal available before) := by
  have hmet := h.met
  linarith

theorem pos (h : MetAt books productId q before row after) : ∀ x ∈ before, 0 < available x := by
  intro x hx
  refine available_pos books productId x ?_
  rw [h.rows]
  exact List.mem_append_left _ hx

theorem demand_pos (h : MetAt books productId q before row after) : 0 < q :=
  lt_of_le_of_lt (capTotal_nonneg h.pos) h.more

theorem draw {S : Type} (h : MetAt books productId q before row after)
    (f : S → LayerRow → ℚ → S) (s : S) :
    drawFold available f (books.fifoLayers productId) q s =
      (f (drainAll available f before s) row (q - capTotal available before), 0) := by
  rw [h.rows]
  exact drawFold_of_split h.pos h.more h.met s

/-- The row stands in the drained table as it was selected. -/
theorem current (h : MetAt books productId q before row after) (rule : ℚ → CostLayer → Bool) :
    (drainAll available (writeLayer rule) before books.layers).get? row.1 = some row.2 ∧
      row.2.isActive = true := by
  have hcurrent := current_fifoLayers books productId
  rw [h.rows] at hcurrent
  exact (hcurrent.drain rule).2 row (by simp)

/-- The deduction and the stock movement write the same unless less than half a unit is left. -/
theorem writes_agree_iff (h : MetAt books productId q before row after) :
    (drawFold available (writeLayer activeWhileExact) (books.fifoLayers productId) q
        books.layers).1 =
      (drawFold available (writeLayer activeWhileStored) (books.fifoLayers productId) q
        books.layers).1 ↔
      ¬ (0 < available row - (q - capTotal available before) ∧
        available row - (q - capTotal available before) < 1 / 20000) := by
  rw [h.draw, h.draw, drainAll_writeLayer, ← activeWhileExact_iff h.left_nonneg row.2]
  obtain ⟨hrow, hactive⟩ := h.current activeWhileStored
  rw [← activeWhileStored_iff hactive]
  constructor
  · intro heq
    have hget := congrArg (fun layers => layers.get? row.1) heq
    simp only [writeLayer_eq_set hrow, OrderedMap.get?_set_self, Option.some.injEq,
      CostLayer.mk.injEq, true_and] at hget
    rw [hget]
  · intro hflag
    dsimp only
    rw [writeLayer_eq_set hrow, writeLayer_eq_set hrow, Bool.eq_iff_iff.mpr hflag]

end MetAt

/-! ## Success -/

/-- The table after a deduction. -/
def deductedLayers (books : CostBooks) (productId : ℕ) (q : ℚ) : OrderedMap ℕ CostLayer :=
  (drawFold available (writeLayer activeWhileExact) (books.fifoLayers productId) q books.layers).1

/-- The table after a stock movement. -/
theorem layers_consume (books : CostBooks) (productId : ℕ) (q : ℚ) :
    (consumeCostLayersFIFO books productId q).1.layers =
      (drawFold available (writeLayer activeWhileStored) (books.fifoLayers productId) q
        books.layers).1 :=
  layers_drawFold_consumeLayer _ _ _

/-- Does the product have what is asked for? -/
theorem metAt_or_short (books : CostBooks) (productId : ℕ) {q : ℚ} (hq : 0 < q) :
    (∃ before row after, MetAt books productId q before row after) ∨
      capTotal available (books.fifoLayers productId) < q := by
  rcases le_or_gt q (capTotal available (books.fifoLayers productId)) with henough | hshort
  · obtain ⟨before, row, after, hrows, hmore, hmet⟩ := exists_split hq henough
    exact .inl ⟨before, row, after, hrows, hmore, hmet⟩
  · exact .inr hshort

theorem deduct_ok_iff {books after : CostBooks} {productId : ℕ} {q : ℚ} :
    deductFromCostLayers books productId q = .ok after ↔
      (drawFold available (writeLayer activeWhileExact) (books.fifoLayers productId) q
        books.layers).2 ≤ 0 ∧
      updateAverageCost { books with layers := deductedLayers books productId q } productId =
        after := by
  unfold deductFromCostLayers deductedLayers
  simp only [bind_eq_ok, require_eq_ok, pure_eq_ok, exists_const]

/-- Where the layers suffice both succeed, with what they have taken. -/
theorem MetAt.succeeds {books : CostBooks} {productId : ℕ} {q : ℚ} {before after : List LayerRow}
    {row : LayerRow} (h : MetAt books productId q before row after) :
    calculateFIFOCost books productId q = .ok
        ⟨(allocate (drainAll available allocate before ⟨0, []⟩) row
            (q - capTotal available before)).totalCost,
          (allocate (drainAll available allocate before ⟨0, []⟩) row
            (q - capTotal available before)).totalCost / q,
          (allocate (drainAll available allocate before ⟨0, []⟩) row
            (q - capTotal available before)).allocations⟩ ∧
      deductFromCostLayers books productId q = .ok
        (updateAverageCost { books with layers := deductedLayers books productId q } productId) := by
  have hne : books.fifoLayers productId ≠ [] := by
    rw [h.rows]
    simp
  constructor
  · unfold calculateFIFOCost
    simp only [h.draw, bind_eq_ok, require_eq_ok, pure_eq_ok]
    exact ⟨(), h.demand_pos, (), hne, (), le_rfl, trivial⟩
  · rw [deduct_ok_iff]
    exact ⟨by rw [h.draw], rfl⟩

/-- Where they do not, both fail. -/
theorem fails_of_short {books : CostBooks} {productId : ℕ} {q : ℚ}
    (hshort : capTotal available (books.fifoLayers productId) < q) :
    (∀ r, calculateFIFOCost books productId q ≠ .ok r) ∧
      ∀ after, deductFromCostLayers books productId q ≠ .ok after := by
  have hleft : ¬ q - capTotal available (books.fifoLayers productId) ≤ 0 := by
    rw [sub_nonpos]
    exact not_le.mpr hshort
  constructor
  · intro r hr
    unfold calculateFIFOCost at hr
    simp only [drawFold_of_short (available_pos _ _) hshort, bind_eq_ok, require_eq_ok] at hr
    obtain ⟨-, -, -, -, -, hle, -⟩ := hr
    exact hleft hle
  · intro after hafter
    rw [deduct_ok_iff, drawFold_of_short (available_pos _ _) hshort] at hafter
    exact hleft hafter.1

/-- Nothing to deduct is a success; nothing to cost is not. -/
theorem succeeds_of_nonpos (books : CostBooks) (productId : ℕ) {q : ℚ} (hq : q ≤ 0) :
    (∀ r, calculateFIFOCost books productId q ≠ .ok r) ∧
      ∃ after, deductFromCostLayers books productId q = .ok after := by
  constructor
  · intro r hr
    unfold calculateFIFOCost at hr
    simp only [bind_eq_ok, require_eq_ok] at hr
    obtain ⟨-, hpos, -⟩ := hr
    exact absurd hpos (not_lt.mpr hq)
  · refine ⟨_, deduct_ok_iff.mpr ⟨?_, rfl⟩⟩
    rw [drawFold_of_nonpos hq]
    exact hq

/-! ## Agreement -/

/-- What the three paths owe each other for one product and one quantity. -/
structure PathsAgree (books : CostBooks) (productId : ℕ) (q : ℚ) : Prop where
  succeed : (∃ r, calculateFIFOCost books productId q = .ok r) ↔
    ∃ after, deductFromCostLayers books productId q = .ok after
  /-- The consumed quantities sum to the request. -/
  consumed : ∀ r, calculateFIFOCost books productId q = .ok r →
    (r.layers.map (·.quantityConsumed)).sum = q
  nonneg : ∀ after, deductFromCostLayers books productId q = .ok after →
    NonNegative books.layers → NonNegative after.layers
  /-- The value drops by the cost, up to half a unit of one consumed layer's quantity. -/
  value : ∀ r after, calculateFIFOCost books productId q = .ok r →
    deductFromCostLayers books productId q = .ok after → ∃ a ∈ r.layers,
      |layerValue books.layers - layerValue after.layers - r.totalCost| ≤
        1 / 20000 * |a.unitCost|
  same : ∀ after, deductFromCostLayers books productId q = .ok after →
    (consumeCostLayersFIFO books productId q).1.layers = after.layers
  keepDeduct : ∀ after, deductFromCostLayers books productId q = .ok after →
    ActiveIffPositive books.layers → ActiveIffPositive after.layers
  keepConsume : ActiveIffPositive books.layers →
    ActiveIffPositive (consumeCostLayersFIFO books productId q).1.layers

/-- No oldest layers hold more than the request by less than half a unit. -/
def NoDust (books : CostBooks) (productId : ℕ) (q : ℚ) : Prop :=
  ∀ oldest rest, books.fifoLayers productId = oldest ++ rest →
    ¬ (0 < capTotal available oldest - q ∧ capTotal available oldest - q < 1 / 20000)

/-- A selected layer holds at least a unit of the last stored decimal. -/
theorem unit_le_available (books : CostBooks) (productId : ℕ) :
    ∀ row ∈ books.fifoLayers productId, 1 / 10000 ≤ available row := by
  intro row hrow
  have hpos : (0 : ℤ) < row.2.remainingQuantity.units := (mem_fifoLayers hrow).2.2
  have hone : (1 : ℚ) ≤ row.2.remainingQuantity.units := by exact_mod_cast hpos
  unfold available Numeric.toRat
  rw [div_le_div_iff₀ (by norm_num) (by norm_num)]
  norm_num
  linarith

/-- Less than half a unit above the request is left of the layer that meets it. -/
theorem MetAt.of_dust {books : CostBooks} {productId : ℕ} {q : ℚ} {oldest rest : List LayerRow}
    (hq : 0 < q) (hrows : books.fifoLayers productId = oldest ++ rest)
    (hmore : 0 < capTotal available oldest - q)
    (hdust : capTotal available oldest - q < 1 / 20000) :
    ∃ before row, MetAt books productId q before row rest ∧ oldest = before ++ [row] := by
  obtain ⟨before, row, mid, rfl, hbefore, hmet⟩ := exists_split hq (sub_pos.mp hmore).le
  have htotal : capTotal available (before ++ row :: mid) =
      capTotal available before + available row + capTotal available mid := by
    simp [capTotal, add_assoc]
  cases mid with
  | nil =>
    refine ⟨before, row, ⟨?_, hbefore, hmet⟩, rfl⟩
    rw [hrows, List.append_assoc]
    rfl
  | cons x mid =>
    exfalso
    have hx : 1 / 10000 ≤ available x := by
      refine unit_le_available books productId x ?_
      rw [hrows]
      simp
    have hmid : 0 ≤ capTotal available mid := by
      refine capTotal_nonneg fun y hy => available_pos books productId y ?_
      rw [hrows]
      simp [hy]
    rw [htotal, capTotal_cons] at hdust
    linarith

theorem NoDust.of_metAt {books : CostBooks} {productId : ℕ} {q : ℚ} {before after : List LayerRow}
    {row : LayerRow} (hnone : NoDust books productId q)
    (h : MetAt books productId q before row after) :
    ¬ (0 < available row - (q - capTotal available before) ∧
      available row - (q - capTotal available before) < 1 / 20000) := by
  have hrows : books.fifoLayers productId = (before ++ [row]) ++ after := by
    rw [h.rows, List.append_assoc]
    rfl
  have hfront := hnone (before ++ [row]) after hrows
  have htotal : capTotal available (before ++ [row]) = capTotal available before + available row := by
    simp [capTotal]
  rw [htotal] at hfront
  rintro ⟨hpos, hlt⟩
  exact hfront ⟨by linarith, by linarith⟩

/-- Draining keeps the flags in line with the quantities. -/
theorem ActiveIffPositive.drain {before : List LayerRow} (hrule : ∀ layer, rule 0 layer = false)
    (h : ActiveIffPositive layers) (hcurrent : Current layers (before ++ rows)) :
    ActiveIffPositive (drainAll available (writeLayer rule) before layers) := by
  induction before generalizing layers with
  | nil => exact h
  | cons row before ih =>
    refine ih (h.write (hcurrent.2 row (by simp)).1 ?_) (hcurrent.write rule _)
    rw [sub_self, hrule, Numeric.ofRat_zero]
    simp

theorem activeWhileStored_zero (layer : CostLayer) : activeWhileStored 0 layer = false := by
  unfold activeWhileStored
  rw [Numeric.ofRat_zero]
  exact if_pos le_rfl

/-- A stock movement keeps the flags in line with the stored quantities, enough or not. -/
theorem consume_keeps {books : CostBooks} {productId : ℕ} {q : ℚ}
    (h : ActiveIffPositive books.layers) :
    ActiveIffPositive (consumeCostLayersFIFO books productId q).1.layers := by
  rw [layers_consume]
  rcases le_or_gt q 0 with hq | hq
  · rw [drawFold_of_nonpos hq]
    exact h
  have hcurrent := current_fifoLayers books productId
  rcases metAt_or_short books productId hq with ⟨before, row, after, hmet⟩ | hshort
  · rw [hmet.draw]
    obtain ⟨hrow, hactive⟩ := hmet.current activeWhileStored
    rw [hmet.rows] at hcurrent
    exact (h.drain activeWhileStored_zero hcurrent).write hrow (activeWhileStored_iff hactive)
  · rw [drawFold_of_short (available_pos _ _) hshort]
    rw [← List.append_nil (books.fifoLayers productId)] at hcurrent
    exact h.drain activeWhileStored_zero hcurrent

/-- What the deduction is worth, where the layers suffice. -/
theorem MetAt.value {books : CostBooks} {productId : ℕ} {q : ℚ} {before after : List LayerRow}
    {row : LayerRow} (h : MetAt books productId q before row after) :
    |layerValue books.layers - layerValue (deductedLayers books productId q) -
        (allocate (drainAll available allocate before ⟨0, []⟩) row
          (q - capTotal available before)).totalCost| ≤ 1 / 20000 * |row.2.unitCost.toRat| := by
  have hcurrent := current_fifoLayers books productId
  rw [h.rows] at hcurrent
  have hbefore : Current books.layers before := by
    refine ⟨hcurrent.1.sublist ((List.sublist_append_left _ _).map _), fun r hr => ?_⟩
    exact hcurrent.2 r (List.mem_append_left _ hr)
  obtain ⟨hrow, -⟩ := h.current activeWhileExact
  have hcost : (allocate (drainAll available allocate before ⟨0, []⟩) row
      (q - capTotal available before)).totalCost =
        drainedCost before + (q - capTotal available before) * row.2.unitCost.toRat := by
    rw [totalCost_allocate, (allocate_drain before _).1, zero_add]
  have hafter : layerValue (deductedLayers books productId q) =
      layerValue books.layers - drainedCost before +
        ((Numeric.ofRat (available row - (q - capTotal available before)) : Numeric 4).toRat -
          available row) * row.2.unitCost.toRat := by
    unfold deductedLayers
    rw [h.draw, layerValue_write hrow, layerValue_drain hbefore]
  have hround : |(Numeric.ofRat (available row - (q - capTotal available before)) :
      Numeric 4).toRat - (available row - (q - capTotal available before))| ≤ 1 / 2 / 10 ^ 4 :=
    Numeric.abs_toRat_ofRat_sub_le _
  have hdiff : layerValue books.layers - layerValue (deductedLayers books productId q) -
      (drainedCost before + (q - capTotal available before) * row.2.unitCost.toRat) =
        -(((Numeric.ofRat (available row - (q - capTotal available before)) : Numeric 4).toRat -
          (available row - (q - capTotal available before))) * row.2.unitCost.toRat) := by
    rw [hafter]
    ring
  rw [hcost, hdiff, abs_neg, abs_mul]
  refine mul_le_mul_of_nonneg_right (le_trans hround ?_) (abs_nonneg _)
  norm_num

/-- The three cost-layer paths agree exactly when something is asked for and the layer that
meets the request is not left with less than half a unit. -/
theorem paths_agree_iff (books : CostBooks) (productId : ℕ) (q : ℚ) :
    PathsAgree books productId q ↔ 0 < q ∧ NoDust books productId q := by
  constructor
  · intro h
    have hq : 0 < q := by
      by_contra hnot
      obtain ⟨hcalc, hdeduct⟩ := succeeds_of_nonpos books productId
        (not_lt.mp hnot)
      obtain ⟨r, hr⟩ := h.succeed.mpr hdeduct
      exact hcalc r hr
    refine ⟨hq, fun oldest rest hrows hdust => ?_⟩
    obtain ⟨before, row, hmet, rfl⟩ := MetAt.of_dust hq hrows hdust.1 hdust.2
    have hsame := h.same _ hmet.succeeds.2
    rw [layers_consume] at hsame
    refine hmet.writes_agree_iff.mp hsame.symm ?_
    have htotal : capTotal available (before ++ [row]) =
        capTotal available before + available row := by
      simp [capTotal]
    rw [htotal] at hdust
    exact ⟨by linarith [hdust.1], by linarith [hdust.2]⟩
  · rintro ⟨hq, hnone⟩
    rcases metAt_or_short books productId hq with ⟨before, row, after, hmet⟩ | hshort
    · obtain ⟨hcalc, hdeduct⟩ := hmet.succeeds
      have hsame := hmet.writes_agree_iff.mpr (hnone.of_metAt hmet)
      have hlayers : (consumeCostLayersFIFO books productId q).1.layers =
          deductedLayers books productId q := by
        rw [layers_consume]
        exact hsame.symm
      refine ⟨⟨fun _ => ⟨_, hdeduct⟩, fun _ => ⟨_, hcalc⟩⟩, ?_, ?_, ?_, ?_, ?_, consume_keeps⟩
      · rintro r hr
        cases hcalc.symm.trans hr
        rw [consumed_allocate, (allocate_drain before _).2]
        simp
      · rintro r hr hnonneg
        cases hdeduct.symm.trans hr
        show NonNegative (deductedLayers books productId q)
        unfold deductedLayers
        rw [hmet.draw]
        exact hnonneg.drain.write (by linarith [hmet.left_nonneg])
      · rintro r after' hr hafter
        cases hcalc.symm.trans hr
        cases hdeduct.symm.trans hafter
        exact ⟨⟨row.1, q - capTotal available before, row.2.unitCost.toRat, _⟩,
          List.mem_append_right _ (List.mem_singleton.mpr rfl), hmet.value⟩
      · rintro r hr
        cases hdeduct.symm.trans hr
        exact hlayers
      · rintro r hr hactive
        cases hdeduct.symm.trans hr
        show ActiveIffPositive (deductedLayers books productId q)
        rw [← hlayers]
        exact consume_keeps hactive
    · obtain ⟨hcalc, hdeduct⟩ := fails_of_short hshort
      exact ⟨⟨fun ⟨r, hr⟩ => absurd hr (hcalc r), fun ⟨r, hr⟩ => absurd hr (hdeduct r)⟩,
        fun r hr => absurd hr (hcalc r), fun r hr => absurd hr (hdeduct r),
        fun r _ hr => absurd hr (hcalc r), fun r hr => absurd hr (hdeduct r),
        fun r hr => absurd hr (hdeduct r), consume_keeps⟩

/-! ## A layer of one unit -/

/-- One layer of one unit at 10.00. -/
def oneUnit : CostBooks where
  layers := OrderedMap.empty.set 1 ⟨7, ⟨10000⟩, ⟨1000⟩, 1, 1, true⟩
  averageCost := OrderedMap.empty

/-- Half of it is taken: all agree. -/
theorem half_a_unit_agrees : PathsAgree oneUnit 7 (1 / 2) := by
  refine (paths_agree_iff oneUnit 7 (1 / 2)).mpr ⟨by norm_num, fun oldest rest hrows hdust => ?_⟩
  have hlayers : oneUnit.fifoLayers 7 = [(1, ⟨7, ⟨10000⟩, ⟨1000⟩, 1, 1, true⟩)] := by
    decide +kernel
  rw [hlayers] at hrows
  cases oldest with
  | nil => norm_num [capTotal] at hdust
  | cons row oldest =>
    obtain ⟨rfl, hrest⟩ := List.cons.inj hrows
    rw [(List.append_eq_nil_iff.mp hrest.symm).1] at hdust
    norm_num [capTotal, available, Numeric.toRat] at hdust

/-- All but 0.00001 is taken: the deduction stores an empty layer and leaves it active, the
stock movement closes it. -/
theorem dust_keeps_layer_active :
    ((deductFromCostLayers oneUnit 7 (1 - 1 / 100000)).toOption.map fun after =>
        after.layers.get? 1) = some (some ⟨7, 0, ⟨1000⟩, 1, 1, true⟩) ∧
      (consumeCostLayersFIFO oneUnit 7 (1 - 1 / 100000)).1.layers.get? 1 =
        some ⟨7, 0, ⟨1000⟩, 1, 1, false⟩ ∧
      ¬ PathsAgree oneUnit 7 (1 - 1 / 100000) := by
  have hdeduct : ((deductFromCostLayers oneUnit 7 (1 - 1 / 100000)).toOption.map fun after =>
      after.layers.get? 1) = some (some ⟨7, 0, ⟨1000⟩, 1, 1, true⟩) := by
    decide +kernel
  have hconsume : (consumeCostLayersFIFO oneUnit 7 (1 - 1 / 100000)).1.layers.get? 1 =
      some ⟨7, 0, ⟨1000⟩, 1, 1, false⟩ := by
    decide +kernel
  refine ⟨hdeduct, hconsume, fun h => ?_⟩
  cases hrun : deductFromCostLayers oneUnit 7 (1 - 1 / 100000) with
  | error e =>
    rw [hrun] at hdeduct
    cases hdeduct
  | ok after =>
    rw [hrun] at hdeduct
    have hget := Option.some.inj hdeduct
    dsimp only at hget
    rw [← h.same after hrun, hconsume] at hget
    simp at hget

end SmartErpPos.Costing
