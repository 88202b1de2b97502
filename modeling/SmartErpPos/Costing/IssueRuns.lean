/-
  Costing/IssueRuns.lean --- issuing a quantity in parts.

  Every part is costed by `calculateFIFOCost` and then taken by
  `_deductFromCostLayersOnClient`, which selects the layers anew.  The parts leave the
  layers, the average cost and the total cost that issuing their sum at once leaves.
-/
import Mathlib.Data.Prod.Lex
import SmartErpPos.Costing.PathAgreement
import SmartErpPos.Lib.LatestWrite

set_option autoImplicit false

namespace SmartErpPos.Costing

open SmartErpPos.Lib

/-! ## Issues -/

/-- The cost of a quantity, which is then taken. -/
def issue (productId : ℕ) (books : CostBooks) (q : Numeric 4) :
    Except CostError (CostBooks × ℚ) := do
  let cost ← calculateFIFOCost books productId q.toRat
  let after ← deductFromCostLayers books productId q.toRat
  pure (after, cost.totalCost)

/-- One issue after the other, with what they cost together. -/
def issueAll (productId : ℕ) : CostBooks → List (Numeric 4) → Except CostError (CostBooks × ℚ)
  | books, [] => pure (books, 0)
  | books, q :: rest => do
    let (mid, cost) ← issue productId books q
    let (after, costs) ← issueAll productId mid rest
    pure (after, cost + costs)

variable {books mid after : CostBooks} {productId : ℕ} {layers layers' : OrderedMap ℕ CostLayer}
  {rows : List LayerRow} {row : LayerRow} {q r : Numeric 4}

/-! ## The selection after a deduction -/

/-- When a layer was received. -/
def received (row : LayerRow) : ℤ ×ₗ ℤ := toLex (row.2.receivedDate, row.2.createdAt)

theorem fifoLayers_eq (books : CostBooks) (productId : ℕ) :
    books.fifoLayers productId =
      (sortByKey received books.layers.entries).filter (·.2.isOpenFor productId) := by
  have hrel (a b : LayerRow) : olderFirst a b ↔ received a ≤ received b := by
    rw [received, received, Prod.Lex.toLex_le_toLex]
    rfl
  have hsort := List.map_insertionSort olderFirst (fun a b => received a ≤ received b) id
    (books.layers.entries.filter fun row => row.2.isOpenFor productId) fun a _ b _ => hrel a b
  rw [List.map_id, List.map_id] at hsort
  rw [filter_sortByKey]
  exact hsort

/-- The row as the table has it now. -/
def reread (layers : OrderedMap ℕ CostLayer) (row : LayerRow) : LayerRow :=
  (row.1, (layers.get? row.1).getD row.2)

/-- The layers are the same, but for what is left of them; none was opened. -/
structure Drawn (layers layers' : OrderedMap ℕ CostLayer) : Prop where
  keys : layers'.keys = layers.keys
  same : ∀ id new, layers'.get? id = some new → ∃ old, layers.get? id = some old ∧
    new.productId = old.productId ∧ received (id, new) = received (id, old) ∧
    ∀ productId, new.isOpenFor productId = true → old.isOpenFor productId = true

theorem Drawn.refl (layers : OrderedMap ℕ CostLayer) : Drawn layers layers :=
  ⟨rfl, fun _ new h => ⟨new, h, rfl, rfl, fun _ => id⟩⟩

theorem Drawn.write (h : Drawn layers layers') (hrow : layers.get? row.1 = some row.2)
    (hopen : row.2.isOpenFor productId = true) (rule : ℚ → CostLayer → Bool) (taken : ℚ) :
    Drawn layers (writeLayer rule layers' row taken) := by
  refine ⟨(OrderedMap.keys_modify _ _ _).trans h.keys, fun id new hnew => ?_⟩
  unfold writeLayer at hnew
  rw [OrderedMap.get?_modify] at hnew
  split at hnew
  · rename_i hid
    obtain ⟨current, hcurrent, rfl⟩ := Option.map_eq_some_iff.mp hnew
    obtain ⟨old, hold, hproduct, hreceived, -⟩ := h.same id current hcurrent
    rw [hid, hrow] at hold
    cases hold
    refine ⟨row.2, by rw [hid, hrow], hproduct, hreceived, fun other hother => ?_⟩
    simp only [CostLayer.isOpenFor, Bool.and_eq_true, decide_eq_true_eq] at hother hopen ⊢
    exact ⟨⟨hproduct ▸ hother.1.1, hopen.1.2⟩, hopen.2⟩
  · exact h.same id new hnew

theorem Drawn.drawFold (hrows : ∀ row ∈ rows, layers.get? row.1 = some row.2 ∧
      row.2.isOpenFor productId = true) (h : Drawn layers layers') (d : ℚ) :
    Drawn layers (drawFold available (writeLayer activeWhileExact) rows d layers').1 := by
  induction rows generalizing d layers' with
  | nil => exact h
  | cons row rest ih =>
    obtain ⟨⟨hrow, hopen⟩, hrest⟩ := List.forall_mem_cons.mp hrows
    unfold Lib.drawFold
    split
    · exact h
    · exact ih hrest (h.write hrow hopen _ _) _

theorem entries_eq_reread (h : layers'.keys = layers.keys) :
    layers'.entries = layers.entries.map (reread layers') := by
  have hown : layers'.entries.map some =
      layers'.keys.map fun id => (layers'.get? id).map (Prod.mk id) := by
    rw [OrderedMap.keys, List.map_map]
    refine List.map_congr_left fun e he => ?_
    simp [OrderedMap.get?_eq_some_iff.mpr he]
  have hread : (layers.entries.map (reread layers')).map some =
      layers.keys.map fun id => (layers'.get? id).map (Prod.mk id) := by
    rw [OrderedMap.keys, List.map_map, List.map_map]
    refine List.map_congr_left fun e he => ?_
    have hkey : e.1 ∈ layers'.keys := by
      rw [h]
      exact List.mem_map_of_mem he
    obtain ⟨new, hnew⟩ := OrderedMap.mem_keys_iff.mp hkey
    simp [reread, hnew]
  refine List.map_injective_iff.mpr (Option.some_injective _) ?_
  rw [hown, hread, h]

/-- The selection is that of before, with what is left of it. -/
theorem Drawn.fifoLayers (h : Drawn books.layers mid.layers) :
    mid.fifoLayers productId =
      ((books.fifoLayers productId).map (reread mid.layers)).filter (·.2.isOpenFor productId) := by
  have hsame : ∀ row ∈ books.layers.entries, received (reread mid.layers row) = received row ∧
      ((reread mid.layers row).2.isOpenFor productId = true →
        row.2.isOpenFor productId = true) := by
    intro row hrow
    have hkey : row.1 ∈ mid.layers.keys := by
      rw [h.keys]
      exact List.mem_map_of_mem hrow
    obtain ⟨new, hnew⟩ := OrderedMap.mem_keys_iff.mp hkey
    obtain ⟨old, hold, -, hreceived, hopen⟩ := h.same _ _ hnew
    rw [OrderedMap.get?_eq_some_iff.mpr hrow] at hold
    cases hold
    have hread : reread mid.layers row = (row.1, new) := by
      rw [reread, hnew]
      rfl
    rw [hread]
    exact ⟨hreceived, hopen productId⟩
  have hsorted : ∀ row ∈ sortByKey received books.layers.entries, row ∈ books.layers.entries :=
    fun row hrow => (List.perm_insertionSort _ _).mem_iff.mp hrow
  rw [fifoLayers_eq, fifoLayers_eq, entries_eq_reread h.keys, sortByKey,
    ← List.map_insertionSort (fun a b => received a ≤ received b) _ _ _ fun a ha b hb => by
      rw [(hsame a ha).1, (hsame b hb).1],
    List.filter_map, List.filter_map, List.filter_filter]
  congr 1
  refine List.filter_congr fun row hrow => ?_
  have hopen := (hsame row (hsorted row hrow)).2
  cases hnow : (reread mid.layers row).2.isOpenFor productId with
  | false => simp [hnow]
  | true => simp [hnow, hopen hnow]

/-! ## Two draws -/

theorem get?_drawFold_of_notMem {id : ℕ} (h : id ∉ rows.map Prod.fst) (d : ℚ)
    (layers : OrderedMap ℕ CostLayer) :
    (drawFold available (writeLayer activeWhileExact) rows d layers).1.get? id =
      layers.get? id := by
  induction rows generalizing d layers with
  | nil => rfl
  | cons row rest ih =>
    rw [List.map_cons, List.mem_cons, not_or] at h
    unfold drawFold
    split
    · rfl
    · rw [ih h.2]
      exact OrderedMap.get?_modify_of_ne h.1 _ _

/-- Rows that stand in the table are selected as they are. -/
theorem reread_current (hcurrent : Current layers rows)
    (hopen : ∀ row ∈ rows, row.2.isOpenFor productId = true) :
    (rows.map (reread layers)).filter (·.2.isOpenFor productId) = rows := by
  have hsame : rows.map (reread layers) = rows := by
    refine (List.map_congr_left fun row hrow => ?_).trans (List.map_id rows)
    rw [reread, (hcurrent.2 row hrow).1]
    rfl
  rw [hsame]
  exact List.filter_eq_self.mpr hopen

/-- A write of a stored quantity is exact. -/
theorem writeLayer_toRat (hrow : layers.get? row.1 = some row.2) (q : Numeric 4) :
    writeLayer activeWhileExact layers row q.toRat = layers.set row.1
      { row.2 with
        remainingQuantity := row.2.remainingQuantity - q
        isActive := decide (q < row.2.remainingQuantity) } := by
  have hleft : available row - q.toRat = (row.2.remainingQuantity - q).toRat :=
    (Numeric.toRat_sub _ _).symm
  rw [writeLayer_eq_set hrow, hleft, Numeric.ofRat_toRat, activeWhileExact]
  simp only [Numeric.toRat_pos_iff, sub_pos]

/-- A layer of which something is left. -/
theorem reread_of_lt (hrow : layers.get? row.1 = some row.2) (hlt : q < row.2.remainingQuantity) :
    reread (writeLayer activeWhileExact layers row q.toRat) row =
      (row.1,
        { row.2 with
          remainingQuantity := row.2.remainingQuantity - q
          isActive := true }) := by
  rw [reread, writeLayer_toRat hrow, OrderedMap.get?_set_self, decide_eq_true hlt]
  rfl

theorem available_reread (hrow : layers.get? row.1 = some row.2)
    (hlt : q < row.2.remainingQuantity) :
    available (reread (writeLayer activeWhileExact layers row q.toRat) row) =
      available row - q.toRat := by
  rw [reread_of_lt hrow hlt]
  exact Numeric.toRat_sub _ _

/-- Writing what a first write has left is writing both at once. -/
theorem writeLayer_twice (hrow : layers.get? row.1 = some row.2)
    (hlt : q < row.2.remainingQuantity) (y : ℚ) :
    writeLayer activeWhileExact (writeLayer activeWhileExact layers row q.toRat)
        (reread (writeLayer activeWhileExact layers row q.toRat) row) y =
      writeLayer activeWhileExact layers row (q.toRat + y) := by
  have hnow : (writeLayer activeWhileExact layers row q.toRat).get? row.1 =
      some (reread (writeLayer activeWhileExact layers row q.toRat) row).2 := by
    rw [reread_of_lt hrow hlt, writeLayer_toRat hrow, OrderedMap.get?_set_self, decide_eq_true hlt]
  rw [writeLayer_eq_set hnow, available_reread hrow hlt, sub_sub, writeLayer_eq_set hrow,
    writeLayer_eq_set hrow, reread, OrderedMap.get?_set_self, OrderedMap.set_set]
  rfl

/-- Drawing from what a first draw has left is drawing both at once. -/
theorem drawFold_redraw (hcurrent : Current layers rows)
    (hopen : ∀ row ∈ rows, row.2.isOpenFor productId = true) (hq : 0 ≤ q) (hr : 0 < r)
    {mid : OrderedMap ℕ CostLayer} {left : ℚ} (hleft : left ≤ 0)
    (hdraw : drawFold available (writeLayer activeWhileExact) rows q.toRat layers = (mid, left)) :
    drawFold available (writeLayer activeWhileExact)
        ((rows.map (reread mid)).filter (·.2.isOpenFor productId)) r.toRat mid =
      drawFold available (writeLayer activeWhileExact) rows (q + r).toRat layers := by
  induction rows generalizing q layers with
  | nil =>
    cases hdraw
    have hzero : q = 0 := le_antisymm (not_lt.mp fun h => absurd (Numeric.toRat_pos_iff.mpr h)
      (not_lt.mpr hleft)) hq
    rw [hzero, zero_add]
    rfl
  | cons row rest ih =>
    obtain ⟨hrowOpen, hrestOpen⟩ := List.forall_mem_cons.mp hopen
    obtain ⟨hrow, -⟩ := hcurrent.2 row (by simp)
    rcases hq.eq_or_lt with rfl | hpos
    · rw [Numeric.toRat_zero, drawFold_of_nonpos le_rfl] at hdraw
      cases hdraw
      rw [zero_add, reread_current hcurrent hopen]
    have hqpos := not_le.mpr (Numeric.toRat_pos_iff.mpr hpos)
    have hrpos := Numeric.toRat_pos_iff.mpr hr
    have hboth := not_le.mpr (Numeric.toRat_pos_iff.mpr (add_pos hpos hr))
    rw [drawFold, if_neg hqpos] at hdraw
    conv_rhs => rw [drawFold, if_neg hboth]
    rcases le_or_gt row.2.remainingQuantity q with hall | hpart
    · -- the first draw empties the layer, which is not selected again
      have hle : available row ≤ q.toRat := by
        rw [← sub_nonneg]
        exact (Numeric.toRat_nonneg_iff.mpr (sub_nonneg.mpr hall)).trans_eq (Numeric.toRat_sub _ _)
      have hnext : q.toRat - available row = (q - row.2.remainingQuantity).toRat :=
        (Numeric.toRat_sub _ _).symm
      rw [min_eq_right hle, hnext] at hdraw
      have hclosed : (reread mid row).2.isOpenFor productId = false := by
        have hnow := get?_drawFold_of_notMem (List.nodup_cons.mp hcurrent.1).1
          (q - row.2.remainingQuantity).toRat (writeLayer activeWhileExact layers row (available row))
        rw [hdraw, available, writeLayer_toRat hrow, OrderedMap.get?_set_self] at hnow
        simp [reread, hnow, CostLayer.isOpenFor]
      rw [List.map_cons, List.filter_cons_of_neg (by simp [hclosed]),
        ih (hcurrent.write _ _) hrestOpen (sub_nonneg.mpr hall) hdraw, Numeric.toRat_add, ← hnext,
        Numeric.toRat_add, min_eq_right (by linarith), sub_add_eq_add_sub]
    · -- the first draw ends at the layer
      have hlt : q.toRat < available row := by
        rw [← sub_pos]
        exact (Numeric.toRat_pos_iff.mpr (sub_pos.mpr hpart)).trans_eq (Numeric.toRat_sub _ _)
      rw [min_eq_left hlt.le, sub_self, drawFold_of_nonpos le_rfl] at hdraw
      cases hdraw
      have hopenNow : (reread (writeLayer activeWhileExact layers row q.toRat)
          row).2.isOpenFor productId = true := by
        rw [reread_of_lt hrow hpart]
        simp only [CostLayer.isOpenFor, Bool.and_eq_true, decide_eq_true_eq] at hrowOpen ⊢
        exact ⟨⟨hrowOpen.1.1, trivial⟩, sub_pos.mpr hpart⟩
      have hmin : min (q.toRat + r.toRat) (available row) =
          q.toRat + min r.toRat (available row - q.toRat) := by
        rw [← min_add_add_left, add_sub_cancel]
      rw [List.map_cons, List.filter_cons_of_pos (by exact hopenNow),
        reread_current (hcurrent.write _ _) hrestOpen, drawFold, if_neg (not_le.mpr hrpos),
        available_reread hrow hpart, writeLayer_twice hrow hpart, Numeric.toRat_add, hmin,
        add_sub_add_left_eq_sub]

/-! ## Issues and their sum -/

theorem capTotal_available (rows : List LayerRow) :
    capTotal available rows = (rows.map fun row : LayerRow => row.2.remainingQuantity).sum.toRat := by
  induction rows with
  | nil => simp
  | cons row rest ih => rw [capTotal_cons, ih, List.map_cons, List.sum_cons, Numeric.toRat_add,
      available]

/-- A quantity that can be stored costs what the layers lose in value. -/
theorem MetAt.cost {before after : List LayerRow} (h : MetAt books productId q.toRat before row after) :
    (allocate (drainAll available allocate before ⟨0, []⟩) row
        (q.toRat - capTotal available before)).totalCost =
      layerValue books.layers - layerValue (deductedLayers books productId q.toRat) := by
  have hcurrent := current_fifoLayers books productId
  rw [h.rows] at hcurrent
  have hbefore : Current books.layers before :=
    ⟨hcurrent.1.sublist ((List.sublist_append_left _ _).map _),
      fun r hr => hcurrent.2 r (List.mem_append_left _ hr)⟩
  have hexact : (Numeric.ofRat (available row - (q.toRat - capTotal available before)) :
      Numeric 4).toRat = available row - (q.toRat - capTotal available before) := by
    rw [capTotal_available, available, ← Numeric.toRat_sub, ← Numeric.toRat_sub, Numeric.ofRat_toRat]
  rw [totalCost_allocate, (allocate_drain before _).1, deductedLayers, h.draw,
    layerValue_write (h.current activeWhileExact).1, layerValue_drain hbefore, hexact]
  ring

theorem issue_ok_iff (hq : 0 < q) {cost : ℚ} :
    issue productId books q = .ok (after, cost) ↔
      deductFromCostLayers books productId q.toRat = .ok after ∧
        cost = layerValue books.layers - layerValue after.layers := by
  unfold issue
  rcases metAt_or_short books productId (Numeric.toRat_pos_iff.mpr hq) with
    ⟨before, row, behind, h⟩ | hshort
  · obtain ⟨hcalc, hdeduct⟩ := h.succeeds
    rw [hcalc, hdeduct]
    simp only [bind_eq_ok, pure_eq_ok, Except.ok.injEq, Prod.mk.injEq, exists_eq_left', h.cost]
    constructor
    · rintro ⟨rfl, rfl⟩
      exact ⟨rfl, rfl⟩
    · rintro ⟨rfl, rfl⟩
      exact ⟨rfl, rfl⟩
  · obtain ⟨hcalc, hdeduct⟩ := fails_of_short hshort
    simp only [bind_eq_ok]
    constructor
    · rintro ⟨res, hres, -⟩
      exact absurd hres (hcalc res)
    · exact fun h => absurd h.1 (hdeduct after)

/-- The average cost follows from the layers. -/
theorem updateAverageCost_twice (books : CostBooks) (productId : ℕ)
    (layers layers' : OrderedMap ℕ CostLayer) :
    updateAverageCost
        { updateAverageCost { books with layers := layers } productId with layers := layers' }
        productId =
      updateAverageCost { books with layers := layers' } productId := by
  unfold updateAverageCost
  dsimp only
  congr 1
  unfold OrderedMap.modify
  cases hget : books.averageCost.get? productId with
  | none => simp [hget]
  | some cost => simp

theorem deduct_twice (hq : 0 < q) (hr : 0 < r) :
    (∃ mid, deductFromCostLayers books productId q.toRat = .ok mid ∧
      deductFromCostLayers mid productId r.toRat = .ok after) ↔
    deductFromCostLayers books productId (q + r).toRat = .ok after := by
  rcases metAt_or_short books productId (Numeric.toRat_pos_iff.mpr hq) with
    ⟨before, row, behind, hmet⟩ | hshort
  · have hopen : ∀ row ∈ books.fifoLayers productId, row.2.isOpenFor productId = true :=
      fun row hrow => (List.mem_filter.mp ((List.perm_insertionSort _ _).mem_iff.mp hrow)).2
    have hdrawn : Drawn books.layers (deductedLayers books productId q.toRat) :=
      Drawn.drawFold (fun row hrow => ⟨(mem_fifoLayers hrow).1, hopen row hrow⟩) (.refl _) _
    have hboth := drawFold_redraw (current_fifoLayers books productId) hopen hq.le hr
      (le_of_eq (congrArg Prod.snd (hmet.draw (writeLayer activeWhileExact) books.layers))) rfl
    obtain ⟨mid, hmid⟩ : ∃ mid, mid = updateAverageCost
      { books with layers := deductedLayers books productId q.toRat } productId := ⟨_, rfl⟩
    have hsame : drawFold available (writeLayer activeWhileExact) (mid.fifoLayers productId)
        r.toRat mid.layers = drawFold available (writeLayer activeWhileExact)
          (books.fifoLayers productId) (q + r).toRat books.layers := by
      rw [hmid, Drawn.fifoLayers hdrawn]
      exact hboth
    have hcost := updateAverageCost_twice books productId
      (deductedLayers books productId q.toRat) (deductedLayers mid productId r.toRat)
    rw [← hmid] at hcost
    simp only [hmet.succeeds.2, ← hmid, Except.ok.injEq, exists_eq_left', deduct_ok_iff, hcost]
    rw [deductedLayers, hsame, ← deductedLayers]
  · have hmore : q.toRat < (q + r).toRat := by
      rw [Numeric.toRat_add]
      exact lt_add_of_pos_right _ (Numeric.toRat_pos_iff.mpr hr)
    constructor
    · rintro ⟨mid, hmid, -⟩
      exact absurd hmid ((fails_of_short hshort).2 mid)
    · exact fun h => absurd h ((fails_of_short (hshort.trans hmore)).2 after)

theorem issueAll_cons {q : Numeric 4} {rest : List (Numeric 4)} {cost : ℚ} :
    issueAll productId books (q :: rest) = .ok (after, cost) ↔
      ∃ mid c, issue productId books q = .ok (mid, c) ∧
        issueAll productId mid rest = .ok (after, cost - c) := by
  rw [issueAll]
  simp only [bind_eq_ok, pure_eq_ok, Prod.exists, Prod.mk.injEq]
  refine exists_congr fun mid => exists_congr fun c => and_congr_right fun _ => ?_
  constructor
  · rintro ⟨_, c', hrest, rfl, rfl⟩
    rwa [add_sub_cancel_left]
  · exact fun hrest => ⟨after, cost - c, hrest, rfl, add_sub_cancel c cost⟩

end SmartErpPos.Costing
