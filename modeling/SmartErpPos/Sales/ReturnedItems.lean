/-
  Sales/ReturnedItems.lean --- what a return does to the items of a sale.

  A return raises the returned quantities and nothing else.  The quantity of a line stays
  the upper bound, and the units returned of a product grow by the stored quantities of the
  rows that name its lines.
-/
import SmartErpPos.Sales.SaleStore

set_option autoImplicit false

namespace SmartErpPos.Sales

open SmartErpPos.Lib

/-! ## The items of a sale -/

/-- Ids of their own, and never more returned than sold. -/
structure ItemsSound (items : List SaleItem) : Prop where
  ids : (items.map (·.id)).Nodup
  returned : ∀ item ∈ items, 0 ≤ item.refundedQty ∧ item.refundedQty ≤ item.quantity

/-- An item without what was returned of it. -/
def SaleItem.line (item : SaleItem) : SaleItem := { item with refundedQty := 0 }

/-- The units of a product on these items, by the column `f`. -/
def unitsOf (f : SaleItem → Quantity) (items : List SaleItem) (p : ProductId) : Quantity :=
  (items.map fun item => if item.productId = some p then f item else 0).sum

/-- Only the returned quantities differ. -/
def SameLines (items items' : List SaleItem) : Prop :=
  items'.map SaleItem.line = items.map SaleItem.line

variable {items items' : List SaleItem} {rows : List ValidatedItem} {refundItems : List (ℕ × ℚ)}

/-- What depends on the lines alone is the same. -/
theorem SameLines.map_eq {γ : Type*} (h : SameLines items items') {f : SaleItem → γ}
    (hf : ∀ item, f item.line = f item) : items'.map f = items.map f := by
  have hmap := congrArg (List.map f) h
  simpa [List.map_map, Function.comp_def, hf] using hmap

theorem SameLines.unitsOf_quantity (h : SameLines items items') (p : ProductId) :
    unitsOf (·.quantity) items' p = unitsOf (·.quantity) items p :=
  congrArg List.sum (h.map_eq fun _ => rfl)

theorem SameLines.entries (h : SameLines items items') :
    items'.filterMap SaleItem.entry = items.filterMap SaleItem.entry := by
  have hmap := h.map_eq (f := SaleItem.entry) fun _ => rfl
  have hkept := congrArg (List.filterMap id) hmap
  rwa [List.filterMap_map, List.filterMap_map, Function.id_comp] at hkept

/-! ## Raising one item -/

/-- Rewriting the one item with a given id changes a sum by what that item changes. -/
theorem sum_map_update {M : Type*} [AddCommGroup M] (hids : (items.map (·.id)).Nodup) {i : SaleItem}
    (hi : i ∈ items) (f : SaleItem → M) (u : SaleItem → SaleItem) :
    ((items.map fun x => if x.id = i.id then u x else x).map f).sum =
      (items.map f).sum + (f (u i) - f i) := by
  induction items with
  | nil => cases hi
  | cons x rest ih =>
    obtain ⟨hx, hrest⟩ := List.nodup_cons.mp hids
    rw [List.map_cons, List.map_cons, List.sum_cons, List.map_cons, List.sum_cons]
    rcases List.mem_cons.mp hi with rfl | hi
    · have hskip : rest.map (fun x => if x.id = i.id then u x else x) = rest := by
        refine List.map_congr_left (g := id) (fun y hy => if_neg fun heq => hx ?_) |>.trans
          (List.map_id rest)
        exact List.mem_map.mpr ⟨y, hy, heq⟩
      rw [hskip, if_pos rfl]
      abel
    · have hne : x.id ≠ i.id := fun heq => hx (List.mem_map.mpr ⟨i, hi, heq.symm⟩)
      rw [ih hrest hi, if_neg hne]
      abel

/-- The row stands for an item of the list. -/
def Names (items : List SaleItem) (row : ValidatedItem) : Prop :=
  ∃ item ∈ items, item.line = row.saleItem.line

theorem Names.of_sameLines {row : ValidatedItem} (hnames : Names items row)
    (h : SameLines items items') : Names items' row := by
  obtain ⟨item, hitem, hline⟩ := hnames
  have hmem : item.line ∈ items'.map SaleItem.line := by
    rw [h]
    exact List.mem_map_of_mem hitem
  obtain ⟨item', hitem', hline'⟩ := List.mem_map.mp hmem
  exact ⟨item', hitem', hline'.trans hline⟩

/-- What a list of rows returns of a product, as stored. -/
def rowUnits (rows : List ValidatedItem) (p : ProductId) : Quantity :=
  (rows.map fun row =>
    if row.saleItem.productId = some p then (.ofRat row.refundQty : Quantity) else 0).sum

/-- What a list of rows returns of an item, as stored. -/
def itemUnits (rows : List ValidatedItem) (id : ℕ) : Quantity :=
  (rows.map fun row => if row.saleItem.id = id then (.ofRat row.refundQty : Quantity) else 0).sum

/-- What a return of rows does to the items. -/
structure Returned (rows : List ValidatedItem) (items items' : List SaleItem) : Prop where
  sound : ItemsSound items'
  after : items' = items.map fun item =>
    { item with refundedQty := item.refundedQty + itemUnits rows item.id }
  lines : SameLines items items'
  units : ∀ p, unitsOf (·.refundedQty) items' p = unitsOf (·.refundedQty) items p + rowUnits rows p

theorem incrementRefundedQty_returned {row : ValidatedItem} (hsound : ItemsSound items)
    (hnames : Names items row) (hpos : 0 < row.refundQty)
    (h : incrementRefundedQty items row = .ok items') : Returned [row] items items' := by
  simp only [incrementRefundedQty, bind_eq_ok, orThrow_eq_ok, require_eq_ok, pure_eq_ok] at h
  obtain ⟨current, hfind, -, hguard, rfl⟩ := h
  have hcurrent : current ∈ items := List.mem_of_find?_eq_some hfind
  have hid : current.id = row.saleItem.id := by simpa using List.find?_some hfind
  obtain ⟨item, hitem, hline⟩ := hnames
  have heq : item = current := by
    refine List.inj_on_of_nodup_map hsound.ids hitem hcurrent ?_
    exact (congrArg SaleItem.id hline).trans hid.symm
  subst heq
  have hproduct : item.line.productId = row.saleItem.line.productId := by rw [hline]
  change item.productId = row.saleItem.productId at hproduct
  have hold := Numeric.toRat_nonneg_iff.mpr (hsound.returned item hcurrent).1
  have hstored : ∀ x ∈ items, (Numeric.ofRat (x.refundedQty.toRat + row.refundQty) : Quantity) =
      x.refundedQty + .ofRat row.refundQty := fun x hx =>
    Numeric.ofRat_toRat_add hpos.le
      (add_nonneg (Numeric.toRat_nonneg_iff.mpr (hsound.returned x hx).1) hpos.le)
  refine ⟨⟨?_, ?_⟩, ?_, ?_, fun p => ?_⟩
  · have hids : (items.map fun x => if x.id = row.saleItem.id then
        { x with refundedQty := .ofRat (x.refundedQty.toRat + row.refundQty) } else x).map
          (·.id) = items.map (·.id) := by
      rw [List.map_map]
      refine List.map_congr_left fun x _ => ?_
      dsimp only [Function.comp_apply]
      split <;> rfl
    rw [hids]
    exact hsound.ids
  · intro x hx
    obtain ⟨y, hy, rfl⟩ := List.mem_map.mp hx
    split
    · rename_i hyid
      have hyitem : y = item := List.inj_on_of_nodup_map hsound.ids hy hcurrent (hyid.trans hid.symm)
      subst hyitem
      refine ⟨Numeric.ofRat_nonneg (add_nonneg hold hpos.le), ?_⟩
      dsimp only
      rw [← Numeric.ofRat_toRat y.quantity]
      exact Numeric.ofRat_mono hguard
    · exact hsound.returned y hy
  · refine List.map_congr_left fun x hx => ?_
    by_cases hxid : x.id = row.saleItem.id
    · rw [if_pos hxid, hstored x hx]
      simp [itemUnits, hxid]
    · rw [if_neg hxid]
      simp [itemUnits, Ne.symm hxid]
  · unfold SameLines
    rw [List.map_map]
    refine List.map_congr_left fun x _ => ?_
    dsimp only [Function.comp_apply]
    split <;> rfl
  · unfold unitsOf rowUnits
    rw [← hid, sum_map_update hsound.ids hcurrent]
    simp only [List.map_cons, List.map_nil, List.sum_cons, List.sum_nil, add_zero, hproduct,
      hstored item hcurrent]
    split
    · rw [add_sub_cancel_left]
    · rw [sub_zero]

/-- What a whole return does to the items. -/
theorem returned_of_foldlM (hsound : ItemsSound items) (hnames : ∀ row ∈ rows, Names items row)
    (hpos : ∀ row ∈ rows, 0 < row.refundQty)
    (h : rows.foldlM incrementRefundedQty items = .ok items') : Returned rows items items' := by
  induction rows generalizing items with
  | nil =>
    rw [List.foldlM_nil, pure_eq_ok] at h
    subst h
    refine ⟨hsound, ?_, rfl, fun p => (add_zero _).symm⟩
    simp [itemUnits]
  | cons row rest ih =>
    rw [List.foldlM_cons, bind_eq_ok] at h
    obtain ⟨mid, hmid, hrest⟩ := h
    obtain ⟨hrow, hnamesRest⟩ := List.forall_mem_cons.mp hnames
    obtain ⟨hrowPos, hposRest⟩ := List.forall_mem_cons.mp hpos
    have hfirst := incrementRefundedQty_returned hsound hrow hrowPos hmid
    have hlast := ih hfirst.sound (fun r hr => (hnamesRest r hr).of_sameLines hfirst.lines)
      hposRest hrest
    refine ⟨hlast.sound, ?_, hlast.lines.trans hfirst.lines, fun p => ?_⟩
    · rw [hlast.after, hfirst.after, List.map_map]
      refine List.map_congr_left fun x _ => ?_
      simp [itemUnits, add_assoc]
    rw [hlast.units, hfirst.units, add_assoc]
    congr 1
    simp [rowUnits]

/-! ## The rows of a refund -/

/-- A validated row names an item of the sale and a positive quantity of it. -/
theorem validateItem_spec {refundItem : ℕ × ℚ} {row : ValidatedItem}
    (h : validateItem items refundItem = .ok row) :
    row.saleItem ∈ items ∧ row.saleItem.id = refundItem.1 ∧ row.refundQty = refundItem.2 ∧
      0 < row.refundQty ∧
      row.refundQty ≤ (row.saleItem.quantity - row.saleItem.refundedQty).toRat := by
  simp only [validateItem, bind_eq_ok, orThrow_eq_ok, require_eq_ok, pure_eq_ok] at h
  obtain ⟨saleItem, hfind, -, hpos, -, hle, rfl⟩ := h
  exact ⟨List.mem_of_find?_eq_some hfind, by simpa using List.find?_some hfind, rfl, hpos, hle⟩

theorem validated_spec (h : refundItems.mapM (validateItem items) = .ok rows) :
    ∀ row ∈ rows, row.saleItem ∈ items ∧ 0 < row.refundQty ∧
      (row.saleItem.id, row.refundQty) ∈ refundItems := by
  intro row hrow
  obtain ⟨e, he, hvalid⟩ := mem_of_mapM_eq_ok h hrow
  obtain ⟨hmem, hid, hqty, hpos, -⟩ := validateItem_spec hvalid
  refine ⟨hmem, hpos, ?_⟩
  rw [hid, hqty]
  exact he

/-- A refund raises the items by its rows. -/
theorem returned_of_validated (hsound : ItemsSound items)
    (hvalid : refundItems.mapM (validateItem items) = .ok rows)
    (h : rows.foldlM incrementRefundedQty items = .ok items') : Returned rows items items' :=
  returned_of_foldlM hsound
    (fun row hrow => ⟨row.saleItem, (validated_spec hvalid row hrow).1, rfl⟩)
    (fun row hrow => (validated_spec hvalid row hrow).2.1) h

/-- After the return of these quantities nothing of the sale is left. -/
def LeavesNothing (items : List SaleItem) (refundItems : List (ℕ × ℚ)) : Prop :=
  items ≠ [] ∧ ∀ item ∈ items, item.quantity ≤ item.refundedQty +
    (refundItems.map fun e => if e.1 = item.id then (.ofRat e.2 : Quantity) else 0).sum

instance (items : List SaleItem) (refundItems : List (ℕ × ℚ)) :
    Decidable (LeavesNothing items refundItems) := inferInstanceAs (Decidable (_ ∧ _))

theorem itemUnits_validated (hvalid : refundItems.mapM (validateItem items) = .ok rows) (id : ℕ) :
    itemUnits rows id =
      (refundItems.map fun e => if e.1 = id then (.ofRat e.2 : Quantity) else 0).sum := by
  refine congrArg List.sum (map_eq_of_mapM_eq_ok hvalid fun e row hrow => ?_)
  obtain ⟨-, hid, hqty, -⟩ := validateItem_spec hrow
  rw [hid, hqty]

theorem isSaleFullyRefunded_iff (hvalid : refundItems.mapM (validateItem items) = .ok rows)
    (h : Returned rows items items') :
    isSaleFullyRefunded items' = true ↔ LeavesNothing items refundItems := by
  unfold isSaleFullyRefunded LeavesNothing
  rw [h.after]
  simp [itemUnits_validated hvalid]

/-- The items of a new sale. -/
theorem storedItems_sound {lines : List SaleLine} (hpos : ∀ line ∈ lines, 0 < line.quantity) :
    ItemsSound (storedItems lines) := by
  constructor
  · have hids : (storedItems lines).map (·.id) = List.range lines.length := by
      refine List.ext_getElem (by simp [storedItems]) fun n h₁ h₂ => ?_
      simp [storedItems, SaleLine.stored]
    rw [hids]
    exact List.nodup_range
  · intro item hitem
    obtain ⟨n, hn, rfl⟩ := List.mem_iff_getElem.mp hitem
    simp only [storedItems, List.getElem_mapIdx, SaleLine.stored]
    exact ⟨le_rfl, Numeric.ofRat_nonneg (hpos _ (List.getElem_mem _)).le⟩

end SmartErpPos.Sales
