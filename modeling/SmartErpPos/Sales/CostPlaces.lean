/-
  Sales/CostPlaces.lean --- where the costs of a product are written.

  Every place of the sale belongs to one product at most, so it is written once, with the
  cost planned for it from the lines as they were.
-/
import SmartErpPos.Lib.Passes
import SmartErpPos.Sales.PlannedCosts

set_option autoImplicit false

namespace SmartErpPos.Sales

open SmartErpPos.Lib

/-! ## The places of a product -/

/-- Is this a line of the product? -/
def ReconcilableSaleLine.isOf (item : ReconcilableSaleLine) (productId : String) : Bool :=
  !item.isCustom && decide (item.productId = productId)

/-- The lines of a product. -/
def linesOf (items : List ReconcilableSaleLine) (productId : String) : List ReconcilableSaleLine :=
  items.filter fun item => item.isOf productId

def placesOf (items : List ReconcilableSaleLine) (productId : String) : List ℕ :=
  (items.zipIdx.filter fun (item, _) => item.isOf productId).map (·.2)

theorem placesOf_snoc (items : List ReconcilableSaleLine) (item : ReconcilableSaleLine)
    (productId : String) : placesOf (items ++ [item]) productId =
      placesOf items productId ++ if item.isOf productId then [items.length] else [] := by
  unfold placesOf
  rw [List.zipIdx_append, List.filter_append, List.map_append]
  congr 1
  cases h : item.isOf productId <;> simp [h]

/-- The pass over the lines finds the places of every product. -/
theorem get?_indicesByProduct (items : List ReconcilableSaleLine) (productId : String) :
    (indicesByProduct items).get? productId =
      if placesOf items productId = [] then none else some (placesOf items productId) := by
  induction items using List.reverseRecOn with
  | nil => rfl
  | append_singleton items item ih =>
    have hpass : indicesByProduct (items ++ [item]) =
        if item.isCustom then indicesByProduct items
        else (indicesByProduct items).set item.productId
          (((indicesByProduct items).get? item.productId).getD [] ++ [items.length]) := by
      unfold indicesByProduct
      rw [List.zipIdx_append, List.foldl_append]
      simp
    rw [hpass, placesOf_snoc]
    unfold ReconcilableSaleLine.isOf
    cases hcustom : item.isCustom with
    | true => simpa using ih
    | false =>
      by_cases hid : item.productId = productId
      · subst hid
        simp only [Bool.false_eq_true, if_false, OrderedMap.get?_set_self, ih]
        by_cases hnone : placesOf items item.productId = []
        · simp [hnone]
        · simp [hnone]
      · have hne : productId ≠ item.productId := Ne.symm hid
        simp only [Bool.false_eq_true, if_false, OrderedMap.get?_set_of_ne hne, ih]
        simp [hid]

theorem mem_placesOf {items : List ReconcilableSaleLine} {productId : String} {i : ℕ} :
    i ∈ placesOf items productId ↔ ∃ item, items[i]? = some item ∧ item.isOf productId = true := by
  unfold placesOf
  constructor
  · intro h
    obtain ⟨⟨item, j⟩, hmem, rfl⟩ := List.mem_map.mp h
    obtain ⟨hzip, hof⟩ := List.mem_filter.mp hmem
    exact ⟨item, List.mem_zipIdx_iff_getElem?.mp hzip, hof⟩
  · rintro ⟨item, hget, hof⟩
    exact List.mem_map.mpr
      ⟨(item, i), List.mem_filter.mpr ⟨List.mem_zipIdx_iff_getElem?.mpr hget, hof⟩, rfl⟩

theorem nodup_placesOf (items : List ReconcilableSaleLine) (productId : String) :
    (placesOf items productId).Nodup := by
  have hall : (items.zipIdx.map (·.2)).Nodup := by
    rw [List.zipIdx_map_snd]
    exact List.nodup_range'
  exact hall.sublist (List.filter_sublist.map _)

/-- The lines of a product, by their places. -/
theorem linesOf_eq (items : List ReconcilableSaleLine) (productId : String) :
    linesOf items productId = (placesOf items productId).filterMap fun i => items[i]? := by
  have hfilter : linesOf items productId =
      (items.zipIdx.filter fun (item, _) => item.isOf productId).map (·.1) := by
    unfold linesOf
    conv_lhs => rw [← List.zipIdx_map_fst 0 items]
    rw [List.filter_map]
    rfl
  rw [hfilter, placesOf, List.filterMap_map]
  rw [← List.filterMap_eq_map]
  refine List.filterMap_congr fun e he => ?_
  exact (List.mem_zipIdx_iff_getElem?.mp (List.mem_filter.mp he).1).symm

/-- Lines that keep their products keep their places. -/
theorem placesOf_congr {items items' : List ReconcilableSaleLine}
    (h : items'.map (·.productId) = items.map (·.productId)) (productId : String) :
    placesOf items' productId = placesOf items productId := by
  have hkeys : ∀ l : List ReconcilableSaleLine, placesOf l productId =
      ((l.map (·.productId)).zipIdx.filter fun (key, _) =>
        !jsStartsWith "custom_" key && decide (key = productId)).map (·.2) := by
    intro l
    rw [List.zipIdx_map, List.filter_map, List.map_map]
    rfl
  rw [hkeys, hkeys, h]

/-! ## Writing the costs -/

theorem plannedCosts_eq (items : List ReconcilableSaleLine) (actualTotal : ℚ) (indices : List ℕ) :
    plannedCosts items actualTotal indices =
      (indices.map fun i => (i, previewAt items i)).zip
        (plannedActuals actualTotal (indices.map (previewAt items))) := by
  have hzip : indices.zip (indices.map (previewAt items)) =
      indices.map fun i => (i, previewAt items i) := by
    rw [List.zip_map_right, List.zip_eq_zipWith, List.zipWith_self, List.map_map]
    rfl
  unfold plannedCosts plannedActuals
  dsimp only
  rw [hzip, List.length_map]

/-- The places written are the product's. -/
theorem plannedCosts_places (items : List ReconcilableSaleLine) (actualTotal : ℚ)
    (indices : List ℕ) : (plannedCosts items actualTotal indices).map (·.1.1) = indices := by
  rw [plannedCosts_eq, show (fun planned : (ℕ × ℚ) × ℚ => planned.1.1) = Prod.fst ∘ Prod.fst from rfl,
    ← List.map_map, List.map_fst_zip, List.map_map]
  · exact List.map_id _
  · rw [List.length_map, length_plannedActuals, List.length_map]

theorem plannedCosts_preview {items : List ReconcilableSaleLine} {actualTotal : ℚ}
    {indices : List ℕ} {planned : (ℕ × ℚ) × ℚ} (h : planned ∈ plannedCosts items actualTotal indices) :
    planned.1.2 = previewAt items planned.1.1 := by
  rw [plannedCosts_eq] at h
  obtain ⟨i, -, hi⟩ := List.mem_map.mp (List.of_mem_zip (a := planned.1) (b := planned.2) h).1
  rw [← hi]

section Write

variable (planned : List ((ℕ × ℚ) × ℚ)) (items : List ReconcilableSaleLine)

theorem getElem?_writeCost_ne {p : (ℕ × ℚ) × ℚ} {i : ℕ} (h : i ∉ ({p.1.1} : Set ℕ)) :
    (writeCost items p)[i]? = items[i]? :=
  List.getElem?_modify_ne _ _ (Ne.symm h)

theorem getElem?_writeCost_self (p : (ℕ × ℚ) × ℚ) :
    (writeCost items p)[p.1.1]? = items[p.1.1]?.map (applyActual p.1.2 p.2) :=
  List.getElem?_modify_eq _ _ _

/-- Other places stay. -/
theorem getElem?_write_of_notMem {i : ℕ} (h : i ∉ planned.map (·.1.1)) :
    (planned.foldl writeCost items)[i]? = items[i]? := by
  have hframe (l : List ReconcilableSaleLine) (p : (ℕ × ℚ) × ℚ) (j : ℕ)
      (hj : j ∉ ({p.1.1} : Set ℕ)) : (writeCost l p)[j]? = l[j]? := getElem?_writeCost_ne l hj
  refine read_foldl_of_notMem hframe (fun p hp hmem => h ?_) items
  exact List.mem_map.mpr ⟨p, hp, (Set.mem_singleton_iff.mp hmem).symm⟩

/-- Each place of a product is written once. -/
theorem getElem?_write_of_mem (hnodup : (planned.map (·.1.1)).Nodup) {p : (ℕ × ℚ) × ℚ}
    (hp : p ∈ planned) : (planned.foldl writeCost items)[p.1.1]? =
      items[p.1.1]?.map (applyActual p.1.2 p.2) := by
  have hdisjoint : planned.Pairwise fun p q => Disjoint ({p.1.1} : Set ℕ) {q.1.1} := by
    refine (List.pairwise_map.mp hnodup).imp fun hne => ?_
    exact Set.disjoint_singleton.mpr hne
  rw [← getElem?_writeCost_self]
  have hframe (l : List ReconcilableSaleLine) (p : (ℕ × ℚ) × ℚ) (j : ℕ)
      (hj : j ∉ ({p.1.1} : Set ℕ)) : (writeCost l p)[j]? = l[j]? := getElem?_writeCost_ne l hj
  refine read_foldl_of_mem hframe (fun q _ l l' hread i hi => ?_) hdisjoint hp
    (Set.mem_singleton p.1.1) items
  obtain rfl := Set.mem_singleton_iff.mp hi
  show (writeCost l q)[q.1.1]? = (writeCost l' q)[q.1.1]?
  rw [getElem?_writeCost_self, getElem?_writeCost_self]
  exact congrArg _ (hread _ (Set.mem_singleton _))

theorem productIds_write : (planned.foldl writeCost items).map (·.productId) =
    items.map (·.productId) := by
  induction planned generalizing items with
  | nil => rfl
  | cons p rest ih =>
    rw [List.foldl_cons, ih]
    refine List.ext_getElem? fun i => ?_
    rw [List.getElem?_map, List.getElem?_map]
    by_cases hi : i = p.1.1
    · subst hi
      rw [getElem?_writeCost_self, Option.map_map]
      rfl
    · rw [getElem?_writeCost_ne items hi]

end Write

/-! ## The loop over the products -/

section Products

variable (actualBatchCostMap : OrderedMap String ℚ) (items : List ReconcilableSaleLine)

theorem getElem?_reconcileProduct_of_notMem {product : String × List ℕ} {i : ℕ}
    (h : i ∉ {i | i ∈ product.2}) :
    (reconcileProduct actualBatchCostMap items product)[i]? = items[i]? := by
  unfold reconcileProduct
  cases actualBatchCostMap.get? product.1 with
  | none => rfl
  | some actualTotal =>
    refine getElem?_write_of_notMem _ items ?_
    rw [plannedCosts_places]
    exact h

/-- A product's lines are rewritten from what stands at their own places. -/
theorem getElem?_reconcileProduct_congr {items items' : List ReconcilableSaleLine}
    {product : String × List ℕ} (hnodup : product.2.Nodup)
    (hread : ∀ i ∈ {i | i ∈ product.2}, items[i]? = items'[i]?) :
    ∀ i ∈ {i | i ∈ product.2}, (reconcileProduct actualBatchCostMap items product)[i]? =
      (reconcileProduct actualBatchCostMap items' product)[i]? := by
  intro i hi
  have hplanned : ∀ actualTotal, plannedCosts items actualTotal product.2 =
      plannedCosts items' actualTotal product.2 := by
    intro actualTotal
    have hpreviews : product.2.map (previewAt items) = product.2.map (previewAt items') :=
      List.map_congr_left fun j hj => by
        unfold previewAt
        rw [hread j hj]
    unfold plannedCosts
    rw [hpreviews]
  unfold reconcileProduct
  cases actualBatchCostMap.get? product.1 with
  | none => exact hread i hi
  | some actualTotal =>
    have hplaces := plannedCosts_places items actualTotal product.2
    have hmem : i ∈ (plannedCosts items actualTotal product.2).map (·.1.1) := by
      rw [hplaces]
      exact hi
    have honce : ((plannedCosts items actualTotal product.2).map (·.1.1)).Nodup := by
      rw [hplaces]
      exact hnodup
    obtain ⟨p, hp, rfl⟩ := List.mem_map.mp hmem
    dsimp only
    rw [← hplanned, getElem?_write_of_mem _ items honce hp, getElem?_write_of_mem _ items' honce hp,
      hread _ hi]

theorem mem_products {product : String × List ℕ} :
    product ∈ (indicesByProduct items).entries ↔
      product.2 = placesOf items product.1 ∧ placesOf items product.1 ≠ [] := by
  rw [← OrderedMap.get?_eq_some_iff (m := indicesByProduct items), get?_indicesByProduct]
  split
  · rename_i hnone
    simp [hnone]
  · rename_i hsome
    simp [hsome, eq_comm]

/-- No place belongs to two products. -/
theorem products_disjoint : (indicesByProduct items).entries.Pairwise fun g g' =>
    Disjoint {i | i ∈ g.2} {i | i ∈ g'.2} := by
  refine (List.pairwise_map.mp (indicesByProduct items).nodup).imp_of_mem ?_
  intro g g' hg hg' hne
  refine Set.disjoint_left.mpr fun i hi hi' => hne ?_
  rw [Set.mem_ofPred_eq, ((mem_products items).mp hg).1, mem_placesOf] at hi
  rw [Set.mem_ofPred_eq, ((mem_products items).mp hg').1, mem_placesOf] at hi'
  obtain ⟨item, hget, hof⟩ := hi
  obtain ⟨item', hget', hof'⟩ := hi'
  obtain rfl := Option.some.inj (hget.symm.trans hget')
  unfold ReconcilableSaleLine.isOf at hof hof'
  rw [Bool.and_eq_true, decide_eq_true_eq] at hof hof'
  rw [← hof.2, ← hof'.2]

/-- The rewritten lines. -/
def reconciled : List ReconcilableSaleLine :=
  (reconcileSaleCostsToActualBatchDeduction items actualBatchCostMap).items

/-- A product's group owns its places. -/
theorem getElem?_reconcileProduct_frame (l : List ReconcilableSaleLine) (g : String × List ℕ) (i : ℕ)
    (hi : i ∉ {i | i ∈ g.2}) : (reconcileProduct actualBatchCostMap l g)[i]? = l[i]? :=
  getElem?_reconcileProduct_of_notMem actualBatchCostMap l hi

theorem getElem?_reconciled_of_mem {productId : String} {i : ℕ}
    (hi : i ∈ placesOf items productId) : (reconciled actualBatchCostMap items)[i]? =
      (reconcileProduct actualBatchCostMap items (productId, placesOf items productId))[i]? := by
  refine read_foldl_of_mem (getElem?_reconcileProduct_frame actualBatchCostMap)
    (fun g hg l l' hread => ?_) (products_disjoint items) ((mem_products items).mpr ⟨rfl, ?_⟩) hi items
  · refine getElem?_reconcileProduct_congr actualBatchCostMap ?_ hread
    rw [((mem_products items).mp hg).1]
    exact nodup_placesOf items g.1
  · exact List.ne_nil_of_mem hi

theorem getElem?_reconciled_of_notMem {i : ℕ} (hi : ∀ productId, i ∉ placesOf items productId) :
    (reconciled actualBatchCostMap items)[i]? = items[i]? := by
  refine read_foldl_of_notMem (getElem?_reconcileProduct_frame actualBatchCostMap)
    (fun g hg hmem => hi g.1 ?_) items
  rw [← ((mem_products items).mp hg).1]
  exact hmem

theorem productIds_reconciled :
    (reconciled actualBatchCostMap items).map (·.productId) = items.map (·.productId) := by
  unfold reconciled reconcileSaleCostsToActualBatchDeduction
  dsimp only
  generalize (indicesByProduct items).entries = groups
  induction groups generalizing items with
  | nil => rfl
  | cons g rest ih =>
    rw [List.foldl_cons, ih]
    unfold reconcileProduct
    cases actualBatchCostMap.get? g.1 with
    | none => rfl
    | some actualTotal => exact productIds_write _ items

end Products

end SmartErpPos.Sales
