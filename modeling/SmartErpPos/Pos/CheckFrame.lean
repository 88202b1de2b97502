/-
  Pos/CheckFrame.lean --- what cancelling, merging and splitting change.

  Each of these calls changes the checks it is given: `SameOutside P` says that every check
  outside `P` is the same row with the same lines.  A merge certainly changes both its checks
  (`mergeChecks_changes`).  A split certainly changes its source, unless it takes so little
  that the stored lines are the same (`applySplit_leaves_iff`).
-/
import SmartErpPos.Pos.CheckService

set_option autoImplicit false

namespace SmartErpPos.Pos

open SmartErpPos.Lib

/-! ## What stays the same -/

/-- Every check outside `P` is the same, and so are its lines. -/
def SameOutside (P : String → Prop) (s s' : PosState) : Prop :=
  ∀ id order, s.orders.get? id = some order → ¬ P id →
    s'.orders.get? id = some order ∧ s'.itemsOf id = s.itemsOf id

namespace SameOutside

variable {P : String → Prop} {s s' s'' : PosState}

theorem of_eq (horders : s'.orders = s.orders) (hitems : s'.items = s.items) :
    SameOutside P s s' := by
  intro id order hget _
  rw [horders, PosState.itemsOf, PosState.itemsOf, hitems]
  exact ⟨hget, rfl⟩

theorem trans (h : SameOutside P s s') (h' : SameOutside P s' s'') : SameOutside P s s'' := by
  intro id order hget hout
  obtain ⟨hget', hitems⟩ := h id order hget hout
  obtain ⟨hget'', hitems'⟩ := h' id order hget' hout
  exact ⟨hget'', hitems'.trans hitems⟩

theorem mono {Q : String → Prop} (h : SameOutside P s s') (hsub : ∀ id, P id → Q id) :
    SameOutside Q s s' := fun id order hget hout => h id order hget fun hin => hout (hsub id hin)

end SameOutside

namespace PosState

/-- Rewriting lines changes no check whose lines it leaves alone and to which it adds none. -/
theorem itemsOf_mapWithKey {s : PosState} {f : String → OrderItem → OrderItem} {id : String}
    (h : ∀ k item, s.items.get? k = some item →
      f k item = item ∨ (item.orderId ≠ id ∧ (f k item).orderId ≠ id)) :
    ({ s with items := s.items.mapWithKey f } : PosState).itemsOf id = s.itemsOf id := by
  have hlist : ∀ rows : List (Row OrderItem), (∀ row ∈ rows, f row.1 row.2 = row.2 ∨
      (row.2.orderId ≠ id ∧ (f row.1 row.2).orderId ≠ id)) →
      (rows.map fun row => (row.1, f row.1 row.2)).filter (fun row => row.2.orderId = id) =
        rows.filter fun row => row.2.orderId = id := by
    intro rows
    induction rows with
    | nil => exact fun _ => rfl
    | cons row rows ih =>
      intro hall
      obtain ⟨hrow, hrows⟩ := List.forall_mem_cons.mp hall
      rw [List.map_cons]
      rcases hrow with hsame | ⟨hbefore, hafter⟩
      · rw [hsame, List.filter_cons, List.filter_cons, ih hrows]
      · rw [List.filter_cons_of_neg (by simpa using hafter),
          List.filter_cons_of_neg (by simpa using hbefore), ih hrows]
  refine hlist s.items.entries fun row hrow => ?_
  exact h row.1 row.2 (OrderedMap.get?_eq_some_iff.mpr hrow)

theorem mem_itemsOf {s : PosState} {id k : String} {item : OrderItem} :
    (k, item) ∈ s.itemsOf id ↔ s.items.get? k = some item ∧ item.orderId = id := by
  rw [itemsOf, List.mem_filter, ← OrderedMap.get?_eq_some_iff, decide_eq_true_eq]

theorem mem_orderItems {s : PosState} {id k : String} {item : OrderItem} :
    (k, item) ∈ s.orderItems id ↔ s.items.get? k = some item ∧ item.orderId = id := by
  rw [orderItems, List.mem_insertionSort, mem_itemsOf]

/-! ## The writes -/

/-- Releasing a check's table is a matter of the floor. -/
theorem releaseTableByOrderId_rows (s : PosState) (id : String) :
    (s.releaseTableByOrderId id).orders = s.orders ∧ (s.releaseTableByOrderId id).items = s.items ∧
      (s.releaseTableByOrderId id).sales = s.sales := by
  unfold releaseTableByOrderId
  cases s.tableOfOrder id with
  | none => exact ⟨rfl, rfl, rfl⟩
  | some tableId =>
    dsimp only
    cases s.siblingOn tableId id with
    | none => exact ⟨rfl, rfl, rfl⟩
    | some sibling => exact ⟨rfl, rfl, rfl⟩

theorem sameOutside_closeOrder (s : PosState) (id : String) (status : OrderStatus) :
    SameOutside (· = id) s (s.closeOrder id status) := by
  intro id' order hget hne
  exact ⟨(OrderedMap.get?_modify_of_ne hne _ _).trans hget, rfl⟩

theorem closeOrder_get? {s : PosState} {id : String} {order : PosOrder}
    (hget : s.orders.get? id = some order) (hopen : order.status = .PENDING) (status : OrderStatus) :
    (s.closeOrder id status).orders.get? id = some { order with status := status } := by
  rw [closeOrder, OrderedMap.get?_modify_self, hget, Option.map_some, if_pos hopen]

/-- Moving lines concerns the checks they leave and the one they come to. -/
theorem sameOutside_moveOrderItems {s : PosState} {itemIds : List String} {toOrderId : String}
    {P : String → Prop} (hto : P toOrderId)
    (hfrom : ∀ k ∈ itemIds, ∀ item, s.items.get? k = some item → P item.orderId) :
    SameOutside P s (s.moveOrderItems itemIds toOrderId) := by
  intro id order hget hout
  refine ⟨hget, itemsOf_mapWithKey fun k item hitem => ?_⟩
  by_cases hk : k ∈ itemIds
  · rw [if_pos hk]
    refine .inr ⟨fun heq => hout (heq ▸ hfrom k hk item hitem), fun heq => hout (heq ▸ hto)⟩
  · rw [if_neg hk]
    exact .inl rfl

end PosState

theorem releaseTableForOrder_rows (s : PosState) (id : String) :
    (releaseTableForOrder s id).orders = s.orders ∧ (releaseTableForOrder s id).items = s.items ∧
      (releaseTableForOrder s id).sales = s.sales := by
  unfold releaseTableForOrder
  split
  · exact s.releaseTableByOrderId_rows id
  · exact ⟨rfl, rfl, rfl⟩

theorem claimTable_rows (s : PosState) (primaryId secondaryId : String) :
    (claimTable s primaryId secondaryId).orders = s.orders ∧
      (claimTable s primaryId secondaryId).items = s.items ∧
      (claimTable s primaryId secondaryId).sales = s.sales := by
  unfold claimTable
  cases (s.orders.get? primaryId).bind (·.tableId) with
  | none => exact ⟨rfl, rfl, rfl⟩
  | some tableId =>
    dsimp only
    cases s.tables.get? tableId with
    | none => exact ⟨rfl, rfl, rfl⟩
    | some table =>
      dsimp only
      split
      · exact ⟨rfl, rfl, rfl⟩
      · exact ⟨rfl, rfl, rfl⟩

/-! ## Cancelling -/

variable {orderId userId primaryId secondaryId : String}

theorem cancelOpenOrder_eq_ok {s s' : PosState} (h : cancelOpenOrder s orderId = .ok s') :
    ∃ order, s.orders.get? orderId = some order ∧ order.status = .PENDING ∧
      s' = s.closeOrder orderId .CANCELLED := by
  simp only [cancelOpenOrder, bind_eq_ok, orThrow_eq_ok, require_eq_ok, pure_eq_ok] at h
  obtain ⟨order, hget, _, hopen, rfl⟩ := h
  exact ⟨order, hget, hopen, rfl⟩

/-- Cancelling a check and freeing its table changes that check. -/
theorem sameOutside_release {P : String → Prop} {s s' : PosState} (h : SameOutside P s s') :
    SameOutside P s (releaseTableForOrder s' orderId) := by
  obtain ⟨horders, hitems, -⟩ := releaseTableForOrder_rows s' orderId
  exact h.trans (.of_eq horders hitems)

theorem sameOutside_cancelCheck {s s' : PosState} (h : cancelCheck s orderId userId = .ok s') :
    SameOutside (· = orderId) s s' := by
  simp only [cancelCheck, bind_eq_ok, pure_eq_ok] at h
  obtain ⟨order, -, _, -, s₁, hcancel, rfl⟩ := h
  obtain ⟨-, -, -, rfl⟩ := cancelOpenOrder_eq_ok hcancel
  exact sameOutside_release (s.sameOutside_closeOrder orderId .CANCELLED)

/-! ## Merging -/

theorem restaurantCheck_eq_ok {s : PosState} {message : String} {order : PosOrder}
    (h : restaurantCheck s orderId message = .ok order) : s.orders.get? orderId = some order := by
  rw [restaurantCheck, orThrow_eq_ok] at h
  exact (Option.filter_eq_some_iff.mp h).1

/-- What the checks of a merge have found. -/
structure MergeReady (s : PosState) (primaryId secondaryId : String) : Prop where
  ne : primaryId ≠ secondaryId
  primary : ∃ order, s.orders.get? primaryId = some order
  secondary : ∃ order, s.orders.get? secondaryId = some order ∧ order.status = .PENDING
  items : s.orderItems secondaryId ≠ []

theorem mergeAllowed_ready {s : PosState}
    (h : mergeAllowed s primaryId secondaryId userId = .ok ()) :
    MergeReady s primaryId secondaryId := by
  simp only [mergeAllowed, bind_eq_ok, require_eq_ok] at h
  obtain ⟨_, hne, primary, hprimary, secondary, hsecondary, _, -, _, -, _, hopen, _, -, hitems⟩ := h
  exact ⟨hne, ⟨primary, restaurantCheck_eq_ok hprimary⟩,
    ⟨secondary, restaurantCheck_eq_ok hsecondary, hopen.2⟩, hitems⟩

/-- The lines of the secondary check, on the primary one. -/
def mergedLines (s : PosState) (primaryId secondaryId : String) : PosState :=
  s.moveOrderItems ((s.orderItems secondaryId).map (·.1)) primaryId

/-- A merge that its checks let through moves the lines and cancels the secondary check. -/
theorem mergeChecks_eq {s : PosState} (h : mergeAllowed s primaryId secondaryId userId = .ok ()) :
    ∃ s', mergeChecks s primaryId secondaryId userId = .ok s' ∧
      s'.orders = ((mergedLines s primaryId secondaryId).closeOrder secondaryId .CANCELLED).orders ∧
      s'.items = (mergedLines s primaryId secondaryId).items ∧ s'.sales = s.sales := by
  obtain ⟨order, hget, hopen⟩ := (mergeAllowed_ready h).secondary
  have hcancel : cancelOpenOrder (mergedLines s primaryId secondaryId) secondaryId =
      .ok ((mergedLines s primaryId secondaryId).closeOrder secondaryId .CANCELLED) := by
    have hget' : (mergedLines s primaryId secondaryId).orders.get? secondaryId = some order := hget
    simp only [cancelOpenOrder, hget', orThrow, require]
    change ((if order.status = .PENDING then (Except.ok () : Except String Unit) else _) >>= _) = _
    rw [if_pos hopen]
    rfl
  refine ⟨claimTable (releaseTableForOrder ((mergedLines s primaryId secondaryId).closeOrder
    secondaryId .CANCELLED) secondaryId) primaryId secondaryId, ?_, ?_⟩
  · simp only [mergeChecks, h]
    change (cancelOpenOrder (mergedLines s primaryId secondaryId) secondaryId >>= _) = _
    rw [hcancel]
    rfl
  · obtain ⟨horders, hitems, hsales⟩ := claimTable_rows (releaseTableForOrder
      ((mergedLines s primaryId secondaryId).closeOrder secondaryId .CANCELLED) secondaryId)
      primaryId secondaryId
    obtain ⟨horders', hitems', hsales'⟩ := releaseTableForOrder_rows
      ((mergedLines s primaryId secondaryId).closeOrder secondaryId .CANCELLED) secondaryId
    exact ⟨horders.trans horders', hitems.trans hitems', hsales.trans hsales'⟩

/-- A merge concerns its two checks. -/
theorem sameOutside_mergeChecks {s s' : PosState}
    (h : mergeAllowed s primaryId secondaryId userId = .ok ())
    (hmerge : mergeChecks s primaryId secondaryId userId = .ok s') :
    SameOutside (fun id => id = primaryId ∨ id = secondaryId) s s' := by
  obtain ⟨s₁, hok, horders, hitems, -⟩ := mergeChecks_eq h
  obtain rfl : s₁ = s' := Except.ok.inj (hok.symm.trans hmerge)
  have hmoved : SameOutside (fun id => id = primaryId ∨ id = secondaryId) s
      (mergedLines s primaryId secondaryId) := by
    refine PosState.sameOutside_moveOrderItems (.inl rfl) fun k hk item hitem => ?_
    obtain ⟨row, hrow, rfl⟩ := List.mem_map.mp hk
    obtain ⟨hget, hof⟩ := PosState.mem_orderItems.mp hrow
    obtain rfl : row.2 = item := Option.some_inj.mp (hget.symm.trans hitem)
    exact .inr hof
  exact hmoved.trans (((PosState.sameOutside_closeOrder _ secondaryId .CANCELLED).mono
    fun _ => .inr).trans (.of_eq horders hitems))

/-- The secondary check ends up cancelled, and a line of it with the primary. -/
theorem mergeChecks_changes {s s' : PosState}
    (h : mergeAllowed s primaryId secondaryId userId = .ok ())
    (hmerge : mergeChecks s primaryId secondaryId userId = .ok s') :
    (∃ order', s'.orders.get? secondaryId = some order' ∧ order'.status = .CANCELLED) ∧
      s'.itemsOf primaryId ≠ s.itemsOf primaryId := by
  have hready := mergeAllowed_ready h
  obtain ⟨s₁, hok, horders, hitems, -⟩ := mergeChecks_eq h
  obtain rfl : s₁ = s' := Except.ok.inj (hok.symm.trans hmerge)
  constructor
  · obtain ⟨order, hget, hopen⟩ := hready.secondary
    refine ⟨{ order with status := .CANCELLED }, ?_, rfl⟩
    rw [horders]
    exact PosState.closeOrder_get? (s := mergedLines s primaryId secondaryId) hget hopen .CANCELLED
  · intro heq
    obtain ⟨row, hrow⟩ := List.exists_mem_of_ne_nil _ hready.items
    obtain ⟨hget, hof⟩ := PosState.mem_orderItems.mp hrow
    have hmoved : s₁.items.get? row.1 = some { row.2 with orderId := primaryId } := by
      rw [hitems, mergedLines, PosState.moveOrderItems, OrderedMap.get?_mapWithKey, hget,
        Option.map_some, if_pos (List.mem_map_of_mem hrow)]
    have hmem : (row.1, { row.2 with orderId := primaryId }) ∈ s₁.itemsOf primaryId :=
      PosState.mem_itemsOf.mpr ⟨hmoved, rfl⟩
    rw [heq] at hmem
    obtain ⟨hget', -⟩ := PosState.mem_itemsOf.mp hmem
    have hrow' := Option.some_inj.mp (hget.symm.trans hget')
    exact hready.ne (hof ▸ (congrArg OrderItem.orderId hrow').symm)

/-! ## Splitting -/

/-- What the checks of a split have found. -/
structure SplitReady (s : PosState) (sourceId : String) (plan : SplitPlan) : Prop where
  source : s.orders.get? sourceId = some plan.source
  slices : plan.slices ≠ []
  items : ∀ slice ∈ plan.slices, ∃ item, s.items.get? slice.itemId = some item ∧
    item.orderId = sourceId ∧ item.quantity.toRat = slice.onHand
  nodup : (plan.slices.map (·.itemId)).Nodup

theorem moveSlice_eq_ok {rows : List (PosState.Row OrderItem)} {request : String × Option ℚ}
    {slice : MoveSlice} (h : moveSlice rows request = .ok slice) :
    slice.itemId = request.1 ∧ ∃ item, (request.1, item) ∈ rows ∧
      item.quantity.toRat = slice.onHand := by
  simp only [moveSlice, bind_eq_ok, orThrow_eq_ok, require_eq_ok, pure_eq_ok] at h
  obtain ⟨row, hfind, _, -, rfl⟩ := h
  have hkey : row.1 = request.1 := by simpa using List.find?_some hfind
  refine ⟨rfl, row.2, ?_, rfl⟩
  rw [← hkey]
  exact List.mem_of_find?_eq_some hfind

theorem splitPlan_ready {s : PosState} {sourceId targetTableId : String} {items : List SplitItem}
    {sameTable : Bool} {plan : SplitPlan}
    (h : splitPlan s sourceId items targetTableId sameTable userId = .ok plan) :
    SplitReady s sourceId plan := by
  simp only [splitPlan, bind_eq_ok, require_eq_ok, pure_eq_ok] at h
  obtain ⟨requests, -, _, hsome, source, hsource, _, -, _, -, slices, hslices, _, -, _, -, _, -,
    _, -, _, -, rfl⟩ := h
  have hids : slices.map (·.itemId) = requests.entries.map Prod.fst :=
    map_eq_of_mapM_eq_ok hslices fun _ _ hslice => (moveSlice_eq_ok hslice).1
  refine ⟨restaurantCheck_eq_ok hsource, ?_, ?_, ?_⟩
  · rintro (rfl : slices = [])
    exact hsome (List.map_eq_nil_iff.mp hids.symm)
  · intro slice hmem
    obtain ⟨request, -, hslice⟩ := mem_of_mapM_eq_ok hslices hmem
    obtain ⟨hid, item, hitem, hquantity⟩ := moveSlice_eq_ok hslice
    obtain ⟨hget, hof⟩ := PosState.mem_orderItems.mp hitem
    exact ⟨item, hid ▸ hget, hof, hquantity⟩
  · rw [hids]
    exact requests.nodup

/-- The line `k` after the parts of `parts` have been taken from the check. -/
def partLine (sourceId : String) (parts : List MoveSlice) (k : String) (item : OrderItem) :
    OrderItem :=
  parts.foldl (fun item slice =>
    if k = slice.itemId ∧ item.orderId = sourceId then
      item.reduced (slice.onHand - slice.moveQty) slice.remainDiscount
    else item) item

section PartLine

variable {sourceId k : String} {parts : List MoveSlice} {item : OrderItem}

theorem partLine_orderId : (partLine sourceId parts k item).orderId = item.orderId := by
  unfold partLine
  induction parts generalizing item with
  | nil => rfl
  | cons slice rest ih =>
    rw [List.foldl_cons, ih]
    split
    · rfl
    · rfl

/-- A line no part is taken from. -/
theorem partLine_of_untouched (h : k ∉ parts.map (·.itemId) ∨ item.orderId ≠ sourceId) :
    partLine sourceId parts k item = item := by
  unfold partLine
  induction parts with
  | nil => rfl
  | cons slice rest ih =>
    rw [List.map_cons, List.mem_cons, not_or] at h
    rw [List.foldl_cons, if_neg fun htaken => h.elim (fun hk => hk.1 htaken.1) fun ho => ho htaken.2]
    exact ih (h.imp_left And.right)

/-- A line that one part is taken from. -/
theorem partLine_of_mem {slice : MoveSlice} (hmem : slice ∈ parts)
    (hnodup : (parts.map (·.itemId)).Nodup) (hof : item.orderId = sourceId) :
    partLine sourceId parts slice.itemId item =
      item.reduced (slice.onHand - slice.moveQty) slice.remainDiscount := by
  obtain ⟨before, after, rfl⟩ := List.append_of_mem hmem
  rw [List.map_append, List.map_cons, List.nodup_append, List.nodup_cons] at hnodup
  obtain ⟨-, ⟨hafter, -⟩, hbefore⟩ := hnodup
  have hhead : partLine sourceId before slice.itemId item = item :=
    partLine_of_untouched (.inl fun hin => hbefore _ hin _ List.mem_cons_self rfl)
  have hsplit : partLine sourceId (before ++ slice :: after) slice.itemId item =
      partLine sourceId after slice.itemId (if slice.itemId = slice.itemId ∧
        (partLine sourceId before slice.itemId item).orderId = sourceId then
          (partLine sourceId before slice.itemId item).reduced (slice.onHand - slice.moveQty)
            slice.remainDiscount
        else partLine sourceId before slice.itemId item) := by
    rw [partLine, List.foldl_append, List.foldl_cons]
    rfl
  rw [hsplit, hhead, if_pos ⟨rfl, hof⟩]
  exact partLine_of_untouched (.inl hafter)

end PartLine

/-- The tables after the parts of `parts` went to the new check: the lines that were there, each
less its part, and then the clones. -/
structure Parted (s : PosState) (sourceId newId : String) (parts : List MoveSlice)
    (s' : PosState) : Prop where
  orders : s'.orders = s.orders
  sales : s'.sales = s.sales
  items : ∃ clones : List (PosState.Row OrderItem), (∀ row ∈ clones, row.2.orderId = newId) ∧
    s'.items.entries = (s.items.mapWithKey (partLine sourceId parts)).entries ++ clones

namespace Parted

variable {s s' : PosState} {sourceId newId : String} {parts : List MoveSlice}

theorem refl (s : PosState) (sourceId newId : String) : Parted s sourceId newId [] s := by
  refine ⟨rfl, rfl, [], List.forall_mem_nil _, ?_⟩
  rw [List.append_nil]
  exact (List.map_id _).symm

theorem get? (h : Parted s sourceId newId parts s') {k : String} {item : OrderItem}
    (hget : s.items.get? k = some item) :
    s'.items.get? k = some (partLine sourceId parts k item) := by
  obtain ⟨clones, -, hentries⟩ := h.items
  rw [OrderedMap.get?_eq_some_iff, hentries, List.mem_append, ← OrderedMap.get?_eq_some_iff,
    OrderedMap.get?_mapWithKey, hget]
  exact .inl rfl

/-- One more part moves: the clone is a new line, and the rest stays where it was. -/
theorem step (env : ServerEnv) (h : Parted s sourceId newId parts s') (hne : sourceId ≠ newId)
    {slice : MoveSlice} {item : OrderItem} (hget : s.items.get? slice.itemId = some item)
    (hof : item.orderId = sourceId) (hless : slice.moveQty < item.quantity.toRat)
    (hnew : slice.itemId ∉ parts.map (·.itemId)) :
    ∃ s'', movePartial env sourceId newId s' slice = .ok s'' ∧
      Parted s sourceId newId (parts ++ [slice]) s'' := by
  have hget' : s'.items.get? slice.itemId = some item := by
    rw [h.get? hget, partLine_of_untouched (.inl hnew)]
  have hfresh : s'.items.get? (env.newId s') = none := (env.newId_fresh s').2.1
  obtain ⟨clones, hclones, hentries⟩ := h.items
  let clone := item.partialClone newId slice.moveQty env.now
  let cloned : PosState := { s' with items := s'.items.set (env.newId s') clone }
  refine ⟨cloned.reduceOrderItemQuantity sourceId slice.itemId (slice.onHand - slice.moveQty)
    slice.remainDiscount, ?_, h.orders, h.sales, clones ++ [(env.newId s', clone)], ?_, ?_⟩
  · have hfound : (Option.some item).filter (fun item => decide (item.orderId = sourceId) &&
        decide (slice.moveQty < item.quantity.toRat)) = some item := by
      simp [Option.filter, hof, hless]
    rw [movePartial, hget', hfound]
    rfl
  · intro row hrow
    rcases List.mem_append.mp hrow with hrow | hrow
    · exact hclones row hrow
    · obtain rfl := List.mem_singleton.mp hrow
      rfl
  · -- the lines of the new check are not reduced
    have hskip : ∀ rows : List (PosState.Row OrderItem), (∀ row ∈ rows, row.2.orderId = newId) →
        rows.map (fun row => (row.1, if row.1 = slice.itemId ∧ row.2.orderId = sourceId then
          row.2.reduced (slice.onHand - slice.moveQty) slice.remainDiscount else row.2)) = rows := by
      intro rows hrows
      refine (List.map_congr_left fun row hrow => ?_).trans (List.map_id rows)
      rw [if_neg fun htaken => hne (htaken.2.symm.trans (hrows row hrow))]
      rfl
    have hset := OrderedMap.entries_set_of_get?_eq_none hfresh clone
    simp only [PosState.reduceOrderItemQuantity, cloned, OrderedMap.mapWithKey, hset, hentries,
      List.map_append, List.map_map, List.append_assoc]
    congr 1
    · refine List.map_congr_left fun row _ => ?_
      simp only [Function.comp_apply, partLine, List.foldl_append, List.foldl_cons, List.foldl_nil]
    · rw [hskip clones hclones]
      congr 1
      exact hskip _ fun row hrow => by obtain rfl := List.mem_singleton.mp hrow; rfl

/-- All parts move. -/
theorem foldlM (env : ServerEnv) (h : Parted s sourceId newId parts s') (hne : sourceId ≠ newId)
    {todo : List MoveSlice}
    (hitems : ∀ slice ∈ todo, ∃ item, s.items.get? slice.itemId = some item ∧
      item.orderId = sourceId ∧ slice.moveQty < item.quantity.toRat)
    (hnodup : ((parts ++ todo).map (·.itemId)).Nodup) :
    ∃ s'', todo.foldlM (movePartial env sourceId newId) s' = .ok s'' ∧
      Parted s sourceId newId (parts ++ todo) s'' := by
  induction todo generalizing parts s' with
  | nil => exact ⟨s', rfl, by rwa [List.append_nil]⟩
  | cons slice rest ih =>
    obtain ⟨⟨item, hget, hof, hless⟩, hrest⟩ := List.forall_mem_cons.mp hitems
    have hnew : slice.itemId ∉ parts.map (·.itemId) := by
      rw [List.map_append, List.map_cons, List.nodup_append] at hnodup
      exact fun hin => hnodup.2.2 _ hin _ List.mem_cons_self rfl
    obtain ⟨s₁, hstep, hparted⟩ := h.step env hne hget hof hless hnew
    rw [List.append_cons] at hnodup
    obtain ⟨s₂, hrun, hdone⟩ := ih hparted hrest hnodup
    refine ⟨s₂, ?_, by rwa [List.append_assoc] at hdone⟩
    rw [List.foldlM_cons, hstep]
    exact hrun

end Parted

/-- A line after a split: a line that moves as a whole goes to the new check. -/
def splitLine (sourceId newId : String) (plan : SplitPlan) (k : String) (item : OrderItem) :
    OrderItem :=
  let parted := partLine sourceId (plan.slices.filter fun slice => !slice.isFull) k item
  if k ∈ (plan.slices.filter (·.isFull)).map (·.itemId) then { parted with orderId := newId }
  else parted

/-- The tables after a split: every line that was there, and the lines that are new. -/
structure SplitDone (env : ServerEnv) (s : PosState) (sourceId : String) (plan : SplitPlan)
    (s' : PosState) : Prop where
  orders : s'.orders = s.orders.set (env.newId s) (splitOrder env s plan)
  sales : s'.sales = s.sales
  items : ∃ clones : List (PosState.Row OrderItem),
    (∀ row ∈ clones, row.2.orderId = env.newId s) ∧ s'.items.entries =
      (s.items.mapWithKey (splitLine sourceId (env.newId s) plan)).entries ++ clones

section

variable {env : ServerEnv} {s s' : PosState} {sourceId : String} {plan : SplitPlan}

theorem SplitReady.source_ne (h : SplitReady s sourceId plan) : sourceId ≠ env.newId s := by
  intro heq
  have hget := h.source
  rw [heq, (env.newId_fresh s).1] at hget
  cases hget

/-- A part that moves is less than its line. -/
theorem MoveSlice.lt_of_not_isFull {slice : MoveSlice} (h : slice.isFull = false) :
    slice.moveQty < slice.onHand := by
  have hless := not_le.mp (of_decide_eq_false h)
  have htol : (0 : ℚ) < splitTolerance := by norm_num [splitTolerance]
  linarith

/-- A split whose checks went through is carried out. -/
theorem applySplit_eq (env : ServerEnv) (h : SplitReady s sourceId plan) :
    ∃ s', applySplit env s sourceId plan = .ok s' ∧ SplitDone env s sourceId plan s' := by
  let opened : PosState :=
    { s with orders := s.orders.set (env.newId s) (splitOrder env s plan) }
  let parts := plan.slices.filter fun slice => !slice.isFull
  have hitems : ∀ slice ∈ parts, ∃ item, opened.items.get? slice.itemId = some item ∧
      item.orderId = sourceId ∧ slice.moveQty < item.quantity.toRat := by
    intro slice hslice
    obtain ⟨hmem, hpart⟩ := List.mem_filter.mp hslice
    obtain ⟨item, hget, hof, honHand⟩ := h.items slice hmem
    refine ⟨item, hget, hof, ?_⟩
    rw [honHand]
    exact MoveSlice.lt_of_not_isFull (by simpa using hpart)
  have hnodup : (([] ++ parts).map MoveSlice.itemId).Nodup := by
    rw [List.nil_append]
    exact h.nodup.sublist (List.filter_sublist.map _)
  obtain ⟨parted, hrun, hparted⟩ :=
    (Parted.refl opened sourceId (env.newId s)).foldlM env h.source_ne hitems hnodup
  let moved := parted.moveOrderItems ((plan.slices.filter (·.isFull)).map (·.itemId)) (env.newId s)
  refine ⟨if plan.sameTable then moved else moved.occupyTable plan.destTableId (env.newId s), ?_, ?_⟩
  · rw [applySplit]
    change (List.foldlM (movePartial env sourceId (env.newId s)) opened _ >>= _) = _
    rw [hrun]
    rfl
  · obtain ⟨clones, hclones, hentries⟩ := hparted.items
    have hmoved : SplitDone env s sourceId plan moved := by
      refine ⟨hparted.orders, hparted.sales, clones.map fun row => (row.1,
        if row.1 ∈ (plan.slices.filter (·.isFull)).map (·.itemId) then
          { row.2 with orderId := env.newId s } else row.2), ?_, ?_⟩
      · intro row hrow
        obtain ⟨clone, hclone, rfl⟩ := List.mem_map.mp hrow
        dsimp only
        split
        · rfl
        · exact hclones clone hclone
      · simp only [moved, PosState.moveOrderItems, OrderedMap.mapWithKey, hentries,
          List.map_append, List.map_map]
        rfl
    split
    · exact hmoved
    · exact ⟨hmoved.orders, hmoved.sales, hmoved.items⟩

/-- The lines of an earlier check after a split. -/
theorem SplitDone.itemsOf (h : SplitDone env s sourceId plan s') {id : String}
    (hid : id ≠ env.newId s) :
    s'.itemsOf id = ({ s with items := s.items.mapWithKey (splitLine sourceId (env.newId s) plan) } :
      PosState).itemsOf id := by
  obtain ⟨clones, hclones, hentries⟩ := h.items
  have hnone : clones.filter (fun row => row.2.orderId = id) = [] := by
    rw [List.filter_eq_nil_iff]
    intro row hrow hof
    exact hid ((of_decide_eq_true hof).symm.trans (hclones row hrow))
  rw [PosState.itemsOf, PosState.itemsOf, hentries, List.filter_append, hnone, List.append_nil]

theorem SplitDone.get? (h : SplitDone env s sourceId plan s') {k : String} {item : OrderItem}
    (hget : s.items.get? k = some item) :
    s'.items.get? k = some (splitLine sourceId (env.newId s) plan k item) := by
  obtain ⟨clones, -, hentries⟩ := h.items
  rw [OrderedMap.get?_eq_some_iff, hentries, List.mem_append, ← OrderedMap.get?_eq_some_iff,
    OrderedMap.get?_mapWithKey, hget]
  exact .inl rfl

/-- A split leaves the lines of other checks alone. -/
theorem splitLine_of_ne (hready : SplitReady s sourceId plan) {k : String} {item : OrderItem}
    (hget : s.items.get? k = some item) (hof : item.orderId ≠ sourceId) (newId : String) :
    splitLine sourceId newId plan k item = item := by
  have hk : k ∉ (plan.slices.filter (·.isFull)).map (·.itemId) := by
    intro hin
    obtain ⟨slice, hslice, rfl⟩ := List.mem_map.mp hin
    obtain ⟨item', hget', hof', -⟩ := hready.items slice (List.mem_filter.mp hslice).1
    obtain rfl := Option.some_inj.mp (hget.symm.trans hget')
    exact hof hof'
  rw [splitLine, if_neg hk]
  exact partLine_of_untouched (.inr hof)

/-- A split changes its source and no other check. -/
theorem sameOutside_split (hready : SplitReady s sourceId plan)
    (h : SplitDone env s sourceId plan s') : SameOutside (· = sourceId) s s' := by
  intro id order hget hout
  have hid : id ≠ env.newId s := by
    rintro rfl
    rw [(env.newId_fresh s).1] at hget
    cases hget
  constructor
  · rw [h.orders, OrderedMap.get?_set_of_ne hid, hget]
  · rw [h.itemsOf hid]
    refine PosState.itemsOf_mapWithKey fun k item hitem => ?_
    by_cases hof : item.orderId = id
    · exact .inl (splitLine_of_ne hready hitem (hof ▸ hout) _)
    · refine .inr ⟨hof, ?_⟩
      rw [splitLine]
      split
      · exact Ne.symm hid
      · rwa [partLine_orderId]

end

/-- The split takes so little of every line that the stored lines stay as they are. -/
def LeavesLines (s : PosState) (plan : SplitPlan) : Prop :=
  ∀ slice ∈ plan.slices, slice.isFull = false ∧ ∀ item, s.items.get? slice.itemId = some item →
    item.reduced (slice.onHand - slice.moveQty) slice.remainDiscount = item

/-- A split changes its source, unless it leaves all its lines as they are. -/
theorem applySplit_leaves_iff {env : ServerEnv} {s s' : PosState} {sourceId : String}
    {plan : SplitPlan} (hready : SplitReady s sourceId plan)
    (h : SplitDone env s sourceId plan s') :
    s'.itemsOf sourceId = s.itemsOf sourceId ↔ LeavesLines s plan := by
  have hline : ∀ slice ∈ plan.slices, ∀ item, s.items.get? slice.itemId = some item →
      slice.isFull = false → splitLine sourceId (env.newId s) plan slice.itemId item =
        item.reduced (slice.onHand - slice.moveQty) slice.remainDiscount := by
    intro slice hslice item hget hpart
    obtain ⟨item', hget', hof, -⟩ := hready.items slice hslice
    obtain rfl := Option.some_inj.mp (hget.symm.trans hget')
    have hk : slice.itemId ∉ (plan.slices.filter (·.isFull)).map (·.itemId) := by
      intro hin
      obtain ⟨full, hfull, hid⟩ := List.mem_map.mp hin
      obtain ⟨hmem, hisFull⟩ := List.mem_filter.mp hfull
      obtain rfl := List.inj_on_of_nodup_map hready.nodup hmem hslice hid
      rw [hpart] at hisFull
      cases hisFull
    rw [splitLine, if_neg hk]
    exact partLine_of_mem (List.mem_filter.mpr ⟨hslice, by simp [hpart]⟩)
      (hready.nodup.sublist (List.filter_sublist.map _)) hof
  constructor
  · intro hsame slice hslice
    obtain ⟨item, hget, hof, -⟩ := hready.items slice hslice
    -- the line is still there, so it is what the split makes of it
    have hmem : (slice.itemId, item) ∈ s'.itemsOf sourceId :=
      hsame ▸ PosState.mem_itemsOf.mpr ⟨hget, hof⟩
    have hkept : splitLine sourceId (env.newId s) plan slice.itemId item = item :=
      Option.some_inj.mp ((h.get? hget).symm.trans (PosState.mem_itemsOf.mp hmem).1)
    have hpart : slice.isFull = false := by
      by_contra hfull
      have hin : slice.itemId ∈ (plan.slices.filter (·.isFull)).map (·.itemId) :=
        List.mem_map_of_mem (List.mem_filter.mpr ⟨hslice, by simpa using hfull⟩)
      rw [splitLine, if_pos hin] at hkept
      exact hready.source_ne (hof.symm.trans (congrArg OrderItem.orderId hkept).symm)
    refine ⟨hpart, fun item' hget' => ?_⟩
    obtain rfl := Option.some_inj.mp (hget.symm.trans hget')
    rw [← hline slice hslice item hget hpart, hkept]
  · intro hleaves
    rw [h.itemsOf hready.source_ne]
    refine PosState.itemsOf_mapWithKey fun k item hget => .inl ?_
    by_cases hk : k ∈ plan.slices.map (·.itemId)
    · obtain ⟨slice, hslice, rfl⟩ := List.mem_map.mp hk
      obtain ⟨hpart, hreduced⟩ := hleaves slice hslice
      rw [hline slice hslice item hget hpart, hreduced item hget]
    · have hout : ∀ p : MoveSlice → Bool, k ∉ (plan.slices.filter p).map (·.itemId) :=
        fun p hin => hk (List.map_subset _ (List.filter_subset_self _) hin)
      rw [splitLine, if_neg (hout _)]
      exact partLine_of_untouched (.inl (hout _))

end SmartErpPos.Pos
