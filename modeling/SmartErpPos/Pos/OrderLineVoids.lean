/-
  Pos/OrderLineVoids.lean --- void quantities from an edited ticket.

  Source: `shared/utils/reconcileOrderLineVoids.ts`, `computeVoidItemsFromUpdatedLines`.

  A ticket with at least one line under a server id is compared row by row: a row whose
  id no line carries goes, and lines under ids of the till count for nothing.  Any other
  ticket is compared product by product, and the surplus is drawn from the product's rows
  in turn (`Lib/TolerantDraw.lean`).  Differences up to `1e-9` are left alone.

  `Number(x) || 0` is an optional number: a text that is not a number counts as none.
  The ids of the rows are a primary key, which `OrderItems` carries.
-/
import SmartErpPos.Lib.Attribution
import SmartErpPos.Lib.Grouping
import SmartErpPos.Lib.JsText
import SmartErpPos.Lib.KeyedSum
import SmartErpPos.Lib.TolerantDraw
import Mathlib.Algebra.Order.Ring.Rat
import Mathlib.Tactic.Linarith
import Mathlib.Tactic.NormNum

set_option autoImplicit false

namespace SmartErpPos.Pos

open SmartErpPos.Lib

/-! ## The comparison -/

structure ReconcileServerLine where
  id : String
  quantity : Option ℚ
  productId : Option String

structure ReconcileDesiredLine where
  lineId : Option String
  productId : Option String
  quantity : Option ℚ

structure VoidItem where
  itemId : String
  quantity : ℚ
  deriving DecidableEq

/-- `Number(item.quantity) || 0`. -/
def ReconcileServerLine.qty (item : ReconcileServerLine) : ℚ := item.quantity.getD 0

/-- `Number(line.quantity) || 0`. -/
def ReconcileDesiredLine.qty (line : ReconcileDesiredLine) : ℚ := line.quantity.getD 0

/-- Quantities that differ by no more count as equal. -/
def tolerance : ℚ := 1 / 1000000000

/-- The id of a line that names a server row. -/
def ReconcileDesiredLine.uuid (line : ReconcileDesiredLine) : Option String :=
  line.lineId.filter fun id => isUuidText id

def hasUuidLine (eventLines : List ReconcileDesiredLine) : Bool :=
  eventLines.any fun line => line.uuid.isSome

/-- The quantity wanted under each server id; the last line with an id counts. -/
def desiredByUuid (eventLines : List ReconcileDesiredLine) : OrderedMap String ℚ :=
  eventLines.foldl (fun desired line =>
    match line.uuid with
    | some id => desired.set id line.qty
    | none => desired) OrderedMap.empty

/-- The void of one row, compared by its id. -/
def voidOfRow (desired : OrderedMap String ℚ) (item : ReconcileServerLine) : Option VoidItem :=
  if 0 < item.qty then
    match desired.get? item.id with
    | none => some ⟨item.id, item.qty⟩
    | some want =>
      if want < item.qty - tolerance then some ⟨item.id, item.qty - want⟩ else none
  else none

/-- The quantity wanted of each product. -/
def desiredByProduct (eventLines : List ReconcileDesiredLine) : OrderedMap String ℚ :=
  eventLines.foldl (fun desired line =>
    let pid := line.productId.getD ""
    if pid = "" then desired else desired.set pid ((desired.get? pid).getD 0 + line.qty))
    OrderedMap.empty

/-- The rows of each product. -/
def haveByProduct (serverItems : List ReconcileServerLine) : OrderedMap String (List (String × ℚ)) :=
  groupInto (fun item => item.productId.getD "") (fun item => (item.id, item.qty)) serverItems

/-- The voids of one product: its surplus, from its rows in turn. -/
def voidsOfProduct (desired : OrderedMap String ℚ) (group : String × List (String × ℚ)) :
    List VoidItem :=
  let toVoid := (group.2.map Prod.snd).sum - (desired.get? group.1).getD 0
  (tolerantDraws tolerance Prod.snd group.2 toVoid).map fun draw => ⟨draw.1.1, draw.2⟩

def computeVoidItemsFromUpdatedLines (serverItems : List ReconcileServerLine)
    (eventLines : List ReconcileDesiredLine) : List VoidItem :=
  if hasUuidLine eventLines then serverItems.filterMap (voidOfRow (desiredByUuid eventLines))
  else (haveByProduct serverItems).entries.flatMap (voidsOfProduct (desiredByProduct eventLines))

/-! ## What a reconciled ticket is -/

/-- The rows of an order: no two have one id. -/
structure OrderItems where
  rows : List ReconcileServerLine
  nodup : (rows.map (·.id)).Nodup

namespace OrderItems

variable (items : OrderItems)

def ofProduct (productId : String) : List ReconcileServerLine :=
  items.rows.filter fun item => item.productId = some productId

/-- What the order holds of a product. -/
def currentQty (productId : String) : ℚ := ((items.ofProduct productId).map (·.qty)).sum

end OrderItems

/-- What the ticket wants of a product. -/
def desiredQty (eventLines : List ReconcileDesiredLine) (productId : String) : ℚ :=
  ((eventLines.filter fun line => line.productId = some productId).map (·.qty)).sum

/-- What the voids leave of a row. -/
def remainingQty (voids : List VoidItem) (item : ReconcileServerLine) : ℚ :=
  item.qty - ((voids.filter fun v => v.itemId = item.id).map (·.quantity)).sum

/-- The voids bring the order down to the ticket and no further. -/
structure FollowsTicket (items : OrderItems) (eventLines : List ReconcileDesiredLine)
    (voids : List VoidItem) : Prop where
  positive : ∀ v ∈ voids, 0 < v.quantity
  withinRow : ∀ v ∈ voids, ∃ item ∈ items.rows, item.id = v.itemId ∧ v.quantity ≤ item.qty
  once : (voids.map (·.itemId)).Nodup
  remaining : ∀ productId, productId ≠ "" →
    ((items.ofProduct productId).map (remainingQty voids)).sum =
      min (items.currentQty productId) (desiredQty eventLines productId)

/-! ## When the ticket is followed -/

/-- What the row's own line asks of it; nothing without such a line. -/
def askedOf (eventLines : List ReconcileDesiredLine) (item : ReconcileServerLine) : ℚ :=
  ((desiredByUuid eventLines).get? item.id).getD 0

/-- The row has nothing to void, or its own line asks for all of it. -/
def AskedInFull (eventLines : List ReconcileDesiredLine) (item : ReconcileServerLine) : Prop :=
  item.qty ≤ 0 ∨ ∃ want ∈ (desiredByUuid eventLines).get? item.id, item.qty - tolerance ≤ want

instance (eventLines : List ReconcileDesiredLine) (item : ReconcileServerLine) :
    Decidable (AskedInFull eventLines item) := inferInstanceAs (Decidable (_ ∨ _))

/-- What the row's own line asks of it, up to the row. -/
def askedUpTo (eventLines : List ReconcileDesiredLine) (item : ReconcileServerLine) : ℚ :=
  if AskedInFull eventLines item then item.qty else askedOf eventLines item

/-- A product whose rows are asked for by their own lines: in full where the ticket wants no
less than there is, and otherwise for all that the ticket wants. -/
def AskedByOwnLines (items : OrderItems) (eventLines : List ReconcileDesiredLine)
    (productId : String) : Prop :=
  if items.currentQty productId ≤ desiredQty eventLines productId then
    ∀ item ∈ items.ofProduct productId, AskedInFull eventLines item
  else ((items.ofProduct productId).map (askedUpTo eventLines)).sum =
    desiredQty eventLines productId

/-- A product whose surplus, if it has one, ends at a row. -/
def SurplusEndsAtRow (items : OrderItems) (eventLines : List ReconcileDesiredLine)
    (productId : String) : Prop :=
  items.currentQty productId ≤ desiredQty eventLines productId ∨
    EndsAtSource tolerance
      (((items.ofProduct productId).map (·.qty)).filter fun qty => tolerance < qty)
      (items.currentQty productId - desiredQty eventLines productId)

/-- Under server ids no line asks for less than nothing of a row and every product is asked for
by its rows' own lines; under other ids every surplus ends at a row. -/
def Reconcilable (items : OrderItems) (eventLines : List ReconcileDesiredLine) : Prop :=
  if hasUuidLine eventLines then
    (∀ item ∈ items.rows, AskedInFull eventLines item ∨ 0 ≤ askedOf eventLines item) ∧
      ∀ productId, productId ≠ "" → AskedByOwnLines items eventLines productId
  else ∀ productId, productId ≠ "" → SurplusEndsAtRow items eventLines productId

/-! ## Row by row -/

theorem tolerance_pos : 0 < tolerance := by norm_num [tolerance]

section Rows

variable {eventLines : List ReconcileDesiredLine}

/-- A row is voided unless it is asked for in full, by what its line does not ask for. -/
theorem voidOfRow_eq (item : ReconcileServerLine) :
    voidOfRow (desiredByUuid eventLines) item =
      if AskedInFull eventLines item then none
      else some ⟨item.id, item.qty - askedOf eventLines item⟩ := by
  unfold voidOfRow
  rcases le_or_gt item.qty 0 with hqty | hqty
  · have hfull : AskedInFull eventLines item := .inl hqty
    rw [if_neg hqty.not_gt, if_pos hfull]
  · rw [if_pos hqty]
    cases hget : (desiredByUuid eventLines).get? item.id with
    | none =>
      have hfull : ¬ AskedInFull eventLines item := by
        rintro (h | ⟨want, hwant, -⟩)
        · exact hqty.not_ge h
        · rw [hget] at hwant
          cases hwant
      rw [if_neg hfull, askedOf, hget, Option.getD_none, sub_zero]
    | some want =>
      have hiff : AskedInFull eventLines item ↔ ¬ want < item.qty - tolerance := by
        simp [AskedInFull, hget, hqty.not_ge]
      rw [askedOf, hget, Option.getD_some]
      rcases le_or_gt (item.qty - tolerance) want with hwant | hwant
      · rw [if_pos (hiff.mpr hwant.not_gt)]
        exact if_neg hwant.not_gt
      · rw [if_neg (fun h => hiff.mp h hwant)]
        exact if_pos hwant

/-- A voided row holds more than its line asks of it. -/
theorem askedOf_lt_of_not_full {item : ReconcileServerLine} (h : ¬ AskedInFull eventLines item) :
    askedOf eventLines item < item.qty := by
  simp only [AskedInFull, not_or, not_le, not_exists, not_and] at h
  obtain ⟨hqty, hwant⟩ := h
  unfold askedOf
  cases hget : (desiredByUuid eventLines).get? item.id with
  | none => exact hqty
  | some want =>
    have hless := hwant want (by rw [hget]; rfl)
    have hpos := tolerance_pos
    rw [Option.getD_some]
    linarith

theorem itemId_of_voidOfRow {item : ReconcileServerLine} {v : VoidItem}
    (h : voidOfRow (desiredByUuid eventLines) item = some v) : v.itemId = item.id := by
  rw [voidOfRow_eq] at h
  split at h
  · cases h
  · cases h
    rfl

/-- The voids name rows in their order, each at most once. -/
theorem itemIds_sublist (rows : List ReconcileServerLine) :
    List.Sublist ((rows.filterMap (voidOfRow (desiredByUuid eventLines))).map (·.itemId))
      (rows.map (·.id)) := by
  induction rows with
  | nil => exact List.Sublist.refl _
  | cons item rest ih =>
    rw [List.filterMap_cons]
    cases hvoid : voidOfRow (desiredByUuid eventLines) item with
    | none => exact ih.cons item.id
    | some v =>
      rw [List.map_cons, List.map_cons, itemId_of_voidOfRow hvoid]
      exact ih.cons_cons item.id

/-- A list of voids, at most one for a row, holds one row's void under its id. -/
theorem filter_filterMap_voidOfRow {rows : List ReconcileServerLine}
    (hnodup : (rows.map (·.id)).Nodup) {item : ReconcileServerLine} (hitem : item ∈ rows) :
    (rows.filterMap (voidOfRow (desiredByUuid eventLines))).filter (fun v => v.itemId = item.id) =
      (voidOfRow (desiredByUuid eventLines) item).toList := by
  have hother : ∀ rest : List ReconcileServerLine, item.id ∉ rest.map (·.id) →
      (rest.filterMap (voidOfRow (desiredByUuid eventLines))).filter
        (fun v => v.itemId = item.id) = [] := by
    intro rest hrest
    refine List.filter_eq_nil_iff.mpr fun v hv => ?_
    obtain ⟨row, hrow, hvoid⟩ := List.mem_filterMap.mp hv
    rw [itemId_of_voidOfRow hvoid, decide_eq_true_eq]
    exact fun heq => hrest (heq ▸ List.mem_map.mpr ⟨row, hrow, rfl⟩)
  induction rows with
  | nil => cases hitem
  | cons row rest ih =>
    rw [List.map_cons, List.nodup_cons] at hnodup
    rcases List.mem_cons.mp hitem with rfl | hrest
    · rw [List.filterMap_cons]
      cases hvoid : voidOfRow (desiredByUuid eventLines) item with
      | none => exact hother rest hnodup.1
      | some v =>
        rw [List.filter_cons_of_pos (by simpa using itemId_of_voidOfRow hvoid), hother rest hnodup.1]
        rfl
    · have hne : row.id ≠ item.id :=
        fun heq => hnodup.1 (heq ▸ List.mem_map.mpr ⟨item, hrest, rfl⟩)
      rw [List.filterMap_cons]
      cases hvoid : voidOfRow (desiredByUuid eventLines) row with
      | none => exact ih hnodup.2 hrest
      | some v =>
        rw [List.filter_cons_of_neg (by simpa [itemId_of_voidOfRow hvoid] using hne)]
        exact ih hnodup.2 hrest

/-- What the row's own line asks of it, up to the row, is what stays of it. -/
theorem remainingQty_rows (items : OrderItems) {item : ReconcileServerLine}
    (hitem : item ∈ items.rows) :
    remainingQty (items.rows.filterMap (voidOfRow (desiredByUuid eventLines))) item =
      askedUpTo eventLines item := by
  rw [remainingQty, filter_filterMap_voidOfRow items.nodup hitem, voidOfRow_eq, askedUpTo]
  split
  · exact sub_zero _
  · simp

/-- Nothing is asked up to a row beyond the row. -/
theorem askedUpTo_le (item : ReconcileServerLine) : askedUpTo eventLines item ≤ item.qty := by
  unfold askedUpTo
  split
  · exact le_rfl
  · rename_i hfull
    exact (askedOf_lt_of_not_full hfull).le

/-- A sum that loses something somewhere is smaller. -/
theorem sum_askedUpTo_eq_iff (rows : List ReconcileServerLine) :
    (rows.map (askedUpTo eventLines)).sum = (rows.map (·.qty)).sum ↔
      ∀ item ∈ rows, AskedInFull eventLines item := by
  induction rows with
  | nil => simp
  | cons item rest ih =>
    rw [List.forall_mem_cons, ← ih, List.map_cons, List.map_cons, List.sum_cons, List.sum_cons]
    have hrest : (rest.map (askedUpTo eventLines)).sum ≤ (rest.map (·.qty)).sum :=
      List.sum_le_sum fun item _ => askedUpTo_le item
    rcases em (AskedInFull eventLines item) with hfull | hfull
    · rw [askedUpTo, if_pos hfull, add_right_inj]
      exact (and_iff_right hfull).symm
    · have hless := askedOf_lt_of_not_full hfull
      rw [askedUpTo, if_neg hfull]
      constructor
      · intro heq
        exact absurd heq (by linarith)
      · exact fun h => absurd h.1 hfull

/-- The rows of a product come down to the ticket exactly when their own lines ask for what
the ticket wants. -/
theorem sum_askedUpTo_eq_min_iff (items : OrderItems) (productId : String) :
    ((items.ofProduct productId).map (askedUpTo eventLines)).sum =
        min (items.currentQty productId) (desiredQty eventLines productId) ↔
      AskedByOwnLines items eventLines productId := by
  unfold AskedByOwnLines
  split
  · rename_i henough
    rw [min_eq_left henough]
    exact sum_askedUpTo_eq_iff _
  · rename_i hless
    rw [min_eq_right (not_le.mp hless).le]

/-- The voids of a ticket with server ids follow it exactly when its lines ask row by row for
what they want. -/
theorem followsTicket_rows_iff (items : OrderItems) :
    FollowsTicket items eventLines
        (items.rows.filterMap (voidOfRow (desiredByUuid eventLines))) ↔
      (∀ item ∈ items.rows, AskedInFull eventLines item ∨ 0 ≤ askedOf eventLines item) ∧
        ∀ productId, productId ≠ "" → AskedByOwnLines items eventLines productId := by
  have hremaining : ∀ productId,
      ((items.ofProduct productId).map (remainingQty
        (items.rows.filterMap (voidOfRow (desiredByUuid eventLines))))).sum =
      ((items.ofProduct productId).map (askedUpTo eventLines)).sum := fun productId =>
    congrArg List.sum (List.map_congr_left fun item hitem =>
      remainingQty_rows items (List.mem_filter.mp hitem).1)
  have hvoids : ∀ v ∈ items.rows.filterMap (voidOfRow (desiredByUuid eventLines)),
      ∃ item ∈ items.rows, ¬ AskedInFull eventLines item ∧
        v = ⟨item.id, item.qty - askedOf eventLines item⟩ := by
    intro v hv
    obtain ⟨item, hitem, hvoid⟩ := List.mem_filterMap.mp hv
    rw [voidOfRow_eq] at hvoid
    split at hvoid
    · cases hvoid
    · rename_i hfull
      exact ⟨item, hitem, hfull, (Option.some.inj hvoid).symm⟩
  constructor
  · intro h
    constructor
    · intro item hitem
      rcases em (AskedInFull eventLines item) with hfull | hfull
      · exact .inl hfull
      · have hmem : (⟨item.id, item.qty - askedOf eventLines item⟩ : VoidItem) ∈
            items.rows.filterMap (voidOfRow (desiredByUuid eventLines)) :=
          List.mem_filterMap.mpr ⟨item, hitem, by rw [voidOfRow_eq, if_neg hfull]⟩
        obtain ⟨row, hrow, hid, hle⟩ := h.withinRow _ hmem
        have hsame : row = item := List.inj_on_of_nodup_map items.nodup hrow hitem hid
        subst hsame
        exact .inr (by linarith)
    · intro productId hproduct
      rw [← sum_askedUpTo_eq_min_iff, ← hremaining]
      exact h.remaining productId hproduct
  · rintro ⟨hasked, hproducts⟩
    refine ⟨fun v hv => ?_, fun v hv => ?_, ?_, fun productId hproduct => ?_⟩
    · obtain ⟨item, hitem, hfull, rfl⟩ := hvoids v hv
      exact sub_pos.mpr (askedOf_lt_of_not_full hfull)
    · obtain ⟨item, hitem, hfull, rfl⟩ := hvoids v hv
      exact ⟨item, hitem, rfl, sub_le_self _ ((hasked item hitem).resolve_left hfull)⟩
    · exact items.nodup.sublist (itemIds_sublist items.rows)
    · rw [hremaining, sum_askedUpTo_eq_min_iff]
      exact hproducts productId hproduct

end Rows

/-! ## Product by product -/

/-- A product's key is its id; a missing id has the empty key. -/
theorem getD_eq_iff (pid : Option String) {productId : String} (h : productId ≠ "") :
    pid.getD "" = productId ↔ pid = some productId := by
  cases pid with
  | none => simp [Ne.symm h]
  | some pid => simp

section Products

variable {eventLines : List ReconcileDesiredLine} (items : OrderItems)

/-- The wants of a product, added up line by line. -/
theorem getD_desiredByProduct {productId : String} (h : productId ≠ "") :
    ((desiredByProduct eventLines).get? productId).getD 0 = desiredQty eventLines productId := by
  induction eventLines using List.reverseRecOn with
  | nil => rfl
  | append_singleton lines line ih =>
    have hpass : desiredByProduct (lines ++ [line]) =
        if line.productId.getD "" = "" then desiredByProduct lines
        else (desiredByProduct lines).set (line.productId.getD "")
          (((desiredByProduct lines).get? (line.productId.getD "")).getD 0 + line.qty) := by
      rw [desiredByProduct, List.foldl_append]
      rfl
    have hwants : desiredQty (lines ++ [line]) productId =
        desiredQty lines productId + if line.productId = some productId then line.qty else 0 := by
      rw [desiredQty, List.filter_append, List.map_append, List.sum_append]
      rcases em (line.productId = some productId) with hline | hline
      · simp [hline, desiredQty]
      · simp [hline, desiredQty]
    have hkey := getD_eq_iff line.productId h
    rw [hpass, hwants]
    rcases em (line.productId = some productId) with hline | hline
    · rw [if_neg (by rw [hkey.mpr hline]; exact h), hkey.mpr hline, OrderedMap.get?_set_self,
        Option.getD_some, ih, if_pos hline]
    · rw [if_neg hline, add_zero, ← ih]
      split
      · rfl
      · rw [OrderedMap.get?_set_of_ne fun heq => hline (hkey.mp heq.symm)]

/-- The rows of a product, under its key. -/
theorem withKey_productId {productId : String} (h : productId ≠ "") (rows : List ReconcileServerLine) :
    withKey (fun item => item.productId.getD "") productId rows =
      rows.filter fun item => item.productId = some productId :=
  List.filter_congr fun _ _ => decide_eq_decide.mpr (getD_eq_iff _ h)

/-- The voids of one product, in one list of draws. -/
def drawsOf (eventLines : List ReconcileDesiredLine) (productId : String) :
    List ((String × ℚ) × ℚ) :=
  tolerantDraws tolerance Prod.snd
    ((items.ofProduct productId).map fun item => (item.id, item.qty))
    (items.currentQty productId - desiredQty eventLines productId)

/-- A void names a row of the product whose surplus it is drawn from. -/
theorem mem_voidsOfProduct {group : String × List (String × ℚ)}
    (hgroup : group ∈ (haveByProduct items.rows).entries) {v : VoidItem}
    (hv : v ∈ voidsOfProduct (desiredByProduct eventLines) group) :
    tolerance < v.quantity ∧ ∃ item ∈ items.rows, item.productId.getD "" = group.1 ∧
      item.id = v.itemId ∧ v.quantity ≤ item.qty := by
  have hrows := get?_groupInto_eq_some _ _ (OrderedMap.get?_eq_some_iff.mpr hgroup)
  obtain ⟨draw, hdraw, rfl⟩ := List.mem_map.mp hv
  obtain ⟨hmore, hle⟩ := mem_tolerantDraws hdraw
  have hsource : draw.1 ∈ group.2 :=
    (tolerantDraws_sublist _ _ _ _).subset (List.mem_map.mpr ⟨draw, hdraw, rfl⟩)
  rw [hrows] at hsource
  obtain ⟨item, hitem, hpair⟩ := List.mem_map.mp hsource
  obtain ⟨hmem, hkey⟩ := List.mem_filter.mp hitem
  rw [← hpair] at hle ⊢
  exact ⟨hmore, item, hmem, of_decide_eq_true hkey, rfl, hle⟩

/-- No row is named twice. -/
theorem nodup_voidsByProduct : (((haveByProduct items.rows).entries.flatMap
    (voidsOfProduct (desiredByProduct eventLines))).map (·.itemId)).Nodup := by
  have hids : (((haveByProduct items.rows).entries.flatMap fun group =>
      group.2.map Prod.fst)).Nodup := by
    have hperm := (flatten_groupInto (fun item : ReconcileServerLine => item.productId.getD "")
      (fun item => (item.id, item.qty)) items.rows).map Prod.fst
    rw [List.map_map] at hperm
    have hflat : ((haveByProduct items.rows).entries.flatMap fun group => group.2.map Prod.fst) =
        (haveByProduct items.rows).values.flatten.map Prod.fst := by
      rw [List.map_flatten, OrderedMap.values, List.map_map, List.flatMap_def]
      rfl
    rw [hflat]
    exact hperm.nodup_iff.mpr items.nodup
  rw [List.map_flatMap]
  refine hids.sublist (List.Sublist.flatMap_right _ fun group _ => ?_)
  have hdraws := (tolerantDraws_sublist tolerance Prod.snd group.2
    ((group.2.map Prod.snd).sum - ((desiredByProduct eventLines).get? group.1).getD 0)).map Prod.fst
  rw [List.map_map] at hdraws
  rw [voidsOfProduct, List.map_map]
  exact hdraws

/-- The voids of a product's own group. -/
theorem voidsOfProduct_eq {productId : String} (h : productId ≠ "") {rows : List (String × ℚ)}
    (hget : (haveByProduct items.rows).get? productId = some rows) :
    voidsOfProduct (desiredByProduct eventLines) (productId, rows) =
      (drawsOf items eventLines productId).map fun draw => ⟨draw.1.1, draw.2⟩ := by
  have hrows := get?_groupInto_eq_some _ _ hget
  rw [withKey_productId h] at hrows
  have hsum : (rows.map Prod.snd).sum = items.currentQty productId := by
    rw [hrows, List.map_map]
    rfl
  rw [voidsOfProduct, hsum, getD_desiredByProduct h, hrows]
  rfl

/-- A void names one row, which is of the product whose surplus it is drawn from. -/
theorem countP_named {productId : String} (h : productId ≠ "") {group : String × List (String × ℚ)}
    (hgroup : group ∈ (haveByProduct items.rows).entries) {v : VoidItem}
    (hv : v ∈ voidsOfProduct (desiredByProduct eventLines) group) :
    (items.ofProduct productId).countP (fun item => v.itemId = item.id) =
      if group.1 = productId then 1 else 0 := by
  obtain ⟨-, item, hitem, hkey, hid, -⟩ := mem_voidsOfProduct items hgroup hv
  have hcount : (items.ofProduct productId).countP (fun item => v.itemId = item.id) =
      ((items.ofProduct productId).map (·.id)).count v.itemId := by
    rw [List.count, List.countP_map]
    refine List.countP_congr fun row _ => ?_
    simp only [Function.comp_apply, beq_iff_eq, decide_eq_true_eq]
    exact eq_comm
  have hnodup : ((items.ofProduct productId).map (·.id)).Nodup :=
    items.nodup.sublist (List.filter_sublist.map _)
  rw [hcount]
  split
  · rename_i heq
    refine List.count_eq_one_of_mem hnodup (List.mem_map.mpr ⟨item, ?_, hid⟩)
    exact List.mem_filter.mpr ⟨hitem, decide_eq_true ((getD_eq_iff _ h).mp (hkey.trans heq))⟩
  · rename_i hne
    refine List.count_eq_zero_of_not_mem fun hmem => ?_
    obtain ⟨row, hrow, hrowId⟩ := List.mem_map.mp hmem
    obtain ⟨hrowMem, hproduct⟩ := List.mem_filter.mp hrow
    have hsame : row = item :=
      List.inj_on_of_nodup_map items.nodup hrowMem hitem (hrowId.trans hid.symm)
    subst hsame
    exact hne (hkey.symm.trans ((getD_eq_iff _ h).mpr (of_decide_eq_true hproduct)))

variable (eventLines) in
/-- What the voids take off the rows of a product is what is drawn for it. -/
theorem sum_voided {productId : String} (h : productId ≠ "") :
    ((items.ofProduct productId).map fun item =>
      ((((haveByProduct items.rows).entries.flatMap
        (voidsOfProduct (desiredByProduct eventLines))).filter
          fun v => v.itemId = item.id).map (·.quantity)).sum).sum =
      ((drawsOf items eventLines productId).map Prod.snd).sum := by
  have hgroups : ∀ group ∈ (haveByProduct items.rows).entries,
      ((voidsOfProduct (desiredByProduct eventLines) group).map fun v =>
        (items.ofProduct productId).countP (fun item => v.itemId = item.id) • v.quantity).sum =
      if group.1 = productId then
        ((voidsOfProduct (desiredByProduct eventLines) (productId, group.2)).map
          (·.quantity)).sum else 0 := by
    intro group hgroup
    have hcounts : (voidsOfProduct (desiredByProduct eventLines) group).map (fun v =>
        (items.ofProduct productId).countP (fun item => v.itemId = item.id) • v.quantity) =
        (voidsOfProduct (desiredByProduct eventLines) group).map fun v =>
          (if group.1 = productId then 1 else 0) • v.quantity :=
      List.map_congr_left fun v hv => by rw [countP_named items h hgroup hv]
    rw [hcounts]
    split
    · rename_i heq
      simp only [one_nsmul, ← heq, Prod.mk.eta]
    · simp
  have htotal := OrderedMap.sumWhere_key (fun rows =>
    ((voidsOfProduct (desiredByProduct eventLines) (productId, rows)).map (·.quantity)).sum)
    (haveByProduct items.rows) productId
  rw [sum_attributed (items.ofProduct productId) _
      (fun (item : ReconcileServerLine) (v : VoidItem) => decide (v.itemId = item.id))
      (fun v : VoidItem => v.quantity),
    List.map_flatMap, List.flatMap_def, List.sum_flatten, List.map_map]
  refine (congrArg List.sum (List.map_congr_left hgroups)).trans ?_
  have hown := sum_map_filter
    (fun group : String × List (String × ℚ) => decide (group.1 = productId))
    (fun group => ((voidsOfProduct (desiredByProduct eventLines) (productId, group.2)).map
      (·.quantity)).sum) (haveByProduct items.rows).entries
  simp only [decide_eq_true_eq] at hown
  refine hown.symm.trans (htotal.trans ?_)
  cases hget : (haveByProduct items.rows).get? productId with
  | none =>
    have hempty : items.ofProduct productId = [] := by
      have hrows := getD_get?_groupInto (fun item : ReconcileServerLine => item.productId.getD "")
        (fun item => (item.id, item.qty)) items.rows productId
      rw [withKey_productId h] at hrows
      rw [haveByProduct] at hget
      rw [hget, Option.getD_none] at hrows
      exact List.map_eq_nil_iff.mp hrows.symm
    rw [OrderedMap.valueAt_of_get?_none hget, drawsOf, hempty]
    rfl
  | some rows =>
    rw [OrderedMap.valueAt_of_get? hget, voidsOfProduct_eq items h hget, List.map_map]
    rfl

/-- The voids of a ticket without server ids follow it exactly when every surplus ends at a
row. -/
theorem followsTicket_products_iff :
    FollowsTicket items eventLines
        ((haveByProduct items.rows).entries.flatMap
          (voidsOfProduct (desiredByProduct eventLines))) ↔
      ∀ productId, productId ≠ "" → SurplusEndsAtRow items eventLines productId := by
  have hremaining : ∀ productId, productId ≠ "" →
      (((items.ofProduct productId).map (remainingQty
        ((haveByProduct items.rows).entries.flatMap
          (voidsOfProduct (desiredByProduct eventLines))))).sum =
        min (items.currentQty productId) (desiredQty eventLines productId) ↔
      SurplusEndsAtRow items eventLines productId) := by
    intro productId hproduct
    have hsum := sum_voided eventLines items hproduct
    have hsplit : ((items.ofProduct productId).map (remainingQty
        ((haveByProduct items.rows).entries.flatMap
          (voidsOfProduct (desiredByProduct eventLines))))).sum =
        items.currentQty productId - ((drawsOf items eventLines productId).map Prod.snd).sum := by
      rw [eq_sub_iff_add_eq, ← hsum, ← List.sum_map_add, OrderItems.currentQty]
      exact congrArg List.sum (List.map_congr_left fun item _ => sub_add_cancel _ _)
    rw [hsplit, SurplusEndsAtRow]
    rcases le_or_gt (items.currentQty productId) (desiredQty eventLines productId) with hle | hgt
    · have hnone : drawsOf items eventLines productId = [] :=
        tolerantDraws_of_le ((sub_nonpos.mpr hle).trans tolerance_pos.le) _
      rw [hnone, min_eq_left hle]
      exact iff_of_true (sub_zero _) (.inl hle)
    · have hdraw := sum_tolerantDraws_eq_iff Prod.snd tolerance_pos.le
        ((items.ofProduct productId).map fun item => (item.id, item.qty)) (sub_pos.mpr hgt)
      rw [List.map_map] at hdraw
      rw [min_eq_right hgt.le, or_iff_right hgt.not_ge, sub_eq_iff_eq_add, ← sub_eq_iff_eq_add',
        eq_comm]
      exact hdraw
  constructor
  · exact fun hfollows productId hproduct =>
      (hremaining productId hproduct).mp (hfollows.remaining productId hproduct)
  · intro hends
    refine ⟨fun v hv => ?_, fun v hv => ?_, nodup_voidsByProduct items,
      fun productId hproduct => (hremaining productId hproduct).mpr (hends productId hproduct)⟩
    · obtain ⟨group, hgroup, hvoid⟩ := List.mem_flatMap.mp hv
      exact tolerance_pos.trans (mem_voidsOfProduct items hgroup hvoid).1
    · obtain ⟨group, hgroup, hvoid⟩ := List.mem_flatMap.mp hv
      obtain ⟨-, item, hitem, -, hid, hle⟩ := mem_voidsOfProduct items hgroup hvoid
      exact ⟨item, hitem, hid, hle⟩

end Products

/-! ## The comparison as a whole -/

/-- The voids follow the ticket exactly when it is reconcilable. -/
theorem followsTicket_iff (items : OrderItems) (eventLines : List ReconcileDesiredLine) :
    FollowsTicket items eventLines (computeVoidItemsFromUpdatedLines items.rows eventLines) ↔
      Reconcilable items eventLines := by
  unfold computeVoidItemsFromUpdatedLines Reconcilable
  split
  · exact followsTicket_rows_iff items
  · exact followsTicket_products_iff items

/-- One unit each of two products, on the server. -/
def twoDishes : OrderItems where
  rows :=
    [⟨"11111111-1111-4111-8111-111111111111", some 1, some "p1"⟩,
      ⟨"22222222-2222-4222-8222-222222222222", some 1, some "p2"⟩]
  nodup := by decide

/-- The same two dishes on the ticket, the second under an id of the till. -/
def mixedTicket : List ReconcileDesiredLine :=
  [⟨some "11111111-1111-4111-8111-111111111111", some "p1", some 1⟩,
    ⟨some "ofl_line_2", some "p2", some 1⟩]

/-- The dish under the till's own id is voided although the ticket wants it. -/
theorem mixedTicket_not_followed : ¬ FollowsTicket twoDishes mixedTicket
    (computeVoidItemsFromUpdatedLines twoDishes.rows mixedTicket) := by
  intro h
  have hremaining := h.remaining "p2" (by decide)
  have hvoided : ((twoDishes.ofProduct "p2").map (remainingQty
      (computeVoidItemsFromUpdatedLines twoDishes.rows mixedTicket))).sum = 0 ∧
      min (twoDishes.currentQty "p2") (desiredQty mixedTicket "p2") = 1 := by decide +kernel
  rw [hvoided.1, hvoided.2] at hremaining
  exact zero_ne_one hremaining

end SmartErpPos.Pos
