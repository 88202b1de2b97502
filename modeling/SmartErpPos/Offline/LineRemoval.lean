/-
  Offline/LineRemoval.lean --- removing lines from an open check.

  Source: `samplepos.client/src/lib/restaurantOfflineOps.ts`,
  `emitVoidKotTicketsOffline`, `cancelRestaurantCheckOffline` and
  `removeRestaurantLinesOffline`.

  The VOID tickets and the new line list come from two passes over the check.  The first
  voids of a kitchen-sent line what the request says, none of it for a request of zero or
  less.  The second drops the line for such a request.
-/
import SmartErpPos.Lib.Attribution
import SmartErpPos.Lib.Grouping
import SmartErpPos.Lib.JsText
import SmartErpPos.Offline.QuantityConservation

set_option autoImplicit false

namespace SmartErpPos.Offline

open SmartErpPos.Lib

/-! ## Tickets -/

/-- `resolveOfflineKotStation`: the station the cached menu gives a product. -/
structure KotStation where
  code : String
  printerName : Option String

structure OfflineKotTicket where
  kotOfflineId : String
  station : String
  printerName : Option String
  lines : List KotLine

/-- `quantityByLineId?.[line.lineId]`. -/
def requestedVoid (quantityByLineId : Option (OrderedMap String ℚ)) (line : EventLine) : Option ℚ :=
  quantityByLineId.bind fun quantities => line.truthyLineId.bind quantities.get?

/-- The part of a line that goes on a VOID ticket. -/
def voidedPart (quantityByLineId : Option (OrderedMap String ℚ)) (line : EventLine) :
    Option EventLine :=
  if line.truthyLineId.isSome then
    let voidQty := (requestedVoid quantityByLineId line).getD line.quantity
    let qty := min line.quantity (max 0 voidQty)
    if qty ≤ 0 then none else some { line with quantity := qty }
  else none

/-- The lines of each station, with the printer its first line resolved to. -/
def voidBuckets (resolve : String → KotStation) (items : List EventLine) :
    List (KotStation × List EventLine) :=
  (byStation (fun productId => (resolve productId).code) items).entries.map fun bucket =>
    (⟨bucket.1, bucket.2.head?.bind fun line => (resolve line.productId).printerName⟩, bucket.2)

/-- The event of one station's VOID ticket. -/
def voidKotEvent (order : DerivedOrder) (reason : String) (draws : OfflineDraws) (n : ℕ)
    (bucket : KotStation × List EventLine) : RestaurantKotFired :=
  { kotEvent order draws n (bucket.1.code, bucket.2) with
    tableId := none
    ticketKind := some .VOID
    voidReason := some reason }

/-- The ticket of one station. -/
def voidKotTicket (draws : OfflineDraws) (n : ℕ) (bucket : KotStation × List EventLine) :
    OfflineKotTicket where
  kotOfflineId := draws.kotId n
  station := bucket.1.code
  printerName := bucket.1.printerName
  lines := bucket.2.map kotLineOf

/-- `emitVoidKotTicketsOffline`: one event and one ticket for each station. -/
def emitVoidKotTicketsOffline (resolve : String → KotStation) (store : JournalStore)
    (order : DerivedOrder) (sentLines : List EventLine)
    (quantityByLineId : Option (OrderedMap String ℚ)) (reason : String) (draws : OfflineDraws) :
    JournalStore × List OfflineKotTicket :=
  let buckets := (voidBuckets resolve (sentLines.filterMap (voidedPart quantityByLineId))).zipIdx
  ((buckets.map fun b => voidKotEvent order reason draws b.2 b.1).foldl
      (fun s e => appendEvent s (.RESTAURANT_KOT_FIRED e)) store,
    buckets.map fun b => voidKotTicket draws b.2 b.1)

/-! ## Cancelling a check -/

/-- The event that cancels a check. -/
def cancelEvent (order : DerivedOrder) (reason : String) (draws : OfflineDraws) (n : ℕ) :
    OrderCancelled where
  key := draws.eventKeys n
  orderId := order.orderId
  offlineId := some order.offlineId
  reason := some reason
  ts := draws.now
  tableId := order.tableId
  tableCode := order.tableCode

/-- `cancelRestaurantCheckOffline`.  `n` ids of the call are drawn already. -/
def cancelRestaurantCheckOffline (resolve : String → KotStation) (store : JournalStore)
    (order : DerivedOrder) (reason : Option String) (emitVoidTickets : Bool) (draws : OfflineDraws)
    (n : ℕ) : Except RestaurantOpError (JournalStore × List OfflineKotTicket) := do
  let _ ← orThrow (truthyText order.tableId) (.text "Restaurant check missing table")
  let reason := reason.getD "Cancelled from restaurant POS (offline)"
  let (voided, tickets) :=
    if emitVoidTickets then
      emitVoidKotTicketsOffline resolve store order
        (order.lines.filter fun line => line.truthyLineId.isSome && line.isKitchenSent) none reason
        draws
    else (store, [])
  pure (appendEvent voided
    (.ORDER_CANCELLED (cancelEvent order reason draws (n + tickets.length))), tickets)

/-! ## Removing lines -/

structure RemoveOptions where
  reason : Option String
  allowKitchenSent : Bool

/-- One pass through the loop that builds the new line list. -/
def keptLine (lineIds : List String) (quantityByLineId : Option (OrderedMap String ℚ))
    (line : EventLine) : Option EventLine :=
  if line.isAmong lineIds then
    match requestedVoid quantityByLineId line with
    | none => none
    | some voidQty =>
      if line.quantity ≤ voidQty then none
      else if 0 < voidQty then
        let qty := line.quantity - voidQty
        some { line with quantity := qty, subtotal := qty * line.unitPrice }
      else none
  else some line

/-- The update that writes the new line list. -/
def removalUpdate (order : DerivedOrder) (nextLines : List EventLine) (voidReason : String)
    (draws : OfflineDraws) (n : ℕ) : OrderUpdated :=
  { kotUpdate order draws n with
    lines := nextLines
    voidReason := some voidReason }

/-- `removeRestaurantLinesOffline`. -/
def removeRestaurantLinesOffline (resolve : String → KotStation) (store : JournalStore)
    (order : DerivedOrder) (lineIds : List String)
    (quantityByLineId : Option (OrderedMap String ℚ)) (opts : RemoveOptions)
    (draws : OfflineDraws) :
    Except RestaurantOpError (JournalStore × DerivedOrder × List OfflineKotTicket) := do
  let tableId ← orThrow (truthyText order.tableId) (.text "Restaurant check missing table")
  let touching := order.lines.filter (EventLine.isAmong lineIds)
  let _ ← require (touching ≠ []) (.text "No matching lines to remove")
  let hasKot := touching.any EventLine.isKitchenSent
  let _ ← require (hasKot = true → opts.allowKitchenSent = true)
    (.text "Kitchen-sent lines require Void (VOID ticket)")
  let (voided, voidTickets) :=
    if hasKot then
      emitVoidKotTicketsOffline resolve store order (touching.filter EventLine.isKitchenSent)
        quantityByLineId (orText (opts.reason.map jsTrim) "Voided from restaurant POS") draws
    else (store, [])
  let nextLines := order.lines.filterMap (keptLine lineIds quantityByLineId)
  if nextLines = [] then
    let (after, _) ← cancelRestaurantCheckOffline resolve voided order
      (some (orText opts.reason "Removed last lines")) false draws voidTickets.length
    let gone := deriveRestaurantCheckForTable tableId after.journal after.syncState
      (some order.orderId)
    let _ ← require (gone.isNone = true)
      (.text "Failed to cancel check after removing all lines")
    pure (after, { order with lines := [] }, voidTickets)
  else
    let voidReason := orText (opts.reason.map jsTrim)
      (if hasKot then "Offline void" else "Removed before kitchen send")
    let after := appendEvent voided
      (.ORDER_UPDATED (removalUpdate order nextLines voidReason draws voidTickets.length))
    let next ← orThrow (deriveRestaurantCheckForTable tableId after.journal after.syncState
      (some order.orderId)) (.text "Failed to derive check after line remove")
    pure (after, next, voidTickets)

/-! ## A faithful removal -/

/-- What a request leaves of a line; a selected line without a number goes whole. -/
def leftQty (lineIds : List String) (quantityByLineId : Option (OrderedMap String ℚ))
    (line : EventLine) : ℚ :=
  if line.isAmong lineIds then
    max 0 (line.quantity - max 0 ((requestedVoid quantityByLineId line).getD line.quantity))
  else line.quantity

/-- What is left of the line, as an item of the check; nothing is dropped but at zero. -/
def leftItem (lineIds : List String) (quantityByLineId : Option (OrderedMap String ℚ))
    (line : EventLine) : Option (Option String × String × ℚ) :=
  let left := leftQty lineIds quantityByLineId line
  if line.isAmong lineIds ∧ left = 0 then none else some (line.lineId, line.productId, left)

/-- The items of a check, line by line. -/
def lineItems (lines : List EventLine) : List (Option String × String × ℚ) :=
  lines.map fun line => (line.lineId, line.productId, line.quantity)

/-- Has the kitchen seen the line under this product name? -/
def EventLine.isSentAs (productName : String) (line : EventLine) : Bool :=
  line.isKitchenSent && decide (line.productName = productName)

/-- The kitchen-sent units of a product, by the name the tickets give it. -/
def sentQty (lines : List EventLine) (productName : String) : ℚ :=
  ((lines.filter (EventLine.isSentAs productName)).map (·.quantity)).sum

/-- The units of a product on the tickets. -/
def ticketQty (tickets : List OfflineKotTicket) (productName : String) : ℚ :=
  (((tickets.flatMap (·.lines)).filter fun line => line.productName = productName).map
    (·.quantity)).sum

/-- Every line is left with what the request leaves it, in the check and in the journal, and
the tickets carry what the kitchen-sent lines lost. -/
structure FaithfulRemoval (order : DerivedOrder) (lineIds : List String)
    (quantityByLineId : Option (OrderedMap String ℚ)) (after : JournalStore) (next : DerivedOrder)
    (tickets : List OfflineKotTicket) : Prop where
  lines : lineItems next.lines = order.lines.filterMap (leftItem lineIds quantityByLineId)
  journal : ∀ tableId ∈ order.tableId,
    deriveRestaurantCheckForTable tableId after.journal after.syncState (some order.orderId) =
      if next.lines = [] then none else some next
  tickets : ∀ productName, ticketQty tickets productName =
    sentQty order.lines productName - sentQty next.lines productName

/-- A request of zero or less meets no line with units, and no kitchen-sent line is below
zero. -/
def RequestsVoid (order : DerivedOrder) (lineIds : List String)
    (quantityByLineId : Option (OrderedMap String ℚ)) : Prop :=
  ∀ line ∈ order.lines, line.isAmong lineIds = true →
    (∀ voidQty ∈ requestedVoid quantityByLineId line, 0 < voidQty ∨ line.quantity ≤ 0) ∧
      (line.isKitchenSent = true → 0 ≤ line.quantity)

instance (order : DerivedOrder) (lineIds : List String)
    (quantityByLineId : Option (OrderedMap String ℚ)) :
    Decidable (RequestsVoid order lineIds quantityByLineId) :=
  inferInstanceAs (Decidable (∀ line ∈ order.lines, line.isAmong lineIds = true →
    (∀ voidQty ∈ requestedVoid quantityByLineId line, 0 < voidQty ∨ line.quantity ≤ 0) ∧
      (line.isKitchenSent = true → 0 ≤ line.quantity)))

/-! ## The new line list -/

section Lines

variable {lineIds : List String} {quantityByLineId : Option (OrderedMap String ℚ)}

/-- The item of a line that stays. -/
def keptItem (lineIds : List String) (quantityByLineId : Option (OrderedMap String ℚ))
    (line : EventLine) : Option (Option String × String × ℚ) :=
  (keptLine lineIds quantityByLineId line).map fun l => (l.lineId, l.productId, l.quantity)

variable {line : EventLine}

/-- A selected line that stays keeps all but the requested units. -/
theorem keptLine_of_some {voidQty : ℚ} (hamong : line.isAmong lineIds = true)
    (hrequested : requestedVoid quantityByLineId line = some voidQty) (hpos : 0 < voidQty)
    (hless : voidQty < line.quantity) :
    keptLine lineIds quantityByLineId line =
      some { line with
        quantity := line.quantity - voidQty
        subtotal := (line.quantity - voidQty) * line.unitPrice } := by
  rw [keptLine, if_pos hamong, hrequested]
  exact (if_neg hless.not_ge).trans (if_pos hpos)

/-- Any other selected line goes. -/
theorem keptLine_eq_none (hamong : line.isAmong lineIds = true)
    (h : ∀ voidQty ∈ requestedVoid quantityByLineId line,
      line.quantity ≤ voidQty ∨ voidQty ≤ 0) : keptLine lineIds quantityByLineId line = none := by
  rw [keptLine, if_pos hamong]
  cases hrequested : requestedVoid quantityByLineId line with
  | none => rfl
  | some voidQty =>
    rcases h voidQty hrequested with hall | hnone
    · exact if_pos hall
    · show (if line.quantity ≤ voidQty then none else _) = none
      rw [if_neg hnone.not_gt, ite_self]

/-- A line is left with what the request leaves it exactly when the request voids something or
there is nothing to void. -/
theorem keptItem_eq_iff (line : EventLine) :
    keptItem lineIds quantityByLineId line = leftItem lineIds quantityByLineId line ↔
      (line.isAmong lineIds = true →
        ∀ voidQty ∈ requestedVoid quantityByLineId line, 0 < voidQty ∨ line.quantity ≤ 0) := by
  cases hamong : line.isAmong lineIds with
  | false => simp [keptItem, keptLine, leftItem, leftQty, hamong]
  | true =>
    simp only [forall_const, keptItem, leftItem, leftQty, hamong, if_true, true_and]
    cases hrequested : requestedVoid quantityByLineId line with
    | none =>
      have hgone : keptLine lineIds quantityByLineId line = none := keptLine_eq_none hamong
        (by simp [hrequested])
      simp [hgone]
    | some voidQty =>
      simp only [Option.getD_some, Option.mem_def, Option.some.injEq, forall_eq']
      rcases le_or_gt line.quantity voidQty with hall | hless
      · have hgone : keptLine lineIds quantityByLineId line = none := keptLine_eq_none hamong
          (by simp [hrequested, hall])
        have hzero : max 0 (line.quantity - max 0 voidQty) = 0 :=
          max_eq_left (sub_nonpos.mpr (hall.trans (le_max_right _ _)))
        rw [hgone, hzero, if_pos rfl]
        exact iff_of_true rfl (lt_or_ge 0 voidQty |>.imp_right hall.trans)
      · rcases lt_or_ge 0 voidQty with hpos | hneg
        · have hleft : max 0 (line.quantity - max 0 voidQty) = line.quantity - voidQty := by
            rw [max_eq_right hpos.le, max_eq_right (sub_pos.mpr hless).le]
          rw [keptLine_of_some hamong hrequested hpos hless, hleft,
            if_neg (sub_pos.mpr hless).ne']
          exact iff_of_true rfl (.inl hpos)
        · have hgone : keptLine lineIds quantityByLineId line = none := keptLine_eq_none hamong
            (by simp [hrequested, hneg])
          rw [hgone, max_eq_left hneg, sub_zero, or_iff_right hneg.not_gt]
          rcases le_or_gt line.quantity 0 with hq | hq
          · simp [hq]
          · simp [max_eq_right hq.le, hq.ne', hq.not_ge]

theorem lineItems_keptLines_iff (lines : List EventLine) :
    lineItems (lines.filterMap (keptLine lineIds quantityByLineId)) =
        lines.filterMap (leftItem lineIds quantityByLineId) ↔
      ∀ line ∈ lines, line.isAmong lineIds = true →
        ∀ voidQty ∈ requestedVoid quantityByLineId line, 0 < voidQty ∨ line.quantity ≤ 0 := by
  have hkept : lineItems (lines.filterMap (keptLine lineIds quantityByLineId)) =
      lines.filterMap (keptItem lineIds quantityByLineId) := List.map_filterMap
  rw [hkept, filterMap_eq_iff fun line hsome => ?_]
  · exact forall₂_congr fun line _ => keptItem_eq_iff line
  · rwa [← (keptItem_eq_iff line).mpr fun hamong voidQty hrequested => ?_]
    by_contra hnone
    have hgone : keptLine lineIds quantityByLineId line = none := keptLine_eq_none hamong
      fun other hother => by
        rw [Option.mem_unique hother hrequested]
        exact .inr (not_lt.mp fun hpos => hnone (.inl hpos))
    rw [keptItem, hgone] at hsome
    cases hsome

/-! ## The tickets -/

/-- What the VOID tickets say of a line. -/
def ticketedQty (quantityByLineId : Option (OrderedMap String ℚ)) (line : EventLine) : ℚ :=
  ((voidedPart quantityByLineId line).map (·.quantity)).getD 0

/-- What a line of the check loses. -/
def lostQty (lineIds : List String) (quantityByLineId : Option (OrderedMap String ℚ))
    (line : EventLine) : ℚ :=
  line.quantity - ((keptLine lineIds quantityByLineId line).map (·.quantity)).getD 0

theorem truthyLineId_isSome_of_isAmong (h : line.isAmong lineIds = true) :
    line.truthyLineId.isSome = true := by
  unfold EventLine.isAmong at h
  cases hid : line.truthyLineId with
  | none =>
    rw [hid] at h
    cases h
  | some id => rfl

theorem ticketedQty_eq (h : line.isAmong lineIds = true) :
    ticketedQty quantityByLineId line = max 0 (min line.quantity
      (max 0 ((requestedVoid quantityByLineId line).getD line.quantity))) := by
  unfold ticketedQty voidedPart
  rw [if_pos (truthyLineId_isSome_of_isAmong h)]
  dsimp only
  split
  · rename_i hle
    rw [max_eq_left hle]
    rfl
  · rename_i hgt
    rw [max_eq_right (not_le.mp hgt).le]
    rfl

/-- Where the request voids something or there is nothing to void, the ticket has what the line
loses, except that a line below zero is on no ticket. -/
theorem ticketedQty_eq_lostQty_add (hamong : line.isAmong lineIds = true)
    (h : ∀ voidQty ∈ requestedVoid quantityByLineId line, 0 < voidQty ∨ line.quantity ≤ 0) :
    ticketedQty quantityByLineId line =
      lostQty lineIds quantityByLineId line + max 0 (-line.quantity) := by
  rw [ticketedQty_eq hamong, lostQty]
  cases hrequested : requestedVoid quantityByLineId line with
  | none =>
    rw [keptLine_eq_none hamong (by simp [hrequested]), Option.getD_none, Option.map_none,
      Option.getD_none, sub_zero]
    rcases le_or_gt 0 line.quantity with hq | hq
    · rw [max_eq_right hq, min_self, max_eq_right hq, max_eq_left (neg_nonpos.mpr hq), add_zero]
    · rw [max_eq_left hq.le, min_eq_left hq.le, max_eq_left hq.le,
        max_eq_right (neg_nonneg.mpr hq.le), add_neg_cancel]
  | some voidQty =>
    rw [Option.getD_some]
    rcases le_or_gt line.quantity 0 with hq | hq
    · have hgone : keptLine lineIds quantityByLineId line = none := by
        refine keptLine_eq_none hamong fun other hother => ?_
        exact (le_or_gt other 0).symm.imp_left fun hpos => hq.trans hpos.le
      rw [hgone, Option.map_none, Option.getD_none, sub_zero,
        min_eq_left (hq.trans (le_max_left _ _)), max_eq_left hq,
        max_eq_right (neg_nonneg.mpr hq), add_neg_cancel]
    · have hpos : 0 < voidQty := (h voidQty hrequested).resolve_right hq.not_ge
      rw [max_eq_right hpos.le, max_eq_left (neg_nonpos.mpr hq.le), add_zero]
      rcases le_or_gt line.quantity voidQty with hall | hless
      · rw [keptLine_eq_none hamong (by simp [hrequested, hall]), Option.map_none,
          Option.getD_none, sub_zero, min_eq_left hall, max_eq_right hq.le]
      · rw [keptLine_of_some hamong hrequested hpos hless, min_eq_right hless.le,
          max_eq_right hpos.le, Option.map_some, Option.getD_some, sub_sub_cancel]

/-- A line that is not selected loses nothing. -/
theorem lostQty_of_not_among (h : line.isAmong lineIds = false) :
    lostQty lineIds quantityByLineId line = 0 := by
  simp [lostQty, keptLine, h]

theorem isSentAs_keptLine {kept : EventLine}
    (h : keptLine lineIds quantityByLineId line = some kept) (productName : String) :
    kept.isSentAs productName = line.isSentAs productName := by
  unfold keptLine at h
  split at h
  · split at h
    · cases h
    · split at h
      · cases h
      · split at h
        · cases h
          rfl
        · cases h
  · cases h
    rfl

theorem sentQty_cons (line : EventLine) (rest : List EventLine) (productName : String) :
    sentQty (line :: rest) productName =
      (if line.isSentAs productName then line.quantity else 0) + sentQty rest productName := by
  rw [sentQty, sentQty, sum_map_filter, sum_map_filter, List.map_cons, List.sum_cons]

/-- The kitchen-sent units of a product that the new line list lacks. -/
theorem sentQty_sub (lines : List EventLine) (productName : String) :
    sentQty lines productName -
        sentQty (lines.filterMap (keptLine lineIds quantityByLineId)) productName =
      ((lines.filter (EventLine.isSentAs productName)).map
        (lostQty lineIds quantityByLineId)).sum := by
  rw [sum_map_filter]
  induction lines with
  | nil => exact sub_self _
  | cons line rest ih =>
    rw [List.map_cons, List.sum_cons, ← ih, sentQty_cons, List.filterMap_cons, lostQty]
    cases hkept : keptLine lineIds quantityByLineId line with
    | none =>
      rw [Option.map_none, Option.getD_none, sub_zero]
      exact add_sub_assoc _ _ _
    | some kept =>
      have hsent := isSentAs_keptLine hkept productName
      show _ - sentQty (kept :: _) productName = _
      rw [sentQty_cons, hsent, Option.map_some, Option.getD_some]
      split
      · ring
      · ring

theorem productName_voidedPart {part : EventLine}
    (h : voidedPart quantityByLineId line = some part) : part.productName = line.productName := by
  unfold voidedPart at h
  split at h
  · dsimp only at h
    split at h
    · cases h
    · cases h
      rfl
  · cases h

/-- The units of a product among the parts that go on tickets. -/
theorem sum_voidedParts (lines : List EventLine) (productName : String) :
    (((((lines.filter (EventLine.isAmong lineIds)).filter EventLine.isKitchenSent).filterMap
      (voidedPart quantityByLineId)).filter fun part => part.productName = productName).map
        (·.quantity)).sum =
      ((lines.filter (EventLine.isSentAs productName)).map fun line =>
        if line.isAmong lineIds then ticketedQty quantityByLineId line else 0).sum := by
  rw [sum_map_filter, sum_map_filter]
  induction lines with
  | nil => rfl
  | cons line rest ih =>
    rw [List.map_cons, List.sum_cons, ← ih]
    cases hamong : line.isAmong lineIds with
    | false =>
      rw [List.filter_cons_of_neg (by simp [hamong])]
      simp
    | true =>
      rw [List.filter_cons_of_pos hamong]
      cases hsent : line.isKitchenSent with
      | false =>
        rw [List.filter_cons_of_neg (by simp [hsent]), EventLine.isSentAs, hsent]
        simp
      | true =>
        rw [List.filter_cons_of_pos hsent, List.filterMap_cons, EventLine.isSentAs, hsent,
          Bool.true_and, if_pos rfl, ticketedQty]
        cases hpart : voidedPart quantityByLineId line with
        | none => simp
        | some part =>
          have hname := productName_voidedPart hpart
          simp [hname]

variable (quantityByLineId) in
/-- The lines of all tickets are those of all stations. -/
theorem ticketLines_perm (resolve : String → KotStation) (store : JournalStore)
    (order : DerivedOrder) (sentLines : List EventLine) (reason : String) (draws : OfflineDraws) :
    ((emitVoidKotTicketsOffline resolve store order sentLines quantityByLineId reason
      draws).2.flatMap (·.lines)).Perm
      ((sentLines.filterMap (voidedPart quantityByLineId)).map kotLineOf) := by
  have hbuckets : (emitVoidKotTicketsOffline resolve store order sentLines quantityByLineId reason
      draws).2.flatMap (·.lines) =
      ((voidBuckets resolve (sentLines.filterMap (voidedPart quantityByLineId))).zipIdx.map
        Prod.fst).flatMap fun bucket => bucket.2.map kotLineOf := by
    rw [List.flatMap_map]
    exact List.flatMap_map ..
  rw [hbuckets, List.zipIdx_map_fst]
  have hgroups := flatten_groupInto (fun line : EventLine => (resolve line.productId).code) id
    (sentLines.filterMap (voidedPart quantityByLineId))
  rw [List.map_id] at hgroups
  refine List.Perm.trans (List.Perm.of_eq ?_) (hgroups.map kotLineOf)
  rw [voidBuckets, List.flatMap_map, List.map_flatten, OrderedMap.values, List.map_map,
    List.flatMap_def]
  rfl

/-- The units on the tickets, line by line. -/
theorem ticketQty_emit (resolve : String → KotStation) (store : JournalStore)
    (order : DerivedOrder) (lines : List EventLine) (reason : String) (draws : OfflineDraws)
    (productName : String) :
    ticketQty (emitVoidKotTicketsOffline resolve store order
        ((lines.filter (EventLine.isAmong lineIds)).filter EventLine.isKitchenSent)
        quantityByLineId reason draws).2 productName =
      ((lines.filter (EventLine.isSentAs productName)).map fun line =>
        if line.isAmong lineIds then ticketedQty quantityByLineId line else 0).sum := by
  have hperm := ticketLines_perm quantityByLineId resolve store order
    ((lines.filter (EventLine.isAmong lineIds)).filter EventLine.isKitchenSent) reason draws
  rw [ticketQty, ((hperm.filter _).map _).sum_eq, List.filter_map, List.map_map]
  exact sum_voidedParts lines productName

/-- Beyond what the kitchen-sent lines lose, the tickets have what lines below zero lack. -/
theorem ticketQty_eq (resolve : String → KotStation) (store : JournalStore)
    (order : DerivedOrder) (reason : String) (draws : OfflineDraws)
    (h : ∀ line ∈ order.lines, line.isAmong lineIds = true →
      ∀ voidQty ∈ requestedVoid quantityByLineId line, 0 < voidQty ∨ line.quantity ≤ 0)
    (productName : String) :
    ticketQty (emitVoidKotTicketsOffline resolve store order
        ((order.lines.filter (EventLine.isAmong lineIds)).filter EventLine.isKitchenSent)
        quantityByLineId reason draws).2 productName =
      sentQty order.lines productName -
          sentQty (order.lines.filterMap (keptLine lineIds quantityByLineId)) productName +
        ((order.lines.filter (EventLine.isSentAs productName)).map fun line =>
          if line.isAmong lineIds then max 0 (-line.quantity) else 0).sum := by
  rw [ticketQty_emit, sentQty_sub, ← List.sum_map_add]
  refine congrArg List.sum (List.map_congr_left fun line hline => ?_)
  have hmem := (List.mem_filter.mp hline).1
  cases hamong : line.isAmong lineIds with
  | false => simp [lostQty_of_not_among hamong]
  | true => exact ticketedQty_eq_lostQty_add hamong (h line hmem hamong)

/-- The tickets have what the kitchen-sent lines lose exactly when no line below zero is
voided. -/
theorem ticketQty_eq_iff (resolve : String → KotStation) (store : JournalStore)
    (order : DerivedOrder) (reason : String) (draws : OfflineDraws)
    (h : ∀ line ∈ order.lines, line.isAmong lineIds = true →
      ∀ voidQty ∈ requestedVoid quantityByLineId line, 0 < voidQty ∨ line.quantity ≤ 0) :
    (∀ productName, ticketQty (emitVoidKotTicketsOffline resolve store order
        ((order.lines.filter (EventLine.isAmong lineIds)).filter EventLine.isKitchenSent)
        quantityByLineId reason draws).2 productName =
      sentQty order.lines productName -
        sentQty (order.lines.filterMap (keptLine lineIds quantityByLineId)) productName) ↔
      ∀ line ∈ order.lines, line.isAmong lineIds = true → line.isKitchenSent = true →
        0 ≤ line.quantity := by
  simp only [ticketQty_eq resolve store order reason draws h, add_eq_left]
  constructor
  · intro hnone line hline hamong hsent
    have hterms : ∀ x ∈ (order.lines.filter (EventLine.isSentAs line.productName)).map fun line =>
        if line.isAmong lineIds then max 0 (-line.quantity) else 0, 0 ≤ x := by
      intro x hx
      obtain ⟨other, -, rfl⟩ := List.mem_map.mp hx
      split
      · exact le_max_left _ _
      · exact le_rfl
    have hzero := List.all_zero_of_le_zero_le_of_sum_eq_zero hterms (hnone line.productName)
      (List.mem_map.mpr ⟨line, List.mem_filter.mpr ⟨hline, by
        simp [EventLine.isSentAs, hsent]⟩, if_pos hamong⟩)
    linarith [le_max_right 0 (-line.quantity)]
  · intro hnonneg productName
    refine List.sum_eq_zero fun x hx => ?_
    obtain ⟨line, hline, rfl⟩ := List.mem_map.mp hx
    obtain ⟨hmem, hsent⟩ := List.mem_filter.mp hline
    split
    · rename_i hamong
      rw [EventLine.isSentAs, Bool.and_eq_true] at hsent
      exact max_eq_left (neg_nonpos.mpr (hnonneg line hmem hamong hsent.1))
    · rfl

end Lines

/-! ## The journal -/

/-- The keys a call draws are new: an event key is unique to its event. -/
structure FreshKeys (store : JournalStore) (draws : OfflineDraws) : Prop where
  fresh : ∀ e ∈ store.journal, ∀ n, e.key ≠ draws.eventKeys n
  distinct : Function.Injective draws.eventKeys

/-- An event under a new key is appended, and replayed last. -/
theorem replay_appendEvent_of_fresh {store : JournalStore} {e : PosOfflineEvent}
    (h : ∀ x ∈ store.journal, x.key ≠ e.key) :
    replay (appendEvent store e).journal (appendEvent store e).syncState =
      applyEvent (appendEvent store e).syncState (replay store.journal store.syncState) e := by
  refine (replay_appendEvent store e).resolve_left fun hsame => ?_
  have hlonger : (appendEvent store e).journal = store.journal ++ [e] := by
    unfold appendEvent
    rw [if_neg (by simpa using h)]
    dsimp only
    split
    · rfl
    · rfl
  rw [hsame] at hlonger
  simp at hlonger

theorem mem_journal_appendEvent {store : JournalStore} {e x : PosOfflineEvent}
    (h : x ∈ (appendEvent store e).journal) : x ∈ store.journal ∨ x = e := by
  unfold appendEvent at h
  split at h
  · exact .inl h
  · dsimp only at h
    have hmem : x ∈ store.journal ++ [e] := by
      split at h
      · exact h
      · exact h
    simpa using hmem

/-- The events of a run of tickets are all the journal gains. -/
theorem mem_journal_appendKots {events : List RestaurantKotFired} {store : JournalStore}
    {x : PosOfflineEvent}
    (h : x ∈ (events.foldl (fun s e => appendEvent s (.RESTAURANT_KOT_FIRED e)) store).journal) :
    x ∈ store.journal ∨ ∃ e ∈ events, x = .RESTAURANT_KOT_FIRED e := by
  induction events generalizing store with
  | nil => exact .inl h
  | cons event rest ih =>
    rcases ih h with hmem | ⟨e, he, hx⟩
    · rcases mem_journal_appendEvent hmem with hmem | rfl
      · exact .inl hmem
      · exact .inr ⟨event, List.mem_cons_self, rfl⟩
    · exact .inr ⟨e, List.mem_cons_of_mem _ he, hx⟩

/-- The check that a table is asked for is the open one with the id. -/
theorem deriveCheckForTable_eq_some {tableId : String} {events : List PosOfflineEvent}
    {syncState : SyncStateMap} {o : DerivedOrder} (hid : o.orderId ≠ "")
    (ho : o ∈ deriveRestaurantOpenChecks events syncState) (htable : o.tableId = some tableId) :
    deriveRestaurantCheckForTable tableId events syncState (some o.orderId) = some o := by
  cases hfound : deriveRestaurantCheckForTable tableId events syncState (some o.orderId) with
  | some found =>
    obtain ⟨hmem, hsame⟩ := mem_of_deriveCheckForTable hid hfound
    have hget := (open_of_mem_openChecks hmem).get
    rw [hsame, (open_of_mem_openChecks ho).get] at hget
    exact hget.symm
  | none =>
    have htruthy : truthyText (some o.orderId) = some o.orderId := by simp [truthyText, hid]
    unfold deriveRestaurantCheckForTable at hfound
    simp only [htruthy, List.find?_eq_none] at hfound
    refine absurd (decide_eq_true rfl) (hfound o ?_)
    refine (List.perm_insertionSort _ _).mem_iff.mpr (List.mem_filter.mpr ⟨ho, ?_⟩)
    exact decide_eq_true htable

/-- An open check at a table is reported. -/
theorem mem_openChecks_of_open {events : List PosOfflineEvent} {syncState : SyncStateMap}
    {o : DerivedOrder} (ho : (replay events syncState).Open o)
    (htable : (truthyText o.tableId).isSome = true) (hchannel : o.channel.isSome = true) :
    o ∈ deriveRestaurantOpenChecks events syncState := by
  refine List.mem_filter.mpr ⟨List.mem_filter.mpr ⟨?_, ?_⟩, ?_⟩
  · exact OrderedMap.mem_values_iff.mpr ⟨o.orderId, ho.get⟩
  · exact decide_eq_true ⟨ho.status, ho.live⟩
  · rw [htable, hchannel]
    rfl

section Run

variable {store : JournalStore} {order : DerivedOrder} {draws : OfflineDraws}
  (resolve : String → KotStation) (sentLines : List EventLine)
  (quantityByLineId : Option (OrderedMap String ℚ)) (reason : String)

variable (draws) in
/-- The tickets leave the check open. -/
theorem open_emit (hopen : (replay store.journal store.syncState).Open order) :
    ∃ o, (replay (emitVoidKotTicketsOffline resolve store order sentLines quantityByLineId reason
        draws).1.journal (emitVoidKotTicketsOffline resolve store order sentLines quantityByLineId
        reason draws).1.syncState).Open o ∧ o.orderId = order.orderId := by
  obtain ⟨⟨o, ho, hid, -⟩, -⟩ := stillOpen_appendKots
    ((voidBuckets resolve (sentLines.filterMap (voidedPart quantityByLineId))).zipIdx.map fun b =>
      voidKotEvent order reason draws b.2 b.1)
    (show StillOpen store order .discount from ⟨order, hopen, rfl, rfl⟩)
  exact ⟨o, ho, hid⟩

variable (order) in
/-- The key that is drawn after the tickets is new. -/
theorem fresh_emit (hkeys : FreshKeys store draws) :
    ∀ x ∈ (emitVoidKotTicketsOffline resolve store order sentLines quantityByLineId reason
      draws).1.journal,
      x.key ≠ draws.eventKeys (emitVoidKotTicketsOffline resolve store order sentLines
        quantityByLineId reason draws).2.length := by
  intro x hx
  rcases mem_journal_appendKots hx with hmem | ⟨e, he, rfl⟩
  · exact hkeys.fresh x hmem _
  · obtain ⟨⟨bucket, n⟩, hb, rfl⟩ := List.mem_map.mp he
    have hn := (List.mem_zipIdx hb).2.1
    intro heq
    have hsame : n = _ := hkeys.distinct heq
    rw [emitVoidKotTicketsOffline, List.length_map, List.length_zipIdx] at hsame
    omega

/-- The update that writes the new lines takes effect. -/
theorem derive_removalUpdate {voided : JournalStore} {o : DerivedOrder} {n : ℕ} {tableId : String}
    (ho : (replay voided.journal voided.syncState).Open o) (hid : o.orderId = order.orderId)
    (hne : order.orderId ≠ "") (hfresh : ∀ x ∈ voided.journal, x.key ≠ draws.eventKeys n)
    (htable : order.tableId = some tableId) (htruthy : tableId ≠ "")
    (hchannel : order.channel.isSome = true) (nextLines : List EventLine) (voidReason : String) :
    ∃ next, next.lines = nextLines ∧
      deriveRestaurantCheckForTable tableId
        (appendEvent voided
          (.ORDER_UPDATED (removalUpdate order nextLines voidReason draws n))).journal
        (appendEvent voided
          (.ORDER_UPDATED (removalUpdate order nextLines voidReason draws n))).syncState
        (some order.orderId) = some next := by
  have hreplay := replay_appendEvent_of_fresh
    (e := .ORDER_UPDATED (removalUpdate order nextLines voidReason draws n)) hfresh
  have hnext : (o.update (removalUpdate order nextLines voidReason draws n)).tableId =
      some tableId := by
    show order.tableId.or o.tableId = some tableId
    rw [htable, Option.some_or]
  have hopen : (applyEvent (appendEvent voided
      (.ORDER_UPDATED (removalUpdate order nextLines voidReason draws n))).syncState
      (replay voided.journal voided.syncState)
      (.ORDER_UPDATED (removalUpdate order nextLines voidReason draws n))).Open
      (o.update (removalUpdate order nextLines voidReason draws n)) := by
    refine ⟨?_, ho.status, ho.live⟩
    show (OrderedMap.modify _ order.orderId _).get? o.orderId = _
    rw [hid, OrderedMap.get?_modify_self, ← hid, ho.get]
    rfl
  rw [← hreplay] at hopen
  refine ⟨o.update (removalUpdate order nextLines voidReason draws n), rfl, ?_⟩
  have hsame : (o.update (removalUpdate order nextLines voidReason draws n)).orderId =
      order.orderId := hid
  rw [← hsame]
  refine deriveCheckForTable_eq_some (hsame ▸ hne) (mem_openChecks_of_open hopen ?_ ?_) hnext
  · rw [hnext]
    simp [truthyText, htruthy]
  · show (order.channel.or o.channel).isSome = true
    obtain ⟨channel, hsome⟩ := Option.isSome_iff_exists.mp hchannel
    rw [hsome]
    rfl

/-- A cancelled check is at no table. -/
theorem derive_cancelled {voided : JournalStore} {n : ℕ} (tableId : String)
    (hne : order.orderId ≠ "") (hfresh : ∀ x ∈ voided.journal, x.key ≠ draws.eventKeys n) :
    deriveRestaurantCheckForTable tableId
      (appendEvent voided (.ORDER_CANCELLED (cancelEvent order reason draws n))).journal
      (appendEvent voided (.ORDER_CANCELLED (cancelEvent order reason draws n))).syncState
      (some order.orderId) = none := by
  have hreplay := replay_appendEvent_of_fresh
    (e := .ORDER_CANCELLED (cancelEvent order reason draws n)) hfresh
  refine Option.eq_none_iff_forall_ne_some.mpr fun found hfound => ?_
  obtain ⟨hmem, hsame⟩ := mem_of_deriveCheckForTable hne hfound
  have hlive := (open_of_mem_openChecks hmem).live
  rw [hreplay, hsame] at hlive
  exact hlive (Finset.mem_insert_self _ _)

end Run

/-! ## The removal as a whole -/

/-- Without kitchen-sent lines nothing is emitted. -/
theorem emit_of_any (resolve : String → KotStation) (store : JournalStore) (order : DerivedOrder)
    (touching : List EventLine) (quantityByLineId : Option (OrderedMap String ℚ)) (reason : String)
    (draws : OfflineDraws) :
    (if touching.any EventLine.isKitchenSent = true then
        emitVoidKotTicketsOffline resolve store order (touching.filter EventLine.isKitchenSent)
          quantityByLineId reason draws
      else (store, [])) =
      emitVoidKotTicketsOffline resolve store order (touching.filter EventLine.isKitchenSent)
        quantityByLineId reason draws := by
  split
  · rfl
  · rename_i hnone
    have hempty : touching.filter EventLine.isKitchenSent = [] := by
      simpa [List.filter_eq_nil_iff] using hnone
    rw [hempty]
    rfl

section Calls

variable {store : JournalStore} {order : DerivedOrder} {lineIds : List String}
  {quantityByLineId : Option (OrderedMap String ℚ)} {opts : RemoveOptions} {draws : OfflineDraws}
  (resolve : String → KotStation)

/-- The tickets of a removal. -/
def removalTickets (resolve : String → KotStation) (store : JournalStore) (order : DerivedOrder)
    (lineIds : List String) (quantityByLineId : Option (OrderedMap String ℚ))
    (opts : RemoveOptions) (draws : OfflineDraws) : JournalStore × List OfflineKotTicket :=
  emitVoidKotTicketsOffline resolve store order
    ((order.lines.filter (EventLine.isAmong lineIds)).filter EventLine.isKitchenSent)
    quantityByLineId (orText (opts.reason.map jsTrim) "Voided from restaurant POS") draws

variable {tableId : String}

/-- A removal that leaves lines writes them. -/
theorem removeLines_of_lines (htable : truthyText order.tableId = some tableId)
    (htouching : order.lines.filter (EventLine.isAmong lineIds) ≠ [])
    (hallowed : (order.lines.filter (EventLine.isAmong lineIds)).any EventLine.isKitchenSent =
      true → opts.allowKitchenSent = true)
    (hlines : order.lines.filterMap (keptLine lineIds quantityByLineId) ≠ [])
    {voided : JournalStore} {tickets : List OfflineKotTicket}
    (hemit : removalTickets resolve store order lineIds quantityByLineId opts draws =
      (voided, tickets)) :
    ∃ voidReason, ∀ next, deriveRestaurantCheckForTable tableId
        (appendEvent voided (.ORDER_UPDATED (removalUpdate order
          (order.lines.filterMap (keptLine lineIds quantityByLineId)) voidReason draws
          tickets.length))).journal
        (appendEvent voided (.ORDER_UPDATED (removalUpdate order
          (order.lines.filterMap (keptLine lineIds quantityByLineId)) voidReason draws
          tickets.length))).syncState (some order.orderId) = some next →
      removeRestaurantLinesOffline resolve store order lineIds quantityByLineId opts draws =
        .ok (appendEvent voided (.ORDER_UPDATED (removalUpdate order
          (order.lines.filterMap (keptLine lineIds quantityByLineId)) voidReason draws
          tickets.length)), next, tickets) := by
  refine ⟨orText (opts.reason.map jsTrim)
    (if (order.lines.filter (EventLine.isAmong lineIds)).any EventLine.isKitchenSent then
      "Offline void" else "Removed before kitchen send"), fun next hnext => ?_⟩
  rw [removalTickets] at hemit
  simp only [removeRestaurantLinesOffline, bind_eq_ok, orThrow_eq_ok, require_eq_ok]
  refine ⟨tableId, htable, (), htouching, (), hallowed, ?_⟩
  rw [if_neg hlines, emit_of_any, hemit]
  simp only [bind_eq_ok, orThrow_eq_ok, pure_eq_ok]
  exact ⟨next, hnext, rfl⟩

/-- A removal that leaves no line cancels the check. -/
theorem removeLines_of_none (htable : truthyText order.tableId = some tableId)
    (htouching : order.lines.filter (EventLine.isAmong lineIds) ≠ [])
    (hallowed : (order.lines.filter (EventLine.isAmong lineIds)).any EventLine.isKitchenSent =
      true → opts.allowKitchenSent = true)
    (hlines : order.lines.filterMap (keptLine lineIds quantityByLineId) = [])
    {voided : JournalStore} {tickets : List OfflineKotTicket}
    (hemit : removalTickets resolve store order lineIds quantityByLineId opts draws =
      (voided, tickets)) (hgone : ∀ reason, deriveRestaurantCheckForTable tableId
      (appendEvent voided (.ORDER_CANCELLED (cancelEvent order reason draws
        tickets.length))).journal
      (appendEvent voided (.ORDER_CANCELLED (cancelEvent order reason draws
        tickets.length))).syncState (some order.orderId) = none) :
    ∃ reason, removeRestaurantLinesOffline resolve store order lineIds quantityByLineId opts draws =
      .ok (appendEvent voided (.ORDER_CANCELLED (cancelEvent order reason draws tickets.length)),
        { order with lines := [] }, tickets) := by
  refine ⟨orText opts.reason "Removed last lines", ?_⟩
  rw [removalTickets] at hemit
  simp only [removeRestaurantLinesOffline, bind_eq_ok, orThrow_eq_ok, require_eq_ok]
  refine ⟨tableId, htable, (), htouching, (), hallowed, ?_⟩
  rw [if_pos hlines, emit_of_any, hemit]
  simp only [cancelRestaurantCheckOffline, bind_eq_ok, orThrow_eq_ok, require_eq_ok, pure_eq_ok]
  refine ⟨_, ⟨tableId, htable, rfl⟩, (), ?_, rfl⟩
  exact Option.isNone_iff_eq_none.mpr (hgone (orText opts.reason "Removed last lines"))

variable (store lineIds quantityByLineId opts draws) in
/-- The three parts of a faithful removal, for the lines and the tickets of the source. -/
theorem faithful_iff (htable : order.tableId = some tableId) (next : DerivedOrder)
    (after : JournalStore)
    (hlines : next.lines = order.lines.filterMap (keptLine lineIds quantityByLineId))
    (hjournal : deriveRestaurantCheckForTable tableId after.journal after.syncState
      (some order.orderId) = if next.lines = [] then none else some next) :
    FaithfulRemoval order lineIds quantityByLineId after next
        (removalTickets resolve store order lineIds quantityByLineId opts draws).2 ↔
      RequestsVoid order lineIds quantityByLineId := by
  unfold removalTickets
  constructor
  · intro h
    have hrequests := (lineItems_keptLines_iff order.lines).mp (hlines ▸ h.lines)
    have htickets := h.tickets
    rw [hlines, ticketQty_eq_iff resolve store order _ draws hrequests] at htickets
    exact fun line hline hamong => ⟨hrequests line hline hamong, htickets line hline hamong⟩
  · intro h
    have hrequests := fun line hline hamong => (h line hline hamong).1
    refine ⟨?_, ?_, ?_⟩
    · rw [hlines]
      exact (lineItems_keptLines_iff order.lines).mpr hrequests
    · rw [htable]
      intro id hid
      cases hid
      exact hjournal
    · rw [hlines]
      exact (ticketQty_eq_iff resolve store order _ draws hrequests).mpr
        fun line hline hamong => (h line hline hamong).2

end Calls

/-- A removal of lines of an open check goes through, and is faithful exactly when no request of
zero or less meets a line with units and no kitchen-sent line is below zero. -/
theorem removeLines_faithful_iff {store : JournalStore} {order : DerivedOrder}
    {lineIds : List String} {quantityByLineId : Option (OrderedMap String ℚ)}
    {opts : RemoveOptions} {draws : OfflineDraws} (resolve : String → KotStation)
    (horder : order ∈ deriveRestaurantOpenChecks store.journal store.syncState)
    (hid : order.orderId ≠ "") (hkeys : FreshKeys store draws)
    (htouching : order.lines.filter (EventLine.isAmong lineIds) ≠ [])
    (hallowed : (order.lines.filter (EventLine.isAmong lineIds)).any EventLine.isKitchenSent =
      true → opts.allowKitchenSent = true) :
    ∃ after next tickets,
      removeRestaurantLinesOffline resolve store order lineIds quantityByLineId opts draws =
        .ok (after, next, tickets) ∧
      (FaithfulRemoval order lineIds quantityByLineId after next tickets ↔
        RequestsVoid order lineIds quantityByLineId) := by
  have hplace := (List.mem_filter.mp horder).2
  rw [Bool.and_eq_true] at hplace
  obtain ⟨tableId, htruthy⟩ := Option.isSome_iff_exists.mp hplace.1
  obtain ⟨htable, hnonempty⟩ : order.tableId = some tableId ∧ tableId ≠ "" := by
    simpa [truthyText, Option.filter_eq_some_iff] using htruthy
  have hopen : ∃ o, (replay (removalTickets resolve store order lineIds quantityByLineId opts
      draws).1.journal (removalTickets resolve store order lineIds quantityByLineId opts
      draws).1.syncState).Open o ∧ o.orderId = order.orderId :=
    open_emit draws resolve _ _ _ (open_of_mem_openChecks horder)
  have hfresh : ∀ x ∈ (removalTickets resolve store order lineIds quantityByLineId opts
      draws).1.journal, x.key ≠ draws.eventKeys (removalTickets resolve store order lineIds
      quantityByLineId opts draws).2.length :=
    fresh_emit order resolve _ _ _ hkeys
  have hfaithful := faithful_iff store lineIds quantityByLineId opts draws resolve htable
  rcases hemit : removalTickets resolve store order lineIds quantityByLineId opts draws with
    ⟨voided, tickets⟩
  simp only [hemit] at hopen hfresh hfaithful
  rcases em (order.lines.filterMap (keptLine lineIds quantityByLineId) = []) with hnil | hlines
  · have hgone := fun reason => derive_cancelled reason tableId hid hfresh
    obtain ⟨reason, hcall⟩ :=
      removeLines_of_none resolve htruthy htouching hallowed hnil hemit hgone
    refine ⟨_, _, _, hcall, hfaithful _ _ hnil.symm ?_⟩
    exact (hgone reason).trans (if_pos rfl).symm
  · obtain ⟨voidReason, hcall⟩ :=
      removeLines_of_lines resolve htruthy htouching hallowed hlines hemit
    obtain ⟨o, ho, hsame⟩ := hopen
    obtain ⟨next, hnext, hderived⟩ := derive_removalUpdate ho hsame hid hfresh htable hnonempty
      hplace.2 (order.lines.filterMap (keptLine lineIds quantityByLineId)) voidReason
    refine ⟨_, next, _, hcall next hderived, hfaithful _ _ hnext ?_⟩
    rw [hderived, hnext, if_neg hlines]

/-! ## A table for two -/

/-- Two pieces that the kitchen has, and one of another product that it has not seen. -/
def sentLines : List EventLine :=
  [{ plainLine "a" 2 with kitchenSentAt := some (some "2026-07-01T12:00:00.000Z") }, plainLine "b" 1]

def sentCheck : DerivedOrder :=
  DerivedOrder.ofCreated (tableStore sentLines).syncState (tableOrder sentLines)

/-- Every product is made in the kitchen. -/
def kitchenOnly (_ : String) : KotStation where
  code := "KITCHEN"
  printerName := none

def longKeys : OfflineDraws :=
  { drawsAt 1 with eventKeys := fun n => String.ofList (List.replicate (n + 8) 'k') }

/-- Void some of the first line. -/
def voidFirst (voidQty : ℚ) :
    Except RestaurantOpError (JournalStore × DerivedOrder × List OfflineKotTicket) :=
  removeRestaurantLinesOffline kitchenOnly (tableStore sentLines) sentCheck ["a"]
    (some (OrderedMap.empty.set "a" voidQty)) { reason := none, allowKitchenSent := true } longKeys

theorem freshKeys_longKeys : FreshKeys (tableStore sentLines) longKeys := by
  have hlengths (n : ℕ) : (longKeys.eventKeys n).length = n + 8 := by
    simp [longKeys]
  constructor
  · intro e he n heq
    have hshort : ∀ e ∈ (tableStore sentLines).journal, e.key.length = 7 := by decide +kernel
    have hkey := hshort e he
    rw [heq, hlengths] at hkey
    omega
  · intro n m heq
    have hsame := congrArg String.length heq
    rw [hlengths, hlengths] at hsame
    omega

/-- Voiding one of two pieces leaves one on the check and puts one on a ticket. -/
theorem void_one_of_two : ∃ after next tickets, voidFirst 1 = .ok (after, next, tickets) ∧
    FaithfulRemoval sentCheck ["a"] (some (OrderedMap.empty.set "a" 1)) after next tickets := by
  have hremoved : ∃ after next tickets, voidFirst 1 = .ok (after, next, tickets) ∧
      (FaithfulRemoval sentCheck ["a"] (some (OrderedMap.empty.set "a" 1)) after next tickets ↔
        RequestsVoid sentCheck ["a"] (some (OrderedMap.empty.set "a" 1))) :=
    removeLines_faithful_iff kitchenOnly (by decide +kernel) (by decide +kernel)
      freshKeys_longKeys (by decide +kernel) (by decide +kernel)
  obtain ⟨after, next, tickets, hcall, hfaithful⟩ := hremoved
  exact ⟨after, next, tickets, hcall, hfaithful.mpr (by decide +kernel)⟩

/-- A request to void nothing drops the whole line from the check, and no ticket says so. -/
theorem zero_request_drops_line : ∃ after next, voidFirst 0 = .ok (after, next, []) ∧
    next.lines = [plainLine "b" 1] ∧
    ¬ FaithfulRemoval sentCheck ["a"] (some (OrderedMap.empty.set "a" 0)) after next [] := by
  have hcall : (voidFirst 0).toOption.map (fun r => (r.2.1.lines, r.2.2.length)) =
      some ([plainLine "b" 1], 0) := by decide +kernel
  cases hrun : voidFirst 0 with
  | error e =>
    rw [hrun] at hcall
    cases hcall
  | ok result =>
    obtain ⟨after, next, tickets⟩ := result
    rw [hrun] at hcall
    obtain ⟨hlines, hnone⟩ := Prod.mk.inj (Option.some.inj hcall)
    cases List.eq_nil_of_length_eq_zero hnone
    refine ⟨after, next, rfl, hlines, fun h => ?_⟩
    have hkept := h.lines
    rw [show next.lines = [plainLine "b" 1] from hlines] at hkept
    revert hkept
    decide +kernel

end SmartErpPos.Offline
