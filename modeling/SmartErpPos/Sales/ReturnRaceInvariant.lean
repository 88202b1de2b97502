/-
  Sales/ReturnRaceInvariant.lean --- what open returns and voids of a sale know.

  What a refund has read and written is right as long as the items of the sale are still as
  it read them: then no other refund has committed since.  At most one open transaction has
  written the row of the sale.
-/
import SmartErpPos.Sales.ReturnRace

set_option autoImplicit false

namespace SmartErpPos.Sales

open SmartErpPos.Lib

/-! ## The amount of a refund -/

/-- What the goods still with the customer are worth. -/
def remainingWorth (items : List SaleItem) : ℚ :=
  roundSaleMoney (items.map fun item =>
    merchandiseSlice item.totalPrice.toRat item.quantity.toRat
      (item.quantity - item.refundedQty).toRat).sum

variable {sale sale' : Sale} {db : RaceDb} {work : RefundWork}

/-- A refund gives back at most what is left of the charge, and all of it for goods that
leave nothing. -/
theorem chargeRefund_bounds (rows : List ValidatedItem) (hnonneg : 0 ≤ sale.refundedChargedTotal)
    (hle : sale.refundedChargedTotal ≤ sale.totalAmount.toRat) :
    let projection := chargeRefund sale sale.refundedChargedTotal rows
    let open_ := sale.totalAmount.toRat - sale.refundedChargedTotal
    (0 ≤ projection.refundChargedTotal ∧ projection.refundChargedTotal ≤ open_ ∧
      OnGrid 2 projection.refundChargedTotal) ∧
    (projection.thisMerchandise = projection.remainingMerchandiseBefore →
      SALE_DISCOUNT_MONEY_TOLERANCE < projection.thisMerchandise →
      projection.refundChargedTotal = open_) := by
  intro projection open_
  have htotal : OnGrid 2 sale.totalAmount.toRat := ⟨sale.totalAmount, rfl⟩
  have hcents : OnGrid 2 sale.refundedChargedTotal := ⟨_, rfl⟩
  have hopenGrid : OnGrid 2 open_ := htotal.sub hcents
  have hopen : projection.remainingChargedBefore = open_ := by
    show roundSaleMoney (max 0 (roundSaleMoney sale.totalAmount.toRat -
      roundSaleMoney (max 0 sale.refundedChargedTotal))) = _
    rw [max_eq_right hnonneg, roundSaleMoney_of_onGrid htotal, roundSaleMoney_of_onGrid hcents,
      max_eq_right (sub_nonneg.mpr hle), roundSaleMoney_of_onGrid hopenGrid]
  have hopenNonneg : 0 ≤ open_ := sub_nonneg.mpr hle
  have hcases : projection.refundChargedTotal =
      if SALE_DISCOUNT_MONEY_TOLERANCE < projection.thisMerchandise then
        if projection.remainingMerchandiseBefore - projection.thisMerchandise ≤
            SALE_DISCOUNT_MONEY_TOLERANCE then projection.remainingChargedBefore
        else if SALE_DISCOUNT_MONEY_TOLERANCE < projection.remainingMerchandiseBefore then
          roundSaleMoney (projection.remainingChargedBefore * projection.thisMerchandise /
            projection.remainingMerchandiseBefore)
        else 0
      else 0 := rfl
  have htol : (0 : ℚ) ≤ SALE_DISCOUNT_MONEY_TOLERANCE := by
    unfold SALE_DISCOUNT_MONEY_TOLERANCE
    norm_num
  rw [hcases, hopen]
  constructor
  · by_cases hthis : SALE_DISCOUNT_MONEY_TOLERANCE < projection.thisMerchandise
    · rw [if_pos hthis]
      split
      · exact ⟨hopenNonneg, le_rfl, hopenGrid⟩
      · rename_i hmore
        split
        · have hthisPos : 0 < projection.thisMerchandise := lt_of_le_of_lt htol hthis
          have hall : projection.thisMerchandise ≤ projection.remainingMerchandiseBefore := by
            linarith [not_le.mp hmore]
          have hallPos : 0 < projection.remainingMerchandiseBefore := lt_of_lt_of_le hthisPos hall
          refine ⟨roundTo_nonneg (div_nonneg (mul_nonneg hopenNonneg hthisPos.le) hallPos.le),
            roundTo_le ?_ hopenGrid, onGrid_roundTo _⟩
          rw [mul_div_assoc]
          exact mul_le_of_le_one_right hopenNonneg (div_le_one_of_le₀ hall hallPos.le)
        · exact ⟨le_rfl, hopenNonneg, onGrid_zero⟩
    · rw [if_neg hthis]
      exact ⟨le_rfl, hopenNonneg, onGrid_zero⟩
  · intro hall hthis
    rw [if_pos hthis, hall, sub_self, if_pos htol]

/-- No item named twice, and quantities that fit the column. -/
structure FitsColumns (refundItems : List (ℕ × ℚ)) : Prop where
  once : (refundItems.map (·.1)).Nodup
  grid : ∀ e ∈ refundItems, OnGrid 4 e.2

/-- A sum that picks one key out of a list without repetitions. -/
theorem sum_pick {M : Type*} [AddCommMonoid M] {es : List (ℕ × ℚ)} (hnodup : (es.map (·.1)).Nodup)
    {e : ℕ × ℚ} (he : e ∈ es) (f : ℚ → M) :
    (es.map fun x => if x.1 = e.1 then f x.2 else 0).sum = f e.2 := by
  induction es with
  | nil => cases he
  | cons x rest ih =>
    obtain ⟨hx, hrest⟩ := List.nodup_cons.mp hnodup
    rw [List.map_cons, List.sum_cons]
    rcases List.mem_cons.mp he with rfl | he
    · have hzero : (rest.map fun x => if x.1 = e.1 then f x.2 else 0).sum = 0 := by
        refine List.sum_eq_zero fun y hy => ?_
        obtain ⟨z, hz, rfl⟩ := List.mem_map.mp hy
        exact if_neg fun heq => hx (List.mem_map.mpr ⟨z, hz, heq⟩)
      rw [if_pos rfl, hzero, add_zero]
    · have hne : x.1 ≠ e.1 := fun heq => hx (List.mem_map.mpr ⟨e, he, heq.symm⟩)
      rw [if_neg hne, zero_add]
      exact ih hrest he

/-- A return that leaves nothing takes of every line what remains of it. -/
theorem thisQtyOf_of_leavesNothing {items : List SaleItem} {refundItems : List (ℕ × ℚ)}
    {rows : List ValidatedItem} (hsound : ItemsSound items) (hfits : FitsColumns refundItems)
    (hvalid : refundItems.mapM (validateItem items) = .ok rows)
    (hleaves : LeavesNothing items refundItems) {item : SaleItem} (hitem : item ∈ items) :
    thisQtyOf rows item.id = (item.quantity - item.refundedQty).toRat := by
  have hcover := hleaves.2 item hitem
  unfold thisQtyOf
  cases hfind : rows.reverse.find? fun row => decide (row.saleItem.id = item.id) with
  | some row =>
    have hrow : row ∈ rows := List.mem_reverse.mp (List.mem_of_find?_eq_some hfind)
    have hid : row.saleItem.id = item.id := by simpa using List.find?_some hfind
    obtain ⟨e, he, hchecked⟩ := mem_of_mapM_eq_ok hvalid hrow
    obtain ⟨hmem, heid, hqty, -, hle⟩ := validateItem_spec hchecked
    have hsame : row.saleItem = item := List.inj_on_of_nodup_map hsound.ids hmem hitem hid
    have hkey : e.1 = item.id := heid.symm.trans hid
    rw [← hkey, sum_pick hfits.once he (fun q => (.ofRat q : Quantity))] at hcover
    have hround : (Numeric.ofRat e.2 : Quantity).toRat = e.2 := (hfits.grid e he).roundTo_eq
    have hge : (item.quantity - item.refundedQty).toRat ≤ row.refundQty := by
      have hsub : item.quantity - item.refundedQty ≤ (Numeric.ofRat e.2 : Quantity) := by
        rw [sub_le_iff_le_add, add_comm]
        exact hcover
      have hnonneg : 0 ≤ ((Numeric.ofRat e.2 : Quantity) -
          (item.quantity - item.refundedQty)).toRat :=
        Numeric.toRat_nonneg_iff.mpr (sub_nonneg.mpr hsub)
      rw [Numeric.toRat_sub, hround] at hnonneg
      rw [hqty]
      linarith
    rw [hsame] at hle
    exact le_antisymm hle hge
  | none =>
    have hnone : ∀ e ∈ refundItems, e.1 ≠ item.id := by
      intro e he heq
      have hids : rows.map (fun row => row.saleItem.id) = refundItems.map (·.1) :=
        map_eq_of_mapM_eq_ok hvalid fun e row hrow => (validateItem_spec hrow).2.1
      have hmem : item.id ∈ rows.map fun row => row.saleItem.id := by
        rw [hids]
        exact List.mem_map.mpr ⟨e, he, heq⟩
      obtain ⟨row, hrow, hid⟩ := List.mem_map.mp hmem
      have hno := List.find?_eq_none.mp hfind row (List.mem_reverse.mpr hrow)
      exact hno (decide_eq_true hid)
    have hzero : (refundItems.map fun e =>
        if e.1 = item.id then (.ofRat e.2 : Quantity) else 0).sum = 0 := by
      refine List.sum_eq_zero fun x hx => ?_
      obtain ⟨e, he, rfl⟩ := List.mem_map.mp hx
      exact if_neg (hnone e he)
    rw [hzero, add_zero] at hcover
    have hall : item.refundedQty = item.quantity :=
      le_antisymm (hsound.returned item hitem).2 hcover
    rw [hall, sub_self, Numeric.toRat_zero]

theorem chargeRefund_closing {refundItems : List (ℕ × ℚ)} {rows : List ValidatedItem}
    (hsound : ItemsSound sale.items) (hfits : FitsColumns refundItems)
    (hvalid : refundItems.mapM (validateItem sale.items) = .ok rows)
    (hleaves : LeavesNothing sale.items refundItems) :
    let projection := chargeRefund sale sale.refundedChargedTotal rows
    projection.thisMerchandise = projection.remainingMerchandiseBefore ∧
      projection.remainingMerchandiseBefore = remainingWorth sale.items := by
  intro projection
  have hremaining : projection.remainingMerchandiseBefore = remainingWorth sale.items := by
    show roundSaleMoney ((sale.items.map _).map _).sum = _
    rw [List.map_map]
    rfl
  have hthis : projection.thisMerchandise = remainingWorth sale.items := by
    show roundSaleMoney ((sale.items.map _).map _).sum = _
    rw [List.map_map]
    unfold remainingWorth
    refine congrArg (fun l : List ℚ => roundSaleMoney l.sum) (List.map_congr_left fun item hitem => ?_)
    dsimp only [Function.comp_apply]
    rw [thisQtyOf_of_leavesNothing hsound hfits hvalid hleaves hitem]
  exact ⟨hthis.trans hremaining.symm, hremaining⟩

/-! ## The committed sale -/

/-- The units of a sale that have come back. -/
def returnedTotal (items : List SaleItem) : Quantity := (items.map (·.refundedQty)).sum

/-- What holds of the committed rows. -/
structure Consistent (db : RaceDb) : Prop where
  items : ItemsSound db.sale.items
  status : db.sale.status ≠ .REFUNDED
  fresh : db.sale.status = .COMPLETED →
    db.sale.refunds = [] ∧ ∀ item ∈ db.sale.items, item.refundedQty = 0
  restored : db.sale.status ≠ .VOID →
    ∀ item ∈ db.sale.items, restoredOf db.restored item.id = item.refundedQty.toRat
  reversed : db.sale.status ≠ .VOID → db.reversed = 0
  voided : db.sale.status = .VOID → db.sale.refunds = [] ∧
    db.reversed = db.sale.totalAmount.toRat ∧
    ∀ item ∈ db.sale.items, restoredOf db.restored item.id = item.quantity.toRat
  charged : 0 ≤ db.sale.refundedChargedTotal ∧
    db.sale.refundedChargedTotal ≤ db.sale.totalAmount.toRat
  spent : db.sale.status = .VOIDED_BY_RETURN →
    (∀ item ∈ db.sale.items, item.quantity ≤ item.refundedQty) ∧
      db.sale.refundedChargedTotal = db.sale.totalAmount.toRat
  full : db.sale.refunds ≠ [] → (∀ item ∈ db.sale.items, item.quantity ≤ item.refundedQty) →
    db.sale.status = .VOIDED_BY_RETURN

theorem Consistent.givesBackAtMost (h : Consistent db) : GivesBackAtMost db := by
  constructor
  · intro item hitem
    by_cases hvoid : db.sale.status = .VOID
    · exact ((h.voided hvoid).2.2 item hitem).le
    · rw [h.restored hvoid item hitem]
      have hle := (h.items.returned item hitem).2
      have hdiff : 0 ≤ (item.quantity - item.refundedQty).toRat :=
        Numeric.toRat_nonneg_iff.mpr (sub_nonneg.mpr hle)
      rw [Numeric.toRat_sub] at hdiff
      linarith
  · by_cases hvoid : db.sale.status = .VOID
    · obtain ⟨hnone, hreversed, -⟩ := h.voided hvoid
      rw [hreversed]
      simp [Sale.refundedChargedTotal, hnone]
    · rw [h.reversed hvoid, add_zero]
      exact h.charged.2
  · exact fun hvoid => (h.voided hvoid).1
  · intro hrefunds hall
    have hstatus := h.full hrefunds hall
    exact ⟨hstatus, (h.spent hstatus).2⟩

theorem consistent_start (h : FreshSale sale) : Consistent (RaceDb.start sale) := by
  have hnone : sale.refundedChargedTotal = 0 := by
    simp [Sale.refundedChargedTotal, h.refunds]
  have hstart : (RaceDb.start sale).sale.status = .COMPLETED := h.status
  refine ⟨h.items, ?_, fun _ => ⟨h.refunds, h.none⟩, fun _ item hitem => ?_, fun _ => rfl, ?_, ?_,
    ?_, fun hrefunds => absurd h.refunds hrefunds⟩
  · rw [hstart]
    decide
  · rw [h.none item hitem, Numeric.toRat_zero]
    rfl
  · intro hvoid
    rw [hstart] at hvoid
    cases hvoid
  · show 0 ≤ sale.refundedChargedTotal ∧ sale.refundedChargedTotal ≤ _
    rw [hnone]
    exact ⟨le_rfl, Numeric.toRat_nonneg_iff.mpr h.total⟩
  · intro hreturned
    rw [hstart] at hreturned
    cases hreturned

/-! ## What the others may do meanwhile -/

/-- The committed row and a later one: the same, voided, or with more of it returned. -/
inductive Later (sale : Sale) : Sale → Prop where
  | same : Later sale sale
  | voided (h : sale.status = .COMPLETED) : Later sale { sale with status := .VOID }
  | returned {sale' : Sale} (htotal : sale'.totalAmount = sale.totalAmount)
      (htax : sale'.taxAmount = sale.taxAmount) (hlines : SameLines sale.items sale'.items)
      (hmore : returnedTotal sale.items < returnedTotal sale'.items)
      (hstatus : sale'.status = .PARTIALLY_RETURNED ∨ sale'.status = .VOIDED_BY_RETURN) :
      Later sale sale'

/-- What a refund has seen of the sale. -/
structure SeenBy (sale header : Sale) : Prop where
  total : header.totalAmount = sale.totalAmount
  tax : header.taxAmount = sale.taxAmount
  status : header.status = .COMPLETED ∨ header.status = .PARTIALLY_RETURNED
  past : header.status = .PARTIALLY_RETURNED → sale.status ≠ .COMPLETED

theorem SeenBy.later {header : Sale} (h : SeenBy sale header) (hlater : Later sale sale') :
    SeenBy sale' header := by
  cases hlater with
  | same => exact h
  | voided hcompleted =>
    exact ⟨h.total, h.tax, h.status, fun _ hvoid => by cases hvoid⟩
  | returned htotal htax _ _ hstatus =>
    refine ⟨h.total.trans htotal.symm, h.tax.trans htax.symm, h.status, fun _ hcompleted => ?_⟩
    rcases hstatus with hs | hs <;> rw [hcompleted] at hs <;> cases hs

/-- What a refund that has read the items knows. -/
structure WorkSound (sale : Sale) (work : RefundWork) : Prop where
  seen : SeenBy sale work.header
  named : work.input.items ≠ []
  validated : work.input.items.mapM (validateItem work.saleItems) = .ok work.rows
  past : returnedTotal work.saleItems ≤ returnedTotal sale.items

theorem WorkSound.later (h : WorkSound sale work) (hlater : Later sale sale') :
    WorkSound sale' work := by
  refine ⟨h.seen.later hlater, h.named, h.validated, ?_⟩
  cases hlater with
  | same => exact h.past
  | voided => exact h.past
  | returned _ _ _ hmore => exact h.past.trans hmore.le

/-- A refund whose items are still current has seen the rows as they were. -/
theorem WorkSound.current (h : WorkSound sale work) (hlater : Later sale sale')
    (hcurrent : work.saleItems = sale'.items) :
    work.saleItems = sale.items ∧ sale'.items = sale.items ∧ sale'.refunds = sale.refunds ∧
      (sale'.status ≠ .VOID → sale' = sale) := by
  cases hlater with
  | same => exact ⟨hcurrent, rfl, rfl, fun _ => rfl⟩
  | voided => exact ⟨hcurrent, rfl, rfl, fun hne => absurd rfl hne⟩
  | returned _ _ _ hmore =>
    have hpast := h.past
    rw [hcurrent] at hpast
    exact absurd hmore (not_lt.mpr hpast)

/-- The document is the one for the current rows. -/
def DocumentCurrent (sale : Sale) (work : RefundWork) (refund : RefundDocument) : Prop :=
  work.saleItems = sale.items → refund = work.document sale.refundedChargedTotal

/-- The quantities written so far are those of these rows. -/
def RaisedCurrent (sale : Sale) (work : RefundWork) (rows : List ValidatedItem) (raised : Raised) :
    Prop :=
  work.saleItems = sale.items →
    rows.foldlM incrementRefundedQty sale.items = .ok (ownItems raised sale.items)

/-- The status the sale gets is the right one, unless it has been voided. -/
def MarkCurrent (sale : Sale) (work : RefundWork) (raised : Raised)
    (newStatus : Option SaleStatus) : Prop :=
  work.saleItems = sale.items → sale.status ≠ .VOID → newStatus.getD sale.status =
    if isSaleFullyRefunded (ownItems raised sale.items) then .VOIDED_BY_RETURN
    else .PARTIALLY_RETURNED

/-- What an open transaction knows. -/
def TxnSound (sale : Sale) : Txn → Prop
  | .refundSale input header => SeenBy sale header ∧ input.items ≠ []
  | .refundItems work => WorkSound sale work
  | .refundCharged work refund => WorkSound sale work ∧ DocumentCurrent sale work refund
  | .refundRaising work refund todo raised => WorkSound sale work ∧
      DocumentCurrent sale work refund ∧
      ∃ done, work.rows = done ++ todo ∧ RaisedCurrent sale work done raised
  | .refundStocked work refund raised => WorkSound sale work ∧ DocumentCurrent sale work refund ∧
      RaisedCurrent sale work work.rows raised
  | .refundCounted work refund raised isFullRefund => WorkSound sale work ∧
      DocumentCurrent sale work refund ∧ RaisedCurrent sale work work.rows raised ∧
      (work.saleItems = sale.items →
        isFullRefund = isSaleFullyRefunded (ownItems raised sale.items))
  | .refundMarked work refund raised newStatus => WorkSound sale work ∧
      DocumentCurrent sale work refund ∧ RaisedCurrent sale work work.rows raised ∧
      MarkCurrent sale work raised newStatus
  | .voidSale header => header.totalAmount = sale.totalAmount
  | .voidItems header saleItems => header.totalAmount = sale.totalAmount ∧
      SameLines sale.items saleItems
  | .voidStocked header saleItems => header.totalAmount = sale.totalAmount ∧
      SameLines sale.items saleItems
  | .voidMarked header saleItems => header.totalAmount = sale.totalAmount ∧
      SameLines sale.items saleItems ∧ sale.status = .COMPLETED
  | _ => True

theorem DocumentCurrent.later {refund : RefundDocument} (h : DocumentCurrent sale work refund)
    (hwork : WorkSound sale work) (hlater : Later sale sale') :
    DocumentCurrent sale' work refund := by
  intro hcurrent
  obtain ⟨hold, -, hrefunds, -⟩ := hwork.current hlater hcurrent
  have htotal : sale'.refundedChargedTotal = sale.refundedChargedTotal := by
    unfold Sale.refundedChargedTotal
    rw [hrefunds]
  rw [htotal]
  exact h hold

theorem RaisedCurrent.later {rows : List ValidatedItem} {raised : Raised}
    (h : RaisedCurrent sale work rows raised) (hwork : WorkSound sale work)
    (hlater : Later sale sale') : RaisedCurrent sale' work rows raised := by
  intro hcurrent
  obtain ⟨hold, hitems, -, -⟩ := hwork.current hlater hcurrent
  rw [hitems]
  exact h hold

theorem MarkCurrent.later {raised : Raised} {newStatus : Option SaleStatus}
    (h : MarkCurrent sale work raised newStatus) (hwork : WorkSound sale work)
    (hlater : Later sale sale') : MarkCurrent sale' work raised newStatus := by
  intro hcurrent hnotVoid
  obtain ⟨hold, -, -, hsame⟩ := hwork.current hlater hcurrent
  have heq := hsame hnotVoid
  subst heq
  exact h hold hnotVoid

/-- What the other transactions know survives a later row; a void that has written the sale
holds it meanwhile. -/
theorem TxnSound.later {txn : Txn} (h : TxnSound sale txn) (hlater : Later sale sale')
    (hheld : ∀ header saleItems, txn = .voidMarked header saleItems → sale' = sale) :
    TxnSound sale' txn := by
  have htotal : sale'.totalAmount = sale.totalAmount := by
    cases hlater with
    | same => rfl
    | voided => rfl
    | returned ht => exact ht
  have hlines : ∀ saleItems, SameLines sale.items saleItems → SameLines sale'.items saleItems := by
    intro saleItems hsame
    cases hlater with
    | same => exact hsame
    | voided => exact hsame
    | returned _ _ hl => exact hsame.trans hl.symm
  cases txn with
  | refundSale input header => exact ⟨h.1.later hlater, h.2⟩
  | refundItems work => exact WorkSound.later h hlater
  | refundCharged work refund =>
    obtain ⟨hwork, hdoc⟩ := h
    exact ⟨hwork.later hlater, hdoc.later hwork hlater⟩
  | refundRaising work refund todo raised =>
    obtain ⟨hwork, hdoc, done, hrows, hraised⟩ := h
    exact ⟨hwork.later hlater, hdoc.later hwork hlater, done, hrows, hraised.later hwork hlater⟩
  | refundStocked work refund raised =>
    obtain ⟨hwork, hdoc, hraised⟩ := h
    exact ⟨hwork.later hlater, hdoc.later hwork hlater, hraised.later hwork hlater⟩
  | refundCounted work refund raised isFullRefund =>
    obtain ⟨hwork, hdoc, hraised, hfull⟩ := h
    refine ⟨hwork.later hlater, hdoc.later hwork hlater, hraised.later hwork hlater,
      fun hcurrent => ?_⟩
    obtain ⟨hold, hitems, -, -⟩ := hwork.current hlater hcurrent
    rw [hitems]
    exact hfull hold
  | refundMarked work refund raised newStatus =>
    obtain ⟨hwork, hdoc, hraised, hmark⟩ := h
    exact ⟨hwork.later hlater, hdoc.later hwork hlater, hraised.later hwork hlater,
      hmark.later hwork hlater⟩
  | voidSale header => exact h.trans htotal.symm
  | voidItems header saleItems => exact ⟨h.1.trans htotal.symm, hlines saleItems h.2⟩
  | voidStocked header saleItems => exact ⟨h.1.trans htotal.symm, hlines saleItems h.2⟩
  | voidMarked header saleItems =>
    rw [hheld header saleItems rfl]
    exact h
  | refundBegun env input => exact trivial
  | voidBegun env input => exact trivial
  | «over» => exact trivial

/-! ## The invariant -/

/-- The committed rows are consistent, every open transaction knows what it should, and at
most one has written the sale. -/
structure RaceInv (db : RaceDb) : Prop where
  consistent : Consistent db
  sound : ∀ tid txn, db.txns.get? tid = some txn → TxnSound db.sale txn
  exclusive : ∀ t₁ t₂ x₁ x₂, db.txns.get? t₁ = some x₁ → db.txns.get? t₂ = some x₂ →
    x₁.newStatus.isSome → x₂.newStatus.isSome → t₁ = t₂

theorem raceInv_start (h : FreshSale sale) : RaceInv (RaceDb.start sale) :=
  ⟨consistent_start h, fun _ _ hget => (nomatch hget), fun _ _ _ _ hget => (nomatch hget)⟩

/-- Nobody else has written the sale. -/
theorem newStatus_of_not_locked {tid : TxnId} (h : db.saleLocked tid = false) {t : TxnId} {x : Txn}
    (hne : t ≠ tid) (hget : db.txns.get? t = some x) : x.newStatus.isSome = false := by
  unfold RaceDb.saleLocked at h
  rw [List.any_eq_false] at h
  have hentry := h (t, x) (OrderedMap.get?_eq_some_iff.mp hget)
  simpa [hne] using hentry

/-- A statement that commits nothing. -/
theorem RaceInv.put (h : RaceInv db) {tid : TxnId} {txn : Txn} (hsound : TxnSound db.sale txn)
    (hlock : txn.newStatus.isSome → db.saleLocked tid = false) : RaceInv (db.put tid txn) := by
  refine ⟨⟨h.consistent.items, h.consistent.status, h.consistent.fresh, h.consistent.restored,
    h.consistent.reversed, h.consistent.voided, h.consistent.charged, h.consistent.spent,
    h.consistent.full⟩, fun t x hget => ?_, fun t₁ t₂ x₁ x₂ h₁ h₂ hs₁ hs₂ => ?_⟩
  · unfold RaceDb.put at hget
    rw [OrderedMap.get?_set] at hget
    split at hget
    · cases hget
      exact hsound
    · exact h.sound t x hget
  · unfold RaceDb.put at h₁ h₂
    rw [OrderedMap.get?_set] at h₁ h₂
    by_cases hk₁ : t₁ = tid
    · by_cases hk₂ : t₂ = tid
      · rw [hk₁, hk₂]
      · rw [if_pos hk₁] at h₁
        rw [if_neg hk₂] at h₂
        cases h₁
        have hnone := newStatus_of_not_locked (hlock hs₁) hk₂ h₂
        rw [hs₂] at hnone
        cases hnone
    · rw [if_neg hk₁] at h₁
      by_cases hk₂ : t₂ = tid
      · rw [if_pos hk₂] at h₂
        cases h₂
        have hnone := newStatus_of_not_locked (hlock hs₂) hk₁ h₁
        rw [hs₁] at hnone
        cases hnone
      · rw [if_neg hk₂] at h₂
        exact h.exclusive t₁ t₂ x₁ x₂ h₁ h₂ hs₁ hs₂

/-- A commit: the transaction is over, the row is a later one, and if the status changes the
transaction had written it. -/
theorem RaceInv.commit {db' : RaceDb} (h : RaceInv db) {tid : TxnId} {txn : Txn}
    (hget : db.txns.get? tid = some txn) (htxns : db'.txns = db.txns.set tid .over)
    (hconsistent : Consistent db') (hlater : Later db.sale db'.sale)
    (hheld : txn.newStatus.isSome ∨ db.sale.status ≠ .COMPLETED) : RaceInv db' := by
  refine ⟨hconsistent, fun t x hx => ?_, fun t₁ t₂ x₁ x₂ h₁ h₂ hs₁ hs₂ => ?_⟩
  · rw [htxns, OrderedMap.get?_set] at hx
    split at hx
    · cases hx
      exact trivial
    · rename_i hne
      refine (h.sound t x hx).later hlater fun header saleItems hvoid => ?_
      subst hvoid
      have hcompleted := (h.sound t _ hx).2.2
      rcases hheld with hwritten | hnot
      · exact absurd (h.exclusive t tid _ _ hx hget rfl hwritten) hne
      · exact absurd hcompleted hnot
  · rw [htxns, OrderedMap.get?_set] at h₁ h₂
    split at h₁
    · cases h₁
      cases hs₁
    · split at h₂
      · cases h₂
        cases hs₂
      · exact h.exclusive t₁ t₂ x₁ x₂ h₁ h₂ hs₁ hs₂

end SmartErpPos.Sales
