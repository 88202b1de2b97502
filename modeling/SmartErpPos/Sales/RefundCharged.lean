/-
  Sales/RefundCharged.lean --- what a refund gives back of the amount that was charged.

  Source: `src/shared/domain/saleDiscountSsot.ts` (`merchandiseSlice`,
  `projectSaleRefundCharged`), called by `refundSale` of the server's sales service with
  the quantities returned so far and the sum of the earlier refunds.

  A refund takes the share of the remaining charge that its goods have of the remaining
  goods, and all of it when nothing worth more than 0.02 stays.  Its amount is spread over
  the refunded lines; the last one gets what the rounded shares of the others leave.
-/
import SmartErpPos.Lib.Transition
import SmartErpPos.Sales.DiscountRoundTrip

set_option autoImplicit false

namespace SmartErpPos.Sales

open SmartErpPos.Lib

/-! ## One refund -/

structure SaleRefundChargedLineInput where
  saleItemId : ℕ
  quantity : ℚ
  remainingQty : ℚ
  unitPrice : ℚ
  lineNet : ℚ
  thisQty : ℚ

structure SaleRefundChargedLine where
  saleItemId : ℕ
  thisQty : ℚ
  lineCharged : ℚ
  deriving DecidableEq

structure SaleRefundChargedProjection where
  refundChargedTotal : ℚ
  remainingChargedBefore : ℚ
  remainingMerchandiseBefore : ℚ
  thisMerchandise : ℚ
  cartDiscount : ℚ
  chargedTotal : ℚ
  lines : List SaleRefundChargedLine

/-- `merchandiseSlice`. -/
def merchandiseSlice (lineNet origQty sliceQty : ℚ) : ℚ :=
  if ¬ 0 < origQty ∨ ¬ 0 < sliceQty then 0 else lineNet * sliceQty / origQty

/-- The loop over the refunded lines, each with its merchandise. -/
def chargeLines (refundChargedTotal merchSum : ℚ) :
    List (SaleRefundChargedLineInput × ℚ) → ℚ → List SaleRefundChargedLine
  | [], _ => []
  | [(item, _)], allocated =>
    [⟨item.saleItemId, item.thisQty, roundSaleMoney (refundChargedTotal - allocated)⟩]
  | (item, merch) :: next :: rest, allocated =>
    let share := if merchSum ≤ 0 then 0 else roundSaleMoney (refundChargedTotal * merch / merchSum)
    ⟨item.saleItemId, item.thisQty, share⟩ ::
      chargeLines refundChargedTotal merchSum (next :: rest) (roundSaleMoney (allocated + share))

/-- `projectSaleRefundCharged`. -/
def projectSaleRefundCharged (totalAmount taxAmount alreadyRefundedCharged : ℚ)
    (items : List SaleRefundChargedLineInput) : SaleRefundChargedProjection :=
  let presented := presentSaleDiscounts totalAmount taxAmount
    (items.map fun item => ⟨item.quantity, item.unitPrice, item.lineNet⟩)
  let chargedTotal := roundSaleMoney totalAmount
  let already := roundSaleMoney (max 0 alreadyRefundedCharged)
  let remainingChargedBefore := roundSaleMoney (max 0 (chargedTotal - already))
  let remainingMerchandiseBefore := roundSaleMoney
    (items.map fun item => merchandiseSlice item.lineNet item.quantity item.remainingQty).sum
  let thisMerchandise := roundSaleMoney
    (items.map fun item => merchandiseSlice item.lineNet item.quantity item.thisQty).sum
  let refundChargedTotal :=
    if SALE_DISCOUNT_MONEY_TOLERANCE < thisMerchandise then
      if remainingMerchandiseBefore - thisMerchandise ≤ SALE_DISCOUNT_MONEY_TOLERANCE then
        remainingChargedBefore
      else if SALE_DISCOUNT_MONEY_TOLERANCE < remainingMerchandiseBefore then
        roundSaleMoney (remainingChargedBefore * thisMerchandise / remainingMerchandiseBefore)
      else 0
    else 0
  let refundLines := items.filter fun item => decide (0 < item.thisQty)
  let lineMerch := refundLines.map fun item =>
    (item, roundSaleMoney (merchandiseSlice item.lineNet item.quantity item.thisQty))
  let merchSum := roundSaleMoney (lineMerch.map (·.2)).sum
  { refundChargedTotal := refundChargedTotal
    remainingChargedBefore := remainingChargedBefore
    remainingMerchandiseBefore := remainingMerchandiseBefore
    thisMerchandise := thisMerchandise
    cartDiscount := presented.cartDiscount
    chargedTotal := chargedTotal
    lines := chargeLines refundChargedTotal merchSum lineMerch 0 }

/-! ## A sale and its refunds -/

structure SoldLine where
  saleItemId : ℕ
  quantity : ℚ
  unitPrice : ℚ
  lineNet : ℚ

structure ChargedSale where
  items : List SoldLine
  totalAmount : ℚ
  taxAmount : ℚ

/-- Goods in positive quantities, none below zero, for an amount in cents. -/
structure ChargedSale.WellFormed (sale : ChargedSale) : Prop where
  quantity_pos : ∀ line ∈ sale.items, 0 < line.quantity
  lineNet_nonneg : ∀ line ∈ sale.items, 0 ≤ line.lineNet
  total_nonneg : 0 ≤ sale.totalAmount
  total_cents : OnGrid 2 sale.totalAmount

/-- What has been returned of each line, and given back for it. -/
structure Refunded where
  returnedQty : ℕ → ℚ
  charged : ℚ

def Refunded.none : Refunded := ⟨fun _ => 0, 0⟩

/-- The input of a refund of these quantities. -/
def Refunded.items (s : Refunded) (sale : ChargedSale) (thisQty : ℕ → ℚ) :
    List SaleRefundChargedLineInput :=
  sale.items.map fun line =>
    { saleItemId := line.saleItemId
      quantity := line.quantity
      remainingQty := line.quantity - s.returnedQty line.saleItemId
      unitPrice := line.unitPrice
      lineNet := line.lineNet
      thisQty := thisQty line.saleItemId }

/-- The refund of these quantities. -/
def Refunded.project (s : Refunded) (sale : ChargedSale) (thisQty : ℕ → ℚ) :
    SaleRefundChargedProjection :=
  projectSaleRefundCharged sale.totalAmount sale.taxAmount s.charged (s.items sale thisQty)

/-- One refund: of each line nothing, or a positive quantity of at most what remains. -/
structure RefundStep (sale : ChargedSale) (s : Refunded) (thisQty : ℕ → ℚ) (s' : Refunded) :
    Prop where
  nonneg : ∀ line ∈ sale.items, 0 ≤ thisQty line.saleItemId
  le_remaining : ∀ line ∈ sale.items,
    thisQty line.saleItemId ≤ line.quantity - s.returnedQty line.saleItemId
  after : s' = ⟨fun id => s.returnedQty id + thisQty id,
    s.charged + (s.project sale thisQty).refundChargedTotal⟩

/-! ## Merchandise -/

theorem merchandiseSlice_nonneg {lineNet origQty sliceQty : ℚ} (hnet : 0 ≤ lineNet) :
    0 ≤ merchandiseSlice lineNet origQty sliceQty := by
  unfold merchandiseSlice
  split
  · exact le_rfl
  · rename_i h
    push Not at h
    exact div_nonneg (mul_nonneg hnet h.2.le) h.1.le

theorem merchandiseSlice_mono {lineNet origQty a b : ℚ} (hnet : 0 ≤ lineNet) (hab : a ≤ b) :
    merchandiseSlice lineNet origQty a ≤ merchandiseSlice lineNet origQty b := by
  by_cases ha : 0 < origQty ∧ 0 < a
  · have hb : 0 < b := lt_of_lt_of_le ha.2 hab
    unfold merchandiseSlice
    rw [if_neg (by simp [ha]), if_neg (by simp [ha.1, hb])]
    exact div_le_div_of_nonneg_right (mul_le_mul_of_nonneg_left hab hnet) ha.1.le
  · have hzero : merchandiseSlice lineNet origQty a = 0 := by
      unfold merchandiseSlice
      rw [if_pos (not_and_or.mp ha)]
    rw [hzero]
    exact merchandiseSlice_nonneg hnet

/-- The goods still with the customer. -/
def Refunded.remainingMerchandise (s : Refunded) (sale : ChargedSale) : ℚ :=
  roundSaleMoney (sale.items.map fun line =>
    merchandiseSlice line.lineNet line.quantity (line.quantity - s.returnedQty line.saleItemId)).sum

/-- The goods a refund takes back. -/
def ChargedSale.merchandiseOf (sale : ChargedSale) (thisQty : ℕ → ℚ) : ℚ :=
  roundSaleMoney (sale.items.map fun line =>
    merchandiseSlice line.lineNet line.quantity (thisQty line.saleItemId)).sum

theorem merchandise_project (s : Refunded) (sale : ChargedSale) (thisQty : ℕ → ℚ) :
    (s.project sale thisQty).remainingMerchandiseBefore = s.remainingMerchandise sale ∧
      (s.project sale thisQty).thisMerchandise = sale.merchandiseOf thisQty := by
  constructor
  · simp [Refunded.project, projectSaleRefundCharged, Refunded.items, Function.comp_def,
      Refunded.remainingMerchandise]
  · simp [Refunded.project, projectSaleRefundCharged, Refunded.items, Function.comp_def,
      ChargedSale.merchandiseOf]

theorem merchandiseOf_le_remaining {s s' : Refunded} {sale : ChargedSale} {thisQty : ℕ → ℚ}
    (hsale : sale.WellFormed) (h : RefundStep sale s thisQty s') :
    sale.merchandiseOf thisQty ≤ s.remainingMerchandise sale := by
  refine roundTo_mono (List.sum_le_sum fun line hline => ?_)
  exact merchandiseSlice_mono (hsale.lineNet_nonneg line hline) (h.le_remaining line hline)

theorem merchandiseOf_nonneg {sale : ChargedSale} (hsale : sale.WellFormed) (thisQty : ℕ → ℚ) :
    0 ≤ sale.merchandiseOf thisQty := by
  refine roundTo_nonneg (List.sum_nonneg fun x hx => ?_)
  obtain ⟨line, hline, rfl⟩ := List.mem_map.mp hx
  exact merchandiseSlice_nonneg (hsale.lineNet_nonneg line hline)

/-! ## The amount of a refund -/

/-- What is due for goods worth `goods` of goods worth `all`, with `open_` still charged. -/
def dueFor (open_ all goods : ℚ) : ℚ :=
  if goods ≤ SALE_DISCOUNT_MONEY_TOLERANCE then 0
  else if all - goods ≤ SALE_DISCOUNT_MONEY_TOLERANCE then open_
  else roundSaleMoney (open_ * goods / all)

theorem dueFor_bounds {open_ all goods : ℚ} (hopen : 0 ≤ open_) (hgrid : OnGrid 2 open_)
    (hgoods : 0 ≤ goods) (hle : goods ≤ all) : 0 ≤ dueFor open_ all goods ∧
      dueFor open_ all goods ≤ open_ ∧ OnGrid 2 (dueFor open_ all goods) := by
  have hall : 0 ≤ all := hgoods.trans hle
  unfold dueFor
  split
  · exact ⟨le_rfl, hopen, onGrid_zero⟩
  · split
    · exact ⟨hopen, le_rfl, hgrid⟩
    · refine ⟨roundTo_nonneg (div_nonneg (mul_nonneg hopen hgoods) hall), roundTo_le ?_ hgrid,
        onGrid_roundTo _⟩
      rw [mul_div_assoc]
      exact mul_le_of_le_one_right hopen (div_le_one_of_le₀ hle hall)

/-- The state between refunds. -/
structure Refunded.Sound (s : Refunded) (sale : ChargedSale) : Prop where
  charged_nonneg : 0 ≤ s.charged
  charged_le : s.charged ≤ sale.totalAmount
  cents : OnGrid 2 s.charged
  returned : ∀ line ∈ sale.items, s.returnedQty line.saleItemId ≤ line.quantity

theorem sound_none {sale : ChargedSale} (hsale : sale.WellFormed) : Refunded.none.Sound sale :=
  ⟨le_rfl, hsale.total_nonneg, onGrid_zero, fun line hline => (hsale.quantity_pos line hline).le⟩

/-- The charged total of a refund is what is due. -/
theorem refundChargedTotal_eq {s : Refunded} {sale : ChargedSale} (hsale : sale.WellFormed)
    (hs : s.Sound sale) (thisQty : ℕ → ℚ) :
    (s.project sale thisQty).refundChargedTotal = dueFor (sale.totalAmount - s.charged)
      (s.remainingMerchandise sale) (sale.merchandiseOf thisQty) := by
  obtain ⟨hall, hgoods⟩ := merchandise_project s sale thisQty
  have hcents : OnGrid 2 (sale.totalAmount - s.charged) := hsale.total_cents.sub hs.cents
  have hopen : (s.project sale thisQty).remainingChargedBefore = sale.totalAmount - s.charged := by
    show roundSaleMoney (max 0 (roundSaleMoney sale.totalAmount -
      roundSaleMoney (max 0 s.charged))) = _
    rw [max_eq_right hs.charged_nonneg, roundSaleMoney_of_onGrid hsale.total_cents,
      roundSaleMoney_of_onGrid hs.cents, max_eq_right (sub_nonneg.mpr hs.charged_le),
      roundSaleMoney_of_onGrid hcents]
  have hprojected : (s.project sale thisQty).refundChargedTotal =
      if SALE_DISCOUNT_MONEY_TOLERANCE < (s.project sale thisQty).thisMerchandise then
        if (s.project sale thisQty).remainingMerchandiseBefore -
            (s.project sale thisQty).thisMerchandise ≤ SALE_DISCOUNT_MONEY_TOLERANCE then
          (s.project sale thisQty).remainingChargedBefore
        else if SALE_DISCOUNT_MONEY_TOLERANCE <
            (s.project sale thisQty).remainingMerchandiseBefore then
          roundSaleMoney ((s.project sale thisQty).remainingChargedBefore *
            (s.project sale thisQty).thisMerchandise /
              (s.project sale thisQty).remainingMerchandiseBefore)
        else 0
      else 0 := rfl
  rw [hprojected, hall, hgoods, hopen]
  unfold dueFor
  by_cases hsmall : sale.merchandiseOf thisQty ≤ SALE_DISCOUNT_MONEY_TOLERANCE
  · rw [if_neg (not_lt.mpr hsmall), if_pos hsmall]
  · rw [if_pos (not_le.mp hsmall), if_neg hsmall]
    by_cases hlast : s.remainingMerchandise sale - sale.merchandiseOf thisQty ≤
        SALE_DISCOUNT_MONEY_TOLERANCE
    · rw [if_pos hlast, if_pos hlast]
    · have hmore : SALE_DISCOUNT_MONEY_TOLERANCE < s.remainingMerchandise sale := by
        have htol : SALE_DISCOUNT_MONEY_TOLERANCE = 2 / 100 := rfl
        rw [htol] at hsmall hlast ⊢
        linarith [not_le.mp hsmall, not_le.mp hlast]
      rw [if_neg hlast, if_neg hlast, if_pos hmore]

/-- A refund gives back at most what is left of the charge. -/
theorem RefundStep.charged_bounds {s s' : Refunded} {sale : ChargedSale} {thisQty : ℕ → ℚ}
    (hsale : sale.WellFormed) (hs : s.Sound sale) (h : RefundStep sale s thisQty s') :
    0 ≤ (s.project sale thisQty).refundChargedTotal ∧
      (s.project sale thisQty).refundChargedTotal ≤ sale.totalAmount - s.charged ∧
      OnGrid 2 (s.project sale thisQty).refundChargedTotal := by
  rw [refundChargedTotal_eq hsale hs]
  exact dueFor_bounds (sub_nonneg.mpr hs.charged_le) (hsale.total_cents.sub hs.cents)
    (merchandiseOf_nonneg hsale thisQty) (merchandiseOf_le_remaining hsale h)

theorem RefundStep.sound {s s' : Refunded} {sale : ChargedSale} {thisQty : ℕ → ℚ}
    (hsale : sale.WellFormed) (hs : s.Sound sale) (h : RefundStep sale s thisQty s') :
    s'.Sound sale := by
  obtain ⟨hnonneg, hle, hcents⟩ := h.charged_bounds hsale hs
  rw [h.after]
  refine ⟨add_nonneg hs.charged_nonneg hnonneg, ?_, hs.cents.add hcents, fun line hline => ?_⟩
  · dsimp only
    linarith
  · have hremaining := h.le_remaining line hline
    dsimp only
    linarith

/-! ## The lines of a refund -/

/-- The rounded shares of these lines together. -/
def sharesOf (total merchSum : ℚ) (merch : List ℚ) : ℚ :=
  (merch.map fun m => roundSaleMoney (total * m / merchSum)).sum

/-- The share of a line that is not the last one, by the code's case or without it. -/
theorem share_eq (total : ℚ) {merchSum m : ℚ} (hm : 0 ≤ m) (hle : m ≤ merchSum) :
    (if merchSum ≤ 0 then 0 else roundSaleMoney (total * m / merchSum)) =
      roundSaleMoney (total * m / merchSum) := by
  split
  · rename_i hzero
    have hm0 : m = 0 := le_antisymm (hle.trans hzero) hm
    rw [hm0, mul_zero, zero_div]
    exact roundTo_zero.symm
  · rfl

/-- The lines of a refund: the rounded shares, and what they leave for the last line. -/
theorem chargeLines_spec {total merchSum : ℚ} (htotal : OnGrid 2 total)
    {lines : List (SaleRefundChargedLineInput × ℚ)} (hne : lines ≠ [])
    (hmerch : ∀ l ∈ lines, 0 ≤ l.2 ∧ l.2 ≤ merchSum) {allocated : ℚ} (halloc : OnGrid 2 allocated) :
    (chargeLines total merchSum lines allocated).map (·.lineCharged) =
      (lines.map (·.2)).dropLast.map (fun m => roundSaleMoney (total * m / merchSum)) ++
        [total - allocated - sharesOf total merchSum (lines.map (·.2)).dropLast] := by
  induction lines generalizing allocated with
  | nil => exact absurd rfl hne
  | cons l rest ih =>
    obtain ⟨item, merch⟩ := l
    obtain ⟨hhead, hrest⟩ := List.forall_mem_cons.mp hmerch
    cases rest with
    | nil =>
      simp [chargeLines, sharesOf, roundSaleMoney_of_onGrid (htotal.sub halloc)]
    | cons next rest =>
      have hshare := share_eq total hhead.1 hhead.2
      have hnext : OnGrid 2 (allocated + roundSaleMoney (total * merch / merchSum)) :=
        halloc.add (onGrid_roundSaleMoney _)
      unfold chargeLines
      dsimp only
      rw [List.map_cons, hshare, roundSaleMoney_of_onGrid hnext,
        ih (List.cons_ne_nil next rest) hrest hnext]
      simp only [List.map_cons, List.dropLast_cons_cons, List.cons_append, sharesOf, List.sum_cons]
      congr 3
      ring

/-- The refunded lines' goods. -/
def ChargedSale.lineMerchandise (sale : ChargedSale) (thisQty : ℕ → ℚ) : List ℚ :=
  (sale.items.filter fun line => decide (0 < thisQty line.saleItemId)).map fun line =>
    roundSaleMoney (merchandiseSlice line.lineNet line.quantity (thisQty line.saleItemId))

theorem lineMerchandise_nonneg {sale : ChargedSale} (hsale : sale.WellFormed) {thisQty : ℕ → ℚ} :
    ∀ m ∈ sale.lineMerchandise thisQty, 0 ≤ m := by
  intro m hm
  obtain ⟨line, hline, rfl⟩ := List.mem_map.mp hm
  exact roundTo_nonneg (merchandiseSlice_nonneg
    (hsale.lineNet_nonneg line (List.mem_filter.mp hline).1))

/-- Without a refunded line there are no goods. -/
theorem merchandiseOf_eq_zero {sale : ChargedSale} {thisQty : ℕ → ℚ}
    (h : sale.lineMerchandise thisQty = []) : sale.merchandiseOf thisQty = 0 := by
  have hnone := List.filter_eq_nil_iff.mp (List.map_eq_nil_iff.mp h)
  have hzero : (sale.items.map fun line =>
      merchandiseSlice line.lineNet line.quantity (thisQty line.saleItemId)).sum = 0 := by
    refine List.sum_eq_zero fun x hx => ?_
    obtain ⟨line, hline, rfl⟩ := List.mem_map.mp hx
    have hnot := hnone line hline
    simp only [decide_eq_true_eq] at hnot
    exact if_pos (.inr hnot)
  unfold ChargedSale.merchandiseOf
  rw [hzero]
  exact roundTo_zero

/-- Without goods no line is charged. -/
theorem lines_project_eq_nil {s : Refunded} {sale : ChargedSale} {thisQty : ℕ → ℚ}
    (h : sale.lineMerchandise thisQty = []) : (s.project sale thisQty).lines = [] := by
  have hnone : ((s.items sale thisQty).filter fun item => decide (0 < item.thisQty)) = [] := by
    have hnil := List.map_eq_nil_iff.mp h
    simpa [Refunded.items, List.filter_map, Function.comp_def] using hnil
  simp [Refunded.project, projectSaleRefundCharged, hnone, chargeLines]

/-- The line amounts of a refund. -/
theorem lineCharged_project {s s' : Refunded} {sale : ChargedSale} {thisQty : ℕ → ℚ}
    (hsale : sale.WellFormed) (hs : s.Sound sale) (h : RefundStep sale s thisQty s')
    (hne : sale.lineMerchandise thisQty ≠ []) :
    (s.project sale thisQty).lines.map (·.lineCharged) =
      ((sale.lineMerchandise thisQty).dropLast.map fun m =>
        roundSaleMoney ((s.project sale thisQty).refundChargedTotal * m /
          (sale.lineMerchandise thisQty).sum)) ++
        [(s.project sale thisQty).refundChargedTotal -
          sharesOf (s.project sale thisQty).refundChargedTotal (sale.lineMerchandise thisQty).sum
            (sale.lineMerchandise thisQty).dropLast] := by
  obtain ⟨-, -, hcents⟩ := h.charged_bounds hsale hs
  have hmerch : (((s.items sale thisQty).filter fun item => decide (0 < item.thisQty)).map
      fun item => (item, roundSaleMoney
        (merchandiseSlice item.lineNet item.quantity item.thisQty))).map (·.2) =
      sale.lineMerchandise thisQty := by
    simp [Refunded.items, List.filter_map, Function.comp_def, ChargedSale.lineMerchandise]
  have hsum : roundSaleMoney (sale.lineMerchandise thisQty).sum =
      (sale.lineMerchandise thisQty).sum := by
    refine roundSaleMoney_of_onGrid (onGrid_sum fun m hm => ?_)
    obtain ⟨line, -, rfl⟩ := List.mem_map.mp hm
    exact onGrid_roundSaleMoney _
  have hlines : (s.project sale thisQty).lines =
      chargeLines (s.project sale thisQty).refundChargedTotal
        (roundSaleMoney ((((s.items sale thisQty).filter fun item => decide (0 < item.thisQty)).map
          fun item => (item, roundSaleMoney
            (merchandiseSlice item.lineNet item.quantity item.thisQty))).map (·.2)).sum)
        (((s.items sale thisQty).filter fun item => decide (0 < item.thisQty)).map
          fun item => (item, roundSaleMoney
            (merchandiseSlice item.lineNet item.quantity item.thisQty))) 0 := rfl
  rw [hlines, hmerch, hsum, chargeLines_spec hcents ?_ ?_ onGrid_zero, hmerch, sub_zero]
  · intro hnil
    rw [hnil] at hmerch
    exact hne hmerch.symm
  · intro l hl
    have hmem : l.2 ∈ sale.lineMerchandise thisQty := by
      rw [← hmerch]
      exact List.mem_map_of_mem hl
    exact ⟨lineMerchandise_nonneg hsale l.2 hmem,
      List.single_le_sum (lineMerchandise_nonneg hsale) l.2 hmem⟩

/-! ## Closing on the amount charged -/

/-- What is promised of one refund. -/
structure Closes (sale : ChargedSale) (s : Refunded) (thisQty : ℕ → ℚ) (s' : Refunded) : Prop where
  le : s'.charged ≤ sale.totalAmount
  /-- With every line returned all of the charge is given back. -/
  full : (∀ line ∈ sale.items, s'.returnedQty line.saleItemId = line.quantity) →
    s'.charged = sale.totalAmount
  nonneg : ∀ line ∈ (s.project sale thisQty).lines, 0 ≤ line.lineCharged
  sum : ((s.project sale thisQty).lines.map (·.lineCharged)).sum =
    (s.project sale thisQty).refundChargedTotal

/-- What a refund has to meet: if it takes back everything that remains, the goods are worth
more than 0.02 or nothing is left of the charge; and the rounded shares of all lines but
the last take no more than is due. -/
structure Closable (sale : ChargedSale) (s : Refunded) (thisQty : ℕ → ℚ) : Prop where
  worth : (∀ line ∈ sale.items,
      thisQty line.saleItemId = line.quantity - s.returnedQty line.saleItemId) →
    SALE_DISCOUNT_MONEY_TOLERANCE < sale.merchandiseOf thisQty ∨ s.charged = sale.totalAmount
  shares : sharesOf
      (dueFor (sale.totalAmount - s.charged) (s.remainingMerchandise sale)
        (sale.merchandiseOf thisQty))
      (sale.lineMerchandise thisQty).sum (sale.lineMerchandise thisQty).dropLast ≤
    dueFor (sale.totalAmount - s.charged) (s.remainingMerchandise sale)
      (sale.merchandiseOf thisQty)

/-- The line amounts always sum to the refund. -/
theorem sum_lineCharged {s s' : Refunded} {sale : ChargedSale} {thisQty : ℕ → ℚ}
    (hsale : sale.WellFormed) (hs : s.Sound sale) (h : RefundStep sale s thisQty s') :
    ((s.project sale thisQty).lines.map (·.lineCharged)).sum =
      (s.project sale thisQty).refundChargedTotal := by
  by_cases hne : sale.lineMerchandise thisQty = []
  · rw [lines_project_eq_nil hne, refundChargedTotal_eq hsale hs, merchandiseOf_eq_zero hne]
    have htol : (0 : ℚ) ≤ SALE_DISCOUNT_MONEY_TOLERANCE := by norm_num [SALE_DISCOUNT_MONEY_TOLERANCE]
    exact (if_pos htol).symm
  · rw [lineCharged_project hsale hs h hne, List.sum_append, List.sum_singleton]
    unfold sharesOf
    ring

/-- They are not negative exactly when the shares before the last one leave something. -/
theorem lineCharged_nonneg_iff {s s' : Refunded} {sale : ChargedSale} {thisQty : ℕ → ℚ}
    (hsale : sale.WellFormed) (hs : s.Sound sale) (h : RefundStep sale s thisQty s') :
    (∀ line ∈ (s.project sale thisQty).lines, 0 ≤ line.lineCharged) ↔
      sharesOf (s.project sale thisQty).refundChargedTotal (sale.lineMerchandise thisQty).sum
        (sale.lineMerchandise thisQty).dropLast ≤ (s.project sale thisQty).refundChargedTotal := by
  obtain ⟨hdue, -, -⟩ := h.charged_bounds hsale hs
  have hall : (∀ line ∈ (s.project sale thisQty).lines, 0 ≤ line.lineCharged) ↔
      ∀ x ∈ (s.project sale thisQty).lines.map (·.lineCharged), 0 ≤ x := by
    simp [List.mem_map]
  rw [hall]
  by_cases hne : sale.lineMerchandise thisQty = []
  · rw [lines_project_eq_nil hne, hne]
    simpa [sharesOf] using hdue
  · rw [lineCharged_project hsale hs h hne]
    constructor
    · intro hx
      exact sub_nonneg.mp (hx _ (List.mem_append_right _ (List.mem_singleton.mpr rfl)))
    · intro hle x hx
      rcases List.mem_append.mp hx with hx | hx
      · obtain ⟨m, hm, rfl⟩ := List.mem_map.mp hx
        have hm0 := lineMerchandise_nonneg hsale m (List.mem_of_mem_dropLast hm)
        exact roundTo_nonneg (div_nonneg (mul_nonneg hdue hm0)
          (List.sum_nonneg (lineMerchandise_nonneg hsale)))
      · rw [List.mem_singleton.mp hx]
        exact sub_nonneg.mpr hle

/-- One refund closes exactly under the condition. -/
theorem closes_iff {s s' : Refunded} {sale : ChargedSale} {thisQty : ℕ → ℚ}
    (hsale : sale.WellFormed) (hs : s.Sound sale) (h : RefundStep sale s thisQty s') :
    Closes sale s thisQty s' ↔ Closable sale s thisQty := by
  have hdue := refundChargedTotal_eq hsale hs thisQty
  have hlines := lineCharged_nonneg_iff hsale hs h
  rw [hdue] at hlines
  have hcharged : s'.charged = s.charged + dueFor (sale.totalAmount - s.charged)
      (s.remainingMerchandise sale) (sale.merchandiseOf thisQty) := by
    rw [h.after, ← hdue]
  have hreturned : (∀ line ∈ sale.items, s'.returnedQty line.saleItemId = line.quantity) ↔
      ∀ line ∈ sale.items,
        thisQty line.saleItemId = line.quantity - s.returnedQty line.saleItemId := by
    rw [h.after]
    refine forall₂_congr fun line _ => ?_
    exact eq_sub_iff_add_eq'.symm
  -- when everything goes back, the goods are all that remains
  have hfull : (∀ line ∈ sale.items,
      thisQty line.saleItemId = line.quantity - s.returnedQty line.saleItemId) →
      (s'.charged = sale.totalAmount ↔
        SALE_DISCOUNT_MONEY_TOLERANCE < sale.merchandiseOf thisQty ∨
          s.charged = sale.totalAmount) := by
    intro hall
    have hgoods : sale.merchandiseOf thisQty = s.remainingMerchandise sale := by
      unfold ChargedSale.merchandiseOf Refunded.remainingMerchandise
      congr 2
      exact List.map_congr_left fun line hline => by rw [hall line hline]
    have htol : (0 : ℚ) ≤ SALE_DISCOUNT_MONEY_TOLERANCE := by norm_num [SALE_DISCOUNT_MONEY_TOLERANCE]
    rw [hcharged]
    unfold dueFor
    by_cases hsmall : sale.merchandiseOf thisQty ≤ SALE_DISCOUNT_MONEY_TOLERANCE
    · rw [if_pos hsmall, add_zero]
      exact ⟨.inr, fun hor => hor.resolve_left (not_lt.mpr hsmall)⟩
    · rw [if_neg hsmall, hgoods, sub_self, if_pos htol, add_sub_cancel]
      rw [hgoods] at hsmall
      exact iff_of_true rfl (.inl (not_le.mp hsmall))
  constructor
  · intro hclose
    exact ⟨fun hall => (hfull hall).mp (hclose.full (hreturned.mpr hall)),
      hlines.mp hclose.nonneg⟩
  · intro hcan
    exact ⟨(h.sound hsale hs).charged_le,
      fun hall => (hfull (hreturned.mp hall)).mpr (hcan.worth (hreturned.mp hall)),
      hlines.mpr hcan.shares, sum_lineCharged hsale hs h⟩

/-- The sale as it is stored, its lines numbered. -/
def SaleDiscountPersistProjection.sale (stored : SaleDiscountPersistProjection) : ChargedSale where
  items := stored.items.zipIdx.map fun line =>
    ⟨line.2, line.1.quantity, line.1.unitPrice, line.1.totalPrice⟩
  totalAmount := stored.chargedTotal
  taxAmount := stored.taxAmount

/-- A sale whose line discounts stay within the line and whose cart discount stays within
the merchandise. -/
structure SaleDiscountParams.Covered (params : SaleDiscountParams) : Prop where
  quantity_pos : ∀ item ∈ params.items, 0 < item.quantity
  line : ∀ item ∈ params.items, (persistLine item).discountAmount ≤
    item.quantity * roundSaleMoney item.unitPrice
  cart : roundSaleMoney (max 0 params.cartDiscount) ≤
    (projectSaleDiscountPersist params).merchandiseNet
  tax : 0 ≤ params.taxAmount.getD 0

theorem wellFormed_sale {params : SaleDiscountParams} (h : params.Covered) :
    (projectSaleDiscountPersist params).sale.WellFormed := by
  have hpretax : 0 ≤ roundSaleMoney ((projectSaleDiscountPersist params).merchandiseNet -
      (projectSaleDiscountPersist params).cartDiscount) := roundTo_nonneg (sub_nonneg.mpr h.cart)
  have hitems : ∀ line ∈ (projectSaleDiscountPersist params).sale.items, ∃ item ∈ params.items,
      line.quantity = item.quantity ∧ line.lineNet = (persistLine item).totalPrice := by
    intro line hline
    obtain ⟨x, hx, rfl⟩ := List.mem_map.mp hline
    obtain ⟨item, hitem, hstored⟩ := List.mem_map.mp (List.fst_mem_of_mem_zipIdx hx)
    exact ⟨item, hitem, by rw [← hstored]; exact ⟨rfl, rfl⟩⟩
  refine ⟨?_, ?_, ?_, ?_⟩
  · intro line hline
    obtain ⟨item, hitem, hquantity, -⟩ := hitems line hline
    rw [hquantity]
    exact h.quantity_pos item hitem
  · intro line hline
    obtain ⟨item, hitem, -, hnet⟩ := hitems line hline
    rw [hnet]
    exact roundTo_nonneg (sub_nonneg.mpr (h.line item hitem))
  · show 0 ≤ (projectSaleDiscountPersist params).chargedTotal
    unfold projectSaleDiscountPersist
    dsimp only
    split
    · exact hpretax
    · exact roundTo_nonneg (add_nonneg hpretax (roundTo_nonneg h.tax))
  · show OnGrid 2 (projectSaleDiscountPersist params).chargedTotal
    unfold projectSaleDiscountPersist
    dsimp only
    split <;> exact onGrid_roundTo _

/-! ## Small sales -/

/-- Two pieces at 5.00. -/
def twoPieces : SaleDiscountParams := ⟨[⟨2, 5, none⟩], 0, none, none⟩

/-- Four pieces at 1.00 with a cart discount of 3.98. -/
def nearlyFree : SaleDiscountParams :=
  ⟨[⟨1, 1, none⟩, ⟨1, 1, none⟩, ⟨1, 1, none⟩, ⟨1, 1, none⟩], 398 / 100, none, none⟩

/-- Two pieces at 0.02. -/
def twoCrumbs : SaleDiscountParams := ⟨[⟨2, 2 / 100, none⟩], 0, none, none⟩

/-- The state after refunds of these quantities. -/
def afterRefunds (sale : ChargedSale) (refunds : List (ℕ → ℚ)) : Refunded :=
  refunds.foldl (fun s thisQty => ⟨fun id => s.returnedQty id + thisQty id,
    s.charged + (s.project sale thisQty).refundChargedTotal⟩) Refunded.none

/-- A refund of one piece of every line, and another one. -/
def onePieceTwice (sale : ChargedSale) : List (Refunded × (ℕ → ℚ) × Refunded) :=
  let one := fun _ => 1
  [(Refunded.none, one, afterRefunds sale [one]),
    (afterRefunds sale [one], one, afterRefunds sale [one, one])]

theorem onePieceTwice_run {sale : ChargedSale}
    (hqty : ∀ line ∈ sale.items, line.quantity = 2) :
    Run (RefundStep sale) Refunded.none (onePieceTwice sale)
      (afterRefunds sale [fun _ => 1, fun _ => 1]) := by
  refine .cons ⟨fun _ _ => zero_le_one, fun line hline => ?_, rfl⟩
    (.cons ⟨fun _ _ => zero_le_one, fun line hline => ?_, rfl⟩ (.nil _))
  · rw [hqty line hline]
    norm_num [Refunded.none]
  · rw [hqty line hline]
    norm_num [Refunded.none, afterRefunds]

end SmartErpPos.Sales
