/-
  Ownership/Dividends.lean --- who holds the company, and how a dividend is split.

  Source: `src/shared/domain/ownershipEquity.ts` (`holdingsFromEvents`,
  `ownershipFromHoldings`, `allocateDividend`).

  Shares are counted from the events of the register up to a date.  A dividend is split by
  percentages with four decimals, each amount is rounded to cents, and the last holder takes
  what is missing.  A ten-thousandth of a per cent of a large dividend is more than a cent,
  so the last holder may be paid far more, or far less, than others with as many shares.

  The map of the source is keyed by holder and class in one text; the ids have no bar in
  them, and the key is a pair here.  Dates are day numbers.
-/
import Mathlib.Data.List.Sort
import SmartErpPos.Lib.Apportion
import SmartErpPos.Lib.Numeric
import SmartErpPos.Lib.OrderedMap

set_option autoImplicit false

namespace SmartErpPos.Ownership

open SmartErpPos.Lib

/-! ## The register -/

inductive ShareEventType where
  | ISSUE
  | TRANSFER
  | CANCEL
  deriving DecidableEq

/-- A row of `share_ledger_events`. -/
structure ShareEvent where
  eventType : ShareEventType
  shareClassId : String
  fromShareholderId : Option String
  toShareholderId : Option String
  quantity : Numeric 4
  effectiveDate : ℤ
  /-- `CHECK (quantity > 0)`. -/
  quantity_pos : 0 < quantity

structure HoldingQty where
  shareholderId : String
  shareClassId : String
  quantity : Numeric 4
  deriving DecidableEq

structure OwnershipSlice where
  shareholderId : String
  shareClassId : String
  shares : Numeric 4
  percent : Numeric 4
  deriving DecidableEq

/-- A slice with the amount it is paid. -/
structure DividendRow where
  slice : OwnershipSlice
  amount : Numeric 2
  deriving DecidableEq

inductive OwnershipError where
  | OWNERSHIP_DIVIDEND_NO_HOLDERS
  deriving DecidableEq

/-! ## Holdings -/

/-- What each holder has of each class. -/
abbrev ShareCount := OrderedMap (String × String) (Numeric 4)

/-- `add`. -/
def addShares (count : ShareCount) (shareholderId : Option String) (classId : String)
    (delta : Numeric 4) : ShareCount :=
  match shareholderId.filter fun id => id ≠ "" with
  | none => count
  | some id => count.set (id, classId) ((count.get? (id, classId)).getD 0 + delta)

/-- The loop over the events. -/
def applyEvent (count : ShareCount) (event : ShareEvent) : ShareCount :=
  match event.eventType with
  | .ISSUE => addShares count event.toShareholderId event.shareClassId event.quantity
  | .TRANSFER =>
    addShares (addShares count event.fromShareholderId event.shareClassId (-event.quantity))
      event.toShareholderId event.shareClassId event.quantity
  | .CANCEL => addShares count event.fromShareholderId event.shareClassId (-event.quantity)

/-- `!shareClassId || classId === shareClassId`. -/
def inClass (shareClassId : Option String) (classId : String) : Bool :=
  shareClassId.all fun c => decide (classId = c)

/-- The events up to a date, in the order of their dates. -/
def orderedEvents (events : List ShareEvent) (asOf : ℤ) (shareClassId : Option String) :
    List ShareEvent :=
  (events.filter fun e => decide (e.effectiveDate ≤ asOf) && inClass shareClassId e.shareClassId).insertionSort
    fun a b => a.effectiveDate ≤ b.effectiveDate

/-- The counts after the events. -/
def shareCount (events : List ShareEvent) (asOf : ℤ) (shareClassId : Option String) : ShareCount :=
  (orderedEvents events asOf shareClassId).foldl applyEvent .empty

/-- `holdingsFromEvents`. -/
def holdingsFromEvents (events : List ShareEvent) (asOf : ℤ) (shareClassId : Option String) :
    List HoldingQty :=
  let count := shareCount events asOf shareClassId
  let rows := (count.entries.filter fun e => decide (0 < e.2)).map fun e => ⟨e.1.1, e.1.2, e.2⟩
  rows.insertionSort fun a b => a.shareholderId ≤ b.shareholderId

/-- The percentage of a holding, with four decimals. -/
def percentOf (quantity total : Numeric 4) : Numeric 4 :=
  Numeric.ofRat (quantity.toRat / total.toRat * 100)

/-- `ownershipFromHoldings`. -/
def ownershipFromHoldings (holdings : List HoldingQty) (shareClassId : Option String) :
    List OwnershipSlice :=
  let inScope := holdings.filter fun h => inClass shareClassId h.shareClassId
  let total := (inScope.map (·.quantity)).sum
  if total ≤ 0 then []
  else inScope.map fun h => ⟨h.shareholderId, h.shareClassId, h.quantity, percentOf h.quantity total⟩

/-! ## The dividend -/

/-- What a percentage of the dividend comes to, in cents. -/
def payout (total : Numeric 2) (slice : OwnershipSlice) : Numeric 2 :=
  Numeric.ofRat (total.toRat * (slice.percent.toRat / 100))

/-- `allocateDividend`. -/
def allocateDividend (total : Numeric 2) (slices : List OwnershipSlice) :
    Except OwnershipError (List DividendRow) :=
  if slices = [] ∨ total ≤ 0 then .error .OWNERSHIP_DIVIDEND_NO_HOLDERS
  else
    let rows : List DividendRow := slices.map fun slice => ⟨slice, payout total slice⟩
    let assigned := (rows.map (·.amount)).sum
    let drift := total - assigned
    if drift = 0 then .ok rows
    else .ok (rows.modify (rows.length - 1) fun last => { last with amount := last.amount + drift })

/-- The amounts are the payouts, with the drift on the last. -/
theorem allocateDividend_eq {total : Numeric 2} {slices : List OwnershipSlice} (hne : slices ≠ [])
    (hpos : 0 < total) : ∃ rows, allocateDividend total slices = .ok rows ∧
      rows.map (·.slice) = slices ∧
      rows.map (·.amount) = settleOn (slices.map (payout total)) total (slices.length - 1) := by
  have hassigned : ((slices.map fun slice => (⟨slice, payout total slice⟩ : DividendRow)).map
      (·.amount)) = slices.map (payout total) := by
    rw [List.map_map]
    rfl
  unfold allocateDividend
  rw [if_neg (not_or.mpr ⟨hne, not_le.mpr hpos⟩)]
  dsimp only
  rw [hassigned, List.length_map]
  by_cases hdrift : total - (slices.map (payout total)).sum = 0
  · rw [if_pos hdrift]
    refine ⟨_, rfl, ?_, ?_⟩
    · rw [List.map_map]
      exact List.map_id _
    · rw [hassigned, settleOn, hdrift]
      simp only [add_zero]
      exact (List.modify_id ..).symm
  · rw [if_neg hdrift]
    refine ⟨_, rfl, ?_, ?_⟩
    · refine Eq.trans (map_modify (h := id) ?_ _ _) ?_
      · exact fun _ => rfl
      · rw [List.modify_id, List.map_map]
        exact List.map_id _
    · refine Eq.trans (map_modify
        (h := fun amount => amount + (total - (slices.map (payout total)).sum)) ?_ _ _) ?_
      · exact fun _ => rfl
      · rw [hassigned, settleOn]

/-! ## Holders -/

/-- Every count is of one class. -/
def OfClass (classId : String) (count : ShareCount) : Prop := ∀ key ∈ count.keys, key.2 = classId

theorem addShares_ofClass {classId : String} {count : ShareCount} (h : OfClass classId count)
    (shareholderId : Option String) (delta : Numeric 4) :
    OfClass classId (addShares count shareholderId classId delta) := by
  unfold addShares
  split
  · exact h
  · intro key hkey
    rcases mem_keys_setEntry.mp hkey with rfl | hold
    · rfl
    · exact h key hold

theorem applyEvent_ofClass {classId : String} {count : ShareCount} (h : OfClass classId count)
    {event : ShareEvent} (hevent : event.shareClassId = classId) :
    OfClass classId (applyEvent count event) := by
  subst hevent
  unfold applyEvent
  cases event.eventType with
  | ISSUE => exact addShares_ofClass h _ _
  | TRANSFER => exact addShares_ofClass (addShares_ofClass h _ _) _ _
  | CANCEL => exact addShares_ofClass h _ _

theorem foldl_applyEvent_ofClass {classId : String} {events : List ShareEvent}
    (hevents : ∀ e ∈ events, e.shareClassId = classId) {count : ShareCount}
    (h : OfClass classId count) : OfClass classId (events.foldl applyEvent count) := by
  induction events generalizing count with
  | nil => exact h
  | cons event rest ih =>
    exact ih (fun e he => hevents e (List.mem_cons_of_mem _ he))
      (applyEvent_ofClass h (hevents event List.mem_cons_self))

theorem mem_orderedEvents {events : List ShareEvent} {asOf : ℤ} {shareClassId : Option String}
    {e : ShareEvent} (h : e ∈ orderedEvents events asOf shareClassId) :
    e ∈ events ∧ e.effectiveDate ≤ asOf ∧ inClass shareClassId e.shareClassId = true := by
  rw [orderedEvents, List.mem_insertionSort, List.mem_filter, Bool.and_eq_true] at h
  exact ⟨h.1, of_decide_eq_true h.2.1, h.2.2⟩

variable {events : List ShareEvent} {asOf : ℤ} {shareClassId : Option String}

theorem shareCount_ofClass (classId : String) :
    OfClass classId (shareCount events asOf (some classId)) := by
  refine foldl_applyEvent_ofClass (fun e he => ?_) fun _ hkey => (nomatch hkey)
  have hin : inClass (some classId) e.shareClassId = true := (mem_orderedEvents he).2.2
  exact of_decide_eq_true hin

/-- Of one class, every holder is listed once. -/
theorem holders_nodup (classId : String) :
    ((holdingsFromEvents events asOf (some classId)).map (·.shareholderId)).Nodup := by
  have hclass := (shareCount_ofClass classId : OfClass classId (shareCount events asOf (some classId)))
  have hkeys := (shareCount events asOf (some classId)).nodup
  unfold holdingsFromEvents
  rw [((List.perm_insertionSort _ _).map _).nodup_iff, List.map_map]
  have hfiltered : ((shareCount events asOf (some classId)).entries.filter
      fun e => decide (0 < e.2)).Nodup := hkeys.of_map.filter _
  refine hfiltered.map_on fun e he e' he' heq => ?_
  have hmem := List.mem_of_mem_filter he
  have hmem' := List.mem_of_mem_filter he'
  have hkey : e.1 = e'.1 := Prod.ext heq
    ((hclass e.1 (List.mem_map_of_mem hmem)).trans (hclass e'.1 (List.mem_map_of_mem hmem')).symm)
  exact List.inj_on_of_nodup_map hkeys hmem hmem' hkey

/-- Every holding is more than nothing, and of the class that was asked for. -/
theorem quantity_pos_of_mem {h : HoldingQty} (hmem : h ∈ holdingsFromEvents events asOf shareClassId) :
    0 < h.quantity := by
  unfold holdingsFromEvents at hmem
  rw [List.mem_insertionSort] at hmem
  obtain ⟨e, he, rfl⟩ := List.mem_map.mp hmem
  exact of_decide_eq_true (List.mem_filter.mp he).2

theorem inClass_of_mem {h : HoldingQty} (hmem : h ∈ holdingsFromEvents events asOf shareClassId) :
    inClass shareClassId h.shareClassId = true := by
  cases shareClassId with
  | none => rfl
  | some classId =>
    unfold holdingsFromEvents at hmem
    rw [List.mem_insertionSort] at hmem
    obtain ⟨e, he, rfl⟩ := List.mem_map.mp hmem
    exact decide_eq_true (shareCount_ofClass classId e.1 (List.mem_map_of_mem (List.mem_of_mem_filter he)))

/-- The slices of a register with holders. -/
theorem ownership_eq (hholders : holdingsFromEvents events asOf shareClassId ≠ []) :
    let holdings := holdingsFromEvents events asOf shareClassId
    ownershipFromHoldings holdings shareClassId = holdings.map fun h =>
      ⟨h.shareholderId, h.shareClassId, h.quantity,
        percentOf h.quantity (holdings.map (·.quantity)).sum⟩ := by
  intro holdings
  have hall : (holdings.filter fun h => inClass shareClassId h.shareClassId) = holdings :=
    List.filter_eq_self.mpr fun h hmem => inClass_of_mem hmem
  have hpos : 0 < (holdings.map (·.quantity)).sum := by
    refine List.sum_pos _ (fun q hq => ?_) (by simpa using hholders)
    obtain ⟨h, hmem, rfl⟩ := List.mem_map.mp hq
    exact quantity_pos_of_mem hmem
  unfold ownershipFromHoldings
  dsimp only
  rw [hall, if_neg (not_le.mpr hpos)]

/-! ## A fair dividend -/

/-- One amount for each holder, none of them negative, that come to the dividend; equal holders
are at most a cent a holder apart. -/
structure FairDividend (total : Numeric 2) (shareClassId : Option String)
    (holdings : List HoldingQty) (rows : List DividendRow) : Prop where
  holders : rows.map (·.slice.shareholderId) = holdings.map (·.shareholderId)
  once : ∀ classId, shareClassId = some classId → (rows.map (·.slice.shareholderId)).Nodup
  sum : (rows.map (·.amount)).sum = total
  nonneg : ∀ row ∈ rows, 0 ≤ row.amount
  even : ∀ row ∈ rows, ∀ other ∈ rows, row.slice.shares = other.slice.shares →
    |row.amount.toRat - other.amount.toRat| ≤ rows.length / 100

/-- What the percentages come to leaves something for the last holder, and misses the dividend by
no more than a cent a holder where another one has as many shares as the last. -/
structure PayoutsFit (total : Numeric 2) (slices : List OwnershipSlice) : Prop where
  others : ((slices.map (payout total)).eraseIdx (slices.length - 1)).sum ≤ total
  even : ∀ last, slices[slices.length - 1]? = some last → ∀ i slice, slices[i]? = some slice →
    i ≠ slices.length - 1 → slice.shares = last.shares →
      |(total - (slices.map (payout total)).sum).toRat| ≤ slices.length / 100

section

variable {total : Numeric 2} {slices : List OwnershipSlice} {rows : List DividendRow}

/-- A row has the payout of its slice, and the last has the drift as well. -/
theorem amount_of_getElem? (hslices : rows.map (·.slice) = slices)
    (hamounts : rows.map (·.amount) = settleOn (slices.map (payout total)) total (slices.length - 1))
    {i : ℕ} {row : DividendRow} (hrow : rows[i]? = some row) :
    slices[i]? = some row.slice ∧ row.amount = payout total row.slice +
      if i = slices.length - 1 then total - (slices.map (payout total)).sum else 0 := by
  have hslice : slices[i]? = some row.slice := by
    rw [← hslices, List.getElem?_map, hrow]
    rfl
  have hamount : (settleOn (slices.map (payout total)) total (slices.length - 1))[i]? =
      some row.amount := by
    rw [← hamounts, List.getElem?_map, hrow]
    rfl
  refine ⟨hslice, ?_⟩
  by_cases hlast : i = slices.length - 1
  · rw [if_pos hlast]
    simp only [settleOn, List.getElem?_modify, List.getElem?_map, hslice, hlast.symm, if_true] at hamount
    exact (Option.some.inj hamount).symm
  · rw [getElem?_settleOn_of_ne (Ne.symm hlast), List.getElem?_map, hslice] at hamount
    rw [if_neg hlast, add_zero]
    exact (Option.some.inj hamount).symm

/-- Equal holders are even exactly when the drift is small, or the last holder has no equal. -/
theorem even_iff (hsame : ∀ s ∈ slices, ∀ t ∈ slices, s.shares = t.shares →
      payout total s = payout total t) (hslices : rows.map (·.slice) = slices)
    (hamounts : rows.map (·.amount) =
      settleOn (slices.map (payout total)) total (slices.length - 1)) :
    (∀ row ∈ rows, ∀ other ∈ rows, row.slice.shares = other.slice.shares →
        |row.amount.toRat - other.amount.toRat| ≤ rows.length / 100) ↔
      ∀ last, slices[slices.length - 1]? = some last → ∀ i slice, slices[i]? = some slice →
        i ≠ slices.length - 1 → slice.shares = last.shares →
          |(total - (slices.map (payout total)).sum).toRat| ≤ slices.length / 100 := by
  have hlength : rows.length = slices.length := by rw [← hslices, List.length_map]
  have hrowAt : ∀ (i : ℕ) (slice : OwnershipSlice), slices[i]? = some slice →
      ∃ row : DividendRow, rows[i]? = some row ∧ row.slice = slice := by
    intro i slice hslice
    rw [← hslices, List.getElem?_map] at hslice
    exact Option.map_eq_some_iff.mp hslice
  have hbound : (0 : ℚ) ≤ slices.length / 100 := by positivity
  rw [hlength]
  constructor
  · intro h last hlast i slice hslice hi hshares
    obtain ⟨row, hrow, rfl⟩ := hrowAt i slice hslice
    obtain ⟨other, hother, rfl⟩ := hrowAt _ last hlast
    have hclose := h other (List.mem_of_getElem? hother) row (List.mem_of_getElem? hrow) hshares.symm
    rw [(amount_of_getElem? hslices hamounts hrow).2, if_neg hi, add_zero,
      (amount_of_getElem? hslices hamounts hother).2, if_pos rfl,
      hsame _ (List.mem_of_getElem? hlast) _ (List.mem_of_getElem? hslice) hshares.symm,
      Numeric.toRat_add, add_sub_cancel_left] at hclose
    exact hclose
  · intro h row hrow other hother hshares
    obtain ⟨i, hi⟩ := List.mem_iff_getElem?.mp hrow
    obtain ⟨j, hj⟩ := List.mem_iff_getElem?.mp hother
    obtain ⟨hslice, hamount⟩ := amount_of_getElem? hslices hamounts hi
    obtain ⟨hslice', hamount'⟩ := amount_of_getElem? hslices hamounts hj
    have hpayout := hsame _ (List.mem_of_getElem? hslice) _ (List.mem_of_getElem? hslice') hshares
    rw [hamount, hamount', hpayout, Numeric.toRat_add, Numeric.toRat_add, add_sub_add_left_eq_sub]
    by_cases hilast : i = slices.length - 1
    · by_cases hjlast : j = slices.length - 1
      · rwa [if_pos hilast, if_pos hjlast, sub_self, abs_zero]
      · rw [if_pos hilast, if_neg hjlast, Numeric.toRat_zero, sub_zero]
        exact h _ (hilast ▸ hslice) j _ hslice' hjlast hshares.symm
    · by_cases hjlast : j = slices.length - 1
      · rw [if_neg hilast, if_pos hjlast, Numeric.toRat_zero, zero_sub, abs_neg]
        exact h _ (hjlast ▸ hslice') i _ hslice hilast hshares
      · rwa [if_neg hilast, if_neg hjlast, sub_self, abs_zero]

end

theorem percentOf_nonneg {quantity total : Numeric 4} (hquantity : 0 ≤ quantity) (htotal : 0 ≤ total) :
    0 ≤ percentOf quantity total := by
  have hq := Numeric.toRat_nonneg_iff.mpr hquantity
  have ht := Numeric.toRat_nonneg_iff.mpr htotal
  exact Numeric.ofRat_nonneg (by positivity)

/-- A dividend on a register with holders is allocated; it is fair exactly when what the
percentages come to fits. -/
theorem allocateDividend_fair_iff {total : Numeric 2} (hpos : 0 < total)
    (hholders : holdingsFromEvents events asOf shareClassId ≠ []) :
    let holdings := holdingsFromEvents events asOf shareClassId
    let slices := ownershipFromHoldings holdings shareClassId
    ∃ rows, allocateDividend total slices = .ok rows ∧
      (FairDividend total shareClassId holdings rows ↔ PayoutsFit total slices) := by
  intro holdings slices
  have hslicesEq := ownership_eq hholders
  have hne : slices ≠ [] := by
    rw [show slices = _ from hslicesEq]
    simpa using hholders
  have hsharesTotal : 0 ≤ (holdings.map (·.quantity)).sum := by
    refine List.sum_nonneg fun q hq => ?_
    obtain ⟨h, hmem, rfl⟩ := List.mem_map.mp hq
    exact (quantity_pos_of_mem hmem).le
  have hpercent : ∀ s ∈ slices, s.percent = percentOf s.shares (holdings.map (·.quantity)).sum ∧
      0 ≤ s.percent := by
    intro s hs
    rw [show slices = _ from hslicesEq] at hs
    obtain ⟨h, hmem, rfl⟩ := List.mem_map.mp hs
    exact ⟨rfl, percentOf_nonneg (quantity_pos_of_mem hmem).le hsharesTotal⟩
  have hsame : ∀ s ∈ slices, ∀ t ∈ slices, s.shares = t.shares → payout total s = payout total t := by
    intro s hs t ht hshares
    rw [payout, payout, (hpercent s hs).1, (hpercent t ht).1, hshares]
  have hpayouts : ∀ a ∈ slices.map (payout total), 0 ≤ a := by
    intro a ha
    obtain ⟨s, hs, rfl⟩ := List.mem_map.mp ha
    have htotal := Numeric.toRat_nonneg_iff.mpr hpos.le
    have hshare := Numeric.toRat_nonneg_iff.mpr (hpercent s hs).2
    exact Numeric.ofRat_nonneg (by positivity)
  obtain ⟨rows, hrows, hrowSlices, hamounts⟩ := allocateDividend_eq hne hpos
  have hlast : slices.length - 1 < (slices.map (payout total)).length := by
    rw [List.length_map]
    exact Nat.sub_lt (List.length_pos_iff.mpr hne) Nat.one_pos
  have hids : rows.map (·.slice.shareholderId) = holdings.map (·.shareholderId) := by
    have hmap : rows.map (·.slice.shareholderId) = slices.map (·.shareholderId) := by
      rw [← hrowSlices, List.map_map]
      rfl
    rw [hmap, show slices = _ from hslicesEq, List.map_map]
    rfl
  have hnonneg : (∀ row ∈ rows, 0 ≤ row.amount) ↔
      ((slices.map (payout total)).eraseIdx (slices.length - 1)).sum ≤ total := by
    rw [← settleOn_nonneg_iff hlast hpayouts, ← hamounts, List.forall_mem_map]
  refine ⟨rows, hrows, fun h => ⟨hnonneg.mp h.nonneg, ?_⟩, fun h => ⟨hids, ?_, ?_, ?_, ?_⟩⟩
  · exact (even_iff hsame hrowSlices hamounts).mp h.even
  · rintro classId rfl
    rw [hids]
    exact holders_nodup classId
  · rw [hamounts]
    exact sum_settleOn hlast
  · exact hnonneg.mpr h.others
  · exact (even_iff hsame hrowSlices hamounts).mpr h.even

/-! ## Three equal holders -/

/-- One share is issued to a holder. -/
def issueOne (shareholderId : String) : ShareEvent where
  eventType := .ISSUE
  shareClassId := "ordinary"
  fromShareholderId := none
  toShareholderId := some shareholderId
  quantity := Numeric.ofRat 1
  effectiveDate := 1
  quantity_pos := by decide +kernel

/-- The slices after one share for each of some holders. -/
def equalSlices (holders : List String) : List OwnershipSlice :=
  ownershipFromHoldings (holdingsFromEvents (holders.map issueOne) 1 (some "ordinary"))
    (some "ordinary")

/-- Two holders share a million. -/
theorem two_holders_fair :
    ∃ rows, allocateDividend (Numeric.ofRat 1000000) (equalSlices ["a", "b"]) = .ok rows ∧
      (FairDividend (Numeric.ofRat 1000000) (some "ordinary")
          (holdingsFromEvents (["a", "b"].map issueOne) 1 (some "ordinary")) rows ↔
        PayoutsFit (Numeric.ofRat 1000000) (equalSlices ["a", "b"])) :=
  allocateDividend_fair_iff (by decide +kernel) (by decide +kernel)

/-- A third of a million at 33.3333 per cent, and what the last of three is paid. -/
def thirds : List DividendRow :=
  [⟨⟨"a", "ordinary", Numeric.ofRat 1, ⟨333333⟩⟩, Numeric.ofRat 333333⟩,
    ⟨⟨"b", "ordinary", Numeric.ofRat 1, ⟨333333⟩⟩, Numeric.ofRat 333333⟩,
    ⟨⟨"c", "ordinary", Numeric.ofRat 1, ⟨333333⟩⟩, Numeric.ofRat 333334⟩]

/-- Of three equal holders the last is paid one more than the others. -/
theorem three_holders_unfair :
    allocateDividend (Numeric.ofRat 1000000) (equalSlices ["a", "b", "c"]) = .ok thirds ∧
      ¬ FairDividend (Numeric.ofRat 1000000) (some "ordinary")
        (holdingsFromEvents (["a", "b", "c"].map issueOne) 1 (some "ordinary")) thirds := by
  refine ⟨by decide +kernel, fun h => ?_⟩
  have hclose := h.even thirds[0] (List.getElem_mem _) thirds[2] (List.getElem_mem _) rfl
  exact absurd hclose (by decide +kernel)

end SmartErpPos.Ownership
