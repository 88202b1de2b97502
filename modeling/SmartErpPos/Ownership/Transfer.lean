/-
  Ownership/Transfer.lean --- moving shares from one holder to another.

  Source: `src/shared/domain/ownershipEquity.ts` (`qty`, `assertPositiveQuantity`,
  `transferResult`).

  The rows of the register are edited in place: the sender's row is lowered, the receiver's is
  raised or written at the end, and rows with nothing left are dropped.  That is what the
  register counted again from the events, with the transfer among them, comes to.
-/
import SmartErpPos.Lib.Fallible
import SmartErpPos.Ownership.Register

set_option autoImplicit false

namespace SmartErpPos.Ownership

open SmartErpPos.Lib

inductive TransferError where
  | OWNERSHIP_TRANSFER_SAME_HOLDER
  | OWNERSHIP_QTY_INVALID
  | OWNERSHIP_INSUFFICIENT_SHARES
  deriving DecidableEq

/-! ## The transfer -/

/-- `qty`. -/
def qty (value : ℚ) : Except TransferError (Numeric 4) := do
  require (0 ≤ value) .OWNERSHIP_QTY_INVALID
  return Numeric.ofRat value

/-- `assertPositiveQuantity`. -/
def assertPositiveQuantity (value : ℚ) : Except TransferError (Numeric 4) := do
  require (0 < value) .OWNERSHIP_QTY_INVALID
  let whole := ⌊value⌋
  require ((whole : ℚ) = value) .OWNERSHIP_QTY_INVALID
  return Numeric.ofRat value

/-- The first row of a holder and a class. -/
def rowOf (holdings : List HoldingQty) (shareholderId classId : String) : Option HoldingQty :=
  holdings.find? fun h => h.shareholderId = shareholderId ∧ h.shareClassId = classId

/-- That row with another quantity. -/
def setRow (shareholderId classId : String) (quantity : Numeric 4) :
    List HoldingQty → List HoldingQty
  | [] => []
  | h :: rest =>
    if h.shareholderId = shareholderId ∧ h.shareClassId = classId then
      { h with quantity := quantity } :: rest
    else h :: setRow shareholderId classId quantity rest

/-- The rows with one for the holder: a row of nothing is pushed where there is none. -/
def withRow (holdings : List HoldingQty) (shareholderId classId : String) : List HoldingQty :=
  match rowOf holdings shareholderId classId with
  | some _ => holdings
  | none => holdings ++ [⟨shareholderId, classId, 0⟩]

/-- `qty(row.quantity)`, or nothing where there is no row. -/
def quantityOf (row : Option HoldingQty) : Except TransferError (Numeric 4) :=
  match row with
  | some h => qty h.quantity.toRat
  | none => pure 0

/-- `next.filter((h) => qty(h.quantity).gt(0))`. -/
def keepPositive : List HoldingQty → Except TransferError (List HoldingQty)
  | [] => pure []
  | h :: rest => do
    let q ← qty h.quantity.toRat
    let kept ← keepPositive rest
    return if 0 < q then h :: kept else kept

/-- `transferResult`. -/
def transferResult (holdings : List HoldingQty)
    (shareClassId fromShareholderId toShareholderId : String) (quantity : ℚ) :
    Except TransferError (List HoldingQty) := do
  require (fromShareholderId ≠ toShareholderId) .OWNERSHIP_TRANSFER_SAME_HOLDER
  let q ← qty (← assertPositiveQuantity quantity).toRat
  let available ← quantityOf (rowOf holdings fromShareholderId shareClassId)
  require (q ≤ available) .OWNERSHIP_INSUFFICIENT_SHARES
  let next := setRow fromShareholderId shareClassId (available - q) holdings
  let next := withRow next toShareholderId shareClassId
  let held ← quantityOf (rowOf next toShareholderId shareClassId)
  keepPositive (setRow toShareholderId shareClassId (held + q) next)

/-! ## Rows as entries of a map -/

/-- The rows, keyed by holder and class. -/
def rowEntries (rows : List HoldingQty) : List ((String × String) × Numeric 4) :=
  rows.map fun h => ((h.shareholderId, h.shareClassId), h.quantity)

/-- What the rows say a holder has. -/
def heldIn (rows : List HoldingQty) (key : String × String) : Numeric 4 :=
  (lookupEntry key (rowEntries rows)).getD 0

section Rows

variable {rows : List HoldingQty} {id classId : String}

theorem lookupEntry_rowEntries (rows : List HoldingQty) (id classId : String) :
    lookupEntry (id, classId) (rowEntries rows) = (rowOf rows id classId).map (·.quantity) := by
  induction rows with
  | nil => rfl
  | cons h rest ih =>
    by_cases hrow : h.shareholderId = id ∧ h.shareClassId = classId
    · have hkey : (h.shareholderId, h.shareClassId) = (id, classId) := by rw [hrow.1, hrow.2]
      simp [rowEntries, rowOf, lookupEntry, hrow]
    · have hkey : (h.shareholderId, h.shareClassId) ≠ (id, classId) := fun heq =>
        hrow ⟨congrArg Prod.fst heq, congrArg Prod.snd heq⟩
      have hfind : rowOf (h :: rest) id classId = rowOf rest id classId :=
        List.find?_cons_of_neg (by simpa using hrow)
      rw [hfind, ← ih]
      exact if_neg hkey

/-- Setting the row of a holder writes the entry of its key. -/
theorem rowEntries_setRow {row : HoldingQty} (hrow : rowOf rows id classId = some row)
    (q : Numeric 4) :
    rowEntries (setRow id classId q rows) = setEntry (id, classId) q (rowEntries rows) := by
  induction rows with
  | nil => cases hrow
  | cons h rest ih =>
    by_cases hh : h.shareholderId = id ∧ h.shareClassId = classId
    · simp [setRow, rowEntries, setEntry, hh]
    · have hkey : (h.shareholderId, h.shareClassId) ≠ (id, classId) := fun heq =>
        hh ⟨congrArg Prod.fst heq, congrArg Prod.snd heq⟩
      have hfind : rowOf (h :: rest) id classId = rowOf rest id classId :=
        List.find?_cons_of_neg (by simpa using hh)
      rw [hfind] at hrow
      have ih := ih hrow
      rw [setRow, if_neg hh]
      change _ :: rowEntries _ = setEntry _ _ (_ :: rowEntries rest)
      rw [ih, setEntry, if_neg hkey]

theorem qty_toRat {q : Numeric 4} (h : 0 ≤ q) : qty q.toRat = .ok q := by
  unfold qty require
  rw [if_pos (Numeric.toRat_nonneg_iff.mpr h), Numeric.ofRat_toRat]
  rfl

/-- Rows that are not negative lose those with nothing left. -/
theorem keepPositive_eq (h : ∀ row ∈ rows, 0 ≤ row.quantity) :
    keepPositive rows = .ok (rows.filter fun row => decide (0 < row.quantity)) := by
  induction rows with
  | nil => rfl
  | cons row rest ih =>
    obtain ⟨hrow, hrest⟩ := List.forall_mem_cons.mp h
    simp only [keepPositive, qty_toRat hrow, ih hrest]
    by_cases hpos : 0 < row.quantity
    · rw [List.filter_cons, if_pos (decide_eq_true hpos)]
      change Except.ok _ = _
      rw [if_pos hpos]
    · rw [List.filter_cons, if_neg (by simpa using hpos)]
      change Except.ok _ = _
      rw [if_neg hpos]

theorem quantityOf_rowOf (h : ∀ row ∈ rows, 0 ≤ row.quantity) :
    quantityOf (rowOf rows id classId) = .ok (heldIn rows (id, classId)) := by
  unfold heldIn
  rw [lookupEntry_rowEntries]
  cases hrow : rowOf rows id classId with
  | none => rfl
  | some row => exact qty_toRat (h row (List.mem_of_find?_eq_some hrow))

/-- The rows with something in them are what their keys are found with. -/
theorem mem_iff_heldIn (hnodup : ((rowEntries rows).map Prod.fst).Nodup) (row : HoldingQty) :
    row ∈ rows ∧ 0 < row.quantity ↔ 0 < row.quantity ∧
      row.quantity = heldIn rows (row.shareholderId, row.shareClassId) := by
  have hmem : row ∈ rows ↔
      ((row.shareholderId, row.shareClassId), row.quantity) ∈ rowEntries rows := by
    constructor
    · exact fun h => List.mem_map.mpr ⟨row, h, rfl⟩
    · intro h
      obtain ⟨other, hother, heq⟩ := List.mem_map.mp h
      simp only [Prod.mk.injEq] at heq
      have hsame : other = row := by
        cases other
        cases row
        simpa only [HoldingQty.mk.injEq, and_assoc] using heq
      exact hsame ▸ hother
  rw [and_comm]
  refine and_congr_right fun hpos => ?_
  unfold heldIn
  rw [hmem, ← lookupEntry_eq_some_iff hnodup]
  cases lookupEntry (row.shareholderId, row.shareClassId) (rowEntries rows) with
  | none =>
    constructor
    · intro h
      cases h
    · intro h
      exact absurd h hpos.ne'
  | some q =>
    rw [Option.getD_some, Option.some_inj]
    exact eq_comm

theorem rowOf_of_heldIn (h : heldIn rows (id, classId) ≠ 0) :
    ∃ row, rowOf rows id classId = some row := by
  cases hrow : rowOf rows id classId with
  | none =>
    rw [heldIn, lookupEntry_rowEntries, hrow] at h
    exact absurd rfl h
  | some row => exact ⟨row, rfl⟩

/-- What is held once one entry is written. -/
theorem heldIn_setEntry {next : List HoldingQty} {key : String × String} {q : Numeric 4}
    (h : rowEntries next = setEntry key q (rowEntries rows)) (key' : String × String) :
    heldIn next key' = if key' = key then q else heldIn rows key' := by
  unfold heldIn
  rw [h]
  by_cases hkey : key' = key
  · rw [if_pos hkey, hkey, lookupEntry_setEntry_self, Option.getD_some]
  · rw [if_neg hkey, lookupEntry_setEntry_of_ne hkey]

/-- A holder without a row gets one of nothing, at the end. -/
theorem rowEntries_withRow (hrow : rowOf rows id classId = none) :
    rowEntries (withRow rows id classId) = setEntry (id, classId) 0 (rowEntries rows) := by
  have hlookup : lookupEntry (id, classId) (rowEntries rows) = none := by
    rw [lookupEntry_rowEntries, hrow]
    rfl
  rw [setEntry_of_lookupEntry_eq_none hlookup, withRow, hrow]
  simp [rowEntries]

/-- The row of the receiver, raised, or written at the end. -/
theorem rowEntries_raise (rows : List HoldingQty) (id classId : String) (q : Numeric 4) :
    rowEntries (setRow id classId q (withRow rows id classId)) =
      setEntry (id, classId) q (rowEntries rows) := by
  cases hrow : rowOf rows id classId with
  | some row =>
    have hsame : withRow rows id classId = rows := by rw [withRow, hrow]
    rw [hsame]
    exact rowEntries_setRow hrow q
  | none =>
    have hnew : rowOf (withRow rows id classId) id classId = some ⟨id, classId, 0⟩ := by
      rw [withRow, hrow]
      unfold rowOf at hrow ⊢
      rw [List.find?_append, hrow]
      simp
    rw [rowEntries_setRow hnew, rowEntries_withRow hrow, setEntry_setEntry]

theorem heldIn_withRow (rows : List HoldingQty) (id classId : String) :
    heldIn (withRow rows id classId) (id, classId) = heldIn rows (id, classId) := by
  cases hrow : rowOf rows id classId with
  | some row => rw [withRow, hrow]
  | none =>
    unfold heldIn
    rw [rowEntries_withRow hrow, lookupEntry_setEntry_self, lookupEntry_rowEntries, hrow]
    rfl

theorem heldIn_nonneg (h : ∀ row ∈ rows, 0 ≤ row.quantity) : 0 ≤ heldIn rows (id, classId) := by
  rw [heldIn, lookupEntry_rowEntries]
  cases hrow : rowOf rows id classId with
  | none => exact le_rfl
  | some row => exact h row (List.mem_of_find?_eq_some hrow)

/-- No row with less than nothing comes in by the two edits. -/
theorem setRow_nonneg (h : ∀ row ∈ rows, 0 ≤ row.quantity) {q : Numeric 4} (hq : 0 ≤ q) :
    ∀ row ∈ setRow id classId q rows, 0 ≤ row.quantity := by
  induction rows with
  | nil => exact h
  | cons first rest ih =>
    obtain ⟨hfirst, hrest⟩ := List.forall_mem_cons.mp h
    rw [setRow]
    split
    · exact List.forall_mem_cons.mpr ⟨hq, hrest⟩
    · exact List.forall_mem_cons.mpr ⟨hfirst, ih hrest⟩

theorem withRow_nonneg (h : ∀ row ∈ rows, 0 ≤ row.quantity) :
    ∀ row ∈ withRow rows id classId, 0 ≤ row.quantity := by
  unfold withRow
  split
  · exact h
  · exact List.forall_mem_append.mpr ⟨h, List.forall_mem_singleton.mpr le_rfl⟩

end Rows

/-! ## What a transfer does -/

section

variable {rows : List HoldingQty} {classId giver receiver : String} {n : ℕ}

/-- The quantity of a transfer of whole shares. -/
def wholeShares (n : ℕ) : Numeric 4 := Numeric.ofRat n

theorem wholeShares_toRat (n : ℕ) : (wholeShares n).toRat = n := by
  have h : ((n : ℚ) * 10 ^ 4) = ((n * 10 ^ 4 : ℤ) : ℚ) := by push_cast; ring
  unfold wholeShares Numeric.ofRat Numeric.toRat
  rw [h, Numeric.roundHalfAway_intCast]
  push_cast
  exact mul_div_cancel_right₀ _ (by norm_num)

theorem wholeShares_pos (hn : 0 < n) : 0 < wholeShares n := by
  rw [← Numeric.toRat_pos_iff, wholeShares_toRat]
  exact_mod_cast hn

theorem assertPositiveQuantity_whole (hn : 0 < n) :
    assertPositiveQuantity n = .ok (wholeShares n) := by
  unfold assertPositiveQuantity require
  rw [if_pos (by exact_mod_cast hn)]
  simp only [Int.floor_natCast, Int.cast_natCast, if_true]
  rfl

/-- A transfer between two holders, once the checks of the quantity have passed. -/
theorem transferResult_eq (hne : giver ≠ receiver) (hn : 0 < n)
    (hrows : ∀ row ∈ rows, 0 ≤ row.quantity) :
    transferResult rows classId giver receiver n = (do
      require (wholeShares n ≤ heldIn rows (giver, classId)) .OWNERSHIP_INSUFFICIENT_SHARES
      let lowered := setRow giver classId (heldIn rows (giver, classId) - wholeShares n) rows
      let next := withRow lowered receiver classId
      let held ← quantityOf (rowOf next receiver classId)
      keepPositive (setRow receiver classId (held + wholeShares n) next)) := by
  unfold transferResult
  rw [assertPositiveQuantity_whole hn, quantityOf_rowOf hrows]
  change (require _ _ >>= fun _ => qty _ >>= _) = _
  rw [qty_toRat (wholeShares_pos hn).le, require, if_pos hne]
  rfl

/-- What a holder gains by a transfer. -/
def gainedBy (classId giver receiver : String) (n : ℕ) (key : String × String) : Numeric 4 :=
  (if key = (receiver, classId) then wholeShares n else 0) -
    if key = (giver, classId) then wholeShares n else 0

theorem transferResult_short (hne : giver ≠ receiver) (hn : 0 < n)
    (hrows : ∀ row ∈ rows, 0 ≤ row.quantity)
    (hshort : heldIn rows (giver, classId) < wholeShares n) :
    transferResult rows classId giver receiver n = .error .OWNERSHIP_INSUFFICIENT_SHARES := by
  rw [transferResult_eq hne hn hrows, require, if_neg (not_le.mpr hshort)]
  rfl

theorem covered_of_ok (hne : giver ≠ receiver) (hn : 0 < n) (hrows : ∀ row ∈ rows, 0 < row.quantity)
    {next : List HoldingQty} (h : transferResult rows classId giver receiver n = .ok next) :
    wholeShares n ≤ heldIn rows (giver, classId) := by
  by_contra hshort
  rw [transferResult_short hne hn (fun row hrow => (hrows row hrow).le) (not_le.mp hshort)] at h
  cases h

/-- Every row of the result is what was held with what was gained. -/
theorem transferResult_ok (hne : giver ≠ receiver) (hn : 0 < n)
    (hrows : ∀ row ∈ rows, 0 < row.quantity) (hnodup : ((rowEntries rows).map Prod.fst).Nodup)
    (hcovered : wholeShares n ≤ heldIn rows (giver, classId)) :
    ∃ next, transferResult rows classId giver receiver n = .ok next ∧
      ((rowEntries next).map Prod.fst).Nodup ∧
      ∀ row, row ∈ next ↔ 0 < row.quantity ∧ row.quantity =
        heldIn rows (row.shareholderId, row.shareClassId) +
          gainedBy classId giver receiver n (row.shareholderId, row.shareClassId) := by
  have hgiver : (giver, classId) ≠ (receiver, classId) := fun h => hne (congrArg Prod.fst h)
  obtain ⟨row, hrow⟩ := rowOf_of_heldIn ((wholeShares_pos hn).trans_le hcovered).ne'
  let lowered := setRow giver classId (heldIn rows (giver, classId) - wholeShares n) rows
  have hlowered : rowEntries lowered = _ := rowEntries_setRow hrow _
  have hleft : ∀ r ∈ withRow lowered receiver classId, 0 ≤ r.quantity :=
    withRow_nonneg (setRow_nonneg (fun r hr => (hrows r hr).le) (sub_nonneg.mpr hcovered))
  have hreceiver : heldIn (withRow lowered receiver classId) (receiver, classId) =
      heldIn rows (receiver, classId) := by
    rw [heldIn_withRow, heldIn_setEntry hlowered, if_neg hgiver.symm]
  let raised := setRow receiver classId (heldIn rows (receiver, classId) + wholeShares n)
    (withRow lowered receiver classId)
  have hraised : rowEntries raised = setEntry _ _ (rowEntries lowered) :=
    rowEntries_raise lowered receiver classId _
  have hreceiverNonneg : 0 ≤ heldIn rows (receiver, classId) :=
    heldIn_nonneg fun r hr => (hrows r hr).le
  have hraisedNonneg : ∀ r ∈ raised, 0 ≤ r.quantity :=
    setRow_nonneg hleft (add_nonneg hreceiverNonneg (wholeShares_pos hn).le)
  have hraisedNodup : ((rowEntries raised).map Prod.fst).Nodup := by
    rw [hraised, hlowered]
    exact nodup_keys_setEntry (nodup_keys_setEntry hnodup)
  refine ⟨raised.filter fun row => decide (0 < row.quantity), ?_, ?_, fun row => ?_⟩
  · rw [transferResult_eq hne hn fun r hr => (hrows r hr).le, require, if_pos hcovered]
    change (quantityOf (rowOf (withRow lowered receiver classId) receiver classId) >>= _) = _
    rw [quantityOf_rowOf hleft, hreceiver]
    exact keepPositive_eq hraisedNonneg
  · exact hraisedNodup.sublist ((List.filter_sublist.map _).map _)
  · rw [List.mem_filter, decide_eq_true_eq, mem_iff_heldIn hraisedNodup, heldIn_setEntry hraised,
      heldIn_setEntry hlowered]
    refine and_congr_right fun _ => ?_
    unfold gainedBy
    by_cases hto : (row.shareholderId, row.shareClassId) = (receiver, classId)
    · have hother : (row.shareholderId, row.shareClassId) ≠ (giver, classId) := hto ▸ hgiver.symm
      rw [if_pos hto, if_pos hto, if_neg hother, sub_zero, hto]
    · rw [if_neg hto, if_neg hto, zero_sub]
      split
      · rename_i hfrom
        rw [hfrom, sub_eq_add_neg]
      · rw [neg_zero, add_zero]

end

/-! ## The register counted again -/

section

variable {events : List ShareEvent} {classId giver receiver : String} {n : ℕ} {date : ℤ}

/-- The event a transfer of whole shares is recorded by. -/
def transferEvent (classId giver receiver : String) (n : ℕ) (hn : 0 < n) (date : ℤ) :
    ShareEvent where
  eventType := .TRANSFER
  shareClassId := classId
  fromShareholderId := some giver
  toShareholderId := some receiver
  quantity := wholeShares n
  effectiveDate := date
  quantity_pos := wholeShares_pos hn

theorem sharesMoved_transferEvent (hn : 0 < n) (id c : String) :
    sharesMoved id c (transferEvent classId giver receiver n hn date) =
      gainedBy classId giver receiver n (id, c) := by
  simp only [sharesMoved, transferEvent, gainedBy, Prod.mk.injEq, ne_eq, reduceCtorEq,
    not_false_eq_true, true_and, Option.some.injEq, eq_comm]

/-- An event on or after the last day comes last. -/
theorem inDateOrder_append {event : ShareEvent}
    (hlast : ∀ e ∈ events, e.effectiveDate ≤ event.effectiveDate) :
    inDateOrder (events ++ [event]) = inDateOrder events ++ [event] := by
  have hinsert : ∀ (first : ShareEvent) (l : List ShareEvent),
      first.effectiveDate ≤ event.effectiveDate →
      (l ++ [event]).orderedInsert (fun a b => a.effectiveDate ≤ b.effectiveDate) first =
        l.orderedInsert (fun a b => a.effectiveDate ≤ b.effectiveDate) first ++ [event] := by
    intro first l hfirst
    induction l with
    | nil => simp [hfirst]
    | cons e rest ih =>
      rw [List.cons_append, List.orderedInsert_cons, List.orderedInsert_cons]
      split
      · rfl
      · rw [ih, List.cons_append]
  unfold inDateOrder
  induction events with
  | nil => rfl
  | cons first rest ih =>
    obtain ⟨hfirst, hrest⟩ := List.forall_mem_cons.mp hlast
    rw [List.cons_append, List.insertionSort_cons, ih hrest, hinsert first _ hfirst,
      List.insertionSort_cons]

/-- A history stays sound under an event that leaves every holder with nothing less than
nothing. -/
theorem SoundHistory.append {event : ShareEvent} (hsound : SoundHistory events)
    (hevent : NamesParties event)
    (hlast : ∀ e ∈ events, e.effectiveDate ≤ event.effectiveDate)
    (hcovered : ∀ id c, 0 ≤ position (events ++ [event]) id c) :
    SoundHistory (events ++ [event]) where
  parties := List.forall_mem_append.mpr ⟨hsound.parties, List.forall_mem_singleton.mpr hevent⟩
  covered := by
    intro past hpast id c
    have hperm : (inDateOrder (events ++ [event])).Perm (events ++ [event]) :=
      List.perm_insertionSort _ _
    rw [inDateOrder_append hlast] at hpast hperm
    rcases List.prefix_concat_iff.mp hpast with rfl | hbefore
    · rw [position_perm hperm]
      exact hcovered id c
    · exact hsound.covered past hbefore id c

theorem rowEntries_nodup {asOf : ℤ} {shareClassId : Option String} :
    ((rowEntries (holdingsFromEvents events asOf shareClassId)).map Prod.fst).Nodup := by
  rw [rowEntries, List.map_map]
  exact rows_nodup

/-- The rows of the register say what the events leave a holder. -/
theorem heldIn_holdingsFromEvents (hsound : SoundHistory events) {asOf : ℤ}
    {shareClassId : Option String} (id c : String) :
    heldIn (holdingsFromEvents events asOf shareClassId) (id, c) =
      position (orderedEvents events asOf shareClassId) id c := by
  have hnonneg : 0 ≤ position (orderedEvents events asOf shareClassId) id c :=
    position_nonneg hsound id c
  rcases hnonneg.eq_or_lt with hzero | hpos
  · have hheld : 0 ≤ heldIn (holdingsFromEvents events asOf shareClassId) (id, c) :=
      heldIn_nonneg fun row hrow => (quantity_pos_of_mem hrow).le
    rcases hheld.eq_or_lt with hnone | hsome
    · rw [← hnone, ← hzero]
    · -- A row with something in it would say that the events left something.
      have hrow := ((mem_iff_heldIn rowEntries_nodup ⟨id, c, _⟩).mpr ⟨hsome, rfl⟩).1
      exact ((mem_holdingsFromEvents hsound.parties _).mp hrow).2
  · have hrow : (⟨id, c, _⟩ : HoldingQty) ∈ holdingsFromEvents events asOf shareClassId :=
      (mem_holdingsFromEvents hsound.parties _).mpr ⟨hpos, rfl⟩
    exact (((mem_iff_heldIn rowEntries_nodup _).mp ⟨hrow, hpos⟩).2).symm

end

/-- The same rows, each holder of a class once. -/
structure SameHoldings (rows rows' : List HoldingQty) : Prop where
  once : (rows.map fun row => (row.shareholderId, row.shareClassId)).Nodup
  perm : rows.Perm rows'

/-- Between two holders a transfer on the register succeeds exactly when the event leaves the giver
with no less than nothing, and then gives the register of the events with it; the shares of a class
are those issued less those cancelled, whatever the day. -/
theorem transfer_agrees {events : List ShareEvent} (hsound : SoundHistory events)
    {classId giver receiver : String} (hclassId : PlainId classId) (hgiver : PlainId giver)
    (hreceiver : PlainId receiver) (hne : giver ≠ receiver) {n : ℕ} (hn : 0 < n) {date asOf : ℤ}
    (hlast : ∀ e ∈ events, e.effectiveDate ≤ date) (hasOf : date ≤ asOf)
    {shareClassId : Option String} (hscope : ∀ c, shareClassId = some c → c = "" ∨ c = classId) :
    let extended := events ++ [transferEvent classId giver receiver n hn date]
    let held := registerFromEvents events asOf shareClassId
    ((∃ rows, transferResult held classId giver receiver n = .ok rows) ↔
        0 ≤ position extended giver classId) ∧
      (∀ rows, transferResult held classId giver receiver n = .ok rows → SoundHistory extended ∧
        SameHoldings rows (registerFromEvents extended asOf shareClassId)) ∧
      ∀ day c, classTotal (registerFromEvents events day none) c =
        issued (events.filter fun e => decide (e.effectiveDate ≤ day)) c -
          cancelled (events.filter fun e => decide (e.effectiveDate ≤ day)) c := by
  intro extended held
  have hclass : inClass (shareClassId.filter fun c => c ≠ "") classId = true := by
    cases shareClassId with
    | none => rfl
    | some c =>
      rcases hscope c rfl with rfl | rfl
      · rfl
      · rw [Option.filter_some, if_pos (by simpa using hclassId.1)]
        exact decide_eq_true rfl
  have hevent : NamesParties (transferEvent classId giver receiver n hn date) :=
    ⟨hclassId, fun _ => ⟨receiver, rfl, hreceiver⟩, fun _ => ⟨giver, rfl, hgiver⟩⟩
  have hparties : ∀ e ∈ extended, NamesParties e :=
    List.forall_mem_append.mpr ⟨hsound.parties, List.forall_mem_singleton.mpr hevent⟩
  have hmoved : ∀ id c, position extended id c =
      position events id c + gainedBy classId giver receiver n (id, c) := by
    intro id c
    rw [position_append_singleton, sharesMoved_transferEvent]
  have hall : (events.filter fun e => decide (e.effectiveDate ≤ asOf)) = events :=
    List.filter_eq_self.mpr fun e he => decide_eq_true ((hlast e he).trans hasOf)
  have hallExtended : (extended.filter fun e => decide (e.effectiveDate ≤ asOf)) = extended := by
    rw [List.filter_append, hall]
    exact congrArg (events ++ ·) (List.filter_eq_self.mpr fun e he => by
      rw [List.mem_singleton.mp he]
      exact decide_eq_true hasOf)
  have hheld : held = holdingsFromEvents events asOf (shareClassId.filter fun c => c ≠ "") :=
    registerFromEvents_eq hsound.parties
  have hrows : ∀ row ∈ held, 0 < row.quantity := by
    rw [hheld]
    exact fun row hrow => quantity_pos_of_mem hrow
  have hnodup : ((rowEntries held).map Prod.fst).Nodup := by
    rw [hheld]
    exact rowEntries_nodup
  have hheldIn : ∀ id c, heldIn held (id, c) =
      position (orderedEvents events asOf (shareClassId.filter fun c => c ≠ "")) id c := by
    intro id c
    rw [hheld]
    exact heldIn_holdingsFromEvents hsound id c
  have hheldClass : ∀ id, heldIn held (id, classId) = position events id classId := by
    intro id
    rw [hheldIn, position_ordered hclass, hall]
  -- The new event adds the same to the holders that are looked at and to those that are not.
  have hextended : ∀ id c,
      position (orderedEvents extended asOf (shareClassId.filter fun c => c ≠ "")) id c =
        heldIn held (id, c) + gainedBy classId giver receiver n (id, c) := by
    intro id c
    rw [hheldIn]
    cases hin : inClass (shareClassId.filter fun c => c ≠ "") c with
    | true => rw [position_ordered hin, position_ordered hin, hall, hallExtended, hmoved]
    | false =>
      have hother : c ≠ classId := fun h => by
        rw [h, hclass] at hin
        cases hin
      rw [position_other hin, position_other hin]
      simp [gainedBy, hother]
  have hcovered : wholeShares n ≤ heldIn held (giver, classId) ↔
      0 ≤ position extended giver classId := by
    rw [hmoved, hheldClass, gainedBy, if_neg fun h => hne (congrArg Prod.fst h), if_pos rfl, zero_sub,
      ← sub_eq_add_neg, sub_nonneg]
  have hok : wholeShares n ≤ heldIn held (giver, classId) → ∃ rows,
      transferResult held classId giver receiver n = .ok rows ∧
        SameHoldings rows (registerFromEvents extended asOf shareClassId) := by
    intro hle
    obtain ⟨next, hnext, hnextNodup, hmem⟩ := transferResult_ok hne hn hrows hnodup hle
    have honce : (next.map fun row => (row.shareholderId, row.shareClassId)).Nodup := by
      rwa [rowEntries, List.map_map] at hnextNodup
    refine ⟨next, hnext, honce, ?_⟩
    rw [registerFromEvents_eq hparties]
    refine (List.perm_ext_iff_of_nodup honce.of_map rows_nodup.of_map).mpr fun row => ?_
    rw [hmem, mem_holdingsFromEvents hparties, hextended]
  have hpositions : ∀ id c, 0 ≤ position events id c := by
    intro id c
    rw [← position_perm (List.perm_insertionSort (fun a b => a.effectiveDate ≤ b.effectiveDate) events)]
    exact hsound.covered _ List.prefix_rfl id c
  refine ⟨⟨?_, ?_⟩, ?_, ?_⟩
  · rintro ⟨rows, hrowsOk⟩
    exact hcovered.mp (covered_of_ok hne hn hrows hrowsOk)
  · intro h
    obtain ⟨rows, hrowsOk, -⟩ := hok (hcovered.mpr h)
    exact ⟨rows, hrowsOk⟩
  · intro rows hrowsOk
    have hle := covered_of_ok hne hn hrows hrowsOk
    obtain ⟨next, hnext, hsame⟩ := hok hle
    rw [hnext] at hrowsOk
    cases hrowsOk
    refine ⟨hsound.append hevent hlast fun id c => ?_, hsame⟩
    by_cases hkey : (id, c) = (giver, classId)
    · cases hkey
      exact hcovered.mp hle
    · change 0 ≤ position extended id c
      rw [hmoved, gainedBy, if_neg hkey, sub_zero]
      refine add_nonneg (hpositions id c) ?_
      split
      · exact (wholeShares_pos hn).le
      · exact le_rfl
  · intro day c
    rw [registerFromEvents_eq hsound.parties]
    exact classTotal_eq hsound rfl

/-- An issue of a hundred shares of a class. -/
def hundredShares (classId : String) (holder : Option String) : ShareEvent where
  eventType := .ISSUE
  shareClassId := classId
  fromShareholderId := none
  toShareholderId := holder
  quantity := ⟨1000000⟩
  effectiveDate := 1
  quantity_pos := by decide

theorem soundHistory_hundredShares : SoundHistory [hundredShares "ordinary" (some "A")] where
  parties := List.forall_mem_singleton.mpr
    ⟨by decide +kernel, fun _ => ⟨"A", rfl, by decide +kernel⟩, fun h => absurd rfl h⟩
  covered := neverOverdrawn_issue rfl

/-- Forty of A's hundred shares go to B. -/
theorem transfer_agrees_forty :
    (SoundHistory [hundredShares "ordinary" (some "A")] ∧ PlainId "ordinary" ∧ PlainId "A" ∧
      PlainId "B" ∧ "A" ≠ "B" ∧ 0 < 40) ∧
    let extended := [hundredShares "ordinary" (some "A")] ++
      [transferEvent "ordinary" "A" "B" 40 (by decide) 2]
    let held := registerFromEvents [hundredShares "ordinary" (some "A")] 3 none
    ((∃ rows, transferResult held "ordinary" "A" "B" (40 : ℕ) = .ok rows) ↔
        0 ≤ position extended "A" "ordinary") ∧
      (∀ rows, transferResult held "ordinary" "A" "B" (40 : ℕ) = .ok rows → SoundHistory extended ∧
        SameHoldings rows (registerFromEvents extended 3 none)) ∧
      ∀ day c, classTotal (registerFromEvents [hundredShares "ordinary" (some "A")] day none) c =
        issued ([hundredShares "ordinary" (some "A")].filter fun e => decide (e.effectiveDate ≤ day)) c -
          cancelled ([hundredShares "ordinary" (some "A")].filter
            fun e => decide (e.effectiveDate ≤ day)) c := by
  have hordinary : PlainId "ordinary" := by decide +kernel
  have hA : PlainId "A" := by decide +kernel
  have hB : PlainId "B" := by decide +kernel
  refine ⟨⟨soundHistory_hundredShares, hordinary, hA, hB, by decide, by decide⟩, ?_⟩
  refine transfer_agrees soundHistory_hundredShares hordinary hA hB (by decide) (by decide)
    (List.forall_mem_singleton.mpr (by decide)) (by decide) ?_
  intro c hc
  cases hc

/-- A transfer of ten shares. -/
def tenShares (giver receiver : String) : ShareEvent :=
  transferEvent "ordinary" giver receiver 10 (by decide) 2

/-- A transfer to oneself is refused, though it takes nothing away; of a holder whose id has a bar
in it the rows know nothing; shares issued to nobody are in no row. -/
theorem transfer_disagrees :
    (NeverOverdrawn [hundredShares "ordinary" (some "A")] ∧
      transferResult (registerFromEvents [hundredShares "ordinary" (some "A")] 2 none)
        "ordinary" "A" "A" 10 = .error .OWNERSHIP_TRANSFER_SAME_HOLDER ∧
      0 ≤ position [hundredShares "ordinary" (some "A"), tenShares "A" "A"] "A" "ordinary") ∧
    (NeverOverdrawn [hundredShares "ordinary" (some "A|1")] ∧
      transferResult (registerFromEvents [hundredShares "ordinary" (some "A|1")] 2 none)
        "ordinary" "A|1" "B" 10 = .error .OWNERSHIP_INSUFFICIENT_SHARES ∧
      0 ≤ position [hundredShares "ordinary" (some "A|1"), tenShares "A|1" "B"] "A|1" "ordinary") ∧
    (∀ holder ∈ [none, some ""], NeverOverdrawn [hundredShares "ordinary" holder] ∧
      classTotal (registerFromEvents [hundredShares "ordinary" holder] 2 none) "ordinary" = 0 ∧
      issued [hundredShares "ordinary" holder] "ordinary" -
        cancelled [hundredShares "ordinary" holder] "ordinary" = ⟨1000000⟩) := by
  refine ⟨⟨neverOverdrawn_issue rfl, by decide +kernel, by decide +kernel⟩,
    ⟨neverOverdrawn_issue rfl, by decide +kernel, by decide +kernel⟩, ?_⟩
  intro holder _
  refine ⟨neverOverdrawn_issue rfl, ?_⟩
  revert holder
  decide +kernel

end SmartErpPos.Ownership
