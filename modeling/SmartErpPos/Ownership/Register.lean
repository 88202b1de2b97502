/-
  Ownership/Register.lean --- the share register, as the source keeps it.

  Source: `src/shared/domain/ownershipEquity.ts` (`holdingsFromEvents`);
  `share_ledger_events` of migration 636, whose ids are UUIDs.

  The source keys its map by holder and class in one text, with a bar between, and takes the
  key apart again for the rows.  As long as the ids have no bar in them this is the register
  keyed by pairs.

  What a holder has is the sum of what the events moved to and from the holder, whatever the
  order; the rows of the register are the holders of which this is more than nothing.
-/
import Mathlib.Tactic.Abel
import SmartErpPos.Lib.KeyedSum
import SmartErpPos.Ownership.Dividends

set_option autoImplicit false

namespace SmartErpPos.Ownership

open SmartErpPos.Lib

/-! ## Keys in one text -/

/-- `${shareholderId}|${classId}`. -/
def shareKey (shareholderId classId : String) : String := shareholderId ++ "|" ++ classId

/-- The first two parts of `key.split('|')`. -/
def splitShareKey (key : String) : String × String :=
  let parts := key.toList.splitOn '|'
  (String.ofList (parts.getD 0 []), String.ofList (parts.getD 1 []))

/-- An id with something in it and no bar. -/
def PlainId (id : String) : Prop := id ≠ "" ∧ '|' ∉ id.toList

instance (id : String) : Decidable (PlainId id) := inferInstanceAs (Decidable (_ ∧ _))

theorem splitShareKey_shareKey {shareholderId classId : String} (hholder : PlainId shareholderId)
    (hclass : PlainId classId) : splitShareKey (shareKey shareholderId classId) = (shareholderId, classId) := by
  have hparts : (shareKey shareholderId classId).toList.splitOn '|' =
      [shareholderId.toList, classId.toList] := by
    have htext : (shareKey shareholderId classId).toList =
        ['|'].intercalate [shareholderId.toList, classId.toList] := by
      simp [shareKey, List.intercalate]
    rw [htext]
    refine List.splitOn_intercalate '|' (fun l hl => ?_) (by simp)
    rcases List.mem_pair.mp hl with rfl | rfl
    · exact hholder.2
    · exact hclass.2
  simp only [splitShareKey, hparts, List.getD_cons_zero, List.getD_cons_succ, String.ofList_toList]

/-- What is held, by the text of the key. -/
abbrev TextCount := OrderedMap String (Numeric 4)

/-- `add`. -/
def addToText (count : TextCount) (shareholderId : Option String) (classId : String)
    (delta : Numeric 4) : TextCount :=
  match shareholderId.filter fun id => id ≠ "" with
  | none => count
  | some id =>
    count.set (shareKey id classId) ((count.get? (shareKey id classId)).getD 0 + delta)

/-- The loop over the events. -/
def applyToText (count : TextCount) (event : ShareEvent) : TextCount :=
  match event.eventType with
  | .ISSUE => addToText count event.toShareholderId event.shareClassId event.quantity
  | .TRANSFER =>
    addToText (addToText count event.fromShareholderId event.shareClassId (-event.quantity))
      event.toShareholderId event.shareClassId event.quantity
  | .CANCEL => addToText count event.fromShareholderId event.shareClassId (-event.quantity)

/-- The map after the events. -/
def textCount (events : List ShareEvent) (asOf : ℤ) (shareClassId : Option String) : TextCount :=
  (orderedEvents events asOf (shareClassId.filter fun c => c ≠ "")).foldl applyToText .empty

/-- `holdingsFromEvents`, with the keys of the source. -/
def registerFromEvents (events : List ShareEvent) (asOf : ℤ) (shareClassId : Option String) :
    List HoldingQty :=
  let count := textCount events asOf shareClassId
  let rows := (count.entries.filter fun e => decide (0 < e.2)).map fun e =>
    ⟨(splitShareKey e.1).1, (splitShareKey e.1).2, e.2⟩
  rows.insertionSort fun a b => a.shareholderId ≤ b.shareholderId

/-! ## Events that name their parties -/

/-- An issue names who receives the shares, a cancellation whose they were and a transfer both,
by plain ids. -/
structure NamesParties (event : ShareEvent) : Prop where
  shareClass : PlainId event.shareClassId
  receiver : event.eventType ≠ .CANCEL → ∃ id, event.toShareholderId = some id ∧ PlainId id
  sender : event.eventType ≠ .ISSUE → ∃ id, event.fromShareholderId = some id ∧ PlainId id

/-- Every key is of plain ids. -/
def PlainKeys (count : ShareCount) : Prop := ∀ key ∈ count.keys, PlainId key.1 ∧ PlainId key.2

/-- The map with the keys written out. -/
def Written (text : TextCount) (count : ShareCount) : Prop :=
  text.entries = count.entries.map fun e => (shareKey e.1.1 e.1.2, e.2)

theorem plainKeys_empty : PlainKeys .empty := fun _ hkey => (List.not_mem_nil hkey).elim

theorem written_empty : Written .empty .empty := rfl

section Step

variable {count : ShareCount} {text : TextCount} {id classId : String} {delta : Numeric 4}

theorem addShares_some (hid : PlainId id) : addShares count (some id) classId delta =
    count.set (id, classId) ((count.get? (id, classId)).getD 0 + delta) := by
  unfold addShares
  rw [Option.filter_some, if_pos (by simpa using hid.1)]

theorem addShares_plain (hcount : PlainKeys count) (hid : PlainId id) (hclass : PlainId classId) :
    PlainKeys (addShares count (some id) classId delta) := by
  rw [addShares_some hid]
  intro key hkey
  rcases mem_keys_setEntry.mp hkey with rfl | hold
  · exact ⟨hid, hclass⟩
  · exact hcount key hold

theorem shareKey_inj {id' classId' : String} (hid : PlainId id) (hclass : PlainId classId)
    (hid' : PlainId id') (hclass' : PlainId classId')
    (h : shareKey id' classId' = shareKey id classId) : (id', classId') = (id, classId) := by
  rw [← splitShareKey_shareKey hid' hclass', h, splitShareKey_shareKey hid hclass]

theorem addToText_written (h : Written text count) (hcount : PlainKeys count) (hid : PlainId id)
    (hclass : PlainId classId) :
    Written (addToText text (some id) classId delta) (addShares count (some id) classId delta) := by
  have hinj : ∀ key ∈ count.entries.map Prod.fst, shareKey key.1 key.2 = shareKey id classId →
      key = (id, classId) := fun key hkey heq =>
    shareKey_inj hid hclass (hcount key hkey).1 (hcount key hkey).2 heq
  have hget : text.get? (shareKey id classId) = count.get? (id, classId) := by
    unfold OrderedMap.get?
    rw [show text.entries = _ from h]
    exact lookupEntry_map (f := fun key : String × String => shareKey key.1 key.2)
      (k := (id, classId)) hinj
  rw [addShares_some hid]
  unfold addToText Written
  rw [Option.filter_some, if_pos (by simpa using hid.1)]
  dsimp only
  rw [hget]
  change setEntry _ _ text.entries = (setEntry _ _ count.entries).map _
  rw [show text.entries = _ from h]
  exact setEntry_map (f := fun key : String × String => shareKey key.1 key.2)
    (k := (id, classId)) hinj _

/-- One event does the same to both maps. -/
theorem applyToText_written {event : ShareEvent} (hevent : NamesParties event)
    (hcount : PlainKeys count) (h : Written text count) :
    PlainKeys (applyEvent count event) ∧
      Written (applyToText text event) (applyEvent count event) := by
  have hclass := hevent.shareClass
  unfold applyEvent applyToText
  cases htype : event.eventType with
  | ISSUE =>
    obtain ⟨id, hto, hid⟩ := hevent.receiver (by simp [htype])
    rw [hto]
    exact ⟨addShares_plain hcount hid hclass, addToText_written h hcount hid hclass⟩
  | TRANSFER =>
    obtain ⟨id, hto, hid⟩ := hevent.receiver (by simp [htype])
    obtain ⟨giver, hfrom, hgiver⟩ := hevent.sender (by simp [htype])
    rw [hto, hfrom]
    have hplain : PlainKeys (addShares count (some giver) event.shareClassId (-event.quantity)) :=
      addShares_plain hcount hgiver hclass
    have hwritten : Written (addToText text (some giver) event.shareClassId (-event.quantity)) _ :=
      addToText_written h hcount hgiver hclass
    exact ⟨addShares_plain hplain hid hclass, addToText_written hwritten hplain hid hclass⟩
  | CANCEL =>
    obtain ⟨giver, hfrom, hgiver⟩ := hevent.sender (by simp [htype])
    rw [hfrom]
    exact ⟨addShares_plain hcount hgiver hclass, addToText_written h hcount hgiver hclass⟩

theorem foldl_applyToText_written {events : List ShareEvent}
    (hevents : ∀ e ∈ events, NamesParties e) (hcount : PlainKeys count) (h : Written text count) :
    PlainKeys (events.foldl applyEvent count) ∧
      Written (events.foldl applyToText text) (events.foldl applyEvent count) := by
  induction events generalizing text count with
  | nil => exact ⟨hcount, h⟩
  | cons event rest ih =>
    obtain ⟨hevent, hrest⟩ := List.forall_mem_cons.mp hevents
    obtain ⟨hplain, hwritten⟩ := applyToText_written hevent hcount h
    exact ih hrest hplain hwritten

end Step

section

variable {events : List ShareEvent} {asOf : ℤ} {shareClassId : Option String}

theorem namesParties_ordered (hevents : ∀ e ∈ events, NamesParties e) :
    ∀ e ∈ orderedEvents events asOf shareClassId, NamesParties e :=
  fun e he => hevents e (mem_orderedEvents he).1

/-- With plain ids the register of the source is the register keyed by pairs. -/
theorem registerFromEvents_eq (hevents : ∀ e ∈ events, NamesParties e) :
    registerFromEvents events asOf shareClassId =
      holdingsFromEvents events asOf (shareClassId.filter fun c => c ≠ "") := by
  have hordered : ∀ e ∈ orderedEvents events asOf (shareClassId.filter fun c => c ≠ ""),
      NamesParties e := namesParties_ordered hevents
  obtain ⟨hplain, hwritten⟩ :=
    foldl_applyToText_written hordered plainKeys_empty written_empty
  unfold registerFromEvents holdingsFromEvents textCount shareCount
  dsimp only
  rw [show (List.foldl _ _ _ : TextCount).entries = _ from hwritten, List.filter_map, List.map_map]
  congr 1
  refine List.map_congr_left fun e he => ?_
  have hkey := hplain e.1 (List.mem_map_of_mem (List.mem_of_mem_filter he))
  simp only [Function.comp_apply, splitShareKey_shareKey hkey.1 hkey.2]

end

/-! ## What a holder has -/

/-- The shares an event brings to a holder of a class, less those it takes away. -/
def sharesMoved (id classId : String) (event : ShareEvent) : Numeric 4 :=
  (if event.eventType ≠ .CANCEL ∧ event.toShareholderId = some id ∧ event.shareClassId = classId then
    event.quantity else 0) -
  if event.eventType ≠ .ISSUE ∧ event.fromShareholderId = some id ∧ event.shareClassId = classId then
    event.quantity else 0

/-- What the events leave a holder. -/
def position (events : List ShareEvent) (id classId : String) : Numeric 4 :=
  (events.map (sharesMoved id classId)).sum

/-- The shares of a class issued, and cancelled. -/
def issued (events : List ShareEvent) (classId : String) : Numeric 4 :=
  ((events.filter fun e => e.eventType = .ISSUE ∧ e.shareClassId = classId).map (·.quantity)).sum

def cancelled (events : List ShareEvent) (classId : String) : Numeric 4 :=
  ((events.filter fun e => e.eventType = .CANCEL ∧ e.shareClassId = classId).map (·.quantity)).sum

theorem position_perm {events events' : List ShareEvent} (h : events.Perm events')
    (id classId : String) : position events id classId = position events' id classId :=
  (h.map _).sum_eq

theorem position_append_singleton (events : List ShareEvent) (event : ShareEvent)
    (id classId : String) :
    position (events ++ [event]) id classId = position events id classId + sharesMoved id classId event := by
  simp [position]

/-- The number under a key of the map, and the number of a class. -/
def sharesAt (count : ShareCount) (key : String × String) : Numeric 4 := (count.get? key).getD 0

def sharesOf (count : ShareCount) (classId : String) : Numeric 4 :=
  count.sumWhere (fun key => key.2 = classId) fun q => q

section Step

variable {count : ShareCount} {id classId : String} {delta : Numeric 4}

/-- The number under a key. -/
theorem sharesAt_addShares (hid : PlainId id) (key : String × String) :
    sharesAt (addShares count (some id) classId delta) key =
      sharesAt count key + if (id, classId) = key then delta else 0 := by
  rw [addShares_some hid]
  unfold sharesAt
  rw [OrderedMap.get?_set]
  by_cases hkey : key = (id, classId)
  · rw [if_pos hkey, if_pos hkey.symm, hkey, Option.getD_some]
  · rw [if_neg hkey, if_neg (Ne.symm hkey), add_zero]

/-- The shares of a class, over all holders. -/
theorem sharesOf_addShares (hid : PlainId id) (c : String) :
    sharesOf (addShares count (some id) classId delta) c =
      sharesOf count c + if classId = c then delta else 0 := by
  have hold : count.valueAt (fun q => q) (id, classId) = (count.get? (id, classId)).getD 0 := by
    cases hget : count.get? (id, classId) with
    | none => exact OrderedMap.valueAt_of_get?_none hget
    | some q => exact OrderedMap.valueAt_of_get? hget
  rw [addShares_some hid]
  unfold sharesOf
  rw [OrderedMap.sumWhere_set, hold, add_sub_cancel_left]
  simp only [decide_eq_true_eq]

end Step

section

variable {count : ShareCount} {event : ShareEvent}

theorem sharesAt_applyEvent (hevent : NamesParties event) (id classId : String) :
    sharesAt (applyEvent count event) (id, classId) =
      sharesAt count (id, classId) + sharesMoved id classId event := by
  unfold applyEvent sharesMoved
  cases htype : event.eventType with
  | ISSUE =>
    obtain ⟨to', hto, hplain⟩ := hevent.receiver (by simp [htype])
    rw [hto]
    dsimp only
    rw [sharesAt_addShares hplain]
    simp
  | TRANSFER =>
    obtain ⟨to', hto, hplain⟩ := hevent.receiver (by simp [htype])
    obtain ⟨giver, hfrom, hgiver⟩ := hevent.sender (by simp [htype])
    rw [hto, hfrom]
    dsimp only
    rw [sharesAt_addShares hplain, sharesAt_addShares hgiver]
    simp only [Prod.mk.injEq, ne_eq, reduceCtorEq, not_false_eq_true, Option.some.injEq, true_and]
    split_ifs <;> abel
  | CANCEL =>
    obtain ⟨giver, hfrom, hgiver⟩ := hevent.sender (by simp [htype])
    rw [hfrom]
    dsimp only
    rw [sharesAt_addShares hgiver]
    simp only [Prod.mk.injEq, ne_eq, not_true_eq_false, false_and, if_false, reduceCtorEq,
      not_false_eq_true, Option.some.injEq, true_and]
    split_ifs <;> abel

/-- The shares an event issues, less those it cancels. -/
def sharesMade (classId : String) (event : ShareEvent) : Numeric 4 :=
  (if event.eventType = .ISSUE ∧ event.shareClassId = classId then event.quantity else 0) -
    if event.eventType = .CANCEL ∧ event.shareClassId = classId then event.quantity else 0

theorem sharesOf_applyEvent (hevent : NamesParties event) (classId : String) :
    sharesOf (applyEvent count event) classId =
      sharesOf count classId + sharesMade classId event := by
  unfold applyEvent sharesMade
  cases htype : event.eventType with
  | ISSUE =>
    obtain ⟨to', hto, hplain⟩ := hevent.receiver (by simp [htype])
    rw [hto]
    dsimp only
    rw [sharesOf_addShares hplain]
    simp
  | TRANSFER =>
    obtain ⟨to', hto, hplain⟩ := hevent.receiver (by simp [htype])
    obtain ⟨giver, hfrom, hgiver⟩ := hevent.sender (by simp [htype])
    rw [hto, hfrom]
    dsimp only
    rw [sharesOf_addShares hplain, sharesOf_addShares hgiver]
    simp only [reduceCtorEq, false_and, if_false]
    split_ifs <;> abel
  | CANCEL =>
    obtain ⟨giver, hfrom, hgiver⟩ := hevent.sender (by simp [htype])
    rw [hfrom]
    dsimp only
    rw [sharesOf_addShares hgiver]
    simp only [reduceCtorEq, false_and, if_false, true_and]
    split_ifs <;> abel

end

theorem sharesAt_foldl {events : List ShareEvent} (hevents : ∀ e ∈ events, NamesParties e)
    (count : ShareCount) (id classId : String) :
    sharesAt (events.foldl applyEvent count) (id, classId) =
      sharesAt count (id, classId) + position events id classId := by
  induction events generalizing count with
  | nil => simp [position]
  | cons event rest ih =>
    obtain ⟨hevent, hrest⟩ := List.forall_mem_cons.mp hevents
    rw [List.foldl_cons, ih hrest, sharesAt_applyEvent hevent, position, position, List.map_cons,
      List.sum_cons, add_assoc]

theorem sharesOf_foldl {events : List ShareEvent} (hevents : ∀ e ∈ events, NamesParties e)
    (count : ShareCount) (classId : String) :
    sharesOf (events.foldl applyEvent count) classId =
      sharesOf count classId + (events.map (sharesMade classId)).sum := by
  induction events generalizing count with
  | nil => simp
  | cons event rest ih =>
    obtain ⟨hevent, hrest⟩ := List.forall_mem_cons.mp hevents
    rw [List.foldl_cons, ih hrest, sharesOf_applyEvent hevent, List.map_cons, List.sum_cons,
      add_assoc]

theorem sum_sharesMade (events : List ShareEvent) (classId : String) :
    (events.map (sharesMade classId)).sum = issued events classId - cancelled events classId := by
  have hfilter : ∀ p : ShareEvent → Bool, ((events.filter p).map (·.quantity)).sum =
      (events.map fun e => if p e then e.quantity else 0).sum := by
    intro p
    induction events with
    | nil => rfl
    | cons event rest ih => by_cases hp : p event <;> simp [hp, ih]
  rw [issued, cancelled, hfilter, hfilter]
  clear hfilter
  induction events with
  | nil => exact (sub_zero 0).symm
  | cons event rest ih =>
    rw [List.map_cons, List.sum_cons, ih, List.map_cons, List.map_cons, List.sum_cons, List.sum_cons,
      add_sub_add_comm]
    simp only [sharesMade, decide_eq_true_eq]

/-! ## Histories -/

/-- The events in the order of their dates, and of their insertion within a day. -/
def inDateOrder (events : List ShareEvent) : List ShareEvent :=
  events.insertionSort fun a b => a.effectiveDate ≤ b.effectiveDate

/-- No part of the history, from the start, leaves a holder less than nothing. -/
def NeverOverdrawn (events : List ShareEvent) : Prop :=
  ∀ past, past <+: inDateOrder events → ∀ id classId, 0 ≤ position past id classId

/-- A history of events that name their parties, in which nobody is overdrawn. -/
structure SoundHistory (events : List ShareEvent) : Prop where
  parties : ∀ e ∈ events, NamesParties e
  covered : NeverOverdrawn events

/-- An issue overdraws nobody. -/
theorem neverOverdrawn_issue {event : ShareEvent} (h : event.eventType = .ISSUE) :
    NeverOverdrawn [event] := by
  intro past hpast id classId
  rcases List.prefix_cons_iff.mp hpast with rfl | ⟨rest, rfl, hrest⟩
  · exact le_rfl
  · rw [List.prefix_nil.mp hrest]
    have hquantity := event.quantity_pos.le
    simp only [position, List.map_cons, List.map_nil, List.sum_cons, List.sum_nil, add_zero,
      sharesMoved, h, ne_eq, not_true_eq_false, false_and, if_false, sub_zero]
    split
    · exact hquantity
    · exact le_rfl

/-- Up to a date, the events in order are a part from the start. -/
theorem filter_prefix_of_sorted {events : List ShareEvent}
    (hsorted : events.Pairwise fun a b => a.effectiveDate ≤ b.effectiveDate) (asOf : ℤ) :
    events.filter (fun e => decide (e.effectiveDate ≤ asOf)) <+: events := by
  induction events with
  | nil => exact List.prefix_rfl
  | cons event rest ih =>
    obtain ⟨hfirst, hrest⟩ := List.pairwise_cons.mp hsorted
    by_cases hdate : event.effectiveDate ≤ asOf
    · rw [List.filter_cons, if_pos (decide_eq_true hdate)]
      exact List.cons_prefix_cons.mpr ⟨rfl, ih hrest⟩
    · have hnone : (event :: rest).filter (fun e => decide (e.effectiveDate ≤ asOf)) = [] := by
        refine List.filter_eq_nil_iff.mpr fun e he => ?_
        rw [decide_eq_true_eq, not_le]
        rcases List.mem_cons.mp he with rfl | he
        · exact not_le.mp hdate
        · exact lt_of_lt_of_le (not_le.mp hdate) (hfirst e he)
      rw [hnone]
      exact List.nil_prefix

section

variable {events : List ShareEvent} {asOf : ℤ} {shareClassId : Option String}

/-- Events of classes that are not looked at add nothing to a number of a class that is. -/
theorem sum_orderedEvents {classId : String} (hclass : inClass shareClassId classId = true)
    {f : ShareEvent → Numeric 4} (hf : ∀ e : ShareEvent, e.shareClassId ≠ classId → f e = 0) :
    ((orderedEvents events asOf shareClassId).map f).sum =
      ((events.filter fun e => decide (e.effectiveDate ≤ asOf)).map f).sum := by
  rw [orderedEvents, ((List.perm_insertionSort _ _).map f).sum_eq]
  induction events with
  | nil => rfl
  | cons event rest ih =>
    by_cases hdate : event.effectiveDate ≤ asOf
    · by_cases hin : inClass shareClassId event.shareClassId = true
      · simp only [List.filter_cons, hdate, hin, decide_true, Bool.and_true, if_true, List.map_cons,
          List.sum_cons, ih]
      · have hzero : f event = 0 := hf event fun h => hin (h ▸ hclass)
        simp only [List.filter_cons, hdate, hin, decide_true, Bool.true_and, Bool.false_eq_true,
          if_false, if_true, List.map_cons, List.sum_cons, hzero, zero_add, ih]
    · simpa [hdate] using ih

/-- What the events up to a date leave a holder of a class that is looked at. -/
theorem position_ordered {classId : String} (hclass : inClass shareClassId classId = true)
    (id : String) : position (orderedEvents events asOf shareClassId) id classId =
      position (events.filter fun e => decide (e.effectiveDate ≤ asOf)) id classId :=
  sum_orderedEvents hclass fun e hother => by simp [sharesMoved, hother]

/-- Of a class that is not looked at nobody has anything. -/
theorem position_other {classId : String} (hclass : inClass shareClassId classId = false)
    (id : String) : position (orderedEvents events asOf shareClassId) id classId = 0 := by
  refine List.sum_eq_zero fun q hq => ?_
  obtain ⟨event, hmem, rfl⟩ := List.mem_map.mp hq
  have hin : inClass shareClassId event.shareClassId = true := (mem_orderedEvents hmem).2.2
  have hother : event.shareClassId ≠ classId := fun h => by
    rw [h, hclass] at hin
    cases hin
  simp [sharesMoved, hother]

theorem position_nonneg (hsound : SoundHistory events) (id classId : String) :
    0 ≤ position (orderedEvents events asOf shareClassId) id classId := by
  cases hclass : inClass shareClassId classId with
  | false => rw [position_other hclass]
  | true =>
    have hperm := (List.perm_insertionSort (fun a b : ShareEvent => a.effectiveDate ≤ b.effectiveDate)
      events).filter fun e => decide (e.effectiveDate ≤ asOf)
    rw [position_ordered hclass, ← position_perm hperm]
    exact hsound.covered _ (filter_prefix_of_sorted (List.pairwise_insertionSort _ _) asOf) _ _

/-! ## The rows of the register -/

theorem sharesAt_shareCount (hevents : ∀ e ∈ events, NamesParties e) (id classId : String) :
    sharesAt (shareCount events asOf shareClassId) (id, classId) =
      position (orderedEvents events asOf shareClassId) id classId := by
  rw [shareCount, sharesAt_foldl (namesParties_ordered hevents)]
  exact zero_add _

/-- The rows are the holders that are left with something. -/
theorem mem_holdingsFromEvents (hevents : ∀ e ∈ events, NamesParties e) (row : HoldingQty) :
    row ∈ holdingsFromEvents events asOf shareClassId ↔ 0 < row.quantity ∧
      row.quantity = position (orderedEvents events asOf shareClassId) row.shareholderId row.shareClassId := by
  have hshares : sharesAt (shareCount events asOf shareClassId) (row.shareholderId, row.shareClassId) =
      _ := sharesAt_shareCount hevents row.shareholderId row.shareClassId
  have hmem : row ∈ holdingsFromEvents events asOf shareClassId ↔ 0 < row.quantity ∧
      (shareCount events asOf shareClassId).get? (row.shareholderId, row.shareClassId) =
        some row.quantity := by
    unfold holdingsFromEvents
    rw [List.mem_insertionSort, List.mem_map, OrderedMap.get?_eq_some_iff]
    constructor
    · rintro ⟨e, he, rfl⟩
      obtain ⟨he, hpos⟩ := List.mem_filter.mp he
      exact ⟨of_decide_eq_true hpos, he⟩
    · rintro ⟨hpos, he⟩
      exact ⟨_, List.mem_filter.mpr ⟨he, decide_eq_true hpos⟩, rfl⟩
  rw [hmem, ← hshares, sharesAt]
  refine and_congr_right fun hpos => ?_
  cases (shareCount events asOf shareClassId).get? (row.shareholderId, row.shareClassId) with
  | none =>
    constructor
    · intro h
      cases h
    · intro h
      exact absurd h hpos.ne'
  | some q =>
    rw [Option.getD_some, Option.some_inj]
    exact eq_comm

/-- A holder of a class has one row. -/
theorem rows_nodup : ((holdingsFromEvents events asOf shareClassId).map
    fun row => (row.shareholderId, row.shareClassId)).Nodup := by
  unfold holdingsFromEvents
  rw [((List.perm_insertionSort _ _).map _).nodup_iff, List.map_map]
  exact (shareCount events asOf shareClassId).nodup.sublist (List.filter_sublist.map _)

/-- The shares of a class in the rows of a register. -/
def classTotal (rows : List HoldingQty) (classId : String) : Numeric 4 :=
  ((rows.filter fun row => row.shareClassId = classId).map (·.quantity)).sum

/-- The rows have all the shares: nobody is left with less than nothing. -/
theorem classTotal_eq_sharesOf (hsound : SoundHistory events) (classId : String) :
    classTotal (holdingsFromEvents events asOf shareClassId) classId =
      sharesOf (shareCount events asOf shareClassId) classId := by
  have hnonneg : ∀ e ∈ (shareCount events asOf shareClassId).entries, 0 ≤ e.2 := by
    intro e he
    have hget := OrderedMap.get?_eq_some_iff.mpr he
    have hshares : sharesAt (shareCount events asOf shareClassId) (e.1.1, e.1.2) = _ :=
      sharesAt_shareCount hsound.parties e.1.1 e.1.2
    rw [sharesAt, hget, Option.getD_some] at hshares
    rw [hshares]
    exact position_nonneg hsound _ _
  unfold classTotal holdingsFromEvents sharesOf OrderedMap.sumWhere
  rw [(((List.perm_insertionSort _ _).filter _).map _).sum_eq]
  generalize (shareCount events asOf shareClassId).entries = es at hnonneg
  induction es with
  | nil => rfl
  | cons e rest ih =>
    obtain ⟨he, hrest⟩ := List.forall_mem_cons.mp hnonneg
    have ih := ih hrest
    by_cases hpos : 0 < e.2
    · by_cases hclass : e.1.2 = classId
      · simp only [List.filter_cons, hpos, hclass, decide_true, if_true, List.map_cons,
          List.sum_cons, ih]
      · simp only [List.filter_cons, hpos, hclass, decide_true, decide_false, Bool.false_eq_true,
          if_false, if_true, List.map_cons, ih]
    · have hzero : e.2 = 0 := le_antisymm (not_lt.mp hpos) he
      rw [List.filter_cons_of_neg (by simpa using hpos), ih, List.filter_cons]
      split
      · rw [List.map_cons, List.sum_cons, hzero, zero_add]
      · rfl

/-- The shares of a class are those issued less those cancelled, on any day. -/
theorem classTotal_eq (hsound : SoundHistory events) {classId : String}
    (hclass : inClass shareClassId classId = true) :
    classTotal (holdingsFromEvents events asOf shareClassId) classId =
      issued (events.filter fun e => decide (e.effectiveDate ≤ asOf)) classId -
        cancelled (events.filter fun e => decide (e.effectiveDate ≤ asOf)) classId := by
  have hmade : ∀ e : ShareEvent, e.shareClassId ≠ classId → sharesMade classId e = 0 :=
    fun e hother => by simp [sharesMade, hother]
  rw [classTotal_eq_sharesOf hsound, shareCount, sharesOf_foldl (namesParties_ordered hsound.parties),
    sum_orderedEvents hclass hmade, sum_sharesMade]
  exact zero_add _

end

end SmartErpPos.Ownership
