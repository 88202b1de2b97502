/-
  Treasury/ReceiptLedger.lean --- what the journals of receipts and documents do to 1015.

  A new journal adds its lines to the net-active balance, and a reversal takes them out
  again: its own lines do not count.  The cash of a payment is read off its one journal.
-/
import SmartErpPos.Treasury.DepositWorksheets

set_option autoImplicit false

namespace SmartErpPos.Treasury

open SmartErpPos.Lib SmartErpPos.Ledger

/-! ## Lines -/

theorem changeOn_cons (accountCode : String) (line : JournalLine) (lines : List JournalLine) :
    changeOn accountCode (line :: lines) =
      (if line.accountCode = accountCode then line.debitAmount - line.creditAmount else 0) +
        changeOn accountCode lines := by
  unfold changeOn
  by_cases h : line.accountCode = accountCode
  · simp [h]
  · simp [h]

@[simp] theorem changeOn_nil (accountCode : String) : changeOn accountCode [] = 0 := rfl

theorem changeOn_append (accountCode : String) (xs ys : List JournalLine) :
    changeOn accountCode (xs ++ ys) = changeOn accountCode xs + changeOn accountCode ys := by
  unfold changeOn
  rw [List.filter_append, List.map_append, List.sum_append]

/-! ## Journals -/

/-- The keys of the journals, and those they refer to, are used. -/
def JournalsBelow (db : ReceiptDb) : Prop :=
  ∀ id j, db.journals.get? id = some j → id < db.nextId ∧ j.reference.id < db.nextId ∧
    ∀ by', j.reversedByTransactionId = some by' → by' < db.nextId

theorem JournalsBelow.get?_nextId {db : ReceiptDb} (h : JournalsBelow db) :
    db.journals.get? db.nextId = none := by
  rw [Option.eq_none_iff_forall_ne_some]
  intro j hj
  exact absurd (h _ _ hj).1 (lt_irrefl _)

theorem isNetActive_iff {db : ReceiptDb} {id : TransactionId} : db.isNetActive id = true ↔
    ∃ j, db.journals.get? id = some j ∧ j.isReversed = false ∧
      ∀ id' j', db.journals.get? id' = some j' → j'.reversedByTransactionId ≠ some id := by
  unfold ReceiptDb.isNetActive
  constructor
  · intro h
    split at h
    · rename_i j hj
      simp only [Bool.and_eq_true, Bool.not_eq_true', List.all_eq_true, decide_eq_true_eq] at h
      exact ⟨j, hj, h.1, fun id' j' hj' => h.2 j' (OrderedMap.mem_values_iff.mpr ⟨id', hj'⟩)⟩
    · cases h
  · rintro ⟨j, hj, hopen, hnone⟩
    simp only [hj, hopen, Bool.not_false, Bool.true_and, List.all_eq_true, decide_eq_true_eq]
    intro j' hj'
    obtain ⟨id', hid'⟩ := OrderedMap.mem_values_iff.mp hj'
    exact hnone id' j' hid'

theorem isNetActive_congr {db db' : ReceiptDb} (h : db'.journals = db.journals) :
    db'.isNetActive = db.isNetActive := by
  funext id
  unfold ReceiptDb.isNetActive
  rw [h]

theorem getClearingGlBalance_congr {db db' : ReceiptDb} (h : db'.journals = db.journals)
    (accountCode : String) :
    db'.getClearingGlBalance accountCode = db.getClearingGlBalance accountCode := by
  unfold ReceiptDb.getClearingGlBalance
  rw [h, isNetActive_congr h]

/-- The tables after a new journal. -/
def ReceiptDb.posted (db : ReceiptDb) (reference : JournalReference) (lines : List JournalLine) :
    ReceiptDb :=
  { db with
    journals := db.journals.set db.nextId
      { reference := reference
        lines := lines
        isReversed := false
        reversedByTransactionId := none }
    nextId := db.nextId + 1 }

/-- A reference without a journal gets one. -/
theorem createJournalEntry_of_new {db db' : ReceiptDb} {reference : JournalReference}
    {lines : List JournalLine} {id : TransactionId}
    (h : db.createJournalEntry reference lines = .ok (id, db'))
    (hnew : ∀ id j, db.journals.get? id = some j → j.reference ≠ reference) :
    checkJournal lines = .ok () ∧ id = db.nextId ∧ db' = db.posted reference lines := by
  unfold ReceiptDb.createJournalEntry at h
  simp only [bind_eq_ok] at h
  obtain ⟨_, hcheck, h⟩ := h
  split at h
  · rename_i e he
    have hmem := List.mem_of_find?_eq_some he
    have htrue := List.find?_some he
    simp only [Bool.and_eq_true, decide_eq_true_eq] at htrue
    exact absurd htrue.1 (hnew e.1 e.2 (OrderedMap.get?_eq_some_iff.mpr hmem))
  · rw [pure_eq_ok] at h
    cases h
    exact ⟨hcheck, rfl, rfl⟩

section Posted

variable {db : ReceiptDb} (hbelow : JournalsBelow db) (reference : JournalReference)
  (lines : List JournalLine)

include hbelow

theorem posted_below (href : reference.id < db.nextId) :
    JournalsBelow (db.posted reference lines) := by
  intro id j hj
  change (db.journals.set db.nextId _).get? id = some j at hj
  change id < db.nextId + 1 ∧ j.reference.id < db.nextId + 1 ∧
    ∀ by', j.reversedByTransactionId = some by' → by' < db.nextId + 1
  rw [OrderedMap.get?_set] at hj
  split at hj
  · rename_i heq
    cases hj
    refine ⟨?_, Nat.lt_succ_of_lt href, fun _ hby => (by cases hby)⟩
    exact heq ▸ Nat.lt_succ_self _
  · obtain ⟨hid, hrefId, hby⟩ := hbelow id j hj
    exact ⟨Nat.lt_succ_of_lt hid, Nat.lt_succ_of_lt hrefId, fun by' h => Nat.lt_succ_of_lt (hby by' h)⟩

theorem posted_isNetActive (id : TransactionId) :
    (db.posted reference lines).isNetActive id =
      (decide (id = db.nextId) || db.isNetActive id) := by
  rw [Bool.eq_iff_iff, Bool.or_eq_true, decide_eq_true_eq, isNetActive_iff, isNetActive_iff]
  have hget : ∀ k, (db.posted reference lines).journals.get? k =
      if k = db.nextId then some ⟨reference, lines, false, none⟩ else db.journals.get? k :=
    fun k => OrderedMap.get?_set ..
  constructor
  · rintro ⟨j, hj, hopen, hnone⟩
    rcases eq_or_ne id db.nextId with heq | hne
    · exact .inl heq
    · rw [hget, if_neg hne] at hj
      refine .inr ⟨j, hj, hopen, fun id' j' hj' => ?_⟩
      refine hnone id' j' ?_
      rw [hget, if_neg (hbelow id' j' hj').1.ne]
      exact hj'
  · rintro (rfl | ⟨j, hj, hopen, hnone⟩)
    · refine ⟨_, by rw [hget, if_pos rfl], rfl, fun id' j' hj' heq => ?_⟩
      rw [hget] at hj'
      split at hj'
      · cases hj'
        cases heq
      · exact absurd ((hbelow id' j' hj').2.2 _ heq) (lt_irrefl _)
    · refine ⟨j, by rw [hget, if_neg (hbelow id j hj).1.ne]; exact hj, hopen, fun id' j' hj' => ?_⟩
      rw [hget] at hj'
      split at hj'
      · cases hj'
        intro hreverses
        cases hreverses
      · exact hnone id' j' hj'

/-- A new journal adds its lines. -/
theorem posted_balance (accountCode : String) :
    (db.posted reference lines).getClearingGlBalance accountCode =
      db.getClearingGlBalance accountCode + changeOn accountCode lines := by
  have hkeys : ∀ e ∈ db.journals.entries,
      (db.posted reference lines).isNetActive e.1 = db.isNetActive e.1 := by
    intro e he
    have hne := (hbelow e.1 e.2 (OrderedMap.get?_eq_some_iff.mpr he)).1.ne
    rw [posted_isNetActive hbelow, decide_eq_false hne, Bool.false_or]
  have hself : (db.posted reference lines).isNetActive db.nextId = true := by
    rw [posted_isNetActive hbelow, decide_eq_true rfl, Bool.true_or]
  unfold ReceiptDb.getClearingGlBalance
  change (db.journals.set db.nextId _).sumWhere _ _ = _
  rw [OrderedMap.sumWhere_set, if_pos hself, OrderedMap.sumWhere_congr hkeys,
    OrderedMap.valueAt_of_get?_none hbelow.get?_nextId, sub_zero]

end Posted

section Reversed

variable {db : ReceiptDb} {id : TransactionId} {j : PostedJournal}

/-- A journal after a reversal is the original, the reversal or one that was there. -/
theorem reversed_get? (k : TransactionId) (j' : PostedJournal) :
    (db.reverseTransaction id j).journals.get? k = some j' →
      (k = id ∧ j'.reference = j.reference ∧ j'.lines = j.lines ∧ j'.isReversed = true ∧
        j'.reversedByTransactionId = some db.nextId) ∨
      (k = db.nextId ∧ j'.reference = .REVERSAL id ∧ j'.reversedByTransactionId = none) ∨
      (k ≠ id ∧ k ≠ db.nextId ∧ db.journals.get? k = some j') := by
  intro hk
  change ((db.journals.set id _).set db.nextId _).get? k = some j' at hk
  rw [OrderedMap.get?_set] at hk
  split at hk
  · rename_i heq
    cases hk
    exact .inr (.inl ⟨heq, rfl, rfl⟩)
  · rename_i hne
    rw [OrderedMap.get?_set] at hk
    split at hk
    · rename_i heq
      cases hk
      exact .inl ⟨heq, rfl, rfl, rfl, rfl⟩
    · rename_i hother
      exact .inr (.inr ⟨hother, hne, hk⟩)

theorem reversed_get?_other {k : TransactionId} (hne : k ≠ id) (hnew : k ≠ db.nextId) :
    (db.reverseTransaction id j).journals.get? k = db.journals.get? k := by
  change ((db.journals.set id _).set db.nextId _).get? k = _
  rw [OrderedMap.get?_set_of_ne hnew, OrderedMap.get?_set_of_ne hne]

variable (hbelow : JournalsBelow db) (hj : db.journals.get? id = some j)

include hbelow hj

theorem reversed_below : JournalsBelow (db.reverseTransaction id j) := by
  intro k j' hk
  have hid := hbelow id j hj
  change k < db.nextId + 1 ∧ j'.reference.id < db.nextId + 1 ∧
    ∀ by', j'.reversedByTransactionId = some by' → by' < db.nextId + 1
  rcases reversed_get? k j' hk with ⟨rfl, href, -, -, hby⟩ | ⟨rfl, href, hby⟩ |
    ⟨-, -, hold⟩
  · refine ⟨Nat.lt_succ_of_lt hid.1, href ▸ Nat.lt_succ_of_lt hid.2.1, fun by' h => ?_⟩
    rw [hby] at h
    cases h
    exact Nat.lt_succ_self _
  · refine ⟨Nat.lt_succ_self _, ?_, fun by' h => ?_⟩
    · rw [href]
      exact hid.1.trans (Nat.lt_succ_self _)
    · rw [hby] at h
      cases h
  · obtain ⟨hk, href, hby⟩ := hbelow k j' hold
    exact ⟨Nat.lt_succ_of_lt hk, Nat.lt_succ_of_lt href, fun by' h => Nat.lt_succ_of_lt (hby by' h)⟩

theorem reversed_isNetActive (hopen : j.reversedByTransactionId = none) (k : TransactionId) :
    (db.reverseTransaction id j).isNetActive k = (decide (k ≠ id) && db.isNetActive k) := by
  rw [Bool.eq_iff_iff, Bool.and_eq_true, decide_eq_true_eq, isNetActive_iff, isNetActive_iff]
  have hidNew : id ≠ db.nextId := (hbelow id j hj).1.ne
  have hself : (db.reverseTransaction id j).journals.get? id = some
      { j with
        isReversed := true
        reversedByTransactionId := some db.nextId } := by
    change ((db.journals.set id _).set db.nextId _).get? id = _
    rw [OrderedMap.get?_set_of_ne hidNew, OrderedMap.get?_set_self]
  constructor
  · rintro ⟨j', hk, hlive, hnone⟩
    rcases reversed_get? k j' hk with ⟨-, -, -, hrev, -⟩ | ⟨rfl, -, -⟩ |
      ⟨hne, hnew, hold⟩
    · rw [hrev] at hlive
      cases hlive
    · exact absurd rfl (hnone id _ hself)
    · refine ⟨hne, j', hold, hlive, fun k' j'' hk' => ?_⟩
      rcases eq_or_ne k' id with rfl | hne'
      · rw [hj] at hk'
        cases hk'
        rw [hopen]
        nofun
      · refine hnone k' j'' ?_
        rw [reversed_get?_other hne' (hbelow k' j'' hk').1.ne]
        exact hk'
  · rintro ⟨hne, j', hk, hlive, hnone⟩
    have hnew : k ≠ db.nextId := (hbelow k j' hk).1.ne
    refine ⟨j', by rw [reversed_get?_other hne hnew]; exact hk, hlive,
      fun k' j'' hk' => ?_⟩
    rcases reversed_get? k' j'' hk' with ⟨-, -, -, -, hby⟩ | ⟨-, -, hby⟩ | ⟨-, -, hold⟩
    · rw [hby]
      exact fun h => hnew (Option.some.inj h).symm
    · rw [hby]
      nofun
    · exact hnone k' j'' hold

/-- A reversal takes out what its original added. -/
theorem reversed_balance (hopen : j.reversedByTransactionId = none)
    (hactive : db.isNetActive id = true) (accountCode : String) :
    (db.reverseTransaction id j).getClearingGlBalance accountCode =
      db.getClearingGlBalance accountCode - changeOn accountCode j.lines := by
  have hidNew : id ≠ db.nextId := (hbelow id j hj).1.ne
  have hnet := reversed_isNetActive hbelow hj hopen
  have hnewOff : (db.reverseTransaction id j).isNetActive db.nextId = false := by
    rw [Bool.eq_false_iff, ne_eq, hnet, Bool.and_eq_true, isNetActive_iff]
    rintro ⟨-, j', hj', -⟩
    rw [hbelow.get?_nextId] at hj'
    cases hj'
  have hidOff : (db.reverseTransaction id j).isNetActive id = false := by
    rw [hnet, decide_eq_false fun h => h rfl, Bool.false_and]
  unfold ReceiptDb.getClearingGlBalance
  change ((db.journals.set id _).set db.nextId _).sumWhere _ _ = _
  rw [OrderedMap.sumWhere_set, hnewOff, OrderedMap.sumWhere_set, hidOff]
  simp only [Bool.false_eq_true, if_false, add_zero]
  have herase : ∀ p : TransactionId → Bool,
      db.journals.sumWhere (fun k => decide (k ≠ id) && p k)
        (fun j => changeOn accountCode j.lines) =
      (db.journals.erase id).sumWhere p fun j => changeOn accountCode j.lines := by
    intro p
    unfold OrderedMap.sumWhere OrderedMap.erase OrderedMap.restrict
    rw [List.filter_filter]
    congr 2
    exact List.filter_congr fun e _ => Bool.and_comm _ _
  have hkeys : db.journals.sumWhere (db.reverseTransaction id j).isNetActive
      (fun j => changeOn accountCode j.lines) =
      db.journals.sumWhere (fun k => decide (k ≠ id) && db.isNetActive k)
        fun j => changeOn accountCode j.lines := OrderedMap.sumWhere_congr fun e _ => hnet e.1
  rw [hkeys, herase, OrderedMap.sumWhere_erase,
    if_pos hactive, OrderedMap.valueAt_of_get? hj]

end Reversed

/-! ## The cash of a payment -/

/-- The one journal of a payment: it debits Undeposited Funds by the cash, and is open where the
payment is not reversed. -/
def PaidBy (db : ReceiptDb) (paymentId : SourceId) (cash : Money) (open' : Prop) : Prop :=
  ∃ id j, db.journals.get? id = some j ∧ j.reference = .CUSTOMER_PAYMENT paymentId ∧
    debitOn UNDEPOSITED_FUNDS j.lines = some cash.toRat ∧
    changeOn UNDEPOSITED_FUNDS j.lines = cash.toRat ∧
    (∀ id' j', db.journals.get? id' = some j' → j'.reference = .CUSTOMER_PAYMENT paymentId →
      id' = id) ∧
    (open' → db.isNetActive id = true ∧ j.reversedByTransactionId = none)

/-- The synchronisation reads the cash off it. -/
theorem PaidBy.cashDebitOf {db : ReceiptDb} {paymentId : SourceId} {cash : Money} {open' : Prop}
    (h : PaidBy db paymentId cash open') : db.cashDebitOf paymentId = some cash := by
  obtain ⟨id, j, hj, href, hdebit, -, hone, -⟩ := h
  have hread : (if j.reference = .CUSTOMER_PAYMENT paymentId then
      (debitOn UNDEPOSITED_FUNDS j.lines).map Numeric.ofRat else none) = some cash := by
    rw [if_pos href, hdebit, Option.map_some, Numeric.ofRat_toRat]
  unfold ReceiptDb.cashDebitOf
  have hsome : (db.journals.values.findSome? fun j =>
      if j.reference = .CUSTOMER_PAYMENT paymentId then
        (debitOn UNDEPOSITED_FUNDS j.lines).map (Numeric.ofRat : ℚ → Money)
      else none).isSome = true := by
    rw [List.findSome?_isSome_iff]
    exact ⟨j, OrderedMap.mem_values_iff.mpr ⟨id, hj⟩, by rw [hread]; rfl⟩
  obtain ⟨c, hc⟩ := Option.isSome_iff_exists.mp hsome
  obtain ⟨j', hmem, hj'⟩ := List.exists_of_findSome?_eq_some hc
  obtain ⟨id', hid'⟩ := OrderedMap.mem_values_iff.mp hmem
  rw [hc]
  by_cases href' : j'.reference = .CUSTOMER_PAYMENT paymentId
  · have heq := hone id' j' hid' href'
    rw [heq, hj] at hid'
    cases hid'
    rw [hread] at hj'
    exact hj'.symm
  · rw [if_neg href'] at hj'
    cases hj'

theorem PaidBy.mono {db : ReceiptDb} {paymentId : SourceId} {cash : Money} {open' fewer : Prop}
    (h : PaidBy db paymentId cash open') (himp : fewer → open') :
    PaidBy db paymentId cash fewer := by
  obtain ⟨id, j, hj, href, hdebit, hchange, hone, hopen⟩ := h
  exact ⟨id, j, hj, href, hdebit, hchange, hone, fun hf => hopen (himp hf)⟩

theorem PaidBy.congr {db db' : ReceiptDb} {paymentId : SourceId} {cash : Money} {open' : Prop}
    (h : PaidBy db paymentId cash open') (hjournals : db'.journals = db.journals) :
    PaidBy db' paymentId cash open' := by
  unfold PaidBy
  rw [hjournals, isNetActive_congr hjournals]
  exact h

/-- A reversal of the payment finds it. -/
theorem PaidBy.openJournal {db : ReceiptDb} {paymentId : SourceId} {cash : Money} {open' : Prop}
    (h : PaidBy db paymentId cash open') (hop : open') : ∃ id j,
      db.openJournal paymentId = some (id, j) ∧ db.journals.get? id = some j ∧
      j.reference = .CUSTOMER_PAYMENT paymentId ∧
      changeOn UNDEPOSITED_FUNDS j.lines = cash.toRat ∧ db.isNetActive id = true ∧
      j.reversedByTransactionId = none := by
  obtain ⟨id, j, hj, href, -, hchange, hone, hopen⟩ := h
  obtain ⟨hactive, hby⟩ := hopen hop
  refine ⟨id, j, ?_, hj, href, hchange, hactive, hby⟩
  have hlive : j.isReversed = false := by
    obtain ⟨j', hj', hlive, -⟩ := isNetActive_iff.mp hactive
    rw [hj] at hj'
    cases hj'
    exact hlive
  unfold ReceiptDb.openJournal
  have hsome : (db.journals.entries.reverse.find? fun e =>
      decide (e.2.reference = .CUSTOMER_PAYMENT paymentId) && !e.2.isReversed).isSome = true := by
    refine List.find?_isSome.mpr ⟨(id, j), ?_, ?_⟩
    · exact List.mem_reverse.mpr (OrderedMap.get?_eq_some_iff.mp hj)
    · simp [href, hlive]
  obtain ⟨e, he⟩ := Option.isSome_iff_exists.mp hsome
  have hmem := OrderedMap.get?_eq_some_iff.mpr (List.mem_reverse.mp (List.mem_of_find?_eq_some he))
  have htrue := List.find?_some he
  simp only [Bool.and_eq_true, decide_eq_true_eq] at htrue
  have hid := hone e.1 e.2 hmem htrue.1
  rw [hid, hj] at hmem
  rw [he, Option.some.injEq, Prod.ext_iff]
  exact ⟨hid, (Option.some.inj hmem).symm⟩

/-- A journal of something else leaves it alone. -/
theorem PaidBy.posted {db : ReceiptDb} (hbelow : JournalsBelow db) {paymentId : SourceId}
    {cash : Money} {open' : Prop} (h : PaidBy db paymentId cash open')
    {reference : JournalReference} (href : reference ≠ .CUSTOMER_PAYMENT paymentId)
    (lines : List JournalLine) : PaidBy (db.posted reference lines) paymentId cash open' := by
  obtain ⟨id, j, hj, hrefj, hdebit, hchange, hone, hopen⟩ := h
  have hget : ∀ k, (db.posted reference lines).journals.get? k =
      if k = db.nextId then some ⟨reference, lines, false, none⟩ else db.journals.get? k :=
    fun k => OrderedMap.get?_set ..
  refine ⟨id, j, by rw [hget, if_neg (hbelow id j hj).1.ne]; exact hj, hrefj, hdebit, hchange,
    fun id' j' hj' href' => ?_, fun hop => ?_⟩
  · rw [hget] at hj'
    split at hj'
    · cases hj'
      exact absurd href' href
    · exact hone id' j' hj' href'
  · obtain ⟨hactive, hby⟩ := hopen hop
    rw [posted_isNetActive hbelow, hactive, Bool.or_true]
    exact ⟨rfl, hby⟩

/-- A reversal closes the journal of its own payment, and leaves the others alone. -/
theorem PaidBy.reversed {db : ReceiptDb} (hbelow : JournalsBelow db) {paymentId : SourceId}
    {cash : Money} {open' : Prop} (h : PaidBy db paymentId cash open') {id : TransactionId}
    {j : PostedJournal} (hj : db.journals.get? id = some j)
    (hopen : j.reversedByTransactionId = none) :
    PaidBy (db.reverseTransaction id j) paymentId cash
      (open' ∧ j.reference ≠ .CUSTOMER_PAYMENT paymentId) := by
  obtain ⟨id0, j0, hj0, href, hdebit, hchange, hone, hactive⟩ := h
  have hnew0 : id0 ≠ db.nextId := (hbelow id0 j0 hj0).1.ne
  have honly : ∀ id' j', (db.reverseTransaction id j).journals.get? id' = some j' →
      j'.reference = .CUSTOMER_PAYMENT paymentId → id' = id0 := by
    intro id' j' hj' href'
    rcases reversed_get? id' j' hj' with ⟨rfl, hsame, -⟩ | ⟨-, hrev, -⟩ | ⟨-, -, hold⟩
    · exact hone id' j hj (hsame ▸ href')
    · rw [hrev] at href'
      cases href'
    · exact hone id' j' hold href'
  rcases eq_or_ne id0 id with rfl | hne
  · rw [hj0] at hj
    cases hj
    refine ⟨id0,
      { j with
        isReversed := true
        reversedByTransactionId := some db.nextId },
      ?_, href, hdebit, hchange, honly, fun hop => absurd href hop.2⟩
    change ((db.journals.set id0 _).set db.nextId _).get? id0 = _
    rw [OrderedMap.get?_set_of_ne hnew0, OrderedMap.get?_set_self]
  · refine ⟨id0, j0, by rw [reversed_get?_other hne hnew0]; exact hj0, href, hdebit, hchange,
      honly, fun hop => ?_⟩
    obtain ⟨hon, hby⟩ := hactive hop.1
    rw [reversed_isNetActive hbelow hj hopen, hon, decide_eq_true hne]
    exact ⟨rfl, hby⟩

end SmartErpPos.Treasury
