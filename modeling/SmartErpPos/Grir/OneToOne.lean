/-
  Grir/OneToOne.lean --- a receipt and an invoice are cleared at most once.

  What the greedy choice guarantees within one run, nothing guarantees from one run to the
  next: only a pair that is cleared with each other is left out.  In a run of calls that clear
  no receipt and no invoice again, every receipt and every invoice is in at most one cleared
  record, every receipt has at most one journal, and an automatic run that is made again finds
  only pairs the one before has reported as failed.
-/
import SmartErpPos.Grir.Clearing
import SmartErpPos.Ledger.WellFormed
import SmartErpPos.Lib.Transition

set_option autoImplicit false

namespace SmartErpPos.Grir

open SmartErpPos.Lib SmartErpPos.Ledger

/-! ## Calls -/

inductive GrirCall where
  | clear (env : GrirEnv) (data : ClearItemData)
  | auto (env : GrirEnv) (options : AutoMatchOptions)

/-- A successful call. -/
def GrirStep (db : GrirDb) : GrirCall → GrirDb → Prop
  | .clear env data, db' => (clearItem env db data).map (·.2) = .ok db'
  | .auto env options, db' => (autoMatch env db options).2 = db'

/-- A cleared record has `k` on one of its sides. -/
def isUsed (db : GrirDb) (side : GrirClearingRow → Option ℕ) (k : ℕ) : Bool :=
  db.clearing.values.any fun row => row.status.isCleared && decide (side row = some k)

/-- The receipt is in a cleared record. -/
def isClearedReceipt (db : GrirDb) (receiptId : ReceiptId) : Bool :=
  isUsed db (·.goodsReceiptId) receiptId

/-- The invoice is in a cleared record. -/
def isClearedInvoice (db : GrirDb) (invoiceId : InvoiceId) : Bool :=
  isUsed db (·.invoiceId) invoiceId

/-- Neither the receipt nor the invoice is in a cleared record. -/
def Uncleared (db : GrirDb) (receiptId : ReceiptId) (invoiceId : InvoiceId) : Prop :=
  isClearedReceipt db receiptId = false ∧ isClearedInvoice db invoiceId = false

/-- The condition on a step, in the state before it. -/
def Sound (db : GrirDb) : GrirCall → Prop
  | .clear _ data => Uncleared db data.receiptId data.invoiceId
  | .auto _ options => ∀ c ∈ selectedPairs db options, Uncleared db c.receiptId c.invoiceId

instance (db : GrirDb) (receiptId : ReceiptId) (invoiceId : InvoiceId) :
    Decidable (Uncleared db receiptId invoiceId) :=
  inferInstanceAs (Decidable (_ ∧ _))

instance (db : GrirDb) (call : GrirCall) : Decidable (Sound db call) :=
  match call with
  | .clear _ data => inferInstanceAs (Decidable (Uncleared db data.receiptId data.invoiceId))
  | .auto _ options => inferInstanceAs
      (Decidable (∀ c ∈ selectedPairs db options, Uncleared db c.receiptId c.invoiceId))

theorem isUsed_iff {db : GrirDb} {side : GrirClearingRow → Option ℕ} {k : ℕ} :
    isUsed db side k = true ↔ ∃ id row, db.clearing.get? id = some row ∧
      row.status.isCleared = true ∧ side row = some k := by
  unfold isUsed
  simp only [List.any_eq_true, OrderedMap.mem_values_iff, Bool.and_eq_true, decide_eq_true_eq]
  constructor
  · rintro ⟨row, ⟨id, hget⟩, hrow⟩
    exact ⟨id, row, hget, hrow⟩
  · rintro ⟨id, row, hget, hrow⟩
    exact ⟨row, ⟨id, hget⟩, hrow⟩

theorem isClearedPair_iff {db : GrirDb} {receiptId : ReceiptId} {invoiceId : InvoiceId} :
    isClearedPair db receiptId invoiceId = true ↔ ∃ id row, db.clearing.get? id = some row ∧
      row.status.isCleared = true ∧ row.goodsReceiptId = some receiptId ∧
        row.invoiceId = some invoiceId := by
  unfold isClearedPair
  simp only [List.any_eq_true, Prod.exists, ← OrderedMap.get?_eq_some_iff, Bool.and_eq_true,
    decide_eq_true_eq]
  constructor
  · rintro ⟨id, row, hget, ⟨hreceipt, hinvoice⟩, hcleared⟩
    exact ⟨id, row, hget, hcleared, hreceipt, hinvoice⟩
  · rintro ⟨id, row, hget, hcleared, hreceipt, hinvoice⟩
    exact ⟨id, row, hget, ⟨hreceipt, hinvoice⟩, hcleared⟩

/-! ## What a clear writes -/

/-- The record a clear writes: a new one, or one of the pair that is not cleared yet. -/
structure RecordWritten (db db' : GrirDb) (receiptId : ReceiptId) (invoiceId : InvoiceId)
    (id : ClearingId) (row : GrirClearingRow) : Prop where
  clearing : db'.clearing = db.clearing.set id row
  nextClearing : db'.nextClearing = max db.nextClearing (id + 1)
  cleared : row.status.isCleared = true
  goodsReceiptId : row.goodsReceiptId = some receiptId
  invoiceId : row.invoiceId = some invoiceId
  /-- What was there before. -/
  before : id = db.nextClearing ∨ ∃ old, db.clearing.get? id = some old ∧
    old.status.isCleared = false

/-- What a successful clear does. -/
structure ItemCleared (env : GrirEnv) (db db' : GrirDb) (receiptId : ReceiptId)
    (invoiceId : InvoiceId) (id : ClearingId) (row : GrirClearingRow) : Prop where
  record : RecordWritten db db' receiptId invoiceId id row
  documents : db'.documents = db.documents
  /-- At most one journal, of the record. -/
  ledger : db'.ledger = db.ledger ∨ ∃ request out, createJournalEntry (env.context db.ledger)
    db.ledger request = .ok out ∧ request.referenceType = "GRIR_CLEARING" ∧
      request.referenceId = some id ∧ db'.ledger = out.db

theorem findClearingRecord_spec {db : GrirDb} {receiptId : ReceiptId} {invoiceId : InvoiceId}
    {e : ClearingId × GrirClearingRow} (h : findClearingRecord db receiptId invoiceId = some e) :
    db.clearing.get? e.1 = some e.2 ∧ e.2.goodsReceiptId = some receiptId ∧
      e.2.invoiceId = some invoiceId := by
  have hfound := List.find?_some h
  simp only [Bool.and_eq_true, decide_eq_true_eq] at hfound
  exact ⟨OrderedMap.get?_eq_some_iff.mpr (List.mem_of_find?_eq_some h), hfound⟩

/-- The record `clearItem` writes. -/
theorem createClearingRecord_written {db : GrirDb} (data : ClearingData)
    {existing : Option (ClearingId × GrirClearingRow)} (hfresh : db.clearing.get? db.nextClearing = none)
    (hexisting : findClearingRecord db data.goodsReceiptId data.invoiceId = existing)
    (hopen : existing.any (fun e => e.2.status.isCleared) = false)
    (hstatus : data.status.isCleared = true) :
    ∃ row, RecordWritten db
      (createClearingRecord db ((existing.map (·.1)).getD db.nextClearing) data)
      data.goodsReceiptId data.invoiceId ((existing.map (·.1)).getD db.nextClearing) row := by
  cases existing with
  | none =>
    change ∃ row, RecordWritten db (createClearingRecord db db.nextClearing data) _ _
      db.nextClearing row
    unfold createClearingRecord
    rw [hfresh]
    exact ⟨_, rfl, rfl, hstatus, rfl, rfl, .inl rfl⟩
  | some e =>
    obtain ⟨hget, hreceipt, -⟩ := findClearingRecord_spec hexisting
    change ∃ row, RecordWritten db (createClearingRecord db e.1 data) _ _ e.1 row
    unfold createClearingRecord
    rw [hget]
    exact ⟨_, rfl, rfl, hstatus, hreceipt, rfl, .inr ⟨e.2, hget, by simpa using hopen⟩⟩

theorem clearItem_effect {env : GrirEnv} {db db' : GrirDb} {data : ClearItemData}
    {result : ClearResult} (hfresh : db.clearing.get? db.nextClearing = none)
    (h : clearItem env db data = .ok (result, db')) :
    ∃ id row, ItemCleared env db db' data.receiptId data.invoiceId id row := by
  unfold clearItem at h
  simp only [bind_eq_ok, orThrow_eq_ok, require_eq_ok] at h
  obtain ⟨receipt, -, -, -, invoice, -, -, -, -, hopen, orderId, -, h⟩ := h
  have hstatus : ∀ c : Bool,
      (if c = true then ClearingStatus.MATCHED else ClearingStatus.VARIANCE).isCleared = true := by
    decide
  obtain ⟨row, hwritten⟩ := createClearingRecord_written ⟨orderId,
    data.receiptId, data.invoiceId, _, _, _, _, _⟩ hfresh rfl hopen (hstatus _)
  split at h
  · simp only [pure_eq_ok, Prod.mk.injEq] at h
    obtain ⟨-, rfl⟩ := h
    exact ⟨_, row, hwritten, rfl, .inl rfl⟩
  · simp only [bind_eq_ok, pure_eq_ok, Prod.mk.injEq, ofLedger_eq_ok] at h
    obtain ⟨out, hout, -, rfl⟩ := h
    exact ⟨_, row, { hwritten with }, rfl, .inr ⟨_, out, hout, rfl, rfl, rfl⟩⟩

/-! ## Invariant -/

/-- A journal of a clear. -/
def IsClearingJournal (db : GrirDb) (t : TransactionId) (id : ClearingId) : Prop :=
  ∃ row, db.ledger.transactions.get? t = some row ∧ row.referenceType = "GRIR_CLEARING" ∧
    row.referenceId = id

/-- Two cleared records with the same side are the same. -/
def UsedOnce (db : GrirDb) (side : GrirClearingRow → Option ℕ) : Prop :=
  ∀ id id' row row', db.clearing.get? id = some row → db.clearing.get? id' = some row' →
    row.status.isCleared = true → row'.status.isCleared = true →
      ∀ k, side row = some k → side row' = some k → id = id'

/-- No receipt and no invoice is in two cleared records. -/
structure OneToOne (db : GrirDb) : Prop where
  receipts : UsedOnce db (·.goodsReceiptId)
  invoices : UsedOnce db (·.invoiceId)

structure Matched (db : GrirDb) : Prop where
  oneToOne : OneToOne db
  idsBelow : ∀ id row, db.clearing.get? id = some row → id < db.nextClearing
  wellFormed : WellFormed db.ledger
  journalsBelow : ∀ t id, IsClearingJournal db t id → id < db.nextClearing
  /-- A record with a journal is cleared. -/
  journalCleared : ∀ t id row, IsClearingJournal db t id → db.clearing.get? id = some row →
    row.status.isCleared = true
  journalUnique : ∀ t t' id row, IsClearingJournal db t id → IsClearingJournal db t' id →
    db.clearing.get? id = some row → t = t'

theorem Matched.fresh {db : GrirDb} (h : Matched db) : db.clearing.get? db.nextClearing = none := by
  cases hget : db.clearing.get? db.nextClearing with
  | none => rfl
  | some row => exact absurd (h.idsBelow _ row hget) (lt_irrefl _)

section RecordWritten

variable {db db' : GrirDb} {receiptId : ReceiptId} {invoiceId : InvoiceId} {id : ClearingId}
  {row : GrirClearingRow}

theorem RecordWritten.get? (h : RecordWritten db db' receiptId invoiceId id row) (k : ClearingId) :
    db'.clearing.get? k = if k = id then some row else db.clearing.get? k := by
  rw [h.clearing, OrderedMap.get?_set]

/-- A cleared record after the write is the one written or was there before. -/
theorem RecordWritten.cleared_iff (hdb : Matched db)
    (h : RecordWritten db db' receiptId invoiceId id row) {k : ClearingId} {r : GrirClearingRow} :
    (db'.clearing.get? k = some r ∧ r.status.isCleared = true) ↔
      (k = id ∧ r = row) ∨ (db.clearing.get? k = some r ∧ r.status.isCleared = true) := by
  rw [h.get?]
  by_cases hk : k = id
  · subst hk
    rw [if_pos rfl]
    constructor
    · rintro ⟨hrow, -⟩
      cases hrow
      exact .inl ⟨rfl, rfl⟩
    · rintro (⟨-, rfl⟩ | ⟨hget, hcleared⟩)
      · exact ⟨rfl, h.cleared⟩
      · -- the record was not there, or it was not cleared
        rcases h.before with hid | ⟨old, hold, hopen⟩
        · rw [hid, hdb.fresh] at hget
          cases hget
        · rw [hget] at hold
          cases hold
          rw [hopen] at hcleared
          cases hcleared
  · rw [if_neg hk]
    exact ⟨.inr, fun h => h.resolve_left fun ⟨hid, _⟩ => hk hid⟩

theorem RecordWritten.isUsed_after (hdb : Matched db)
    (h : RecordWritten db db' receiptId invoiceId id row) {side : GrirClearingRow → Option ℕ}
    {used : ℕ} (hside : side row = some used) (k : ℕ) :
    isUsed db' side k = true ↔ isUsed db side k = true ∨ k = used := by
  simp only [isUsed_iff, ← and_assoc, h.cleared_iff hdb]
  constructor
  · rintro ⟨j, x, ⟨-, rfl⟩ | hold, hk⟩
    · rw [hside] at hk
      exact .inr (Option.some.inj hk).symm
    · exact .inl ⟨j, x, hold, hk⟩
  · rintro (⟨j, x, hold, hk⟩ | rfl)
    · exact ⟨j, x, .inr hold, hk⟩
    · exact ⟨id, row, .inl ⟨rfl, rfl⟩, hside⟩

theorem RecordWritten.isClearedPair_after (hdb : Matched db)
    (h : RecordWritten db db' receiptId invoiceId id row) (r : ReceiptId) (i : InvoiceId) :
    isClearedPair db' r i = true ↔
      isClearedPair db r i = true ∨ (r = receiptId ∧ i = invoiceId) := by
  simp only [isClearedPair_iff, ← and_assoc, h.cleared_iff hdb]
  constructor
  · rintro ⟨k, x, ⟨⟨-, rfl⟩ | hold, hr⟩, hi⟩
    · rw [h.goodsReceiptId] at hr
      rw [h.invoiceId] at hi
      exact .inr ⟨(Option.some.inj hr).symm, (Option.some.inj hi).symm⟩
    · exact .inl ⟨k, x, ⟨hold, hr⟩, hi⟩
  · rintro (⟨k, x, ⟨hold, hr⟩, hi⟩ | ⟨rfl, rfl⟩)
    · exact ⟨k, x, ⟨.inr hold, hr⟩, hi⟩
    · exact ⟨id, row, ⟨.inl ⟨rfl, rfl⟩, h.goodsReceiptId⟩, h.invoiceId⟩

/-- A side that was not used before is used once. -/
theorem RecordWritten.usedOnce (hdb : Matched db)
    (h : RecordWritten db db' receiptId invoiceId id row) {side : GrirClearingRow → Option ℕ}
    {used : ℕ} (hside : side row = some used) (hfree : isUsed db side used = false)
    (honce : UsedOnce db side) : UsedOnce db' side := by
  have hother : ∀ j x, db.clearing.get? j = some x → x.status.isCleared = true →
      side x ≠ some used := by
    intro j x hx hcleared hk
    have htrue := isUsed_iff.mpr ⟨j, x, hx, hcleared, hk⟩
    rw [hfree] at htrue
    cases htrue
  intro j j' x x' hx hx' hc hc' k hk hk'
  rcases (h.cleared_iff hdb).mp ⟨hx, hc⟩ with ⟨rfl, rfl⟩ | ⟨hold, -⟩
  · rcases (h.cleared_iff hdb).mp ⟨hx', hc'⟩ with ⟨rfl, rfl⟩ | ⟨hold', -⟩
    · rfl
    · exact absurd (hk'.trans (hk.symm.trans hside)) (hother j' x' hold' hc')
  · rcases (h.cleared_iff hdb).mp ⟨hx', hc'⟩ with ⟨rfl, rfl⟩ | ⟨hold', -⟩
    · exact absurd (hk.trans (hk'.symm.trans hside)) (hother j x hold hc)
    · exact honce j j' x x' hold hold' hc hc' k hk hk'

end RecordWritten

/-! ## One clear -/

section ItemCleared

variable {env : GrirEnv} {db db' : GrirDb} {receiptId : ReceiptId} {invoiceId : InvoiceId}
  {id : ClearingId} {row : GrirClearingRow}

/-- A journal after the clear was there before, or is the new one of the record. -/
theorem ItemCleared.journal_cases (hdb : Matched db)
    (h : ItemCleared env db db' receiptId invoiceId id row) :
    WellFormed db'.ledger ∧ ∀ t k, IsClearingJournal db' t k →
      IsClearingJournal db t k ∨ (t = db.ledger.nextId ∧ k = id) := by
  rcases h.ledger with hledger | ⟨request, out, hout, htype, hid, hledger⟩
  · refine ⟨hledger ▸ hdb.wellFormed, fun t k hjournal => .inl ?_⟩
    unfold IsClearingJournal at hjournal
    rwa [hledger] at hjournal
  · have heffect := LedgerCall.effect hdb.wellFormed.idsBelow
      (.create (env.context db.ledger) request) hout
    refine ⟨hledger ▸ heffect.wellFormed hdb.wellFormed, ?_⟩
    rintro t k ⟨x, hx, hxtype, hxid⟩
    rw [hledger] at hx
    cases heffect with
    | found hsame _ _ =>
      rw [hsame] at hx
      exact .inl ⟨x, hx, hxtype, hxid⟩
    | posted _ hposted =>
      rcases hposted.headerAdded.get?_cases hx with ⟨rfl, rfl⟩ | hold
      · have hreference := hposted.referenceId
        rw [hid] at hreference
        exact .inr ⟨rfl, hxid.symm.trans (Option.some.inj hreference).symm⟩
      · exact .inl ⟨x, hold, hxtype, hxid⟩

theorem ItemCleared.matched (hdb : Matched db)
    (h : ItemCleared env db db' receiptId invoiceId id row)
    (hfree : Uncleared db receiptId invoiceId) : Matched db' := by
  obtain ⟨hwf, hjournals⟩ := h.journal_cases hdb
  have hw := h.record
  have hbelow : id < db'.nextClearing ∧ db.nextClearing ≤ db'.nextClearing := by
    rw [hw.nextClearing]
    exact ⟨lt_of_lt_of_le (Nat.lt_succ_self id) (le_max_right _ _), le_max_left _ _⟩
  -- the record had no journal yet
  have hnew : ∀ t, ¬ IsClearingJournal db t id := by
    intro t hjournal
    rcases hw.before with hid | ⟨old, hold, hopen⟩
    · exact absurd (hdb.journalsBelow t id hjournal) (hid ▸ lt_irrefl _)
    · rw [hdb.journalCleared t id old hjournal hold] at hopen
      cases hopen
  exact
    { oneToOne :=
        { receipts := hw.usedOnce hdb hw.goodsReceiptId hfree.1 hdb.oneToOne.receipts
          invoices := hw.usedOnce hdb hw.invoiceId hfree.2 hdb.oneToOne.invoices }
      idsBelow := by
        intro k x hx
        rw [hw.get?] at hx
        split at hx
        · rename_i hk
          exact hk ▸ hbelow.1
        · exact lt_of_lt_of_le (hdb.idsBelow k x hx) hbelow.2
      wellFormed := hwf
      journalsBelow := by
        intro t k hjournal
        rcases hjournals t k hjournal with hold | ⟨-, rfl⟩
        · exact lt_of_lt_of_le (hdb.journalsBelow t k hold) hbelow.2
        · exact hbelow.1
      journalCleared := by
        intro t k x hjournal hx
        rw [hw.get?] at hx
        split at hx
        · cases hx
          exact hw.cleared
        · rename_i hk
          rcases hjournals t k hjournal with hold | ⟨-, hid⟩
          · exact hdb.journalCleared t k x hold hx
          · exact absurd hid hk
      journalUnique := by
        intro t t' k x ht ht' hx
        rw [hw.get?] at hx
        split at hx
        · rename_i hk
          subst hk
          rcases hjournals t k ht with hold | ⟨rfl, -⟩
          · exact absurd hold (hnew t)
          · rcases hjournals t' k ht' with hold | ⟨rfl, -⟩
            · exact absurd hold (hnew t')
            · rfl
        · rename_i hk
          rcases hjournals t k ht with hold | ⟨-, hid⟩
          · rcases hjournals t' k ht' with hold' | ⟨-, hid⟩
            · exact hdb.journalUnique t t' k x hold hold' hx
            · exact absurd hid hk
          · exact absurd hid hk }

end ItemCleared

/-! ## One automatic run -/

/-- What one pair of a run does: it is cleared, or it is reported as failed. -/
theorem autoClear_cases (env : GrirEnv) {s : AutoMatchResult × GrirDb} (hdb : Matched s.2)
    (c : MatchCandidate) :
    (∃ id row, ItemCleared env s.2 (autoClear env s c).2 c.receiptId c.invoiceId id row ∧
        (autoClear env s c).1.failures = s.1.failures) ∨
      ((autoClear env s c).2 = s.2 ∧
        ∃ error, (autoClear env s c).1.failures = s.1.failures ++ [(c, error)]) := by
  unfold autoClear
  split
  · rename_i result db h
    obtain ⟨id, row, hcleared⟩ := clearItem_effect hdb.fresh h
    exact .inl ⟨id, row, hcleared, rfl⟩
  · rename_i error h
    exact .inr ⟨rfl, error, rfl⟩

/-- What a pass over pairs does. -/
structure Passed (cs : List MatchCandidate) (s s' : AutoMatchResult × GrirDb) : Prop where
  matched : Matched s'.2
  documents : s'.2.documents = s.2.documents
  kept : ∀ r i, isClearedPair s.2 r i = true → isClearedPair s'.2 r i = true
  failures : ∀ f ∈ s.1.failures, f ∈ s'.1.failures
  tried : ∀ c ∈ cs, isClearedPair s'.2 c.receiptId c.invoiceId = true ∨
    ∃ error, (c, error) ∈ s'.1.failures

/-- Pairs that share no side are cleared one after the other. -/
theorem autoClears_passed (env : GrirEnv) {cs : List MatchCandidate}
    (hpairs : cs.Pairwise fun c d => c.receiptId ≠ d.receiptId ∧ c.invoiceId ≠ d.invoiceId)
    {s : AutoMatchResult × GrirDb} (hdb : Matched s.2)
    (hfree : ∀ c ∈ cs, Uncleared s.2 c.receiptId c.invoiceId) :
    Passed cs s (cs.foldl (autoClear env) s) := by
  induction cs generalizing s with
  | nil => exact ⟨hdb, rfl, fun _ _ h => h, fun _ h => h, fun c hc => nomatch hc⟩
  | cons c rest ih =>
    obtain ⟨hhead, hrest⟩ := List.pairwise_cons.mp hpairs
    obtain ⟨hc, hfreeRest⟩ := List.forall_mem_cons.mp hfree
    rw [List.foldl_cons]
    rcases autoClear_cases env hdb c with ⟨id, row, hcleared, hfailures⟩ | ⟨hsame, error, hfailures⟩
    · have hw := hcleared.record
      have hpassed := ih hrest (hcleared.matched hdb hc) fun d hd => by
        obtain ⟨hreceipt, hinvoice⟩ := hhead d hd
        obtain ⟨hfreeReceipt, hfreeInvoice⟩ := hfreeRest d hd
        refine ⟨Bool.eq_false_iff.mpr fun htrue => ?_, Bool.eq_false_iff.mpr fun htrue => ?_⟩
        · rcases (hw.isUsed_after hdb hw.goodsReceiptId _).mp htrue with hold | heq
          · exact Bool.eq_false_iff.mp hfreeReceipt hold
          · exact hreceipt heq.symm
        · rcases (hw.isUsed_after hdb hw.invoiceId _).mp htrue with hold | heq
          · exact Bool.eq_false_iff.mp hfreeInvoice hold
          · exact hinvoice heq.symm
      refine ⟨hpassed.matched, hpassed.documents.trans hcleared.documents, fun r i hpair => ?_,
        fun f hf => ?_, List.forall_mem_cons.mpr ⟨.inl ?_, hpassed.tried⟩⟩
      · exact hpassed.kept r i ((hw.isClearedPair_after hdb r i).mpr (.inl hpair))
      · exact hpassed.failures f (hfailures ▸ hf)
      · exact hpassed.kept _ _ ((hw.isClearedPair_after hdb _ _).mpr (.inr ⟨rfl, rfl⟩))
    · have hpassed := ih hrest (s := autoClear env s c) (hsame ▸ hdb) fun d hd => by
        rw [hsame]
        exact hfreeRest d hd
      refine ⟨hpassed.matched, hpassed.documents.trans (by rw [hsame]), fun r i hpair => ?_,
        fun f hf => ?_, List.forall_mem_cons.mpr ⟨.inr ⟨error, ?_⟩, hpassed.tried⟩⟩
      · exact hpassed.kept r i (by rw [hsame]; exact hpair)
      · exact hpassed.failures f (by rw [hfailures]; exact List.mem_append_left _ hf)
      · exact hpassed.failures _ (by rw [hfailures]; exact List.mem_append_right _ List.mem_cons_self)

/-- An automatic run whose pairs are uncleared. -/
theorem autoMatch_passed (env : GrirEnv) {db : GrirDb} {options : AutoMatchOptions}
    (hdb : Matched db) (hsound : Sound db (.auto env options)) :
    ∃ start, Passed (selectedPairs db options) (start, db) (autoMatch env db options) := by
  unfold autoMatch
  exact ⟨_, autoClears_passed env (pairwise_greedyMatching _ _ _) hdb hsound⟩

/-- The pairs a second run selects are those of the first that are not cleared since. -/
theorem selectedPairs_after {db db' : GrirDb} {options : AutoMatchOptions}
    (hdocuments : db'.documents = db.documents)
    (hkept : ∀ r i, isClearedPair db r i = true → isClearedPair db' r i = true)
    (hfree : ∀ c ∈ selectedPairs db' options, Uncleared db' c.receiptId c.invoiceId) :
    selectedPairs db' options =
      (selectedPairs db options).filter fun c => !isClearedPair db' c.receiptId c.invoiceId := by
  have hcandidates : getMatchCandidates db' options.supplierFilter =
      (getMatchCandidates db options.supplierFilter).filter fun c =>
        !isClearedPair db' c.receiptId c.invoiceId := by
    unfold getMatchCandidates
    rw [hdocuments, List.filter_filter]
    refine List.filter_congr fun c _ => ?_
    cases hpair : isClearedPair db c.receiptId c.invoiceId with
    | true => rw [hkept _ _ hpair]; rfl
    | false => rw [Bool.not_false, Bool.and_true]
  dsimp only [selectedPairs, selectF13Pairs] at hfree ⊢
  rw [hcandidates, List.filter_comm] at hfree ⊢
  refine greedyMatching_filter (fun _ h => h) (fun _ h => h) fun c hc => ⟨id, id, fun d _ hd => ?_⟩
  -- `d` is cleared, so a pair that shares a side with it is not uncleared
  obtain ⟨hreceipt, hinvoice⟩ := hfree c hc
  obtain ⟨id, row, hget, hcleared, hr, hi⟩ := isClearedPair_iff.mp (by simpa using hd)
  refine ⟨fun heq => Bool.eq_false_iff.mp hreceipt ?_, fun heq => Bool.eq_false_iff.mp hinvoice ?_⟩
  · exact isUsed_iff.mpr ⟨id, row, hget, hcleared, heq ▸ hr⟩
  · exact isUsed_iff.mpr ⟨id, row, hget, hcleared, heq ▸ hi⟩

/-! ## Runs -/

/-- Nothing is cleared yet, and no journal is about a record. -/
structure NothingCleared (db : GrirDb) : Prop where
  uncleared : ∀ id row, db.clearing.get? id = some row → row.status.isCleared = false
  idsBelow : ∀ id row, db.clearing.get? id = some row → id < db.nextClearing
  wellFormed : WellFormed db.ledger
  journals : ∀ t id, IsClearingJournal db t id →
    id < db.nextClearing ∧ db.clearing.get? id = none

theorem NothingCleared.matched {db : GrirDb} (h : NothingCleared db) : Matched db := by
  have honce : ∀ side, UsedOnce db side := by
    intro side id id' row row' hrow hrow' hcleared
    rw [h.uncleared id row hrow] at hcleared
    cases hcleared
  exact
    { oneToOne := ⟨honce _, honce _⟩
      idsBelow := h.idsBelow
      wellFormed := h.wellFormed
      journalsBelow := fun t id hjournal => (h.journals t id hjournal).1
      journalCleared := fun t id row hjournal hrow => by
        rw [(h.journals t id hjournal).2] at hrow
        cases hrow
      journalUnique := fun t t' id row hjournal _ hrow => by
        rw [(h.journals t id hjournal).2] at hrow
        cases hrow }

/-- A sound call keeps the invariant. -/
theorem GrirStep.matched {db db' : GrirDb} {call : GrirCall} (hdb : Matched db)
    (h : GrirStep db call db') (hsound : Sound db call) : Matched db' := by
  cases call with
  | clear env data =>
    obtain ⟨⟨result, db''⟩, hclear, rfl⟩ := map_eq_ok h
    obtain ⟨id, row, hcleared⟩ := clearItem_effect hdb.fresh hclear
    exact hcleared.matched hdb hsound
  | auto env options =>
    obtain ⟨start, hpassed⟩ := autoMatch_passed env hdb hsound
    exact (show (autoMatch env db options).2 = db' from h) ▸ hpassed.matched

/-- A journal clears the receipt: it is about a cleared record of it. -/
def ClearsReceipt (db : GrirDb) (receiptId : ReceiptId) (t : TransactionId) : Prop :=
  ∃ id row, db.clearing.get? id = some row ∧ row.status.isCleared = true ∧
    row.goodsReceiptId = some receiptId ∧ IsClearingJournal db t id

/-- What a run keeps. -/
structure ClearedOnce (db : GrirDb) : Prop where
  oneToOne : OneToOne db
  /-- A receipt has at most one journal. -/
  journals : ∀ receiptId t t', ClearsReceipt db receiptId t → ClearsReceipt db receiptId t' → t = t'

theorem Matched.clearedOnce {db : GrirDb} (h : Matched db) : ClearedOnce db where
  oneToOne := h.oneToOne
  journals := by
    rintro receiptId t t' ⟨id, row, hget, hcleared, hr, ht⟩ ⟨id', row', hget', hcleared', hr', ht'⟩
    have hid := h.oneToOne.receipts id id' row row' hget hget' hcleared hcleared' receiptId hr hr'
    subst hid
    exact h.journalUnique t t' id row ht ht' hget

/-- An automatic run right after one with the same options tries only pairs the first one has
reported, and changes nothing when there are none. -/
def RerunTriesFailures (db : GrirDb) (env : GrirEnv) (options : AutoMatchOptions) : Prop :=
  ∀ first env', first = autoMatch env db options → Sound first.2 (.auto env' options) →
    (∀ c ∈ selectedPairs first.2 options, ∃ error, (c, error) ∈ first.1.failures) ∧
      (first.1.failures = [] → (autoMatch env' first.2 options).2 = first.2)

theorem Matched.rerun {db : GrirDb} {env : GrirEnv} {options : AutoMatchOptions} (hdb : Matched db)
    (hsound : Sound db (.auto env options)) : RerunTriesFailures db env options := by
  intro first env' hfirst hsound'
  obtain ⟨start, hpassed⟩ := autoMatch_passed env hdb hsound
  rw [← hfirst] at hpassed
  have hselected := selectedPairs_after hpassed.documents hpassed.kept hsound'
  have hfailed : ∀ c ∈ selectedPairs first.2 options, ∃ error, (c, error) ∈ first.1.failures := by
    intro c hc
    rw [hselected, List.mem_filter] at hc
    rcases hpassed.tried c hc.1 with hpair | herror
    · rw [hpair] at hc
      exact absurd hc.2 Bool.false_ne_true
    · exact herror
  refine ⟨hfailed, fun hnone => ?_⟩
  have hempty : selectedPairs first.2 options = [] := by
    rw [List.eq_nil_iff_forall_not_mem]
    intro c hc
    obtain ⟨error, herror⟩ := hfailed c hc
    rw [hnone] at herror
    cases herror
  unfold autoMatch
  rw [hempty]
  rfl

/-- In a run that clears no receipt and no invoice again, matching is one to one, in every
state; and an automatic run made again adds nothing. -/
theorem matched_one_to_one {db db' : GrirDb} {steps : List (GrirDb × GrirCall × GrirDb)}
    (hdb : NothingCleared db) (hrun : Run GrirStep db steps db')
    (hsound : ∀ t ∈ steps, Sound t.1 t.2.1) :
    ClearedOnce db' ∧ (∀ t ∈ steps, ClearedOnce t.1 ∧ ClearedOnce t.2.2) ∧
      ∀ t ∈ steps, ∀ env options, t.2.1 = .auto env options →
        RerunTriesFailures t.1 env options := by
  obtain ⟨hlast, hall⟩ := hrun.holds (P := Matched) (K := Sound)
    (fun _ _ _ hs hstep hsound => GrirStep.matched hs hstep hsound) hsound hdb.matched
  refine ⟨hlast.clearedOnce, fun t ht => ?_, fun t ht env options hcall => ?_⟩
  · exact ⟨(hall t ht).1.clearedOnce, (hall t ht).2.clearedOnce⟩
  · exact (hall t ht).1.rerun (hcall ▸ hsound t ht)

/-! ## Two deliveries -/

/-- Two deliveries of 100 and two bills of 100: on one order each, or all on the first. -/
def deliveries (secondOrder : OrderId) : GrirDocuments where
  receipts := (OrderedMap.empty.set 1 ⟨"GR-1", some 1, "COMPLETED", 0, [⟨⟨10000⟩, ⟨10000⟩⟩]⟩).set 2
    ⟨"GR-2", some secondOrder, "COMPLETED", 0, [⟨⟨10000⟩, ⟨10000⟩⟩]⟩
  orders := (OrderedMap.empty.set 1 ⟨"PO-1", 1, ⟨10000⟩⟩).set 2 ⟨"PO-2", 1, ⟨10000⟩⟩
  suppliers := OrderedMap.empty.set 1 ⟨"Mill", none⟩
  invoices := (OrderedMap.empty.set 1
    ⟨some "SBILL-1", none, some 1, 1, ⟨100000000⟩, "Unpaid", none, false, false⟩).set 2
    ⟨some "SBILL-2", none, some secondOrder, 1, ⟨100000000⟩, "Unpaid", none, false, true⟩
  grnLinks := []

def grirAccount : AccountRow := ⟨"2150", "GR/IR Clearing", .CREDIT, true, true, [], none, 0⟩
def payablesAccount : AccountRow := ⟨"2100", "Accounts Payable", .CREDIT, true, true, [], none, 0⟩

/-- Books with the two accounts of an exact clear. -/
def grirBooks (secondOrder : OrderId) : GrirDb where
  documents := deliveries secondOrder
  clearing := OrderedMap.empty
  ledger := { books with
    accounts := (OrderedMap.empty.set 1 grirAccount).set 2 payablesAccount
    codes_nodup := by decide }
  nextClearing := 1

def clerkEnv : GrirEnv := ⟨january, "clerk", (·.transactions), .enforce, 0⟩

def matchAll : AutoMatchOptions := ⟨.none, none⟩

def afterMatch (db : GrirDb) : GrirDb := (autoMatch clerkEnv db matchAll).2

theorem grirBooks_nothingCleared (secondOrder : OrderId) :
    NothingCleared (grirBooks secondOrder) where
  uncleared := fun _ _ h => nomatch h
  idsBelow := fun _ _ h => nomatch h
  wellFormed := EmptyLedger.wellFormed
    { transactions := rfl
      entries := rfl
      balances := by
        intro a row hrow
        have hall : ∀ e ∈ (grirBooks secondOrder).ledger.accounts.entries,
            e.2.currentBalance = 0 := by
          change ∀ e ∈ [(1, grirAccount), (2, payablesAccount)], e.2.currentBalance = 0
          decide
        exact hall (a, row) (OrderedMap.get?_eq_some_iff.mp hrow)
      periodBalances := rfl
      events := rfl }
  journals := fun _ _ ⟨_, h, _⟩ => nomatch h

/-- Two runs, one after the other. -/
theorem grirBooks_run (secondOrder : OrderId) :
    Run GrirStep (grirBooks secondOrder)
      [(grirBooks secondOrder, .auto clerkEnv matchAll, afterMatch (grirBooks secondOrder)),
        (afterMatch (grirBooks secondOrder), .auto clerkEnv matchAll,
          afterMatch (afterMatch (grirBooks secondOrder)))]
      (afterMatch (afterMatch (grirBooks secondOrder))) :=
  .cons rfl (.cons rfl (.nil _))

/-- One order each. -/
theorem matched_one_to_one_twoOrders : ClearedOnce (afterMatch (afterMatch (grirBooks 2))) :=
  (matched_one_to_one (grirBooks_nothingCleared 2) (grirBooks_run 2) (by decide +kernel)).1

/-- All on one order: the second run matches crosswise what the first has matched. -/
theorem deliveries_matched_crosswise :
    NothingCleared (grirBooks 1) ∧ (∃ steps, Run GrirStep (grirBooks 1) steps
      (afterMatch (afterMatch (grirBooks 1)))) ∧
      ¬ OneToOne (afterMatch (afterMatch (grirBooks 1))) := by
  refine ⟨grirBooks_nothingCleared 1, ⟨_, grirBooks_run 1⟩, fun h => ?_⟩
  have hpair : isClearedPair (afterMatch (afterMatch (grirBooks 1))) 1 1 = true := by
    decide +kernel
  have hpair' : isClearedPair (afterMatch (afterMatch (grirBooks 1))) 1 2 = true := by
    decide +kernel
  obtain ⟨id, row, hget, hcleared, hr, hi⟩ := isClearedPair_iff.mp hpair
  obtain ⟨id', row', hget', hcleared', hr', hi'⟩ := isClearedPair_iff.mp hpair'
  have hid := h.receipts id id' row row' hget hget' hcleared hcleared' 1 hr hr'
  rw [← hid, hget] at hget'
  cases hget'
  rw [hi] at hi'
  cases hi'

end SmartErpPos.Grir
