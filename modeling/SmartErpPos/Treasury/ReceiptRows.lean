/-
  Treasury/ReceiptRows.lean --- the settlement rows against what their receipts are worth.

  A receipt is worth the cash it debited, and nothing once it is reversed.  Its row waits for
  what it is worth less what active applications have taken.  Synchronising, applying and
  releasing keep this; the applications are a parameter, since a release takes back one
  application after the other before any of them is marked.
-/
import SmartErpPos.Treasury.ReceiptLedger

set_option autoImplicit false

namespace SmartErpPos.Treasury

open SmartErpPos.Lib SmartErpPos.Ledger SmartErpPos.Deposits

/-! ## What a receipt is worth -/

/-- The cash of a payment that is not reversed, and the amount of a deposit. -/
def worth (cash : SourceId → Money) (db : ReceiptDb) (receipt : ReceiptKey) : Option Money :=
  match receipt.sourceType with
  | .AR_CUSTOMER_PAYMENT => (db.arPayments.get? receipt.sourceId).map fun p =>
      if p.status = .REVERSED then 0 else cash receipt.sourceId
  | .CUSTOMER_DEPOSIT => (db.deposits.get? receipt.sourceId).map (·.amount)
  | .INVOICE_PAYMENT => none

theorem isReversed_iff {db : ReceiptDb} {receipt : ReceiptKey} : db.isReversed receipt = true ↔
    receipt.sourceType = .AR_CUSTOMER_PAYMENT ∧
      ∃ p, db.arPayments.get? receipt.sourceId = some p ∧ p.status = .REVERSED := by
  unfold ReceiptDb.isReversed
  simp [Option.any_eq_true]

/-- A reversed receipt is worth nothing. -/
theorem worth_of_isReversed {cash : SourceId → Money} {db : ReceiptDb} {receipt : ReceiptKey}
    {amount : Money} (h : db.isReversed receipt = true) (hworth : worth cash db receipt = some amount) :
    amount = 0 := by
  obtain ⟨htype, p, hp, hstatus⟩ := isReversed_iff.mp h
  unfold worth at hworth
  rw [htype] at hworth
  dsimp only at hworth
  rw [hp, Option.map_some, if_pos hstatus] at hworth
  exact (Option.some.inj hworth).symm

/-- Rows agree with their receipts and with the active applications. -/
structure RowsAgree (cash : SourceId → Money) (active : List SettlementApplication)
    (db : ReceiptDb) : Prop where
  paid : ∀ id p, db.arPayments.get? id = some p →
    0 < cash id ∧ PaidBy db id (cash id) (p.status ≠ .REVERSED)
  row : ∀ receipt s, db.settlements.get? receipt = some s → ∃ amount,
    worth cash db receipt = some amount ∧ s.residualAmount = amount - amountOn active receipt ∧
      (db.isReversed receipt = false → s.originatingAmount = amount)
  applied : ∀ a ∈ active, (db.settlements.get? a.receipt).isSome = true ∧
    db.isReversed a.receipt = false

theorem amountOn_eq_zero {active : List SettlementApplication} {receipt : ReceiptKey}
    (h : ∀ a ∈ active, a.receipt ≠ receipt) : amountOn active receipt = 0 := by
  unfold amountOn
  rw [List.filter_eq_nil_iff.mpr fun a ha => by rw [decide_eq_true_eq]; exact h a ha]
  rfl

namespace RowsAgree

variable {cash : SourceId → Money} {active : List SettlementApplication} {db : ReceiptDb}
  {receipt : ReceiptKey} {s : ReceiptSettlement}

/-- The row of a reversed receipt waits for nothing. -/
theorem residual_of_reversed (h : RowsAgree cash active db)
    (hs : db.settlements.get? receipt = some s) (hrev : db.isReversed receipt = true) :
    s.residualAmount = 0 := by
  obtain ⟨amount, hworth, hresidual, -⟩ := h.row receipt s hs
  have hnone : amountOn active receipt = 0 := by
    refine amountOn_eq_zero fun a ha heq => ?_
    have hopen := (h.applied a ha).2
    rw [heq, hrev] at hopen
    cases hopen
  rw [hresidual, worth_of_isReversed hrev hworth, hnone, sub_zero]

/-- Otherwise its applications are what is settled. -/
theorem settled_eq (h : RowsAgree cash active db) (hs : db.settlements.get? receipt = some s)
    (hrev : db.isReversed receipt = false) : s.settledAmount = amountOn active receipt := by
  obtain ⟨amount, -, hresidual, horiginating⟩ := h.row receipt s hs
  have heq := s.residual_eq
  rw [hresidual, horiginating hrev] at heq
  exact (sub_right_injective heq).symm

/-- A receipt without a row has no active application. -/
theorem amountOn_of_none (h : RowsAgree cash active db) (hs : db.settlements.get? receipt = none) :
    amountOn active receipt = 0 := by
  refine amountOn_eq_zero fun a ha heq => ?_
  have hsome := (h.applied a ha).1
  rw [heq, hs] at hsome
  cases hsome

theorem cashDebitOf (h : RowsAgree cash active db) {id : SourceId} {p : ArCustomerPayment}
    (hp : db.arPayments.get? id = some p) : db.cashDebitOf id = some (cash id) :=
  (h.paid id p hp).2.cashDebitOf

/-- Both updates of the synchronisation leave a row as it is. -/
theorem updates_eq (h : RowsAgree cash active db) (hs : db.settlements.get? receipt = some s) :
    db.alignCash receipt (db.closeReversed receipt s) = s := by
  have hclose : db.closeReversed receipt s = s := by
    unfold ReceiptDb.closeReversed
    rw [if_neg]
    rintro ⟨hrev, hresidual, -⟩
    rw [h.residual_of_reversed hs hrev, Numeric.toRat_zero] at hresidual
    norm_num at hresidual
  rw [hclose]
  unfold ReceiptDb.alignCash
  split
  · rename_i cashDebit htype hcash
    unfold ReceiptSettlement.aligned
    rw [dif_neg]
    rintro ⟨-, hdiff, hsettled⟩
    obtain ⟨amount, hworth, hresidual, horiginating⟩ := h.row receipt s hs
    cases hrev : db.isReversed receipt with
    | false =>
      have hamount := hworth
      unfold worth at hamount
      rw [htype] at hamount
      obtain ⟨p, hp, hpaid⟩ := Option.map_eq_some_iff.mp hamount
      have hopen : p.status ≠ .REVERSED := by
        intro hstatus
        rw [isReversed_iff.mpr ⟨htype, p, hp, hstatus⟩] at hrev
        cases hrev
      rw [if_neg hopen] at hpaid
      rw [h.cashDebitOf hp] at hcash
      cases hcash
      rw [horiginating hrev, ← hpaid, sub_self, abs_zero] at hdiff
      norm_num at hdiff
    | true =>
      have hzero := s.residual_eq
      rw [h.residual_of_reversed hs hrev] at hzero
      have hall : s.settledAmount = s.originatingAmount := (sub_eq_zero.mp hzero.symm).symm
      exact absurd s.originating_pos (not_lt.mpr (hall ▸ toRat_le_iff.mp hsettled))
  · rfl

end RowsAgree

/-! ## Synchronising -/

/-- The alignment of a row of which nothing is settled. -/
theorem aligned_of_unsettled {s : ReceiptSettlement} (hs : s.settledAmount = 0) {cash : Money}
    (hcash : 0 < cash) :
    (s.aligned cash).originatingAmount = cash ∧ (s.aligned cash).settledAmount = 0 := by
  unfold ReceiptSettlement.aligned
  split
  · exact ⟨rfl, hs⟩
  · rename_i hno
    have hsettled : s.settledAmount.toRat ≤ 9 / 1000 := toRat_le_iff.mpr hs.le
    have hclose : |(s.originatingAmount - cash).toRat| ≤ 9 / 1000 := by
      rw [Numeric.toRat_sub]
      exact not_lt.mp fun hlt => hno ⟨hcash, hlt, hsettled⟩
    obtain ⟨hlow, hhigh⟩ := abs_le.mp hclose
    have hle : s.originatingAmount - cash ≤ 0 := toRat_le_iff.mp hhigh
    have hge : -(s.originatingAmount - cash) ≤ 0 := by
      refine toRat_le_iff.mp ?_
      rw [Numeric.toRat_neg]
      linarith
    refine ⟨sub_eq_zero.mp (le_antisymm hle (neg_nonpos.mp hge)), hs⟩

/-- The rows after a synchronisation: the old ones stay, a new one waits for what its receipt is
worth, and only reversed payments and closed deposits have none. -/
structure Synced (cash : SourceId → Money) (db : ReceiptDb) (rows : Settlements) : Prop where
  kept : ∀ receipt s, db.settlements.get? receipt = some s → rows.get? receipt = some s
  new : ∀ receipt s, rows.get? receipt = some s → db.settlements.get? receipt = some s ∨
    (db.settlements.get? receipt = none ∧ s.settledAmount = 0 ∧
      worth cash db receipt = some s.originatingAmount)
  payments : ∀ id p, db.arPayments.get? id = some p → p.status ≠ .REVERSED →
    (rows.get? ⟨.AR_CUSTOMER_PAYMENT, id⟩).isSome = true
  deposits : ∀ id d, db.deposits.get? id = some d → d.status ≠ .REFUNDED →
    d.status ≠ .CANCELLED → (rows.get? ⟨.CUSTOMER_DEPOSIT, id⟩).isSome = true

/-- The rows after both insertions. -/
def ReceiptDb.insertedRows (db : ReceiptDb) : Settlements :=
  db.deposits.entries.foldl ReceiptDb.insertDeposit
    (db.arPayments.entries.foldl db.insertPayment db.settlements)

theorem get?_syncReceiptSettlements (db : ReceiptDb) (receipt : ReceiptKey) :
    db.syncReceiptSettlements.settlements.get? receipt =
      (db.insertedRows.get? receipt).map fun s =>
        db.alignCash receipt (db.closeReversed receipt s) := by
  change ((db.insertedRows.mapWithKey db.closeReversed).mapWithKey db.alignCash).get? receipt = _
  rw [OrderedMap.get?_mapWithKey, OrderedMap.get?_mapWithKey, Option.map_map]
  rfl

/-- The insertion of payments. -/
theorem insertPayment_spec (db : ReceiptDb) :
    let rows := db.arPayments.entries.foldl db.insertPayment db.settlements
    (∀ receipt s, db.settlements.get? receipt = some s → rows.get? receipt = some s) ∧
      (∀ receipt s, rows.get? receipt = some s → db.settlements.get? receipt = some s ∨
        (db.settlements.get? receipt = none ∧ ∃ e ∈ db.arPayments.entries,
          (e.2.status ≠ .REVERSED ∧ (db.cashDebitOf e.1).isSome = true) ∧
          receipt = ⟨.AR_CUSTOMER_PAYMENT, e.1⟩ ∧
          s = .unsettled e.2.paymentNumber e.2.totalAmount e.2.total_pos)) ∧
      ∀ e ∈ db.arPayments.entries, (e.2.status ≠ .REVERSED ∧ (db.cashDebitOf e.1).isSome = true) →
        (rows.get? ⟨.AR_CUSTOMER_PAYMENT, e.1⟩).isSome = true := by
  refine OrderedMap.foldl_insertMissing (fun rows e hc hnone => ?_) (fun rows e hno => ?_) _ _
  · exact if_pos ⟨hc.1, hc.2, hnone⟩
  · exact if_neg fun h => hno ⟨⟨h.1, h.2.1⟩, h.2.2⟩

/-- The insertion of deposits. -/
theorem insertDeposit_spec (db : ReceiptDb) (rows : Settlements) :
    let after := db.deposits.entries.foldl ReceiptDb.insertDeposit rows
    (∀ receipt s, rows.get? receipt = some s → after.get? receipt = some s) ∧
      (∀ receipt s, after.get? receipt = some s → rows.get? receipt = some s ∨
        (rows.get? receipt = none ∧ ∃ e ∈ db.deposits.entries,
          (e.2.status ≠ .REFUNDED ∧ e.2.status ≠ .CANCELLED) ∧
          receipt = ⟨.CUSTOMER_DEPOSIT, e.1⟩ ∧
          s = .unsettled e.2.depositNumber e.2.amount e.2.amount_pos)) ∧
      ∀ e ∈ db.deposits.entries, (e.2.status ≠ .REFUNDED ∧ e.2.status ≠ .CANCELLED) →
        (after.get? ⟨.CUSTOMER_DEPOSIT, e.1⟩).isSome = true := by
  refine OrderedMap.foldl_insertMissing (fun rows e hc hnone => ?_) (fun rows e hno => ?_) _ _
  · exact if_pos ⟨hc.1, hc.2, hnone⟩
  · exact if_neg fun h => hno ⟨⟨h.1, h.2.1⟩, h.2.2⟩

theorem RowsAgree.synced {cash : SourceId → Money} {active : List SettlementApplication}
    {db : ReceiptDb} (h : RowsAgree cash active db) :
    Synced cash db db.syncReceiptSettlements.settlements := by
  obtain ⟨hkept, hnew, hall⟩ := insertPayment_spec db
  obtain ⟨hkept', hnew', hall'⟩ := insertDeposit_spec db
    (db.arPayments.entries.foldl db.insertPayment db.settlements)
  have hupdate : ∀ receipt s, db.settlements.get? receipt = some s →
      db.syncReceiptSettlements.settlements.get? receipt = some s := by
    intro receipt s hs
    rw [get?_syncReceiptSettlements, ReceiptDb.insertedRows, hkept' _ _ (hkept _ _ hs),
      Option.map_some, h.updates_eq hs]
  refine ⟨hupdate, fun receipt s hs => ?_, fun id p hp hopen => ?_, fun id d hd hrefunded hcancelled => ?_⟩
  · rw [get?_syncReceiptSettlements] at hs
    obtain ⟨s0, hs0, rfl⟩ := Option.map_eq_some_iff.mp hs
    rcases hnew' receipt s0 hs0 with hs0 | ⟨hnone, e, he, -, rfl, rfl⟩
    · rcases hnew receipt s0 hs0 with hs0 | ⟨hnone, e, he, ⟨hopen, -⟩, rfl, rfl⟩
      · rw [h.updates_eq hs0]
        exact .inl hs0
      · have hp := OrderedMap.get?_eq_some_iff.mpr he
        have hclose : ∀ s, db.closeReversed ⟨.AR_CUSTOMER_PAYMENT, e.1⟩ s = s := by
          intro s
          unfold ReceiptDb.closeReversed
          rw [if_neg]
          rintro ⟨hrev, -⟩
          obtain ⟨-, p, hp', hstatus⟩ := isReversed_iff.mp hrev
          rw [hp] at hp'
          cases hp'
          exact hopen hstatus
        have halign : ∀ s, db.alignCash ⟨.AR_CUSTOMER_PAYMENT, e.1⟩ s = s.aligned (cash e.1) := by
          intro s
          unfold ReceiptDb.alignCash
          dsimp only
          rw [h.cashDebitOf hp]
        obtain ⟨horiginating, hsettled⟩ := aligned_of_unsettled
          (s := .unsettled e.2.paymentNumber e.2.totalAmount e.2.total_pos) rfl
          (h.paid e.1 e.2 hp).1
        refine .inr ⟨hnone, ?_, ?_⟩
        · rw [hclose, halign, hsettled]
        · rw [hclose, halign, horiginating]
          unfold worth
          dsimp only
          rw [hp, Option.map_some, if_neg hopen]
    · have hd := OrderedMap.get?_eq_some_iff.mpr he
      have hsame : ∀ s, db.alignCash ⟨.CUSTOMER_DEPOSIT, e.1⟩
          (db.closeReversed ⟨.CUSTOMER_DEPOSIT, e.1⟩ s) = s := by
        intro s
        unfold ReceiptDb.alignCash ReceiptDb.closeReversed
        dsimp only
        rw [if_neg]
        rintro ⟨hrev, -⟩
        cases (isReversed_iff.mp hrev).1
      refine .inr ⟨?_, by rw [hsame]; rfl, ?_⟩
      · rw [Option.eq_none_iff_forall_ne_some]
        intro s hs
        rw [hkept _ _ hs] at hnone
        cases hnone
      · rw [hsame]
        unfold worth
        dsimp only
        rw [hd, Option.map_some]
        rfl
  · obtain ⟨s, hs⟩ := Option.isSome_iff_exists.mp (hall (id, p)
      (OrderedMap.get?_eq_some_iff.mp hp) ⟨hopen, by rw [h.cashDebitOf hp]; rfl⟩)
    rw [get?_syncReceiptSettlements, ReceiptDb.insertedRows, hkept' _ _ hs]
    rfl
  · have hsome := hall' (id, d) (OrderedMap.get?_eq_some_iff.mp hd) ⟨hrefunded, hcancelled⟩
    rw [get?_syncReceiptSettlements, Option.isSome_map]
    exact hsome

/-- The synchronisation keeps the rows in agreement. -/
theorem RowsAgree.sync {cash : SourceId → Money} {active : List SettlementApplication}
    {db : ReceiptDb} (h : RowsAgree cash active db) :
    RowsAgree cash active db.syncReceiptSettlements := by
  have hsynced := h.synced
  refine ⟨h.paid, fun receipt s hs => ?_, fun a ha => ?_⟩
  · rcases hsynced.new receipt s hs with hold | ⟨hnone, hsettled, hworth⟩
    · exact h.row receipt s hold
    · refine ⟨s.originatingAmount, hworth, ?_, fun _ => rfl⟩
      rw [s.residual_eq, hsettled, h.amountOn_of_none hnone]
  · obtain ⟨hsome, hopen⟩ := h.applied a ha
    obtain ⟨s, hs⟩ := Option.isSome_iff_exists.mp hsome
    exact ⟨by rw [hsynced.kept _ _ hs]; rfl, hopen⟩

/-! ## Locking, applying and releasing -/

/-- Only settlement rows and applications have changed. -/
structure SameReceipts (db db' : ReceiptDb) : Prop where
  arPayments : db'.arPayments = db.arPayments
  deposits : db'.deposits = db.deposits
  documents : db'.documents = db.documents
  journals : db'.journals = db.journals
  nextId : db'.nextId = db.nextId

theorem SameReceipts.refl (db : ReceiptDb) : SameReceipts db db := ⟨rfl, rfl, rfl, rfl, rfl⟩

theorem SameReceipts.trans {db db' db'' : ReceiptDb} (h : SameReceipts db db')
    (h' : SameReceipts db' db'') : SameReceipts db db'' :=
  ⟨h'.arPayments.trans h.arPayments, h'.deposits.trans h.deposits,
    h'.documents.trans h.documents, h'.journals.trans h.journals, h'.nextId.trans h.nextId⟩

/-- A locked row is there, and rows still agree. -/
theorem RowsAgree.lock {cash : SourceId → Money} {active : List SettlementApplication}
    {db db' : ReceiptDb} {receipt : ReceiptKey} {s : ReceiptSettlement}
    (h : RowsAgree cash active db) (hlock : db.lockSettlement receipt = .ok (db', s)) :
    RowsAgree cash active db' ∧ SameReceipts db db' ∧ db'.applications = db.applications ∧
      db'.settlements.get? receipt = some s ∧
      ∀ receipt, (db.settlements.get? receipt).isSome = true →
        (db'.settlements.get? receipt).isSome = true := by
  unfold ReceiptDb.lockSettlement at hlock
  split at hlock
  · rename_i s' hs
    rw [pure_eq_ok] at hlock
    cases hlock
    exact ⟨h, .refl db, rfl, hs, fun _ hsome => hsome⟩
  · dsimp only at hlock
    split at hlock
    · rename_i s' hs
      rw [pure_eq_ok] at hlock
      cases hlock
      refine ⟨h.sync, ⟨rfl, rfl, rfl, rfl, rfl⟩, rfl, hs, fun receipt hsome => ?_⟩
      obtain ⟨s0, hs0⟩ := Option.isSome_iff_exists.mp hsome
      rw [h.synced.kept _ _ hs0]
      rfl
    · cases hlock

/-- The row of a receipt after another amount is applied or released. -/
theorem RowsAgree.setRow {cash : SourceId → Money} {active : List SettlementApplication}
    {db : ReceiptDb} {receipt : ReceiptKey} {s s' : ReceiptSettlement}
    (h : RowsAgree cash active db) (active' : List SettlementApplication) (amount : Money)
    (hs : db.settlements.get? receipt = some s)
    (hrev : db.isReversed receipt = false)
    (hsettled : s'.settledAmount = s.settledAmount + amount)
    (horiginating : s'.originatingAmount = s.originatingAmount)
    (hon : ∀ r, amountOn active' r = amountOn active r + if r = receipt then amount else 0)
    (hof : ∀ a ∈ active', a ∈ active ∨ a.receipt = receipt) :
    RowsAgree cash active' { db with settlements := db.settlements.set receipt s' } := by
  refine ⟨h.paid, fun r t ht => ?_, fun a ha => ?_⟩
  · change (db.settlements.set receipt s').get? r = some t at ht
    rw [OrderedMap.get?_set] at ht
    split at ht
    · rename_i heq
      cases ht
      subst heq
      obtain ⟨total, hworth, hresidual, horig⟩ := h.row r s hs
      refine ⟨total, hworth, ?_, fun _ => horiginating.trans (horig hrev)⟩
      have hold := s.residual_eq
      rw [hresidual] at hold
      rw [s'.residual_eq, hsettled, horiginating, hon, if_pos rfl, ← sub_sub, ← hold, sub_sub]
    · rename_i hne
      obtain ⟨total, hworth, hresidual, horig⟩ := h.row r t ht
      exact ⟨total, hworth, by rw [hon, if_neg hne, add_zero]; exact hresidual, horig⟩
  · have hsome : ∀ r, (db.settlements.get? r).isSome = true →
        ((db.settlements.set receipt s').get? r).isSome = true := by
      intro r hr
      rw [OrderedMap.get?_set]
      split
      · rfl
      · exact hr
    rcases hof a ha with hmem | heq
    · obtain ⟨hrow, hopen⟩ := h.applied a hmem
      exact ⟨hsome _ hrow, hopen⟩
    · refine ⟨?_, heq ▸ hrev⟩
      change ((db.settlements.set receipt s').get? a.receipt).isSome = true
      rw [heq, OrderedMap.get?_set_self]
      rfl

end SmartErpPos.Treasury
