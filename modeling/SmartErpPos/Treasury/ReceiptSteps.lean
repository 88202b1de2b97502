/-
  Treasury/ReceiptSteps.lean --- what receipts do to the books.

  Receiving money adds a receipt and a journal that debits Undeposited Funds by its worth.
  Reversing a receipt takes both away.  A refund changes neither, so the books are kept as long
  as the deposit is listed.
-/
import SmartErpPos.Treasury.ReceiptBooks

set_option autoImplicit false

namespace SmartErpPos.Treasury

open SmartErpPos.Lib SmartErpPos.Ledger SmartErpPos.Deposits

/-! ## Frames -/

theorem posted_get? {db : ReceiptDb} {reference : JournalReference} {lines : List JournalLine}
    {id : TransactionId} {j : PostedJournal}
    (h : (db.posted reference lines).journals.get? id = some j) :
    (id = db.nextId ∧ j = ⟨reference, lines, false, none⟩) ∨ db.journals.get? id = some j := by
  change (db.journals.set db.nextId _).get? id = some j at h
  rw [OrderedMap.get?_set] at h
  split at h
  · rename_i heq
    cases h
    exact .inl ⟨heq, rfl⟩
  · exact .inr h

/-- Receipts that were there are worth what they were. -/
def SameWorth (cash cash' : SourceId → Money) (db db' : ReceiptDb) : Prop :=
  ∀ receipt amount, worth cash db receipt = some amount →
    worth cash' db' receipt = some amount ∧ db'.isReversed receipt = db.isReversed receipt

/-- Rows agree with receipts that are worth the same. -/
theorem RowsAgree.of_sameWorth {cash cash' : SourceId → Money}
    {active : List SettlementApplication} {db db' : ReceiptDb} (h : RowsAgree cash active db)
    (hrows : db'.settlements = db.settlements)
    (hpaid : ∀ id p, db'.arPayments.get? id = some p →
      0 < cash' id ∧ PaidBy db' id (cash' id) (p.status ≠ .REVERSED))
    (hworth : SameWorth cash cash' db db') : RowsAgree cash' active db' := by
  refine ⟨hpaid, fun receipt s hs => ?_, fun a ha => ?_⟩
  · rw [hrows] at hs
    obtain ⟨amount, hamount, hresidual, horiginating⟩ := h.row receipt s hs
    obtain ⟨hsame, hrev⟩ := hworth receipt amount hamount
    exact ⟨amount, hsame, hresidual, fun hno => horiginating (hrev ▸ hno)⟩
  · obtain ⟨hrow, hopen⟩ := h.applied a ha
    obtain ⟨s, hs⟩ := Option.isSome_iff_exists.mp hrow
    obtain ⟨amount, hamount, -⟩ := h.row _ s hs
    rw [hrows, (hworth _ _ hamount).2]
    exact ⟨hrow, hopen⟩

/-- A payment that was not there changes the worth of no other receipt. -/
theorem sameWorth_of_newPayment {cash : SourceId → Money} {db db' : ReceiptDb} {id : SourceId}
    {p : ArCustomerPayment} {amount : Money} (hnew : db.arPayments.get? id = none)
    (hpayments : db'.arPayments = db.arPayments.set id p) (hdeposits : db'.deposits = db.deposits) :
    SameWorth cash (Function.update cash id amount) db db' := by
  rintro ⟨sourceType, sourceId⟩ worthOf hworth
  unfold worth at hworth ⊢
  unfold ReceiptDb.isReversed
  rw [hpayments, hdeposits]
  cases sourceType with
  | AR_CUSTOMER_PAYMENT =>
    dsimp only at hworth ⊢
    have hne : sourceId ≠ id := by
      rintro rfl
      rw [hnew] at hworth
      cases hworth
    rw [OrderedMap.get?_set_of_ne hne, Function.update_of_ne hne]
    exact ⟨hworth, rfl⟩
  | INVOICE_PAYMENT => cases hworth
  | CUSTOMER_DEPOSIT => exact ⟨hworth, rfl⟩

/-! ## Receiving -/

/-- Cash of whole cents. -/
theorem splitCustomerPaymentDebits_ok {gross wht cashDebit whtDebit arCredit : ℚ}
    (h : splitCustomerPaymentDebits gross wht = .ok (cashDebit, whtDebit, arCredit)) :
    ∃ cash : Money, cashDebit = cash.toRat := by
  unfold splitCustomerPaymentDebits at h
  simp only [bind_eq_ok, pure_eq_ok, Prod.mk.injEq] at h
  obtain ⟨-, -, rfl, -⟩ := h
  exact roundMoney_eq_toRat _

/-- The journal of a payment is on 1015 by its cash. -/
theorem customerPaymentLines_cash {input : CustomerPaymentInput} {cash whtDebit arCredit : ℚ}
    (hcheck : checkJournal (customerPaymentLines input cash whtDebit arCredit) = .ok ()) :
    0 < cash ∧
      debitOn UNDEPOSITED_FUNDS (customerPaymentLines input cash whtDebit arCredit) = some cash ∧
      changeOn UNDEPOSITED_FUNDS (customerPaymentLines input cash whtDebit arCredit) = cash := by
  have hwht : input.whtAccountCode ≠ UNDEPOSITED_FUNDS := input.notClearing
  have har : ACCOUNTS_RECEIVABLE ≠ UNDEPOSITED_FUNDS := by decide
  have hpos : 0 < cash := by
    unfold checkJournal at hcheck
    simp only [bind_eq_ok] at hcheck
    obtain ⟨-, -, hlines⟩ := hcheck
    have hfirst := of_forM_eq_ok hlines
      (receiptLine UNDEPOSITED_FUNDS ("Payment received — " ++ input.paymentNumber) cash 0)
      (by simp [customerPaymentLines])
    rw [require_eq_ok] at hfirst
    simp only [validateLineAmounts, receiptLine, JournalLine.isDebit, JournalLine.isCredit,
      lt_irrefl, decide_false, Bool.or_false, Bool.and_false, Bool.not_false, Bool.and_true]
      at hfirst
    exact of_decide_eq_true hfirst
  refine ⟨hpos, ?_, ?_⟩
  · have hdebits : (customerPaymentLines input cash whtDebit arCredit).filter (fun line =>
        decide (line.accountCode = UNDEPOSITED_FUNDS ∧ 0 < line.debitAmount)) =
        [receiptLine UNDEPOSITED_FUNDS ("Payment received — " ++ input.paymentNumber) cash 0] := by
      unfold customerPaymentLines
      split <;> simp [receiptLine, hpos, hwht, har]
    unfold debitOn
    rw [hdebits]
    simp [receiptLine]
  · unfold customerPaymentLines
    rw [changeOn_append, changeOn_append]
    split
    · simp [changeOn_cons, receiptLine, hwht, har]
    · simp [changeOn_cons, receiptLine, har]

/-- A key that is unused has no journal about it. -/
theorem JournalsBelow.no_reference {db : ReceiptDb} (h : JournalsBelow db)
    {reference : JournalReference} (href : reference.id = db.nextId) :
    ∀ id j, db.journals.get? id = some j → j.reference ≠ reference := by
  rintro id j hj rfl
  exact absurd (h id j hj).2.1 (href ▸ lt_irrefl _)

/-- The tables with a new payment. -/
def ReceiptDb.withPayment (db : ReceiptDb) (p : ArCustomerPayment) : ReceiptDb :=
  { db with
    arPayments := db.arPayments.set db.nextId p
    nextId := db.nextId + 1 }

/-- The tables with a new deposit. -/
def ReceiptDb.withDeposit (db : ReceiptDb) (d : CustomerDeposit) : ReceiptDb :=
  { db with
    deposits := db.deposits.set db.nextId d
    nextId := db.nextId + 1 }

/-- Used keys stay used. -/
theorem JournalsBelow.mono {db db' : ReceiptDb} (h : JournalsBelow db)
    (hjournals : db'.journals = db.journals) (hnext : db.nextId ≤ db'.nextId) :
    JournalsBelow db' := by
  intro id j hj
  rw [hjournals] at hj
  obtain ⟨hid, href, hby⟩ := h id j hj
  exact ⟨hid.trans_le hnext, href.trans_le hnext, fun by' hb => (hby by' hb).trans_le hnext⟩

section Received

variable {cash : SourceId → Money} {db : ReceiptDb} (h : Books cash db)

include h

/-- A new payment with its journal. -/
theorem Books.withPayment {p : ArCustomerPayment} (hopen : p.status ≠ .REVERSED) {amount : Money}
    (hpos : 0 < amount) {lines : List JournalLine}
    (hdebit : debitOn UNDEPOSITED_FUNDS lines = some amount.toRat)
    (hchange : changeOn UNDEPOSITED_FUNDS lines = amount.toRat) :
    Books (Function.update cash db.nextId amount)
      ((db.withPayment p).posted (.CUSTOMER_PAYMENT db.nextId) lines) := by
  have hbelow : JournalsBelow (db.withPayment p) := h.journalsBelow.mono rfl (Nat.le_succ _)
  have hnone : db.arPayments.get? db.nextId = none := by
    rw [Option.eq_none_iff_forall_ne_some]
    exact fun p hp => absurd (h.paymentsBelow _ p hp) (lt_irrefl _)
  have hworth : SameWorth cash (Function.update cash db.nextId amount) db
      ((db.withPayment p).posted (.CUSTOMER_PAYMENT db.nextId) lines) :=
    sameWorth_of_newPayment hnone rfl rfl
  refine
    { journalsBelow := posted_below hbelow _ _ (Nat.lt_succ_self _)
      paymentsBelow := fun id q hq => ?_
      depositsBelow := fun id d hd => Nat.lt_succ_of_lt (Nat.lt_succ_of_lt (h.depositsBelow id d hd))
      documentsBelow := fun id d hd =>
        Nat.lt_succ_of_lt (Nat.lt_succ_of_lt (h.documentsBelow id d hd))
      applicationsBelow := fun a ha =>
        Nat.lt_succ_of_lt (Nat.lt_succ_of_lt (h.applicationsBelow a ha))
      rows := h.rows.of_sameWorth rfl (fun id q hq => ?_) hworth
      listed := h.listed
      documents := h.documents
      references := fun id j hj docId href => ?_
      balance := ?_ }
  case refine_1 =>
    change (db.arPayments.set db.nextId p).get? id = some q at hq
    rw [OrderedMap.get?_set] at hq
    split at hq
    · rename_i heq
      rw [heq]
      exact Nat.lt_succ_of_lt (Nat.lt_succ_self _)
    · exact Nat.lt_succ_of_lt (Nat.lt_succ_of_lt (h.paymentsBelow id q hq))
  case refine_2 =>
    change (db.arPayments.set db.nextId p).get? id = some q at hq
    rw [OrderedMap.get?_set] at hq
    split at hq
    · rename_i heq
      cases hq
      subst heq
      rw [Function.update_self]
      have hself : ((db.withPayment p).posted (.CUSTOMER_PAYMENT db.nextId) lines).journals.get?
          (db.nextId + 1) = some ⟨.CUSTOMER_PAYMENT db.nextId, lines, false, none⟩ :=
        OrderedMap.get?_set_self ..
      refine ⟨hpos, db.nextId + 1, _, hself, rfl, hdebit, hchange, fun id' j' hj' href' => ?_,
        fun _ => ⟨?_, rfl⟩⟩
      · rcases posted_get? hj' with ⟨heq, -⟩ | hold
        · exact heq
        · exact absurd href' (h.journalsBelow.no_reference rfl id' j' hold)
      · rw [posted_isNetActive hbelow]
        exact Bool.or_eq_true_iff.mpr (.inl (decide_eq_true rfl))
    · rename_i hne
      rw [Function.update_of_ne hne]
      obtain ⟨hcash, hpaid⟩ := h.rows.paid id q hq
      have hpaid' : PaidBy (db.withPayment p) id (cash id) (q.status ≠ .REVERSED) := hpaid
      refine ⟨hcash, hpaid'.posted hbelow (fun heq => hne ?_) lines⟩
      exact (JournalReference.CUSTOMER_PAYMENT.inj heq).symm
  case refine_3 =>
    rcases posted_get? hj with ⟨-, rfl⟩ | hold
    · cases href
    · exact h.references id j hold docId href
  case refine_4 =>
    rw [posted_balance hbelow, hchange]
    have hbalance : (db.withPayment p).getClearingGlBalance UNDEPOSITED_FUNDS =
        (received cash db - taken (activeApplications db.applications)).toRat := h.balance
    have hreceived : received (Function.update cash db.nextId amount)
        ((db.withPayment p).posted (.CUSTOMER_PAYMENT db.nextId) lines) =
        received cash db + amount := by
      unfold received
      change (db.arPayments.set db.nextId p).sumBy _ + db.deposits.sumBy _ = _
      rw [OrderedMap.sumBy_set_of_none hnone, if_neg hopen, Function.update_self]
      have hsame : db.arPayments.sumBy (fun id p => if p.status = .REVERSED then 0
          else Function.update cash db.nextId amount id) =
          db.arPayments.sumBy fun id p => if p.status = .REVERSED then 0 else cash id := by
        refine OrderedMap.sumBy_congr fun e he => ?_
        have hne := (h.paymentsBelow e.1 e.2 (OrderedMap.get?_eq_some_iff.mpr he)).ne
        rw [Function.update_of_ne hne]
      rw [hsame, add_right_comm]
    rw [hbalance, hreceived, ← Numeric.toRat_add]
    congr 1
    change _ = received cash db + amount - taken (activeApplications db.applications)
    abel

/-- A new deposit with its journal. -/
theorem Books.withDeposit {d : CustomerDeposit} (hactive : d.status = .ACTIVE)
    {lines : List JournalLine} (hchange : changeOn UNDEPOSITED_FUNDS lines = d.amount.toRat) :
    Books cash ((db.withDeposit d).posted (.CUSTOMER_DEPOSIT db.nextId) lines) := by
  have hbelow : JournalsBelow (db.withDeposit d) := h.journalsBelow.mono rfl (Nat.le_succ _)
  have hnone : db.deposits.get? db.nextId = none := by
    rw [Option.eq_none_iff_forall_ne_some]
    exact fun d hd => absurd (h.depositsBelow _ d hd) (lt_irrefl _)
  have hworth : SameWorth cash cash db
      ((db.withDeposit d).posted (.CUSTOMER_DEPOSIT db.nextId) lines) := by
    rintro ⟨sourceType, sourceId⟩ amount hamount
    refine ⟨?_, rfl⟩
    cases sourceType with
    | AR_CUSTOMER_PAYMENT => exact hamount
    | INVOICE_PAYMENT => exact hamount
    | CUSTOMER_DEPOSIT =>
      unfold worth at hamount ⊢
      dsimp only at hamount ⊢
      change ((db.deposits.set db.nextId d).get? sourceId).map _ = _
      have hne : sourceId ≠ db.nextId := by
        rintro rfl
        rw [hnone] at hamount
        cases hamount
      rw [OrderedMap.get?_set_of_ne hne]
      exact hamount
  refine
    { journalsBelow := posted_below hbelow _ _ (Nat.lt_succ_self _)
      paymentsBelow := fun id p hp => Nat.lt_succ_of_lt (Nat.lt_succ_of_lt (h.paymentsBelow id p hp))
      depositsBelow := fun id e he => ?_
      documentsBelow := fun id d hd =>
        Nat.lt_succ_of_lt (Nat.lt_succ_of_lt (h.documentsBelow id d hd))
      applicationsBelow := fun a ha =>
        Nat.lt_succ_of_lt (Nat.lt_succ_of_lt (h.applicationsBelow a ha))
      rows := h.rows.of_sameWorth rfl (fun id p hp => ?_) hworth
      listed := fun id e he => ?_
      documents := h.documents
      references := fun id j hj docId href => ?_
      balance := ?_ }
  case refine_1 =>
    change (db.deposits.set db.nextId d).get? id = some e at he
    rw [OrderedMap.get?_set] at he
    split at he
    · rename_i heq
      rw [heq]
      exact Nat.lt_succ_of_lt (Nat.lt_succ_self _)
    · exact Nat.lt_succ_of_lt (Nat.lt_succ_of_lt (h.depositsBelow id e he))
  case refine_2 =>
    obtain ⟨hcash, hpaid⟩ := h.rows.paid id p hp
    have hpaid' : PaidBy (db.withDeposit d) id (cash id) (p.status ≠ .REVERSED) := hpaid
    have hne : JournalReference.CUSTOMER_DEPOSIT db.nextId ≠ .CUSTOMER_PAYMENT id := by
      intro heq
      cases heq
    exact ⟨hcash, hpaid'.posted hbelow hne lines⟩
  case refine_3 =>
    change (db.deposits.set db.nextId d).get? id = some e at he
    rw [OrderedMap.get?_set] at he
    split at he
    · cases he
      exact .inl hactive
    · exact h.listed id e he
  case refine_4 =>
    rcases posted_get? hj with ⟨-, rfl⟩ | hold
    · cases href
    · exact h.references id j hold docId href
  case refine_5 =>
    rw [posted_balance hbelow, hchange]
    have hbalance : (db.withDeposit d).getClearingGlBalance UNDEPOSITED_FUNDS =
        (received cash db - taken (activeApplications db.applications)).toRat := h.balance
    have hreceived : received cash
        ((db.withDeposit d).posted (.CUSTOMER_DEPOSIT db.nextId) lines) =
        received cash db + d.amount := by
      unfold received
      change db.arPayments.sumBy _ + (db.deposits.set db.nextId d).sumBy _ = _
      rw [OrderedMap.sumBy_set_of_none hnone, add_assoc]
    rw [hbalance, hreceived, ← Numeric.toRat_add]
    congr 1
    change _ = received cash db + d.amount - taken (activeApplications db.applications)
    abel

end Received

theorem createCustomerPayment_books {cash : SourceId → Money} {db db' : ReceiptDb}
    (h : Books cash db) {input : CustomerPaymentInput}
    (hok : createCustomerPayment db input = .ok db') : ∃ cash', Books cash' db' := by
  unfold createCustomerPayment at hok
  simp only [bind_eq_ok, require_eq_ok] at hok
  obtain ⟨-, -, -, hstatus, hok⟩ := hok
  split at hok
  case isFalse => cases hok
  rename_i htotal
  simp only [bind_eq_ok, pure_eq_ok] at hok
  obtain ⟨⟨cashDebit, whtDebit, arCredit⟩, hsplit, ⟨journalId, posted⟩, hjournal, rfl⟩ := hok
  obtain ⟨amount, rfl⟩ := splitCustomerPaymentDebits_ok hsplit
  obtain ⟨hcheck, -, rfl⟩ := createJournalEntry_of_new hjournal
    (h.journalsBelow.no_reference rfl)
  obtain ⟨hpos, hdebit, hchange⟩ := customerPaymentLines_cash hcheck
  refine ⟨_, h.withPayment (fun hrev => ?_) (Numeric.toRat_pos_iff.mp hpos) hdebit hchange⟩
  dsimp only at hrev
  rw [hrev] at hstatus
  exact absurd hstatus (by decide)

theorem createDeposit_books {cash : SourceId → Money} {db db' : ReceiptDb} (h : Books cash db)
    {depositNumber : String} {inputAmount : ℚ}
    (hok : createDeposit db depositNumber inputAmount = .ok db') : Books cash db' := by
  unfold createDeposit at hok
  dsimp only at hok
  split at hok
  case isFalse => cases hok
  rename_i hamount
  simp only [bind_eq_ok, pure_eq_ok] at hok
  obtain ⟨⟨journalId, posted⟩, hjournal, rfl⟩ := hok
  obtain ⟨-, -, rfl⟩ := createJournalEntry_of_new hjournal
    (h.journalsBelow.no_reference rfl)
  refine h.withDeposit rfl ?_
  have hother : CUSTOMER_DEPOSITS ≠ UNDEPOSITED_FUNDS := by decide
  simp [customerDepositLines, changeOn_cons, receiptLine, hother]

/-! ## Refunding -/

/-- A refund changes no amount. -/
theorem refundDeposit_books {cash : SourceId → Money} {db db' : ReceiptDb} (h : Books cash db)
    {depositId : SourceId}
    (hlisted : (db.settlements.get? ⟨.CUSTOMER_DEPOSIT, depositId⟩).isSome = true)
    (hok : refundDeposit db depositId = .ok db') : Books cash db' := by
  unfold refundDeposit at hok
  simp only [bind_eq_ok, orThrow_eq_ok, pure_eq_ok, Option.filter_eq_some_iff] at hok
  obtain ⟨d, ⟨hd, -⟩, rfl⟩ := hok
  have hworth : SameWorth cash cash db
      { db with deposits := db.deposits.set depositId { d with status := .REFUNDED } } := by
    rintro ⟨sourceType, sourceId⟩ amount hamount
    refine ⟨?_, rfl⟩
    cases sourceType with
    | AR_CUSTOMER_PAYMENT => exact hamount
    | INVOICE_PAYMENT => exact hamount
    | CUSTOMER_DEPOSIT =>
      unfold worth at hamount ⊢
      dsimp only at hamount ⊢
      rw [OrderedMap.get?_set]
      split
      · rename_i heq
        subst heq
        rw [hd] at hamount
        exact hamount
      · exact hamount
  refine
    { journalsBelow := h.journalsBelow
      paymentsBelow := h.paymentsBelow
      depositsBelow := fun id e he => ?_
      documentsBelow := h.documentsBelow
      applicationsBelow := h.applicationsBelow
      rows := h.rows.of_sameWorth rfl h.rows.paid hworth
      listed := fun id e he => ?_
      documents := h.documents
      references := h.references
      balance := ?_ }
  case refine_1 =>
    rw [OrderedMap.get?_set] at he
    split at he
    · rename_i heq
      exact heq ▸ h.depositsBelow depositId d hd
    · exact h.depositsBelow id e he
  case refine_2 =>
    rw [OrderedMap.get?_set] at he
    split at he
    · rename_i heq
      cases he
      exact .inr ⟨rfl, heq ▸ hlisted⟩
    · exact h.listed id e he
  case refine_3 =>
    refine h.balance.trans ?_
    congr 2
    unfold received
    dsimp only
    rw [OrderedMap.sumBy_set_of_some hd, sub_self, add_zero]

/-! ## Reversing a receipt -/

/-- Voiding closes the row of the payment, which no active application is about. -/
theorem voidSettlement_ok {db voided : ReceiptDb} {paymentId : SourceId}
    (h : voidSettlementForReversedArPayment db paymentId = .ok voided) :
    (∀ a ∈ activeApplications db.applications, a.receipt ≠ ⟨.AR_CUSTOMER_PAYMENT, paymentId⟩) ∧
      ∃ rows, voided = { db with settlements := rows } ∧
        (∀ r, r ≠ ⟨.AR_CUSTOMER_PAYMENT, paymentId⟩ → rows.get? r = db.settlements.get? r) ∧
        ∀ s, rows.get? ⟨.AR_CUSTOMER_PAYMENT, paymentId⟩ = some s → s.residualAmount = 0 := by
  unfold voidSettlementForReversedArPayment at h
  simp only [bind_eq_ok, require_eq_ok] at h
  obtain ⟨-, ⟨hnone, -⟩, h⟩ := h
  refine ⟨hnone, ?_⟩
  split at h
  · rename_i hrow
    rw [pure_eq_ok] at h
    subst h
    refine ⟨db.settlements, rfl, fun _ _ => rfl, fun s hs => ?_⟩
    rw [hrow] at hs
    cases hs
  · rename_i s hrow
    simp only [bind_eq_ok, require_eq_ok, pure_eq_ok] at h
    obtain ⟨-, -, rfl⟩ := h
    refine ⟨_, rfl, fun r hr => OrderedMap.get?_set_of_ne hr _ _, fun s' hs' => ?_⟩
    rw [OrderedMap.get?_set_self] at hs'
    cases hs'
    rfl

/-- The tables after a payment is reversed. -/
def ReceiptDb.paymentReversed (db : ReceiptDb) (rows : Settlements) (paymentId : SourceId)
    (payment : ArCustomerPayment) (id : TransactionId) (j : PostedJournal) : ReceiptDb :=
  { ({ db with settlements := rows } : ReceiptDb).reverseTransaction id j with
    arPayments := db.arPayments.set paymentId { payment with status := .REVERSED } }

/-- Other receipts are worth what they were. -/
theorem worth_paymentReversed (cash : SourceId → Money) (db : ReceiptDb) (rows : Settlements)
    {paymentId : SourceId} (payment : ArCustomerPayment) (id : TransactionId) (j : PostedJournal)
    {receipt : ReceiptKey} (hne : receipt ≠ ⟨.AR_CUSTOMER_PAYMENT, paymentId⟩) :
    worth cash (db.paymentReversed rows paymentId payment id j) receipt = worth cash db receipt ∧
      (db.paymentReversed rows paymentId payment id j).isReversed receipt =
        db.isReversed receipt := by
  obtain ⟨sourceType, sourceId⟩ := receipt
  unfold worth ReceiptDb.isReversed ReceiptDb.paymentReversed
  cases sourceType with
  | AR_CUSTOMER_PAYMENT =>
    have hid : sourceId ≠ paymentId := fun heq => hne (by rw [heq])
    dsimp only
    rw [OrderedMap.get?_set_of_ne hid]
    exact ⟨rfl, rfl⟩
  | INVOICE_PAYMENT => exact ⟨rfl, rfl⟩
  | CUSTOMER_DEPOSIT => exact ⟨rfl, rfl⟩

theorem reverseCustomerPayment_books {cash : SourceId → Money} {db db' : ReceiptDb}
    (h : Books cash db) {paymentId : SourceId}
    (hok : reverseCustomerPayment db paymentId = .ok db') : Books cash db' := by
  unfold reverseCustomerPayment at hok
  simp only [bind_eq_ok, orThrow_eq_ok, require_eq_ok, pure_eq_ok] at hok
  obtain ⟨payment, hpayment, -, hopen, -, -, voided, hvoid, rfl⟩ := hok
  obtain ⟨hnoapp, rows, rfl, hothers, hclosed⟩ := voidSettlement_ok hvoid
  obtain ⟨hcash, hpaid⟩ := h.rows.paid paymentId payment hpayment
  have hpaid' : PaidBy { db with settlements := rows } paymentId (cash paymentId)
      (payment.status ≠ .REVERSED) := hpaid
  obtain ⟨id, j, hfound, hj, href, hchange, hactive, hby⟩ := hpaid'.openJournal hopen
  have hbelow : JournalsBelow { db with settlements := rows } := h.journalsBelow
  simp only [hfound]
  change Books cash (db.paymentReversed rows paymentId payment id j)
  have hkey : ∀ r, r ≠ (⟨.AR_CUSTOMER_PAYMENT, paymentId⟩ : ReceiptKey) →
      (db.paymentReversed rows paymentId payment id j).settlements.get? r =
        db.settlements.get? r := hothers
  refine
    { journalsBelow := reversed_below hbelow hj
      paymentsBelow := fun k p hp => ?_
      depositsBelow := fun k d hd => Nat.lt_succ_of_lt (h.depositsBelow k d hd)
      documentsBelow := fun k d hd => Nat.lt_succ_of_lt (h.documentsBelow k d hd)
      applicationsBelow := fun a ha => Nat.lt_succ_of_lt (h.applicationsBelow a ha)
      rows := ⟨fun k p hp => ?_, fun r s hs => ?_, fun a ha => ?_⟩
      listed := fun k d hd => ?_
      documents := h.documents
      references := fun k j' hj' docId href' => ?_
      balance := ?_ }
  case refine_1 =>
    change (db.arPayments.set paymentId _).get? k = some p at hp
    rw [OrderedMap.get?_set] at hp
    split at hp
    · rename_i heq
      rw [heq]
      exact Nat.lt_succ_of_lt (h.paymentsBelow paymentId payment hpayment)
    · exact Nat.lt_succ_of_lt (h.paymentsBelow k p hp)
  case refine_2 =>
    change (db.arPayments.set paymentId _).get? k = some p at hp
    rw [OrderedMap.get?_set] at hp
    split at hp
    · rename_i heq
      cases hp
      rw [heq]
      exact ⟨hcash, (hpaid'.reversed hbelow hj hby).mono fun hno => absurd rfl hno⟩
    · rename_i hne
      obtain ⟨hcashK, hpaidK⟩ := h.rows.paid k p hp
      have hpaidK' : PaidBy { db with settlements := rows } k (cash k) (p.status ≠ .REVERSED) :=
        hpaidK
      refine ⟨hcashK, (hpaidK'.reversed hbelow hj hby).mono fun hop => ⟨hop, fun heq => hne ?_⟩⟩
      rw [href] at heq
      exact (JournalReference.CUSTOMER_PAYMENT.inj heq).symm
  case refine_3 =>
    by_cases hr : r = ⟨.AR_CUSTOMER_PAYMENT, paymentId⟩
    · subst hr
      refine ⟨0, ?_, ?_, fun hno => ?_⟩
      · change ((db.arPayments.set paymentId _).get? paymentId).map _ = _
        rw [OrderedMap.get?_set_self]
        rfl
      · rw [hclosed s hs]
        change 0 = 0 - amountOn (activeApplications db.applications) _
        rw [amountOn_eq_zero hnoapp, sub_zero]
      · have hyes : (db.paymentReversed rows paymentId payment id j).isReversed
            ⟨.AR_CUSTOMER_PAYMENT, paymentId⟩ = true :=
          isReversed_iff.mpr ⟨rfl, _, OrderedMap.get?_set_self .., rfl⟩
        rw [hyes] at hno
        cases hno
    · rw [hkey r hr] at hs
      obtain ⟨amount, hworth, hresidual, horiginating⟩ := h.rows.row r s hs
      obtain ⟨hsame, hrev⟩ := worth_paymentReversed cash db rows payment id j hr
      exact ⟨amount, hsame.trans hworth, hresidual, fun hno => horiginating (hrev ▸ hno)⟩
  case refine_4 =>
    have hr := hnoapp a ha
    rw [hkey _ hr, (worth_paymentReversed cash db rows payment id j hr).2]
    exact h.rows.applied a ha
  case refine_5 =>
    have hr : (⟨.CUSTOMER_DEPOSIT, k⟩ : ReceiptKey) ≠ ⟨.AR_CUSTOMER_PAYMENT, paymentId⟩ := nofun
    rw [hkey _ hr]
    exact h.listed k d hd
  case refine_6 =>
    rcases reversed_get? k j' hj' with ⟨-, hsame, -⟩ | ⟨-, hrev, -⟩ | ⟨-, -, hold⟩
    · rw [hsame, href] at href'
      cases href'
    · rw [hrev] at href'
      cases href'
    · exact h.references k j' hold docId href'
  case refine_7 =>
    have hbalance := reversed_balance hbelow hj hby hactive UNDEPOSITED_FUNDS
    rw [hchange] at hbalance
    have hbefore : ReceiptDb.getClearingGlBalance { db with settlements := rows }
        UNDEPOSITED_FUNDS =
        (received cash db - taken (activeApplications db.applications)).toRat := h.balance
    have hreceived : received cash (db.paymentReversed rows paymentId payment id j) =
        received cash db - cash paymentId := by
      unfold received
      change (db.arPayments.set paymentId _).sumBy _ + db.deposits.sumBy _ = _
      rw [OrderedMap.sumBy_set_of_some hpayment, if_pos rfl, if_neg hopen]
      abel
    refine hbalance.trans ?_
    rw [hbefore, hreceived, ← Numeric.toRat_sub]
    congr 1
    change _ = received cash db - cash paymentId - taken (activeApplications db.applications)
    abel

end SmartErpPos.Treasury
