/-
  Treasury/ReceiptRuns.lean --- Undeposited Funds along every run.

  Each call keeps the books, so they hold in every reachable state.  After a synchronisation
  every receipt that is worth something has a row, and the rows add up to the balance of 1015.
  This rests on refunds: one of a deposit that has no row yet leaves its money on 1015, and no
  later synchronisation lists it.
-/
import SmartErpPos.Treasury.WorksheetSteps

set_option autoImplicit false

namespace SmartErpPos.Treasury

open SmartErpPos.Lib SmartErpPos.Ledger SmartErpPos.Deposits

/-! ## After a synchronisation -/

/-- The receipts. -/
def receiptKeys (db : ReceiptDb) : List ReceiptKey :=
  (db.arPayments.keys.map fun id => ⟨.AR_CUSTOMER_PAYMENT, id⟩) ++
    db.deposits.keys.map fun id => ⟨.CUSTOMER_DEPOSIT, id⟩

theorem receiptKeys_nodup (db : ReceiptDb) : (receiptKeys db).Nodup := by
  refine List.Nodup.append (db.arPayments.nodup.map fun a b h => ?_)
    (db.deposits.nodup.map fun a b h => ?_) fun r hpayment hdeposit => ?_
  · exact congrArg ReceiptKey.sourceId h
  · exact congrArg ReceiptKey.sourceId h
  · obtain ⟨a, -, rfl⟩ := List.mem_map.mp hpayment
    obtain ⟨b, -, hb⟩ := List.mem_map.mp hdeposit
    cases hb

/-- What the receipts are worth, receipt by receipt. -/
theorem received_eq (cash : SourceId → Money) (db : ReceiptDb) :
    received cash db = ∑ r ∈ (receiptKeys db).toFinset, (worth cash db r).getD 0 := by
  rw [List.sum_toFinset _ (receiptKeys_nodup db)]
  unfold received receiptKeys OrderedMap.sumBy OrderedMap.keys
  rw [List.map_append, List.sum_append, List.map_map, List.map_map, List.map_map, List.map_map]
  congr 2
  · refine List.map_congr_left fun e he => ?_
    unfold worth
    dsimp only [Function.comp_apply]
    rw [OrderedMap.get?_eq_some_iff.mpr he]
    rfl
  · refine List.map_congr_left fun e he => ?_
    unfold worth
    dsimp only [Function.comp_apply]
    rw [OrderedMap.get?_eq_some_iff.mpr he]
    rfl

variable {cash : SourceId → Money} {db : ReceiptDb}

/-- The receipts are what is worth something or nothing. -/
theorem mem_receiptKeys {r : ReceiptKey} {amount : Money} (h : worth cash db r = some amount) :
    r ∈ receiptKeys db := by
  obtain ⟨sourceType, sourceId⟩ := r
  unfold worth at h
  unfold receiptKeys
  rw [List.mem_append, List.mem_map, List.mem_map]
  cases sourceType with
  | AR_CUSTOMER_PAYMENT =>
    obtain ⟨p, hp, -⟩ := Option.map_eq_some_iff.mp h
    exact .inl ⟨sourceId, OrderedMap.mem_keys_iff.mpr ⟨p, hp⟩, rfl⟩
  | INVOICE_PAYMENT => cases h
  | CUSTOMER_DEPOSIT =>
    obtain ⟨d, hd, -⟩ := Option.map_eq_some_iff.mp h
    exact .inr ⟨sourceId, OrderedMap.mem_keys_iff.mpr ⟨d, hd⟩, rfl⟩

/-- Every receipt that is worth something has a row. -/
def AllListed (cash : SourceId → Money) (db : ReceiptDb) : Prop :=
  ∀ r amount, worth cash db r = some amount → amount ≠ 0 →
    (db.settlements.get? r).isSome = true

/-- The rows that are summed are those that wait for something. -/
theorem sumUnsettledResidual_eq (h : RowsAgree cash (activeApplications db.applications) db) :
    db.sumUnsettledResidual =
      (db.settlements.sumBy fun _ (s : ReceiptSettlement) => s.residualAmount).toRat := by
  have hall : ∀ e ∈ db.settlements.entries,
      (decide (9 / 1000 < e.2.residualAmount.toRat) && !db.isReversed e.1) = false →
        e.2.residualAmount = 0 := by
    intro e he hskip
    rw [Bool.and_eq_false_iff, decide_eq_false_iff_not, Bool.not_eq_false'] at hskip
    rcases hskip with hsmall | hrev
    · exact le_antisymm (toRat_le_iff.mp (not_lt.mp hsmall)) e.2.residual_nonneg
    · exact h.residual_of_reversed (OrderedMap.get?_eq_some_iff.mpr he) hrev
  unfold ReceiptDb.sumUnsettledResidual OrderedMap.sumBy
  generalize db.settlements.entries = rows at hall
  induction rows with
  | nil => exact Numeric.toRat_zero.symm
  | cons e rest ih =>
    obtain ⟨he, hrest⟩ := List.forall_mem_cons.mp hall
    rw [List.map_cons, List.sum_cons, Numeric.toRat_add, ← ih hrest, List.filter_cons]
    split
    · rw [List.map_cons, List.sum_cons]
    · rename_i hskip
      have hzero := he (Bool.eq_false_iff.mpr hskip)
      dsimp only
      rw [hzero, Numeric.toRat_zero, zero_add]

/-- Once all receipts are listed, the rows wait for what is on 1015. -/
theorem residuals_eq (h : RowsAgree cash (activeApplications db.applications) db)
    (hlisted : AllListed cash db) :
    (db.settlements.sumBy fun _ (s : ReceiptSettlement) => s.residualAmount) =
      received cash db - taken (activeApplications db.applications) := by
  have hkeys : (db.settlements.sumBy fun _ (s : ReceiptSettlement) => s.residualAmount) =
      ∑ r ∈ db.settlements.keys.toFinset, ((worth cash db r).getD 0 -
        amountOn (activeApplications db.applications) r) := by
    have hnodup : db.settlements.keys.Nodup := db.settlements.nodup
    rw [List.sum_toFinset _ hnodup]
    unfold OrderedMap.sumBy OrderedMap.keys
    rw [List.map_map]
    congr 1
    refine List.map_congr_left fun e he => ?_
    obtain ⟨amount, hworth, hresidual, -⟩ := h.row e.1 e.2 (OrderedMap.get?_eq_some_iff.mpr he)
    dsimp only [Function.comp_apply]
    rw [hresidual, hworth, Option.getD_some]
  have htaken : ∑ r ∈ db.settlements.keys.toFinset,
      amountOn (activeApplications db.applications) r =
      taken (activeApplications db.applications) := by
    refine sum_groups (κ := fun a : SettlementApplication => a.receipt) fun a ha => ?_
    rw [List.mem_toFinset, OrderedMap.mem_keys_iff]
    exact Option.isSome_iff_exists.mp (h.applied a ha).1
  have hworth : ∑ r ∈ db.settlements.keys.toFinset, (worth cash db r).getD 0 =
      received cash db := by
    rw [received_eq]
    refine Finset.sum_subset (fun r hr => ?_) fun r hr hno => ?_
    · rw [List.mem_toFinset, OrderedMap.mem_keys_iff] at hr
      obtain ⟨s, hs⟩ := hr
      obtain ⟨amount, hamount, -⟩ := h.row r s hs
      exact List.mem_toFinset.mpr (mem_receiptKeys hamount)
    · cases hworth : worth cash db r with
      | none => rfl
      | some amount =>
        rw [Option.getD_some]
        by_contra hne
        refine hno (List.mem_toFinset.mpr (OrderedMap.mem_keys_iff.mpr ?_))
        exact Option.isSome_iff_exists.mp (hlisted r amount hworth hne)
  rw [hkeys, Finset.sum_sub_distrib, hworth, htaken]

/-- A synchronisation lists everything. -/
theorem Books.allListed (h : Books cash db) : AllListed cash db.syncReceiptSettlements := by
  have hsynced := h.rows.synced
  rintro ⟨sourceType, sourceId⟩ amount hworth hne
  unfold worth at hworth
  cases sourceType with
  | AR_CUSTOMER_PAYMENT =>
    obtain ⟨p, hp, hamount⟩ := Option.map_eq_some_iff.mp hworth
    refine hsynced.payments sourceId p hp fun hrev => hne ?_
    rw [← hamount, if_pos hrev]
  | INVOICE_PAYMENT => cases hworth
  | CUSTOMER_DEPOSIT =>
    obtain ⟨d, hd, -⟩ := Option.map_eq_some_iff.mp hworth
    rcases h.listed sourceId d hd with hactive | ⟨-, hrow⟩
    · exact hsynced.deposits sourceId d hd (by rw [hactive]; nofun) (by rw [hactive]; nofun)
    · obtain ⟨s, hs⟩ := Option.isSome_iff_exists.mp hrow
      rw [hsynced.kept _ s hs]
      rfl

/-- After a synchronisation 1015 is what the rows wait for, to the cent. -/
theorem Books.clearing_eq (h : Books cash db) :
    db.syncReceiptSettlements.getClearingGlBalance UNDEPOSITED_FUNDS =
      db.syncReceiptSettlements.sumUnsettledResidual := by
  have hafter := syncReceiptSettlements_books h
  rw [sumUnsettledResidual_eq hafter.rows, residuals_eq hafter.rows h.allListed]
  exact hafter.balance

theorem Books.rowsAddUp (h : Books cash db) : RowsAddUp db where
  residual _ s _ := ⟨s.residual_eq, s.settled_nonneg, s.settled_le_originating⟩
  settled _ _ hs hrev := h.rows.settled_eq hs hrev

/-! ## Runs -/

/-- The books at the start. -/
theorem ReceiptDb.Starts.books (h : db.Starts) : Books (fun _ => 0) db := by
  have hnone : ∀ {V : Type} {m : OrderedMap ℕ V} {id : ℕ} {v : V}, m = .empty →
      m.get? id ≠ some v := by
    rintro V m id v rfl
    nofun
  have hactive : activeApplications db.applications = [] := by rw [h.applications]; rfl
  refine
    { journalsBelow := h.journals
      paymentsBelow := fun id p hp => absurd hp (hnone h.arPayments)
      depositsBelow := fun id d hd => absurd hd (hnone h.deposits)
      documentsBelow := fun id d hd => absurd hd (hnone h.documents)
      applicationsBelow := fun a ha => ?_
      rows := ⟨fun id p hp => absurd hp (hnone h.arPayments), fun r s hs => ?_, fun a ha => ?_⟩
      listed := fun id d hd => absurd hd (hnone h.deposits)
      documents := fun id doc lines hd => absurd hd (hnone h.documents)
      references := fun id j hj docId href => absurd href (h.references id j hj docId)
      balance := ?_ }
  case refine_1 =>
    rw [h.applications] at ha
    cases ha
  case refine_2 =>
    rw [h.settlements] at hs
    cases hs
  case refine_3 =>
    rw [hactive] at ha
    cases ha
  case refine_4 =>
    have hreceived : received (fun _ => 0) db = 0 := by
      unfold received
      rw [h.arPayments, h.deposits]
      rfl
    rw [h.balance, hactive, hreceived]
    exact Numeric.toRat_zero.symm

/-- Every call keeps the books. -/
theorem Books.step {db db' : ReceiptDb} {action : ReceiptAction}
    (h : ∃ cash, Books cash db) (hstep : ReceiptStep db action db')
    (hrefund : RefundsListed db action) : ∃ cash, Books cash db' := by
  obtain ⟨cash, h⟩ := h
  have hok := toOption_eq_some hstep
  cases action with
  | receive input => exact createCustomerPayment_books h hok
  | deposit depositNumber amount => exact ⟨cash, createDeposit_books h hok⟩
  | reverseReceipt paymentId => exact ⟨cash, reverseCustomerPayment_books h hok⟩
  | refundDeposit depositId => exact ⟨cash, refundDeposit_books h hrefund hok⟩
  | syncReceiptSettlements =>
    change pure db.syncReceiptSettlements = _ at hok
    rw [pure_eq_ok] at hok
    exact ⟨cash, hok ▸ syncReceiptSettlements_books h⟩
  | createDepositWorksheet input => exact ⟨cash, createDepositWorksheet_books h hok⟩
  | submit id => exact ⟨cash, submit_books h hok⟩
  | approve id actorUserId => exact ⟨cash, approve_books h hok⟩
  | reject id => exact ⟨cash, reject_books h hok⟩
  | post id actorUserId => exact ⟨cash, postInternal_books h hok⟩
  | reverse id actorUserId => exact ⟨cash, reverseDocument_books h hok⟩

/-- In a run whose refunds are of listed deposits, rows add up in every state, and 1015 is what
they wait for after every synchronisation. -/
theorem undepositedAgrees_of_run {start last : ReceiptDb}
    {ts : List (ReceiptDb × ReceiptAction × ReceiptDb)} (hstart : start.Starts)
    (hrun : Run ReceiptStep start ts last) (hrefunds : ∀ t ∈ ts, RefundsListed t.1 t.2.1) :
    RowsAddUp last ∧ ∀ t ∈ ts, RowsAddUp t.1 ∧ RowsAddUp t.2.2 ∧
      (t.2.1 = .syncReceiptSettlements → ClearingAgrees t.2.2) := by
  obtain ⟨⟨cash, hlast⟩, hall⟩ := hrun.holds
    (P := fun db : ReceiptDb => ∃ cash, Books cash db) (K := RefundsListed)
    (fun _ _ _ h hstep hrefund => Books.step h hstep hrefund) hrefunds ⟨_, hstart.books⟩
  refine ⟨hlast.rowsAddUp, fun t ht => ?_⟩
  obtain ⟨⟨cash, hbefore⟩, cash', hafter⟩ := hall t ht
  refine ⟨hbefore.rowsAddUp, hafter.rowsAddUp, fun hsync => ?_⟩
  have hok := toOption_eq_some (hrun.step_of_mem ht)
  rw [hsync] at hok
  change pure t.1.syncReceiptSettlements = _ at hok
  rw [pure_eq_ok] at hok
  unfold ClearingAgrees
  rw [← hok, hbefore.clearing_eq, sub_self, abs_zero]
  exact div_nonneg (Nat.cast_nonneg _) (by norm_num)

/-- No receipts and no documents. -/
def noReceipts : ReceiptDb where
  arPayments := .empty
  deposits := .empty
  settlements := .empty
  applications := []
  documents := .empty
  journals := .empty
  nextId := 1

theorem noReceipts_starts : noReceipts.Starts where
  arPayments := rfl
  deposits := rfl
  settlements := rfl
  applications := rfl
  documents := rfl
  balance := by decide +kernel
  journals := by nofun
  references := by nofun

/-- A payment of 100.00, of which 6.00 is withheld as tax, and a deposit of 50.00; parts of both
go to the bank, 1.00 short, and come back. -/
def depositedAndReversed : List ReceiptAction :=
  [.receive
    { paymentNumber := "RCP-1"
      amount := 100
      whtAmount := 6
      whtAccountCode := "1260"
      status := .POSTED
      notClearing := by decide },
   .deposit "DEP-1" 50,
   .syncReceiptSettlements,
   .createDepositWorksheet
    { bank := some
        { name := "Main"
          accountCode := "1030"
          accountType := "ASSET"
          systemAccountTag := ""
          isPosting := true }
      bankDescription := "Deposit to Main"
      receipts := [⟨⟨.AR_CUSTOMER_PAYMENT, 1⟩, 40⟩, ⟨⟨.CUSTOMER_DEPOSIT, 3⟩, 20⟩]
      shortageAmount := some 1
      overageAmount := none
      requiresApproval := true },
   .submit 5, .approve 5 "u2", .syncReceiptSettlements, .refundDeposit 3, .reverse 5 "u1",
   .reverseReceipt 1, .syncReceiptSettlements]

theorem depositedAndReversed_agrees :
    RowsAddUp (depositedAndReversed.foldl .after noReceipts) ∧
      ∀ t ∈ transitions ReceiptDb.after noReceipts depositedAndReversed,
        RowsAddUp t.1 ∧ RowsAddUp t.2.2 ∧
          (t.2.1 = .syncReceiptSettlements → ClearingAgrees t.2.2) :=
  undepositedAgrees_of_run noReceipts_starts (.of_exec (by decide +kernel)) (by decide +kernel)

/-- A deposit of 100.00 that is refunded before any synchronisation: 1015 keeps the amount, and
no row waits for it. -/
def refundedUnlisted : List ReceiptAction :=
  [.deposit "DEP-1" 100, .refundDeposit 1, .syncReceiptSettlements]

theorem refundedUnlisted_differs :
    noReceipts.Starts ∧
      Run ReceiptStep noReceipts (transitions ReceiptDb.after noReceipts refundedUnlisted)
        (refundedUnlisted.foldl .after noReceipts) ∧
      refundedUnlisted.getLast? = some .syncReceiptSettlements ∧
      (refundedUnlisted.foldl ReceiptDb.after noReceipts).getClearingGlBalance
        UNDEPOSITED_FUNDS = 100 ∧
      (refundedUnlisted.foldl ReceiptDb.after noReceipts).sumUnsettledResidual = 0 ∧
      ¬ ClearingAgrees (refundedUnlisted.foldl .after noReceipts) :=
  ⟨noReceipts_starts, .of_exec (by decide +kernel), rfl, by decide +kernel, by decide +kernel,
    by decide +kernel⟩

end SmartErpPos.Treasury
