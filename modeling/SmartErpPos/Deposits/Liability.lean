/-
  Deposits/Liability.lean --- the sub-ledger of deposits and account 2200.

  A run takes, applies, restores and refunds deposits.  The tables agree with each other
  after every run.  What can still be spent is the balance of account 2200 as long as no
  step leaves its journal out or reverses a journal of another amount: a refund of money
  that is still there, the whole restore of an application part of which is restored
  already, and a part whose journal the ledger takes for an earlier one.
-/
import SmartErpPos.Deposits.Journals

set_option autoImplicit false

namespace SmartErpPos.Deposits

open SmartErpPos.Lib SmartErpPos.Ledger

/-! ## Runs -/

/-- A call of the deposits service. -/
inductive DepositCall where
  | create (env : DepositEnv) (input : CreateDepositInput)
  | apply (env : DepositEnv) (input : ApplyInput)
  | restore (env : DepositEnv) (input : RestoreInput)
  | refund (depositId : DocumentId) (reason : Option String)

/-- Each application is posted by one journal about its id and of its amount. -/
inductive ApplicationsPosted : LedgerDb → List (DocumentId × Cents) → LedgerDb → Prop
  | nil (l : LedgerDb) : ApplicationsPosted l [] l
  | cons {l l' l'' : LedgerDb} {ctx : PostingContext} {data : DepositApplicationGLData}
      {rest : List (DocumentId × Cents)}
      (hwrites : (LedgerCall.create ctx (depositApplicationRequest data)).Writes l)
      (hcall : CallStep l (.create ctx (depositApplicationRequest data)) l')
      (h : ApplicationsPosted l' rest l'') :
      ApplicationsPosted l ((data.applicationId, data.amount) :: rest) l''

/-- A successful call.  Applications and their journals are one step: the caller posts them
in the same database transaction. -/
inductive DepositStep : DepositDb → DepositCall → DepositDb → Prop
  | create {env : DepositEnv} {input : CreateDepositInput} {db db' : DepositDb}
      (h : createDeposit env db input = .ok db') : DepositStep db (.create env input) db'
  | apply {env : DepositEnv} {input : ApplyInput} {db mid : DepositDb}
      {applications : List (DocumentId × Cents)} {ledger : LedgerDb}
      (h : applyDepositsToSaleInTransaction env db input = .ok (applications, mid))
      (hposted : ApplicationsPosted mid.ledger applications ledger) :
      DepositStep db (.apply env input) { mid with ledger := ledger }
  | restore {env : DepositEnv} {input : RestoreInput} {db : DepositDb} {restored : Restoring}
      (h : restoreSaleDepositApplicationsInTransaction env db input = .ok restored) :
      DepositStep db (.restore env input) restored.db
  | refund {depositId : DocumentId} {reason : Option String} {db db' : DepositDb}
      (h : refundDeposit db depositId reason = .ok db') :
      DepositStep db (.refund depositId reason) db'

/-- No deposits yet: no rows, no journals of deposits, and nothing on account 2200. -/
structure NoDeposits (a : AccountId) (db : DepositDb) : Prop where
  deposits : db.deposits = OrderedMap.empty
  applications : db.applications = OrderedMap.empty
  wellFormed : WellFormed db.ledger
  account : ∃ row, db.ledger.accounts.get? a = some row ∧ row.accountCode = CUSTOMER_DEPOSITS
  balance : netActiveBalance db.ledger a .CREDIT = 0
  rows : ∀ t row, db.ledger.transactions.get? t = some row →
    row.referenceType ≠ "CUSTOMER_DEPOSIT" ∧ row.referenceType ≠ "DEPOSIT_APPLICATION"
  keys : ∀ t row id, db.ledger.transactions.get? t = some row →
    row.idempotencyKey ≠ depositKey id ∧ row.idempotencyKey ≠ restoreKey id

/-- The credit balance of the account is what can still be spent. -/
def LiabilityMatches (a : AccountId) (db : DepositDb) : Prop :=
  (netActiveBalance db.ledger a .CREDIT).toRat = (spendableTotal db).toRat

/-! ## The condition on a step -/

/-- What a restore takes back, application by application. -/
def restoredSlices : List SaleApplication → Cents → List (SaleApplication × Cents)
  | [], _ => []
  | app :: rest, remaining =>
    if 9 / 1000 < remaining.toRat then
      (app, min remaining app.amountApplied) ::
        restoredSlices rest (remaining - min remaining app.amountApplied)
    else []

/-- No part of the application was restored before: its journal is of what is still applied. -/
def Untouched (l : LedgerDb) (app : SaleApplication) : Prop :=
  ∀ t row, IsJournalOf l app.id t row → row.totalDebitAmount.toRat = app.amountApplied.toRat

/-- No earlier journal of a part answers for this one: none holds its key, and other
connections see none about the same document. -/
def NewPart (env : DepositEnv) (input : RestoreInput) (l : LedgerDb) (app : SaleApplication)
    (slice : Cents) : Prop :=
  checkIdempotencyKey l (sliceKey app.id slice) = none ∧
    ∀ t row, ActiveRow l t row → SameDocument (sliceRequest env input app slice) row →
      ¬ Seen env.ctx.pool t

/-- A slice that moves its journal by its own amount. -/
def SliceSound (env : DepositEnv) (input : RestoreInput) (l : LedgerDb)
    (p : SaleApplication × Cents) : Prop :=
  if p.2 = p.1.amountApplied then Untouched l p.1 else NewPart env input l p.1 p.2

/-- The condition on a step, in the state before it. -/
def Sound (db : DepositDb) : DepositCall → Prop
  | .create _ _ => True
  | .apply _ _ => True
  | .restore env input => ∀ p ∈ restoredSlices (saleApplications env db input.saleId)
      (Numeric.ofRat input.amount), SliceSound env input db.ledger p
  | .refund depositId _ => ∀ row, db.deposits.get? depositId = some row → row.amountAvailable = 0

/-! ## The tables along a run -/

variable {db db' : DepositDb} {env : DepositEnv} {row : DepositRow} {input : RestoreInput}
  {app : SaleApplication} {depositId : DocumentId} {a : AccountId} {l : LedgerDb}

theorem Tables.of_empty (hdeposits : db.deposits = OrderedMap.empty)
    (happlications : db.applications = OrderedMap.empty) : Tables db := by
  have hnone : ∀ id row, db.deposits.get? id ≠ some row := by
    intro id row hrow
    rw [hdeposits] at hrow
    cases hrow
  have hnone' : ∀ id app, db.applications.get? id ≠ some app := by
    intro id app happ
    rw [happlications] at happ
    cases happ
  exact
    { total := fun id row hrow => absurd hrow (hnone id row)
      used := fun id row hrow => absurd hrow (hnone id row)
      depositIds := fun id row hrow => absurd hrow (hnone id row)
      applicationIds := fun id app happ => absurd happ (hnone' id app)
      applicationDeposit := fun id app happ => absurd happ (hnone' id app) }

/-- What a call that takes a deposit does. -/
structure DepositTaken (env : DepositEnv) (db db' : DepositDb) (row : DepositRow)
    (customerName : String) : Prop where
  deposits : db'.deposits = db.deposits.set db.nextDocument row
  applications : db'.applications = db.applications
  nextDocument : db'.nextDocument = db.nextDocument + 1
  newNumber : ∀ e ∈ db.deposits.entries, e.2.depositNumber ≠ row.depositNumber
  amountUsed : row.amountUsed = 0
  amountAvailable : row.amountAvailable = row.amount
  status : row.status = .ACTIVE
  posted : ∃ out, createJournalEntry env.client db.ledger
    (customerDepositRequest db.nextDocument row env.today customerName) = .ok out ∧
      db'.ledger = out.db

theorem ofLedger_eq_ok {α : Type} {x : Except LedgerError α} {y : α} :
    ofLedger x = .ok y ↔ x = .ok y := by
  cases x with
  | error e => exact iff_of_false (fun h => nomatch h) (fun h => nomatch h)
  | ok y' => exact ⟨fun h => by cases h; rfl, fun h => by cases h; rfl⟩

theorem createDeposit_ok {input : CreateDepositInput} (h : createDeposit env db input = .ok db') :
    ∃ row customerName, DepositTaken env db db' row customerName := by
  unfold createDeposit insertDeposit at h
  simp only [bind_eq_ok, orThrow_eq_ok, require_eq_ok] at h
  obtain ⟨name, -, -, -, -, -, ⟨id, row, inserted⟩, ⟨-, hnumber, hinsert⟩, hpost⟩ := h
  split at hinsert
  · simp only [pure_eq_ok, Prod.mk.injEq] at hinsert
    obtain ⟨rfl, rfl, rfl⟩ := hinsert
    simp only [pure_eq_ok] at hpost
    obtain ⟨out, hout, rfl⟩ := hpost
    exact ⟨_, name, rfl, rfl, rfl, hnumber, rfl, rfl, rfl, out, ofLedger_eq_ok.mp hout, rfl⟩
  · cases hinsert

theorem DepositTaken.tables {customerName : String} (hdb : Tables db)
    (h : DepositTaken env db db' row customerName) : Tables db' := by
  have hsame : ∀ id, appliedTo db' id = appliedTo db id := fun id => by
    unfold appliedTo
    rw [h.applications]
  have hrows : ∀ id r, db'.deposits.get? id = some r →
      (id = db.nextDocument ∧ r = row) ∨ db.deposits.get? id = some r := by
    intro id r hr
    rw [h.deposits, OrderedMap.get?_set] at hr
    split at hr
    · rename_i hid
      exact .inl ⟨hid, (Option.some.inj hr).symm⟩
    · exact .inr hr
  exact
    { total := fun id r hr => by
        rcases hrows id r hr with ⟨-, rfl⟩ | hr
        · rw [h.amountUsed, h.amountAvailable, zero_add]
        · exact hdb.total id r hr
      used := fun id r hr => by
        rw [hsame]
        rcases hrows id r hr with ⟨rfl, rfl⟩ | hr
        · rw [h.amountUsed, hdb.appliedTo_eq_zero hdb.deposits_nextDocument]
        · exact hdb.used id r hr
      depositIds := fun id r hr => by
        rw [h.nextDocument]
        rcases hrows id r hr with ⟨rfl, -⟩ | hr
        · exact Nat.lt_succ_self _
        · exact Nat.lt_succ_of_lt (hdb.depositIds id r hr)
      applicationIds := fun id app happ => by
        rw [h.applications] at happ
        rw [h.nextDocument]
        exact Nat.lt_succ_of_lt (hdb.applicationIds id app happ)
      applicationDeposit := fun id app happ => by
        rw [h.applications] at happ
        obtain ⟨r, hr⟩ := hdb.applicationDeposit id app happ
        rw [h.deposits, OrderedMap.get?_set]
        split
        · exact ⟨row, rfl⟩
        · exact ⟨r, hr⟩ }

/-- A deposit has the number. -/
def NumberTaken (db : DepositDb) (number : String) : Prop :=
  ∃ id row, db.deposits.get? id = some row ∧ row.depositNumber = number

/-- The application exists. -/
def Alive (db : DepositDb) (id : DocumentId) : Prop := ∃ app, db.applications.get? id = some app

/-- What applying several amounts does. -/
structure AmountsApplied (db db' : DepositDb) (applied : List (DocumentId × Cents)) : Prop where
  ledger : db'.ledger = db.ledger
  nextDocument_le : db.nextDocument ≤ db'.nextDocument
  numbers : ∀ number, NumberTaken db number → NumberTaken db' number
  alive : ∀ id, Alive db' id → Alive db id ∨ (db.nextDocument ≤ id ∧ id ∈ applied.map (·.1))
  spendable : NothingFrozen db → NothingFrozen db' ∧
    spendableTotal db' = spendableTotal db - (applied.map (·.2)).sum

theorem AmountsApplied.refl (db : DepositDb) : AmountsApplied db db [] where
  ledger := rfl
  nextDocument_le := le_rfl
  numbers _ h := h
  alive _ h := .inl h
  spendable h := ⟨h, by simp⟩

theorem AmountsApplied.trans {db'' : DepositDb} {xs ys : List (DocumentId × Cents)}
    (h : AmountsApplied db db' xs) (h' : AmountsApplied db' db'' ys) :
    AmountsApplied db db'' (xs ++ ys) where
  ledger := h'.ledger.trans h.ledger
  nextDocument_le := h.nextDocument_le.trans h'.nextDocument_le
  numbers number hnumber := h'.numbers number (h.numbers number hnumber)
  alive id hid := by
    rw [List.map_append, List.mem_append]
    rcases h'.alive id hid with hid | ⟨hle, hmem⟩
    · rcases h.alive id hid with hid | ⟨hle, hmem⟩
      · exact .inl hid
      · exact .inr ⟨hle, .inl hmem⟩
    · exact .inr ⟨h.nextDocument_le.trans hle, .inr hmem⟩
  spendable hfrozen := by
    obtain ⟨hfrozen', htotal⟩ := h.spendable hfrozen
    obtain ⟨hfrozen'', htotal'⟩ := h'.spendable hfrozen'
    refine ⟨hfrozen'', ?_⟩
    rw [htotal', htotal, List.map_append, List.sum_append]
    abel

/-- One allocation is applied. -/
theorem applyAllocation_ok {input : ApplyInput} {s s' : Applying} {alloc : DocumentId × Cents}
    (hdb : Tables s.2) (h : applyAllocation env input s alloc = .ok s') :
    ∃ applied, s'.1 = s.1 ++ applied ∧ Tables s'.2 ∧ AmountsApplied s.2 s'.2 applied := by
  unfold applyAllocation at h
  simp only [bind_eq_ok, pure_eq_ok] at h
  obtain ⟨⟨id, app, db⟩, happly, rfl⟩ := h
  obtain ⟨rfl, hamount, happs, hnext, row, row', hmoved⟩ := applyDeposit_ok hdb happly
  refine ⟨[(s.2.nextDocument, app.amountApplied)], rfl, hmoved.tables hdb, ?_⟩
  exact
    { ledger := hmoved.ledger
      nextDocument_le := hmoved.nextDocument_le
      numbers := fun number => hmoved.numberTaken_iff.mpr
      alive := fun id hid => by
        rcases eq_or_ne id s.2.nextDocument with rfl | hne
        · exact .inr ⟨le_rfl, by simp⟩
        · obtain ⟨app', happ'⟩ := hid
          exact .inl ⟨app', (hmoved.others id hne).symm.trans happ'⟩
      spendable := fun hfrozen => by
        refine ⟨hmoved.nothingFrozen hfrozen, ?_⟩
        rw [hmoved.spendableTotal_eq hdb hfrozen, hamount]
        simp }

theorem applyAllocations_ok {input : ApplyInput} {allocations : List (DocumentId × Cents)}
    {s s' : Applying} (hdb : Tables s.2)
    (h : allocations.foldlM (applyAllocation env input) s = .ok s') :
    ∃ applied, s'.1 = s.1 ++ applied ∧ Tables s'.2 ∧ AmountsApplied s.2 s'.2 applied := by
  induction allocations generalizing s with
  | nil =>
    rw [List.foldlM_nil, pure_eq_ok] at h
    subst h
    exact ⟨[], (List.append_nil _).symm, hdb, .refl s.2⟩
  | cons alloc rest ih =>
    rw [List.foldlM_cons, bind_eq_ok] at h
    obtain ⟨mid, hmid, hrest⟩ := h
    obtain ⟨first, hfirst, htables, happlied⟩ := applyAllocation_ok hdb hmid
    obtain ⟨others, hothers, htables', happlied'⟩ := ih htables hrest
    refine ⟨first ++ others, ?_, htables', happlied.trans happlied'⟩
    rw [hothers, hfirst, List.append_assoc]

theorem applyDeposits_ok {input : ApplyInput} {mid : DepositDb}
    {applications : List (DocumentId × Cents)} (hdb : Tables db)
    (h : applyDepositsToSaleInTransaction env db input = .ok (applications, mid)) :
    Tables mid ∧ AmountsApplied db mid applications := by
  unfold applyDepositsToSaleInTransaction at h
  simp only [bind_eq_ok, require_eq_ok, pure_eq_ok] at h
  obtain ⟨-, -, -, -, -, -, allocations, -, applied, hfold, -, -, rfl⟩ := h
  obtain ⟨new, hnew, htables, happlied⟩ := applyAllocations_ok hdb hfold
  rw [List.nil_append] at hnew
  subst hnew
  exact ⟨htables, happlied⟩

theorem restoreSlice_tables {journal : TransactionId} {slice : Cents} (hdb : Tables db)
    (h : restoreSlice env input db app journal slice = .ok db') : Tables db' := by
  unfold restoreSlice at h
  split at h
  · simp only [bind_eq_ok] at h
    obtain ⟨out, -, h⟩ := h
    obtain ⟨row, hrow⟩ : ∃ row, db.applications.get? app.id = some row := by
      unfold reverseDepositApplicationInTransaction at h
      simp only [bind_eq_ok, orThrow_eq_ok] at h
      obtain ⟨row, hrow, -⟩ := h
      exact ⟨row, hrow⟩
    obtain ⟨-, -, _, _, hmoved⟩ := reverseApplication_ok (hdb.withLedger out.db) hrow h
    exact hmoved.tables (hdb.withLedger out.db)
  · simp only [bind_eq_ok] at h
    obtain ⟨out, -, h⟩ := h
    obtain ⟨row, hrow⟩ : ∃ row, db.applications.get? app.id = some row := by
      unfold reduceDepositApplicationInTransaction at h
      simp only [bind_eq_ok, orThrow_eq_ok] at h
      obtain ⟨row, hrow, -⟩ := h
      exact ⟨row, hrow⟩
    obtain ⟨-, -, _, _, hmoved⟩ := reduceApplication_ok (hdb.withLedger out.db) hrow h
    exact hmoved.tables (hdb.withLedger out.db)

theorem restoreApplication_tables {s s' : Restoring} (hdb : Tables s.db)
    (h : restoreApplication env input s app = .ok s') : Tables s'.db := by
  unfold restoreApplication at h
  split at h
  · rw [pure_eq_ok] at h
    exact h ▸ hdb
  · split at h
    · rw [pure_eq_ok] at h
      exact h ▸ hdb
    · simp only [bind_eq_ok, pure_eq_ok] at h
      obtain ⟨db, hslice, rfl⟩ := h
      exact restoreSlice_tables hdb hslice

theorem restore_tables {restored : Restoring} (hdb : Tables db)
    (h : restoreSaleDepositApplicationsInTransaction env db input = .ok restored) :
    Tables restored.db := by
  unfold restoreSaleDepositApplicationsInTransaction at h
  dsimp only at h
  split at h
  · rw [pure_eq_ok] at h
    exact h ▸ hdb
  · exact foldlM_invariant (P := fun s : Restoring => Tables s.db)
      (fun s app _ s' hs hstep => restoreApplication_tables hs hstep) hdb h

/-- A refund writes the status and the notes of one deposit. -/
theorem refund_ok {reason : Option String} (h : refundDeposit db depositId reason = .ok db') :
    ∃ row notes, db.deposits.get? depositId = some row ∧ row.status = .ACTIVE ∧
      db' = { db with
        deposits := db.deposits.set depositId
          { row with status := .REFUNDED, notes := some notes } } := by
  unfold refundDeposit at h
  simp only [bind_eq_ok, orThrow_eq_ok, pure_eq_ok] at h
  obtain ⟨row, hrow, rfl⟩ := h
  obtain ⟨hget, hactive⟩ := Option.filter_eq_some_iff.mp hrow
  exact ⟨row, _, hget, of_decide_eq_true hactive, rfl⟩

theorem refund_get? {id : DocumentId} {r : DepositRow} {notes : String}
    (h : (db.deposits.set depositId
      { row with status := .REFUNDED, notes := some notes }).get? id = some r) :
    (id = depositId ∧ r = { row with status := .REFUNDED, notes := some notes }) ∨
      db.deposits.get? id = some r := by
  rw [OrderedMap.get?_set] at h
  split at h
  · rename_i hid
    exact .inl ⟨hid, (Option.some.inj h).symm⟩
  · exact .inr h

theorem refund_tables {reason : Option String} (hdb : Tables db)
    (h : refundDeposit db depositId reason = .ok db') : Tables db' := by
  obtain ⟨row, notes, hrow, -, rfl⟩ := refund_ok h
  exact
    { total := fun id r hr => by
        rcases refund_get? hr with ⟨-, rfl⟩ | hr
        · exact hdb.total depositId row hrow
        · exact hdb.total id r hr
      used := fun id r hr => by
        rcases refund_get? hr with ⟨rfl, rfl⟩ | hr
        · exact hdb.used id row hrow
        · exact hdb.used id r hr
      depositIds := fun id r hr => by
        rcases refund_get? hr with ⟨rfl, rfl⟩ | hr
        · exact hdb.depositIds id row hrow
        · exact hdb.depositIds id r hr
      applicationIds := hdb.applicationIds
      applicationDeposit := fun id app happ => by
        obtain ⟨r, hr⟩ := hdb.applicationDeposit id app happ
        show ∃ r', (db.deposits.set depositId _).get? app.depositId = some r'
        rw [OrderedMap.get?_set]
        split
        · exact ⟨_, rfl⟩
        · exact ⟨r, hr⟩ }

/-- Every successful call keeps the tables. -/
theorem DepositStep.tables {call : DepositCall} (hdb : Tables db) (h : DepositStep db call db') :
    Tables db' := by
  cases h with
  | create h =>
    obtain ⟨row, name, htaken⟩ := createDeposit_ok h
    exact htaken.tables hdb
  | apply h _ => exact (applyDeposits_ok hdb h).1.withLedger _
  | restore h => exact restore_tables hdb h
  | refund h => exact refund_tables hdb h

/-! ## The balance along a run -/

/-- The tables and the ledger agree. -/
structure DepositsGood (a : AccountId) (db : DepositDb) : Prop extends Tables db where
  frozen : NothingFrozen db
  journals : Journals a db.nextDocument (NumberTaken db) (Alive db) db.ledger
  hasJournal : ∀ id, Alive db id → HasJournal db.ledger id
  matching : LiabilityMatches a db

theorem NoDeposits.good (h : NoDeposits a db) : DepositsGood a db := by
  have hnone : ∀ id row, db.deposits.get? id ≠ some row := by
    intro id row hrow
    rw [h.deposits] at hrow
    cases hrow
  have halive : ∀ id, ¬ Alive db id := by
    rintro id ⟨app, happ⟩
    rw [h.applications] at happ
    cases happ
  have htotal : spendableTotal db = 0 := by
    unfold spendableTotal
    rw [h.deposits]
    rfl
  exact
    { Tables.of_empty h.deposits h.applications with
      frozen := fun id row hrow => absurd hrow (hnone id row)
      journals :=
        { wellFormed := h.wellFormed
          account := h.account
          depositKeys := fun t row id hrow _ hkey => absurd hkey (h.keys t row id hrow).1
          restoreKeys := fun t row id hrow _ hkey => absurd hkey (h.keys t row id hrow).2
          depositRows := fun t row hrow htype => absurd htype (h.rows t row hrow).1
          applicationRows := fun _ t row hjournal =>
            absurd hjournal.referenceType (h.rows t row hjournal.get).2 }
      hasJournal := fun id hid => absurd hid (halive id)
      matching := by
        unfold LiabilityMatches
        rw [h.balance, htotal, Numeric.toRat_zero, Numeric.toRat_zero] }

/-- The ledger has no posting that answers for the journal of a new deposit. -/
theorem Journals.deposit_writes {next : DocumentId} {taken : String → Prop}
    {alive : DocumentId → Prop} (h : Journals a next taken alive l)
    (hnumber : ¬ taken row.depositNumber) (ctx : PostingContext) (date : IsoDate) (name : String) :
    (LedgerCall.create ctx (customerDepositRequest next row date name)).Writes l := by
  constructor
  · refine checkIdempotencyKey_eq_none_iff.mpr fun t r hr _ hposted hkey => ?_
    exact lt_irrefl _ (h.depositKeys t r next hr hposted hkey)
  · cases href : existingByReference ctx l (customerDepositRequest next row date name) with
    | none => rfl
    | some result =>
      obtain ⟨r, hactive, ⟨-, hsame⟩, -⟩ := existingByReference_eq_some href
      have htype : r.referenceType = "CUSTOMER_DEPOSIT" := by
        rcases hsame with hid | ⟨-, hnum⟩
        · exact (matchesId_iff.mp hid).1
        · exact (matchesNumber_iff.mp hnum).1
      obtain ⟨hlt, htaken⟩ := h.depositRows _ r hactive.1 htype
      rcases hsame with hid | ⟨-, hnum⟩
      · have hid : some next = some r.referenceId := (matchesId_iff.mp hid).2
        exact absurd hlt (by rw [← Option.some.inj hid]; exact lt_irrefl _)
      · have hnum : r.referenceNumber = row.depositNumber := (matchesNumber_iff.mp hnum).2
        exact absurd (hnum ▸ htaken) hnumber

theorem DepositTaken.good {customerName : String} (hdb : DepositsGood a db)
    (h : DepositTaken env db db' row customerName) : DepositsGood a db' := by
  obtain ⟨out, hout, hledger⟩ := h.posted
  have hnew : ¬ NumberTaken db row.depositNumber := by
    rintro ⟨id, r, hr, hnumber⟩
    exact h.newNumber (id, r) (OrderedMap.get?_eq_some_iff.mp hr) hnumber
  obtain ⟨header, written, mid, hposted⟩ := createJournalEntry_posted
    (hdb.journals.deposit_writes hnew env.client env.today customerName) hout
  have hget : db'.deposits.get? db.nextDocument = some row := by
    rw [h.deposits, OrderedMap.get?_set_self]
  have hkept : ∀ id r, db.deposits.get? id = some r → db'.deposits.get? id = some r := by
    intro id r hr
    rw [h.deposits, OrderedMap.get?_set_of_ne (hdb.depositIds id r hr).ne, hr]
  have halive : ∀ id, Alive db' id ↔ Alive db id := by
    intro id
    unfold Alive
    rw [h.applications]
  have hspendable : spendableTotal db' = spendableTotal db + row.amount := by
    have hrow : row.spendable = row.amount := by
      unfold DepositRow.spendable DepositRow.isSpendable
      rw [h.status, h.amountAvailable]
      rfl
    unfold spendableTotal
    rw [h.deposits, OrderedMap.sumWhere_set, if_pos rfl,
      OrderedMap.valueAt_of_get?_none hdb.deposits_nextDocument, hrow, sub_zero]
  refine
    { h.tables hdb.toTables with
      frozen := ?_
      journals := ?_
      hasJournal := ?_
      matching := ?_ }
  · intro id r hr hnot
    rw [h.deposits, OrderedMap.get?_set] at hr
    split at hr
    · cases hr
      unfold DepositRow.isSpendable at hnot
      rw [h.status] at hnot
      cases hnot
    · exact hdb.frozen id r hr hnot
  · have hmono : Journals a db'.nextDocument (NumberTaken db') (Alive db') db.ledger := by
      refine hdb.journals.mono ?_ ?_ fun id hid => .inl ((halive id).mp hid)
      · rw [h.nextDocument]
        exact Nat.le_succ _
      · rintro number ⟨id, r, hr, hnumber⟩
        exact ⟨id, r, hkept id r hr, hnumber⟩
    rw [hledger]
    refine hmono.posted hposted ?_ ?_ ?_ ?_
    · intro id hkey
      rw [← depositKey_injective hkey, h.nextDocument]
      exact Nat.lt_succ_self _
    · exact fun id => depositKey_ne_restoreKey db.nextDocument id
    · rintro - id hid
      rw [← Option.some.inj hid, h.nextDocument]
      exact ⟨Nat.lt_succ_self _, db.nextDocument, row, hget, rfl⟩
    · intro htype
      exact absurd htype (by decide : "CUSTOMER_DEPOSIT" ≠ "DEPOSIT_APPLICATION")
  · intro id hid
    rw [hledger]
    exact hdb.journals.hasJournal_posted hposted (hdb.hasJournal id ((halive id).mp hid))
  · have hbefore : (netActiveBalance db.ledger a .CREDIT).toRat = (spendableTotal db).toRat :=
      hdb.matching
    unfold LiabilityMatches
    rw [hledger, hdb.journals.balance_posted hposted, linesChange_deposit, Numeric.toRat_add,
      Numeric.toRat_ofRat_toRat (by decide), hbefore, hspendable, Numeric.toRat_add]

/-- The journals of applications lower the balance by their amounts. -/
theorem ApplicationsPosted.effect {next : DocumentId} {taken : String → Prop}
    {alive : DocumentId → Prop} {l' : LedgerDb} {applied : List (DocumentId × Cents)}
    (h : ApplicationsPosted l applied l') (hl : Journals a next taken alive l) :
    Journals a next taken alive l' ∧ (∀ id, HasJournal l id → HasJournal l' id) ∧
      (∀ id ∈ applied.map (·.1), HasJournal l' id) ∧
      (netActiveBalance l' a .CREDIT).toRat =
        (netActiveBalance l a .CREDIT).toRat - Numeric.toRat (applied.map (·.2)).sum := by
  induction h with
  | nil l => exact ⟨hl, fun _ h => h, fun _ h => (List.not_mem_nil h).elim, by simp⟩
  | @cons l mid l' ctx data rest hwrites hcall _ ih =>
    obtain ⟨out, hout, rfl⟩ := map_eq_ok hcall
    obtain ⟨header, written, lines, hposted⟩ := createJournalEntry_posted hwrites hout
    have hmid : Journals a next taken alive out.db := by
      refine hl.posted hposted ?_ ?_ ?_ ?_
      · exact fun id hkey => absurd hkey.symm (depositKey_ne_applicationKey id data.applicationId)
      · exact fun id hkey => restoreKey_ne_applicationKey id data.applicationId hkey.symm
      · intro htype
        exact absurd htype (by decide : "DEPOSIT_APPLICATION" ≠ "CUSTOMER_DEPOSIT")
      · intro _
        rw [linesChange_application, totalDebits_application]
    have hnew : HasJournal out.db data.applicationId := by
      obtain ⟨htype, -, -⟩ := hposted.referenceType_eq
      refine ⟨l.nextId, header, ?_, htype, ?_, hposted.headerAdded.notReversed⟩
      · rw [hposted.headerAdded.transactions, OrderedMap.get?_set_self]
      · exact (Option.some.inj hposted.referenceId).symm
    obtain ⟨hafter, hkept, hall, hbalance⟩ := ih hmid
    refine ⟨hafter, fun id hid => hkept id (hl.hasJournal_posted hposted hid), ?_, ?_⟩
    · intro id hid
      rw [List.map_cons, List.mem_cons] at hid
      rcases hid with rfl | hid
      · exact hkept _ hnew
      · exact hall id hid
    · rw [hbalance, hl.balance_posted hposted, linesChange_application, List.map_cons,
        List.sum_cons, Numeric.toRat_add, Numeric.toRat_add, Numeric.toRat_neg,
        Numeric.toRat_ofRat_toRat (by decide)]
      ring

/-- Applying deposits and posting the applications keeps the agreement. -/
theorem apply_good {input : ApplyInput} {mid : DepositDb} {applied : List (DocumentId × Cents)}
    {ledger : LedgerDb} (hdb : DepositsGood a db)
    (h : applyDepositsToSaleInTransaction env db input = .ok (applied, mid))
    (hposted : ApplicationsPosted mid.ledger applied ledger) :
    DepositsGood a { mid with ledger := ledger } := by
  obtain ⟨htables, happlied⟩ := applyDeposits_ok hdb.toTables h
  obtain ⟨hfrozen, htotal⟩ := happlied.spendable hdb.frozen
  have hmid : Journals a mid.nextDocument (NumberTaken mid) (Alive mid) mid.ledger := by
    rw [happlied.ledger]
    refine hdb.journals.mono happlied.nextDocument_le happlied.numbers fun id hid => ?_
    exact (happlied.alive id hid).imp_right And.left
  obtain ⟨hjournals, hkept, hall, hbalance⟩ := hposted.effect hmid
  refine
    { htables.withLedger ledger with
      frozen := hfrozen
      journals := hjournals
      hasJournal := ?_
      matching := ?_ }
  · intro id hid
    rcases happlied.alive id hid with hold | ⟨-, hnew⟩
    · refine hkept id ?_
      rw [happlied.ledger]
      exact hdb.hasJournal id hold
    · exact hall id hnew
  · have hbefore : (netActiveBalance db.ledger a .CREDIT).toRat = (spendableTotal db).toRat :=
      hdb.matching
    show (netActiveBalance ledger a .CREDIT).toRat = (spendableTotal mid).toRat
    rw [hbalance, happlied.ledger, hbefore, htotal, Numeric.toRat_sub]

/-- A refund of a deposit on which nothing is left. -/
theorem refund_good {reason : Option String} (hdb : DepositsGood a db)
    (h : refundDeposit db depositId reason = .ok db')
    (hsound : Sound db (.refund depositId reason)) : DepositsGood a db' := by
  have htables := refund_tables hdb.toTables h
  obtain ⟨row, notes, hrow, hactive, rfl⟩ := refund_ok h
  have hzero : row.amountAvailable = 0 := hsound row hrow
  refine
    { htables with
      frozen := ?_
      journals := hdb.journals.mono le_rfl ?_ fun id hid => .inl hid
      hasJournal := hdb.hasJournal
      matching := ?_ }
  · intro id r hr hnot
    rcases refund_get? hr with ⟨-, rfl⟩ | hr
    · exact hzero
    · exact hdb.frozen id r hr hnot
  · rintro number ⟨id, r, hr, hnumber⟩
    rcases eq_or_ne id depositId with rfl | hne
    · rw [hrow] at hr
      cases hr
      exact ⟨id, _, OrderedMap.get?_set_self _ _ _, hnumber⟩
    · exact ⟨id, r, (OrderedMap.get?_set_of_ne hne _ _).trans hr, hnumber⟩
  · have hold : row.spendable = 0 := (hdb.frozen.spendable_eq hrow).trans hzero
    have hset := OrderedMap.sumWhere_set (fun _ => true) DepositRow.spendable db.deposits depositId
      { row with status := .REFUNDED, notes := some notes }
    rw [if_pos rfl, OrderedMap.valueAt_of_get? hrow, hold, sub_zero] at hset
    have hnew : DepositRow.spendable { row with status := .REFUNDED, notes := some notes } = 0 := rfl
    rw [hnew, add_zero] at hset
    have hsame : spendableTotal { db with
        deposits := db.deposits.set depositId
          { row with status := .REFUNDED, notes := some notes } } = spendableTotal db := hset
    unfold LiabilityMatches
    rw [hsame]
    exact hdb.matching

/-! ## Restores -/

theorem restoredSlices_of_small {remaining : Cents} (h : ¬ 9 / 1000 < remaining.toRat)
    (apps : List SaleApplication) : restoredSlices apps remaining = [] := by
  cases apps with
  | nil => rfl
  | cons app rest => exact if_neg h

/-- What a restore reads of an application is what the table has. -/
def ReadAs (db : DepositDb) (app : SaleApplication) : Prop :=
  ∃ row, db.applications.get? app.id = some row ∧ row.amountApplied = app.amountApplied

theorem mem_saleApplications {saleId : DocumentId} (h : app ∈ saleApplications env db saleId) :
    ReadAs db app := by
  unfold saleApplications at h
  obtain ⟨e, he, hread⟩ := List.mem_filterMap.mp h
  obtain ⟨deposit, -, rfl⟩ := Option.map_eq_some_iff.mp hread
  have hmem := (List.mem_filter.mp ((List.perm_insertionSort _ _).mem_iff.mp he)).1
  exact ⟨e.2, OrderedMap.get?_eq_some_iff.mpr hmem, rfl⟩

/-- A restore reads each application once. -/
theorem saleApplications_pairwise (env : DepositEnv) (db : DepositDb) (saleId : DocumentId) :
    (saleApplications env db saleId).Pairwise fun x y => x.id ≠ y.id := by
  have hentries : db.applications.entries.Pairwise fun x y => x.1 ≠ y.1 :=
    List.pairwise_map.mp db.applications.nodup
  have hsorted : ((db.applications.entries.filter fun e => e.2.saleId = some saleId).insertionSort
      fun a b => b.2.appliedAt < a.2.appliedAt ∨ (a.2.appliedAt = b.2.appliedAt ∧
        env.before b.1 a.1 = true)).Pairwise fun x y => x.1 ≠ y.1 :=
    (List.perm_insertionSort _ _).symm.pairwise (hentries.filter _) fun h => Ne.symm h
  refine hsorted.filterMap _ fun x y hne x' hx y' hy => ?_
  obtain ⟨-, -, rfl⟩ := Option.map_eq_some_iff.mp hx
  obtain ⟨-, -, rfl⟩ := Option.map_eq_some_iff.mp hy
  exact hne

/-- Rows and ledger move by the same amount. -/
theorem good_of_moved {applicationId : DocumentId} {row' : DepositRow} {slice : Cents}
    (hdb : DepositsGood a db)
    (hmoved : AmountMoved { db with ledger := l } db' depositId applicationId row row' (-slice))
    (hnext : db'.nextDocument = db.nextDocument)
    (hjournals : Journals a db.nextDocument (NumberTaken db) (Alive db') l)
    (hhas : ∀ id, Alive db' id → HasJournal l id)
    (hbalance : (netActiveBalance l a .CREDIT).toRat =
      (netActiveBalance db.ledger a .CREDIT).toRat + slice.toRat) : DepositsGood a db' := by
  have hledger : db'.ledger = l := hmoved.ledger
  have htables := hdb.toTables.withLedger l
  refine
    { hmoved.tables htables with
      frozen := hmoved.nothingFrozen hdb.frozen
      journals := ?_
      hasJournal := ?_
      matching := ?_ }
  · rw [hledger, hnext]
    exact hjournals.mono le_rfl (fun number => hmoved.numberTaken_iff.mpr) fun id hid => .inl hid
  · rw [hledger]
    exact hhas
  · have hbefore : (netActiveBalance db.ledger a .CREDIT).toRat = (spendableTotal db).toRat :=
      hdb.matching
    have htotal : spendableTotal db' = spendableTotal db - -slice :=
      hmoved.spendableTotal_eq htables hdb.frozen
    unfold LiabilityMatches
    rw [hledger, hbalance, hbefore, htotal, sub_neg_eq_add, Numeric.toRat_add]

/-- The other applications read as before. -/
theorem ReadAs.moved {applicationId : DocumentId} {row' : DepositRow} {amount : Cents}
    {other : SaleApplication}
    (hmoved : AmountMoved { db with ledger := l } db' depositId applicationId row row' amount)
    (hne : other.id ≠ applicationId) (h : ReadAs db other) : ReadAs db' other := by
  obtain ⟨r, hr, hamount⟩ := h
  exact ⟨r, (hmoved.others other.id hne).trans hr, hamount⟩

/-- A reversal for one application leaves the journals of parts of others as they are. -/
theorem SliceSound.reversed {a : AccountId} {next : DocumentId} {taken : String → Prop}
    {alive : DocumentId → Prop} {env : DepositEnv} {input : RestoreInput} {l : LedgerDb}
    {app : SaleApplication} {journal : TransactionId} {ctx : PostingContext} {out : PostingOutcome}
    {original header : TransactionRow} {written : List LedgerEntry} {mid : LedgerDb}
    (hl : Journals a next taken alive l)
    (hp : ReversalPosted ctx l (wholeRestore input app journal) out original header written mid)
    {p : SaleApplication × Cents} (h : SliceSound env input l p) :
    SliceSound env input out.db p := by
  unfold SliceSound at h ⊢
  split
  · rename_i hwhole
    rw [if_pos hwhole] at h
    exact fun t row hjournal => h t row (hl.isJournalOf_of_reversed hp hjournal)
  · rename_i hpart
    rw [if_neg hpart] at h
    obtain ⟨hkey, hunseen⟩ := h
    constructor
    · refine checkIdempotencyKey_eq_none_iff.mpr fun t row hrow hlive hposted hrowKey => ?_
      rcases hp.originalReversed.get?_cases hl.wellFormed hrow with ⟨-, rfl⟩ | ⟨-, rfl⟩ | ⟨-, hold⟩
      · cases hlive
      · have hheader : row.idempotencyKey = restoreKey app.id := by
          rw [hp.header_eq]
          rfl
        exact restoreKey_ne_sliceKey app.id p.1.id p.2 (hheader.symm.trans hrowKey)
      · exact checkIdempotencyKey_eq_none_iff.mp hkey t row hold hlive hposted hrowKey
    · exact fun t row hactive => hunseen t row ((hp.activeRow_iff hl.wellFormed).mp hactive).1

/-- A whole application comes back, and the whole of its journal. -/
theorem wholeRestore_good {journal : TransactionId} {t : TransactionRow} {out : PostingOutcome}
    (hdb : DepositsGood a db) (hread : ReadAs db app)
    (hjournal : IsJournalOf db.ledger app.id journal t)
    (htotal : t.totalDebitAmount.toRat = app.amountApplied.toRat)
    (hreverse : reverseTransaction env.client db.ledger (wholeRestore input app journal) = .ok out)
    (h : reverseDepositApplicationInTransaction { db with ledger := out.db } app.id = .ok db') :
    DepositsGood a db' ∧ (∀ other, other.id ≠ app.id → ReadAs db other → ReadAs db' other) ∧
      ∀ p, SliceSound env input db.ledger p → SliceSound env input db'.ledger p := by
  obtain ⟨row, hrow, hamount⟩ := hread
  obtain ⟨happlications, hnext, r, r', hmoved⟩ :=
    reverseApplication_ok (hdb.toTables.withLedger out.db) hrow h
  have hlt : app.id < db.nextDocument := hdb.applicationIds app.id row hrow
  have hfree : (LedgerCall.reverse env.client (wholeRestore input app journal)).Writes db.ledger := by
    refine checkIdempotencyKey_eq_none_iff.mpr fun t' r' hr' _ hposted hkey => ?_
    exact (hdb.journals.restoreKeys t' r' app.id hr' hposted hkey).2 ⟨row, hrow⟩
  obtain ⟨original, header, written, mid, hp⟩ :=
    reverseTransaction_posted hdb.journals.wellFormed.idsBelow hfree hreverse
  have hgone : ¬ Alive db' app.id := by
    rintro ⟨app', happ'⟩
    rw [happlications, OrderedMap.get?_erase_self] at happ'
    cases happ'
  have hothers : ∀ id, id ≠ app.id → db'.applications.get? id = db.applications.get? id :=
    hmoved.others
  have halive : ∀ id, Alive db' id → Alive db id ∧ id ≠ app.id := by
    rintro id hid
    have hne : id ≠ app.id := by
      rintro rfl
      exact hgone hid
    obtain ⟨app', happ'⟩ := hid
    exact ⟨⟨app', (hothers id hne).symm.trans happ'⟩, hne⟩
  have horiginal : original.referenceId = app.id := by
    have hget : db.ledger.transactions.get? journal = some original := hp.original_get
    rw [hjournal.get] at hget
    rw [← Option.some.inj hget]
    exact hjournal.referenceId
  have hjournals : Journals a db.nextDocument (NumberTaken db) (Alive db') out.db := by
    refine (hdb.journals.mono le_rfl (fun _ h => h) fun id hid => ?_).reversed hp rfl hlt hgone
    exact .inl (halive id hid).1
  refine ⟨good_of_moved hdb hmoved hnext hjournals ?_ ?_, ?_, ?_⟩
  · intro id hid
    obtain ⟨hold, hne⟩ := halive id hid
    exact hdb.journals.hasJournal_reversed hp (fun heq => hne (heq.symm.trans horiginal))
      (hdb.hasJournal id hold)
  · rw [hdb.journals.balance_reversed hp hjournal, Numeric.toRat_add, htotal, hamount]
  · exact fun other hne hother => hother.moved hmoved hne
  · intro p hsound
    have hledger : db'.ledger = out.db := hmoved.ledger
    rw [hledger]
    exact hsound.reversed hdb.journals hp

/-- A part of an application comes back, with a journal of its own. -/
theorem partRestore_good {slice : Cents} {out : PostingOutcome} (hdb : DepositsGood a db)
    (hread : ReadAs db app) (hnew : NewPart env input db.ledger app slice)
    (hpost : createJournalEntry env.client db.ledger (sliceRequest env input app slice) = .ok out)
    (h : reduceDepositApplicationInTransaction { db with ledger := out.db } app.id slice = .ok db') :
    DepositsGood a db' ∧ ∀ other, other.id ≠ app.id → ReadAs db other → ReadAs db' other := by
  obtain ⟨row, hrow, -⟩ := hread
  obtain ⟨hsub, hnext, r, r', hmoved⟩ :=
    reduceApplication_ok (hdb.toTables.withLedger out.db) hrow h
  have hwrites : (LedgerCall.create env.client (sliceRequest env input app slice)).Writes
      db.ledger := by
    refine ⟨hnew.1, ?_⟩
    cases href : existingByReference env.client db.ledger (sliceRequest env input app slice) with
    | none => rfl
    | some result =>
      obtain ⟨r, hactive, hsame, hseen⟩ := existingByReference_eq_some href
      exact absurd hseen (hnew.2 _ r hactive hsame)
  obtain ⟨header, written, mid, hp⟩ := createJournalEntry_posted hwrites hpost
  have halive : ∀ id, Alive db' id → Alive db id := fun id ⟨app', happ'⟩ => hsub id app' happ'
  have hjournals : Journals a db.nextDocument (NumberTaken db) (Alive db') out.db := by
    refine (hdb.journals.mono le_rfl (fun _ h => h) fun id hid => .inl (halive id hid)).posted hp
      ?_ ?_ ?_ ?_
    · exact fun id hkey => absurd hkey.symm (depositKey_ne_sliceKey id app.id slice)
    · exact fun id hkey => restoreKey_ne_sliceKey id app.id slice hkey.symm
    · intro htype
      exact absurd htype (by decide : "DEPOSIT_APPLICATION_REVERSAL" ≠ "CUSTOMER_DEPOSIT")
    · intro htype
      exact absurd htype (by decide : "DEPOSIT_APPLICATION_REVERSAL" ≠ "DEPOSIT_APPLICATION")
  refine ⟨good_of_moved hdb hmoved hnext hjournals ?_ ?_,
    fun other hne hother => hother.moved hmoved hne⟩
  · exact fun id hid => hdb.journals.hasJournal_posted hp (hdb.hasJournal id (halive id hid))
  · rw [hdb.journals.balance_posted hp, linesChange_slice, Numeric.toRat_add,
      Numeric.toRat_ofRat_toRat (by decide)]

/-- Where a restore stands: the applications still to come are as they were read. -/
structure RestoreGood (a : AccountId) (env : DepositEnv) (input : RestoreInput)
    (rest : List SaleApplication) (s : Restoring) : Prop where
  good : DepositsGood a s.db
  read : ∀ app ∈ rest, ReadAs s.db app
  sound : ∀ p ∈ restoredSlices rest s.remaining, SliceSound env input s.db.ledger p

/-- One round keeps it. -/
theorem RestoreGood.step {a : AccountId} {env : DepositEnv} {input : RestoreInput}
    {app : SaleApplication} {rest : List SaleApplication} {s s' : Restoring}
    (hs : RestoreGood a env input (app :: rest) s) (hother : ∀ x ∈ rest, app.id ≠ x.id)
    (h : restoreApplication env input s app = .ok s') : RestoreGood a env input rest s' := by
  have hread := hs.read app List.mem_cons_self
  have hrestRead : ∀ x ∈ rest, ReadAs s.db x := fun x hx => hs.read x (List.mem_cons_of_mem _ hx)
  obtain ⟨row, hrow, hamount⟩ := hread
  unfold restoreApplication at h
  split at h
  · rename_i hskip
    rw [pure_eq_ok] at h
    subst h
    refine ⟨hs.good, hrestRead, ?_⟩
    have hsmall : ¬ 9 / 1000 < s.remaining.toRat := by
      rcases hskip with hsmall | hzero
      · exact hsmall
      · exact absurd (hamount ▸ row.chk_application_amount_positive) hzero
    rw [restoredSlices_of_small hsmall]
    exact List.forall_mem_nil _
  · rename_i hgo
    have hmore : 9 / 1000 < s.remaining.toRat := not_not.mp (not_or.mp hgo).1
    have hsound := hs.sound
    unfold restoredSlices at hsound
    rw [if_pos hmore, List.forall_mem_cons] at hsound
    obtain ⟨hthis, hlater⟩ := hsound
    obtain ⟨journal, hfound⟩ := (hs.good.hasJournal app.id ⟨row, hrow⟩).found
    have hjournal := applicationJournal_eq_some hfound
    rw [hfound] at h
    simp only [bind_eq_ok, pure_eq_ok] at h
    obtain ⟨db, hslice, rfl⟩ := h
    unfold restoreSlice at hslice
    split at hslice
    · -- the whole of what is applied
      rename_i hwhole
      simp only [bind_eq_ok] at hslice
      obtain ⟨out, hreverse, hrows⟩ := hslice
      have hall : min s.remaining app.amountApplied = app.amountApplied :=
        sub_eq_zero.mp (eq_zero_of_abs_toRat_lt hwhole)
      have huntouched : Untouched s.db.ledger app := by
        unfold SliceSound at hthis
        rwa [if_pos hall] at hthis
      obtain ⟨hgood, hreadKept, hsoundKept⟩ := wholeRestore_good hs.good ⟨row, hrow, hamount⟩
        hjournal (huntouched _ _ hjournal) (ofLedger_eq_ok.mp hreverse) hrows
      exact ⟨hgood, fun x hx => hreadKept x (hother x hx).symm (hrestRead x hx),
        fun p hp => hsoundKept p (hlater p hp)⟩
    · -- a part, so nothing remains to be restored
      rename_i hpart
      simp only [bind_eq_ok] at hslice
      obtain ⟨out, hpost, hrows⟩ := hslice
      have hne : min s.remaining app.amountApplied ≠ app.amountApplied := by
        intro hall
        rw [hall, sub_self] at hpart
        exact hpart (by norm_num)
      have hmin : min s.remaining app.amountApplied = s.remaining :=
        (min_choice _ _).resolve_right hne
      have hnew : NewPart env input s.db.ledger app (min s.remaining app.amountApplied) := by
        unfold SliceSound at hthis
        rwa [if_neg hne] at hthis
      obtain ⟨hgood, hreadKept⟩ := partRestore_good hs.good ⟨row, hrow, hamount⟩ hnew
        (ofLedger_eq_ok.mp hpost) hrows
      refine ⟨hgood, fun x hx => hreadKept x (hother x hx).symm (hrestRead x hx), ?_⟩
      rw [hmin, sub_self, restoredSlices_of_small (by norm_num)]
      exact List.forall_mem_nil _

theorem RestoreGood.run {apps : List SaleApplication} {s s' : Restoring}
    (hs : RestoreGood a env input apps s) (hdistinct : apps.Pairwise fun x y => x.id ≠ y.id)
    (h : apps.foldlM (restoreApplication env input) s = .ok s') : DepositsGood a s'.db := by
  induction apps generalizing s with
  | nil =>
    rw [List.foldlM_nil, pure_eq_ok] at h
    exact h ▸ hs.good
  | cons app rest ih =>
    rw [List.foldlM_cons, bind_eq_ok] at h
    obtain ⟨mid, hmid, hrest⟩ := h
    obtain ⟨hother, hdistinct⟩ := List.pairwise_cons.mp hdistinct
    exact ih (hs.step hother hmid) hdistinct hrest

theorem restore_good {restored : Restoring} (hdb : DepositsGood a db)
    (h : restoreSaleDepositApplicationsInTransaction env db input = .ok restored)
    (hsound : Sound db (.restore env input)) : DepositsGood a restored.db := by
  unfold restoreSaleDepositApplicationsInTransaction at h
  dsimp only at h
  split at h
  · rw [pure_eq_ok] at h
    exact h ▸ hdb
  · have hstart : RestoreGood a env input (saleApplications env db input.saleId)
        ⟨db, Numeric.ofRat input.amount, 0, 0⟩ := ⟨hdb, fun _ => mem_saleApplications, hsound⟩
    exact hstart.run (saleApplications_pairwise env db input.saleId) h

/-- A step that meets the condition keeps the agreement. -/
theorem DepositStep.good {call : DepositCall} (hdb : DepositsGood a db)
    (h : DepositStep db call db') (hsound : Sound db call) : DepositsGood a db' := by
  cases h with
  | create h =>
    obtain ⟨row, name, htaken⟩ := createDeposit_ok h
    exact htaken.good hdb
  | apply h hposted => exact apply_good hdb h hposted
  | restore h => exact restore_good hdb h hsound
  | refund h => exact refund_good hdb h hsound

/-! ## The result -/

/-- After every run the tables agree, and after a run whose steps meet the condition what
can still be spent is the balance of account 2200. -/
theorem liability_matches {a : AccountId} {db db' : DepositDb}
    {steps : List (DepositDb × DepositCall × DepositDb)} (hstart : NoDeposits a db)
    (h : Run DepositStep db steps db') :
    RowsAgree db' ∧ ((∀ t ∈ steps, Sound t.1 t.2.1) → LiabilityMatches a db') := by
  have htables : Tables db := hstart.good.toTables
  refine ⟨?_, fun hsound => ?_⟩
  · exact (h.invariant (P := Tables) (fun _ _ _ hs hstep => hstep.tables hs) htables).1.toRowsAgree
  · exact (h.ends (P := DepositsGood a) (K := Sound) (fun _ _ _ hs hstep hk => hstep.good hs hk)
      hsound hstart.good).matching

/-! ## Runs of one deposit -/

def undepositedFunds : AccountRow :=
  ⟨"1015", "Undeposited Funds", .DEBIT, true, true, [], some "UNDEPOSITED_FUNDS", 0⟩

def receivables : AccountRow :=
  ⟨"1200", "Accounts Receivable", .DEBIT, true, true, [], some "ACCOUNTS_RECEIVABLE", 0⟩

def customerDeposits : AccountRow :=
  ⟨"2200", "Customer Deposits", .CREDIT, true, true, [], none, 0⟩

/-- Three accounts, no transactions, and no periods: every date is open. -/
def depositBooks : LedgerDb where
  accounts := ((OrderedMap.empty.set 1 undepositedFunds).set 2 receivables).set 3 customerDeposits
  transactions := OrderedMap.empty
  entries := []
  periods := OrderedMap.empty
  periodBalances := OrderedMap.empty
  events := OrderedMap.empty
  nextId := 10
  codes_nodup := by decide

def emptyTables : DepositDb := ⟨OrderedMap.empty, OrderedMap.empty, depositBooks, 1⟩

/-- Everything before the call is committed, and the column of references takes any text. -/
def depositEnv (db : DepositDb) : DepositEnv where
  ctx := contextOf .txClient db.ledger
  today := january
  depositNumber := "DEP-0001"
  customerName := fun _ => some "Ann"
  before := fun x y => x < y
  referenceOfText := fun text => some text.length

/-- The start of the runs below. -/
theorem emptyTables_noDeposits : NoDeposits 3 emptyTables := by
  have hempty : EmptyLedger depositBooks :=
    { transactions := rfl
      entries := rfl
      balances := by
        intro a row hrow
        have hmem := OrderedMap.get?_eq_some_iff.mp hrow
        have hall : ∀ e ∈ depositBooks.accounts.entries, e.2.currentBalance = 0 := by decide
        exact hall (a, row) hmem
      periodBalances := rfl
      events := rfl }
  have hnone : ∀ t row, emptyTables.ledger.transactions.get? t ≠ some row := fun t row h => by
    cases h
  exact
    { deposits := rfl
      applications := rfl
      wellFormed := hempty.wellFormed
      account := ⟨customerDeposits, rfl, rfl⟩
      balance := rfl
      rows := fun t row hrow => absurd hrow (hnone t row)
      keys := fun t row _ hrow => absurd hrow (hnone t row) }

/-- 100 is taken. -/
def takeCall : DepositCall :=
  .create (depositEnv emptyTables) ⟨"ann", 100, "CASH", none, none, none⟩

def taken : DepositDb :=
  settled (createDeposit (depositEnv emptyTables) emptyTables ⟨"ann", 100, "CASH", none, none, none⟩)
    emptyTables

theorem takeCall_step : DepositStep emptyTables takeCall taken :=
  .create (eq_ok_settled (by decide +kernel) emptyTables)

/-- 40 of it is applied to a sale. -/
def applyForty : ApplyInput := ⟨"ann", some 500, none, 40, none⟩

def appliedTables : Applying :=
  settled (applyDepositsToSaleInTransaction (depositEnv taken) taken applyForty) ([], taken)

def fortyJournal : DepositApplicationGLData :=
  ⟨2, "DEP-0001", "DEP-0001-SALE", "SALE-0500", january, ⟨4000⟩, "ann", "Ann"⟩

def fortyPosting : LedgerCall :=
  .create (contextOf .txClient taken.ledger) (depositApplicationRequest fortyJournal)

def applied : DepositDb :=
  { appliedTables.2 with ledger := fortyPosting.after appliedTables.2.ledger }

theorem applyForty_step : DepositStep taken (.apply (depositEnv taken) applyForty) applied := by
  have hposted : ApplicationsPosted appliedTables.2.ledger appliedTables.1 applied.ledger := by
    obtain ⟨hone, hrun⟩ : appliedTables.1 = [(fortyJournal.applicationId, fortyJournal.amount)] ∧
        ((fortyPosting.run appliedTables.2.ledger).map (·.db)).toBool = true := by decide +kernel
    rw [hone]
    exact .cons ⟨by decide +kernel, by decide +kernel⟩ (LedgerCall.step_after hrun) (.nil _)
  exact .apply (eq_ok_settled (by decide +kernel) ([], taken)) hposted

/-- A part of the sale's deposit comes back. -/
def restoreOf (amount : ℚ) : RestoreInput := ⟨500, amount, january, "refund", "clerk"⟩

def restoredFrom (db : DepositDb) (amount : ℚ) : DepositDb :=
  (settled (restoreSaleDepositApplicationsInTransaction (depositEnv db) db (restoreOf amount))
    ⟨db, 0, 0, 0⟩).db

theorem restoredFrom_step (db : DepositDb) (amount : ℚ)
    (h : (restoreSaleDepositApplicationsInTransaction (depositEnv db) db
      (restoreOf amount)).toBool = true) :
    DepositStep db (.restore (depositEnv db) (restoreOf amount)) (restoredFrom db amount) :=
  .restore (eq_ok_settled h _)

/-- The steps up to the application of 40. -/
def upToApplied : List (DepositDb × DepositCall × DepositDb) :=
  [(emptyTables, takeCall, taken), (taken, .apply (depositEnv taken) applyForty, applied)]

theorem run_upToApplied {steps : List (DepositDb × DepositCall × DepositDb)}
    (h : Run DepositStep applied steps db) :
    Run DepositStep emptyTables (upToApplied ++ steps) db :=
  .cons takeCall_step (.cons applyForty_step h)

/-- Restoring all of the application in one go meets the condition. -/
theorem restoreForty_sound : Sound applied (.restore (depositEnv applied) (restoreOf 40)) := by
  have hslices : restoredSlices (saleApplications (depositEnv applied) applied 500)
      (Numeric.ofRat 40) = [(⟨2, ⟨4000⟩, "ann", "DEP-0001"⟩, ⟨4000⟩)] := by decide +kernel
  have hrows : ∀ e ∈ applied.ledger.transactions.entries, e.2.referenceType = "DEPOSIT_APPLICATION" →
      e.2.totalDebitAmount.toRat = (⟨4000⟩ : Cents).toRat := by decide +kernel
  intro p hp
  have hp : p ∈ restoredSlices (saleApplications (depositEnv applied) applied 500)
      (Numeric.ofRat 40) := hp
  rw [hslices, List.mem_singleton] at hp
  subst hp
  refine (if_pos rfl).mpr fun t row hjournal => ?_
  exact hrows (t, row) (OrderedMap.get?_eq_some_iff.mp hjournal.get) hjournal.referenceType

/-- 100 taken, 40 applied and restored: 100 can be spent, and 100 is owed. -/
theorem liability_matches_restored :
    RowsAgree (restoredFrom applied 40) ∧ LiabilityMatches 3 (restoredFrom applied 40) := by
  have hrun := run_upToApplied (.cons (restoredFrom_step applied 40 (by decide +kernel)) (.nil _))
  obtain ⟨hrows, hmatches⟩ := liability_matches emptyTables_noDeposits hrun
  refine ⟨hrows, hmatches ?_⟩
  simp only [upToApplied, List.cons_append, List.nil_append, List.forall_mem_cons]
  exact ⟨trivial, trivial, restoreForty_sound, List.forall_mem_nil _⟩

def refunded : DepositDb := settled (refundDeposit taken 1 none) taken

/-- The balance of account 2200 and what can be spent, in cents. -/
def owedAndSpendable (db : DepositDb) : ℚ × ℤ :=
  ((netActiveBalance db.ledger 3 .CREDIT).toRat * 100, (spendableTotal db).units)

/-- Three runs after which the two differ: a refund of 100, a part of 15 followed by the
other 25, and two parts of 10. -/
theorem liability_differs :
    NoDeposits 3 emptyTables ∧
    (∃ steps, Run DepositStep emptyTables steps refunded) ∧
    owedAndSpendable refunded = (10000, 0) ∧
    (∃ steps, Run DepositStep emptyTables steps (restoredFrom (restoredFrom applied 15) 25)) ∧
    owedAndSpendable (restoredFrom (restoredFrom applied 15) 25) = (11500, 10000) ∧
    (∃ steps, Run DepositStep emptyTables steps (restoredFrom (restoredFrom applied 10) 10)) ∧
    owedAndSpendable (restoredFrom (restoredFrom applied 10) 10) = (7000, 8000) := by
  have hrefund : DepositStep taken (.refund 1 none) refunded :=
    .refund (eq_ok_settled (by decide +kernel) taken)
  have hparts : ∀ first second : ℚ,
      (restoreSaleDepositApplicationsInTransaction (depositEnv applied) applied
        (restoreOf first)).toBool = true →
      (restoreSaleDepositApplicationsInTransaction (depositEnv (restoredFrom applied first))
        (restoredFrom applied first) (restoreOf second)).toBool = true →
      ∃ steps, Run DepositStep emptyTables steps (restoredFrom (restoredFrom applied first) second) :=
    fun first second h h' => ⟨_, run_upToApplied (.cons (restoredFrom_step applied first h)
      (.cons (restoredFrom_step (restoredFrom applied first) second h') (.nil _)))⟩
  have hrefunded : owedAndSpendable refunded = (10000, 0) := by decide +kernel
  -- each of the two runs is evaluated once
  obtain ⟨h₁₅, h₂₅, hrest⟩ :
      (restoreSaleDepositApplicationsInTransaction (depositEnv applied) applied
          (restoreOf 15)).toBool = true ∧
        (restoreSaleDepositApplicationsInTransaction (depositEnv (restoredFrom applied 15))
          (restoredFrom applied 15) (restoreOf 25)).toBool = true ∧
        owedAndSpendable (restoredFrom (restoredFrom applied 15) 25) = (11500, 10000) := by
    decide +kernel
  obtain ⟨h₁₀, h₁₀', htens⟩ :
      (restoreSaleDepositApplicationsInTransaction (depositEnv applied) applied
          (restoreOf 10)).toBool = true ∧
        (restoreSaleDepositApplicationsInTransaction (depositEnv (restoredFrom applied 10))
          (restoredFrom applied 10) (restoreOf 10)).toBool = true ∧
        owedAndSpendable (restoredFrom (restoredFrom applied 10) 10) = (7000, 8000) := by
    decide +kernel
  exact ⟨emptyTables_noDeposits, ⟨_, .cons takeCall_step (.cons hrefund (.nil _))⟩, hrefunded,
    hparts 15 25 h₁₅ h₂₅, hrest, hparts 10 10 h₁₀ h₁₀', htens⟩

end SmartErpPos.Deposits
