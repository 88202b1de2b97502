/-
  Deposits/Rows.lean --- the amounts of a deposit and its applications.

  Applying a deposit and taking an application back change the two tables in the same
  way: an amount moves between what is available and what is used, and the applications
  of the deposit add up to that amount more or less.  `AmountMoved` is this effect, and
  everything about the tables follows from it.
-/
import SmartErpPos.Deposits.Service
import SmartErpPos.Lib.KeyedSum

set_option autoImplicit false

namespace SmartErpPos.Deposits

open SmartErpPos.Lib SmartErpPos.Ledger

/-! ## Sums -/

/-- The part of an application that counts for a deposit. -/
def DepositApplicationRow.amountFor (id : DocumentId) (app : DepositApplicationRow) : Cents :=
  if app.depositId = id then app.amountApplied else 0

/-- What the applications of a deposit add up to. -/
def appliedTo (db : DepositDb) (id : DocumentId) : Cents :=
  db.applications.sumWhere (fun _ => true) (·.amountFor id)

/-- The deposit can still be spent. -/
def DepositRow.isSpendable (row : DepositRow) : Bool :=
  decide (row.status = .ACTIVE) || decide (row.status = .DEPLETED)

/-- What can still be spent of a deposit. -/
def DepositRow.spendable (row : DepositRow) : Cents :=
  if row.isSpendable then row.amountAvailable else 0

/-- What can still be spent of all deposits. -/
def spendableTotal (db : DepositDb) : Cents :=
  db.deposits.sumWhere (fun _ => true) (·.spendable)

/-! ## The invariants of the tables -/

/-- The three amounts of a deposit agree with each other and with its applications. -/
structure RowsAgree (db : DepositDb) : Prop where
  total : ∀ id row, db.deposits.get? id = some row →
    row.amountUsed + row.amountAvailable = row.amount
  used : ∀ id row, db.deposits.get? id = some row → row.amountUsed = appliedTo db id

structure Tables (db : DepositDb) : Prop extends RowsAgree db where
  depositIds : ∀ id row, db.deposits.get? id = some row → id < db.nextDocument
  applicationIds : ∀ id app, db.applications.get? id = some app → id < db.nextDocument
  applicationDeposit : ∀ id app, db.applications.get? id = some app →
    ∃ row, db.deposits.get? app.depositId = some row

/-- Nothing is left on a deposit that can no longer be spent. -/
def NothingFrozen (db : DepositDb) : Prop :=
  ∀ id row, db.deposits.get? id = some row → row.isSpendable = false → row.amountAvailable = 0

variable {id : DocumentId} {app : DepositApplicationRow}

theorem NothingFrozen.spendable_eq {db : DepositDb} (h : NothingFrozen db) {row : DepositRow}
    (hrow : db.deposits.get? id = some row) : row.spendable = row.amountAvailable := by
  unfold DepositRow.spendable
  split
  · rfl
  · rename_i hspendable
    exact (h id row hrow (Bool.eq_false_iff.mpr hspendable)).symm

theorem Tables.deposits_nextDocument {db : DepositDb} (h : Tables db) :
    db.deposits.get? db.nextDocument = none := by
  cases hrow : db.deposits.get? db.nextDocument with
  | none => rfl
  | some row => exact absurd (h.depositIds _ _ hrow) (lt_irrefl _)

theorem Tables.applications_nextDocument {db : DepositDb} (h : Tables db) :
    db.applications.get? db.nextDocument = none := by
  cases happ : db.applications.get? db.nextDocument with
  | none => rfl
  | some app => exact absurd (h.applicationIds _ _ happ) (lt_irrefl _)

/-- A key that no deposit has is in no application. -/
theorem Tables.appliedTo_eq_zero {db : DepositDb} (h : Tables db)
    (hid : db.deposits.get? id = none) : appliedTo db id = 0 := by
  refine OrderedMap.sumWhere_eq_zero fun e he _ => if_neg fun heq => ?_
  obtain ⟨row, hrow⟩ := h.applicationDeposit e.1 e.2 (OrderedMap.get?_eq_some_iff.mpr he)
  rw [heq, hid] at hrow
  cases hrow

/-- The tables do not look at the ledger. -/
theorem Tables.withLedger {db : DepositDb} (h : Tables db) (ledger : LedgerDb) :
    Tables { db with ledger := ledger } :=
  ⟨⟨h.total, h.used⟩, h.depositIds, h.applicationIds, h.applicationDeposit⟩

/-! ## Moving an amount -/

/-- The amounts and the status of a deposit are written. -/
structure DepositRow.Updated (row row' : DepositRow) (used available : Cents)
    (status : DepositStatus) : Prop where
  depositNumber : row'.depositNumber = row.depositNumber
  amount : row'.amount = row.amount
  amountUsed : row'.amountUsed = used
  amountAvailable : row'.amountAvailable = available
  status : row'.status = status
  used_le : used ≤ row.amount

theorem DepositRow.update_ok {row row' : DepositRow} {used available : Cents}
    {status : DepositStatus} (h : row.update used available status = .ok row') :
    row.Updated row' used available status := by
  unfold DepositRow.update at h
  split at h
  · rename_i hused
    split at h
    · cases h
      exact ⟨rfl, rfl, rfl, rfl, rfl, hused.2⟩
    · cases h
  · cases h

/-- `moved` more of a deposit is used, through one application. -/
structure AmountMoved (db db' : DepositDb) (depositId applicationId : DocumentId)
    (row row' : DepositRow) (moved : Cents) : Prop where
  row_get : db.deposits.get? depositId = some row
  deposits : db'.deposits = db.deposits.set depositId row'
  depositNumber : row'.depositNumber = row.depositNumber
  amount : row'.amount = row.amount
  amountUsed : row'.amountUsed = row.amountUsed + moved
  amountAvailable : row'.amountAvailable = row.amount - (row.amountUsed + moved)
  spendable : row'.isSpendable = true
  others : ∀ id, id ≠ applicationId → db'.applications.get? id = db.applications.get? id
  application : ∀ app, db'.applications.get? applicationId = some app → app.depositId = depositId
  applied : ∀ id, appliedTo db' id = appliedTo db id + if id = depositId then moved else 0
  applicationId_lt : applicationId < db'.nextDocument
  nextDocument_le : db.nextDocument ≤ db'.nextDocument
  ledger : db'.ledger = db.ledger

namespace AmountMoved

variable {db db' : DepositDb} {depositId applicationId : DocumentId} {row row' : DepositRow}
  {moved : Cents} (h : AmountMoved db db' depositId applicationId row row' moved)

include h

theorem get?_iff {id : DocumentId} {r : DepositRow} : db'.deposits.get? id = some r ↔
    (id = depositId ∧ r = row') ∨ (id ≠ depositId ∧ db.deposits.get? id = some r) := by
  rw [h.deposits, OrderedMap.get?_set]
  split
  · rename_i heq
    simp [heq, eq_comm]
  · rename_i hne
    simp [hne]

theorem exists_row {id : DocumentId} (hrow : ∃ r, db.deposits.get? id = some r) :
    ∃ r, db'.deposits.get? id = some r := by
  obtain ⟨r, hr⟩ := hrow
  rcases eq_or_ne id depositId with rfl | hne
  · exact ⟨row', h.get?_iff.mpr (.inl ⟨rfl, rfl⟩)⟩
  · exact ⟨r, h.get?_iff.mpr (.inr ⟨hne, hr⟩)⟩

theorem tables (hdb : Tables db) : Tables db' where
  total id r hr := by
    rcases h.get?_iff.mp hr with ⟨-, rfl⟩ | ⟨-, hr⟩
    · rw [h.amountUsed, h.amountAvailable, h.amount, add_sub_cancel]
    · exact hdb.total id r hr
  used id r hr := by
    rw [h.applied]
    rcases h.get?_iff.mp hr with ⟨rfl, rfl⟩ | ⟨hne, hr⟩
    · rw [if_pos rfl, h.amountUsed, hdb.used _ row h.row_get]
    · rw [if_neg hne, add_zero, hdb.used id r hr]
  depositIds id r hr := by
    rcases h.get?_iff.mp hr with ⟨rfl, -⟩ | ⟨-, hr⟩
    · exact lt_of_lt_of_le (hdb.depositIds _ row h.row_get) h.nextDocument_le
    · exact lt_of_lt_of_le (hdb.depositIds id r hr) h.nextDocument_le
  applicationIds id app happ := by
    rcases eq_or_ne id applicationId with rfl | hne
    · exact h.applicationId_lt
    · rw [h.others id hne] at happ
      exact lt_of_lt_of_le (hdb.applicationIds id app happ) h.nextDocument_le
  applicationDeposit id app happ := by
    rcases eq_or_ne id applicationId with rfl | hne
    · rw [h.application app happ]
      exact ⟨row', h.get?_iff.mpr (.inl ⟨rfl, rfl⟩)⟩
    · rw [h.others id hne] at happ
      exact h.exists_row (hdb.applicationDeposit id app happ)

/-- The deposit can be spent afterwards, so nothing new is frozen. -/
theorem nothingFrozen (hfrozen : NothingFrozen db) : NothingFrozen db' := by
  intro id r hr hnot
  rcases h.get?_iff.mp hr with ⟨-, rfl⟩ | ⟨-, hr⟩
  · rw [h.spendable] at hnot
    cases hnot
  · exact hfrozen id r hr hnot

/-- What is used can no longer be spent. -/
theorem spendableTotal_eq (hdb : Tables db) (hfrozen : NothingFrozen db) :
    spendableTotal db' = spendableTotal db - moved := by
  have hnew : row'.spendable = row.amountAvailable - moved := by
    unfold DepositRow.spendable
    rw [if_pos h.spendable, h.amountAvailable, ← hdb.total _ row h.row_get]
    abel
  have hset := OrderedMap.sumWhere_set (fun _ => true) DepositRow.spendable db.deposits depositId
    row'
  rw [if_pos rfl, OrderedMap.valueAt_of_get? h.row_get, hnew,
    hfrozen.spendable_eq h.row_get] at hset
  unfold spendableTotal
  rw [h.deposits, hset]
  abel

/-- The deposits keep their numbers. -/
theorem numberTaken_iff {number : String} :
    (∃ id r, db'.deposits.get? id = some r ∧ r.depositNumber = number) ↔
      ∃ id r, db.deposits.get? id = some r ∧ r.depositNumber = number := by
  constructor
  · rintro ⟨id, r, hr, hnumber⟩
    rcases h.get?_iff.mp hr with ⟨rfl, rfl⟩ | ⟨-, hr⟩
    · exact ⟨_, row, h.row_get, h.depositNumber ▸ hnumber⟩
    · exact ⟨id, r, hr, hnumber⟩
  · rintro ⟨id, r, hr, hnumber⟩
    rcases eq_or_ne id depositId with rfl | hne
    · obtain rfl : row = r := Option.some.inj (h.row_get.symm.trans hr)
      exact ⟨id, row', h.get?_iff.mpr (.inl ⟨rfl, rfl⟩), h.depositNumber.trans hnumber⟩
    · exact ⟨id, r, h.get?_iff.mpr (.inr ⟨hne, hr⟩), hnumber⟩

end AmountMoved

/-! ## The calls on one deposit -/

/-- The applied sums after an application is written. -/
theorem appliedTo_set {db db' : DepositDb} {depositId : DocumentId} {before : Cents}
    {d : DocumentId} (hset : db'.applications = db.applications.set id app)
    (happ : app.depositId = depositId)
    (hbefore : db.applications.valueAt (·.amountFor d) id = if d = depositId then before else 0) :
    appliedTo db' d = appliedTo db d + if d = depositId then app.amountApplied - before else 0 := by
  unfold appliedTo
  rw [hset, OrderedMap.sumWhere_set, if_pos rfl, hbefore]
  congr 1
  by_cases hd : d = depositId
  · simp [DepositApplicationRow.amountFor, happ, hd]
  · simp [DepositApplicationRow.amountFor, happ, hd, Ne.symm hd]

/-- The applied sums after an application is deleted. -/
theorem appliedTo_erase {db db' : DepositDb} (happ : db.applications.get? id = some app)
    (herase : db'.applications = db.applications.erase id) (d : DocumentId) :
    appliedTo db' d = appliedTo db d + if d = app.depositId then -app.amountApplied else 0 := by
  unfold appliedTo
  rw [herase, OrderedMap.sumWhere_erase, if_pos rfl, OrderedMap.valueAt_of_get? happ, sub_eq_add_neg]
  congr 1
  by_cases hd : d = app.depositId
  · simp [DepositApplicationRow.amountFor, hd]
  · simp [DepositApplicationRow.amountFor, hd, Ne.symm hd]

/-- An application of a deposit. -/
theorem applyDeposit_ok {env : DepositEnv} {db db' : DepositDb} {input : ApplyDepositInput}
    (hdb : Tables db) (h : applyDepositToSaleInTransaction env db input = .ok (id, app, db')) :
    id = db.nextDocument ∧ app.amountApplied = input.amount ∧
      db'.applications = db.applications.set id app ∧ db'.nextDocument = db.nextDocument + 1 ∧
      ∃ row row', AmountMoved db db' input.depositId id row row' input.amount := by
  unfold applyDepositToSaleInTransaction at h
  simp only [bind_eq_ok, orThrow_eq_ok, require_eq_ok] at h
  obtain ⟨-, -, row, hrow, h⟩ := h
  obtain ⟨hrow, hactive⟩ := Option.filter_eq_some_iff.mp hrow
  split at h
  · rename_i hpositive
    simp only [bind_eq_ok, require_eq_ok, pure_eq_ok, Prod.mk.injEq] at h
    obtain ⟨-, henough, row', hupdate, rfl, rfl, rfl⟩ := h
    have hup := DepositRow.update_ok hupdate
    have hleft : 0 ≤ row.amount - (row.amountUsed + input.amount) := sub_nonneg.mpr hup.used_le
    refine ⟨rfl, rfl, rfl, rfl, row, row', ?_⟩
    exact
      { row_get := hrow
        deposits := rfl
        depositNumber := hup.depositNumber
        amount := hup.amount
        amountUsed := hup.amountUsed
        amountAvailable := by rw [hup.amountAvailable, max_eq_left hleft]
        spendable := by
          unfold DepositRow.isSpendable
          rw [hup.status]
          split <;> rfl
        others := fun k hk => OrderedMap.get?_set_of_ne hk _ _
        application := fun app happ => by
          rw [OrderedMap.get?_set_self] at happ
          cases happ
          rfl
        applied := fun d => by
          have hnew : db.applications.valueAt (·.amountFor d) db.nextDocument =
              if d = input.depositId then 0 else 0 := by
            rw [OrderedMap.valueAt_of_get?_none hdb.applications_nextDocument, ite_self]
          refine (appliedTo_set rfl rfl hnew).trans ?_
          rw [sub_zero]
        applicationId_lt := Nat.lt_succ_self _
        nextDocument_le := Nat.le_succ _
        ledger := rfl }
  · cases h

/-- An amount is put back on a deposit. -/
theorem restoreToDeposit_ok {db db' : DepositDb} {depositId : DocumentId} {amount : Cents}
    {row : DepositRow} (hrow : db.deposits.get? depositId = some row)
    (h : restoreToDeposit db depositId amount = .ok db') :
    ∃ row' status, row.Updated row' (row.amountUsed - amount)
        (row.amount - (row.amountUsed - amount)) status ∧ row'.isSpendable = true ∧
      db' = { db with deposits := db.deposits.set depositId row' } := by
  unfold restoreToDeposit at h
  simp only [hrow, bind_eq_ok, pure_eq_ok] at h
  obtain ⟨row', hupdate, rfl⟩ := h
  have hup := DepositRow.update_ok hupdate
  refine ⟨row', _, hup, ?_, rfl⟩
  unfold DepositRow.isSpendable
  rw [hup.status]
  split <;> rfl

/-- An amount of an application comes back: the application is rewritten or deleted. -/
theorem amountMoved_of_restore {db mid db' : DepositDb} {applicationId : DocumentId}
    {amount : Cents} (hdb : Tables db) (happ : db.applications.get? applicationId = some app)
    (hmid : restoreToDeposit db app.depositId amount = .ok mid)
    (heq : db' = { mid with applications := db'.applications })
    (hothers : ∀ id, id ≠ applicationId → db'.applications.get? id = db.applications.get? id)
    (hsame : ∀ app', db'.applications.get? applicationId = some app' → app'.depositId = app.depositId)
    (happlied : ∀ d, appliedTo db' d = appliedTo db d + if d = app.depositId then -amount else 0) :
    ∃ row row', AmountMoved db db' app.depositId applicationId row row' (-amount) := by
  obtain ⟨row, hrow⟩ := hdb.applicationDeposit applicationId app happ
  obtain ⟨row', status, hup, hspendable, rfl⟩ := restoreToDeposit_ok hrow hmid
  refine ⟨row, row', ?_⟩
  exact
    { row_get := hrow
      deposits := by rw [heq]
      depositNumber := hup.depositNumber
      amount := hup.amount
      amountUsed := by rw [hup.amountUsed, sub_eq_add_neg]
      amountAvailable := by rw [hup.amountAvailable, sub_eq_add_neg row.amountUsed]
      spendable := hspendable
      others := hothers
      application := hsame
      applied := happlied
      applicationId_lt := by
        rw [heq]
        exact hdb.applicationIds applicationId app happ
      nextDocument_le := by rw [heq]
      ledger := by rw [heq] }

/-- The whole application comes back. -/
theorem reverseApplication_ok {db db' : DepositDb} {applicationId : DocumentId} (hdb : Tables db)
    (happ : db.applications.get? applicationId = some app)
    (h : reverseDepositApplicationInTransaction db applicationId = .ok db') :
    db'.applications = db.applications.erase applicationId ∧ db'.nextDocument = db.nextDocument ∧
      ∃ row row', AmountMoved db db' app.depositId applicationId row row' (-app.amountApplied) := by
  unfold reverseDepositApplicationInTransaction at h
  simp only [bind_eq_ok, orThrow_eq_ok, pure_eq_ok, happ, Option.some.injEq] at h
  obtain ⟨_, rfl, mid, hmid, rfl⟩ := h
  obtain ⟨row, hrow⟩ := hdb.applicationDeposit applicationId app happ
  obtain ⟨row', status, -, -, rfl⟩ := restoreToDeposit_ok hrow hmid
  refine ⟨rfl, rfl, amountMoved_of_restore hdb happ hmid rfl ?_ ?_ (appliedTo_erase happ rfl)⟩
  · exact fun id hid => OrderedMap.get?_erase_of_ne hid _
  · intro app' happ'
    rw [OrderedMap.get?_erase_self] at happ'
    cases happ'

/-- A stored amount below a tenth of a cent is zero. -/
theorem eq_zero_of_abs_toRat_lt {x : Cents} (h : |x.toRat| < 1 / 1000) : x = 0 := by
  have hunits : |(x.units : ℚ)| < 1 := by
    have hpos : (0 : ℚ) < 10 ^ 2 := by norm_num
    rw [← x.toRat_mul_pow, abs_mul, abs_of_pos hpos]
    linarith
  ext
  have habs : |x.units| < 1 := by exact_mod_cast hunits
  exact Int.abs_lt_one_iff.mp habs

/-- A part of an application comes back. -/
theorem reduceApplication_ok {db db' : DepositDb} {applicationId : DocumentId} {reduceBy : Cents}
    (hdb : Tables db) (happ : db.applications.get? applicationId = some app)
    (h : reduceDepositApplicationInTransaction db applicationId reduceBy = .ok db') :
    (∀ id app', db'.applications.get? id = some app' →
        ∃ app₀, db.applications.get? id = some app₀) ∧
      db'.nextDocument = db.nextDocument ∧
      ∃ row row', AmountMoved db db' app.depositId applicationId row row' (-reduceBy) := by
  unfold reduceDepositApplicationInTransaction at h
  simp only [bind_eq_ok, orThrow_eq_ok, require_eq_ok, happ, Option.some.injEq] at h
  obtain ⟨_, rfl, -, -, mid, hmid, h⟩ := h
  obtain ⟨row, hrow⟩ := hdb.applicationDeposit applicationId app happ
  obtain ⟨row', status, -, -, rfl⟩ := restoreToDeposit_ok hrow hmid
  split at h
  · rename_i hzero
    simp only [pure_eq_ok] at h
    subst h
    have hall : app.amountApplied = reduceBy := sub_eq_zero.mp (eq_zero_of_abs_toRat_lt hzero)
    refine ⟨fun id app' happ' => ?_, rfl, ?_⟩
    · rcases eq_or_ne id applicationId with rfl | hne
      · exact ⟨app, happ⟩
      · exact ⟨app', (OrderedMap.get?_erase_of_ne hne _).symm.trans happ'⟩
    · refine amountMoved_of_restore hdb happ hmid rfl ?_ ?_ ?_
      · exact fun id hid => OrderedMap.get?_erase_of_ne hid _
      · intro app' happ'
        rw [OrderedMap.get?_erase_self] at happ'
        cases happ'
      · rw [← hall]
        exact appliedTo_erase happ rfl
  · split at h
    · rename_i hpositive
      simp only [pure_eq_ok] at h
      subst h
      refine ⟨fun id app' happ' => ?_, rfl, ?_⟩
      · rcases eq_or_ne id applicationId with rfl | hne
        · exact ⟨app, happ⟩
        · exact ⟨app', (OrderedMap.get?_set_of_ne hne _ _).symm.trans happ'⟩
      · refine amountMoved_of_restore hdb happ hmid rfl ?_ ?_ fun d => ?_
        · exact fun id hid => OrderedMap.get?_set_of_ne hid _ _
        · intro app' happ'
          rw [OrderedMap.get?_set_self] at happ'
          cases happ'
          rfl
        · have hbefore : db.applications.valueAt (·.amountFor d) applicationId =
              if d = app.depositId then app.amountApplied else 0 := by
            rw [OrderedMap.valueAt_of_get? happ]
            exact if_congr eq_comm rfl rfl
          refine Eq.trans (appliedTo_set rfl (by rfl) hbefore) ?_
          rw [sub_sub_cancel_left]
    · cases h

end SmartErpPos.Deposits
