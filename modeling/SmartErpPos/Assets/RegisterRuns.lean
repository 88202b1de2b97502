/-
  Assets/RegisterRuns.lean --- the register and the ledger over whole runs.

  Each operation posts journals that move what its rows move: an acquisition the cost, a month
  the amount it adds to the accumulated depreciation, a disposal both figures of the asset.
  A run over a month posts one journal for each asset; the journals before leave the
  documents of those behind them free.
-/
import SmartErpPos.Assets.Register
import SmartErpPos.Lib.Transition

set_option autoImplicit false

namespace SmartErpPos.Assets

open SmartErpPos.Lib SmartErpPos.Ledger

variable {db db' : AssetDb} {figure : RegisterFigure} {code : String} {id : AssetId}
  {asset : FixedAsset} {category : AssetCategory}

theorem ofLedger_eq_ok {α : Type} {x : Except LedgerError α} {a : α} :
    ofLedger x = .ok a ↔ x = .ok a := by
  cases x with
  | ok b =>
    constructor
    · rintro ⟨⟩
      rfl
    · rintro ⟨⟩
      rfl
  | error e =>
    constructor
    · intro h
      cases h
    · intro h
      cases h

/-! ## Lines of a journal -/

theorem linesOn_append (code : String) (xs ys : List JournalLine) :
    linesOn code (xs ++ ys) = linesOn code xs ++ linesOn code ys := by
  unfold linesOn
  rw [List.filter_append]

theorem linesOn_assetLine (code : String) (id : AssetId) (accountCode description : String)
    (debitAmount creditAmount : ℚ) (lines : List JournalLine) :
    linesOn code (assetLine id accountCode description debitAmount creditAmount :: lines) =
      if accountCode = code then
        assetLine id accountCode description debitAmount creditAmount :: linesOn code lines
      else linesOn code lines := by
  unfold linesOn
  rw [List.filter_cons]
  simp [assetLine]

theorem linesOn_eq_nil {lines : List JournalLine} (h : ∀ line ∈ lines, line.accountCode ≠ code) :
    linesOn code lines = [] := by
  unfold linesOn
  rw [List.filter_eq_nil_iff]
  intro line hline
  simpa using h line hline

/-- Stored with two decimals or with six: a cent apart at most. -/
theorem abs_cents_sub_le (q : ℚ) :
    |(Numeric.ofRat q : Amount).toRat - (Numeric.ofRat q : Cents).toRat| ≤ 1 / 100 := by
  have hwide := abs_le.mp (abs_roundTo_sub_le 6 q)
  have hcents := abs_le.mp (abs_roundTo_sub_le 2 q)
  unfold roundTo at hwide hcents
  rw [abs_le]
  constructor
  · linarith [hwide.1, hcents.2]
  · linarith [hwide.2, hcents.1]

/-! ## One row and its journal -/

theorem AssetDb.OffRegister.ne {other : String} (h : db.OffRegister other)
    (hused : db.IsUsed figure code) : other ≠ code := by
  rintro rfl
  exact h figure hused

theorem share_of_active (hstatus : asset.status = .ACTIVE)
    (hget : db.categories.get? asset.categoryId = some category) (figure : RegisterFigure)
    (code : String) :
    db.share figure code asset = if figure.account category = code then figure.amount asset else 0 := by
  unfold AssetDb.share
  rw [hget, Option.map_some]
  simp [hstatus]

theorem share_of_gone (hstatus : asset.status ≠ .ACTIVE) (figure : RegisterFigure) (code : String) :
    db.share figure code asset = 0 := by
  unfold AssetDb.share
  exact if_neg fun h => hstatus h.1

/-- The lines move on every account of the figure what writing the row moves in the register. -/
def MovesFigure (db : AssetDb) (figure : RegisterFigure) (id : AssetId) (row : FixedAsset)
    (lines : List JournalLine) : Prop :=
  ∀ code, db.IsUsed figure code →
    |(linesChange figure.normalBalance code lines).toRat -
        ((db.share figure code row).toRat -
          (db.assets.valueAt (db.share figure code) id).toRat)| ≤
      (linesOn code lines).length / 100

theorem FigureAgrees.posts {ctx : PostingContext} {request : JournalEntryRequest}
    {out : PostingOutcome} {header : TransactionRow} {written : List LedgerEntry} {mid : LedgerDb}
    {row : FixedAsset} (h : FigureAgrees db figure) (hwf : WellFormed db.ledger)
    (hposted : JournalPosted ctx db.ledger request out header written mid)
    (hledger : db'.ledger = out.db) (hassets : db'.assets = db.assets.set id row)
    (hcategories : db'.categories = db.categories)
    (hmoves : MovesFigure db figure id row request.lines) : FigureAgrees db' figure := by
  intro a code hcode hused
  rw [hledger, hposted.sameAccounts.codeOf] at hcode
  have hused' : db.IsUsed figure code := by
    unfold AssetDb.IsUsed at hused ⊢
    rwa [hcategories] at hused
  have hshare : db'.share figure code = db.share figure code := by
    funext asset
    unfold AssetDb.share
    rw [hcategories]
  have hbefore := h a code hcode hused'
  have hstep := hmoves code hused'
  obtain ⟨account, haccount, rfl⟩ := LedgerDb.codeOf_eq_some.mp hcode
  have hregistered : db'.registered figure account.accountCode =
      db.registered figure account.accountCode + (db.share figure account.accountCode row -
        db.assets.valueAt (db.share figure account.accountCode) id) := by
    unfold AssetDb.registered
    rw [hassets, hshare, OrderedMap.sumWhere_set, if_pos rfl]
  rw [hledger, hposted.netActiveBalance_eq hwf haccount, hposted.entryCount_eq hcode, hregistered]
  simp only [Numeric.toRat_add, Numeric.toRat_sub, Nat.cast_add]
  rw [abs_le] at hbefore hstep ⊢
  constructor
  · linarith [hbefore.1, hstep.1]
  · linarith [hbefore.2, hstep.2]

/-! ## The invariant -/

/-- What holds between the calls of a run, and between the assets of a month. -/
structure AssetInv (db : AssetDb) : Prop where
  wellFormed : WellFormed db.ledger
  below : ∀ id asset, db.assets.get? id = some asset → id < db.nextId
  scheduled : ∀ entry ∈ db.depreciationEntries, entry.assetId < db.nextId
  numbers : db.assets.UniqueBy (·.assetNumber)
  nonneg : ∀ id asset, db.assets.get? id = some asset → 0 ≤ asset.accumulatedDepreciation
  schedule : ∀ id asset, db.assets.get? id = some asset → asset.accumulatedDepreciation =
    ((db.scheduleOf id).map (·.depreciationAmount)).sum
  agrees : ∀ figure, FigureAgrees db figure

theorem AssetInv.registerAgrees (h : AssetInv db) : RegisterAgrees db where
  cost := h.agrees .cost
  accumulated := h.agrees .accumulated
  schedule := by
    intro id asset hget _
    have hsum : ((db.scheduleOf id).map (·.depreciationAmount.toRat)).sum =
        asset.accumulatedDepreciation.toRat := by
      rw [h.schedule id asset hget]
      have hhom := map_list_sum (Numeric.toRatHom : Cents →+ ℚ)
        ((db.scheduleOf id).map (·.depreciationAmount))
      rw [List.map_map] at hhom
      exact hhom.symm
    rw [hsum, sub_self, abs_zero]
    positivity

/-! ## Acquisition -/

theorem moves_acquisition (hget : db.categories.get? asset.categoryId = some category)
    (hstatus : asset.status = .ACTIVE) (hnew : db.assets.get? id = none) {cost : ℚ}
    (hcost : asset.acquisitionCost = .ofRat cost) (hzero : asset.accumulatedDepreciation = 0)
    (mode : AssetRegistrationMode) {credit : String} (name assetNumber : String)
    (hasset : ¬ db.IsUsed .accumulated category.assetAccountCode) (hcredit : db.OffRegister credit)
    (figure : RegisterFigure) : MovesFigure db figure id asset
      (acquisitionLines mode category.assetAccountCode credit cost id name assetNumber) := by
  intro code hused
  have hcreditNe := hcredit.ne hused
  rw [OrderedMap.valueAt_of_get?_none hnew, Numeric.toRat_zero, sub_zero,
    share_of_active hstatus hget]
  unfold acquisitionLines linesChange
  simp only [linesOn_assetLine, if_neg hcreditNe]
  cases figure with
  | cost =>
    by_cases hcode : category.assetAccountCode = code
    · simpa [RegisterFigure.account, RegisterFigure.amount, RegisterFigure.normalBalance,
        JournalLine.storedChange, assetLine, linesOn, hcost, hcode] using abs_cents_sub_le cost
    · simp [RegisterFigure.account, linesOn, hcode]
  | accumulated =>
    have hassetNe : category.assetAccountCode ≠ code := by
      rintro rfl
      exact hasset hused
    simp [RegisterFigure.amount, linesOn, hzero, hassetNe]

theorem AssetInv.acquires (h : AssetInv db) {env : AssetEnv} {data : AcquireData}
    (hmay : MayAcquire env db data) (hacquire : acquireAsset env db data = .ok db') :
    AssetInv db' := by
  unfold acquireAsset at hacquire
  simp only [bind_eq_ok, orThrow_eq_ok, require_eq_ok, pure_eq_ok, ofLedger_eq_ok] at hacquire
  obtain ⟨category, hget, -, hnumber, credit, hcredit, out, hposting, rfl⟩ := hacquire
  obtain ⟨hunposted, hasset, hoff⟩ := hmay category hget credit (by rw [hcredit]; rfl)
  obtain ⟨header, written, mid, hposted⟩ := hunposted.posts hposting
  have hnew : db.assets.get? db.nextId = none := by
    cases hold : db.assets.get? db.nextId with
    | none => rfl
    | some other => exact absurd (h.below _ _ hold) (lt_irrefl _)
  constructor
  case wellFormed => exact hposted.wellFormed h.wellFormed
  case below =>
    intro id asset hid
    rw [OrderedMap.get?_set] at hid
    split at hid
    · rename_i heq
      rw [heq]
      exact Nat.lt_succ_self _
    · exact (h.below id asset hid).trans (Nat.lt_succ_self _)
  case scheduled => exact fun entry hentry => (h.scheduled entry hentry).trans (Nat.lt_succ_self _)
  case numbers =>
    refine h.numbers.set fun e he _ => ?_
    exact hnumber e.2 (List.mem_map.mpr ⟨e, he, rfl⟩)
  case nonneg =>
    intro id asset hid
    rw [OrderedMap.get?_set] at hid
    split at hid
    · cases hid
      exact le_rfl
    · exact h.nonneg id asset hid
  case schedule =>
    intro id asset hid
    rw [OrderedMap.get?_set] at hid
    split at hid
    · rename_i heq
      cases hid
      -- the id is new, so the schedule has no entry of it
      have hnone : db.scheduleOf id = [] := by
        refine List.filter_eq_nil_iff.mpr fun entry hentry hsame => ?_
        have hlt := h.scheduled entry hentry
        rw [of_decide_eq_true hsame, heq] at hlt
        exact lt_irrefl _ hlt
      change (0 : Cents) = ((db.scheduleOf id).map _).sum
      rw [hnone]
      rfl
    · exact h.schedule id asset hid
  case agrees =>
    intro figure
    refine (h.agrees figure).posts h.wellFormed hposted rfl rfl rfl ?_
    exact moves_acquisition hget rfl hnew rfl rfl _ _ _ hasset hoff figure

/-! ## A month -/

/-- The row after a month. -/
def depreciated (asset : FixedAsset) (amount : ℚ) : FixedAsset :=
  { asset with
    accumulatedDepreciation := .ofRat (asset.accumulatedDepreciation.toRat + amount)
    netBookValue :=
      .ofRat (asset.acquisitionCost.toRat - (asset.accumulatedDepreciation.toRat + amount)) }

/-- The stored amount adds up with what is stored. -/
theorem depreciated_accumulated {amount : ℚ} (hnonneg : 0 ≤ asset.accumulatedDepreciation)
    (hamount : 0 ≤ amount) : (depreciated asset amount).accumulatedDepreciation =
      asset.accumulatedDepreciation + .ofRat amount :=
  Numeric.ofRat_toRat_add hamount (add_nonneg (Numeric.toRat_nonneg_iff.mpr hnonneg) hamount)

theorem moves_depreciation (hasset : db.assets.get? id = some asset)
    (hget : db.categories.get? asset.categoryId = some category) (hstatus : asset.status = .ACTIVE)
    (hnonneg : 0 ≤ asset.accumulatedDepreciation) {amount : ℚ} (hamount : 0 ≤ amount)
    (haccum : ¬ db.IsUsed .cost category.accumAccount)
    (hexpense : db.OffRegister category.depreciationAccount) (date : IsoDate) (userId : UserId)
    (figure : RegisterFigure) : MovesFigure db figure id (depreciated asset amount)
      (depreciationRequest date userId id asset category amount).lines := by
  intro code hused
  have hexpenseNe := hexpense.ne hused
  have hactive : (depreciated asset amount).status = .ACTIVE := hstatus
  have hcategory : db.categories.get? (depreciated asset amount).categoryId = some category := hget
  have hshare := share_of_active hactive hcategory figure code
  rw [OrderedMap.valueAt_of_get? hasset, hshare, share_of_active hstatus hget]
  unfold depreciationRequest linesChange
  simp only [linesOn_assetLine, if_neg hexpenseNe]
  cases figure with
  | cost =>
    have haccumNe : category.accumAccount ≠ code := by
      rintro rfl
      exact haccum hused
    simp [RegisterFigure.amount, depreciated, linesOn, haccumNe]
  | accumulated =>
    by_cases hcode : category.accumAccount = code
    · simpa [RegisterFigure.account, RegisterFigure.amount, RegisterFigure.normalBalance,
        JournalLine.storedChange, assetLine, linesOn, hcode,
        depreciated_accumulated hnonneg hamount] using abs_cents_sub_le amount
    · simp [RegisterFigure.account, linesOn, hcode]

/-- An asset of a month that is still to be looked at: as selected, and free to post. -/
structure Pending (db : AssetDb) (date : IsoDate) (userId : UserId)
    (row : AssetId × FixedAsset × AssetCategory) : Prop where
  asset : db.assets.get? row.1 = some row.2.1
  active : row.2.1.status = .ACTIVE
  category : db.categories.get? row.2.1.categoryId = some row.2.2
  may : MayDepreciate db date userId row

theorem depreciationKey_injective {id id' : AssetId} {year month : ℕ}
    (h : depreciationKey id year month = depreciationKey id' year month) : id = id' := by
  unfold depreciationKey at h
  have hfront := append_right_cancel (append_right_cancel (append_right_cancel
    (append_right_cancel h)))
  exact natText_injective (append_left_cancel hfront)

theorem depreciationNumber_injective {n n' : String} {year month : ℕ}
    (h : depreciationNumber n year month = depreciationNumber n' year month) : n = n' := by
  unfold depreciationNumber at h
  exact append_left_cancel (append_right_cancel (append_right_cancel h))

section Month

variable {env : AssetEnv} {pool : LedgerDb} {date : IsoDate} {userId : UserId}
  {row other : AssetId × FixedAsset × AssetCategory}

/-- One asset of a month: nothing, or one journal with its entry and its row. -/
theorem depreciateAsset_cases (hrow : Pending db date userId row)
    (h : depreciateAsset env pool date userId db row = .ok db') :
    db' = db ∨ ∃ amount out header written mid,
      0 < amount ∧ ¬ db.IsUsed .cost row.2.2.accumAccount ∧ db.OffRegister row.2.2.depreciationAccount ∧
      JournalPosted (env.client pool) db.ledger
        (depreciationRequest date userId row.1 row.2.1 row.2.2 amount) out header written mid ∧
      db' = recordDepreciation { db with ledger := out.db } date row.1 row.2.1 amount
        out.result.transactionId := by
  unfold depreciateAsset at h
  dsimp only at h
  split at h
  · cases h
    exact .inl rfl
  · rename_i hamount
    split at h
    · cases h
      exact .inl rfl
    · rename_i hprocessed
      simp only [bind_eq_ok, pure_eq_ok, ofLedger_eq_ok] at h
      obtain ⟨out, hposting, rfl⟩ := h
      obtain ⟨hunposted, haccum, hexpense⟩ :=
        hrow.may (not_le.mp hamount) (Bool.eq_false_iff.mpr hprocessed)
      obtain ⟨header, written, mid, hposted⟩ := hunposted.posts hposting
      exact .inr ⟨_, out, header, written, mid, not_le.mp hamount, haccum, hexpense, hposted, rfl⟩

/-- The schedule of an asset grows by the entry, that of the others stays. -/
theorem scheduleOf_recordDepreciation (db : AssetDb) (date : IsoDate) (id : AssetId)
    (asset : FixedAsset) (amount : ℚ) (t : TransactionId) (n : AssetId) :
    ((recordDepreciation db date id asset amount t).scheduleOf n).map (·.depreciationAmount) =
      (db.scheduleOf n).map (·.depreciationAmount) ++ if n = id then [.ofRat amount] else [] := by
  unfold AssetDb.scheduleOf recordDepreciation
  dsimp only
  rw [List.filter_append, List.map_append]
  congr 1
  by_cases hn : n = id
  · simp [hn]
  · simp [hn, Ne.symm hn]

theorem AssetInv.records (h : AssetInv db) (hrow : Pending db date userId row) {amount : ℚ}
    {out : PostingOutcome} {header : TransactionRow} {written : List LedgerEntry} {mid : LedgerDb}
    (hamount : 0 < amount) (haccum : ¬ db.IsUsed .cost row.2.2.accumAccount)
    (hexpense : db.OffRegister row.2.2.depreciationAccount)
    (hposted : JournalPosted (env.client pool) db.ledger
      (depreciationRequest date userId row.1 row.2.1 row.2.2 amount) out header written mid)
    (t : TransactionId) :
    AssetInv (recordDepreciation { db with ledger := out.db } date row.1 row.2.1 amount t) := by
  have hnonneg := h.nonneg _ _ hrow.asset
  have hassets : (recordDepreciation { db with ledger := out.db } date row.1 row.2.1 amount t).assets =
      db.assets.set row.1 (depreciated row.2.1 amount) :=
    OrderedMap.modify_eq_set hrow.asset _
  have hcases : ∀ id asset,
      (db.assets.set row.1 (depreciated row.2.1 amount)).get? id = some asset →
        (id = row.1 ∧ asset = depreciated row.2.1 amount) ∨
          (id ≠ row.1 ∧ db.assets.get? id = some asset) := by
    intro id asset hid
    rw [OrderedMap.get?_set] at hid
    split at hid
    · rename_i heq
      cases hid
      exact .inl ⟨heq, rfl⟩
    · rename_i hne
      exact .inr ⟨hne, hid⟩
  constructor
  case wellFormed => exact hposted.wellFormed h.wellFormed
  case below =>
    intro id asset hid
    rw [hassets] at hid
    rcases hcases id asset hid with ⟨rfl, -⟩ | ⟨-, hold⟩
    · exact h.below _ _ hrow.asset
    · exact h.below _ _ hold
  case scheduled =>
    intro entry hentry
    rcases List.mem_append.mp hentry with hold | hnew
    · exact h.scheduled entry hold
    · rw [List.mem_singleton.mp hnew]
      exact h.below _ _ hrow.asset
  case numbers =>
    rw [hassets]
    refine h.numbers.set fun e he hne => ?_
    exact h.numbers.free hrow.asset e he hne
  case nonneg =>
    intro id asset hid
    rw [hassets] at hid
    rcases hcases id asset hid with ⟨-, rfl⟩ | ⟨-, hold⟩
    · exact Numeric.ofRat_nonneg (add_nonneg (Numeric.toRat_nonneg_iff.mpr hnonneg) hamount.le)
    · exact h.nonneg _ _ hold
  case schedule =>
    intro id asset hid
    rw [hassets] at hid
    rw [scheduleOf_recordDepreciation]
    rcases hcases id asset hid with ⟨rfl, rfl⟩ | ⟨hne, hold⟩
    · rw [if_pos rfl, List.sum_append, List.sum_singleton,
        depreciated_accumulated hnonneg hamount.le, h.schedule _ _ hrow.asset]
      rfl
    · rw [if_neg hne, List.append_nil]
      exact h.schedule _ _ hold
  case agrees =>
    intro figure
    refine (h.agrees figure).posts h.wellFormed hposted rfl hassets rfl ?_
    exact moves_depreciation hrow.asset hrow.category hrow.active hnonneg hamount.le haccum hexpense
      date userId figure

/-- A journal of one asset leaves the others of the month as they were. -/
theorem Pending.of_record (hrow : Pending db date userId row) (h : AssetInv db)
    (hother : Pending db date userId other) (hne : other.1 ≠ row.1) {amount : ℚ}
    {out : PostingOutcome} {header : TransactionRow} {written : List LedgerEntry} {mid : LedgerDb}
    (hposted : JournalPosted (env.client pool) db.ledger
      (depreciationRequest date userId row.1 row.2.1 row.2.2 amount) out header written mid)
    (t : TransactionId) :
    Pending (recordDepreciation { db with ledger := out.db } date row.1 row.2.1 amount t) date userId
      other where
  asset := (OrderedMap.get?_modify_of_ne hne _ _).trans hother.asset
  active := hother.active
  category := hother.category
  may := by
    intro hamount hprocessed
    have hbefore : isProcessed db other.1 date = false := by
      unfold isProcessed recordDepreciation at hprocessed
      dsimp only at hprocessed
      rw [List.any_append, Bool.or_eq_false_iff] at hprocessed
      exact hprocessed.1
    obtain ⟨hunposted, haccounts⟩ := hother.may hamount hbefore
    refine ⟨hunposted.of_posted h.wellFormed hposted ?_ ?_ ?_, haccounts⟩
    · exact fun heq => hne (depreciationKey_injective heq).symm
    · exact fun heq => hne (Option.some.inj heq).symm
    · intro heq
      exact hne (h.numbers _ _ _ _ hother.asset hrow.asset (depreciationNumber_injective heq.symm))

theorem AssetInv.depreciates {rows : List (AssetId × FixedAsset × AssetCategory)} (h : AssetInv db)
    (hnodup : (rows.map Prod.fst).Nodup) (hrows : ∀ row ∈ rows, Pending db date userId row)
    (hrun : rows.foldlM (depreciateAsset env pool date userId) db = .ok db') : AssetInv db' := by
  induction rows generalizing db with
  | nil =>
    cases hrun
    exact h
  | cons row rows ih =>
    rw [List.foldlM_cons, bind_eq_ok] at hrun
    obtain ⟨next, hfirst, hrest⟩ := hrun
    obtain ⟨hrow, hlater⟩ := List.forall_mem_cons.mp hrows
    rw [List.map_cons, List.nodup_cons] at hnodup
    rcases depreciateAsset_cases hrow hfirst with
      rfl | ⟨amount, out, header, written, mid, hamount, haccum, hexpense, hposted, rfl⟩
    · exact ih h hnodup.2 hlater hrest
    · refine ih (h.records hrow hamount haccum hexpense hposted _) hnodup.2 (fun other hother => ?_)
        hrest
      refine hrow.of_record h (hlater other hother) ?_ hposted _
      intro heq
      exact hnodup.1 (heq ▸ List.mem_map_of_mem hother)

end Month

theorem mem_depreciableAssets {date : IsoDate} {row : AssetId × FixedAsset × AssetCategory}
    (h : row ∈ depreciableAssets db date) :
    db.assets.get? row.1 = some row.2.1 ∧ row.2.1.status = .ACTIVE ∧
      db.categories.get? row.2.1.categoryId = some row.2.2 := by
  obtain ⟨e, he, hrow⟩ := List.mem_filterMap.mp h
  split at hrow
  · rename_i hselected
    obtain ⟨category, hcategory, rfl⟩ := Option.map_eq_some_iff.mp hrow
    exact ⟨OrderedMap.get?_eq_some_iff.mpr he, hselected.1, hcategory⟩
  · cases hrow

theorem nodup_depreciableAssets (db : AssetDb) (date : IsoDate) :
    ((depreciableAssets db date).map Prod.fst).Nodup := by
  have hsub : ((depreciableAssets db date).map Prod.fst).Sublist (db.assets.entries.map Prod.fst) := by
    unfold depreciableAssets
    induction db.assets.entries with
    | nil => exact .slnil
    | cons e rest ih =>
      rw [List.filterMap_cons]
      split
      · exact ih.cons _
      · rename_i row hrow
        have hid : row.1 = e.1 := by
          split at hrow
          · obtain ⟨category, -, rfl⟩ := Option.map_eq_some_iff.mp hrow
            rfl
          · cases hrow
        rw [List.map_cons, List.map_cons, hid]
        exact ih.cons_cons _
  exact hsub.nodup db.assets.nodup

theorem AssetInv.runsMonth (h : AssetInv db) {env : AssetEnv} {year month : ℕ} {userId : UserId}
    (hmay : KeepsStep db (.runMonthlyDepreciation env year month userId))
    (hrun : runMonthlyDepreciation env db year month userId = .ok db') : AssetInv db' := by
  unfold runMonthlyDepreciation at hrun
  split at hrun
  · rename_i hvalid
    refine h.depreciates (nodup_depreciableAssets db _) (fun row hrow => ?_) hrun
    obtain ⟨hasset, hactive, hcategory⟩ := mem_depreciableAssets hrow
    exact ⟨hasset, hactive, hcategory, hmay hvalid row hrow⟩
  · cases hrun

/-! ## Disposal -/

/-- The row after a disposal. -/
def disposed (asset : FixedAsset) : FixedAsset :=
  { asset with
    status := .DISPOSED
    netBookValue := 0 }

theorem moves_disposal (hasset : db.assets.get? id = some asset)
    (hget : db.categories.get? asset.categoryId = some category) (hstatus : asset.status = .ACTIVE)
    (hnonneg : 0 ≤ asset.accumulatedDepreciation) {disposalAmount : ℚ}
    (hcost : ¬ db.IsUsed .accumulated category.assetAccountCode)
    (hremoved : ∀ line ∈ removedDepreciation id asset category,
      line.accountCode = category.accumAccount ∧ ¬ db.IsUsed .cost category.accumAccount)
    (hside : ∀ line ∈ (disposalSideLines id asset disposalAmount).1 ++
      (disposalSideLines id asset disposalAmount).2, db.OffRegister line.accountCode)
    (date : IsoDate) (userId : UserId) (figure : RegisterFigure) :
    MovesFigure db figure id (disposed asset)
      (disposalRequest date userId id asset category disposalAmount).lines := by
  intro code hused
  have hgone : db.share figure code (disposed asset) = 0 :=
    share_of_gone (show AssetStatus.DISPOSED ≠ .ACTIVE by decide) figure code
  have hfirst : linesOn code (disposalSideLines id asset disposalAmount).1 = [] :=
    linesOn_eq_nil fun line hline => (hside line (List.mem_append_left _ hline)).ne hused
  have hlast : linesOn code (disposalSideLines id asset disposalAmount).2 = [] :=
    linesOn_eq_nil fun line hline => (hside line (List.mem_append_right _ hline)).ne hused
  rw [OrderedMap.valueAt_of_get? hasset, hgone, share_of_active hstatus hget]
  -- stored with two decimals, so six hold it
  have hstored : ∀ x : Cents, (Numeric.ofRat x.toRat : Amount).toRat = x.toRat :=
    toRat_ofRat_of_le (by decide)
  unfold disposalRequest linesChange
  simp only [linesOn_append, hfirst, hlast, linesOn_assetLine, List.nil_append, List.append_nil]
  cases figure with
  | cost =>
    have hnone : linesOn code (removedDepreciation id asset category) = [] := by
      refine linesOn_eq_nil fun line hline heq => ?_
      obtain ⟨haccount, hunused⟩ := hremoved line hline
      rw [← haccount, heq] at hunused
      exact hunused hused
    rw [hnone, List.nil_append]
    by_cases hcode : category.assetAccountCode = code
    · simp [RegisterFigure.account, RegisterFigure.amount, RegisterFigure.normalBalance,
        JournalLine.storedChange, assetLine, linesOn, hcode, hstored]
    · simp [RegisterFigure.account, linesOn, hcode]
  | accumulated =>
    have hcostNe : category.assetAccountCode ≠ code := by
      rintro rfl
      exact hcost hused
    rw [if_neg hcostNe]
    unfold removedDepreciation at hremoved ⊢
    split
    · rename_i hpositive
      rw [if_pos hpositive] at hremoved
      obtain ⟨haccount, -⟩ := hremoved _ (List.mem_singleton.mpr rfl)
      change category.accumDepreciationAccountCode = category.accumAccount at haccount
      rw [linesOn_assetLine, haccount]
      by_cases hcode : category.accumAccount = code
      · simp [RegisterFigure.account, RegisterFigure.amount, RegisterFigure.normalBalance,
          JournalLine.storedChange, assetLine, linesOn, hcode, hstored]
      · simp [RegisterFigure.account, linesOn, hcode]
    · rename_i hpositive
      have hzero : asset.accumulatedDepreciation = 0 :=
        le_antisymm (not_lt.mp hpositive) hnonneg
      simp [RegisterFigure.amount, linesOn, hzero]

theorem AssetInv.disposes (h : AssetInv db) {env : AssetEnv} {disposalDate : IsoDate}
    {disposalAmount : ℚ} {userId : UserId}
    (hmay : MayDispose db id disposalDate disposalAmount userId)
    (hdispose : disposeAsset env db id disposalDate disposalAmount userId = .ok db') :
    AssetInv db' := by
  unfold disposeAsset at hdispose
  simp only [bind_eq_ok, orThrow_eq_ok, require_eq_ok, pure_eq_ok, ofLedger_eq_ok] at hdispose
  obtain ⟨asset, hasset, -, hstatus, category, hget, out, hposting, rfl⟩ := hdispose
  obtain ⟨hunposted, hcost, hremoved, hside⟩ := hmay asset hasset category hget
  obtain ⟨header, written, mid, hposted⟩ := hunposted.posts hposting
  have hnonneg := h.nonneg id asset hasset
  have hassets : (db.assets.modify id fun row =>
      { row with
        status := .DISPOSED
        netBookValue := 0 }) = db.assets.set id (disposed asset) :=
    OrderedMap.modify_eq_set hasset _
  have hcases : ∀ n other, (db.assets.set id (disposed asset)).get? n = some other →
      ∃ before, db.assets.get? n = some before ∧
        other.accumulatedDepreciation = before.accumulatedDepreciation := by
    intro n other hn
    rw [OrderedMap.get?_set] at hn
    split at hn
    · rename_i heq
      cases hn
      exact ⟨asset, heq ▸ hasset, rfl⟩
    · exact ⟨other, hn, rfl⟩
  rw [hassets]
  constructor
  case wellFormed => exact hposted.wellFormed h.wellFormed
  case below =>
    intro n other hn
    obtain ⟨before, hbefore, -⟩ := hcases n other hn
    exact h.below n before hbefore
  case scheduled => exact h.scheduled
  case numbers =>
    refine h.numbers.set fun e he hne => ?_
    exact h.numbers.free hasset e he hne
  case nonneg =>
    intro n other hn
    obtain ⟨before, hbefore, heq⟩ := hcases n other hn
    rw [heq]
    exact h.nonneg n before hbefore
  case schedule =>
    intro n other hn
    obtain ⟨before, hbefore, heq⟩ := hcases n other hn
    rw [heq]
    exact h.schedule n before hbefore
  case agrees =>
    intro figure
    refine (h.agrees figure).posts h.wellFormed hposted rfl rfl rfl ?_
    exact moves_disposal hasset hget hstatus hnonneg hcost hremoved hside disposalDate userId figure

/-! ## Runs -/

theorem AssetInv.exec (h : AssetInv db) {action : AssetAction} (hstep : db.exec action = some db')
    (hkeeps : KeepsStep db action) : AssetInv db' := by
  cases action with
  | acquireAsset env data => exact h.acquires hkeeps (toOption_eq_some hstep)
  | runMonthlyDepreciation env year month userId =>
    exact h.runsMonth hkeeps (toOption_eq_some hstep)
  | disposeAsset env id disposalDate disposalAmount userId =>
    exact h.disposes hkeeps (toOption_eq_some hstep)

/-- No assets, no schedules, and nothing on the accounts of the register. -/
structure AssetDb.Fresh (db : AssetDb) : Prop where
  wellFormed : WellFormed db.ledger
  assets : db.assets = .empty
  depreciationEntries : db.depreciationEntries = []
  zero : ∀ figure a code, db.ledger.codeOf a = some code → db.IsUsed figure code →
    netActiveBalance db.ledger a figure.normalBalance = 0

theorem AssetDb.Fresh.inv (h : db.Fresh) : AssetInv db := by
  have hnone : ∀ id asset, db.assets.get? id ≠ some asset := by
    intro id asset hget
    rw [h.assets] at hget
    cases hget
  constructor
  case wellFormed => exact h.wellFormed
  case below => exact fun id asset hget => absurd hget (hnone id asset)
  case scheduled =>
    intro entry hentry
    rw [h.depreciationEntries] at hentry
    cases hentry
  case numbers => exact fun id _ asset _ hget => absurd hget (hnone id asset)
  case nonneg => exact fun id asset hget => absurd hget (hnone id asset)
  case schedule => exact fun id asset hget => absurd hget (hnone id asset)
  case agrees =>
    intro figure a code hcode hused
    have hregistered : db.registered figure code = 0 := by
      unfold AssetDb.registered
      rw [h.assets]
      rfl
    rw [h.zero figure a code hcode hused, hregistered, Numeric.toRat_zero, Numeric.toRat_zero,
      sub_zero, abs_zero]
    positivity

/-- Along every run whose steps find no earlier journal and keep the register's accounts to
itself, the register equals the ledger in every state. -/
theorem registerAgrees_of_run {ts : List (AssetDb × AssetAction × AssetDb)} {start db : AssetDb}
    (hstart : start.Fresh) (hrun : Run (fun s a s' => AssetDb.exec s a = some s') start ts db)
    (hkeeps : ∀ t ∈ ts, KeepsStep t.1 t.2.1) :
    RegisterAgrees start ∧ ∀ t ∈ ts, RegisterAgrees t.2.2 := by
  obtain ⟨-, hall⟩ := hrun.holds (P := AssetInv) (K := KeepsStep)
    (fun _ _ _ hs hstep hkeep => hs.exec hstep hkeep) hkeeps hstart.inv
  exact ⟨hstart.inv.registerAgrees, fun t ht => (hall t ht).2.registerAgrees⟩

/-! ## A workshop -/

def workshopAccount (accountCode accountName : String) (normalBalance : NormalBalance) : AccountRow :=
  ⟨accountCode, accountName, normalBalance, true, true, [], none, 0⟩

/-- Cash, equipment and what depreciates it, and no transactions. -/
def workshopBooks : LedgerDb where
  accounts := ((((OrderedMap.empty.set 1 (workshopAccount CASH "Cash Drawer" .DEBIT)).set 2
    (workshopAccount "1500" "Equipment" .DEBIT)).set 3
    (workshopAccount ACCUMULATED_DEPRECIATION "Accumulated Depreciation" .CREDIT)).set 4
    (workshopAccount DEPRECIATION "Depreciation" .DEBIT)).set 5
    (workshopAccount OPENING_BALANCE_EQUITY "Opening Balance Equity" .CREDIT)
  transactions := .empty
  entries := []
  periods := .empty
  periodBalances := .empty
  events := .empty
  nextId := 100
  codes_nodup := by decide

/-- A category of equipment, and no assets. -/
def workshop : AssetDb where
  ledger := workshopBooks
  categories := .set .empty 7 ⟨60, .STRAIGHT_LINE, "1500", DEPRECIATION, ACCUMULATED_DEPRECIATION⟩
  assets := .empty
  depreciationEntries := []
  nextId := 10

theorem workshop_fresh : workshop.Fresh where
  wellFormed := EmptyLedger.wellFormed
    { transactions := rfl
      entries := rfl
      balances := by
        intro a row hrow
        have hall : ∀ e ∈ workshopBooks.accounts.entries, e.2.currentBalance = 0 := by decide
        exact hall (a, row) (OrderedMap.get?_eq_some_iff.mp hrow)
      periodBalances := rfl
      events := rfl }
  assets := rfl
  depreciationEntries := rfl
  zero := fun _ _ _ _ _ => rfl

def AssetDb.after (db : AssetDb) (action : AssetAction) : AssetDb := (db.exec action).getD db

def newYear : AssetEnv := ⟨2026, .enforce, 0⟩

/-- A machine of a given cost and life, depreciated from January. -/
def machine (acquisitionCost : ℚ) (usefulLifeMonths : ℤ) (mode : AssetRegistrationMode)
    (paymentMethod : Option AcquisitionPayment) : AssetAction :=
  .acquireAsset newYear
    { name := "Press"
      categoryId := 7
      acquisitionDate := january
      acquisitionCost := acquisitionCost
      salvageValue := none
      usefulLifeMonths := some usefulLifeMonths
      depreciationMethod := none
      depreciationStartDate := none
      paymentMethod := paymentMethod
      mode := mode
      userId := 8 }

/-- One machine is bought and one taken over, both are depreciated for January, and the second
is sold for its book value. -/
def oneMonth : List AssetAction :=
  [machine 1200 12 .PURCHASE (some .CASH), machine 1000 3 .OPENING none,
    .runMonthlyDepreciation newYear 2026 1 8, .disposeAsset newYear 11 january (66667 / 100) 8]

/-- A machine of 1200.00 over 12 months, depreciated for January and February. -/
def twoMonths : List AssetAction :=
  [machine 1200 12 .PURCHASE (some .CASH), .runMonthlyDepreciation newYear 2026 1 8,
    .runMonthlyDepreciation newYear 2026 2 8]

theorem oneMonth_agrees : RegisterAgrees workshop ∧
    ∀ t ∈ transitions AssetDb.after workshop oneMonth, RegisterAgrees t.2.2 :=
  registerAgrees_of_run workshop_fresh (.of_exec (by decide +kernel)) (by decide +kernel)

/-- After the second month the register says 200.00 and the ledger 100.00. -/
theorem twoMonths_disagree :
    workshop.Fresh ∧
      Run (fun s a s' => AssetDb.exec s a = some s') workshop
        (transitions AssetDb.after workshop twoMonths) (twoMonths.foldl .after workshop) ∧
      ¬ RegisterAgrees (twoMonths.foldl .after workshop) := by
  refine ⟨workshop_fresh, .of_exec (by decide +kernel), fun h => ?_⟩
  have hcode : (twoMonths.foldl AssetDb.after workshop).ledger.codeOf 3 =
      some ACCUMULATED_DEPRECIATION := by decide +kernel
  have hagrees := h.accumulated 3 ACCUMULATED_DEPRECIATION hcode (by decide +kernel)
  exact absurd hagrees (by decide +kernel)

end SmartErpPos.Assets
