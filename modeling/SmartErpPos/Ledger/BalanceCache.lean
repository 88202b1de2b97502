/-
  Ledger/BalanceCache.lean --- the cached balances of the accounts.

  `CurrentBalance` follows every line of every posting and reversal, and after each
  call the accounts of its lines are checked: a cache that is off by more than 0.01
  is replaced.  What it is compared with is the sum over everything posted.  That
  still contains a reversal after its original is gone, while the reports leave out
  both, so the check takes the balance of a reversed document out twice.

  The caches agree with the reports along a run exactly when no call of it gets
  there (`KeepsCache`).
-/
import SmartErpPos.Ledger.Balances

set_option autoImplicit false

namespace SmartErpPos.Ledger

open SmartErpPos.Lib

/-- Every cache is the net-active balance. -/
def CacheMatches (db : LedgerDb) : Prop :=
  ∀ a row, db.accounts.get? a = some row →
    row.currentBalance = netActiveBalance db a row.normalBalance

/-- What the posted balance contains and the net-active one does not. -/
def reversalDrift (db : LedgerDb) (a : AccountId) (normal : NormalBalance) : Amount :=
  postedBalance db a normal - netActiveBalance db a normal

/-- The conditions on a call.  A posting: adding the lines of an account to its balance
one after the other, rounded to six decimals each time, gives the balance plus the rounded
amounts; or it misses by more than 0.01 where the check then finds the right balance.  A
reversal of a net-active transaction: it leaves the drift of every account within 0.01.  A
reversal of another one: that one adds nothing to any account. -/
def KeepsCache (db : LedgerDb) (call : LedgerCall) : Prop :=
  call.Writes db → match call with
    | .create _ request => ∀ a row, db.accounts.get? a = some row →
        let lines := linesOn row.accountCode request.lines
        let reached := applyLines row.normalBalance lines row.currentBalance
        let exact := row.currentBalance +
          linesChange row.normalBalance row.accountCode request.lines
        reached = exact ∨ (row.accountCode ∈ checkedCodes request.lines ∧
          reversalDrift db a row.normalBalance = 0 ∧ 1 / 100 < |reached.toRat - exact.toRat|)
    | .reverse _ request => ∀ a row, db.accounts.get? a = some row →
        let amount := amountOf db request.originalTransactionId a row.normalBalance
        if isActiveId db request.originalTransactionId = true then
          row.accountCode ≠ "" →
            |(reversalDrift db a row.normalBalance).toRat - amount.toRat| ≤ 1 / 100
        else amount = 0

/-- The same, whatever the drift is: each change is exact and the check is quiet, or the check
finds the right balance. -/
def KeepsBalances (db : LedgerDb) (call : LedgerCall) : Prop :=
  call.Writes db → match call with
    | .create _ request => ∀ a row, db.accounts.get? a = some row →
        let lines := linesOn row.accountCode request.lines
        let reached := applyLines row.normalBalance lines row.currentBalance
        let exact := row.currentBalance +
          linesChange row.normalBalance row.accountCode request.lines
        let checked := row.accountCode ∈ checkedCodes request.lines
        let drift := reversalDrift db a row.normalBalance
        (reached = exact ∧ (checked → |drift.toRat| ≤ 1 / 100)) ∨
          (checked ∧ drift = 0 ∧ 1 / 100 < |reached.toRat - exact.toRat|)
    | .reverse _ request => ∀ a row, db.accounts.get? a = some row →
        let amount := amountOf db request.originalTransactionId a row.normalBalance
        let checked :=
          row.accountCode ∈ checkedCodes (reversedLines db request.originalTransactionId)
        let drift := reversalDrift db a row.normalBalance
        if isActiveId db request.originalTransactionId = true then
          checked → |drift.toRat - amount.toRat| ≤ 1 / 100
        else (amount = 0 ∧ (checked → |drift.toRat| ≤ 1 / 100)) ∨
          (checked ∧ drift = amount + amount ∧ 1 / 100 < |amount.toRat|)

/-! ## Rounding -/

/-- The amounts of the line have at most six decimals. -/
def JournalLine.SixDecimals (line : JournalLine) : Prop :=
  ∃ debit credit : Amount, line.debitAmount = debit.toRat ∧ line.creditAmount = credit.toRat

theorem addToAmount_sixDecimals {line : JournalLine} (h : line.SixDecimals)
    (normal : NormalBalance) (balance : Amount) :
    addToAmount balance (line.balanceChange normal) = balance + line.storedChange normal := by
  obtain ⟨x, y, hx, hy⟩ := h
  unfold addToAmount
  cases normal with
  | DEBIT =>
    have hsum : balance.toRat + line.balanceChange .DEBIT = (balance + (x - y)).toRat := by
      simp [JournalLine.balanceChange, hx, hy]
    rw [hsum, Numeric.ofRat_toRat]
    simp [JournalLine.storedChange, hx, hy]
  | CREDIT =>
    have hsum : balance.toRat + line.balanceChange .CREDIT = (balance + (y - x)).toRat := by
      simp [JournalLine.balanceChange, hx, hy]
    rw [hsum, Numeric.ofRat_toRat]
    simp [JournalLine.storedChange, hx, hy]

/-- Amounts with six decimals are added exactly. -/
theorem applyLines_sixDecimals {normal : NormalBalance} {code : String} {lines : List JournalLine}
    (h : ∀ line ∈ lines, line.SixDecimals) (balance : Amount) :
    applyLines normal (linesOn code lines) balance = balance + linesChange normal code lines := by
  unfold linesChange
  have hon : ∀ line ∈ linesOn code lines, line.SixDecimals := fun line hl =>
    h line (List.mem_filter.mp hl).1
  generalize linesOn code lines = on at hon
  induction on generalizing balance with
  | nil => simp [applyLines]
  | cons line rest ih =>
    have hrest := ih (addToAmount balance (line.balanceChange normal))
      fun x hx => hon x (List.mem_cons_of_mem line hx)
    have hline := addToAmount_sixDecimals (hon line List.mem_cons_self) normal balance
    unfold applyLines at hrest ⊢
    rw [List.foldl_cons, hrest, hline, List.map_cons, List.sum_cons, add_assoc]

theorem reversedLines_sixDecimals (db : LedgerDb) (id : TransactionId) :
    ∀ line ∈ reversedLines db id, line.SixDecimals := by
  intro line hline
  obtain ⟨e, -, hmap⟩ := List.mem_filterMap.mp hline
  obtain ⟨row, -, rfl⟩ := Option.map_eq_some_iff.mp hmap
  exact ⟨e.creditAmount, e.debitAmount, rfl, rfl⟩

/-- Postings in six decimals keep the caches. -/
theorem keepsCache_of_sixDecimals {db : LedgerDb} {ctx : PostingContext}
    {request : JournalEntryRequest} (h : ∀ line ∈ request.lines, line.SixDecimals) :
    KeepsCache db (.create ctx request) :=
  fun _ _ _ _ => .inl (applyLines_sixDecimals h _)

/-! ## The check after a call -/

/-- The balance the check leaves. -/
def snapped (checked : Prop) [Decidable checked] (balance posted : Amount) : Amount :=
  if checked ∧ 1 / 100 < |balance.toRat - posted.toRat| then posted else balance

theorem rebased_eq (db : LedgerDb) (codes : List String) (a : AccountId) (row : AccountRow) :
    row.rebased db codes a = { row with
      currentBalance := snapped (row.accountCode ∈ codes) row.currentBalance
        (postedBalance db a row.normalBalance) } := by
  unfold AccountRow.rebased snapped
  dsimp only
  split
  · rfl
  · rfl

section Snapped

variable {checked : Prop} [Decidable checked] {net posted amount balance : Amount}

/-- After a posting of `amount`: it is added exactly and the check is quiet, or the check finds
the right balance. -/
theorem snapped_posting_iff_exact :
    snapped checked balance (posted + amount) = net + amount ↔
      (balance = net + amount ∧ (checked → |(posted - net).toRat| ≤ 1 / 100)) ∨
        (checked ∧ posted - net = 0 ∧ 1 / 100 < |balance.toRat - (net + amount).toRat|) := by
  have hgap : |(net + amount).toRat - (posted + amount).toRat| = |(posted - net).toRat| := by
    rw [abs_sub_comm]
    simp only [Numeric.toRat_add, Numeric.toRat_sub, add_sub_add_right_eq_sub]
  unfold snapped
  split
  · rename_i hfire
    obtain ⟨hchecked, hfar⟩ := hfire
    rw [add_left_inj]
    constructor
    · rintro rfl
      exact .inr ⟨hchecked, sub_self _, hfar⟩
    · rintro (⟨rfl, hquiet⟩ | ⟨-, hzero, -⟩)
      · rw [hgap] at hfar
        exact absurd (hquiet hchecked) (not_le.mpr hfar)
      · exact sub_eq_zero.mp hzero
  · rename_i hquiet
    constructor
    · rintro rfl
      refine .inl ⟨rfl, fun hchecked => not_lt.mp fun hfar => hquiet ⟨hchecked, ?_⟩⟩
      rwa [hgap]
    · rintro (⟨rfl, -⟩ | ⟨hchecked, hzero, hfar⟩)
      · rfl
      · rw [sub_eq_zero.mp hzero] at hquiet
        exact absurd ⟨hchecked, hfar⟩ hquiet

/-- After the reversal of a net-active `amount`. -/
theorem snapped_reversal_iff :
    snapped checked (net - amount) (posted - (amount + amount)) = net - amount ↔
      (checked → |(posted - net).toRat - amount.toRat| ≤ 1 / 100) := by
  have hgap : (net - amount).toRat - (posted - (amount + amount)).toRat =
      -((posted - net).toRat - amount.toRat) := by
    simp only [Numeric.toRat_sub, Numeric.toRat_add]
    ring
  unfold snapped
  rw [hgap, abs_neg]
  split
  · rename_i hfire
    obtain ⟨hchecked, hfar⟩ := hfire
    constructor
    · intro heq
      have hzero : (posted - net).toRat - amount.toRat = 0 := by
        rw [← neg_eq_zero, ← hgap, heq, sub_self]
      rw [hzero, abs_zero] at hfar
      norm_num at hfar
    · intro hnear
      exact absurd (hnear hchecked) (not_le.mpr hfar)
  · rename_i hquiet
    simp only [true_iff]
    intro hchecked
    exact not_lt.mp fun hfar => hquiet ⟨hchecked, hfar⟩

/-- After the reversal of an `amount` that did not count: there is none and the check is quiet,
or the check finds the right balance. -/
theorem snapped_inactive_iff_exact :
    snapped checked (net - amount) (posted - (amount + amount)) = net ↔
      (amount = 0 ∧ (checked → |(posted - net).toRat| ≤ 1 / 100)) ∨
        (checked ∧ posted - net = amount + amount ∧ 1 / 100 < |amount.toRat|) := by
  have hgap : (net - amount).toRat - (posted - (amount + amount)).toRat =
      -((posted - net).toRat - amount.toRat) := by
    simp only [Numeric.toRat_sub, Numeric.toRat_add]
    ring
  unfold snapped
  rw [hgap, abs_neg]
  split
  · rename_i hfire
    obtain ⟨hchecked, hfar⟩ := hfire
    constructor
    · intro heq
      have htwice : posted - net = amount + amount := by
        rw [← heq]
        abel
      refine .inr ⟨hchecked, htwice, ?_⟩
      rwa [htwice, Numeric.toRat_add, add_sub_cancel_right] at hfar
    · rintro (⟨rfl, hquiet⟩ | ⟨-, htwice, -⟩)
      · rw [Numeric.toRat_zero, sub_zero] at hfar
        exact absurd (hquiet hchecked) (not_le.mpr hfar)
      · rw [sub_eq_iff_eq_add] at htwice
        rw [htwice]
        abel
  · rename_i hquiet
    rw [sub_eq_self]
    constructor
    · rintro rfl
      refine .inl ⟨rfl, fun hchecked => not_lt.mp fun hfar => hquiet ⟨hchecked, ?_⟩⟩
      rwa [Numeric.toRat_zero, sub_zero]
    · rintro (⟨rfl, -⟩ | ⟨hchecked, htwice, hfar⟩)
      · rfl
      · refine absurd ⟨hchecked, ?_⟩ hquiet
        rwa [htwice, Numeric.toRat_add, add_sub_cancel_right]

/-- The same where the check is quiet before. -/
theorem snapped_inactive_iff (hdrift : checked → |(posted - net).toRat| ≤ 1 / 100) :
    snapped checked (net - amount) (posted - (amount + amount)) = net ↔ amount = 0 := by
  rw [snapped_inactive_iff_exact, and_iff_left hdrift]
  refine or_iff_left fun ⟨hchecked, htwice, hfar⟩ => ?_
  -- the check would have to find twice the amount as the drift
  have hsmall := hdrift hchecked
  rw [htwice, Numeric.toRat_add, ← two_mul, abs_mul] at hsmall
  have hnonneg := abs_nonneg amount.toRat
  norm_num at hsmall hfar
  linarith

end Snapped

/-! ## One call -/

/-- The caches agree, and nothing is far enough off for the check to fire. -/
structure CacheGood (db : LedgerDb) : Prop where
  wellFormed : WellFormed db
  cacheMatches : CacheMatches db
  drift : ∀ a row, db.accounts.get? a = some row → row.accountCode ≠ "" →
    |(reversalDrift db a row.normalBalance).toRat| ≤ 1 / 100

theorem ne_empty_of_mem_checkedCodes {code : String} {lines : List JournalLine}
    (h : code ∈ checkedCodes lines) : code ≠ "" := by
  simpa using (List.mem_filter.mp h).2

namespace JournalPosted

variable {ctx : PostingContext} {db : LedgerDb} {request : JournalEntryRequest}
  {out : PostingOutcome} {header : TransactionRow} {written : List LedgerEntry} {mid : LedgerDb}

/-- An account after a posting. -/
theorem account_eq (hwf : WellFormed db)
    (h : JournalPosted ctx db request out header written mid) {a : AccountId} {row : AccountRow}
    (hrow : db.accounts.get? a = some row) :
    (row.afterLines request.lines).rebased mid (checkedCodes request.lines) a = { row with
      currentBalance := snapped (row.accountCode ∈ checkedCodes request.lines)
        (applyLines row.normalBalance (linesOn row.accountCode request.lines) row.currentBalance)
        (postedBalance db a row.normalBalance +
          linesChange row.normalBalance row.accountCode request.lines) } := by
  have hposted : postedBalance mid = postedBalance out.db := by
    rw [h.db_eq]
    exact (postedBalance_congr (finishPosting_transactions ..) (finishPosting_entries ..)).symm
  rw [rebased_eq, hposted]
  show { row with currentBalance := snapped _ _ (postedBalance out.db a row.normalBalance) } = _
  rw [h.postedBalance_eq hwf hrow]
  rfl

/-- The caches agree after a posting exactly when it meets its condition. -/
theorem cacheMatches_iff_exact (hwf : WellFormed db) (hmatches : CacheMatches db)
    (h : JournalPosted ctx db request out header written mid)
    (hwrites : (LedgerCall.create ctx request).Writes db) :
    CacheMatches out.db ↔ KeepsBalances db (.create ctx request) := by
  unfold CacheMatches
  rw [OrderedMap.forall_get?_map h.accounts_get?]
  unfold KeepsBalances
  rw [forall_prop_of_true hwrites]
  refine forall_congr' fun a => forall_congr' fun row => forall_congr' fun hrow => ?_
  rw [h.account_eq hwf hrow]
  show snapped _ _ _ = netActiveBalance out.db a row.normalBalance ↔ _
  rw [h.netActiveBalance_eq hwf hrow, snapped_posting_iff_exact, ← hmatches a row hrow]
  dsimp only
  rw [reversalDrift, hmatches a row hrow]

/-- With caches that agree and no drift for the check to find, the condition on the lines is
enough. -/
theorem keepsBalances_iff (hgood : CacheGood db) :
    KeepsBalances db (.create ctx request) ↔ KeepsCache db (.create ctx request) := by
  unfold KeepsBalances KeepsCache
  refine forall_congr' fun _ => forall_congr' fun a => forall_congr' fun row =>
    forall_congr' fun hrow => or_congr (and_iff_left fun hchecked => ?_) Iff.rfl
  exact hgood.drift a row hrow (ne_empty_of_mem_checkedCodes hchecked)

/-- The caches agree after a posting exactly when it meets its condition. -/
theorem cacheMatches_iff (hgood : CacheGood db)
    (h : JournalPosted ctx db request out header written mid)
    (hwrites : (LedgerCall.create ctx request).Writes db) :
    CacheMatches out.db ↔ KeepsCache db (.create ctx request) :=
  (h.cacheMatches_iff_exact hgood.wellFormed hgood.cacheMatches hwrites).trans
    (keepsBalances_iff hgood)

/-- A posting leaves the drift of every account. -/
theorem reversalDrift_eq (hwf : WellFormed db)
    (h : JournalPosted ctx db request out header written mid) {a : AccountId} {row : AccountRow}
    (hrow : db.accounts.get? a = some row) (normal : NormalBalance) :
    reversalDrift out.db a normal = reversalDrift db a normal := by
  unfold reversalDrift
  rw [h.postedBalance_eq hwf hrow, h.netActiveBalance_eq hwf hrow, add_sub_add_right_eq_sub]

theorem cacheGood (hgood : CacheGood db)
    (h : JournalPosted ctx db request out header written mid) (hmatches : CacheMatches out.db) :
    CacheGood out.db where
  wellFormed := h.wellFormed hgood.wellFormed
  cacheMatches := hmatches
  drift := by
    rw [OrderedMap.forall_get?_map h.accounts_get?]
    intro a row hrow
    rw [h.account_eq hgood.wellFormed hrow]
    intro hcode
    rw [h.reversalDrift_eq hgood.wellFormed hrow]
    exact hgood.drift a row hrow hcode

end JournalPosted

namespace ReversalPosted

variable {ctx : PostingContext} {db : LedgerDb} {request : ReversalRequest} {out : PostingOutcome}
  {original header : TransactionRow} {written : List LedgerEntry} {mid : LedgerDb}

/-- An account after a reversal. -/
theorem account_eq (hwf : WellFormed db)
    (h : ReversalPosted ctx db request out original header written mid) {a : AccountId}
    {row : AccountRow} (hrow : db.accounts.get? a = some row) :
    (row.afterLines (reversedLines db request.originalTransactionId)).rebased
        (withReversed mid request.originalTransactionId original db.nextId)
        (checkedCodes (reversedLines db request.originalTransactionId)) a = { row with
      currentBalance :=
        snapped (row.accountCode ∈ checkedCodes (reversedLines db request.originalTransactionId))
          (row.currentBalance - amountOf db request.originalTransactionId a row.normalBalance)
          (postedBalance db a row.normalBalance -
            (amountOf db request.originalTransactionId a row.normalBalance +
              amountOf db request.originalTransactionId a row.normalBalance)) } := by
  have hposted : postedBalance (withReversed mid request.originalTransactionId original db.nextId) =
      postedBalance out.db := by
    rw [h.db_eq]
    exact (postedBalance_congr (finishPosting_transactions ..) (finishPosting_entries ..)).symm
  rw [rebased_eq, hposted]
  show { row with
      currentBalance := snapped _ (applyLines row.normalBalance _ row.currentBalance)
        (postedBalance out.db a row.normalBalance) } = _
  rw [h.postedBalance_eq hwf hrow, applyLines_sixDecimals (reversedLines_sixDecimals db _),
    linesChange_reversedLines hwf _ hrow, ← sub_eq_add_neg]
  rfl

/-- A reversal takes its original out of the drift: once when the original counted, twice
when it did not. -/
theorem reversalDrift_eq (hwf : WellFormed db)
    (h : ReversalPosted ctx db request out original header written mid) {a : AccountId}
    {row : AccountRow} (hrow : db.accounts.get? a = some row) (normal : NormalBalance) :
    reversalDrift out.db a normal = reversalDrift db a normal -
      if isActiveId db request.originalTransactionId = true then
        amountOf db request.originalTransactionId a normal
      else amountOf db request.originalTransactionId a normal +
        amountOf db request.originalTransactionId a normal := by
  unfold reversalDrift
  rw [h.postedBalance_eq hwf hrow, h.netActiveBalance_eq hwf]
  split <;> abel

/-- An account that no line of the reversal is checked for is left alone. -/
theorem amountOf_eq_zero {a : AccountId} {row : AccountRow} (hwf : WellFormed db)
    (hrow : db.accounts.get? a = some row) (hcode : row.accountCode ≠ "")
    (hchecked : row.accountCode ∉ checkedCodes (reversedLines db request.originalTransactionId)) :
    amountOf db request.originalTransactionId a row.normalBalance = 0 := by
  rw [← neg_eq_zero, ← linesChange_reversedLines hwf _ hrow]
  have hnone : linesOn row.accountCode (reversedLines db request.originalTransactionId) = [] := by
    refine List.filter_eq_nil_iff.mpr fun line hline heq => hchecked ?_
    refine List.mem_filter.mpr ⟨List.mem_map.mpr ⟨line, hline, ?_⟩, by simpa using hcode⟩
    simpa using heq
  unfold linesChange
  rw [hnone]
  rfl

/-- The caches agree after a reversal exactly when it meets its condition. -/
theorem cacheMatches_iff_exact (hwf : WellFormed db) (hmatches : CacheMatches db)
    (h : ReversalPosted ctx db request out original header written mid)
    (hwrites : (LedgerCall.reverse ctx request).Writes db) :
    CacheMatches out.db ↔ KeepsBalances db (.reverse ctx request) := by
  unfold CacheMatches
  rw [OrderedMap.forall_get?_map h.accounts_get?]
  unfold KeepsBalances
  rw [forall_prop_of_true hwrites]
  refine forall_congr' fun a => forall_congr' fun row => forall_congr' fun hrow => ?_
  rw [h.account_eq hwf hrow]
  show snapped _ _ _ = netActiveBalance out.db a row.normalBalance ↔ _
  rw [h.netActiveBalance_eq hwf, hmatches a row hrow]
  dsimp only
  split
  · exact snapped_reversal_iff
  · rw [sub_zero]
    exact snapped_inactive_iff_exact

/-- With no drift for the check to find, the condition on the amounts is enough. -/
theorem keepsBalances_iff (hgood : CacheGood db) :
    KeepsBalances db (.reverse ctx request) ↔ KeepsCache db (.reverse ctx request) := by
  unfold KeepsBalances KeepsCache
  refine forall_congr' fun _ => forall_congr' fun a => forall_congr' fun row =>
    forall_congr' fun hrow => ?_
  have hdrift : row.accountCode ∈ checkedCodes (reversedLines db request.originalTransactionId) →
      |(reversalDrift db a row.normalBalance).toRat| ≤ 1 / 100 := fun hchecked =>
    hgood.drift a row hrow (ne_empty_of_mem_checkedCodes hchecked)
  dsimp only
  split
  · constructor
    · intro hnear hcode
      by_cases hchecked :
          row.accountCode ∈ checkedCodes (reversedLines db request.originalTransactionId)
      · exact hnear hchecked
      · rw [amountOf_eq_zero hgood.wellFormed hrow hcode hchecked, Numeric.toRat_zero, sub_zero]
        exact hgood.drift a row hrow hcode
    · exact fun hnear hchecked => hnear (ne_empty_of_mem_checkedCodes hchecked)
  · exact snapped_inactive_iff_exact.symm.trans (snapped_inactive_iff hdrift)

/-- The caches agree after a reversal exactly when it meets its condition. -/
theorem cacheMatches_iff (hgood : CacheGood db)
    (h : ReversalPosted ctx db request out original header written mid)
    (hwrites : (LedgerCall.reverse ctx request).Writes db) :
    CacheMatches out.db ↔ KeepsCache db (.reverse ctx request) :=
  (h.cacheMatches_iff_exact hgood.wellFormed hgood.cacheMatches hwrites).trans
    (keepsBalances_iff hgood)

theorem cacheGood (hgood : CacheGood db)
    (h : ReversalPosted ctx db request out original header written mid)
    (hwrites : (LedgerCall.reverse ctx request).Writes db)
    (hkeeps : KeepsCache db (.reverse ctx request)) : CacheGood out.db where
  wellFormed := h.wellFormed hgood.wellFormed
  cacheMatches := (h.cacheMatches_iff hgood hwrites).mpr hkeeps
  drift := by
    rw [OrderedMap.forall_get?_map h.accounts_get?]
    intro a row hrow
    rw [h.account_eq hgood.wellFormed hrow]
    intro hcode
    have hcond := hkeeps hwrites a row hrow
    rw [h.reversalDrift_eq hgood.wellFormed hrow]
    dsimp only at hcond hcode ⊢
    split at hcond
    · rename_i hactive
      rw [if_pos hactive, Numeric.toRat_sub]
      exact hcond hcode
    · rename_i hinactive
      rw [if_neg hinactive, hcond, add_zero, sub_zero]
      exact hgood.drift a row hrow hcode

end ReversalPosted

/-! ## Runs -/

theorem EmptyLedger.cacheGood {db : LedgerDb} (h : EmptyLedger db) : CacheGood db where
  wellFormed := h.wellFormed
  cacheMatches := by
    intro a row hrow
    rw [h.balances a row hrow]
    simp [netActiveBalance, balanceOver, sumEntries, h.entries]
  drift := by
    intro a row _ _
    simp [reversalDrift, postedBalance, netActiveBalance, balanceOver, sumEntries, h.entries]

theorem CallStep.cacheMatches_iff {db db' : LedgerDb} {call : LedgerCall} (hgood : CacheGood db)
    (h : CallStep db call db') : CacheMatches db' ↔ KeepsCache db call := by
  obtain ⟨out, rfl, heffect⟩ := h.effect hgood.wellFormed
  cases heffect with
  | found hdb _ hfound =>
    rw [hdb]
    exact iff_of_true hgood.cacheMatches fun hwrites => absurd hwrites hfound
  | posted hwrites h => exact h.cacheMatches_iff hgood hwrites
  | reversed hwrites h => exact h.cacheMatches_iff hgood hwrites

theorem CallStep.cacheGood {db db' : LedgerDb} {call : LedgerCall} (hgood : CacheGood db)
    (h : CallStep db call db') (hkeeps : KeepsCache db call) : CacheGood db' := by
  have hmatches := (h.cacheMatches_iff hgood).mpr hkeeps
  obtain ⟨out, rfl, heffect⟩ := h.effect hgood.wellFormed
  cases heffect with
  | found hdb _ _ => exact hdb ▸ hgood
  | posted _ h => exact h.cacheGood hgood hmatches
  | reversed hwrites h => exact h.cacheGood hgood hwrites hkeeps

/-- From an empty ledger the caches agree in every state of a run exactly when every call
of the run meets its condition. -/
theorem cacheMatches_run_iff {db db' : LedgerDb} {ts : List (LedgerDb × LedgerCall × LedgerDb)}
    (hempty : EmptyLedger db) (hrun : Run CallStep db ts db') :
    (∀ t ∈ ts, CacheMatches t.2.2) ↔ ∀ t ∈ ts, KeepsCache t.1 t.2.1 :=
  hrun.forall_iff (fun _ _ _ hgood h => h.cacheMatches_iff hgood)
    (fun _ _ _ hgood h hkeeps => h.cacheGood hgood hkeeps) hempty.cacheGood

/-! ## Rent posted and taken back -/

instance (db : LedgerDb) : Decidable (CacheMatches db) :=
  decidable_of_iff (∀ e ∈ db.accounts.entries,
      e.2.currentBalance = netActiveBalance db e.1 e.2.normalBalance) (by
    constructor
    · intro h a row hrow
      exact h (a, row) (OrderedMap.get?_eq_some_iff.mp hrow)
    · intro h e he
      exact h e.1 e.2 (OrderedMap.get?_eq_some_iff.mpr he))

/-- The posting keeps the caches. -/
theorem rentCall_cacheMatches : EmptyLedger books ∧
    ∀ t ∈ [(books, rentCall, booksWithRent)], CacheMatches t.2.2 := by
  refine ⟨books_empty, (cacheMatches_run_iff books_empty (.cons rentCall_step (.nil _))).mpr ?_⟩
  intro t ht
  rw [List.mem_singleton.mp ht]
  refine keepsCache_of_sixDecimals fun line hline => ?_
  have hlines : ∀ l ∈ (rentJournal 100 january "rent" 7).lines,
      l.debitAmount = (Numeric.ofRat l.debitAmount : Amount).toRat ∧
        l.creditAmount = (Numeric.ofRat l.creditAmount : Amount).toRat := by
    decide +kernel
  exact ⟨_, _, hlines line hline⟩

/-- Its reversal. -/
def rentBackCall : LedgerCall :=
  .reverse (contextOf .ownTransaction booksWithRent) (takeBack 10 january "rent-back")

/-- After the reversal the rent account is at -100: the check has subtracted the rent a
second time. -/
theorem reversal_breaks_the_cache :
    ¬ ∀ (db db' : LedgerDb) (ts : List (LedgerDb × LedgerCall × LedgerDb)), EmptyLedger db →
        Run CallStep db ts db' → ∀ t ∈ ts, CacheMatches t.2.2 := by
  intro h
  have hback : CallStep booksWithRent rentBackCall (rentBackCall.after booksWithRent) :=
    LedgerCall.step_after (by decide +kernel)
  have hbad : ¬ CacheMatches (rentBackCall.after booksWithRent) := by decide +kernel
  exact hbad (h books _ _ books_empty (.cons rentCall_step (.cons hback (.nil _))) _
    (List.mem_cons_of_mem _ List.mem_cons_self))

end SmartErpPos.Ledger
