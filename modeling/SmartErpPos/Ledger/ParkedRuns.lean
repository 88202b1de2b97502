/-
  Ledger/ParkedRuns.lean --- journals that are parked, reviewed and reversed in any order.

  The machine posts, reverses, submits and reviews, and runs the rebuilds that are scheduled,
  one at a time and in any order.  A journal counts where it should in every state of a run
  exactly when no step parks, or posts again, what it must not (`KeepsParkedOut`).
-/
import SmartErpPos.Ledger.ParkedJournals

set_option autoImplicit false

namespace SmartErpPos.Ledger

open SmartErpPos.Lib

/-! ## The machine -/

inductive ApprovalAction where
  | call (call : LedgerCall)
  | changeRules (rules : OrderedMap ApprovalRuleId ApprovalRule)
  | submit (transactionId : TransactionId) (totalAmount : ℚ) (requestedBy : String)
  | review (requestId : ApprovalRequestId) (decision : ApprovalDecision) (reviewedBy : String)
      (notes : Option String)
  | rebuild (key : PeriodKey)

/-- A step.  A journal is submitted under an id the ledger has drawn before. -/
def ApprovalStep (s : ApprovalDb) (action : ApprovalAction) (s' : ApprovalDb) : Prop :=
  match action with
  | .call call => ∃ out, call.run s.ledger = .ok out ∧
      s' = { s with
        ledger := out.db
        outstanding := s.outstanding ++ out.pendingRebuildJobs }
  | .changeRules rules => s' = { s with rules := rules }
  | .submit t amount requestedBy => t < s.ledger.nextId ∧
      s' = submitForApproval s t amount requestedBy
  | .review r decision reviewedBy notes => reviewApproval s r decision reviewedBy notes = .ok s'
  | .rebuild key => key ∈ s.outstanding ∧
      s' = { s with
        ledger := rebuildSingleAccountPeriod s.ledger key
        outstanding := s.outstanding.erase key }

/-- The latest request of a journal. -/
structure IsLatest (s : ApprovalDb) (t : TransactionId) (r : ApprovalRequestId)
    (request : ApprovalRequest) : Prop where
  get : s.requests.get? r = some request
  transaction : request.transactionId = t
  last : ∀ r' request', s.requests.get? r' = some request' → request'.transactionId = t → r' ≤ r

/-- Journals count when they are posted and not reversed, once, and only then. -/
structure ParkedOut (s : ApprovalDb) : Prop where
  /-- A cached balance is the sum over the journals that count. -/
  caches : CacheMatches s.ledger
  /-- So is a row of the period balances that no rebuild is scheduled for. -/
  rows : ∀ key, key ∉ s.outstanding → ¬ Frozen s.ledger key → RowMatches s.ledger key
  /-- A journal whose latest request is not approved is not posted. -/
  parked : ∀ t r request row, IsLatest s t r request → request.status ≠ .APPROVED →
    s.ledger.transactions.get? t = some row → row.status ≠ .POSTED
  /-- A reversed journal is not posted. -/
  reversed : ∀ t row, s.ledger.transactions.get? t = some row → row.isReversed = true →
    row.status ≠ .POSTED

/-! ## The condition -/

/-- The journal adds nothing to any account. -/
def AddsNothing (db : LedgerDb) (t : TransactionId) : Prop :=
  ∀ a row, db.accounts.get? a = some row → amountOf db t a row.normalBalance = 0

/-- The journal is no reversed one; and if it does not count and would, it adds nothing. -/
structure PostsQuietly (db : LedgerDb) (t : TransactionId) : Prop where
  notReversed : ∀ row, db.transactions.get? t = some row → row.isReversed = false
  addsNothing : isActiveId db t = false → countsPosted db t = true → AddsNothing db t

/-- The journal leaves the rows that no rebuild is scheduled for. -/
def KeepsRows (s : ApprovalDb) (t : TransactionId) : Prop :=
  isActiveId s.ledger t = false → countsPosted s.ledger t = true →
    ∀ key, key ∉ s.outstanding → ¬ Frozen s.ledger key →
      rowOfTotals (periodDebits s.ledger key + journalPart s.ledger t key (·.debitAmount))
          (periodCredits s.ledger key + journalPart s.ledger t key (·.creditAmount)) =
        rowOfTotals (periodDebits s.ledger key) (periodCredits s.ledger key)

/-- The submission parks the journal. -/
def Parks (s : ApprovalDb) (amount : ℚ) : Prop :=
  ∃ rule, findApplicableRule s.rules amount = some rule ∧ rule.2.autoApprove = false

instance (s : ApprovalDb) (amount : ℚ) : Decidable (Parks s amount) :=
  match h : findApplicableRule s.rules amount with
  | none => .isFalse (by simp [Parks, h])
  | some rule => decidable_of_iff (rule.2.autoApprove = false) (by simp [Parks, h])

/-- The conditions on a step.  A posting or reversal: the cached balances follow it.  A journal
that is parked while it counts adds nothing.  A journal that is approved is not reversed, and
adds nothing when it does not count yet; without a review it also leaves the rows.  A review
approves no request of a journal that has a later one which is not approved. -/
def KeepsParkedOut (s : ApprovalDb) : ApprovalAction → Prop
  | .call call => KeepsBalances s.ledger call
  | .submit t amount _ =>
    if Parks s amount then isActiveId s.ledger t = true → AddsNothing s.ledger t
    else PostsQuietly s.ledger t ∧ KeepsRows s t
  | .review r .APPROVE _ _ => ∀ request, s.requests.get? r = some request →
      PostsQuietly s.ledger request.transactionId ∧
        ((s.ledger.transactions.get? request.transactionId).isSome = true →
          ∀ r' request', IsLatest s request.transactionId r' request' →
            r' = r ∨ request'.status = .APPROVED)
  | _ => True

/-! ## What one statement does -/

section SetStatus

variable {db : LedgerDb} {t : TransactionId} {status : TransactionStatus}

theorem not_reversed_of_wellFormed (hwf : WellFormed db) {row : TransactionRow}
    (hrow : db.transactions.get? t = some row) (hreversed : row.isReversed = true) :
    row.status ≠ .POSTED := by
  intro hposted
  rw [(hwf.settled t row hrow).notReversed hposted] at hreversed
  cases hreversed

/-- The caches stay right exactly when the journal starts or stops to count only without
amounts. -/
theorem cacheMatches_setStatus_iff (hmatches : CacheMatches db) :
    CacheMatches (setStatus db t status) ↔
      (isActiveId (setStatus db t status) t ≠ isActiveId db t → AddsNothing db t) := by
  have hrow : ∀ a row, db.accounts.get? a = some row →
      (row.currentBalance = netActiveBalance (setStatus db t status) a row.normalBalance ↔
        (isActiveId (setStatus db t status) t ≠ isActiveId db t →
          amountOf db t a row.normalBalance = 0)) := by
    intro a row hrow
    rw [netActiveBalance_setStatus, hmatches a row hrow]
    cases isActiveId db t with
    | true =>
      cases isActiveId (setStatus db t status) t with
      | true => simp
      | false => simp [eq_comm (a := netActiveBalance _ _ _)]
    | false =>
      cases isActiveId (setStatus db t status) t with
      | true => simp
      | false => simp
  constructor
  · intro h hchanged a row hget
    exact (hrow a row hget).mp (h a row hget) hchanged
  · intro h a row hget
    exact (hrow a row hget).mpr fun hchanged => h hchanged a row hget

/-- A row in which the journal has nothing stays right, and so does every row when the journal
counts as before. -/
theorem rowMatches_setStatus {key : PeriodKey} (hmatches : RowMatches db key)
    (h : key ∉ transactionKeys db t ∨ isActiveId (setStatus db t status) t = isActiveId db t) :
    RowMatches (setStatus db t status) key := by
  have htotal : ∀ f, sumEntries db.entries (isPeriodEntry (setStatus db t status) key) f =
      sumEntries db.entries (isPeriodEntry db key) f := by
    intro f
    rw [periodTotal_setStatus]
    rcases h with hkey | hsame
    · rw [journalPart_eq_zero db t hkey f]
      simp
    · rw [hsame, sub_add_cancel]
  unfold RowMatches periodDebits periodCredits at hmatches ⊢
  show db.periodBalances.get? key = rowOfTotals (sumEntries db.entries _ _)
    (sumEntries db.entries _ _)
  rw [htotal, htotal, hmatches]

/-- A row after the journal starts to count. -/
theorem rowMatches_posted_iff {key : PeriodKey} (hmatches : RowMatches db key)
    (hbefore : isActiveId db t = false) (hafter : isActiveId (setStatus db t status) t = true) :
    RowMatches (setStatus db t status) key ↔
      rowOfTotals (periodDebits db key + journalPart db t key (·.debitAmount))
          (periodCredits db key + journalPart db t key (·.creditAmount)) =
        rowOfTotals (periodDebits db key) (periodCredits db key) := by
  have htotal : ∀ f, sumEntries db.entries (isPeriodEntry (setStatus db t status) key) f =
      sumEntries db.entries (isPeriodEntry db key) f + journalPart db t key f := by
    intro f
    rw [periodTotal_setStatus, hbefore, hafter]
    simp
  unfold RowMatches periodDebits periodCredits at *
  show db.periodBalances.get? key = rowOfTotals (sumEntries db.entries _ _)
    (sumEntries db.entries _ _) ↔ _
  rw [htotal, htotal, hmatches, eq_comm]

end SetStatus

/-! ## The latest request -/

section Latest

variable {s : ApprovalDb} {t : TransactionId} {r : ApprovalRequestId}
  {request : ApprovalRequest}

/-- Nothing but the requests counts. -/
theorem IsLatest.congr {s' : ApprovalDb} (h : IsLatest s' t r request)
    (hsame : s'.requests = s.requests) : IsLatest s t r request := by
  obtain ⟨hget, htransaction, hlast⟩ := h
  rw [hsame] at hget hlast
  exact ⟨hget, htransaction, hlast⟩

/-- A new request is the latest of its journal. -/
theorem isLatest_inserted {s' : ApprovalDb} {added : ApprovalRequest}
    (hbelow : ∀ r request, s.requests.get? r = some request → r < s.nextRequest)
    (hs' : s'.requests = s.requests.set s.nextRequest added) (h : IsLatest s' t r request) :
    (t = added.transactionId ∧ request = added) ∨
      (t ≠ added.transactionId ∧ IsLatest s t r request) := by
  have hnew : s'.requests.get? s.nextRequest = some added := by
    rw [hs', OrderedMap.get?_set_self]
  have hold : ∀ k, k ≠ s.nextRequest → s'.requests.get? k = s.requests.get? k := fun k hk => by
    rw [hs', OrderedMap.get?_set_of_ne hk]
  have hother : ∀ k old, s.requests.get? k = some old → s'.requests.get? k = some old :=
    fun k old hget => (hold k (hbelow k old hget).ne).trans hget
  by_cases hr : r = s.nextRequest
  · subst hr
    have hrequest : added = request := Option.some.inj (hnew.symm.trans h.get)
    exact .inl ⟨hrequest ▸ h.transaction.symm, hrequest.symm⟩
  · have hget : s.requests.get? r = some request := (hold r hr).symm.trans h.get
    refine .inr ⟨fun ht => ?_, ⟨hget, h.transaction, fun k old hk => h.last k old (hother k old hk)⟩⟩
    -- the new request would come later
    exact absurd (h.last _ _ hnew ht.symm) (not_le.mpr (hbelow r request hget))

/-- A review leaves the order of the requests. -/
theorem isLatest_reviewed {s' : ApprovalDb} {r₀ : ApprovalRequestId}
    {old reviewed : ApprovalRequest} (hsame : reviewed.transactionId = old.transactionId)
    (hold : s.requests.get? r₀ = some old)
    (hs' : s'.requests = s.requests.set r₀ reviewed) (h : IsLatest s' t r request) :
    (r = r₀ ∧ request = reviewed ∧ IsLatest s t r₀ old) ∨ (r ≠ r₀ ∧ IsLatest s t r request) := by
  have hother : ∀ k, k ≠ r₀ → s'.requests.get? k = s.requests.get? k := fun k hk => by
    rw [hs', OrderedMap.get?_set_of_ne hk]
  have hself : s'.requests.get? r₀ = some reviewed := by
    rw [hs', OrderedMap.get?_set_self]
  have hlast : ∀ k request', s.requests.get? k = some request' → request'.transactionId = t →
      k ≤ r := by
    intro k request' hk ht
    by_cases hkr : k = r₀
    · subst hkr
      have heq : old = request' := Option.some.inj (hold.symm.trans hk)
      exact h.last k reviewed hself (hsame.trans (heq ▸ ht))
    · exact h.last k request' ((hother k hkr).trans hk) ht
  by_cases hr : r = r₀
  · subst hr
    have heq : reviewed = request := Option.some.inj (hself.symm.trans h.get)
    exact .inl ⟨rfl, heq.symm, hold, hsame.symm.trans (heq ▸ h.transaction), hlast⟩
  · exact .inr ⟨hr, (hother r hr).symm.trans h.get, h.transaction, hlast⟩

/-- The latest request stays the latest when it is reviewed. -/
theorem IsLatest.reviewed {s' : ApprovalDb} {r₀ : ApprovalRequestId}
    {old reviewed : ApprovalRequest} (hsame : reviewed.transactionId = old.transactionId)
    (hold : s.requests.get? r₀ = some old)
    (hs' : s'.requests = s.requests.set r₀ reviewed) (h : IsLatest s t r request) :
    IsLatest s' t r (if r = r₀ then reviewed else request) := by
  have hlast : ∀ k request', s'.requests.get? k = some request' → request'.transactionId = t →
      k ≤ r := by
    intro k request' hk ht
    rw [hs', OrderedMap.get?_set] at hk
    split at hk
    · rename_i hkr
      cases hk
      exact h.last k old (hkr ▸ hold) (hsame.symm.trans ht)
    · exact h.last k request' hk ht
  split
  · rename_i hr
    subst hr
    have heq : old = request := Option.some.inj (hold.symm.trans h.get)
    exact ⟨by rw [hs', OrderedMap.get?_set_self], hsame.trans (heq ▸ h.transaction), hlast⟩
  · rename_i hr
    exact ⟨by rw [hs', OrderedMap.get?_set_of_ne hr, h.get], h.transaction, hlast⟩

end Latest

/-! ## One step -/

/-- The invariant. -/
structure ApprovalGood (s : ApprovalDb) : Prop where
  wellFormed : WellFormed s.ledger
  parkedOut : ParkedOut s
  requestsBelow : ∀ r request, s.requests.get? r = some request → r < s.nextRequest
  submittedBelow : ∀ r request, s.requests.get? r = some request →
    request.transactionId < s.ledger.nextId

section Call

variable {db : LedgerDb} {call : LedgerCall} {out : PostingOutcome}

theorem CallEffect.cacheMatches_iff (hwf : WellFormed db) (hmatches : CacheMatches db)
    (h : CallEffect db call out) : CacheMatches out.db ↔ KeepsBalances db call := by
  cases h with
  | found hdb _ hfound =>
    rw [hdb]
    exact iff_of_true hmatches fun hwrites => absurd hwrites hfound
  | posted hwrites h => exact h.cacheMatches_iff_exact hwf hmatches hwrites
  | reversed hwrites h => exact h.cacheMatches_iff_exact hwf hmatches hwrites

/-- What is posted after a call is new, or was posted before. -/
theorem CallEffect.posted_cases (hwf : WellFormed db) (h : CallEffect db call out)
    {t : TransactionId} {row : TransactionRow} (hrow : out.db.transactions.get? t = some row)
    (hposted : row.status = .POSTED) : t = db.nextId ∨ db.transactions.get? t = some row := by
  cases h with
  | found hdb _ _ => exact .inr (hdb ▸ hrow)
  | posted _ h => exact (h.headerAdded.get?_cases hrow).imp_left And.left
  | reversed _ h =>
    rcases h.originalReversed.get?_cases hwf hrow with ⟨-, rfl⟩ | ⟨hnew, -⟩ | ⟨-, hold⟩
    · cases hposted
    · exact .inl hnew
    · exact .inr hold

theorem CallEffect.nextId_le (h : CallEffect db call out) : db.nextId ≤ out.db.nextId := by
  cases h with
  | found hdb _ _ => rw [hdb]
  | posted _ h =>
    rw [h.nextId_eq]
    exact Nat.le_succ _
  | reversed _ h =>
    rw [h.nextId_eq]
    exact Nat.le_succ _

/-- The row of an open month that no rebuild is scheduled for. -/
theorem CallEffect.row_kept (hwf : WellFormed db) (h : CallEffect db call out) {key : PeriodKey}
    (hopen : ¬ Frozen db key) (hmatches : RowMatches db key)
    (hjobs : key ∉ out.pendingRebuildJobs) : RowMatches out.db key := by
  cases hpath : call.path with
  | txClient => exact (h.rowStep hwf hpath key).open_ hopen hmatches
  | ownTransaction =>
    exact ((h.row_queued hwf hpath key).resolve_left hjobs).rowMatches_iff.mpr hmatches

end Call

section Steps

variable {s s' : ApprovalDb}

/-- A posting or reversal. -/
theorem ApprovalGood.call_iff (hgood : ApprovalGood s) {call : LedgerCall} {out : PostingOutcome}
    (heffect : CallEffect s.ledger call out)
    (hs' : s' = { s with
      ledger := out.db
      outstanding := s.outstanding ++ out.pendingRebuildJobs }) :
    ParkedOut s' ↔ KeepsParkedOut s (.call call) := by
  subst hs'
  have hcaches := heffect.cacheMatches_iff hgood.wellFormed hgood.parkedOut.caches
  constructor
  · exact fun hout => hcaches.mp hout.caches
  · intro hkeeps
    refine ⟨hcaches.mpr hkeeps, fun key hnot hopen => ?_, ?_, fun t row => ?_⟩
    · obtain ⟨hold, hjobs⟩ := not_or.mp (mt List.mem_append.mpr hnot)
      have hopen' : ¬ Frozen s.ledger key := fun hf =>
        hopen ((frozen_congr heffect.periods key).mpr hf)
      exact heffect.row_kept hgood.wellFormed hopen' (hgood.parkedOut.rows key hold hopen') hjobs
    · intro t r request row hlatest hstatus hrow hposted
      have hlatest : IsLatest s t r request := hlatest.congr rfl
      rcases heffect.posted_cases hgood.wellFormed hrow hposted with rfl | hold
      · -- the new journal has no request yet
        have hbelow := hgood.submittedBelow r request hlatest.get
        rw [hlatest.transaction] at hbelow
        exact absurd hbelow (lt_irrefl _)
      · exact hgood.parkedOut.parked t r request row hlatest hstatus hold hposted
    · exact not_reversed_of_wellFormed (heffect.wellFormed hgood.wellFormed)

/-- A rebuild makes its row right and leaves the others. -/
theorem ApprovalGood.rebuilt (hgood : ApprovalGood s) (key : PeriodKey) :
    ParkedOut { s with
      ledger := rebuildSingleAccountPeriod s.ledger key
      outstanding := s.outstanding.erase key } := by
  obtain ⟨honly, -⟩ := rebuildSingleAccountPeriod_onlyProjects s.ledger key
  have hsame : ∃ b, rebuildSingleAccountPeriod s.ledger key =
      { s.ledger with periodBalances := b } := rebuildSingleAccountPeriod_eq s.ledger key
  obtain ⟨b, hb⟩ := hsame
  have htransactions : (rebuildSingleAccountPeriod s.ledger key).transactions =
      s.ledger.transactions := by rw [hb]
  refine ⟨?_, fun k hnot hopen => ?_, ?_, ?_⟩
  · intro a row hrow
    have hnet := netActiveBalance_congr htransactions (show _ = s.ledger.entries by rw [hb])
    show row.currentBalance =
      netActiveBalance (rebuildSingleAccountPeriod s.ledger key) a row.normalBalance
    rw [hnet]
    refine hgood.parkedOut.caches a row ?_
    rw [← hrow]
    show _ = (rebuildSingleAccountPeriod s.ledger key).accounts.get? a
    rw [hb]
  · have hopen' : ¬ Frozen s.ledger k := fun hf => hopen ((honly.frozen k).mpr hf)
    rcases eq_or_ne k key with rfl | hne
    · by_contra hwrong
      exact not_stale_rebuilt s.ledger k ⟨hopen, hwrong⟩
    · have hold := hgood.parkedOut.rows k
        (fun hmem => hnot ((List.mem_erase_of_ne hne).mpr hmem)) hopen'
      by_contra hwrong
      exact ((stale_rebuilt_other hne).mp ⟨hopen, hwrong⟩).2 hold
  · intro t r request row hlatest hstatus hrow
    exact hgood.parkedOut.parked t r request row (hlatest.congr rfl) hstatus
      (htransactions ▸ hrow)
  · intro t row hrow
    exact hgood.parkedOut.reversed t row (htransactions ▸ hrow)

theorem submitForApproval_parks (t : TransactionId) {amount : ℚ} (requestedBy : String)
    (h : Parks s amount) :
    ∃ ruleId, submitForApproval s t amount requestedBy = park s t amount requestedBy ruleId := by
  obtain ⟨rule, hrule, hmanual⟩ := h
  refine ⟨rule.1, ?_⟩
  unfold submitForApproval
  rw [hrule]
  exact if_neg (by simp [hmanual])

theorem submitForApproval_posts (t : TransactionId) {amount : ℚ} (requestedBy : String)
    (h : ¬ Parks s amount) :
    ∃ rule, submitForApproval s t amount requestedBy = autoApprove s t amount requestedBy rule := by
  unfold submitForApproval
  cases hrule : findApplicableRule s.rules amount with
  | none => exact ⟨none, rfl⟩
  | some rule =>
    refine ⟨some rule, if_pos ?_⟩
    by_contra hmanual
    exact h ⟨rule, hrule, Bool.eq_false_iff.mpr hmanual⟩

theorem isActiveId_draft (db : LedgerDb) (t : TransactionId) :
    isActiveId (setStatus db t .DRAFT) t = false := by
  simp [isActiveId_setStatus]

theorem isActiveId_posted (db : LedgerDb) (t : TransactionId) :
    isActiveId (setStatus db t .POSTED) t = countsPosted db t := by
  simp [isActiveId_setStatus]

/-- A journal that would count when it is posted changes what counts when it does not yet. -/
theorem posted_changes_iff (db : LedgerDb) (t : TransactionId) :
    isActiveId (setStatus db t .POSTED) t ≠ isActiveId db t ↔
      isActiveId db t = false ∧ countsPosted db t = true := by
  rw [isActiveId_posted]
  cases hactive : isActiveId db t with
  | true => simp [countsPosted_of_active db t hactive]
  | false => simp

/-- What is posted after a status is stored was posted before, or is the journal itself. -/
theorem posted_setStatus {db : LedgerDb} {t k : TransactionId} {status : TransactionStatus}
    {row : TransactionRow} (hrow : (setStatus db t status).transactions.get? k = some row)
    (hposted : row.status = .POSTED) :
    (k = t ∧ status = .POSTED) ∨ (k ≠ t ∧ db.transactions.get? k = some row) := by
  rw [setStatus_get?] at hrow
  split at hrow
  · rename_i hk
    obtain ⟨old, -, rfl⟩ := Option.map_eq_some_iff.mp hrow
    exact .inl ⟨hk, hposted⟩
  · rename_i hk
    exact .inr ⟨hk, hrow⟩

/-- Parking. -/
theorem ApprovalGood.park_iff (hgood : ApprovalGood s) (t : TransactionId) (amount : ℚ)
    (requestedBy : String) (ruleId : ApprovalRuleId) :
    ParkedOut (park s t amount requestedBy ruleId) ↔
      (isActiveId s.ledger t = true → AddsNothing s.ledger t) := by
  have hcaches : CacheMatches (setStatus s.ledger t .DRAFT) ↔
      (isActiveId s.ledger t = true → AddsNothing s.ledger t) := by
    rw [cacheMatches_setStatus_iff hgood.parkedOut.caches, isActiveId_draft]
    cases isActiveId s.ledger t with
    | true => simp
    | false => simp
  have hposted : ∀ {k row}, (setStatus s.ledger t .DRAFT).transactions.get? k = some row →
      row.status = .POSTED → k ≠ t ∧ s.ledger.transactions.get? k = some row :=
    fun hrow hstatus => (posted_setStatus hrow hstatus).resolve_left fun h => nomatch h.2
  constructor
  · exact fun hout => hcaches.mp hout.caches
  · intro hkeeps
    refine ⟨hcaches.mpr hkeeps, fun key hnot hopen => ?_, ?_, ?_⟩
    · obtain ⟨hold, hkey⟩ := not_or.mp (mt List.mem_append.mpr hnot)
      exact rowMatches_setStatus (hgood.parkedOut.rows key hold hopen) (.inl hkey)
    · intro k r request row hlatest hstatus hrow hk
      obtain ⟨hne, hrow⟩ := hposted hrow hk
      rcases isLatest_inserted hgood.requestsBelow rfl hlatest with ⟨rfl, -⟩ | ⟨-, hold⟩
      · exact hne rfl
      · exact hgood.parkedOut.parked k r request row hold hstatus hrow hk
    · intro k row hrow hreversed hk
      exact hgood.parkedOut.reversed k row (hposted hrow hk).2 hreversed hk

/-- No reversed journal is posted after one is posted again exactly when that one is not
reversed. -/
theorem reversed_posted_iff (db : LedgerDb) (t : TransactionId)
    (hreversed : ∀ k row, db.transactions.get? k = some row → row.isReversed = true →
      row.status ≠ .POSTED) :
    (∀ k row, (setStatus db t .POSTED).transactions.get? k = some row → row.isReversed = true →
      row.status ≠ .POSTED) ↔
        ∀ row, db.transactions.get? t = some row → row.isReversed = false := by
  constructor
  · intro h row hrow
    rw [← Bool.not_eq_true]
    intro hrev
    refine h t { row with status := .POSTED } ?_ hrev rfl
    rw [setStatus_get?, if_pos rfl, hrow]
    rfl
  · intro h k row hrow hrev hposted
    rcases posted_setStatus hrow hposted with ⟨rfl, -⟩ | ⟨-, hold⟩
    · obtain ⟨old, hold, heq, -⟩ := setStatus_get?_cases _ _ _ hrow
      rw [heq] at hrev
      rw [h old hold] at hrev
      cases hrev
    · exact hreversed k row hold hrev hposted

/-- The caches and the reversed journals, when a journal is posted again. -/
theorem postsQuietly_iff {db : LedgerDb} (t : TransactionId) (hmatches : CacheMatches db)
    (hreversed : ∀ k row, db.transactions.get? k = some row → row.isReversed = true →
      row.status ≠ .POSTED) :
    (CacheMatches (setStatus db t .POSTED) ∧
      ∀ k row, (setStatus db t .POSTED).transactions.get? k = some row → row.isReversed = true →
        row.status ≠ .POSTED) ↔ PostsQuietly db t := by
  rw [cacheMatches_setStatus_iff hmatches, posted_changes_iff, and_imp,
    reversed_posted_iff db t hreversed]
  exact ⟨fun h => ⟨h.2, h.1⟩, fun h => ⟨h.addsNothing, h.notReversed⟩⟩

/-- An approval without a review. -/
theorem ApprovalGood.autoApprove_iff (hgood : ApprovalGood s) (t : TransactionId) (amount : ℚ)
    (requestedBy : String) (rule : Option (ApprovalRuleId × ApprovalRule)) :
    ParkedOut (autoApprove s t amount requestedBy rule) ↔
      PostsQuietly s.ledger t ∧ KeepsRows s t := by
  have hout := hgood.parkedOut
  rw [← postsQuietly_iff t hout.caches hout.reversed]
  constructor
  · intro h
    refine ⟨⟨h.caches, h.reversed⟩, fun hbefore hafter key hnot hopen => ?_⟩
    exact (rowMatches_posted_iff (hout.rows key hnot hopen) hbefore
      ((isActiveId_posted ..).trans hafter)).mp (h.rows key hnot hopen)
  · rintro ⟨⟨hcaches, hreversed⟩, hrows⟩
    refine ⟨hcaches, fun key hnot hopen => ?_, ?_, hreversed⟩
    · have hmatches := hout.rows key hnot hopen
      show RowMatches (setStatus s.ledger t .POSTED) key
      by_cases hchange : isActiveId s.ledger t = false ∧ countsPosted s.ledger t = true
      · exact (rowMatches_posted_iff hmatches hchange.1
          ((isActiveId_posted ..).trans hchange.2)).mpr (hrows hchange.1 hchange.2 key hnot hopen)
      · refine rowMatches_setStatus hmatches (.inr ?_)
        by_contra hne
        exact hchange ((posted_changes_iff _ _).mp hne)
    · intro k r request row hlatest hstatus hrow hk
      rcases isLatest_inserted hgood.requestsBelow rfl hlatest with ⟨-, rfl⟩ | ⟨hne, hold⟩
      · exact hstatus rfl
      · obtain ⟨-, hrow⟩ := (posted_setStatus hrow hk).resolve_left fun h => hne h.1
        exact hout.parked k r request row hold hstatus hrow hk

theorem reviewed_transactionId (request : ApprovalRequest) (decision : ApprovalDecision)
    (reviewedBy : String) (notes : Option String) :
    (request.reviewed decision reviewedBy notes).transactionId = request.transactionId := rfl

/-- What a review does. -/
theorem reviewApproval_eq_ok {r : ApprovalRequestId} {decision : ApprovalDecision}
    {reviewedBy : String} {notes : Option String} :
    reviewApproval s r decision reviewedBy notes = .ok s' ↔
      ∃ request, s.requests.get? r = some request ∧ request.status = .PENDING ∧
        s' = match decision with
          | .REJECT => { s with
              requests := s.requests.set r (request.reviewed .REJECT reviewedBy notes) }
          | .APPROVE => { s with
              requests := s.requests.set r (request.reviewed .APPROVE reviewedBy notes)
              ledger := setStatus s.ledger request.transactionId .POSTED
              outstanding := s.outstanding ++ transactionKeys s.ledger request.transactionId } := by
  unfold reviewApproval
  simp only [bind_eq_ok, orThrow_eq_ok, require_eq_ok]
  constructor
  · rintro ⟨request, hget, -, hpending, h⟩
    cases decision with
    | APPROVE => exact ⟨request, hget, hpending, (Except.ok.inj h).symm⟩
    | REJECT => exact ⟨request, hget, hpending, (Except.ok.inj h).symm⟩
  · rintro ⟨request, hget, hpending, rfl⟩
    refine ⟨request, hget, (), hpending, ?_⟩
    cases decision with
    | APPROVE => rfl
    | REJECT => rfl

/-- A rejection. -/
theorem ApprovalGood.rejected (hgood : ApprovalGood s) {r : ApprovalRequestId}
    {request : ApprovalRequest} (hget : s.requests.get? r = some request)
    (hpending : request.status = .PENDING) (reviewedBy : String) (notes : Option String) :
    ParkedOut { s with
      requests := s.requests.set r (request.reviewed .REJECT reviewedBy notes) } := by
  have hout := hgood.parkedOut
  refine ⟨hout.caches, hout.rows, ?_, hout.reversed⟩
  intro t r' request' row hlatest hstatus hrow
  rcases isLatest_reviewed (reviewed_transactionId ..) hget rfl hlatest with
    ⟨-, -, hold⟩ | ⟨-, hold⟩
  · -- it was the latest before, and not approved then either
    exact hout.parked t r request row hold (by simp [hpending]) hrow
  · exact hout.parked t r' request' row hold hstatus hrow

/-- An approval. -/
theorem ApprovalGood.approved_iff (hgood : ApprovalGood s) {r : ApprovalRequestId}
    {request : ApprovalRequest} (hget : s.requests.get? r = some request) (reviewedBy : String)
    (notes : Option String) :
    ParkedOut { s with
      requests := s.requests.set r (request.reviewed .APPROVE reviewedBy notes)
      ledger := setStatus s.ledger request.transactionId .POSTED
      outstanding := s.outstanding ++ transactionKeys s.ledger request.transactionId } ↔
    KeepsParkedOut s (.review r .APPROVE reviewedBy notes) := by
  have hout := hgood.parkedOut
  have hquiet := postsQuietly_iff request.transactionId hout.caches hout.reversed
  constructor
  · intro h request₁ hget₁
    obtain rfl : request = request₁ := Option.some.inj (hget.symm.trans hget₁)
    refine ⟨hquiet.mp ⟨h.caches, h.reversed⟩, fun hsome r' request' hlatest => ?_⟩
    obtain ⟨row, hrow⟩ := Option.isSome_iff_exists.mp hsome
    have hposted : (setStatus s.ledger request.transactionId .POSTED).transactions.get?
        request.transactionId = some { row with status := .POSTED } := by
      rw [setStatus_get?, if_pos rfl, hrow]
      rfl
    have hrequests : ({ s with
        requests := s.requests.set r (request.reviewed .APPROVE reviewedBy notes)
        ledger := setStatus s.ledger request.transactionId .POSTED
        outstanding := s.outstanding ++ transactionKeys s.ledger request.transactionId } :
          ApprovalDb).requests =
        s.requests.set r (request.reviewed .APPROVE reviewedBy notes) := rfl
    by_contra hnot
    obtain ⟨hother, hstatus⟩ := not_or.mp hnot
    have hafter := hlatest.reviewed (reviewed_transactionId ..) hget hrequests
    rw [if_neg hother] at hafter
    exact h.parked _ _ _ _ hafter hstatus hposted rfl
  · intro hkeeps
    obtain ⟨hposts, hlater⟩ := hkeeps request hget
    obtain ⟨hcaches, hreversed⟩ := hquiet.mpr hposts
    refine ⟨hcaches, fun key hnot hopen => ?_, ?_, hreversed⟩
    · obtain ⟨hold, hkey⟩ := not_or.mp (mt List.mem_append.mpr hnot)
      exact rowMatches_setStatus (hout.rows key hold hopen) (.inl hkey)
    · intro t r' request' row hlatest hstatus hrow hk
      rcases isLatest_reviewed (reviewed_transactionId ..) hget rfl hlatest with
        ⟨-, rfl, -⟩ | ⟨hne, hold⟩
      · exact hstatus rfl
      · rcases posted_setStatus hrow hk with ⟨rfl, -⟩ | ⟨-, hrow'⟩
        · obtain ⟨old, holdrow, -⟩ := setStatus_get?_cases _ _ _ hrow
          rcases hlater (by rw [holdrow]; rfl) r' request' hold with heq | happroved
          · exact hne heq
          · exact hstatus happroved
        · exact hout.parked t r' request' row hold hstatus hrow' hk

/-- A step keeps the journals where they count exactly when it meets its condition. -/
theorem ApprovalStep.parkedOut_iff {action : ApprovalAction} (hgood : ApprovalGood s)
    (h : ApprovalStep s action s') : ParkedOut s' ↔ KeepsParkedOut s action := by
  cases action with
  | call call =>
    obtain ⟨out, hout, hs'⟩ := h
    exact hgood.call_iff (LedgerCall.effect hgood.wellFormed.idsBelow _ hout) hs'
  | changeRules rules =>
    cases h
    have hout := hgood.parkedOut
    refine iff_of_true ⟨hout.caches, hout.rows, ?_, hout.reversed⟩ trivial
    exact fun t r request row hlatest => hout.parked t r request row (hlatest.congr rfl)
  | submit t amount requestedBy =>
    obtain ⟨-, rfl⟩ := h
    show _ ↔ if Parks s amount then _ else _
    by_cases hparks : Parks s amount
    · obtain ⟨ruleId, heq⟩ := submitForApproval_parks t requestedBy hparks
      rw [heq, if_pos hparks]
      exact hgood.park_iff t amount requestedBy ruleId
    · obtain ⟨rule, heq⟩ := submitForApproval_posts t requestedBy hparks
      rw [heq, if_neg hparks]
      exact hgood.autoApprove_iff t amount requestedBy rule
  | review r decision reviewedBy notes =>
    obtain ⟨request, hget, hpending, rfl⟩ := reviewApproval_eq_ok.mp h
    cases decision with
    | APPROVE => exact hgood.approved_iff hget reviewedBy notes
    | REJECT => exact iff_of_true (hgood.rejected hget hpending reviewedBy notes) trivial
  | rebuild key =>
    obtain ⟨-, rfl⟩ := h
    exact iff_of_true (hgood.rebuilt key) trivial

/-- Posting again keeps the ledger well formed when no reversed journal is posted by it. -/
theorem wellFormed_posted {db : LedgerDb} (hwf : WellFormed db) {t : TransactionId}
    (hreversed : ∀ k row, (setStatus db t .POSTED).transactions.get? k = some row →
      row.isReversed = true → row.status ≠ .POSTED) : WellFormed (setStatus db t .POSTED) :=
  hwf.setStatus fun _ => (reversed_posted_iff db t fun _ _ hrow hrev =>
    not_reversed_of_wellFormed hwf hrow hrev).mp hreversed

theorem wellFormed_draft {db : LedgerDb} (hwf : WellFormed db) (t : TransactionId) :
    WellFormed (setStatus db t .DRAFT) :=
  hwf.setStatus fun h => nomatch h

theorem ApprovalGood.inserted (hgood : ApprovalGood s) {added : ApprovalRequest}
    (hwf : WellFormed s'.ledger) (hout : ParkedOut s') (hnext : s'.nextRequest = s.nextRequest + 1)
    (hrequests : s'.requests = s.requests.set s.nextRequest added)
    (hids : s'.ledger.nextId = s.ledger.nextId) (hadded : added.transactionId < s.ledger.nextId) :
    ApprovalGood s' where
  wellFormed := hwf
  parkedOut := hout
  requestsBelow := by
    intro r request hget
    rw [hrequests, OrderedMap.get?_set] at hget
    rw [hnext]
    split at hget
    · rename_i hr
      rw [hr]
      exact Nat.lt_succ_self _
    · exact Nat.lt_succ_of_lt (hgood.requestsBelow r request hget)
  submittedBelow := by
    intro r request hget
    rw [hrequests, OrderedMap.get?_set] at hget
    rw [hids]
    split at hget
    · cases hget
      exact hadded
    · exact hgood.submittedBelow r request hget

theorem ApprovalGood.reviewed (hgood : ApprovalGood s) {r : ApprovalRequestId}
    {request reviewed : ApprovalRequest} (hget : s.requests.get? r = some request)
    (hsame : reviewed.transactionId = request.transactionId) (hwf : WellFormed s'.ledger)
    (hout : ParkedOut s') (hnext : s'.nextRequest = s.nextRequest)
    (hrequests : s'.requests = s.requests.set r reviewed)
    (hids : s'.ledger.nextId = s.ledger.nextId) : ApprovalGood s' where
  wellFormed := hwf
  parkedOut := hout
  requestsBelow := by
    intro k request' hk
    rw [hnext]
    rw [hrequests, OrderedMap.get?_set] at hk
    split at hk
    · rename_i hkr
      exact hkr ▸ hgood.requestsBelow r request hget
    · exact hgood.requestsBelow k request' hk
  submittedBelow := by
    intro k request' hk
    rw [hids]
    rw [hrequests, OrderedMap.get?_set] at hk
    split at hk
    · cases hk
      exact hsame ▸ hgood.submittedBelow r request hget
    · exact hgood.submittedBelow k request' hk

theorem ApprovalStep.good {action : ApprovalAction} (hgood : ApprovalGood s)
    (h : ApprovalStep s action s') (hkeeps : KeepsParkedOut s action) : ApprovalGood s' := by
  have hout := (h.parkedOut_iff hgood).mpr hkeeps
  have hwf := hgood.wellFormed
  cases action with
  | call call =>
    obtain ⟨out, hcall, rfl⟩ := h
    have heffect := LedgerCall.effect hwf.idsBelow _ hcall
    exact ⟨heffect.wellFormed hwf, hout, hgood.requestsBelow, fun r request hget =>
      lt_of_lt_of_le (hgood.submittedBelow r request hget) heffect.nextId_le⟩
  | changeRules rules =>
    cases h
    exact ⟨hwf, hout, hgood.requestsBelow, hgood.submittedBelow⟩
  | submit t amount requestedBy =>
    obtain ⟨hid, rfl⟩ := h
    by_cases hparks : Parks s amount
    · obtain ⟨ruleId, heq⟩ := submitForApproval_parks t requestedBy hparks
      rw [heq] at hout ⊢
      exact hgood.inserted (wellFormed_draft hwf t) hout rfl rfl rfl hid
    · obtain ⟨rule, heq⟩ := submitForApproval_posts t requestedBy hparks
      rw [heq] at hout ⊢
      exact hgood.inserted (wellFormed_posted hwf hout.reversed) hout rfl rfl rfl hid
  | review r decision reviewedBy notes =>
    obtain ⟨request, hget, -, rfl⟩ := reviewApproval_eq_ok.mp h
    cases decision with
    | APPROVE =>
      exact hgood.reviewed hget (reviewed_transactionId ..) (wellFormed_posted hwf hout.reversed)
        hout rfl rfl rfl
    | REJECT => exact hgood.reviewed hget (reviewed_transactionId ..) hwf hout rfl rfl rfl
  | rebuild key =>
    obtain ⟨-, rfl⟩ := h
    obtain ⟨b, hb⟩ := rebuildSingleAccountPeriod_eq s.ledger key
    have hnextId : (rebuildSingleAccountPeriod s.ledger key).nextId = s.ledger.nextId := by rw [hb]
    refine ⟨?_, hout, hgood.requestsBelow, fun r request hget => ?_⟩
    · exact hwf.congr (by rw [hb]) (by rw [hb]) (by rw [hb]) hnextId
    · exact hnextId ▸ hgood.submittedBelow r request hget

/-- A request that is decided. -/
structure Decided (r : ApprovalRequestId) (request : ApprovalRequest) (s : ApprovalDb) : Prop where
  get : s.requests.get? r = some request
  below : r < s.nextRequest
  decided : request.status ≠ .PENDING

theorem Decided.inserted {r : ApprovalRequestId} {request added : ApprovalRequest}
    (h : Decided r request s) (hrequests : s'.requests = s.requests.set s.nextRequest added)
    (hnext : s'.nextRequest = s.nextRequest + 1) : Decided r request s' := by
  refine ⟨?_, hnext ▸ Nat.lt_succ_of_lt h.below, h.decided⟩
  rw [hrequests, OrderedMap.get?_set_of_ne h.below.ne, h.get]

/-- It stays as it is. -/
theorem Decided.step {r : ApprovalRequestId} {request : ApprovalRequest}
    {action : ApprovalAction} (h : Decided r request s) (hstep : ApprovalStep s action s') :
    Decided r request s' := by
  cases action with
  | call call =>
    obtain ⟨out, -, rfl⟩ := hstep
    exact ⟨h.get, h.below, h.decided⟩
  | changeRules rules =>
    cases hstep
    exact ⟨h.get, h.below, h.decided⟩
  | submit t amount requestedBy =>
    obtain ⟨-, rfl⟩ := hstep
    by_cases hparks : Parks s amount
    · obtain ⟨ruleId, heq⟩ := submitForApproval_parks t requestedBy hparks
      rw [heq]
      exact h.inserted rfl rfl
    · obtain ⟨rule, heq⟩ := submitForApproval_posts t requestedBy hparks
      rw [heq]
      exact h.inserted rfl rfl
  | review k decision reviewedBy notes =>
    obtain ⟨other, hget, hpending, rfl⟩ := reviewApproval_eq_ok.mp hstep
    have hne : r ≠ k := by
      rintro rfl
      have heq : request = other := Option.some.inj (h.get.symm.trans hget)
      exact h.decided (heq ▸ hpending)
    cases decision with
    | APPROVE => exact ⟨(OrderedMap.get?_set_of_ne hne ..).trans h.get, h.below, h.decided⟩
    | REJECT => exact ⟨(OrderedMap.get?_set_of_ne hne ..).trans h.get, h.below, h.decided⟩
  | rebuild key =>
    obtain ⟨-, rfl⟩ := hstep
    exact ⟨h.get, h.below, h.decided⟩

/-- A journal that was submitted has a latest request. -/
theorem exists_isLatest (hgood : ApprovalGood s) {r : ApprovalRequestId}
    {request : ApprovalRequest} (hget : s.requests.get? r = some request) :
    ∃ r' request', IsLatest s request.transactionId r' request' := by
  classical
  let p : ApprovalRequestId → Prop := fun k =>
    ∃ request', s.requests.get? k = some request' ∧ request'.transactionId = request.transactionId
  have hbelow : ∀ k, p k → k ≤ s.nextRequest := fun k ⟨request', hk, _⟩ =>
    (hgood.requestsBelow k request' hk).le
  have hr : p r := ⟨request, hget, rfl⟩
  obtain ⟨request', hget', htransaction⟩ := Nat.findGreatest_spec (hbelow r hr) hr
  exact ⟨Nat.findGreatest p s.nextRequest, request', hget', htransaction, fun k other hk ht =>
    Nat.le_findGreatest (hbelow k ⟨other, hk, ht⟩) ⟨other, hk, ht⟩⟩

end Steps

/-! ## Runs -/

/-- A ledger without journals and requests. -/
theorem EmptyLedger.approvalGood {s : ApprovalDb} (h : EmptyLedger s.ledger)
    (hnone : s.requests = OrderedMap.empty) : ApprovalGood s where
  wellFormed := h.wellFormed
  parkedOut := by
    refine ⟨h.cacheGood.cacheMatches, fun key _ _ => h.rowMatches key, ?_, ?_⟩
    · intro t r request row hlatest
      have hget := hlatest.get
      rw [hnone] at hget
      cases hget
    · exact fun _ _ => not_reversed_of_wellFormed h.wellFormed
  requestsBelow := by
    intro r request hget
    rw [hnone] at hget
    cases hget
  submittedBelow := by
    intro r request hget
    rw [hnone] at hget
    cases hget

/-- From a ledger without journals: every journal counts where it should, in every state of a
run, exactly when every step meets its condition.  A journal whose latest request was rejected
is then posted only under a later request that is approved. -/
theorem parkedOut_of_run {s s' : ApprovalDb} {ts : List (ApprovalDb × ApprovalAction × ApprovalDb)}
    (hempty : EmptyLedger s.ledger) (hnone : s.requests = OrderedMap.empty)
    (hrun : Run ApprovalStep s ts s') :
    ((∀ t ∈ ts, ParkedOut t.2.2) ↔ ∀ t ∈ ts, KeepsParkedOut t.1 t.2.1) ∧
    ((∀ t ∈ ts, KeepsParkedOut t.1 t.2.1) → ∀ t ∈ ts, ∀ rest, Run ApprovalStep t.2.2 rest s' →
      ∀ journal r request row, IsLatest t.2.2 journal r request → request.status = .REJECTED →
        s'.ledger.transactions.get? journal = some row → row.status = .POSTED →
          ∃ r' request', r < r' ∧ IsLatest s' journal r' request' ∧
            request'.status = .APPROVED) := by
  have hstart := hempty.approvalGood hnone
  constructor
  · exact hrun.forall_iff (fun _ _ _ hs h => h.parkedOut_iff hs)
      (fun _ _ _ hs h hkeeps => h.good hs hkeeps) hstart
  · intro hkeeps t ht rest hrest journal r request row hlatest hrejected hrow hposted
    obtain ⟨hlast, hall⟩ := hrun.holds (P := ApprovalGood) (K := KeepsParkedOut)
      (fun _ _ _ hs h hk => h.good hs hk) hkeeps hstart
    have hdecided : Decided r request t.2.2 :=
      ⟨hlatest.get, (hall t ht).2.requestsBelow r request hlatest.get, by simp [hrejected]⟩
    obtain ⟨hafter, -⟩ := hrest.invariant (P := Decided r request)
      (fun _ _ _ hs h => hs.step h) hdecided
    obtain ⟨r', request', hlatest'⟩ := exists_isLatest hlast hafter.get
    rw [hlatest.transaction] at hlatest'
    have happroved : request'.status = .APPROVED := by
      by_contra hnot
      exact hlast.parkedOut.parked journal r' request' row hlatest' hnot hrow hposted
    refine ⟨r', request', lt_of_le_of_ne ?_ ?_, hlatest', happroved⟩
    · exact hlatest'.last r request hafter.get hlatest.transaction
    · rintro rfl
      have heq : request = request' := Option.some.inj (hafter.get.symm.trans hlatest'.get)
      rw [← heq, hrejected] at happroved
      cases happroved

/-! ## Rent posted and submitted -/

/-- The rules: one without a maximum. -/
def allAmounts (autoApprove : Bool) : OrderedMap ApprovalRuleId ApprovalRule :=
  OrderedMap.empty.set 1
    { name := "All journals"
      minAmount := 0
      maxAmount := none
      requiredRole := "ADMIN"
      autoApprove := autoApprove
      isActive := true }

/-- The empty books under a rule. -/
def approvalBooks (autoApprove : Bool) : ApprovalDb where
  ledger := books
  rules := allAmounts autoApprove
  requests := OrderedMap.empty
  nextRequest := 1
  outstanding := []

def rentKeys : List PeriodKey := [⟨1, 2026, 1⟩, ⟨2, 2026, 1⟩]

/-- The rent is posted. -/
def rentPosted (autoApprove : Bool) : ApprovalDb :=
  { approvalBooks autoApprove with
    ledger := booksWithRent
    outstanding := rentKeys }

theorem rentPosted_step (autoApprove : Bool) :
    ApprovalStep (approvalBooks autoApprove) (.call rentCall) (rentPosted autoApprove) := by
  have hdb : (rentCall.run books).map (·.db) = .ok booksWithRent := rentCall_step
  have hjobs : (rentCall.run books).map (·.pendingRebuildJobs) = .ok rentKeys := by
    decide +kernel
  obtain ⟨out, hout, hrent⟩ := map_eq_ok hdb
  refine ⟨out, hout, ?_⟩
  rw [hout] at hjobs
  have hjobs : out.pendingRebuildJobs = rentKeys := Except.ok.inj hjobs
  rw [hrent, hjobs]
  rfl

/-- It is submitted under a rule that approves everything. -/
def rentApproved : ApprovalDb := submitForApproval (rentPosted true) 10 100 "clerk"

/-- A journal that counts already may be approved. -/
theorem rentApproved_parkedOut : ParkedOut rentApproved := by
  have hsubmit : ApprovalStep (rentPosted true) (.submit 10 100 "clerk") rentApproved :=
    ⟨by decide +kernel, rfl⟩
  have hrun : Run ApprovalStep (approvalBooks true)
      [(approvalBooks true, .call rentCall, rentPosted true),
        (rentPosted true, .submit 10 100 "clerk", rentApproved)] rentApproved :=
    .cons (rentPosted_step true) (.cons hsubmit (.nil _))
  refine (parkedOut_of_run books_empty rfl hrun).1.mpr ?_
    (rentPosted true, .submit 10 100 "clerk", rentApproved)
    (List.mem_cons_of_mem _ List.mem_cons_self)
  intro t ht
  simp only [List.mem_cons, List.not_mem_nil, or_false] at ht
  rcases ht with rfl | rfl
  · intro _ a row hrow
    have hlines : ∀ l ∈ (rentJournal 100 january "rent" 7).lines,
        l.debitAmount = (Numeric.ofRat l.debitAmount : Amount).toRat ∧
          l.creditAmount = (Numeric.ofRat l.creditAmount : Amount).toRat := by
      decide +kernel
    refine .inl ⟨?_, fun _ => ?_⟩
    · exact applyLines_sixDecimals (fun line hline => ⟨_, _, hlines line hline⟩) _
    · have hdrift : reversalDrift books a row.normalBalance = 0 := by
        simp [reversalDrift, postedBalance, netActiveBalance, balanceOver, sumEntries,
          books_empty.entries]
      show |(reversalDrift books a row.normalBalance).toRat| ≤ 1 / 100
      rw [hdrift]
      norm_num
  · have hcounts : isActiveId booksWithRent 10 = true := by decide +kernel
    have hauto : ¬ Parks (rentPosted true) 100 := by decide +kernel
    show if Parks (rentPosted true) 100 then _ else _
    rw [if_neg hauto]
    refine ⟨⟨fun row hrow => ?_, fun hnot => ?_⟩, fun hnot => ?_⟩
    · obtain ⟨row', hrow', hactive⟩ := isActiveId_iff.mp hcounts
      have heq : row' = row := Option.some.inj (hrow'.symm.trans hrow)
      exact heq ▸ (isNetActive_iff.mp hactive).2.1
    · exact absurd (hcounts.symm.trans hnot) (by decide)
    · exact absurd (hcounts.symm.trans hnot) (by decide)

/-- It is submitted under a rule that wants a review, and its rebuilds are run. -/
def rentParked : ApprovalDb := submitForApproval (rentPosted false) 10 100 "clerk"

def runRebuild (s : ApprovalDb) (key : PeriodKey) : ApprovalDb :=
  { s with
    ledger := rebuildSingleAccountPeriod s.ledger key
    outstanding := s.outstanding.erase key }

/-- The parked rent is still in the balance of its account. -/
theorem parked_rent_counts :
    ¬ ∀ (s s' : ApprovalDb) (ts : List (ApprovalDb × ApprovalAction × ApprovalDb)),
        EmptyLedger s.ledger → s.requests = OrderedMap.empty → Run ApprovalStep s ts s' →
          s'.outstanding = [] → ParkedOut s' := by
  intro h
  have hsubmit : ApprovalStep (rentPosted false) (.submit 10 100 "clerk") rentParked :=
    ⟨by decide +kernel, rfl⟩
  let s₁ := runRebuild rentParked ⟨1, 2026, 1⟩
  let s₂ := runRebuild s₁ ⟨2, 2026, 1⟩
  let s₃ := runRebuild s₂ ⟨1, 2026, 1⟩
  let s₄ := runRebuild s₃ ⟨2, 2026, 1⟩
  have h₁ : ApprovalStep rentParked (.rebuild ⟨1, 2026, 1⟩) s₁ := ⟨by decide +kernel, rfl⟩
  have h₂ : ApprovalStep s₁ (.rebuild ⟨2, 2026, 1⟩) s₂ := ⟨by decide +kernel, rfl⟩
  have h₃ : ApprovalStep s₂ (.rebuild ⟨1, 2026, 1⟩) s₃ := ⟨by decide +kernel, rfl⟩
  have h₄ : ApprovalStep s₃ (.rebuild ⟨2, 2026, 1⟩) s₄ := ⟨by decide +kernel, rfl⟩
  have hdrained : s₄.outstanding = [] := by decide +kernel
  have hwrong : ¬ CacheMatches s₄.ledger := by decide +kernel
  exact hwrong (h (approvalBooks false) s₄ _ books_empty rfl (.cons (rentPosted_step false)
    (.cons hsubmit (.cons h₁ (.cons h₂ (.cons h₃ (.cons h₄ (.nil _))))))) hdrained).caches

end SmartErpPos.Ledger
