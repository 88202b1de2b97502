/-
  Ledger/ProjectionOutbox.lean --- the outbox of the period balances.

  Sources: `pollAndProcessPendingEvents` of `services/periodBalanceWorker.ts`,
  `scheduleGlRebuildJobs` of `services/glPeriodRebuildService.ts`, and the two
  callers in `services/accountingCore.ts`.

  On its own transaction a posting leaves an event for every account and month it
  writes, in the same commit; and it queues a rebuild in memory.  A reversal only
  queues.  A crash between the commit and the rebuild loses the queue, so what a
  reversal changed stays unknown to the period balances.

  A poll cycle is one transaction and one step here.  How cycles and jobs interleave
  statement by statement is the subject of `Ledger/ProjectionRace.lean`.
-/
import SmartErpPos.Ledger.PeriodProjection

set_option autoImplicit false

namespace SmartErpPos.Ledger

open SmartErpPos.Lib

/-! ## Claiming -/

/-- `MAX_RETRIES`. -/
def maxRetries : ℕ := 5

/-- `BATCH_SIZE`. -/
def batchSize : ℕ := 100

/-- `LEGACY_PROCESSING_RECLAIM_SECONDS`, in milliseconds. -/
def legacyProcessingReclaim : Timestamp := 300 * 1000

/-- The condition of the claiming `SELECT`. -/
def ProjectionEventRow.isClaimable (now : Timestamp) (row : ProjectionEventRow) : Bool :=
  ((decide (row.status = .PENDING) || decide (row.status = .FAILED)) &&
    decide (row.retryCount < maxRetries)) ||
    (decide (row.status = .PROCESSING) && decide (row.createdAt < now - legacyProcessingReclaim))

/-- `ORDER BY created_at LIMIT 100 FOR UPDATE SKIP LOCKED`: the events that other cycles
hold are passed over. -/
def claimEvents (db : LedgerDb) (now : Timestamp) (locked : List ProjectionEventKey) :
    List ProjectionEventKey :=
  (((db.events.entries.filter fun e => e.2.isClaimable now && !locked.contains e.1).insertionSort
    fun a b => a.2.createdAt ≤ b.2.createdAt).take batchSize).map Prod.fst

/-! ## Groups -/

/-- The account and month of a rebuild, with the events it is for. -/
abbrev TupleGroup := PeriodKey × List ProjectionEventKey

/-- The text the groups are sorted by. -/
def PeriodKey.text (key : PeriodKey) : String :=
  toString key.accountId ++ "|" ++ toString key.fiscalYear ++ "|" ++ toString key.fiscalPeriod

def addToGroup (groups : OrderedMap PeriodKey (List ProjectionEventKey)) (ev : ProjectionEventKey) :
    OrderedMap PeriodKey (List ProjectionEventKey) :=
  match groups.get? ev.key with
  | some eventIds => groups.set ev.key (eventIds ++ [ev])
  | none => groups.set ev.key [ev]

/-- One group for each account and month, in the order of their texts. -/
def groupEvents (events : List ProjectionEventKey) : List TupleGroup :=
  (events.foldl addToGroup OrderedMap.empty).entries.insertionSort fun a b => a.1.text ≤ b.1.text

/-! ## A cycle -/

/-- `UPDATE gl_projection_events SET status = 'DONE'`. -/
def markDone (db : LedgerDb) (ids : List ProjectionEventKey) : LedgerDb :=
  { db with
    events := db.events.mapWithKey fun k row =>
      if k ∈ ids then { row with status := .DONE } else row }

/-- `UPDATE gl_projection_events SET status = 'FAILED', retry_count = retry_count + 1`. -/
def markFailed (db : LedgerDb) (ids : List ProjectionEventKey) : LedgerDb :=
  { db with
    events := db.events.mapWithKey fun k row =>
      if k ∈ ids then { row with status := .FAILED, retryCount := row.retryCount + 1 } else row }

/-- How far the groups of a cycle are rebuilt. -/
structure CycleProgress where
  db : LedgerDb
  doneIds : List ProjectionEventKey
  failedGroups : List TupleGroup

/-- One group behind a savepoint; `fails` names the rebuilds that throw. -/
def rebuildGroup (fails : PeriodKey → Bool) (p : CycleProgress) (group : TupleGroup) :
    CycleProgress :=
  if fails group.1 then { p with failedGroups := p.failedGroups ++ [group] }
  else
    { p with
      db := rebuildSingleAccountPeriod p.db group.1
      doneIds := p.doneIds ++ group.2 }

structure PollResult where
  db : LedgerDb
  claimed : ℕ
  rebuilt : ℕ
  failed : ℕ

/-- A cycle that commits.  One that does not leaves everything as it was. -/
def pollAndProcessPendingEvents (db : LedgerDb) (now : Timestamp)
    (locked : List ProjectionEventKey) (fails : PeriodKey → Bool) : PollResult :=
  let events := claimEvents db now locked
  if events = [] then ⟨db, 0, 0, 0⟩
  else
    let ordered := groupEvents events
    let p := ordered.foldl (rebuildGroup fails) ⟨db, [], []⟩
    let done := markDone p.db p.doneIds
    let marked := p.failedGroups.foldl (fun db group => markFailed db group.2) done
    ⟨marked, events.length, ordered.length - p.failedGroups.length, p.failedGroups.length⟩

/-- `scheduleGlRebuildJobs`: the jobs of a call, each account and month once. -/
def scheduleGlRebuildJobs (jobs : List PeriodKey) : List PeriodKey := jobs.eraseDups

/-! ## What a cycle does -/

variable {now : Timestamp} {events : List ProjectionEventKey} {out : PostingOutcome}
  {fails : PeriodKey → Bool}

theorem isClaimable_ne_done {row : ProjectionEventRow} (h : row.isClaimable now = true) :
    row.status ≠ .DONE := by
  intro hdone
  simp [ProjectionEventRow.isClaimable, hdone] at h

/-- A claimed event is in the table and not done, and no other cycle holds it. -/
theorem mem_claimEvents {db : LedgerDb} {locked : List ProjectionEventKey} {k : ProjectionEventKey}
    (h : k ∈ claimEvents db now locked) :
    k ∉ locked ∧ ∃ row, db.events.get? k = some row ∧ row.status ≠ .DONE := by
  unfold claimEvents at h
  obtain ⟨⟨k', row⟩, he, rfl⟩ := List.mem_map.mp h
  have hsorted := List.mem_of_mem_take he
  have hfilter := (List.perm_insertionSort _ _).mem_iff.mp hsorted
  obtain ⟨hmem, hcond⟩ := List.mem_filter.mp hfilter
  simp only [Bool.and_eq_true, Bool.not_eq_true', List.contains_eq_mem, decide_eq_false_iff_not]
    at hcond
  exact ⟨hcond.2, row, OrderedMap.get?_eq_some_iff.mpr hmem, isClaimable_ne_done hcond.1⟩

theorem addToGroup_get? (groups : OrderedMap PeriodKey (List ProjectionEventKey))
    (ev : ProjectionEventKey) (key : PeriodKey) :
    (addToGroup groups ev).get? key =
      if ev.key = key then some ((groups.get? key).getD [] ++ [ev]) else groups.get? key := by
  have hset : addToGroup groups ev = groups.set ev.key ((groups.get? ev.key).getD [] ++ [ev]) := by
    unfold addToGroup
    cases groups.get? ev.key <;> rfl
  rw [hset, OrderedMap.get?_set]
  rcases eq_or_ne ev.key key with rfl | hne
  · simp
  · rw [if_neg hne.symm, if_neg hne]

/-- An event of a key is in the group of that key. -/
theorem mem_groupEvents {k : ProjectionEventKey} {key : PeriodKey} :
    (∃ ids, (key, ids) ∈ groupEvents events ∧ k ∈ ids) ↔ k ∈ events ∧ k.key = key := by
  have hfold : ∀ (groups : OrderedMap PeriodKey (List ProjectionEventKey)),
      k ∈ ((events.foldl addToGroup groups).get? key).getD [] ↔
        k ∈ (groups.get? key).getD [] ∨ (k ∈ events ∧ k.key = key) := by
    induction events with
    | nil => simp
    | cons ev rest ih =>
      intro groups
      rw [List.foldl_cons, ih, addToGroup_get?]
      by_cases hkey : ev.key = key
      · simp only [hkey, if_true, Option.getD_some, List.mem_append, List.mem_cons,
          List.not_mem_nil, or_false]
        constructor
        · rintro ((h | rfl) | h)
          · exact .inl h
          · exact .inr ⟨.inl rfl, hkey⟩
          · exact .inr ⟨.inr h.1, h.2⟩
        · rintro (h | ⟨rfl | h, hk⟩)
          · exact .inl (.inl h)
          · exact .inl (.inr rfl)
          · exact .inr ⟨h, hk⟩
      · simp only [hkey, if_false, List.mem_cons]
        constructor
        · rintro (h | h)
          · exact .inl h
          · exact .inr ⟨.inr h.1, h.2⟩
        · rintro (h | ⟨rfl | h, hk⟩)
          · exact .inl h
          · exact absurd hk hkey
          · exact .inr ⟨h, hk⟩
  have hempty := hfold OrderedMap.empty
  simp only [OrderedMap.get?_empty, Option.getD_none, List.not_mem_nil, false_or] at hempty
  rw [← hempty]
  unfold groupEvents
  simp only [(List.perm_insertionSort _ _).mem_iff, ← OrderedMap.get?_eq_some_iff]
  cases (events.foldl addToGroup OrderedMap.empty).get? key with
  | none => simp
  | some ids => simp

/-- No group is empty. -/
theorem foldl_addToGroup_ne_nil {groups : OrderedMap PeriodKey (List ProjectionEventKey)}
    (hgroups : ∀ key ids, groups.get? key = some ids → ids ≠ []) {key : PeriodKey}
    {ids : List ProjectionEventKey} (h : (events.foldl addToGroup groups).get? key = some ids) :
    ids ≠ [] := by
  induction events generalizing groups with
  | nil => exact hgroups key ids h
  | cons ev rest ih =>
    refine ih (fun key ids hget => ?_) h
    rw [addToGroup_get?] at hget
    split at hget
    · cases hget
      simp
    · exact hgroups key ids hget

theorem exists_mem_of_mem_groupEvents {key : PeriodKey} {ids : List ProjectionEventKey}
    (h : (key, ids) ∈ groupEvents events) : ∃ k, k ∈ ids := by
  have hget := OrderedMap.get?_eq_some_iff.mpr ((List.perm_insertionSort _ _).mem_iff.mp h)
  exact List.exists_mem_of_ne_nil ids
    (foldl_addToGroup_ne_nil (fun _ _ hget => by simp at hget) hget)

/-- The groups of a cycle, rebuilt or failed. -/
theorem foldl_rebuildGroup (fails : PeriodKey → Bool) (groups : List TupleGroup)
    (p : CycleProgress) :
    groups.foldl (rebuildGroup fails) p =
      ⟨rebuildAll p.db ((groups.filter fun g => !fails g.1).map Prod.fst),
        p.doneIds ++ (groups.filter fun g => !fails g.1).flatMap Prod.snd,
        p.failedGroups ++ groups.filter fun g => fails g.1⟩ := by
  induction groups generalizing p with
  | nil => simp [rebuildAll]
  | cons group rest ih =>
    rw [List.foldl_cons, ih]
    cases hfails : fails group.1 with
    | true => simp [rebuildGroup, hfails]
    | false => simp [rebuildGroup, hfails, rebuildAll]

/-- The status of an event after the failed groups are marked. -/
theorem foldl_markFailed_status (db : LedgerDb) (groups : List TupleGroup)
    (k : ProjectionEventKey) :
    ((groups.foldl (fun db group => markFailed db group.2) db).events.get? k).map (·.status) =
      (db.events.get? k).map fun row => if ∃ g ∈ groups, k ∈ g.2 then .FAILED else row.status := by
  induction groups generalizing db with
  | nil => simp
  | cons group rest ih =>
    rw [List.foldl_cons, ih]
    simp only [markFailed, OrderedMap.get?_mapWithKey, Option.map_map]
    refine Option.map_congr fun row _ => ?_
    simp only [Function.comp_apply, List.exists_mem_cons_iff]
    by_cases hrest : ∃ g ∈ rest, k ∈ g.2
    · rw [if_pos hrest, if_pos (Or.inr hrest)]
    · by_cases hk : k ∈ group.2
      · rw [if_neg hrest, if_pos hk, if_pos (Or.inl hk)]
      · rw [if_neg hrest, if_neg hk, if_neg (not_or.mpr ⟨hk, hrest⟩)]

/-- Everything a cycle keeps. -/
structure OnlyProjects (db db' : LedgerDb) : Prop where
  transactions : db'.transactions = db.transactions
  entries : db'.entries = db.entries
  accounts : db'.accounts = db.accounts
  periods : db'.periods = db.periods
  nextId : db'.nextId = db.nextId

theorem OnlyProjects.refl (db : LedgerDb) : OnlyProjects db db := ⟨rfl, rfl, rfl, rfl, rfl⟩

theorem OnlyProjects.trans {a b c : LedgerDb} (hab : OnlyProjects a b) (hbc : OnlyProjects b c) :
    OnlyProjects a c :=
  ⟨hbc.transactions.trans hab.transactions, hbc.entries.trans hab.entries,
    hbc.accounts.trans hab.accounts, hbc.periods.trans hab.periods, hbc.nextId.trans hab.nextId⟩

section OnlyProjects

variable {db db' : LedgerDb} (h : OnlyProjects db db') (key : PeriodKey)

include h

theorem OnlyProjects.debits : periodDebits db' key = periodDebits db key :=
  periodDebits_congr h.transactions h.entries key

theorem OnlyProjects.credits : periodCredits db' key = periodCredits db key :=
  periodCredits_congr h.transactions h.entries key

theorem OnlyProjects.frozen : Frozen db' key ↔ Frozen db key := frozen_congr h.periods key

end OnlyProjects

theorem rebuildAll_onlyProjects (db : LedgerDb) (keys : List PeriodKey) :
    OnlyProjects db (rebuildAll db keys) := by
  obtain ⟨b, hb⟩ := rebuildAll_eq db keys
  rw [hb]
  exact ⟨rfl, rfl, rfl, rfl, rfl⟩

theorem rebuildSingleAccountPeriod_onlyProjects (db : LedgerDb) (key : PeriodKey) :
    OnlyProjects db (rebuildSingleAccountPeriod db key) ∧
      (rebuildSingleAccountPeriod db key).events = db.events := by
  obtain ⟨b, hb⟩ := rebuildSingleAccountPeriod_eq db key
  rw [hb]
  exact ⟨⟨rfl, rfl, rfl, rfl, rfl⟩, rfl⟩

theorem markDone_onlyProjects (db : LedgerDb) (ids : List ProjectionEventKey) :
    OnlyProjects db (markDone db ids) := ⟨rfl, rfl, rfl, rfl, rfl⟩

theorem markFailed_onlyProjects (db : LedgerDb) (ids : List ProjectionEventKey) :
    OnlyProjects db (markFailed db ids) := ⟨rfl, rfl, rfl, rfl, rfl⟩

theorem foldl_markFailed_onlyProjects (db : LedgerDb) (groups : List TupleGroup) :
    OnlyProjects db (groups.foldl (fun db group => markFailed db group.2) db) ∧
      (groups.foldl (fun db group => markFailed db group.2) db).periodBalances =
        db.periodBalances := by
  induction groups generalizing db with
  | nil => exact ⟨.refl db, rfl⟩
  | cons group rest ih =>
    obtain ⟨honly, hrows⟩ := ih (markFailed db group.2)
    exact ⟨.trans (markFailed_onlyProjects db group.2) honly, hrows⟩

/-- What a cycle does: the rows of the claimed events are rebuilt, those that throw apart,
and the events marked accordingly. -/
structure Polled (db db' : LedgerDb) (claimed : List ProjectionEventKey)
    (fails : PeriodKey → Bool) : Prop where
  onlyProjects : OnlyProjects db db'
  row : ∀ key, db'.periodBalances.get? key =
    if (∃ k ∈ claimed, k.key = key) ∧ fails key = false ∧ ¬ Frozen db key then
      rowOfTotals (periodDebits db key) (periodCredits db key)
    else db.periodBalances.get? key
  status : ∀ k, (db'.events.get? k).map (·.status) = (db.events.get? k).map fun row =>
    if k ∈ claimed then (if fails k.key then .FAILED else .DONE) else row.status

theorem poll_polled (db : LedgerDb) (now : Timestamp) (locked : List ProjectionEventKey)
    (fails : PeriodKey → Bool) :
    Polled db (pollAndProcessPendingEvents db now locked fails).db (claimEvents db now locked)
      fails := by
  unfold pollAndProcessPendingEvents
  dsimp only
  split
  · rename_i hnone
    rw [hnone]
    exact ⟨.refl db, by simp, by simp⟩
  · clear * -
    generalize claimEvents db now locked = claimed
    rw [foldl_rebuildGroup]
    simp only [List.nil_append]
    let keys := ((groupEvents claimed).filter fun g => !fails g.1).map Prod.fst
    have hkeys : ∀ key, key ∈ keys ↔ (∃ k ∈ claimed, k.key = key) ∧ fails key = false := by
      intro key
      simp only [keys, List.mem_map, List.mem_filter, Bool.not_eq_true', Prod.exists]
      constructor
      · rintro ⟨_, ids, ⟨hgroup, hfails⟩, rfl⟩
        obtain ⟨k, hk⟩ := exists_mem_of_mem_groupEvents hgroup
        exact ⟨⟨k, mem_groupEvents.mp ⟨ids, hgroup, hk⟩⟩, hfails⟩
      · rintro ⟨⟨k, hk⟩, hfails⟩
        obtain ⟨ids, hgroup, -⟩ := mem_groupEvents.mpr hk
        exact ⟨key, ids, ⟨hgroup, hfails⟩, rfl⟩
    have hdone : ∀ k, (k ∈ ((groupEvents claimed).filter fun g => !fails g.1).flatMap Prod.snd) ↔
        k ∈ claimed ∧ fails k.key = false := by
      intro k
      simp only [List.mem_flatMap, List.mem_filter, Bool.not_eq_true', Prod.exists]
      constructor
      · rintro ⟨key, ids, ⟨hgroup, hfails⟩, hk⟩
        obtain ⟨hclaimed, rfl⟩ := mem_groupEvents.mp ⟨ids, hgroup, hk⟩
        exact ⟨hclaimed, hfails⟩
      · rintro ⟨hclaimed, hfails⟩
        obtain ⟨ids, hgroup, hk⟩ := mem_groupEvents.mpr ⟨hclaimed, rfl⟩
        exact ⟨k.key, ids, ⟨hgroup, hfails⟩, hk⟩
    have hfailed : ∀ k, (∃ g ∈ (groupEvents claimed).filter fun g => fails g.1, k ∈ g.2) ↔
        k ∈ claimed ∧ fails k.key = true := by
      intro k
      simp only [List.mem_filter, Prod.exists]
      constructor
      · rintro ⟨key, ids, ⟨hgroup, hfails⟩, hk⟩
        obtain ⟨hclaimed, rfl⟩ := mem_groupEvents.mp ⟨ids, hgroup, hk⟩
        exact ⟨hclaimed, hfails⟩
      · rintro ⟨hclaimed, hfails⟩
        obtain ⟨ids, hgroup, hk⟩ := mem_groupEvents.mpr ⟨hclaimed, rfl⟩
        exact ⟨k.key, ids, ⟨hgroup, hfails⟩, hk⟩
    obtain ⟨honly, hrows⟩ := foldl_markFailed_onlyProjects (markDone (rebuildAll db keys)
      (((groupEvents claimed).filter fun g => !fails g.1).flatMap Prod.snd))
      ((groupEvents claimed).filter fun g => fails g.1)
    obtain ⟨b, hb⟩ := rebuildAll_eq db keys
    refine ⟨.trans (rebuildAll_onlyProjects db keys) (.trans (markDone_onlyProjects _ _) honly), ?_, ?_⟩
    · intro key
      rw [hrows]
      show (rebuildAll db keys).periodBalances.get? key = _
      rw [rebuildAll_get?]
      simp only [hkeys, and_assoc]
    · intro k
      rw [foldl_markFailed_status]
      have hevents : (rebuildAll db keys).events = db.events := by rw [hb]
      show (((rebuildAll db keys).events.mapWithKey _).get? k).map _ = _
      rw [hevents, OrderedMap.get?_mapWithKey, Option.map_map]
      refine Option.map_congr fun row _ => ?_
      simp only [Function.comp_apply, hfailed, hdone]
      by_cases hclaimed : k ∈ claimed
      · cases hfails : fails k.key <;> simp [hclaimed]
      · simp [hclaimed]

/-! ## The system -/

structure OutboxState where
  db : LedgerDb
  /-- The rebuilds the process has queued in memory. -/
  jobs : List PeriodKey

inductive OutboxAction where
  | call (call : LedgerCall)
  | poll (now : Timestamp) (locked : List ProjectionEventKey) (fails : PeriodKey → Bool)
  | runJob (key : PeriodKey) (fails : Bool)
  | crash
  | lock (period : PeriodId)
  | close (period : PeriodId)

/-- A committed call on its own transaction, a cycle, a queued rebuild, a crash, or a month
that is locked or closed.  A failed rebuild is logged and dropped. -/
def OutboxStep (s : OutboxState) (action : OutboxAction) (s' : OutboxState) : Prop :=
  match action with
  | .call call => call.path = .ownTransaction ∧ ∃ out, call.run s.db = .ok out ∧
      s' = ⟨out.db, s.jobs ++ scheduleGlRebuildJobs out.pendingRebuildJobs⟩
  | .poll now locked fails =>
    s' = { s with db := (pollAndProcessPendingEvents s.db now locked fails).db }
  | .runJob key fails => key ∈ s.jobs ∧
      s' = ⟨if fails then s.db else rebuildSingleAccountPeriod s.db key, s.jobs.erase key⟩
  | .crash => s' = { s with jobs := [] }
  | .lock period => ∃ db', lockPeriod s.db period = .ok db' ∧ s' = { s with db := db' }
  | .close period => ∃ db', closePeriod s.db period = .ok db' ∧ s' = { s with db := db' }

/-- The row of an open month that is not what the ledger says. -/
def Stale (db : LedgerDb) (key : PeriodKey) : Prop := ¬ Frozen db key ∧ ¬ RowMatches db key

/-- An event of the row is not done. -/
def Awaited (db : LedgerDb) (key : PeriodKey) : Prop :=
  ∃ k row, db.events.get? k = some row ∧ k.key = key ∧ row.status ≠ .DONE

/-- A wrong row that nothing is left to repair. -/
structure Lost (s : OutboxState) (key : PeriodKey) : Prop where
  stale : Stale s.db key
  notAwaited : ¬ Awaited s.db key
  notQueued : key ∉ s.jobs

/-- No event and no job is left. -/
structure Drained (s : OutboxState) : Prop where
  done : ∀ k row, s.db.events.get? k = some row → row.status = .DONE
  noJobs : s.jobs = []

/-- A crash or a failed rebuild drops no job that a wrong row still needs. -/
def KeepsJobs (s : OutboxState) : OutboxAction → Prop
  | .crash => ∀ key ∈ s.jobs, Stale s.db key → Awaited s.db key
  | .runJob key true => Stale s.db key → Awaited s.db key ∨ key ∈ s.jobs.erase key
  | _ => True

/-! ## The invariant -/

/-- Events are about transactions that exist, or existed. -/
structure OutboxGood (db : LedgerDb) : Prop where
  wellFormed : WellFormed db
  eventsBelow : ∀ k row, db.events.get? k = some row → k.transactionId < db.nextId

/-- The row keeps its value and its totals. -/
structure SameRow (db db' : LedgerDb) (key : PeriodKey) : Prop where
  row : db'.periodBalances.get? key = db.periodBalances.get? key
  debits : periodDebits db' key = periodDebits db key
  credits : periodCredits db' key = periodCredits db key

theorem SameRow.rowMatches_iff {db db' : LedgerDb} {key : PeriodKey} (h : SameRow db db' key) :
    RowMatches db' key ↔ RowMatches db key := by
  unfold RowMatches
  rw [h.row, h.debits, h.credits]

theorem JournalPosted.ownTransaction_row {ctx : PostingContext} {db : LedgerDb}
    {request : JournalEntryRequest} {header : TransactionRow} {written : List LedgerEntry}
    {mid : LedgerDb} (hpath : ctx.path = .ownTransaction)
    (h : JournalPosted ctx db request out header written mid) :
    out.db.periodBalances = db.periodBalances := by
  rw [h.db_eq, finishPosting_periodBalances, hpath]
  exact h.lines.periodBalances

theorem ReversalPosted.ownTransaction_row {ctx : PostingContext} {db : LedgerDb}
    {request : ReversalRequest} {original header : TransactionRow} {written : List LedgerEntry}
    {mid : LedgerDb} (hpath : ctx.path = .ownTransaction)
    (h : ReversalPosted ctx db request out original header written mid) :
    out.db.periodBalances = db.periodBalances := by
  rw [h.db_eq, finishPosting_periodBalances, hpath]
  exact h.lines.periodBalances

/-- A call on its own transaction queues every row it touches. -/
theorem CallEffect.row_queued {db : LedgerDb} {call : LedgerCall} (hwf : WellFormed db)
    (hpath : call.path = .ownTransaction) (h : CallEffect db call out) (key : PeriodKey) :
    key ∈ out.pendingRebuildJobs ∨ SameRow db out.db key := by
  cases h with
  | found hdb _ _ =>
    rw [hdb]
    exact .inr ⟨rfl, rfl, rfl⟩
  | posted _ h =>
    rename_i ctx request _ _ _ _
    by_cases htouch : Touches db key (.create ctx request)
    · refine .inl ?_
      rw [h.jobs_eq, show ctx.path = .ownTransaction from hpath]
      exact h.key_mem_of_touches htouch
    · obtain ⟨hdebits, hcredits⟩ := h.periodTotals_of_not_touches hwf htouch
      exact .inr ⟨by rw [h.ownTransaction_row hpath], hdebits, hcredits⟩
  | reversed _ h =>
    rename_i ctx request _ _ _ _ _
    by_cases htouch : Touches db key (.reverse ctx request)
    · refine .inl ?_
      rw [h.jobs_eq, show ctx.path = .ownTransaction from hpath]
      exact h.key_mem_of_touches hwf htouch
    · obtain ⟨hdebits, hcredits⟩ := h.periodTotals_of_not_touches hwf htouch
      exact .inr ⟨by rw [h.ownTransaction_row hpath], hdebits, hcredits⟩

/-- A call on its own transaction queues every row it touches, and a posting leaves an event
for it; the events that were there stay. -/
theorem CallEffect.queued {db : LedgerDb} {call : LedgerCall} (hgood : OutboxGood db)
    (hpath : call.path = .ownTransaction) (h : CallEffect db call out) :
    (∀ key, key ∈ out.pendingRebuildJobs ∨ SameRow db out.db key) ∧
      (∀ key, Awaited db key → Awaited out.db key) ∧
      ∀ k row, out.db.events.get? k = some row → k.transactionId < out.db.nextId := by
  refine ⟨h.row_queued hgood.wellFormed hpath, ?_⟩
  cases h with
  | found hdb _ _ =>
    rw [hdb]
    exact ⟨fun _ h => h, hgood.eventsBelow⟩
  | posted _ h =>
    constructor
    · rintro key ⟨k, row, hrow, hk, hstatus⟩
      exact ⟨k, row, by rw [h.events, hrow]; rfl, hk, hstatus⟩
    · intro k row hrow
      rw [h.nextId_eq]
      rw [h.events] at hrow
      cases hold : db.events.get? k with
      | some old => exact Nat.lt_succ_of_lt (hgood.eventsBelow k old hold)
      | none =>
        rw [hold, Option.none_or] at hrow
        split at hrow
        · rename_i hnew
          rw [hnew.1]
          exact Nat.lt_succ_self _
        · cases hrow
  | reversed _ h =>
    constructor
    · rintro key ⟨k, row, hrow, hk, hstatus⟩
      exact ⟨k, row, by rw [h.events, hrow], hk, hstatus⟩
    · intro k row hrow
      rw [h.nextId_eq]
      rw [h.events] at hrow
      exact Nat.lt_succ_of_lt (hgood.eventsBelow k row hrow)

/-- The rows a cycle rebuilds are right; the others are as before, and so are their events. -/
theorem Polled.row_cases {db db' : LedgerDb} {claimed : List ProjectionEventKey}
    (h : Polled db db' claimed fails) (key : PeriodKey) :
    ¬ Stale db' key ∨ (SameRow db db' key ∧ (Frozen db' key ↔ Frozen db key) ∧
      ((∃ k ∈ claimed, k.key = key) → fails key = true ∨ Frozen db key)) := by
  have honly := h.onlyProjects
  have hrow := h.row key
  split at hrow
  · refine .inl fun hstale => hstale.2 ?_
    unfold RowMatches
    rw [hrow, honly.debits, honly.credits]
  · rename_i hnot
    refine .inr ⟨⟨hrow, honly.debits key, honly.credits key⟩, honly.frozen key, fun hclaimed => ?_⟩
    cases hfails : fails key with
    | true => exact .inl rfl
    | false => exact .inr (by_contra fun hopen => hnot ⟨hclaimed, hfails, hopen⟩)

theorem Polled.awaited {db db' : LedgerDb} {claimed : List ProjectionEventKey}
    (h : Polled db db' claimed fails) {key : PeriodKey}
    (hfails : (∃ k ∈ claimed, k.key = key) → fails key = true) (hawaited : Awaited db key) :
    Awaited db' key := by
  obtain ⟨k, row, hrow, rfl, hstatus⟩ := hawaited
  have hafter := h.status k
  rw [hrow, Option.map_some] at hafter
  obtain ⟨row', hrow', hstatus'⟩ := Option.map_eq_some_iff.mp hafter
  refine ⟨k, row', hrow', rfl, ?_⟩
  rw [hstatus']
  split
  · rename_i hclaimed
    rw [hfails ⟨k, hclaimed, rfl⟩]
    simp
  · exact hstatus

/-- A cycle gives no event back its status. -/
theorem Polled.not_awaited {db db' : LedgerDb} {locked : List ProjectionEventKey}
    (h : Polled db db' (claimEvents db now locked) fails) {key : PeriodKey}
    (hnot : ¬ Awaited db key) :
    ¬ Awaited db' key ∧ ¬ ∃ k ∈ claimEvents db now locked, k.key = key := by
  have hunclaimed : ¬ ∃ k ∈ claimEvents db now locked, k.key = key := by
    rintro ⟨k, hk, hkey⟩
    obtain ⟨-, row, hrow, hstatus⟩ := mem_claimEvents hk
    exact hnot ⟨k, row, hrow, hkey, hstatus⟩
  refine ⟨?_, hunclaimed⟩
  rintro ⟨k, row', hrow', hkey, hstatus'⟩
  have hafter := h.status k
  rw [hrow', Option.map_some] at hafter
  obtain ⟨row, hrow, hstatus⟩ := Option.map_eq_some_iff.mp hafter.symm
  rw [if_neg fun hk => hunclaimed ⟨k, hk, hkey⟩] at hstatus
  exact hnot ⟨k, row, hrow, hkey, by rw [hstatus]; exact hstatus'⟩

/-! ## Steps -/

theorem OnlyProjects.outboxGood {db db' : LedgerDb} (h : OnlyProjects db db')
    (hevents : ∀ k, (db'.events.get? k).isSome → (db.events.get? k).isSome)
    (hgood : OutboxGood db) : OutboxGood db' where
  wellFormed := hgood.wellFormed.congr h.transactions h.entries h.accounts h.nextId
  eventsBelow := by
    intro k row hrow
    have hsome := hevents k (by rw [hrow]; rfl)
    obtain ⟨old, hold⟩ := Option.isSome_iff_exists.mp hsome
    rw [h.nextId]
    exact hgood.eventsBelow k old hold

theorem OnlyFreezes.outboxGood {db db' : LedgerDb} (h : OnlyFreezes db db')
    (hevents : db'.events = db.events) (hgood : OutboxGood db) : OutboxGood db' where
  wellFormed := h.wellFormed hgood.wellFormed
  eventsBelow := by
    rw [hevents, h.nextId]
    exact hgood.eventsBelow

/-- A rebuilt row is right. -/
theorem not_stale_rebuilt (db : LedgerDb) (key : PeriodKey) :
    ¬ Stale (rebuildSingleAccountPeriod db key) key := by
  rintro ⟨hopen, hwrong⟩
  have honly := (rebuildSingleAccountPeriod_onlyProjects db key).1
  refine hwrong ?_
  unfold RowMatches
  rw [honly.frozen] at hopen
  rw [rebuildSingleAccountPeriod_get?, if_pos ⟨rfl, hopen⟩, honly.debits, honly.credits]

theorem stale_rebuilt_other {db : LedgerDb} {key k : PeriodKey} (hne : k ≠ key) :
    Stale (rebuildSingleAccountPeriod db key) k ↔ Stale db k := by
  have honly := (rebuildSingleAccountPeriod_onlyProjects db key).1
  unfold Stale RowMatches
  rw [honly.frozen, rebuildSingleAccountPeriod_get?, if_neg fun h => hne h.1, honly.debits,
    honly.credits]

theorem awaited_congr {db db' : LedgerDb} (h : db'.events = db.events) (key : PeriodKey) :
    Awaited db' key ↔ Awaited db key := by
  unfold Awaited
  rw [h]

/-- The rows that only locking and closing separate. -/
theorem OnlyFreezes.stale {db db' : LedgerDb} (h : OnlyFreezes db db') {key : PeriodKey}
    (hfrozen : Frozen db key → Frozen db' key) (hstale : Stale db' key) : Stale db key := by
  refine ⟨fun hf => hstale.1 (hfrozen hf), fun hmatches => hstale.2 ?_⟩
  unfold RowMatches at hmatches ⊢
  rw [h.periodBalances, hmatches, periodDebits_congr h.transactions h.entries,
    periodCredits_congr h.transactions h.entries]

variable {action : OutboxAction}

theorem OutboxStep.good {s s' : OutboxState} (hgood : OutboxGood s.db)
    (h : OutboxStep s action s') : OutboxGood s'.db := by
  cases action with
  | call call =>
    obtain ⟨hpath, out, hout, rfl⟩ := h
    have heffect := LedgerCall.effect hgood.wellFormed.idsBelow _ hout
    exact ⟨heffect.wellFormed hgood.wellFormed, (heffect.queued hgood hpath).2.2⟩
  | poll now locked fails =>
    cases h
    have hpolled := poll_polled s.db now locked fails
    refine hpolled.onlyProjects.outboxGood (fun k hsome => ?_) hgood
    have hstatus := hpolled.status k
    obtain ⟨row, hrow⟩ := Option.isSome_iff_exists.mp hsome
    rw [hrow, Option.map_some] at hstatus
    obtain ⟨old, hold, -⟩ := Option.map_eq_some_iff.mp hstatus.symm
    rw [hold]
    rfl
  | runJob key fails =>
    obtain ⟨-, rfl⟩ := h
    cases fails with
    | true => exact hgood
    | false =>
      obtain ⟨honly, hevents⟩ := rebuildSingleAccountPeriod_onlyProjects s.db key
      exact honly.outboxGood (fun k hsome => hevents ▸ hsome) hgood
  | crash =>
    cases h
    exact hgood
  | lock period =>
    obtain ⟨db', hlock, rfl⟩ := h
    obtain ⟨row, -, -, rfl⟩ := lockPeriod_eq_ok.mp hlock
    exact (lockPeriod_onlyFreezes hlock).outboxGood rfl hgood
  | close period =>
    obtain ⟨db', hclose, rfl⟩ := h
    obtain ⟨row, -, -, rfl⟩ := closePeriod_eq_ok.mp hclose
    exact (closePeriod_onlyFreezes hclose).outboxGood rfl hgood

/-- No wrong row is lost. -/
def RowsCovered (s : OutboxState) : Prop := ∀ key, ¬ Lost s key

theorem RowsCovered.cases {s : OutboxState} (h : RowsCovered s) {key : PeriodKey}
    (hstale : Stale s.db key) : Awaited s.db key ∨ key ∈ s.jobs := by
  by_contra hnot
  obtain ⟨hawaited, hqueued⟩ := not_or.mp hnot
  exact h key ⟨hstale, hawaited, hqueued⟩

theorem OutboxStep.covered_iff {s s' : OutboxState} (hgood : OutboxGood s.db)
    (hcovered : RowsCovered s) (h : OutboxStep s action s') :
    RowsCovered s' ↔ KeepsJobs s action := by
  cases action with
  | call call =>
    obtain ⟨hpath, out, hout, rfl⟩ := h
    refine iff_of_true (fun key hlost => ?_) trivial
    have heffect := LedgerCall.effect hgood.wellFormed.idsBelow _ hout
    obtain ⟨hrows, hawaited, -⟩ := heffect.queued hgood hpath
    have hnot : key ∉ s.jobs ∧ key ∉ out.pendingRebuildJobs := by
      have := hlost.notQueued
      simpa [scheduleGlRebuildJobs, not_or] using this
    rcases hrows key with hqueued | hsame
    · exact hnot.2 hqueued
    · have hstale : Stale s.db key := by
        refine ⟨fun hf => hlost.stale.1 ((frozen_congr heffect.periods key).mpr hf), fun hm => ?_⟩
        exact hlost.stale.2 (hsame.rowMatches_iff.mpr hm)
      rcases hcovered.cases hstale with ha | hq
      · exact hlost.notAwaited (hawaited key ha)
      · exact hnot.1 hq
  | poll now locked fails =>
    cases h
    refine iff_of_true (fun key hlost => ?_) trivial
    have hpolled := poll_polled s.db now locked fails
    rcases hpolled.row_cases key with hright | ⟨hsame, hfrozen, hclaimed⟩
    · exact hright hlost.stale
    · have hopen : ¬ Frozen s.db key := fun hf => hlost.stale.1 (hfrozen.mpr hf)
      have hstale : Stale s.db key := ⟨hopen, fun hm => hlost.stale.2 (hsame.rowMatches_iff.mpr hm)⟩
      rcases hcovered.cases hstale with ha | hq
      · refine hlost.notAwaited (hpolled.awaited (fun hk => ?_) ha)
        exact (hclaimed hk).resolve_right hopen
      · exact hlost.notQueued hq
  | runJob key fails =>
    obtain ⟨-, rfl⟩ := h
    cases fails with
    | true =>
      constructor
      · intro hafter hstale
        exact hafter.cases hstale
      · intro hkeeps k hlost
        rcases eq_or_ne k key with rfl | hne
        · rcases hkeeps hlost.stale with ha | hq
          · exact hlost.notAwaited ha
          · exact hlost.notQueued hq
        · rcases hcovered.cases hlost.stale with ha | hq
          · exact hlost.notAwaited ha
          · exact hlost.notQueued ((List.mem_erase_of_ne hne).mpr hq)
    | false =>
      refine iff_of_true (fun k hlost => ?_) trivial
      have hevents := (rebuildSingleAccountPeriod_onlyProjects s.db key).2
      rcases eq_or_ne k key with rfl | hne
      · exact not_stale_rebuilt s.db k hlost.stale
      · have hstale := (stale_rebuilt_other hne).mp hlost.stale
        rcases hcovered.cases hstale with ha | hq
        · exact hlost.notAwaited ((awaited_congr hevents k).mpr ha)
        · exact hlost.notQueued ((List.mem_erase_of_ne hne).mpr hq)
  | crash =>
    cases h
    constructor
    · intro hafter key _ hstale
      exact (hafter.cases hstale).resolve_right List.not_mem_nil
    · intro hkeeps key hlost
      rcases hcovered.cases hlost.stale with ha | hq
      · exact hlost.notAwaited ha
      · exact hlost.notAwaited (hkeeps key hq hlost.stale)
  | lock period =>
    obtain ⟨db', hlock, rfl⟩ := h
    refine iff_of_true (fun key hlost => ?_) trivial
    obtain ⟨row, hrow, -, rfl⟩ := lockPeriod_eq_ok.mp hlock
    have hstale := (lockPeriod_onlyFreezes hlock).stale (frozen_of_set hrow (by decide)) hlost.stale
    exact (hcovered.cases hstale).elim hlost.notAwaited hlost.notQueued
  | close period =>
    obtain ⟨db', hclose, rfl⟩ := h
    refine iff_of_true (fun key hlost => ?_) trivial
    obtain ⟨row, hrow, -, rfl⟩ := closePeriod_eq_ok.mp hclose
    have hstale := (closePeriod_onlyFreezes hclose).stale (frozen_of_set hrow (by decide))
      hlost.stale
    exact (hcovered.cases hstale).elim hlost.notAwaited hlost.notQueued

/-- The step is a rebuild, or a crash. -/
def OutboxAction.OnlyRebuilds : OutboxAction → Prop
  | .poll .. => True
  | .runJob .. => True
  | .crash => True
  | _ => False

/-- No rebuild finds a row that is lost. -/
theorem Lost.persists {s s' : OutboxState} {key : PeriodKey} (hlost : Lost s key)
    (h : OutboxStep s action s') (honly : action.OnlyRebuilds) : Lost s' key := by
  cases action with
  | poll now locked fails =>
    cases h
    have hpolled := poll_polled s.db now locked fails
    obtain ⟨hnot, hunclaimed⟩ := hpolled.not_awaited hlost.notAwaited
    refine ⟨⟨fun hf => hlost.stale.1 ((frozen_congr hpolled.onlyProjects.periods key).mp hf), ?_⟩,
      hnot, hlost.notQueued⟩
    have hsame : SameRow s.db (pollAndProcessPendingEvents s.db now locked fails).db key :=
      ⟨by rw [hpolled.row, if_neg fun hk => hunclaimed hk.1],
        hpolled.onlyProjects.debits key, hpolled.onlyProjects.credits key⟩
    exact fun hm => hlost.stale.2 (hsame.rowMatches_iff.mp hm)
  | runJob k fails =>
    obtain ⟨hk, rfl⟩ := h
    have hne : key ≠ k := fun heq => hlost.notQueued (heq ▸ hk)
    have hnotQueued : key ∉ s.jobs.erase k := fun hmem => hlost.notQueued (List.mem_of_mem_erase hmem)
    cases fails with
    | true => exact ⟨hlost.stale, hlost.notAwaited, hnotQueued⟩
    | false =>
      have hevents := (rebuildSingleAccountPeriod_onlyProjects s.db k).2
      exact ⟨(stale_rebuilt_other hne).mpr hlost.stale,
        fun ha => hlost.notAwaited ((awaited_congr hevents key).mp ha), hnotQueued⟩
  | crash =>
    cases h
    exact ⟨hlost.stale, hlost.notAwaited, List.not_mem_nil⟩
  | call _ => exact honly.elim
  | lock _ => exact honly.elim
  | close _ => exact honly.elim

/-! ## Runs -/

theorem EmptyLedger.outboxGood {db : LedgerDb} (h : EmptyLedger db) : OutboxGood db where
  wellFormed := h.wellFormed
  eventsBelow := by
    intro k row hrow
    rw [h.events] at hrow
    cases hrow

theorem EmptyLedger.rowsCovered {db : LedgerDb} (h : EmptyLedger db) : RowsCovered ⟨db, []⟩ :=
  fun key hlost => hlost.stale.2 (h.rowMatches key)

/-- The period balances behind the outbox: when no crash and no failed rebuild drops a job
that a wrong row still needs, then every row of an open month is right once no event and no
job is left.  That condition is what keeps every wrong row covered by an event or a job; and a
wrong row that nothing covers stays wrong, whatever is rebuilt afterwards. -/
theorem periodRows_of_outbox_run {db : LedgerDb} {s : OutboxState}
    {ts : List (OutboxState × OutboxAction × OutboxState)} (hempty : EmptyLedger db)
    (hrun : Run OutboxStep ⟨db, []⟩ ts s) :
    ((∀ t ∈ ts, KeepsJobs t.1 t.2.1) → ∀ t ∈ ts, Drained t.2.2 →
      ∀ key, ¬ Frozen t.2.2.db key → RowMatches t.2.2.db key) ∧
    ((∀ t ∈ ts, RowsCovered t.2.2) ↔ ∀ t ∈ ts, KeepsJobs t.1 t.2.1) ∧
    ∀ key, Lost s key → ∀ ts' s', Run OutboxStep s ts' s' →
      (∀ t ∈ ts', t.2.1.OnlyRebuilds) → Lost s' key := by
  have hiff : (∀ t ∈ ts, RowsCovered t.2.2) ↔ ∀ t ∈ ts, KeepsJobs t.1 t.2.1 :=
    hrun.forall_iff (P := fun s => OutboxGood s.db ∧ RowsCovered s)
      (fun _ _ _ hs h => h.covered_iff hs.1 hs.2)
      (fun _ _ _ hs h hkeeps => ⟨h.good hs.1, (h.covered_iff hs.1 hs.2).mpr hkeeps⟩)
      ⟨hempty.outboxGood, hempty.rowsCovered⟩
  refine ⟨fun hkeeps t ht hdrained key hopen => ?_, hiff, ?_⟩
  · by_contra hwrong
    refine hiff.mpr hkeeps t ht key ⟨⟨hopen, hwrong⟩, ?_, ?_⟩
    · rintro ⟨k, row, hrow, -, hstatus⟩
      exact hstatus (hdrained.done k row hrow)
    · rw [hdrained.noJobs]
      exact List.not_mem_nil
  · intro key hlost ts' s' hrebuilds honly
    exact hrebuilds.ends (P := fun s => Lost s key) (K := fun _ a => a.OnlyRebuilds)
      (fun _ _ _ hl hstep ho => hl.persists hstep ho) honly hlost

/-! ## Rent posted, projected and taken back before a crash -/

instance (db : LedgerDb) (key : PeriodKey) : Decidable (Stale db key) :=
  inferInstanceAs (Decidable (_ ∧ _))

/-- No rebuild of the step throws. -/
def OutboxAction.Succeeds : OutboxAction → Prop
  | .poll _ _ fails => ∀ key, fails key = false
  | .runJob _ fails => fails = false
  | _ => True

def rentQueued : OutboxState := ⟨booksWithRent, [⟨1, 2026, 1⟩, ⟨2, 2026, 1⟩]⟩

theorem rentQueued_step : OutboxStep ⟨books, []⟩ (.call rentCall) rentQueued := by
  have hdb : (rentCall.run books).map (·.db) = .ok booksWithRent := rentCall_step
  have hjobs : (rentCall.run books).map (·.pendingRebuildJobs) =
      .ok [⟨1, 2026, 1⟩, ⟨2, 2026, 1⟩] := by decide +kernel
  obtain ⟨out, hout, hrent⟩ := map_eq_ok hdb
  refine ⟨rfl, out, hout, ?_⟩
  rw [hout] at hjobs
  have hjobs : out.pendingRebuildJobs = [⟨1, 2026, 1⟩, ⟨2, 2026, 1⟩] := Except.ok.inj hjobs
  rw [hrent, hjobs]
  rfl

/-- The cycle that takes the two events of the rent. -/
def rentPoll : OutboxAction := .poll 0 [] fun _ => false

def rentPolled : OutboxState :=
  ⟨(pollAndProcessPendingEvents booksWithRent 0 [] fun _ => false).db, rentQueued.jobs⟩

def rentProjected : OutboxState := { rentPolled with jobs := [] }

/-- A crash after the cycle costs nothing: the rows are right without the jobs. -/
theorem rentProjected_matches : EmptyLedger books ∧
    ∀ key, ¬ Frozen rentProjected.db key → RowMatches rentProjected.db key := by
  have hpoll : OutboxStep rentQueued rentPoll rentPolled := rfl
  have hcrash : OutboxStep rentPolled .crash rentProjected := rfl
  have hrun : Run OutboxStep ⟨books, []⟩ [(⟨books, []⟩, .call rentCall, rentQueued),
      (rentQueued, rentPoll, rentPolled), (rentPolled, .crash, rentProjected)] rentProjected :=
    .cons rentQueued_step (.cons hpoll (.cons hcrash (.nil _)))
  refine ⟨books_empty, (periodRows_of_outbox_run books_empty hrun).1 ?_
    (rentPolled, .crash, rentProjected) (by simp) ⟨?_, rfl⟩⟩
  · have hright : ∀ key ∈ rentPolled.jobs, ¬ Stale rentPolled.db key := by decide +kernel
    intro t ht
    simp only [List.mem_cons, List.not_mem_nil, or_false] at ht
    rcases ht with rfl | rfl | rfl
    · trivial
    · trivial
    · exact fun key hkey hstale => absurd hstale (hright key hkey)
  · have hdone : ∀ e ∈ rentProjected.db.events.entries, e.2.status = .DONE := by decide +kernel
    exact fun k row hrow => hdone _ (OrderedMap.get?_eq_some_iff.mp hrow)

/-- The reversal of the rent, after the cycle. -/
def rentBackProjected : LedgerCall :=
  .reverse (contextOf .ownTransaction rentProjected.db) (takeBack 10 january "rent-back")

/-- The crash loses the jobs of the reversal, and no event is left: the rows stay at 100. -/
theorem crash_loses_the_reversal :
    ¬ ∀ (db : LedgerDb) (s : OutboxState) (ts : List (OutboxState × OutboxAction × OutboxState)),
        EmptyLedger db → Run OutboxStep ⟨db, []⟩ ts s → (∀ t ∈ ts, t.2.1.Succeeds) →
          Drained s → ∀ key, ¬ Frozen s.db key → RowMatches s.db key := by
  intro h
  have hback : CallStep rentProjected.db rentBackProjected
      (rentBackProjected.after rentProjected.db) := LedgerCall.step_after (by decide +kernel)
  obtain ⟨out, hout, hdb⟩ := map_eq_ok hback
  have hcall : OutboxStep rentProjected (.call rentBackProjected)
      ⟨out.db, rentProjected.jobs ++ scheduleGlRebuildJobs out.pendingRebuildJobs⟩ :=
    ⟨rfl, out, hout, rfl⟩
  have hdone : ∀ e ∈ (rentBackProjected.after rentProjected.db).events.entries,
      e.2.status = .DONE := by decide +kernel
  have hwrong : ¬ RowMatches (rentBackProjected.after rentProjected.db) ⟨1, 2026, 1⟩ := by
    decide +kernel
  have hopen : ¬ Frozen (rentBackProjected.after rentProjected.db) ⟨1, 2026, 1⟩ := by
    decide +kernel
  rw [← hdb] at hdone hwrong hopen
  have hpoll : OutboxStep rentQueued rentPoll rentPolled := rfl
  have hcrash : OutboxStep rentPolled .crash rentProjected := rfl
  have hlast : OutboxStep
      ⟨out.db, rentProjected.jobs ++ scheduleGlRebuildJobs out.pendingRebuildJobs⟩ .crash
      ⟨out.db, []⟩ := rfl
  refine hwrong (h books ⟨out.db, []⟩ _ books_empty (.cons rentQueued_step (.cons hpoll
    (.cons hcrash (.cons hcall (.cons hlast (.nil _)))))) ?_ ⟨?_, rfl⟩ ⟨1, 2026, 1⟩ hopen)
  · intro t ht
    simp only [List.mem_cons, List.not_mem_nil, or_false] at ht
    rcases ht with rfl | rfl | rfl | rfl | rfl
    · trivial
    · exact fun _ => rfl
    · trivial
    · trivial
    · trivial
  · exact fun k row hrow => hdone _ (OrderedMap.get?_eq_some_iff.mp hrow)

end SmartErpPos.Ledger
