/-
  Offline/Durability.lean --- what the till has recorded reaches the server or stays.

  Sources: `samplepos.client/src/lib/offlineEventJournal.ts` (`appendEvent`,
  `appendSyncedEvent`, `markCancelled`, `compactSyncedClosedJournal`) and
  `services/offlineSyncEngine.ts` (`syncOfflineSales`).

  The journal is written by the till, by the runs of the sync, by quota reclaim and by
  seeds from the server, in any order.  A write that exceeds the quota is reclaimed for and
  made again, so a reclaim is a step of its own here.  A journal that the storage refuses
  even then is left out.
-/
import SmartErpPos.Offline.Compaction
import SmartErpPos.Offline.DeliveryOrder

set_option autoImplicit false

namespace SmartErpPos.Offline

open SmartErpPos.Lib

/-! ## Everything that writes the journal -/

inductive JournalAction where
  | sync (action : SyncAction)
  /-- `compactSyncedClosedJournal`, when a write exceeds the quota. -/
  | reclaim
  /-- The user gives an event up. -/
  | cancel (key : String)
  /-- An event of the server is put into the journal. -/
  | seed (event : PosOfflineEvent)

inductive JournalStep : SyncSystem → JournalAction → SyncSystem → Prop
  | sync {s s' : SyncSystem} {action : SyncAction} (h : SyncStep s action s') :
      JournalStep s (.sync action) s'
  | reclaim (s : SyncSystem) :
      JournalStep s .reclaim { s with store := (compactSyncedClosedJournal s.store).1 }
  | cancel (s : SyncSystem) (key : String) :
      JournalStep s (.cancel key) { s with store := markCancelled s.store key }
  | seed (s : SyncSystem) (event : PosOfflineEvent) :
      JournalStep s (.seed event)
        { s with
          store := appendSyncedEvent s.store event
          accepted := event.key :: s.accepted }

/-- The event is in the journal, and its way to the server is not over. -/
def JournalStore.Waits (store : JournalStore) (e : PosOfflineEvent) : Prop :=
  e ∈ store.journal ∧ store.isUnsynced e = true

/-- The event waits in the journal, or the server has taken it. -/
def SyncSystem.Holds (s : SyncSystem) (e : PosOfflineEvent) : Prop :=
  s.store.Waits e ∨ e.key ∈ s.accepted

/-- No event and no status is stored under the key. -/
structure NewKey (store : JournalStore) (key : String) : Prop where
  journal : ∀ e ∈ store.journal, e.key ≠ key
  status : store.syncState.get? key = none

/-! ## What one step does to an event that waits -/

variable {store : JournalStore} {e : PosOfflineEvent}

theorem isUnsynced_mark {key : String} {status : SyncStatus} {error : Option String}
    (e : PosOfflineEvent) :
    (store.mark key status error).isUnsynced e =
      if e.key = key then isUnsyncedStatus (some status) else store.isUnsynced e := by
  unfold JournalStore.isUnsynced JournalStore.mark
  rcases em (e.key = key) with hkey | hkey
  · rw [if_pos hkey, hkey, OrderedMap.get?_set_self]
    rfl
  · rw [if_neg hkey, OrderedMap.get?_set_of_ne hkey]

/-- A status that is not final, or one of another event, leaves the event waiting. -/
theorem JournalStore.Waits.mark (h : store.Waits e) {key : String} {status : SyncStatus}
    {error : Option String} (hstatus : e.key = key → isUnsyncedStatus (some status) = true) :
    (store.mark key status error).Waits e := by
  refine ⟨h.1, ?_⟩
  rw [isUnsynced_mark]
  split
  · rename_i hkey
    exact hstatus hkey
  · exact h.2

/-- Another event is added behind the one that waits. -/
theorem JournalStore.Waits.append (h : store.Waits e) (event : PosOfflineEvent) :
    (appendEvent store event).Waits e := by
  unfold appendEvent
  split
  · exact h
  · rename_i hfree
    have hnew : ∀ x ∈ store.journal, x.key ≠ event.key := by simpa using hfree
    have hlonger : ({ store with journal := store.journal ++ [event] } : JournalStore).Waits e :=
      ⟨List.mem_append_left _ h.1, h.2⟩
    dsimp only
    split
    · exact hlonger
    · exact hlonger.mark fun _ => rfl

/-- What is set back for a new try still waits. -/
theorem JournalStore.Waits.reset (h : store.Waits e) (keys : List String) :
    (resetToPending store keys).Waits e := by
  induction keys generalizing store with
  | nil => exact h
  | cons key rest ih =>
    refine ih ?_
    unfold setBack
    split
    · split
      · exact h.mark fun _ => rfl
      · exact h
    · exact h

/-- Reclaiming storage drops no event that waits. -/
theorem JournalStore.Waits.reclaim (h : store.Waits e) :
    (compactSyncedClosedJournal store).1.Waits e := by
  have hmem : e ∈ (compactSyncedClosedJournal store).1.journal.filter
      (compactSyncedClosedJournal store).1.isUnsynced := by
    have hkept : e ∈ store.journal.filter store.isUnsynced := List.mem_filter.mpr h
    rcases compactSyncedClosedJournal_cases store with hsame | hcompacted
    · rwa [hsame]
    · rw [hcompacted, JournalStore.unsynced_compacted]
      exact hkept
  exact List.mem_filter.mp hmem

/-- A post leaves its event waiting unless the server has taken it. -/
theorem SyncSystem.Holds.post {s : SyncSystem} {e event : PosOfflineEvent} (h : s.Holds e)
    (rest : List PosOfflineEvent) (result : SyncResult) {outcome : PostOutcome}
    (hserved : outcome.Served) : (s.afterPost event rest result outcome).Holds e := by
  have hgrows : ∀ key ∈ s.accepted,
      key ∈ (if outcome.accepted then event.key :: s.accepted else s.accepted) := by
    intro key hkey
    split
    · exact List.mem_cons_of_mem _ hkey
    · exact hkey
  rcases h with hwaits | htaken
  · unfold SyncSystem.afterPost
    cases hverdict : verdictOf outcome with
    | synced =>
      have haccepted := hserved.confirmed (confirms_of_verdict hverdict)
      rcases em (e.key = event.key) with hkey | hkey
      · refine .inr ?_
        show e.key ∈ (if outcome.accepted then event.key :: s.accepted else s.accepted)
        rw [if_pos haccepted, hkey]
        exact List.mem_cons_self
      · exact .inl (hwaits.mark fun hsame => absurd hsame hkey)
    | review error => exact .inl (hwaits.mark fun _ => rfl)
    | failed error => exact .inl (hwaits.mark fun _ => rfl)
    | ignored => exact .inl hwaits
    | offlineStop => exact .inl hwaits
    | authStop => exact .inl hwaits
  · refine .inr ?_
    have hin := hgrows e.key htaken
    unfold SyncSystem.afterPost
    cases verdictOf outcome with
    | _ => exact hin

/-- A seed of the server is no loss: an event it marks as synced is one the server has. -/
theorem SyncSystem.Holds.seed {s : SyncSystem} {e : PosOfflineEvent} (h : s.Holds e)
    (event : PosOfflineEvent) :
    ({ s with
      store := appendSyncedEvent s.store event
      accepted := event.key :: s.accepted } : SyncSystem).Holds e := by
  rcases em (e.key = event.key) with hkey | hkey
  · exact .inr (hkey ▸ List.mem_cons_self)
  · rcases h with hwaits | htaken
    · refine .inl ?_
      show (appendSyncedEvent s.store event).Waits e
      unfold appendSyncedEvent
      split
      · exact hwaits.mark fun hsame => absurd hsame hkey
      · have hlonger : ({ s.store with
            journal := s.store.journal ++ [event] } : JournalStore).Waits e :=
          ⟨List.mem_append_left _ hwaits.1, hwaits.2⟩
        have hmarked : (markSynced { s.store with
            journal := s.store.journal ++ [event] } event.key).Waits e :=
          hlonger.mark fun hsame => absurd hsame hkey
        dsimp only
        -- the order of a seed may be in the journal already
        split
        · split
          · exact hwaits
          · exact hmarked
        · exact hmarked
    · exact .inr (List.mem_cons_of_mem _ htaken)

/-- Only its own cancellation takes an event out of what is held. -/
theorem JournalStep.holds {s s' : SyncSystem} {a : JournalAction} (hstep : JournalStep s a s')
    (h : s.Holds e) (hkept : a ≠ .cancel e.key) : s'.Holds e := by
  cases hstep with
  | sync hsync =>
    cases hsync with
    | append event => exact h.imp_left fun hwaits => hwaits.append event
    | start online =>
      unfold SyncSystem.started
      split
      · exact h
      · split
        · exact h
        · exact h
    | post _ hserved => exact h.post _ _ hserved
    | retry _ keys => exact h.imp_left fun hwaits => hwaits.reset keys
    | resumeAuth => exact h
    | reload => exact h
  | reclaim => exact h.imp_left fun hwaits => hwaits.reclaim
  | cancel key =>
    refine h.imp_left fun hwaits => hwaits.mark fun hsame => ?_
    exact absurd (congrArg JournalAction.cancel hsame.symm) hkept
  | seed event => exact h.seed event

/-- A new event waits as soon as it is recorded. -/
theorem waits_appendEvent (hnew : NewKey store e.key) : (appendEvent store e).Waits e := by
  unfold appendEvent
  rw [if_neg (by simpa using hnew.journal)]
  dsimp only
  rw [hnew.status]
  refine ⟨List.mem_append_right _ (List.mem_singleton.mpr rfl), ?_⟩
  rw [if_neg (by simp), isUnsynced_mark, if_pos rfl]
  rfl

/-! ## Along runs -/

/-- What is held stays held in a run that does not cancel it. -/
theorem holds_of_run {s s' : SyncSystem} {ts : List (SyncSystem × JournalAction × SyncSystem)}
    (h : Run JournalStep s ts s') (hheld : s.Holds e) (hkept : ∀ u ∈ ts, u.2.1 ≠ .cancel e.key) :
    s'.Holds e :=
  h.ends (P := fun s => s.Holds e) (K := fun _ a => a ≠ .cancel e.key)
    (fun _ _ _ hheld hstep => hstep.holds hheld) hkept hheld

/-- Along every run, an event that the till has recorded under a new key and that nobody
cancels waits in the journal until the server has taken it. -/
theorem recorded_not_lost {s s' : SyncSystem} {ts : List (SyncSystem × JournalAction × SyncSystem)}
    (h : Run JournalStep s ts s') {e : PosOfflineEvent} {t : SyncSystem × JournalAction × SyncSystem}
    (ht : t ∈ ts) (hrecords : t.2.1 = .sync (.append e)) (hnew : NewKey t.1.store e.key)
    (hkept : ∀ u ∈ ts, u.2.1 ≠ .cancel e.key) : s'.Holds e := by
  induction h with
  | nil s => cases ht
  | cons hs hrest ih =>
    obtain ⟨-, hlater⟩ := List.forall_mem_cons.mp hkept
    rcases List.mem_cons.mp ht with rfl | hin
    · dsimp only at hrecords hnew
      subst hrecords
      cases hs with
      | sync hsync =>
        cases hsync with
        | append event =>
          exact holds_of_run hrest (.inl (waits_appendEvent hnew)) hlater
    · exact ih hin hlater

/-! ## A run of the sync that is served throughout -/

/-- A step that posts an event the server confirms. -/
def PostsConfirmed (action : SyncAction) : Prop :=
  ∃ outcome, action = .post outcome ∧ verdictOf outcome = .synced

/-- What is unsynced is what the run still has to post, and what was to be posted is not
given up. -/
structure Draining (start : JournalStore) (s : SyncSystem) : Prop where
  sound : s.Sound
  journal : s.store.journal = start.journal
  rest : getUnsyncedEvents s.store = (s.loop.map (·.rest)).getD []
  status : ∀ e, start.statusOf e = .PENDING ∨ start.statusOf e = .FAILED →
    s.store.statusOf e = .SYNCED ∨ s.store.statusOf e = .PENDING ∨ s.store.statusOf e = .FAILED

theorem mem_getUnsyncedEvents :
    e ∈ getUnsyncedEvents store ↔
      e ∈ store.journal ∧ (store.statusOf e = .PENDING ∨ store.statusOf e = .FAILED) := by
  rw [getUnsyncedEvents, List.mem_filter]
  exact and_congr_right fun _ => decide_eq_true_iff

/-- Marking the first of the unsynced events leaves the others. -/
theorem getUnsyncedEvents_markSynced {event : PosOfflineEvent} {rest : List PosOfflineEvent}
    (hkeys : (store.journal.map PosOfflineEvent.key).Nodup)
    (h : getUnsyncedEvents store = event :: rest) :
    getUnsyncedEvents (markSynced store event.key) = rest := by
  have hfilter : getUnsyncedEvents (markSynced store event.key) =
      (getUnsyncedEvents store).filter fun e => decide (e.key ≠ event.key) := by
    rw [getUnsyncedEvents, getUnsyncedEvents, List.filter_filter]
    refine List.filter_congr fun e _ => ?_
    show decide ((store.mark event.key .SYNCED none).statusOf e = .PENDING ∨
      (store.mark event.key .SYNCED none).statusOf e = .FAILED) = _
    rw [statusOf_mark]
    rcases em (e.key = event.key) with hkey | hkey
    · simp [hkey]
    · rw [if_neg hkey]
      simp only [hkey, ne_eq, not_false_eq_true, decide_true, Bool.true_and]
      rfl
  have hsub : ((event :: rest).map PosOfflineEvent.key).Nodup := by
    rw [← h]
    exact hkeys.sublist (List.filter_sublist.map _)
  rw [List.map_cons, List.nodup_cons] at hsub
  rw [hfilter, h, List.filter_cons_of_neg (by simp), List.filter_eq_self]
  intro e he
  refine decide_eq_true fun hkey => hsub.1 ?_
  rw [← hkey]
  exact List.mem_map_of_mem he

theorem afterPost_of_synced (s : SyncSystem) (event : PosOfflineEvent)
    (rest : List PosOfflineEvent) (result : SyncResult) {outcome : PostOutcome}
    (hverdict : verdictOf outcome = .synced) :
    (s.afterPost event rest result outcome).store = markSynced s.store event.key ∧
      (s.afterPost event rest result outcome).loop =
        SyncLoop.next rest { result with synced := result.synced + 1 } := by
  unfold SyncSystem.afterPost
  rw [hverdict]
  exact ⟨rfl, rfl⟩

theorem Draining.post {start : JournalStore} {s s' : SyncSystem} {action : SyncAction}
    (h : Draining start s) (hstep : SyncStep s action s') (hposts : PostsConfirmed action) :
    Draining start s' := by
  obtain ⟨outcome, rfl, hverdict⟩ := hposts
  have hsound := sound_step h.sound hstep
  cases hstep with
  | @post event rest result outcome hloop hserved =>
    have hrest := h.rest
    rw [hloop] at hrest
    obtain ⟨hstore, hnext⟩ := afterPost_of_synced s event rest result hverdict
    refine ⟨hsound, ?_, ?_, fun e he => ?_⟩
    · rw [hstore]
      exact h.journal
    · rw [hstore, hnext, getUnsyncedEvents_markSynced h.sound.keys hrest]
      cases rest with
      | nil => rfl
      | cons e rest => rfl
    · rw [hstore, markSynced, statusOf_mark]
      split
      · exact .inl rfl
      · exact h.status e he

theorem draining_started {s : SyncSystem} (hs : s.Sound) (hidle : s.loop = none)
    (hpaused : s.pausedForAuth = false) : Draining s.store (s.started true) := by
  have hsound := sound_started hs true
  unfold SyncSystem.started at hsound ⊢
  rw [hpaused, hidle] at hsound ⊢
  refine ⟨hsound, rfl, ?_, fun e he => .inr he⟩
  show getUnsyncedEvents s.store =
    ((SyncLoop.next (getUnsyncedEvents s.store) _).map (·.rest)).getD []
  cases getUnsyncedEvents s.store with
  | nil => rfl
  | cons e rest => rfl

/-- A run of the sync whose posts are all confirmed ends with every pending and every failed
event of the journal taken by the server and marked so. -/
theorem sync_drains {s s' : SyncSystem} {ts : List (SyncSystem × SyncAction × SyncSystem)}
    (hs : s.Sound) (hidle : s.loop = none) (hpaused : s.pausedForAuth = false)
    (h : Run SyncStep (s.started true) ts s') (hposts : ∀ t ∈ ts, PostsConfirmed t.2.1)
    (hdone : s'.loop = none) :
    getUnsyncedEvents s'.store = [] ∧ ∀ e ∈ s.store.journal,
      s.store.statusOf e = .PENDING ∨ s.store.statusOf e = .FAILED →
        s'.store.statusOf e = .SYNCED ∧ e.key ∈ s'.accepted := by
  have hend : Draining s.store s' := h.ends (K := fun _ a => PostsConfirmed a)
    (fun _ _ _ hp hstep => hp.post hstep) hposts (draining_started hs hidle hpaused)
  have hempty : getUnsyncedEvents s'.store = [] := by
    rw [hend.rest, hdone]
    rfl
  refine ⟨hempty, fun e he hstatus => ?_⟩
  have hsynced : s'.store.statusOf e = .SYNCED := by
    refine (hend.status e hstatus).resolve_right fun hleft => ?_
    have hunsynced : e ∈ getUnsyncedEvents s'.store :=
      mem_getUnsyncedEvents.mpr ⟨hend.journal ▸ he, hleft⟩
    rw [hempty] at hunsynced
    cases hunsynced
  exact ⟨hsynced, hend.sound.synced_event hsynced⟩

/-! ## A sale during an outage -/

def outageSale : PosOfflineEvent := .SALE_COMPLETED (plainSale "ofl_sale" "ord-1" [] 10 2)

def emptyTill : SyncSystem where
  store := JournalStore.initial
  pausedForAuth := false
  loop := none
  accepted := []

/-- The till after it has recorded the sale. -/
def soldTill : SyncSystem := { emptyTill with store := appendEvent emptyTill.store outageSale }

/-- The till after the post of the sale. -/
def postedTill (outcome : PostOutcome) : SyncSystem :=
  (soldTill.started true).afterPost outageSale [] ⟨0, 0, 0⟩ outcome

theorem soldTill_sound : soldTill.Sound := by
  have hempty : emptyTill.Sound :=
    ⟨List.nodup_nil, fun _ _ hget _ => (by cases hget), fun _ hloop => (by cases hloop)⟩
  exact sound_appendEvent hempty outageSale

/-- A sale whose post fails, and whose journal is then reclaimed for, is held. -/
theorem outageSale_not_lost :
    ({ postedTill unavailable with
      store := (compactSyncedClosedJournal (postedTill unavailable).store).1 } :
        SyncSystem).Holds outageSale :=
  recorded_not_lost
    (.cons (.sync (.append emptyTill outageSale))
      (.cons (.sync (.start soldTill true))
        (.cons (.sync (.post rfl unavailable_served)) (.cons (.reclaim _) (.nil _)))))
    List.mem_cons_self rfl ⟨fun _ he => (nomatch he), rfl⟩ (by simp)

/-- The sale is posted and confirmed. -/
theorem outageSale_drains : getUnsyncedEvents (postedTill taken).store = [] :=
  (sync_drains soldTill_sound rfl rfl (.cons (.post rfl taken_served) (.nil _))
    (fun t ht => ⟨taken, by simp_all, rfl⟩) rfl).1

end SmartErpPos.Offline
