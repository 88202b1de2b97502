/-
  Offline/DeliveryOrder.lean --- in which order the server takes the events of a check.

  A run posts its snapshot in journal order, so a pending event of the journal is either
  still ahead of the run or with the server.  What a run can leave behind are events
  marked failed or under review: it goes on to the next event after each of them.
-/
import SmartErpPos.Offline.SyncEngine

set_option autoImplicit false

namespace SmartErpPos.Offline

open SmartErpPos.Lib

/-! ## Order of acceptance -/

/-- Do the two events name one order? -/
def SameOrder (d e : PosOfflineEvent) : Prop := ∃ id ∈ orderIdsOnEvent d, id ∈ orderIdsOnEvent e

/-- `d` stands before `e` in the journal. -/
def JournalStore.Earlier (store : JournalStore) (d e : PosOfflineEvent) : Prop :=
  ∃ before after, store.journal = before ++ e :: after ∧ d ∈ before

def JournalStore.statusOf (store : JournalStore) (e : PosOfflineEvent) : SyncStatus :=
  statusFromEntry (store.syncState.get? e.key)

/-- The step posts `e`, and the server takes it. -/
def Accepts (s : SyncSystem) (a : SyncAction) (e : PosOfflineEvent) : Prop :=
  ∃ outcome rest result, a = .post outcome ∧ outcome.accepted = true ∧
    s.loop = some ⟨e :: rest, result⟩

/-- An event is taken after all earlier events that name an order of it. -/
def AcceptsInOrder (s : SyncSystem) (a : SyncAction) : Prop :=
  ∀ e, Accepts s a e → ∀ d, s.store.Earlier d e → SameOrder d e → d.key ∈ s.accepted

/-- No earlier event of the same order has been left behind as failed, under review or
cancelled; one that the server has taken all the same does not count. -/
def NoneLeftBehind (s : SyncSystem) (a : SyncAction) : Prop :=
  ∀ e, Accepts s a e → ∀ d, s.store.Earlier d e → SameOrder d e →
    (s.store.statusOf d = .FAILED ∨ s.store.statusOf d = .REVIEW ∨
      s.store.statusOf d = .CANCELLED) → d.key ∈ s.accepted

/-! ## The invariant -/

/-- A run works through the journal from front to back. -/
structure SyncLoop.InOrder (loop : SyncLoop) (s : SyncSystem) : Prop where
  sublist : loop.rest.Sublist s.store.journal
  /-- A pending event before one of the rest belongs to the rest itself, or is taken. -/
  pending : ∀ e ∈ loop.rest, ∀ d, s.store.Earlier d e → s.store.statusOf d = .PENDING →
    d ∈ loop.rest ∨ d.key ∈ s.accepted

structure SyncSystem.Sound (s : SyncSystem) : Prop where
  keys : (s.store.journal.map PosOfflineEvent.key).Nodup
  /-- What is marked as synced is with the server. -/
  synced : ∀ key entry, s.store.syncState.get? key = some entry → entry.status = .SYNCED →
    key ∈ s.accepted
  loop : ∀ loop, s.loop = some loop → loop.InOrder s

variable {s s' : SyncSystem} {e : PosOfflineEvent} {rest : List PosOfflineEvent}
  {result : SyncResult}

theorem SyncSystem.Sound.synced_event (h : s.Sound) (hstatus : s.store.statusOf e = .SYNCED) :
    e.key ∈ s.accepted := by
  unfold JournalStore.statusOf statusFromEntry at hstatus
  cases hget : s.store.syncState.get? e.key with
  | none =>
    rw [hget] at hstatus
    cases hstatus
  | some entry =>
    rw [hget] at hstatus
    exact h.synced e.key entry hget hstatus

/-- An event is not before itself. -/
theorem not_mem_before {journal before after : List PosOfflineEvent}
    (hkeys : (journal.map PosOfflineEvent.key).Nodup) (hsplit : journal = before ++ e :: after) :
    e ∉ before := by
  intro hmem
  rw [hsplit] at hkeys
  have hnodup := List.Nodup.of_map _ hkeys
  rw [List.nodup_append] at hnodup
  exact hnodup.2.2 e hmem e (by simp) rfl

/-- What follows `e` in a sublist follows it in the list. -/
theorem sublist_after {journal before after : List PosOfflineEvent}
    (hkeys : (journal.map PosOfflineEvent.key).Nodup) (hsplit : journal = before ++ e :: after)
    (hsub : (e :: rest).Sublist journal) : rest.Sublist after := by
  have hnot := not_mem_before hkeys hsplit
  subst hsplit
  clear hkeys
  induction before with
  | nil => exact List.cons_sublist_cons.mp hsub
  | cons x before ih =>
    simp only [List.mem_cons, not_or] at hnot
    rcases List.sublist_cons_iff.mp hsub with h | ⟨r, hr, h⟩
    · exact ih hnot.2 h
    · exact absurd (List.cons.inj hr).1 hnot.1

/-! ## Steps keep it -/

/-- Marking one key changes the status of the events with this key only. -/
theorem statusOf_mark {store : JournalStore} {key : String} {status : SyncStatus}
    {error : Option String} (d : PosOfflineEvent) :
    (store.mark key status error).statusOf d = if d.key = key then status else store.statusOf d := by
  unfold JournalStore.statusOf JournalStore.mark
  by_cases h : d.key = key
  · rw [if_pos h, h, OrderedMap.get?_set_self]
    rfl
  · rw [if_neg h, OrderedMap.get?_set_of_ne h]

/-- Only a 409 is decided as synced. -/
theorem status_of_decided_synced {network online : Bool} {status : Option ℕ} {message : String}
    (h : decideSyncPost network online status message = .synced) : status = some 409 := by
  unfold decideSyncPost at h
  split at h
  · cases h
  · cases status with
    | none => cases h
    | some code =>
      dsimp only at h
      split at h
      · rename_i hcode
        rw [hcode]
      · split at h
        · cases h
        · split at h <;> cases h

/-- The client takes an event for synced only where the reply confirms it. -/
theorem confirms_of_verdict {outcome : PostOutcome} (h : verdictOf outcome = .synced) :
    outcome.reply.confirms = true := by
  unfold verdictOf at h
  unfold PostReply.confirms
  cases hreply : outcome.reply with
  | response status success requiresReview error =>
    simp only [hreply] at h ⊢
    split at h
    · assumption
    · split at h
      · cases h
      · split at h <;> cases h
  | thrown err =>
    simp only [hreply] at h ⊢
    cases hdecision : decideSyncPost (readThrownSync err).network outcome.online
        (readThrownSync err).status (readThrownSync err).message with
    | synced => simp [status_of_decided_synced hdecision]
    | _ => simp [hdecision] at h

/-- The sync route answers nothing that the loop ignores. -/
theorem PostOutcome.Served.not_ignored {outcome : PostOutcome} (h : outcome.Served) :
    verdictOf outcome ≠ .ignored := by
  intro hignored
  unfold verdictOf at hignored
  cases hreply : outcome.reply with
  | response status success requiresReview error =>
    have hanswer := h.answered status success requiresReview error hreply
    rw [hreply] at hanswer hignored
    unfold PostReply.confirms at hanswer
    dsimp only at hanswer hignored
    split at hignored
    · cases hignored
    · rename_i hnot
      rw [if_pos (hanswer.resolve_left hnot)] at hignored
      cases hignored
  | thrown err =>
    simp only [hreply] at hignored
    split at hignored <;> cases hignored

/-- The rest of a run after its first event. -/
theorem SyncLoop.eq_of_next {loop : SyncLoop} (h : SyncLoop.next rest result = some loop) :
    loop.rest = rest := by
  unfold SyncLoop.next at h
  split at h
  · cases h
  · rw [← Option.some.inj h]

/-- A system that differs in the sync state at most, where nothing becomes pending and
nothing becomes synced without being taken, is as sound as before, with what is left of
the run. -/
theorem SyncSystem.Sound.of_mark (h : s.Sound) (hloop : s.loop = some ⟨e :: rest, result⟩)
    (status : SyncStatus) (error : Option String) (hstatus : status ≠ .PENDING)
    (hsynced : status = .SYNCED → e.key ∈ s'.accepted)
    (hstore : s'.store = s.store.mark e.key status error)
    (haccepted : ∀ key ∈ s.accepted, key ∈ s'.accepted)
    (hrest : ∀ loop, s'.loop = some loop → loop.rest = rest) : s'.Sound := by
  have hjournal : s'.store.journal = s.store.journal := by
    rw [hstore]
    rfl
  refine ⟨hjournal ▸ h.keys, ?_, ?_⟩
  · intro key entry hget hentry
    rw [hstore] at hget
    change (s.store.syncState.set e.key ⟨status, error⟩).get? key = some entry at hget
    rw [OrderedMap.get?_set] at hget
    split at hget
    · rename_i hkey
      rw [← Option.some.inj hget] at hentry
      rw [hkey]
      exact hsynced hentry
    · exact haccepted key (h.synced key entry hget hentry)
  · intro loop hsome
    obtain ⟨hsub, hpending⟩ := h.loop _ hloop
    refine ⟨?_, ?_⟩
    · rw [hrest loop hsome, hjournal]
      exact (List.sublist_cons_self e rest).trans hsub
    · intro e' he' d hearlier hd
      rw [hrest loop hsome] at he' ⊢
      rw [hstore, statusOf_mark] at hd
      split at hd
      · exact absurd hd hstatus
      · rename_i hne
        obtain ⟨before, after, hsplit, hmem⟩ := hearlier
        rw [hjournal] at hsplit
        rcases hpending e' (List.mem_cons_of_mem e he') d ⟨before, after, hsplit, hmem⟩ hd with
          hd | hd
        · rcases List.mem_cons.mp hd with rfl | hd
          · exact absurd rfl hne
          · exact .inl hd
        · exact .inr (haccepted _ hd)

/-- Without a run there is nothing to work through. -/
theorem SyncSystem.Sound.of_idle (h : s.Sound) (hjournal : s'.store.journal = s.store.journal)
    (hsynced : ∀ key entry, s'.store.syncState.get? key = some entry → entry.status = .SYNCED →
      s.store.syncState.get? key = some entry) (haccepted : ∀ key ∈ s.accepted, key ∈ s'.accepted)
    (hidle : s'.loop = none) : s'.Sound := by
  refine ⟨hjournal ▸ h.keys, fun key entry hget hentry => ?_, fun loop hloop => ?_⟩
  · exact haccepted key (h.synced key entry (hsynced key entry hget hentry) hentry)
  · rw [hidle] at hloop
    cases hloop

theorem sound_afterPost {outcome : PostOutcome} (h : s.Sound)
    (hloop : s.loop = some ⟨e :: rest, result⟩) (hserved : outcome.Served) :
    (s.afterPost e rest result outcome).Sound := by
  have hgrows : ∀ key ∈ s.accepted,
      key ∈ (if outcome.accepted then e.key :: s.accepted else s.accepted) := by
    intro key hkey
    split
    · exact List.mem_cons_of_mem _ hkey
    · exact hkey
  unfold SyncSystem.afterPost
  cases hverdict : verdictOf outcome with
  | synced =>
    refine h.of_mark hloop .SYNCED none (by simp) (fun _ => ?_) rfl hgrows
      fun loop => SyncLoop.eq_of_next
    have htaken := hserved.confirmed (confirms_of_verdict hverdict)
    simp [htaken]
  | review error =>
    exact h.of_mark hloop .REVIEW error (by simp) (by simp) rfl hgrows
      fun loop => SyncLoop.eq_of_next
  | failed error =>
    exact h.of_mark hloop .FAILED error (by simp) (by simp) rfl hgrows
      fun loop => SyncLoop.eq_of_next
  | ignored => exact absurd hverdict hserved.not_ignored
  | offlineStop => exact h.of_idle rfl (fun _ _ hget _ => hget) hgrows rfl
  | authStop => exact h.of_idle rfl (fun _ _ hget _ => hget) hgrows rfl

/-- A new event at the end of the journal is behind everything a run works on. -/
theorem SyncSystem.Sound.of_append {event : PosOfflineEvent} (h : s.Sound)
    (hfresh : ∀ x ∈ s.store.journal, x.key ≠ event.key)
    (hjournal : s'.store.journal = s.store.journal ++ [event])
    (hsame : ∀ d ∈ s.store.journal, s'.store.statusOf d = s.store.statusOf d)
    (hsynced : ∀ key entry, s'.store.syncState.get? key = some entry → entry.status = .SYNCED →
      s.store.syncState.get? key = some entry) (haccepted : s'.accepted = s.accepted)
    (hloop : s'.loop = s.loop) : s'.Sound := by
  refine ⟨?_, fun key entry hget hentry => ?_, fun loop hsome => ?_⟩
  · rw [hjournal, List.map_append, List.nodup_append]
    refine ⟨h.keys, by simp, ?_⟩
    intro key hkey key' hkey' heq
    obtain ⟨x, hx, rfl⟩ := List.mem_map.mp hkey
    rw [List.map_singleton, List.mem_singleton] at hkey'
    exact hfresh x hx (heq.trans hkey')
  · rw [haccepted]
    exact h.synced key entry (hsynced key entry hget hentry) hentry
  · rw [hloop] at hsome
    obtain ⟨hsub, hpending⟩ := h.loop loop hsome
    refine ⟨?_, fun e he d hearlier hd => ?_⟩
    · rw [hjournal]
      exact hsub.trans (List.sublist_append_left _ _)
    · obtain ⟨before, after, hsplit, hmem⟩ := hearlier
      rw [hjournal] at hsplit
      rw [haccepted]
      have hold : e ∈ s.store.journal := hsub.subset he
      rcases List.eq_nil_or_concat after with rfl | ⟨after', x, rfl⟩
      · -- the new event itself is not among the rest
        obtain ⟨-, hlast⟩ := List.append_inj' hsplit rfl
        rw [← (List.cons.inj hlast).1] at hold
        exact absurd rfl (hfresh event hold)
      · rw [List.concat_eq_append, ← List.cons_append, ← List.append_assoc] at hsplit
        obtain ⟨hsplit, -⟩ := List.append_inj' hsplit rfl
        have hin : d ∈ s.store.journal := by
          rw [hsplit]
          exact List.mem_append_left _ hmem
        rw [hsame d hin] at hd
        exact hpending e he d ⟨before, after', hsplit, hmem⟩ hd

theorem sound_appendEvent (h : s.Sound) (event : PosOfflineEvent) :
    ({ s with store := appendEvent s.store event } : SyncSystem).Sound := by
  unfold appendEvent
  split
  · exact h
  · rename_i hfree
    have hfresh : ∀ x ∈ s.store.journal, x.key ≠ event.key := by simpa using hfree
    dsimp only
    split
    · exact h.of_append hfresh rfl (fun _ _ => rfl) (fun _ _ hget _ => hget) rfl rfl
    · refine h.of_append hfresh rfl (fun d hd => ?_) (fun key entry hget hentry => ?_) rfl rfl
      · show (JournalStore.mark _ event.key .PENDING none).statusOf d = _
        rw [statusOf_mark, if_neg (hfresh d hd)]
        rfl
      · change (s.store.syncState.set event.key ⟨.PENDING, none⟩).get? key = some entry at hget
        rw [OrderedMap.get?_set] at hget
        split at hget
        · rw [← Option.some.inj hget] at hentry
          cases hentry
        · exact hget

theorem sound_started (h : s.Sound) (online : Bool) : (s.started online).Sound := by
  unfold SyncSystem.started
  split
  · exact h
  · split
    · exact h
    · refine ⟨h.keys, h.synced, fun loop hloop => ⟨?_, ?_⟩⟩
      · rw [SyncLoop.eq_of_next hloop]
        exact List.filter_sublist
      · intro e _ d hearlier hd
        obtain ⟨before, after, hsplit, hmem⟩ := hearlier
        refine .inl ?_
        rw [SyncLoop.eq_of_next hloop]
        refine List.mem_filter.mpr ⟨?_, ?_⟩
        · show d ∈ s.store.journal
          rw [show s.store.journal = before ++ e :: after from hsplit]
          exact List.mem_append_left _ hmem
        · have hd : statusFromEntry (s.store.syncState.get? d.key) = .PENDING := hd
          simp [hd]

/-- Setting events back makes nothing synced. -/
theorem get?_resetToPending {keys : List String} {store : JournalStore} {key : String}
    {entry : SyncStateEntry} (hget : (resetToPending store keys).syncState.get? key = some entry)
    (hentry : entry.status = .SYNCED) : store.syncState.get? key = some entry := by
  induction keys generalizing store with
  | nil => exact hget
  | cons k rest ih =>
    have hnext := ih hget
    unfold setBack at hnext
    split at hnext
    · split at hnext
      · change (store.syncState.set k ⟨.PENDING, none⟩).get? key = some entry at hnext
        rw [OrderedMap.get?_set] at hnext
        split at hnext
        · rw [← Option.some.inj hnext] at hentry
          cases hentry
        · exact hnext
      · exact hnext
    · exact hnext

theorem journal_resetToPending (store : JournalStore) (keys : List String) :
    (resetToPending store keys).journal = store.journal := by
  induction keys generalizing store with
  | nil => rfl
  | cons k rest ih =>
    refine (ih _).trans ?_
    unfold setBack
    split
    · split <;> rfl
    · rfl

theorem sound_step {a : SyncAction} (h : s.Sound) (hstep : SyncStep s a s') : s'.Sound := by
  cases hstep with
  | append event => exact sound_appendEvent h event
  | start online => exact sound_started h online
  | post hloop hserved => exact sound_afterPost h hloop hserved
  | retry hidle keys =>
    exact h.of_idle (journal_resetToPending _ _) (fun _ _ => get?_resetToPending)
      (fun _ hkey => hkey) hidle
  | resumeAuth =>
    refine ⟨h.keys, h.synced, fun loop hloop => ?_⟩
    obtain ⟨hsub, hpending⟩ := h.loop loop hloop
    exact ⟨hsub, hpending⟩
  | reload => exact h.of_idle rfl (fun _ _ hget _ => hget) (fun _ hkey => hkey) rfl

/-! ## Order along runs -/

/-- A pending event before the posted one is with the server. -/
theorem pending_accepted {d : PosOfflineEvent} (h : s.Sound)
    (hloop : s.loop = some ⟨e :: rest, result⟩) (hearlier : s.store.Earlier d e)
    (hd : s.store.statusOf d = .PENDING) : d.key ∈ s.accepted := by
  obtain ⟨hsub, hpending⟩ := h.loop _ hloop
  rcases hpending e (by simp) d hearlier hd with hin | haccepted
  · exfalso
    obtain ⟨before, after, hsplit, hmem⟩ := hearlier
    have hnodup := List.Nodup.of_map _ h.keys
    rcases List.mem_cons.mp hin with rfl | hrest
    · exact not_mem_before h.keys hsplit hmem
    · have hafter := (sublist_after h.keys hsplit hsub).subset hrest
      rw [hsplit, List.nodup_append] at hnodup
      exact hnodup.2.2 d hmem d (List.mem_cons_of_mem e hafter) rfl
  · exact haccepted

/-- One step takes an event in order exactly where none is left behind. -/
theorem acceptsInOrder_iff (h : s.Sound) (a : SyncAction) :
    AcceptsInOrder s a ↔ NoneLeftBehind s a := by
  constructor
  · intro horder e he d hearlier hsame _
    exact horder e he d hearlier hsame
  · intro hnone e he d hearlier hsame
    cases hd : s.store.statusOf d with
    | PENDING =>
      obtain ⟨_, _, _, -, -, hloop⟩ := he
      exact pending_accepted h hloop hearlier hd
    | SYNCED => exact h.synced_event hd
    | FAILED => exact hnone e he d hearlier hsame (.inl hd)
    | REVIEW => exact hnone e he d hearlier hsame (.inr (.inl hd))
    | CANCELLED => exact hnone e he d hearlier hsame (.inr (.inr hd))

/-- Along every run the server takes the events of each order in journal order exactly
when no event is taken past one of its order that was left behind. -/
theorem accepted_in_order_iff {s s' : SyncSystem} {ts : List (SyncSystem × SyncAction × SyncSystem)}
    (hs : s.Sound) (h : Run SyncStep s ts s') :
    (∀ t ∈ ts, AcceptsInOrder t.1 t.2.1) ↔ ∀ t ∈ ts, NoneLeftBehind t.1 t.2.1 := by
  have hsound := (h.invariant (P := SyncSystem.Sound) (fun _ _ _ => sound_step) hs).2
  exact forall₂_congr fun t ht => acceptsInOrder_iff (hsound t ht).1 t.2.1

/-! ## A check that is created and paid offline -/

/-- The till with its journal, before any run. -/
def paidOffline : SyncSystem where
  store := appendEvent (appendEvent JournalStore.initial
    (.ORDER_CREATED (plainOrder "ofl_order" "ord-1" [] 1)))
    (.SALE_COMPLETED (plainSale "ofl_sale" "ord-1" [] 10 2))
  pausedForAuth := false
  loop := none
  accepted := []

/-- The server takes the event and says so. -/
def taken : PostOutcome := ⟨.response 200 true false none, true, true⟩

/-- The server answers with an error and does not take the event. -/
def unavailable : PostOutcome :=
  ⟨.thrown (.axios none (some "Request failed") (some (503, none))), true, false⟩

theorem taken_served : taken.Served :=
  ⟨fun _ => rfl, fun _ _ _ _ _ => .inl rfl⟩

theorem unavailable_served : unavailable.Served :=
  ⟨fun h => (by cases h), fun _ _ _ _ h => (by cases h)⟩

theorem paidOffline_sound : paidOffline.Sound := by
  have hidle : ({ paidOffline with store := JournalStore.initial } : SyncSystem).Sound :=
    ⟨List.nodup_nil, fun _ _ hget _ => (by cases hget), fun _ hloop => (by cases hloop)⟩
  exact sound_appendEvent (sound_appendEvent hidle _) _

/-- The steps of a run that posts the two events with these outcomes. -/
def twoPosts (first second : PostOutcome) : List (SyncSystem × SyncAction × SyncSystem) :=
  let order := PosOfflineEvent.ORDER_CREATED (plainOrder "ofl_order" "ord-1" [] 1)
  let sale := PosOfflineEvent.SALE_COMPLETED (plainSale "ofl_sale" "ord-1" [] 10 2)
  let s₁ := paidOffline.started true
  let s₂ := s₁.afterPost order [sale] ⟨0, 0, 0⟩ first
  let s₃ := s₂.afterPost sale [] ((s₂.loop.map (·.result)).getD ⟨0, 0, 0⟩) second
  [(paidOffline, .start true, s₁), (s₁, .post first, s₂), (s₂, .post second, s₃)]

theorem twoPosts_run {first second : PostOutcome} (hfirst : first.Served) (hsecond : second.Served)
    (hon : ((paidOffline.started true).afterPost
      (.ORDER_CREATED (plainOrder "ofl_order" "ord-1" [] 1))
      [.SALE_COMPLETED (plainSale "ofl_sale" "ord-1" [] 10 2)] ⟨0, 0, 0⟩ first).loop.map (·.rest) =
        some [.SALE_COMPLETED (plainSale "ofl_sale" "ord-1" [] 10 2)]) :
    ∃ s', Run SyncStep paidOffline (twoPosts first second) s' := by
  obtain ⟨loop, hloop, hrest⟩ := Option.map_eq_some_iff.mp hon
  refine ⟨_, .cons (.start paidOffline true) (.cons (.post ?_ hfirst)
    (.cons (.post ?_ hsecond) (.nil _)))⟩
  · rfl
  · rw [hloop, ← hrest]
    rfl

/-- Both posts succeed: the order is taken, then the sale. -/
theorem order_then_sale : paidOffline.Sound ∧
    ∀ t ∈ twoPosts taken taken, AcceptsInOrder t.1 t.2.1 := by
  obtain ⟨s', hrun⟩ := twoPosts_run taken_served taken_served (by decide +kernel)
  refine ⟨paidOffline_sound, (accepted_in_order_iff paidOffline_sound hrun).mpr ?_⟩
  have hstatus : ∀ t ∈ twoPosts taken taken, ∀ d ∈ t.1.store.journal,
      t.1.store.statusOf d = .PENDING ∨ t.1.store.statusOf d = .SYNCED := by
    decide +kernel
  intro t ht e _ d hearlier _ hleft
  obtain ⟨before, after, hsplit, hmem⟩ := hearlier
  have hd : d ∈ t.1.store.journal := by
    rw [hsplit]
    exact List.mem_append_left _ hmem
  rcases hstatus t ht d hd with h | h <;> rw [h] at hleft <;> simp at hleft

/-- The order is answered with a 503, and the run goes on: the server takes the sale of an
order it has not seen. -/
theorem sale_before_order :
    ¬ ∀ s' ts, Run SyncStep paidOffline ts s' → ∀ t ∈ ts, AcceptsInOrder t.1 t.2.1 := by
  intro h
  obtain ⟨s', hrun⟩ := twoPosts_run unavailable_served taken_served (by decide +kernel)
  have horder := h s' _ hrun _ (List.mem_cons_of_mem _ (List.mem_cons_of_mem _
    (List.mem_singleton.mpr rfl))) (.SALE_COMPLETED (plainSale "ofl_sale" "ord-1" [] 10 2))
    ⟨taken, [], ⟨0, 1, 0⟩, rfl, rfl, rfl⟩ (.ORDER_CREATED (plainOrder "ofl_order" "ord-1" [] 1))
    ⟨[.ORDER_CREATED (plainOrder "ofl_order" "ord-1" [] 1)], [], rfl, by simp⟩
    ⟨"ord-1", by decide +kernel, by decide +kernel⟩
  revert horder
  decide +kernel

end SmartErpPos.Offline
