/-
  Offline/SyncEngine.lean --- sending the journal to the server.

  Sources: `samplepos.client/src/services/offlineSyncEngine.ts` (`syncOfflineSales`),
  `lib/syncAuthGate.ts` (`readThrownSync`, `decideSyncPost`), `getUnsyncedEvents` of
  `lib/offlineEventJournal.ts`, and the replies of the server's `syncEventsRoutes.ts`.

  A run takes a snapshot of the unsynced events and posts them one by one.  Each post
  is a step of its own, so the till can append between two of them and the tab can be
  closed at any time.  The server's part is the outcome of a post: what it answers, and
  whether it has taken the event.  The customer look-up before a post is left out: it
  changes neither the key nor the order ids of an event.
-/
import SmartErpPos.Lib.Transition
import SmartErpPos.Offline.Journal

set_option autoImplicit false

namespace SmartErpPos.Offline

open SmartErpPos.Lib

/-! ## The auth gate -/

inductive SyncPostDecision where
  | synced
  | offlineStop
  | authStop
  | retry (message : String)
  | review (message : String)
  deriving DecidableEq

def RETRYABLE_STATUS : List ℕ := [408, 429, 500, 502, 503, 504]

/-- What a failed post throws: the interceptor's error, or the one of the HTTP client. -/
inductive SyncError where
  | handled (httpStatus : Option ℕ) (message : Option String)
  | axios (code : Option String) (message : Option String) (response : Option (ℕ × Option String))

structure ThrownSync where
  network : Bool
  status : Option ℕ
  message : String

/-- `a || b` of two texts of which the first may be missing or empty. -/
def orText (s : Option String) (otherwise : String) : String :=
  match s with
  | some t => if t = "" then otherwise else t
  | none => otherwise

/-- `readThrownSync`. -/
def readThrownSync : SyncError → ThrownSync
  | .handled httpStatus message => ⟨false, httpStatus, orText message "Sync error"⟩
  | .axios code message response =>
    { network := decide (code = some "ERR_NETWORK") || response.isNone
      status := response.map (·.1)
      message := orText (response.bind (·.2)) (orText message "Sync error") }

/-- `decideSyncPost`. -/
def decideSyncPost (network online : Bool) (status : Option ℕ) (message : String) :
    SyncPostDecision :=
  if network || !online then .offlineStop
  else
    match status with
    | none => .review message
    | some code =>
      if code = 409 then .synced
      else if code = 401 ∨ code = 403 then .authStop
      else if code ∈ RETRYABLE_STATUS then .retry message
      else .review message

/-! ## One post -/

/-- What the client sees of a post. -/
inductive PostReply where
  | response (status : ℕ) (success requiresReview : Bool) (error : Option String)
  | thrown (err : SyncError)

structure PostOutcome where
  reply : PostReply
  /-- `navigator.onLine` when the reply is handled. -/
  online : Bool
  /-- The server has taken the event, now or before, whatever becomes of its reply. -/
  accepted : Bool

/-- A reply that tells the client that the server has the event. -/
def PostReply.confirms : PostReply → Bool
  | .response status success _ _ => success || decide (status = 409)
  | .thrown err => decide ((readThrownSync err).status = some 409)

/-- The outcomes the sync route produces: it confirms what it has taken, and a response
that is not an error confirms or asks for review. -/
structure PostOutcome.Served (outcome : PostOutcome) : Prop where
  confirmed : outcome.reply.confirms = true → outcome.accepted = true
  answered : ∀ status success requiresReview error,
    outcome.reply = .response status success requiresReview error →
      outcome.reply.confirms = true ∨ requiresReview = true

structure SyncResult where
  synced : ℕ
  failed : ℕ
  review : ℕ

/-- A run that is going on: the events of its snapshot still to post, and its counts. -/
structure SyncLoop where
  rest : List PosOfflineEvent
  result : SyncResult

structure SyncSystem where
  store : JournalStore
  /-- `pos_sync_paused_for_auth`. -/
  pausedForAuth : Bool
  loop : Option SyncLoop
  /-- The keys of the events the server has taken. -/
  accepted : List String

/-- `getUnsyncedEvents`. -/
def getUnsyncedEvents (store : JournalStore) : List PosOfflineEvent :=
  store.journal.filter fun e =>
    let status := statusFromEntry (store.syncState.get? e.key)
    decide (status = .PENDING ∨ status = .FAILED)

/-- What the loop does with one reply. -/
inductive LoopVerdict where
  | synced
  | review (error : Option String)
  | failed (error : Option String)
  /-- No branch of the loop handles it; the next event follows. -/
  | ignored
  | offlineStop
  | authStop

/-- The branches of the loop body of `syncOfflineSales`. -/
def verdictOf (outcome : PostOutcome) : LoopVerdict :=
  match outcome.reply with
  | .response status success requiresReview error =>
    if success || decide (status = 409) then .synced
    else if requiresReview then .review error
    else
      match decideSyncPost false outcome.online (some status) (error.getD "Sync rejected") with
      | .authStop => .authStop
      | .review message => .review (some message)
      | .retry message => .failed (some message)
      | .synced => .ignored
      | .offlineStop => .ignored
  | .thrown err =>
    let thrown := readThrownSync err
    match decideSyncPost thrown.network outcome.online thrown.status thrown.message with
    | .offlineStop => .offlineStop
    | .synced => .synced
    | .authStop => .authStop
    | .review message => .review (some message)
    | .retry message => .failed (some message)

/-- The loop after one event; with nothing left to post the run is over. -/
def SyncLoop.next (rest : List PosOfflineEvent) (result : SyncResult) : Option SyncLoop :=
  if rest.isEmpty then none else some ⟨rest, result⟩

/-- One post of a run. -/
def SyncSystem.afterPost (s : SyncSystem) (event : PosOfflineEvent) (rest : List PosOfflineEvent)
    (result : SyncResult) (outcome : PostOutcome) : SyncSystem :=
  let s := { s with accepted := if outcome.accepted then event.key :: s.accepted else s.accepted }
  match verdictOf outcome with
  | .synced =>
    { s with
      store := markSynced s.store event.key
      loop := SyncLoop.next rest { result with synced := result.synced + 1 } }
  | .review error =>
    { s with
      store := markReview s.store event.key error
      loop := SyncLoop.next rest { result with review := result.review + 1 } }
  | .failed error =>
    { s with
      store := markFailed s.store event.key error
      loop := SyncLoop.next rest { result with failed := result.failed + 1 } }
  | .ignored => { s with loop := SyncLoop.next rest result }
  | .offlineStop => { s with loop := none }
  | .authStop => { s with pausedForAuth := true, loop := none }

/-! ## Steps -/

/-- One key of `resetToPending`. -/
def setBack (store : JournalStore) (key : String) : JournalStore :=
  match store.syncState.get? key with
  | some entry =>
    if entry.status = .FAILED ∨ entry.status = .REVIEW then store.mark key .PENDING none else store
  | none => store

/-- `resetToPending`. -/
def resetToPending (store : JournalStore) (keys : List String) : JournalStore :=
  keys.foldl setBack store

inductive SyncAction where
  /-- The till records something. -/
  | append (event : PosOfflineEvent)
  /-- `syncOfflineSales` is called. -/
  | start (online : Bool)
  /-- The next event of the run is posted. -/
  | post (outcome : PostOutcome)
  /-- Failed and reviewed events are set back for a new try, between two runs. -/
  | retry (keys : List String)
  /-- A new login. -/
  | resumeAuth
  /-- The tab is loaded anew: a run that was going on is gone. -/
  | reload

/-- `syncOfflineSales` up to its first post. -/
def SyncSystem.started (s : SyncSystem) (online : Bool) : SyncSystem :=
  if s.pausedForAuth then s
  else if !online || s.loop.isSome then s
  else { s with loop := SyncLoop.next (getUnsyncedEvents s.store) ⟨0, 0, 0⟩ }

inductive SyncStep : SyncSystem → SyncAction → SyncSystem → Prop
  | append (s : SyncSystem) (event : PosOfflineEvent) :
      SyncStep s (.append event) { s with store := appendEvent s.store event }
  | start (s : SyncSystem) (online : Bool) : SyncStep s (.start online) (s.started online)
  | post {s : SyncSystem} {event : PosOfflineEvent} {rest : List PosOfflineEvent}
      {result : SyncResult} {outcome : PostOutcome}
      (hloop : s.loop = some ⟨event :: rest, result⟩) (hserved : outcome.Served) :
      SyncStep s (.post outcome) (s.afterPost event rest result outcome)
  | retry {s : SyncSystem} (hidle : s.loop = none) (keys : List String) :
      SyncStep s (.retry keys) { s with store := resetToPending s.store keys }
  | resumeAuth (s : SyncSystem) : SyncStep s .resumeAuth { s with pausedForAuth := false }
  | reload (s : SyncSystem) : SyncStep s .reload { s with loop := none }

end SmartErpPos.Offline
