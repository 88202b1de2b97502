/-
  Treasury/DocumentRaceInvariant.lean --- what each open call on a document may rely on.

  An invariant says for each open call what it has written, and that no other call has written
  the same settlement, holds the applications of the document, or holds the transaction
  numbers.  Every statement up to the commit keeps it: a call that goes on has written what it
  had, or a row that no other call holds.
-/
import SmartErpPos.Treasury.DocumentRace

set_option autoImplicit false

namespace SmartErpPos.Treasury

open SmartErpPos.Lib SmartErpPos.Ledger

/-! ## What a call has written -/

/-- What a call is about to add to the settled amount of a receipt. -/
def TreasuryCall.change : TreasuryCall → ReceiptKey → Money
  | .applying work _ => amountOn work.applied
  | .recording work application _ => amountOn (work.applied ++ [application])
  | .posting work => amountOn work.applied
  | .inserting work => amountOn work.applied
  | .journalled work _ _ => amountOn work.applied
  | .postMarked work _ _ => amountOn work.applied
  | .restoring work _ => fun receipt => -amountOn work.released receipt
  | .reversing work => fun receipt => -amountOn work.released receipt
  | .reverseJournalled work _ => fun receipt => -amountOn work.released receipt
  | .reverseMarked work _ => fun receipt => -amountOn work.released receipt
  | _ => fun _ => 0

/-- A document as it was, but for what the calls change. -/
structure SameDocument (doc doc' : TreasuryDocument) : Prop where
  number : doc'.documentNumber = doc.documentNumber
  type : doc'.documentType = doc.documentType
  reverses : doc'.reversesDocumentId = doc.reversesDocumentId

theorem SameDocument.keeps {doc doc' doc'' : TreasuryDocument} (h : SameDocument doc doc')
    (hnumber : doc''.documentNumber = doc'.documentNumber)
    (htype : doc''.documentType = doc'.documentType)
    (hreverses : doc''.reversesDocumentId = doc'.reversesDocumentId) : SameDocument doc doc'' :=
  ⟨hnumber.trans h.number, htype.trans h.type, hreverses.trans h.reverses⟩

def IsWorksheet (doc : TreasuryDocument) : Prop := doc.documentType = .DEPOSIT_WORKSHEET

/-- What an application says about its line. -/
def SettlementApplication.applies (a : SettlementApplication) : Option ReceiptKey × Money :=
  (some a.receipt, a.amount)

/-- A posting on its way through the receipt lines. -/
structure AppliesLines (start : TreasuryDb) (work : PostWork) (written : List SettlementApplication)
    (todo : DocumentLines) : Prop where
  same : SameDocument start.document work.doc
  worksheet : IsWorksheet start.document
  some : receiptLines work.lines ≠ []
  lines : written.map (·.applies) ++ todo.map (fun line => (receiptOf line.2,
    receiptAmount line.2)) = appliedBy work.lines

/-- A posting that has applied its receipts. -/
structure HasApplied (start : TreasuryDb) (work : PostWork) : Prop where
  same : SameDocument start.document work.doc
  worksheet : IsWorksheet start.document → receiptLines work.lines ≠ [] ∧
    work.applied.map (·.applies) = appliedBy work.lines
  plain : ¬ IsWorksheet start.document → work.applied = []

/-- A posting that has written the journal, or found it. -/
structure HasJournal (start db : TreasuryDb) (work : PostWork)
    (written : Option TreasuryJournal) : Prop where
  applied : HasApplied start work
  found : written = none → db.postings ≠ []
  wrote : ∀ j, written = some j → db.postings = [] ∧ j.documentId = db.documentId ∧
    j.reverses = start.document.reversesDocumentId ∧
    j.lines = journalLines start.document.documentNumber (linesOf work.lines)

/-- The journal of a reversing document. -/
structure ReversesDocument (db : TreasuryDb) (written : TreasuryJournal) : Prop where
  other : written.documentId ≠ db.documentId
  reverses : written.reverses = some db.documentId

/-- Where a call is. -/
def TreasuryCall.StageOk (start db : TreasuryDb) : TreasuryCall → Prop
  | .postRead _ _ doc => SameDocument start.document doc
  | .applying work todo => AppliesLines start work work.applied todo
  | .recording work application todo =>
    AppliesLines start work (work.applied ++ [application]) todo ∧
      application.reversed = false ∧ (work.settlements.get? application.receipt).isSome = true
  | .posting work => HasApplied start work
  | .inserting work => HasApplied start work
  | .journalled work written _ => HasJournal start db work written
  | .postMarked work written _ => HasJournal start db work written
  | .reverseRead doc => doc.status = .POSTED → db.postings ≠ []
  | .releasing work => db.postings ≠ [] ∧ work.settlements = .empty ∧ work.released = []
  | .restoring _ _ => db.postings ≠ []
  | .reversing _ => db.postings ≠ []
  | .reverseJournalled _ written => db.postings ≠ [] ∧ ReversesDocument db written
  | .reverseMarked _ written => db.postings ≠ [] ∧ ReversesDocument db written
  | _ => True

/-- What a call has written goes with what is committed. -/
structure CallOk (start db : TreasuryDb) (call : TreasuryCall) : Prop where
  settles : ∀ receipt s', call.settlements.get? receipt = some s' →
    ∃ s, db.settlements.get? receipt = some s ∧
      s'.settledAmount = s.settledAmount + call.change receipt
  untouched : ∀ receipt, call.settlements.get? receipt = none → call.change receipt = 0
  fresh : ∀ a ∈ call.applied, (call.settlements.get? a.receipt).isSome = true ∧
    a.reversed = false ∧ ∀ b ∈ db.applications, b.receipt ≠ a.receipt
  held : call.held ≠ [] → call.held = activeApplications db.applications
  stage : call.StageOk start db

variable {call call' : TreasuryCall} {id : CallId} {nextId : ℕ} {receipt : ReceiptKey}
  {work : PostWork}

/-- A call that has written nothing. -/
theorem CallOk.quiet {start db : TreasuryDb} (hsettlements : call.settlements = .empty)
    (hchange : ∀ receipt, call.change receipt = 0) (happlied : call.applied = [])
    (hheld : call.held = []) (hstage : call.StageOk start db) : CallOk start db call where
  settles receipt s' hget := by
    rw [hsettlements] at hget
    cases hget
  untouched receipt _ := hchange receipt
  fresh a ha := by
    rw [happlied] at ha
    cases ha
  held hne := absurd hheld hne
  stage := hstage

/-! ## The invariant -/

/-- What is committed. -/
structure Committed (start db : TreasuryDb) : Prop where
  id : db.documentId = start.documentId
  same : SameDocument start.document db.document
  other : start.document.reversesDocumentId ≠ some db.documentId
  keys : db.documentId < db.nextId
  effect : TakesEffectOnce start db
  unposted : db.postings = [] → db.document.status ≠ .POSTED ∧ db.applications = []
  plain : ¬ IsWorksheet start.document → db.applications = []
  unreversed : db.document.reversedByDocumentId = none → db.reversals = []

/-- Each open call is in order, and no row is written by two of them. -/
structure CallsOk (start db : TreasuryDb) : Prop where
  ok : ∀ {id call}, db.calls.get? id = some call → CallOk start db call
  settlements : ∀ {id id' call call' receipt}, db.calls.get? id = some call →
    db.calls.get? id' = some call' → (call.settlements.get? receipt).isSome = true →
    (call'.settlements.get? receipt).isSome = true → id = id'
  numbers : ∀ {id id' call call'}, db.calls.get? id = some call →
    db.calls.get? id' = some call' → call.journal.isSome = true → call'.journal.isSome = true →
    id = id'
  held : ∀ {id id' call call'}, db.calls.get? id = some call →
    db.calls.get? id' = some call' → call.held ≠ [] → call'.held ≠ [] → id = id'

structure RaceInv (start db : TreasuryDb) : Prop where
  committed : Committed start db
  calls : CallsOk start db

variable {start db : TreasuryDb}

/-- The call of another. -/
theorem mem_others {id' : CallId} (hne : id' ≠ id) (hget : db.calls.get? id' = some call) :
    call ∈ db.others id :=
  List.mem_map.mpr ⟨(id', call), List.mem_filter.mpr
    ⟨OrderedMap.get?_eq_some_iff.mp hget, decide_eq_true hne⟩, rfl⟩

/-- After a call has gone on, a call is that one or was there before. -/
theorem TreasuryDb.get?_put {id' : CallId} (hget : (db.calls.set id call).get? id' = some call') :
    (id' = id ∧ call' = call) ∨ (id' ≠ id ∧ db.calls.get? id' = some call') := by
  rw [OrderedMap.get?_set] at hget
  split at hget
  · rename_i hsame
    cases hget
    exact .inl ⟨hsame, rfl⟩
  · rename_i hne
    exact .inr ⟨hne, hget⟩

/-- No other call holds what this one has written. -/
structure Admits (db : TreasuryDb) (id : CallId) (call : TreasuryCall) : Prop where
  settlements : ∀ receipt, (call.settlements.get? receipt).isSome = true →
    ∀ call' ∈ db.others id, (call'.settlements.get? receipt).isSome = false
  numbers : call.journal.isSome = true → ∀ call' ∈ db.others id, call'.journal.isSome = false
  held : call.held ≠ [] → ∀ call' ∈ db.others id, call'.held = []

/-- An open call is admitted. -/
theorem CallsOk.admits (h : CallsOk start db) (hget : db.calls.get? id = some call) :
    Admits db id call := by
  have hother : ∀ call' ∈ db.others id, ∃ id', id' ≠ id ∧ db.calls.get? id' = some call' := by
    intro call' hmem
    obtain ⟨e, he, rfl⟩ := List.mem_map.mp hmem
    obtain ⟨hentry, hne⟩ := List.mem_filter.mp he
    exact ⟨e.1, of_decide_eq_true hne, OrderedMap.get?_eq_some_iff.mpr hentry⟩
  refine ⟨fun receipt hkey call' hmem => ?_, fun hjournal call' hmem => ?_,
    fun hheld call' hmem => ?_⟩
  · obtain ⟨id', hne, hget'⟩ := hother call' hmem
    rw [Bool.eq_false_iff]
    exact fun hkey' => hne (h.settlements hget' hget hkey' hkey)
  · obtain ⟨id', hne, hget'⟩ := hother call' hmem
    rw [Bool.eq_false_iff]
    exact fun hjournal' => hne (h.numbers hget' hget hjournal' hjournal)
  · obtain ⟨id', hne, hget'⟩ := hother call' hmem
    by_contra hheld'
    exact hne (h.held hget' hget hheld' hheld)

/-- What is written has not changed. -/
theorem Admits.congr (h : Admits db id call) (hsettlements : call'.settlements = call.settlements)
    (hjournal : call'.journal = call.journal) (hheld : call'.held = call.held) :
    Admits db id call' := by
  refine ⟨?_, ?_, ?_⟩
  · rw [hsettlements]
    exact h.settlements
  · rw [hjournal]
    exact h.numbers
  · rw [hheld]
    exact h.held

/-- Nothing is written. -/
theorem Admits.quiet (hsettlements : call.settlements = .empty) (hjournal : call.journal = none)
    (hheld : call.held = []) : Admits db id call := by
  refine ⟨fun receipt hkey => ?_, fun hsome => ?_, fun hne => absurd hheld hne⟩
  · rw [hsettlements] at hkey
    cases hkey
  · rw [hjournal] at hsome
    cases hsome

/-- A call that is in order and admitted takes its place among the calls. -/
theorem CallsOk.set (h : CallsOk start db) {db' : TreasuryDb}
    (hcalls : db'.calls = db.calls.set id call) (hadmits : Admits db id call)
    (hok : CallOk start db' call)
    (hothers : ∀ id' call', id' ≠ id → db.calls.get? id' = some call' → CallOk start db' call') :
    CallsOk start db' := by
  refine ⟨?_, ?_, ?_, ?_⟩
  · intro id' call' hget
    rw [hcalls] at hget
    rcases TreasuryDb.get?_put hget with ⟨-, rfl⟩ | ⟨hne, hold⟩
    · exact hok
    · exact hothers id' call' hne hold
  · intro id' id'' call' call'' receipt hget hget' hkey hkey'
    rw [hcalls] at hget hget'
    rcases TreasuryDb.get?_put hget with ⟨rfl, rfl⟩ | ⟨hne, hold⟩ <;>
      rcases TreasuryDb.get?_put hget' with ⟨rfl, rfl⟩ | ⟨hne', hold'⟩
    · rfl
    · rw [hadmits.settlements receipt hkey _ (mem_others hne' hold')] at hkey'
      cases hkey'
    · rw [hadmits.settlements receipt hkey' _ (mem_others hne hold)] at hkey
      cases hkey
    · exact h.settlements hold hold' hkey hkey'
  · intro id' id'' call' call'' hget hget' hsome hsome'
    rw [hcalls] at hget hget'
    rcases TreasuryDb.get?_put hget with ⟨rfl, rfl⟩ | ⟨hne, hold⟩ <;>
      rcases TreasuryDb.get?_put hget' with ⟨rfl, rfl⟩ | ⟨hne', hold'⟩
    · rfl
    · rw [hadmits.numbers hsome _ (mem_others hne' hold')] at hsome'
      cases hsome'
    · rw [hadmits.numbers hsome' _ (mem_others hne hold)] at hsome
      cases hsome
    · exact h.numbers hold hold' hsome hsome'
  · intro id' id'' call' call'' hget hget' hheld hheld'
    rw [hcalls] at hget hget'
    rcases TreasuryDb.get?_put hget with ⟨rfl, rfl⟩ | ⟨hne, hold⟩ <;>
      rcases TreasuryDb.get?_put hget' with ⟨rfl, rfl⟩ | ⟨hne', hold'⟩
    · rfl
    · exact absurd (hadmits.held hheld _ (mem_others hne' hold')) hheld'
    · exact absurd (hadmits.held hheld' _ (mem_others hne hold)) hheld
    · exact h.held hold hold' hheld hheld'

/-! ## Steps that commit nothing -/

/-- The rows are as they were. -/
theorem Committed.put (h : Committed start db) (id : CallId) (call : TreasuryCall)
    (hnext : db.nextId ≤ nextId) : Committed start ({ db with nextId := nextId }.put id call) where
  id := h.id
  same := h.same
  other := h.other
  keys := lt_of_lt_of_le h.keys hnext
  effect :=
    { posted := h.effect.posted
      reversed := h.effect.reversed
      stays := h.effect.stays
      lines := h.effect.lines
      receipts := h.effect.receipts
      settled := h.effect.settled }
  unposted := h.unposted
  plain := h.plain
  unreversed := h.unreversed

/-- A stage looks at the journals of the document only. -/
theorem TreasuryCall.StageOk.congr {db' : TreasuryDb} (h : call.StageOk start db)
    (hid : db'.documentId = db.documentId) (hgrows : db.postings ≠ [] → db'.postings ≠ [])
    (hnumbers : call.journal.isSome = true → db'.postings = db.postings) :
    call.StageOk start db' := by
  have hjournal : ∀ {work : PostWork} {written : Option TreasuryJournal},
      (written.isSome = true → db'.postings = db.postings) → HasJournal start db work written →
      HasJournal start db' work written := by
    intro work written hsame hok
    refine ⟨hok.applied, fun hnone => hgrows (hok.found hnone), fun j hj => ?_⟩
    rw [hsame (by rw [hj]; rfl), hid]
    exact hok.wrote j hj
  have hreverses : ∀ {written : TreasuryJournal}, ReversesDocument db written →
      ReversesDocument db' written := by
    intro written hok
    exact ⟨by rw [hid]; exact hok.other, by rw [hid]; exact hok.reverses⟩
  cases call with
  | journalled work written entryId => exact hjournal hnumbers h
  | postMarked work written entryId => exact hjournal hnumbers h
  | reverseRead doc => exact fun hposted => hgrows (h hposted)
  | releasing work => exact ⟨hgrows h.1, h.2⟩
  | restoring work todo => exact hgrows h
  | reversing work => exact hgrows h
  | reverseJournalled work written => exact ⟨hgrows h.1, hreverses h.2⟩
  | reverseMarked work written => exact ⟨hgrows h.1, hreverses h.2⟩
  | _ => exact h

/-- A call goes on. -/
theorem RaceInv.put (h : RaceInv start db) (hadmits : Admits db id call)
    (hok : CallOk start db call) (hnext : db.nextId ≤ nextId) :
    RaceInv start ({ db with nextId := nextId }.put id call) := by
  have hcongr : ∀ {call' : TreasuryCall}, CallOk start db call' →
      CallOk start ({ db with nextId := nextId }.put id call) call' := fun hok' =>
    ⟨hok'.settles, hok'.untouched, hok'.fresh, hok'.held,
      hok'.stage.congr rfl (fun hne => hne) fun _ => rfl⟩
  exact ⟨h.committed.put id call hnext, h.calls.set rfl hadmits (hcongr hok)
    fun _ _ _ hget => hcongr (h.calls.ok hget)⟩

/-- A call that has written nothing goes on. -/
theorem RaceInv.quiet (h : RaceInv start db) (hsettlements : call.settlements = .empty)
    (hchange : ∀ receipt, call.change receipt = 0) (happlied : call.applied = [])
    (hheld : call.held = []) (hjournal : call.journal = none) (hstage : call.StageOk start db) :
    RaceInv start (db.put id call) :=
  h.put (.quiet hsettlements hjournal hheld)
    (.quiet hsettlements hchange happlied hheld hstage) le_rfl

/-- A call rolls back. -/
theorem RaceInv.over (h : RaceInv start db) (id : CallId) (hnext : db.nextId ≤ nextId) :
    RaceInv start ({ db with nextId := nextId }.put id .over) := by
  refine h.put (.quiet rfl rfl rfl) ?_ hnext
  exact .quiet rfl (fun _ => rfl) rfl rfl trivial

/-- A call goes on where its check passes, and rolls back otherwise. -/
theorem RaceInv.goOn (h : RaceInv start db) {α : Type} {checked : Except TreasuryError α}
    {next : α → TreasuryCall} (hnext : db.nextId ≤ nextId)
    (hok : ∀ a, checked = .ok a → Admits db id (next a) ∧ CallOk start db (next a)) :
    RaceInv start ({ db with nextId := nextId }.goOn id checked next) := by
  unfold TreasuryDb.goOn
  cases checked with
  | error e => exact h.over id hnext
  | ok a =>
    obtain ⟨hadmits, hcall⟩ := hok a rfl
    exact h.put hadmits hcall hnext

/-- A call goes on and has written what it had. -/
theorem RaceInv.keeps (h : RaceInv start db) (hget : db.calls.get? id = some call)
    (hsettlements : call'.settlements = call.settlements) (hchange : call'.change = call.change)
    (happlied : call'.applied = call.applied) (hheld : call'.held = call.held)
    (hjournal : call'.journal = call.journal) (hstage : call'.StageOk start db) :
    RaceInv start (db.put id call') := by
  have hok := h.calls.ok hget
  refine h.put ((h.calls.admits hget).congr hsettlements hjournal hheld) ?_ le_rfl
  refine ⟨?_, ?_, ?_, ?_, hstage⟩
  · rw [hsettlements, hchange]
    exact hok.settles
  · rw [hsettlements, hchange]
    exact hok.untouched
  · rw [hsettlements, happlied]
    exact hok.fresh
  · rw [hheld]
    exact hok.held

/-! ## Posting -/

/-- The checks lead to the receipt lines, or straight to the journal. -/
theorem RaceInv.checked (h : RaceInv start db) {asApproval : Bool} {actorUserId : String}
    {doc : TreasuryDocument}
    (hget : db.calls.get? id = some (.postRead asApproval actorUserId doc)) :
    RaceInv start (db.goOn id (checkPosting asApproval doc db.lines) fun _ =>
      afterChecks asApproval actorUserId doc db.lines) := by
  have hsame : SameDocument start.document doc := (h.calls.ok hget).stage
  refine h.goOn le_rfl fun _ hchecked => ?_
  unfold checkPosting at hchecked
  simp only [bind_eq_ok, require_eq_ok] at hchecked
  obtain ⟨-, -, -, -, hsome⟩ := hchecked
  unfold afterChecks
  dsimp only
  split
  · rename_i htype
    have hworksheet : IsWorksheet start.document := hsame.type.symm.trans htype
    exact ⟨.quiet rfl rfl rfl,
      .quiet rfl (fun _ => rfl) rfl rfl ⟨hsame, hworksheet, hsome htype, rfl⟩⟩
  · rename_i htype
    have hplain : ¬ IsWorksheet start.document := fun hworksheet =>
      htype (hsame.type.trans hworksheet)
    exact ⟨.quiet rfl rfl rfl,
      .quiet rfl (fun _ => rfl) rfl rfl ⟨hsame, fun hw => absurd hw hplain, fun _ => rfl⟩⟩

/-- A row a call has written, or the committed one, with what the call has added. -/
theorem CallOk.view (hok : CallOk start db call) {s : ReceiptSettlement}
    (hread : (call.settlements.get? receipt <|> db.settlements.get? receipt) = some s) :
    ∃ before, db.settlements.get? receipt = some before ∧
      s.settledAmount = before.settledAmount + call.change receipt := by
  cases hown : call.settlements.get? receipt with
  | some own =>
    rw [hown] at hread
    cases hread
    exact hok.settles receipt s hown
  | none =>
    rw [hown] at hread
    exact ⟨s, hread, by rw [hok.untouched receipt hown, add_zero]⟩

/-- What a call adds to the row of one receipt: the row is new among those it has written. -/
theorem settles_set {written : Settlements} {change change' : ReceiptKey → Money}
    {s' before : ReceiptSettlement}
    (hsettles : ∀ k row, written.get? k = some row → ∃ s, db.settlements.get? k = some s ∧
      row.settledAmount = s.settledAmount + change k)
    (hbefore : db.settlements.get? receipt = some before)
    (hs' : s'.settledAmount = before.settledAmount + change' receipt)
    (hrest : ∀ k, k ≠ receipt → change' k = change k) :
    ∀ k row, (written.set receipt s').get? k = some row → ∃ s, db.settlements.get? k = some s ∧
      row.settledAmount = s.settledAmount + change' k := by
  intro k row hget
  rw [OrderedMap.get?_set] at hget
  split at hget
  · rename_i hsame
    cases hget
    subst hsame
    exact ⟨before, hbefore, hs'⟩
  · rename_i hne
    rw [hrest k hne]
    exact hsettles k row hget

theorem untouched_set {written : Settlements} {change change' : ReceiptKey → Money}
    {s' : ReceiptSettlement} (huntouched : ∀ k, written.get? k = none → change k = 0)
    (hrest : ∀ k, k ≠ receipt → change' k = change k) :
    ∀ k, (written.set receipt s').get? k = none → change' k = 0 := by
  intro k hget
  rw [OrderedMap.get?_set] at hget
  split at hget
  · cases hget
  · rename_i hne
    rw [hrest k hne]
    exact huntouched k hget

/-- One more row is written, which no other call holds. -/
theorem Admits.writes {s' : ReceiptSettlement} (h : Admits db id call)
    (hfree : db.settlementHeld id receipt = false)
    (hsettlements : call'.settlements = call.settlements.set receipt s')
    (hjournal : call'.journal = call.journal) (hheld : call'.held = call.held) :
    Admits db id call' := by
  refine ⟨fun k hkey other hmem => ?_, ?_, ?_⟩
  · rw [hsettlements, OrderedMap.get?_set] at hkey
    split at hkey
    · rename_i hsame
      subst hsame
      have hnone := List.any_eq_false.mp hfree other hmem
      rwa [Bool.not_eq_true] at hnone
    · exact h.settlements k hkey other hmem
  · rw [hjournal]
    exact h.numbers
  · rw [hheld]
    exact h.held

/-- The settlement of a receipt line is locked and updated. -/
theorem RaceInv.applies (h : RaceInv start db) {line : LineId × DocumentLine} {todo : DocumentLines}
    (hget : db.calls.get? id = some (.applying work (line :: todo)))
    (hfree : (receiptOf line.2).any (db.settlementHeld id) = false) :
    RaceInv start (db.goOn id (applyLine db work line) fun r => .recording r.1 r.2 todo) := by
  have hok := h.calls.ok hget
  refine h.goOn le_rfl fun r hr => ?_
  unfold applyLine readSettlement at hr
  simp only [bind_eq_ok, orThrow_eq_ok, pure_eq_ok] at hr
  obtain ⟨⟨receipt, s⟩, ⟨receipt', hreceipt, s', hread, hpair⟩, s'', happly, rfl⟩ := hr
  cases hpair
  rw [hreceipt, Option.any_some] at hfree
  obtain ⟨before, hbefore, hs⟩ := hok.view hread
  obtain ⟨hsettled, -, -⟩ := ReceiptSettlement.apply_ok happly
  have hchange : ∀ k, amountOn (work.applied ++ [applicationOf db.documentId line receipt]) k =
      amountOn work.applied k + if receipt = k then receiptAmount line.2 else 0 := by
    intro k
    rw [amountOn_append, amountOn_singleton, applicationOf_amount]
    rfl
  have hrest : ∀ k, k ≠ receipt →
      amountOn (work.applied ++ [applicationOf db.documentId line receipt]) k =
        amountOn work.applied k := by
    intro k hne
    rw [hchange, if_neg (Ne.symm hne), add_zero]
  refine ⟨(h.calls.admits hget).writes hfree rfl rfl rfl, ?_⟩
  refine ⟨settles_set hok.settles hbefore ?_ hrest, untouched_set hok.untouched hrest, ?_,
    fun hne => absurd rfl hne, ?_⟩
  · rw [hsettled, hs]
    change before.settledAmount + amountOn work.applied receipt + receiptAmount line.2 =
      before.settledAmount + amountOn _ receipt
    rw [hchange, if_pos rfl, add_assoc]
  · intro a ha
    obtain ⟨hkey, hactive, hnew⟩ := hok.fresh a ha
    refine ⟨?_, hactive, hnew⟩
    change ((work.settlements.set receipt s'').get? a.receipt).isSome = true
    rw [OrderedMap.get?_set]
    split
    · rfl
    · exact hkey
  · have hstage : AppliesLines start work work.applied (line :: todo) := hok.stage
    refine ⟨⟨hstage.same, hstage.worksheet, hstage.some, ?_⟩, rfl, ?_⟩
    · have hline : (applicationOf db.documentId line receipt).applies =
          (receiptOf line.2, receiptAmount line.2) := by
        unfold SettlementApplication.applies
        rw [applicationOf_amount, hreceipt]
        rfl
      rw [← hstage.lines, List.map_append, List.append_assoc]
      exact congrArg (_ ++ ·) (congrArg (· :: _) hline)
    · change ((work.settlements.set receipt s'').get? receipt).isSome = true
      rw [OrderedMap.get?_set_self]
      rfl

/-- The application of the line is inserted. -/
theorem RaceInv.records (h : RaceInv start db) {application : SettlementApplication}
    {todo : DocumentLines} (hget : db.calls.get? id = some (.recording work application todo)) :
    RaceInv start (db.goOn id (insertApplication db work application) fun work =>
      .applying work todo) := by
  have hok := h.calls.ok hget
  refine h.goOn le_rfl fun work' hwork' => ?_
  unfold insertApplication at hwork'
  simp only [bind_eq_ok, require_eq_ok, pure_eq_ok] at hwork'
  obtain ⟨-, -, -, hnew, rfl⟩ := hwork'
  obtain ⟨hlines, hactive, hkey⟩ := hok.stage
  refine ⟨(h.calls.admits hget).congr rfl rfl rfl, hok.settles, hok.untouched, ?_,
    fun hne => absurd rfl hne, ?_⟩
  · intro a ha
    rcases List.mem_append.mp ha with hold | hlast
    · exact hok.fresh a hold
    · rw [List.mem_singleton] at hlast
      subst hlast
      exact ⟨hkey, hactive, fun b hb => hnew b (List.mem_append_left _ hb)⟩
  · exact ⟨hlines.same, hlines.worksheet, hlines.some, hlines.lines⟩

/-- After the last receipt line. -/
theorem AppliesLines.hasApplied (h : AppliesLines start work work.applied []) :
    HasApplied start work where
  same := h.same
  worksheet _ := by
    have hlines := h.lines
    rw [List.map_nil, List.append_nil] at hlines
    exact ⟨h.some, hlines⟩
  plain hplain := absurd h.worksheet hplain

/-- The look-up of an earlier journal. -/
theorem RaceInv.looksUp (h : RaceInv start db) (hget : db.calls.get? id = some (.posting work))
    (checked : Except TreasuryError Unit) :
    RaceInv start (db.goOn id checked fun _ =>
      match db.postings.head? with
      | some existing => .journalled work none existing.transactionId
      | none => .inserting work) := by
  have hok := h.calls.ok hget
  refine h.goOn le_rfl fun _ _ => ?_
  have hheld : ([] : List SettlementApplication) ≠ [] → ([] : List SettlementApplication) =
    activeApplications db.applications := fun hne => absurd rfl hne
  cases hfound : db.postings.head? with
  | none =>
    exact ⟨(h.calls.admits hget).congr rfl rfl rfl,
      hok.settles, hok.untouched, hok.fresh, hheld, hok.stage⟩
  | some existing =>
    refine ⟨(h.calls.admits hget).congr rfl rfl rfl,
      hok.settles, hok.untouched, hok.fresh, hheld, hok.stage, fun _ hnone => ?_, nofun⟩
    rw [hnone] at hfound
    cases hfound

/-- The journal is inserted. -/
theorem RaceInv.inserts (h : RaceInv start db) (hget : db.calls.get? id = some (.inserting work))
    (hfree : db.numbersHeld id = false) (hnone : db.postings = []) :
    RaceInv start ({ db with nextId := db.nextId + 1 }.put id
      (.journalled work (some (ownJournal db work)) db.nextId)) := by
  have hok := h.calls.ok hget
  have happlied : HasApplied start work := hok.stage
  have hadmits : Admits db id (.journalled work (some (ownJournal db work)) db.nextId) := by
    refine ⟨(h.calls.admits hget).settlements, fun _ call' hmem => ?_, fun hne => absurd rfl hne⟩
    have hfalse := List.any_eq_false.mp hfree call' hmem
    rwa [Bool.not_eq_true] at hfalse
  refine h.put hadmits ?_ (Nat.le_succ _)
  refine ⟨hok.settles, hok.untouched, hok.fresh, fun hne => absurd rfl hne, happlied, nofun,
    fun j hj => ?_⟩
  cases hj
  refine ⟨hnone, rfl, happlied.same.reverses, ?_⟩
  change journalLines work.doc.documentNumber _ = _
  rw [happlied.same.number]

/-! ## Reversing -/

/-- A reversal has read the document. -/
theorem RaceInv.reads (h : RaceInv start db) {doc : TreasuryDocument}
    (hget : db.calls.get? id = some (.reverseRead doc)) :
    RaceInv start (db.goOn id (checkReverse doc) fun _ =>
      if doc.documentType = .DEPOSIT_WORKSHEET then .releasing ⟨doc, db.lines, .empty, []⟩
      else .reversing ⟨doc, db.lines, .empty, []⟩) := by
  have hposted : doc.status = .POSTED → db.postings ≠ [] := (h.calls.ok hget).stage
  refine h.goOn le_rfl fun _ hchecked => ?_
  unfold checkReverse at hchecked
  simp only [bind_eq_ok, require_eq_ok] at hchecked
  obtain ⟨-, -, -, hstatus, -⟩ := hchecked
  split
  · exact ⟨.quiet rfl rfl rfl,
      .quiet rfl (fun _ => rfl) rfl rfl ⟨hposted hstatus, rfl, rfl⟩⟩
  · exact ⟨.quiet rfl rfl rfl, .quiet rfl (fun _ => neg_zero) rfl rfl (hposted hstatus)⟩

/-- The applications of the document are locked. -/
theorem RaceInv.holdsApplications (h : RaceInv start db) {work : ReverseWork}
    (hget : db.calls.get? id = some (.releasing work)) (hfree : db.applicationsHeld id = false) :
    RaceInv start (db.put id (.restoring work (activeApplications db.applications))) := by
  obtain ⟨hposted, hsettlements, hreleased⟩ := (h.calls.ok hget).stage
  have hchange : ∀ receipt, (TreasuryCall.restoring work
      (activeApplications db.applications)).change receipt = 0 := by
    intro receipt
    change -amountOn work.released receipt = 0
    rw [hreleased, amountOn_nil, neg_zero]
  have hadmits : Admits db id (.restoring work (activeApplications db.applications)) := by
    refine ⟨fun receipt hkey => ?_, nofun, fun _ call' hmem => ?_⟩
    · change (work.settlements.get? receipt).isSome = true at hkey
      rw [hsettlements] at hkey
      cases hkey
    · have hfalse := List.any_eq_false.mp hfree call' hmem
      rw [decide_eq_true_iff, not_not] at hfalse
      exact hfalse
  refine h.put hadmits ⟨fun receipt s' hrow => ?_, fun receipt _ => hchange receipt, nofun,
    fun _ => ?_, hposted⟩ le_rfl
  · change work.settlements.get? receipt = some s' at hrow
    rw [hsettlements] at hrow
    cases hrow
  · change work.released ++ activeApplications db.applications = _
    rw [hreleased]
    rfl

/-- One application is taken back. -/
theorem RaceInv.restores (h : RaceInv start db) {work : ReverseWork}
    {application : SettlementApplication} {todo : List SettlementApplication}
    (hget : db.calls.get? id = some (.restoring work (application :: todo)))
    (hfree : db.settlementHeld id application.receipt = false) :
    RaceInv start (db.goOn id (releaseApplication db work application) fun work =>
      .restoring work todo) := by
  have hok := h.calls.ok hget
  refine h.goOn le_rfl fun work' hwork' => ?_
  unfold releaseApplication at hwork'
  simp only [bind_eq_ok, orThrow_eq_ok, pure_eq_ok] at hwork'
  obtain ⟨s, hread, s', hrelease, rfl⟩ := hwork'
  obtain ⟨before, hbefore, hs⟩ := hok.view hread
  obtain ⟨hsettled, -⟩ := ReceiptSettlement.release_ok hrelease
  have hchange : ∀ k, -amountOn (work.released ++ [application]) k =
      -amountOn work.released k - if application.receipt = k then application.amount else 0 := by
    intro k
    rw [amountOn_append, amountOn_singleton, neg_add']
  have hrest : ∀ k, k ≠ application.receipt →
      -amountOn (work.released ++ [application]) k = -amountOn work.released k := by
    intro k hne
    rw [hchange, if_neg (Ne.symm hne), sub_zero]
  have hheld : work.released ++ [application] ++ todo = work.released ++ application :: todo := by
    rw [List.append_assoc]
    rfl
  refine ⟨(h.calls.admits hget).writes hfree rfl rfl hheld, ?_⟩
  refine ⟨settles_set hok.settles hbefore ?_ hrest, untouched_set hok.untouched hrest, nofun, ?_,
    hok.stage⟩
  · rw [hsettled, hs]
    change before.settledAmount + -amountOn work.released application.receipt -
      application.amount = before.settledAmount + -amountOn _ application.receipt
    rw [hchange, if_pos rfl, add_sub_assoc]
  · change work.released ++ [application] ++ todo ≠ [] →
      work.released ++ [application] ++ todo = _
    rw [hheld]
    exact hok.held

/-- The journal of the reversing document is inserted. -/
theorem RaceInv.reverses (h : RaceInv start db) {work : ReverseWork}
    (hget : db.calls.get? id = some (.reversing work)) (hfree : db.numbersHeld id = false) :
    RaceInv start ({ db with nextId := db.nextId + work.lines.length + 2 }.goOn id
      (reversingJournal db work) fun written => .reverseJournalled work written) := by
  have hok := h.calls.ok hget
  refine h.goOn (by omega) fun written hwritten => ?_
  unfold reversingJournal at hwritten
  simp only [bind_eq_ok, pure_eq_ok] at hwritten
  obtain ⟨lines, -, -, -, -, -, rfl⟩ := hwritten
  have hadmits := h.calls.admits hget
  refine ⟨⟨hadmits.settlements, fun _ call' hmem => ?_, hadmits.held⟩, hok.settles, hok.untouched,
    hok.fresh, hok.held, hok.stage, ?_, rfl⟩
  · have hfalse := List.any_eq_false.mp hfree call' hmem
    rwa [Bool.not_eq_true] at hfalse
  · exact h.committed.keys.ne'

end SmartErpPos.Treasury
