/-
  Treasury/DocumentRace.lean --- calls on one treasury document, statement by statement.

  Source: `modules/treasury/treasuryService.ts` with the statements of `treasuryRepository.ts`
  and `receiptSettlementRepository.ts`, run as transactions under READ COMMITTED.

  A statement reads what is committed and what its own transaction has written; a write waits
  for a row another open transaction has written.  The document is read without a lock, and
  its status is written without looking at the row again.  What protects it are the unique key
  of the journal, the settlement rows a worksheet locks, the unique key of an application and
  its reference to the line.

  A row that is locked stays as it is until its holder ends, so consecutive statements on one
  row are one step here.
-/
import SmartErpPos.Lib.Transition
import SmartErpPos.Treasury.Settlements

set_option autoImplicit false

namespace SmartErpPos.Treasury

open SmartErpPos.Lib SmartErpPos.Ledger

/-! ## Calls -/

abbrev CallId := ℕ

/-- A journal of treasury documents.  Its idempotency key `TREASURY-POST-<document>` is
unique. -/
structure TreasuryJournal where
  transactionId : TransactionId
  documentId : DocumentId
  /-- The document that document reverses. -/
  reverses : Option DocumentId
  lines : List JournalLine
  deriving DecidableEq

structure UpdateDocumentInput where
  requiresApproval : Option Bool
  lines : Option (List DocumentLineInput)
  expectedRowVersion : ℕ

/-- What a posting has read, and the rows it has written. -/
structure PostWork where
  asApproval : Bool
  actorUserId : String
  doc : TreasuryDocument
  lines : DocumentLines
  settlements : Settlements
  applied : List SettlementApplication

/-- What a reversal has read, the applications it holds and has still to take back, and the
rows it has written. -/
structure ReverseWork where
  doc : TreasuryDocument
  lines : DocumentLines
  settlements : Settlements
  released : List SettlementApplication

/-- A call and the statement it is at. -/
inductive TreasuryCall where
  | postBegun (asApproval : Bool) (actorUserId : String)
  | postRead (asApproval : Bool) (actorUserId : String) (doc : TreasuryDocument)
  | applying (work : PostWork) (todo : DocumentLines)
  | recording (work : PostWork) (application : SettlementApplication) (todo : DocumentLines)
  | posting (work : PostWork)
  | inserting (work : PostWork)
  /-- With the journal it has written, or the one that was there. -/
  | journalled (work : PostWork) (written : Option TreasuryJournal) (entryId : TransactionId)
  | postMarked (work : PostWork) (written : Option TreasuryJournal) (entryId : TransactionId)
  | reverseBegun
  | reverseRead (doc : TreasuryDocument)
  | releasing (work : ReverseWork)
  | restoring (work : ReverseWork) (todo : List SettlementApplication)
  | reversing (work : ReverseWork)
  | reverseJournalled (work : ReverseWork) (written : TreasuryJournal)
  | reverseMarked (work : ReverseWork) (written : TreasuryJournal)
  | updateBegun (input : UpdateDocumentInput)
  | updateChecked (input : UpdateDocumentInput)
  | deleting (input : UpdateDocumentInput) (lines : List DocumentLineInput)
  | replacing (input : UpdateDocumentInput) (lines : List DocumentLineInput)
      (deleted : List LineId)
  | updating (input : UpdateDocumentInput) (deleted : List LineId) (inserted : DocumentLines)
  | updated (input : UpdateDocumentInput) (deleted : List LineId) (inserted : DocumentLines)
  | rejectBegun
  | rejecting
  | rejected
  | over

/-- The committed rows of the document, and the calls.  `nextId` is the first unused key. -/
structure TreasuryDb where
  documentId : DocumentId
  document : TreasuryDocument
  lines : DocumentLines
  settlements : Settlements
  /-- The applications of the document. -/
  applications : List SettlementApplication
  /-- The journals of the document and of those that reverse it. -/
  journals : List TreasuryJournal
  nextId : ℕ
  calls : OrderedMap CallId TreasuryCall

/-! ## What a call has written -/

namespace TreasuryCall

/-- Settlement rows. -/
def settlements : TreasuryCall → Settlements
  | .applying work _ => work.settlements
  | .recording work _ _ => work.settlements
  | .posting work => work.settlements
  | .inserting work => work.settlements
  | .journalled work _ _ => work.settlements
  | .postMarked work _ _ => work.settlements
  | .restoring work _ => work.settlements
  | .reversing work => work.settlements
  | .reverseJournalled work _ => work.settlements
  | .reverseMarked work _ => work.settlements
  | _ => .empty

/-- New applications. -/
def applied : TreasuryCall → List SettlementApplication
  | .applying work _ => work.applied
  | .recording work _ _ => work.applied
  | .posting work => work.applied
  | .inserting work => work.applied
  | .journalled work _ _ => work.applied
  | .postMarked work _ _ => work.applied
  | _ => []

/-- Applications it holds to take them back. -/
def held : TreasuryCall → List SettlementApplication
  | .restoring work todo => work.released ++ todo
  | .reversing work => work.released
  | .reverseJournalled work _ => work.released
  | .reverseMarked work _ => work.released
  | _ => []

/-- A journal; it comes with the lock on the transaction numbers. -/
def journal : TreasuryCall → Option TreasuryJournal
  | .journalled _ written _ => written
  | .postMarked _ written _ => written
  | .reverseJournalled _ written => some written
  | .reverseMarked _ written => some written
  | _ => none

/-- Lines: the keys of those it has deleted, and those it has inserted. -/
def lineWrites : TreasuryCall → List LineId × DocumentLines
  | .replacing _ _ deleted => (deleted, [])
  | .updating _ deleted inserted => (deleted, inserted)
  | .updated _ deleted inserted => (deleted, inserted)
  | _ => ([], [])

/-- The row of the document. -/
def marks : TreasuryCall → Bool
  | .postMarked _ _ _ => true
  | .reverseMarked _ _ => true
  | .updated _ _ _ => true
  | .rejected => true
  | _ => false

end TreasuryCall

namespace TreasuryDb

variable (db : TreasuryDb)

/-- Another call than the given one. -/
def others (id : CallId) : List TreasuryCall :=
  (db.calls.entries.filter fun e => decide (e.1 ≠ id)).map Prod.snd

def settlementHeld (id : CallId) (receipt : ReceiptKey) : Bool :=
  (db.others id).any fun call => (call.settlements.get? receipt).isSome

def applicationsHeld (id : CallId) : Bool := (db.others id).any fun call => decide (call.held ≠ [])

def numbersHeld (id : CallId) : Bool := (db.others id).any fun call => call.journal.isSome

def documentHeld (id : CallId) : Bool := (db.others id).any fun call => call.marks

/-- Another call has written lines. -/
def linesWritten (id : CallId) : Bool :=
  (db.others id).any fun call => decide (call.lineWrites ≠ ([], []))

/-- Another call has deleted the line. -/
def lineDeleted (id : CallId) (line : LineId) : Bool :=
  (db.others id).any fun call => decide (line ∈ call.lineWrites.1)

/-- Another call has deleted a line of the document, or a new application of it refers to one. -/
def linesHeld (id : CallId) : Bool :=
  db.lines.any fun line => db.lineDeleted id line.1 || (db.others id).any fun call =>
    call.applied.any fun a => decide (a.treasuryDocumentLineId = line.1)

def put (id : CallId) (call : TreasuryCall) : TreasuryDb :=
  { db with calls := db.calls.set id call }

/-- A call goes on where a check passes, and rolls back where it fails. -/
def goOn {α : Type} (id : CallId) (checked : Except TreasuryError α) (next : α → TreasuryCall) :
    TreasuryDb :=
  match checked with
  | .ok a => db.put id (next a)
  | .error _ => db.put id .over

/-- The journals of the document itself. -/
def postings : List TreasuryJournal :=
  db.journals.filter fun j => decide (j.documentId = db.documentId)

/-- The journals of documents that reverse it. -/
def reversals : List TreasuryJournal :=
  db.journals.filter fun j => decide (j.reverses = some db.documentId)

/-! ## Commits -/

/-- The rows a call has written replace the committed ones. -/
def settlementsWith (written : Settlements) : Settlements :=
  db.settlements.mapWithKey fun receipt s => (written.get? receipt).getD s

/-- The posted document. -/
def commitPost (id : CallId) (work : PostWork) (written : Option TreasuryJournal)
    (entryId : TransactionId) : TreasuryDb :=
  { db with
    document :=
      { db.document with
        status := .POSTED
        journalEntryId := some entryId
        approvedBy :=
          if work.asApproval = true ∨ work.doc.requiresApproval = true then some work.actorUserId
          else work.doc.approvedBy <|> db.document.approvedBy
        rowVersion := db.document.rowVersion + 1 }
    settlements := db.settlementsWith work.settlements
    applications := db.applications ++ work.applied
    journals := db.journals ++ written.toList
    calls := db.calls.set id .over }

def commitReverse (id : CallId) (work : ReverseWork) (written : TreasuryJournal) : TreasuryDb :=
  { db with
    document :=
      { db.document with
        status := .POSTED
        reversedByDocumentId := some written.documentId
        rowVersion := db.document.rowVersion + 1 }
    settlements := db.settlementsWith work.settlements
    applications := db.applications.map fun a =>
      if a ∈ work.released then { a with reversed := true } else a
    journals := db.journals ++ [written]
    calls := db.calls.set id .over }

/-- The lines after a replacement. -/
def linesAfter (deleted : List LineId) (inserted : DocumentLines) : DocumentLines :=
  db.lines.filter (fun line => decide (line.1 ∉ deleted)) ++ inserted

def commitUpdate (id : CallId) (input : UpdateDocumentInput) (deleted : List LineId)
    (inserted : DocumentLines) : TreasuryDb :=
  { db with
    document :=
      { db.document with
        requiresApproval := input.requiresApproval.getD db.document.requiresApproval
        rowVersion := db.document.rowVersion + 1 }
    lines := db.linesAfter deleted inserted
    calls := db.calls.set id .over }

/-- `clearApprovalOnReject`, committed. -/
def commitReject (id : CallId) : TreasuryDb :=
  { db with
    document :=
      { db.document with
        status := .DRAFT
        approvedBy := none
        rowVersion := db.document.rowVersion + 1 }
    calls := db.calls.set id .over }

end TreasuryDb

/-! ## Statements -/

/-- The line a receipt is applied for, with the row of the receipt. -/
def readSettlement (db : TreasuryDb) (work : PostWork) (line : LineId × DocumentLine) :
    Except TreasuryError (ReceiptKey × ReceiptSettlement) := do
  let receipt ← orThrow (receiptOf line.2)
    (.validation "Receipt application line is missing source identity")
  let s ← orThrow (work.settlements.get? receipt <|> db.settlements.get? receipt)
    (.notFound "Receipt settlement not found")
  pure (receipt, s)

/-- `applySettlement` for a line, up to the insertion of the application. -/
def applyLine (db : TreasuryDb) (work : PostWork) (line : LineId × DocumentLine) :
    Except TreasuryError (PostWork × SettlementApplication) := do
  let (receipt, s) ← readSettlement db work line
  let s' ← s.apply (receiptAmount line.2).toRat line.2.description
  pure ({ work with settlements := work.settlements.set receipt s' },
    applicationOf db.documentId line receipt)

/-- The insertion of an application: its line is there, and its receipt is new. -/
def insertApplication (db : TreasuryDb) (work : PostWork) (application : SettlementApplication) :
    Except TreasuryError PostWork := do
  let _ ← require (∃ line ∈ db.lines, line.1 = application.treasuryDocumentLineId)
    (.database "receipt_settlement_applications_treasury_document_line_id_fkey")
  let _ ← require (∀ a ∈ db.applications ++ work.applied, a.receipt ≠ application.receipt)
    (.database "uq_rsa_doc_settlement")
  pure { work with applied := work.applied ++ [application] }

/-- The update of the settlement of an application that is taken back. -/
def releaseApplication (db : TreasuryDb) (work : ReverseWork)
    (application : SettlementApplication) : Except TreasuryError ReverseWork := do
  let s ← orThrow
    (work.settlements.get? application.receipt <|> db.settlements.get? application.receipt)
    (.database "receipt_settlement_applications_receipt_settlement_id_fkey")
  let s' ← s.release application.amount
  pure
    { work with
      settlements := work.settlements.set application.receipt s'
      released := work.released ++ [application] }

/-- What `post` and `approve` check once the document and its lines are read. -/
def checkPosting (asApproval : Bool) (doc : TreasuryDocument) (lines : DocumentLines) :
    Except TreasuryError Unit := do
  checkApprove asApproval doc
  checkPost asApproval doc (linesOf lines)
  require (doc.documentType = .DEPOSIT_WORKSHEET → receiptLines lines ≠ [])
    (.validation "Deposit Worksheet has no receipt application lines")

/-- Where a posting goes once it has passed its checks. -/
def afterChecks (asApproval : Bool) (actorUserId : String) (doc : TreasuryDocument)
    (lines : DocumentLines) : TreasuryCall :=
  let work : PostWork := ⟨asApproval, actorUserId, doc, lines, .empty, []⟩
  if doc.documentType = .DEPOSIT_WORKSHEET then .applying work (receiptLines lines)
  else .posting work

/-- The journal of the document. -/
def ownJournal (db : TreasuryDb) (work : PostWork) : TreasuryJournal where
  transactionId := db.nextId
  documentId := db.documentId
  reverses := work.doc.reversesDocumentId
  lines := journalLines work.doc.documentNumber (linesOf work.lines)

/-- The reversing document, its checks and its journal; its number is its key. -/
def reversingJournal (db : TreasuryDb) (work : ReverseWork) :
    Except TreasuryError TreasuryJournal := do
  let lines ← storedLines db.nextId (work.lines.map fun line => line.2.opposite)
  assertBalancedLines (linesOf lines)
  let journal := journalLines ("TD-" ++ toString db.nextId) (linesOf lines)
  checkJournal journal
  pure
    { transactionId := db.nextId + 1
      documentId := db.nextId
      reverses := some db.documentId
      lines := journal }

/-- The next statement of a call; nothing while it waits for a row. -/
def TreasuryDb.run (db : TreasuryDb) (id : CallId) : Option TreasuryDb :=
  match db.calls.get? id with
  | none => none
  | some .over => none
  | some (.postBegun asApproval actorUserId) =>
    some (db.put id (.postRead asApproval actorUserId db.document))
  | some (.postRead asApproval actorUserId doc) =>
    some (db.goOn id (checkPosting asApproval doc db.lines) fun _ =>
      afterChecks asApproval actorUserId doc db.lines)
  | some (.applying work []) => some (db.put id (.posting work))
  | some (.applying work (line :: todo)) =>
    if (receiptOf line.2).any (db.settlementHeld id) then none
    else some (db.goOn id (applyLine db work line) fun r => .recording r.1 r.2 todo)
  | some (.recording work application todo) =>
    if db.lineDeleted id application.treasuryDocumentLineId then none
    else some (db.goOn id (insertApplication db work application) fun work =>
      .applying work todo)
  | some (.posting work) =>
    some (db.goOn id (checkJournal (journalLines work.doc.documentNumber (linesOf work.lines)))
      fun _ =>
        match db.postings.head? with
        | some existing => .journalled work none existing.transactionId
        | none => .inserting work)
  | some (.inserting work) =>
    if db.numbersHeld id then none
    -- The look-up is not made again: the unique key refuses a second journal.
    else if db.postings = [] then
      some ({ db with nextId := db.nextId + 1 }.put id
        (.journalled work (some (ownJournal db work)) db.nextId))
    else some (db.put id .over)
  | some (.journalled work written entryId) =>
    if db.documentHeld id then none else some (db.put id (.postMarked work written entryId))
  | some (.postMarked work written entryId) =>
    match assertPostedAuditFields (db.commitPost id work written entryId).document with
    | .ok _ => some (db.commitPost id work written entryId)
    | .error _ => some (db.put id .over)
  | some .reverseBegun => some (db.put id (.reverseRead db.document))
  | some (.reverseRead doc) =>
    some (db.goOn id (checkReverse doc) fun _ =>
      if doc.documentType = .DEPOSIT_WORKSHEET then .releasing ⟨doc, db.lines, .empty, []⟩
      else .reversing ⟨doc, db.lines, .empty, []⟩)
  | some (.releasing work) =>
    -- Rows that another call has reversed in the meantime no longer qualify.
    if db.applicationsHeld id then none
    else some (db.put id (.restoring work (activeApplications db.applications)))
  | some (.restoring work []) => some (db.put id (.reversing work))
  | some (.restoring work (application :: todo)) =>
    if db.settlementHeld id application.receipt then none
    else some (db.goOn id (releaseApplication db work application) fun work =>
      .restoring work todo)
  | some (.reversing work) =>
    if db.numbersHeld id then none
    else some ({ db with nextId := db.nextId + work.lines.length + 2 }.goOn id
      (reversingJournal db work) fun written => .reverseJournalled work written)
  | some (.reverseJournalled work written) =>
    if db.documentHeld id then none else some (db.put id (.reverseMarked work written))
  | some (.reverseMarked work written) => some (db.commitReverse id work written)
  | some (.updateBegun input) =>
    some (db.goOn id (checkUpdateDraft db.document) fun _ => .updateChecked input)
  | some (.updateChecked input) =>
    some (db.goOn id (require (db.document.rowVersion = input.expectedRowVersion)
      (.conflict "Treasury Document was modified by another user")) fun _ =>
        match input.lines with
        | some lines => .deleting input lines
        | none => .updating input [] [])
  | some (.deleting input lines) =>
    if db.linesHeld id then none
    else some (db.goOn id (require
      (∀ line ∈ db.lines, ∀ a ∈ db.applications, a.treasuryDocumentLineId ≠ line.1)
      (.database "receipt_settlement_applications_treasury_document_line_id_fkey"))
      fun _ => .replacing input lines (db.lines.map Prod.fst))
  | some (.replacing input lines deleted) =>
    if lines ≠ [] ∧ db.linesWritten id = true then none
    -- Line numbers begin at one, so the first insertion meets any line that is left.
    else some ({ db with nextId := db.nextId + lines.length }.goOn id (do
        let _ ← require (lines = [] ∨ ∀ line ∈ db.lines, line.1 ∈ deleted)
          (.database "uq_td_line_number")
        storedLines db.nextId lines)
      fun inserted => .updating input deleted inserted)
  | some (.updating input deleted inserted) =>
    if db.documentHeld id then none else some (db.put id (.updated input deleted inserted))
  | some (.updated input deleted inserted) => some (db.commitUpdate id input deleted inserted)
  | some .rejectBegun => some (db.goOn id (checkReject db.document) fun _ => .rejecting)
  | some .rejecting => if db.documentHeld id then none else some (db.put id .rejected)
  | some .rejected => some (db.commitReject id)

/-- The calls. -/
inductive TreasuryRequest where
  | post (actorUserId : String)
  | approve (actorUserId : String)
  | reject
  | updateDraft (input : UpdateDocumentInput)
  | reverse

def TreasuryRequest.begun : TreasuryRequest → TreasuryCall
  | .post actorUserId => .postBegun false actorUserId
  | .approve actorUserId => .postBegun true actorUserId
  | .reject => .rejectBegun
  | .updateDraft input => .updateBegun input
  | .reverse => .reverseBegun

/-- A call begins, runs its next statement, or fails for another reason and rolls back. -/
inductive TreasuryAction where
  | start (id : CallId) (request : TreasuryRequest)
  | run (id : CallId)
  | fail (id : CallId)

/-- One action; nothing where it cannot happen. -/
def TreasuryDb.exec (db : TreasuryDb) : TreasuryAction → Option TreasuryDb
  | .start id request =>
    if db.calls.get? id = none then some (db.put id request.begun) else none
  | .run id => db.run id
  | .fail id => if (db.calls.get? id).isSome then some (db.put id .over) else none

/-! ## Taking effect once -/

/-- A document that has not been posted, and no call on it. -/
structure TreasuryDb.Unposted (db : TreasuryDb) : Prop where
  status : db.document.status ≠ .POSTED
  reversedBy : db.document.reversedByDocumentId = none
  reverses : db.document.reversesDocumentId ≠ some db.documentId
  applications : db.applications = []
  journals : db.journals = []
  keys : db.documentId < db.nextId
  calls : db.calls = .empty

def TreasuryCall.isOver : TreasuryCall → Bool
  | .over => true
  | _ => false

/-- No call is in progress. -/
def TreasuryDb.Quiet (db : TreasuryDb) : Prop := ∀ e ∈ db.calls.entries, e.2.isOver = true

instance (db : TreasuryDb) : Decidable db.Quiet := inferInstanceAs (Decidable (∀ _ ∈ _, _))

/-- The settled amount of a receipt. -/
def settledOf (settlements : Settlements) (receipt : ReceiptKey) : Money :=
  ((settlements.get? receipt).map (·.settledAmount)).getD 0

/-- The receipts a worksheet applies, with their amounts. -/
def appliedBy (lines : DocumentLines) : List (Option ReceiptKey × Money) :=
  (receiptLines lines).map fun line => (receiptOf line.2, receiptAmount line.2)

/-- The document has at most one journal and is reversed by at most one; it stays posted, with
the lines of its journal; its receipts are applied once, and given back once at most. -/
structure TakesEffectOnce (start db : TreasuryDb) : Prop where
  posted : db.postings.length ≤ 1
  reversed : db.reversals.length ≤ 1
  stays : db.postings ≠ [] → db.document.status = .POSTED
  lines : db.document.status = .POSTED →
    ∃ j ∈ db.postings, j.lines = journalLines db.document.documentNumber (linesOf db.lines)
  receipts : db.document.status = .POSTED → db.document.documentType = .DEPOSIT_WORKSHEET →
    db.applications.map (fun a => (some a.receipt, a.amount)) = appliedBy db.lines
  settled : ∀ receipt, settledOf db.settlements receipt =
    settledOf start.settlements receipt + amountOn (activeApplications db.applications) receipt

/-- What a call commits still fits the document: a posting finds the lines it has read, an
update leaves a posted document's lines as they are, a rejection finds no posted document, and
a reversal finds none that is reversed. -/
def TreasuryCall.CommitsInTime (db : TreasuryDb) : TreasuryCall → Prop
  | .postMarked work _ _ =>
    (db.postings = [] ∨ work.doc.documentType = .DEPOSIT_WORKSHEET) →
      linesOf db.lines = linesOf work.lines
  | .reverseMarked _ _ => db.document.reversedByDocumentId = none
  | .updated _ deleted inserted =>
    db.document.status = .POSTED → linesOf (db.linesAfter deleted inserted) = linesOf db.lines
  | .rejected => db.document.status ≠ .POSTED
  | _ => True

def CommitsInTime (db : TreasuryDb) : TreasuryAction → Prop
  | .run id => ∀ call ∈ db.calls.get? id, call.CommitsInTime db
  | _ => True

instance (db : TreasuryDb) (call : TreasuryCall) : Decidable (call.CommitsInTime db) := by
  cases call <;> unfold TreasuryCall.CommitsInTime <;> infer_instance

instance (db : TreasuryDb) (action : TreasuryAction) : Decidable (CommitsInTime db action) := by
  cases action <;> unfold CommitsInTime <;> infer_instance

end SmartErpPos.Treasury
