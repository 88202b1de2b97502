/-
  Treasury/WorksheetSteps.lean --- what worksheets do to the books.

  A worksheet takes nothing before it is posted.  Its posting applies the receipts and credits
  Undeposited Funds by what they give, and its reversal releases them by the opposite lines.
-/
import SmartErpPos.Treasury.ReceiptSteps

set_option autoImplicit false

namespace SmartErpPos.Treasury

open SmartErpPos.Lib SmartErpPos.Ledger SmartErpPos.Deposits

/-! ## Rows and documents -/

/-- Rows are never deleted. -/
def RowsKept (db db' : ReceiptDb) : Prop :=
  ∀ receipt, (db.settlements.get? receipt).isSome = true →
    (db'.settlements.get? receipt).isSome = true

variable {cash : SourceId → Money} {db db' : ReceiptDb} {id : DocumentId} {doc : TreasuryDocument}
  {lines : DocumentLines} {actorUserId : String}

/-- Calls that only touch rows keep the books. -/
theorem Books.of_rows (h : Books cash db) (hsame : SameReceipts db db')
    (happs : db'.applications = db.applications)
    (hrows : RowsAgree cash (activeApplications db.applications) db') (hkept : RowsKept db db') :
    Books cash db' := by
  obtain ⟨payments, deposits, rows, applications, documents, journals, nextId⟩ := db'
  obtain ⟨rfl, rfl, rfl, rfl, rfl⟩ := hsame
  cases happs
  exact
    { journalsBelow := h.journalsBelow
      paymentsBelow := h.paymentsBelow
      depositsBelow := h.depositsBelow
      documentsBelow := h.documentsBelow
      applicationsBelow := h.applicationsBelow
      rows := hrows
      listed := fun id d hd => (h.listed id d hd).imp (fun hactive => hactive) fun hrefund =>
        ⟨hrefund.1, hkept _ hrefund.2⟩
      documents := h.documents
      references := h.references
      balance := h.balance }

theorem syncReceiptSettlements_books (h : Books cash db) :
    Books cash db.syncReceiptSettlements := by
  refine h.of_rows ⟨rfl, rfl, rfl, rfl, rfl⟩ rfl h.rows.sync fun receipt hsome => ?_
  obtain ⟨s, hs⟩ := Option.isSome_iff_exists.mp hsome
  rw [h.rows.synced.kept _ _ hs]
  rfl

theorem lockSettlement_books {receipt : ReceiptKey} {s : ReceiptSettlement} (h : Books cash db)
    (hlock : db.lockSettlement receipt = .ok (db', s)) : Books cash db' := by
  obtain ⟨hrows, hsame, happs, -, hkept⟩ := h.rows.lock hlock
  exact h.of_rows hsame happs hrows hkept

/-- A document that is not posted may be written again, or anew. -/
theorem Books.setDocument (h : Books cash db) {nextId : ℕ} (hnext : db.nextId ≤ nextId)
    (hid : id < nextId)
    (hbefore : ∀ doc lines, db.documents.get? id = some (doc, lines) → doc.status ≠ .POSTED)
    (hagrees : DocumentAgrees db.applications id doc lines) :
    Books cash
      { db with
        documents := db.documents.set id (doc, lines)
        nextId := nextId } := by
  refine
    { journalsBelow := h.journalsBelow.mono rfl hnext
      paymentsBelow := fun k p hp => (h.paymentsBelow k p hp).trans_le hnext
      depositsBelow := fun k d hd => (h.depositsBelow k d hd).trans_le hnext
      documentsBelow := fun k d hd => ?_
      applicationsBelow := fun a ha => (h.applicationsBelow a ha).trans_le hnext
      rows := ⟨h.rows.paid, h.rows.row, h.rows.applied⟩
      listed := h.listed
      documents := fun k doc' lines' hget => ?_
      references := fun k j hj docId href => ?_
      balance := h.balance }
  case refine_1 =>
    rw [OrderedMap.get?_set] at hd
    split at hd
    · rename_i heq
      exact heq ▸ hid
    · exact (h.documentsBelow k d hd).trans_le hnext
  case refine_2 =>
    rw [OrderedMap.get?_set] at hget
    split at hget
    · rename_i heq
      cases hget
      exact heq ▸ hagrees
    · exact h.documents k doc' lines' hget
  case refine_3 =>
    obtain ⟨doc', lines', hget, hposted⟩ := h.references k j hj docId href
    refine ⟨doc', lines', ?_, hposted⟩
    have hne : docId ≠ id := by
      rintro rfl
      exact hbefore doc' lines' hget hposted
    change (db.documents.set id _).get? docId = _
    rw [OrderedMap.get?_set_of_ne hne]
    exact hget

/-! ## Creating a worksheet -/

/-- An input of a worksheet, as the source builds it. -/
def WorksheetInput (input : DocumentLineInput) : Prop :=
  ∀ line, storedLine input = .ok line → WorksheetLine line

theorem addReceipt_books {p p' : WorksheetProgress} {r : ReceiptToDeposit}
    (h : Books cash p.db ∧ ∀ input ∈ p.lines, WorksheetInput input)
    (hok : addReceipt p r = .ok p') :
    Books cash p'.db ∧ ∀ input ∈ p'.lines, WorksheetInput input := by
  unfold addReceipt at hok
  simp only [bind_eq_ok, require_eq_ok, pure_eq_ok] at hok
  obtain ⟨-, hpos, ⟨db, s⟩, hlock, -, -, -, -, rfl⟩ := hok
  refine ⟨lockSettlement_books h.1 hlock, fun input hinput => ?_⟩
  rcases List.mem_append.mp hinput with hold | hnew
  · exact h.2 input hold
  · rw [List.mem_singleton.mp hnew]
    exact fun line hline => storedLine_applicationLine hpos hline

theorem worksheetLines_input {bankGlCode bankDescription : String} {bankDebit shortage overage : ℚ}
    {receipts : List DocumentLineInput} (hbank : bankGlCode ≠ UNDEPOSITED_FUNDS)
    (hreceipts : ∀ input ∈ receipts, WorksheetInput input) :
    ∀ input ∈ worksheetLines bankGlCode bankDescription bankDebit receipts shortage overage,
      WorksheetInput input := by
  have hother : ∀ {lineType : TreasuryLineType} {code description : String} {debit credit : ℚ},
      lineType ≠ .RECEIPT_APPLICATION → code ≠ UNDEPOSITED_FUNDS →
      WorksheetInput (otherLine lineType code description debit credit) :=
    fun htype hcode _ hline => storedLine_otherLine htype hcode hline
  intro input hinput
  unfold worksheetLines at hinput
  rw [List.mem_append, List.mem_append, List.mem_append, List.mem_singleton] at hinput
  rcases hinput with ((rfl | hreceipt) | hshortage) | hoverage
  · exact hother nofun hbank
  · exact hreceipts input hreceipt
  · split at hshortage
    · rw [List.mem_singleton.mp hshortage]
      exact hother nofun (by decide)
    · cases hshortage
  · split at hoverage
    · rw [List.mem_singleton.mp hoverage]
      exact hother nofun (by decide)
    · cases hoverage

theorem resolveBankGlCode_ok {bank : Option BankAccountGl} {code : String}
    (h : resolveBankGlCode bank = .ok code) : code ≠ UNDEPOSITED_FUNDS := by
  unfold resolveBankGlCode at h
  simp only [bind_eq_ok, orThrow_eq_ok, require_eq_ok, pure_eq_ok] at h
  obtain ⟨row, -, -, hblocked, -, -, -, -, rfl⟩ := h
  exact fun heq => hblocked (.inr (.inr (.inl heq)))

/-- What a new document is. -/
theorem createDocument_ok {documentType : TreasuryDocumentType} {requiresApproval : Bool}
    {reverses : Option DocumentId} {inputs : List DocumentLineInput}
    (h : createDocument db documentType requiresApproval reverses inputs = .ok (id, db')) :
    ∃ doc lines, inputs.mapM storedLine = .ok (linesOf lines) ∧ id = db.nextId ∧
      doc.documentType = documentType ∧ doc.status = .DRAFT ∧
      doc.reversesDocumentId = reverses ∧
      db' =
        { db with
          documents := db.documents.set db.nextId (doc, lines)
          nextId := db.nextId + 1 + lines.length } := by
  unfold createDocument at h
  simp only [bind_eq_ok, pure_eq_ok, Prod.mk.injEq] at h
  obtain ⟨lines, hlines, rfl, rfl⟩ := h
  exact ⟨_, lines, storedLines_ok hlines, rfl, rfl, rfl, rfl, rfl⟩

theorem Books.no_application (h : Books cash db) :
    ∀ a ∈ db.applications, a.treasuryDocumentId ≠ db.nextId :=
  fun a ha => (h.applicationsBelow a ha).ne

theorem createDepositWorksheet_books (h : Books cash db) {input : CreateDepositWorksheetInput}
    (hok : createDepositWorksheet db input = .ok db') : Books cash db' := by
  unfold createDepositWorksheet at hok
  simp only [bind_eq_ok, require_eq_ok, pure_eq_ok] at hok
  obtain ⟨-, -, -, -, bankGlCode, hbank, progress, hreceipts, -, -, rows, hrows, -, -,
    ⟨id, created⟩, hcreated, rfl⟩ := hok
  obtain ⟨hbooks, hinputs⟩ := foldlM_invariant
    (P := fun p : WorksheetProgress => Books cash p.db ∧ ∀ input ∈ p.lines, WorksheetInput input)
    (fun p r _ p' hp hstep => addReceipt_books hp hstep) ⟨h, fun _ hmem => absurd hmem List.not_mem_nil⟩
    hreceipts
  obtain ⟨doc, lines, hlines, -, htype, hstatus, -, rfl⟩ := createDocument_ok hcreated
  refine hbooks.setDocument (Nat.le_add_right_of_le (Nat.le_succ _))
    (Nat.lt_add_right _ (Nat.lt_succ_self _)) (fun d l hget => ?_) (.inl ⟨htype, ?_, ?_, ?_⟩)
  · exact absurd (hbooks.documentsBelow _ _ hget) (lt_irrefl _)
  · intro line hline
    obtain ⟨e, he, hstored⟩ := mem_of_mapM_eq_ok hlines hline
    exact worksheetLines_input (resolveBankGlCode_ok hbank) hinputs e he line hstored
  · exact fun _ => hbooks.no_application
  · intro hposted
    rw [hstatus] at hposted
    cases hposted

/-! ## Submitting and rejecting -/

/-- A document that is not posted keeps its books under another status. -/
theorem Books.setStatus (h : Books cash db) {doc' : TreasuryDocument}
    (hget : db.documents.get? id = some (doc, lines)) (hbefore : doc.status ≠ .POSTED)
    (hafter : doc'.status ≠ .POSTED) (htype : doc'.documentType = doc.documentType) :
    Books cash (db.setDocument id doc' lines) := by
  rcases h.documents id doc lines hget with ⟨hsheet, hlines, hnone, -⟩ | ⟨hposted, -⟩
  · refine h.setDocument le_rfl (h.documentsBelow id _ hget) (fun d l hd => ?_)
      (.inl ⟨htype.trans hsheet, hlines, fun _ => hnone hbefore, fun hp => absurd hp hafter⟩)
    rw [hget] at hd
    cases hd
    exact hbefore
  · exact absurd hposted hbefore

theorem submit_books (h : Books cash db) (hok : submit db id = .ok db') : Books cash db' := by
  unfold submit ReceiptDb.getById at hok
  simp only [bind_eq_ok, orThrow_eq_ok, require_eq_ok, pure_eq_ok] at hok
  obtain ⟨⟨doc, lines⟩, hget, -, -, -, hdraft, -, -, rfl⟩ := hok
  refine h.setStatus hget ?_ nofun rfl
  rw [hdraft]
  nofun

theorem reject_books (h : Books cash db) (hok : reject db id = .ok db') : Books cash db' := by
  unfold reject ReceiptDb.getById checkReject at hok
  simp only [bind_eq_ok, orThrow_eq_ok, require_eq_ok, pure_eq_ok] at hok
  obtain ⟨⟨doc, lines⟩, hget, -, hpending, rfl⟩ := hok
  refine h.setStatus hget ?_ nofun rfl
  rw [hpending]
  nofun

/-! ## Applying -/

/-- Only a receipt that waits for something is applied. -/
theorem apply_residual_ne {s s' : ReceiptSettlement} {amount : ℚ} {label : Option String}
    (h : s.apply amount label = .ok s') : s.residualAmount ≠ 0 := by
  unfold ReceiptSettlement.apply assertDepositConsumesUnsettled at h
  simp only [bind_eq_ok, require_eq_ok] at h
  obtain ⟨-, ⟨-, hresidual, -⟩, -⟩ := h
  intro hzero
  rw [hzero, roundMoney_toRat, Numeric.toRat_zero] at hresidual
  norm_num at hresidual

/-- What applying lines of a worksheet does to rows and applications. -/
structure Applied (cash : SourceId → Money) (id : DocumentId) (db db' : ReceiptDb)
    (amount : Money) : Prop where
  rows : RowsAgree cash (activeApplications db'.applications) db'
  same : SameReceipts db db'
  kept : RowsKept db db'
  applications : ∃ new, db'.applications = db.applications ++ new ∧
    (∀ a ∈ new, a.treasuryDocumentId = id ∧ a.reversed = false) ∧ taken new = amount

theorem applySettlement_ok {line : LineId × DocumentLine}
    (h : RowsAgree cash (activeApplications db.applications) db)
    (hok : applySettlement id db line = .ok db') :
    Applied cash id db db' (receiptAmount line.2) := by
  unfold applySettlement at hok
  simp only [bind_eq_ok, orThrow_eq_ok, require_eq_ok, pure_eq_ok] at hok
  obtain ⟨receipt, -, ⟨locked, s⟩, hlock, s', hs', -, -, rfl⟩ := hok
  obtain ⟨hrows, hsame, happs, hget, hkept⟩ := h.lock hlock
  obtain ⟨hsettled, horiginating, -⟩ := ReceiptSettlement.apply_ok hs'
  have hopen : locked.isReversed receipt = false := by
    rw [Bool.eq_false_iff]
    exact fun hrev => apply_residual_ne hs' (hrows.residual_of_reversed hget hrev)
  have hactive : activeApplications (locked.applications ++ [applicationOf id line receipt]) =
      activeApplications db.applications ++ [applicationOf id line receipt] := by
    rw [happs]
    exact activeApplications_append fun a ha => by rw [List.mem_singleton.mp ha]; rfl
  refine ⟨?_, ⟨hsame.arPayments, hsame.deposits, hsame.documents, hsame.journals, hsame.nextId⟩,
    fun r hr => ?_, [applicationOf id line receipt], by dsimp only; rw [happs],
    fun a ha => ?_, ?_⟩
  · dsimp only
    rw [hactive]
    have hset := hrows.setRow
      (activeApplications db.applications ++ [applicationOf id line receipt]) _
      hget hopen hsettled horiginating (fun r => ?_) (fun a ha => ?_)
    · exact ⟨hset.paid, hset.row, hset.applied⟩
    · rw [amountOn_append, amountOn_singleton, applicationOf_amount]
      exact congrArg _ (if_congr eq_comm rfl rfl)
    · rcases List.mem_append.mp ha with hold | hnew
      · exact .inl hold
      · rw [List.mem_singleton.mp hnew]
        exact .inr rfl
  · dsimp only
    rw [OrderedMap.get?_set]
    split
    · rfl
    · exact hkept r hr
  · rw [List.mem_singleton.mp ha]
    exact ⟨rfl, rfl⟩
  · unfold taken
    rw [List.map_singleton, List.sum_singleton, applicationOf_amount]

theorem applySettlements_ok (h : RowsAgree cash (activeApplications db.applications) db)
    (hok : lines.foldlM (applySettlement id) db = .ok db') :
    Applied cash id db db' (lines.map fun line => receiptAmount line.2).sum := by
  induction lines generalizing db with
  | nil =>
    rw [List.foldlM_nil, pure_eq_ok] at hok
    subst hok
    exact ⟨h, .refl db, fun _ hr => hr, [], (List.append_nil _).symm,
      fun _ ha => absurd ha List.not_mem_nil, rfl⟩
  | cons line rest ih =>
    rw [List.foldlM_cons, bind_eq_ok] at hok
    obtain ⟨mid, hmid, hrest⟩ := hok
    obtain ⟨hrows, hsame, hkept, new, happs, hnew, htaken⟩ := applySettlement_ok h hmid
    obtain ⟨hrows', hsame', hkept', new', happs', hnew', htaken'⟩ := ih hrows hrest
    refine ⟨hrows', hsame.trans hsame', fun r hr => hkept' r (hkept r hr), new ++ new', ?_, ?_, ?_⟩
    · rw [happs', happs, List.append_assoc]
    · intro a ha
      rcases List.mem_append.mp ha with ha | ha
      · exact hnew a ha
      · exact hnew' a ha
    · rw [taken_append, htaken, htaken', List.map_cons, List.sum_cons]

/-! ## Posting -/

/-- What a successful posting has done. -/
theorem postInternal_ok {asApproval : Bool}
    (h : postInternal asApproval actorUserId db id = .ok db') :
    ∃ doc lines applied posted journalId journalled, db.documents.get? id = some (doc, lines) ∧
      doc.status ≠ .POSTED ∧
      (doc.documentType = .DEPOSIT_WORKSHEET →
        (receiptLines lines).foldlM (applySettlement id) db = .ok applied) ∧
      (doc.documentType ≠ .DEPOSIT_WORKSHEET → applied = db) ∧
      applied.createJournalEntry (.TREASURY_DOCUMENT id)
        (journalLines doc.documentNumber (linesOf lines)) = .ok (journalId, journalled) ∧
      (posted.status = .POSTED ∧ posted.documentType = doc.documentType ∧
        posted.reversesDocumentId = doc.reversesDocumentId) ∧
      db' = journalled.setDocument id posted lines := by
  unfold postInternal ReceiptDb.getById checkPost at h
  simp only [bind_eq_ok, orThrow_eq_ok, require_eq_ok] at h
  obtain ⟨⟨doc, lines⟩, hget, -, ⟨-, hopen, -⟩, h⟩ := h
  dsimp only at hopen h
  split at h
  · rename_i hsheet
    unfold applySettlementsForDepositWorksheet at h
    simp only [bind_eq_ok, pure_eq_ok] at h
    obtain ⟨applied, ⟨-, -, happlied⟩, ⟨journalId, journalled⟩, hjournal, -, -, rfl⟩ := h
    refine ⟨doc, lines, applied, _, journalId, journalled, hget, hopen, fun _ => happlied,
      fun hno => absurd hsheet hno, hjournal, ?_, rfl⟩
    exact ⟨rfl, rfl, rfl⟩
  · rename_i hno
    simp only [bind_eq_ok, pure_eq_ok] at h
    obtain ⟨applied, rfl, ⟨journalId, journalled⟩, hjournal, -, -, rfl⟩ := h
    refine ⟨doc, lines, db, _, journalId, journalled, hget, hopen, fun hsheet => absurd hsheet hno,
      fun _ => rfl, hjournal, ?_, rfl⟩
    exact ⟨rfl, rfl, rfl⟩

/-- A journal of a document, together with the applications it stands for, keeps the books. -/
theorem Books.journal (h : Books cash db) (applied : ReceiptDb) {next : ℕ} {docId : DocumentId}
    {lines : List JournalLine}
    (hrows : RowsAgree cash (activeApplications applied.applications) applied)
    (hkept : RowsKept db applied) (hpayments : applied.arPayments = db.arPayments)
    (hdeposits : applied.deposits = db.deposits) (hjournals : applied.journals = db.journals)
    (hpayments' : db'.arPayments = applied.arPayments)
    (hdeposits' : db'.deposits = applied.deposits)
    (hsettlements' : db'.settlements = applied.settlements)
    (happlications' : db'.applications = applied.applications) (hjournals' : db'.journals =
      db.journals.set next ⟨.TREASURY_DOCUMENT docId, lines, false, none⟩)
    (hnext : db.nextId ≤ next) (hnext' : db'.nextId = next + 1) (hdocId : docId < next)
    (hbelow : ∀ id d, db'.documents.get? id = some d → id < db'.nextId)
    (happsBelow : ∀ a ∈ db'.applications, a.treasuryDocumentId < db'.nextId)
    (hdocuments : ∀ id doc lines, db'.documents.get? id = some (doc, lines) →
      DocumentAgrees db'.applications id doc lines)
    (hstays : ∀ id doc lines, db.documents.get? id = some (doc, lines) → doc.status = .POSTED →
      ∃ doc' lines', db'.documents.get? id = some (doc', lines') ∧ doc'.status = .POSTED)
    (hposted : ∃ doc lines, db'.documents.get? docId = some (doc, lines) ∧ doc.status = .POSTED)
    (hbalance : changeOn UNDEPOSITED_FUNDS lines =
      (taken (activeApplications db.applications) -
        taken (activeApplications db'.applications)).toRat) : Books cash db' := by
  have hmid : JournalsBelow { db with nextId := next } := h.journalsBelow.mono rfl hnext
  have hsame : db'.journals = (ReceiptDb.posted { db with nextId := next }
      (.TREASURY_DOCUMENT docId) lines).journals := hjournals'
  have hworth : SameWorth cash cash applied db' := by
    intro receipt amount hamount
    refine ⟨?_, ?_⟩
    · unfold worth at hamount ⊢
      rw [hpayments', hdeposits']
      exact hamount
    · unfold ReceiptDb.isReversed
      rw [hpayments']
  refine
    { journalsBelow := (posted_below hmid (.TREASURY_DOCUMENT docId) lines hdocId).mono hsame
        (by rw [hnext']; exact le_rfl)
      paymentsBelow := fun id p hp => ?_
      depositsBelow := fun id d hd => ?_
      documentsBelow := hbelow
      applicationsBelow := happsBelow
      rows := ?_
      listed := fun id d hd => ?_
      documents := hdocuments
      references := fun id j hj docId' href => ?_
      balance := ?_ }
  case refine_1 =>
    rw [hpayments', hpayments] at hp
    rw [hnext']
    exact Nat.lt_succ_of_lt ((h.paymentsBelow id p hp).trans_le hnext)
  case refine_2 =>
    rw [hdeposits', hdeposits] at hd
    rw [hnext']
    exact Nat.lt_succ_of_lt ((h.depositsBelow id d hd).trans_le hnext)
  case refine_3 =>
    rw [happlications']
    refine hrows.of_sameWorth hsettlements' (fun id p hp => ?_) hworth
    rw [hpayments'] at hp
    obtain ⟨hcash, hpaid⟩ := hrows.paid id p hp
    have hpaidMid : PaidBy { db with nextId := next } id (cash id) (p.status ≠ .REVERSED) :=
      hpaid.congr hjournals.symm
    have hne : JournalReference.TREASURY_DOCUMENT docId ≠ .CUSTOMER_PAYMENT id := nofun
    exact ⟨hcash, (hpaidMid.posted hmid hne lines).congr hsame⟩
  case refine_4 =>
    rw [hdeposits', hdeposits] at hd
    rw [hsettlements']
    exact (h.listed id d hd).imp (fun hactive => hactive) fun hrefund =>
      ⟨hrefund.1, hkept _ hrefund.2⟩
  case refine_5 =>
    rw [hsame] at hj
    rcases posted_get? hj with ⟨-, rfl⟩ | hold
    · obtain rfl : docId = docId' := JournalReference.TREASURY_DOCUMENT.inj href
      exact hposted
    · obtain ⟨doc, lines, hget, hp⟩ := h.references id j hold docId' href
      exact hstays docId' doc lines hget hp
  case refine_6 =>
    rw [getClearingGlBalance_congr hsame, posted_balance hmid, hbalance]
    have hbefore : ReceiptDb.getClearingGlBalance { db with nextId := next } UNDEPOSITED_FUNDS =
        (received cash db - taken (activeApplications db.applications)).toRat := h.balance
    have hreceived : received cash db' = received cash db := by
      unfold received
      rw [hpayments', hpayments, hdeposits', hdeposits]
    rw [hbefore, hreceived, ← Numeric.toRat_add]
    congr 1
    abel

/-- Applications of another document do not concern a document. -/
theorem DocumentAgrees.append {applications new : List SettlementApplication}
    (h : DocumentAgrees applications id doc lines)
    (hnew : ∀ a ∈ new, a.treasuryDocumentId ≠ id ∧ a.reversed = false) :
    DocumentAgrees (applications ++ new) id doc lines := by
  rcases h with ⟨htype, hlines, hnone, htaken⟩ | hreversal
  · refine .inl ⟨htype, hlines, fun hopen a ha => ?_, fun hposted hopen => ?_⟩
    · rcases List.mem_append.mp ha with hold | ha
      · exact hnone hopen a hold
      · exact (hnew a ha).1
    · have hskip : new.filter (fun a =>
          decide (a.treasuryDocumentId = id)) = [] := by
        refine List.filter_eq_nil_iff.mpr fun a ha => ?_
        rw [decide_eq_true_eq]
        exact (hnew a ha).1
      rw [activeApplications_append fun a ha => (hnew a ha).2, List.filter_append, hskip, List.append_nil]
      exact htaken hposted hopen
  · exact .inr hreversal

theorem postInternal_books {asApproval : Bool} (h : Books cash db)
    (hok : postInternal asApproval actorUserId db id = .ok db') : Books cash db' := by
  obtain ⟨doc, lines, applied, posted, journalId, journalled, hget, hopen, hsheet, -, hjournal,
    ⟨hstatus, htype, -⟩, rfl⟩ := postInternal_ok hok
  rcases h.documents id doc lines hget with ⟨hworksheet, hlines, hnone, -⟩ | ⟨hposted, -⟩
  case inr => exact absurd hposted hopen
  obtain ⟨hrows, hsame, hkept, new, happs, hnew, htaken⟩ :=
    applySettlements_ok h.rows (hsheet hworksheet)
  have hfresh : ∀ k j, applied.journals.get? k = some j →
      j.reference ≠ .TREASURY_DOCUMENT id := by
    intro k j hj href
    rw [hsame.journals] at hj
    obtain ⟨doc', lines', hget', hposted⟩ := h.references k j hj id href
    rw [hget] at hget'
    cases hget'
    exact hopen hposted
  obtain ⟨-, -, rfl⟩ := createJournalEntry_of_new hjournal hfresh
  have hid : id < db.nextId := h.documentsBelow id _ hget
  have hnext : applied.nextId = db.nextId := hsame.nextId
  have hactive : activeApplications applied.applications =
      activeApplications db.applications ++ new := by
    rw [happs, activeApplications_append fun a ha => (hnew a ha).2]
  have hmine : (activeApplications applied.applications).filter (fun a =>
      decide (a.treasuryDocumentId = id)) = new := by
    have hold : (activeApplications db.applications).filter (fun a =>
        decide (a.treasuryDocumentId = id)) = [] := by
      refine List.filter_eq_nil_iff.mpr fun a ha => ?_
      rw [decide_eq_true_eq]
      exact hnone hopen a (List.mem_filter.mp ha).1
    rw [hactive, List.filter_append, hold, List.nil_append]
    exact List.filter_eq_self.mpr fun a ha => decide_eq_true (hnew a ha).1
  have hself : (((applied.posted (.TREASURY_DOCUMENT id)
      (journalLines doc.documentNumber (linesOf lines))).setDocument id posted lines).documents.get?
      id) = some (posted, lines) := OrderedMap.get?_set_self ..
  have hother : ∀ k, k ≠ id → ((applied.posted (.TREASURY_DOCUMENT id)
      (journalLines doc.documentNumber (linesOf lines))).setDocument id posted lines).documents.get?
      k = db.documents.get? k := by
    intro k hk
    change (applied.documents.set id _).get? k = _
    rw [OrderedMap.get?_set_of_ne hk, hsame.documents]
  have hjournals : ((applied.posted (.TREASURY_DOCUMENT id)
      (journalLines doc.documentNumber (linesOf lines))).setDocument id posted lines).journals =
      db.journals.set db.nextId ⟨.TREASURY_DOCUMENT id,
        journalLines doc.documentNumber (linesOf lines), false, none⟩ := by
    change applied.journals.set applied.nextId _ = _
    rw [hsame.journals, hnext]
  refine h.journal applied hrows hkept hsame.arPayments hsame.deposits hsame.journals rfl rfl rfl rfl
    hjournals le_rfl (congrArg (· + 1) hnext) hid (fun k d hd => ?_) (fun a ha => ?_)
    (fun k doc' lines' hget' => ?_) (fun k doc' lines' hget' hposted => ?_)
    ⟨posted, lines, hself, hstatus⟩ ?_
  · change k < applied.nextId + 1
    rw [hnext]
    by_cases hk : k = id
    · exact hk ▸ Nat.lt_succ_of_lt hid
    · rw [hother k hk] at hd
      exact Nat.lt_succ_of_lt (h.documentsBelow k d hd)
  · change a.treasuryDocumentId < applied.nextId + 1
    have ha' : a ∈ db.applications ++ new := happs ▸ ha
    rw [hnext]
    rcases List.mem_append.mp ha' with hold | hmem
    · exact Nat.lt_succ_of_lt (h.applicationsBelow a hold)
    · rw [(hnew a hmem).1]
      exact Nat.lt_succ_of_lt hid
  · change DocumentAgrees applied.applications k doc' lines'
    by_cases hk : k = id
    · subst hk
      rw [hself] at hget'
      cases hget'
      refine .inl ⟨htype.trans hworksheet, hlines, fun hno => absurd hstatus hno, fun _ _ => ?_⟩
      rw [hmine, htaken]
      rfl
    · rw [hother k hk] at hget'
      rw [happs]
      exact (h.documents k doc' lines' hget').append fun a ha =>
        ⟨fun heq => hk (heq.symm.trans (hnew a ha).1), (hnew a ha).2⟩
  · by_cases hk : k = id
    · exact ⟨posted, lines, hk ▸ hself, hstatus⟩
    · exact ⟨doc', lines', (hother k hk).trans hget', hposted⟩
  · change _ = (taken (activeApplications db.applications) -
      taken (activeApplications applied.applications)).toRat
    rw [changeOn_worksheet hlines, hactive, taken_append, htaken, sub_add_cancel_left,
      Numeric.toRat_neg]
    rfl

theorem approve_books (h : Books cash db) (hok : approve db id actorUserId = .ok db') :
    Books cash db' := by
  unfold approve at hok
  simp only [bind_eq_ok] at hok
  obtain ⟨-, -, -, -, hpost⟩ := hok
  exact postInternal_books h hpost

/-! ## Reversing a worksheet -/

theorem amountOn_perm {xs ys : List SettlementApplication} (h : xs.Perm ys)
    (receipt : ReceiptKey) : amountOn xs receipt = amountOn ys receipt :=
  ((h.filter _).map _).sum_eq

theorem taken_perm {xs ys : List SettlementApplication} (h : xs.Perm ys) : taken xs = taken ys :=
  (h.map _).sum_eq

theorem RowsAgree.perm {active active' : List SettlementApplication} (h : RowsAgree cash active db)
    (hperm : active.Perm active') : RowsAgree cash active' db := by
  refine ⟨h.paid, fun receipt s hs => ?_, fun a ha => h.applied a (hperm.mem_iff.mpr ha)⟩
  obtain ⟨amount, hworth, hresidual, horiginating⟩ := h.row receipt s hs
  exact ⟨amount, hworth, amountOn_perm hperm receipt ▸ hresidual, horiginating⟩

/-- Releasing applications one after the other. -/
theorem releaseSettlements_ok {kept released : List SettlementApplication}
    (h : RowsAgree cash (released ++ kept) db)
    (hok : released.foldlM releaseSettlement db = .ok db') :
    RowsAgree cash kept db' ∧ SameReceipts db db' ∧ db'.applications = db.applications ∧
      RowsKept db db' := by
  induction released generalizing db with
  | nil =>
    rw [List.foldlM_nil, pure_eq_ok] at hok
    subst hok
    exact ⟨h, .refl db, rfl, fun _ hr => hr⟩
  | cons a rest ih =>
    rw [List.foldlM_cons, bind_eq_ok] at hok
    obtain ⟨mid, hmid, hrest⟩ := hok
    unfold releaseSettlement at hmid
    simp only [bind_eq_ok, orThrow_eq_ok, pure_eq_ok] at hmid
    obtain ⟨s, hs, s', hs', rfl⟩ := hmid
    obtain ⟨hsettled, horiginating⟩ := ReceiptSettlement.release_ok hs'
    have hopen := (h.applied a (by simp)).2
    have hset := h.setRow (rest ++ kept) (-a.amount) hs hopen
      (by rw [hsettled, sub_eq_add_neg]) horiginating (fun r => ?_)
      fun b hb => .inl (List.mem_cons_of_mem a hb)
    · obtain ⟨hrows, hsame, happs, hkept⟩ := ih hset hrest
      refine ⟨hrows, ⟨hsame.arPayments, hsame.deposits, hsame.documents, hsame.journals,
        hsame.nextId⟩, happs, fun r hr => hkept r ?_⟩
      dsimp only
      rw [OrderedMap.get?_set]
      split
      · rfl
      · exact hr
    · have hcons := amountOn_append [a] (rest ++ kept) r
      rw [amountOn_singleton] at hcons
      rw [List.cons_append, ← List.singleton_append, hcons]
      by_cases heq : r = a.receipt
      · rw [if_pos heq, if_pos heq.symm]
        abel
      · rw [if_neg heq, if_neg (Ne.symm heq)]
        abel

/-- The active applications once those of a document are marked. -/
theorem activeApplications_marked (applications : List SettlementApplication) (id : DocumentId) :
    activeApplications (markReversed id applications) =
      (activeApplications applications).filter fun a => !decide (a.treasuryDocumentId = id) := by
  unfold activeApplications markReversed
  induction applications with
  | nil => rfl
  | cons a rest ih =>
    rw [List.map_cons, List.filter_cons, ih, List.filter_cons]
    by_cases hid : a.treasuryDocumentId = id
    · cases a.reversed <;> simp [hid]
    · cases hreversed : a.reversed <;> simp [hid, hreversed]

/-- Documents other than a reversed one keep what they have taken. -/
theorem DocumentAgrees.marked {applications : List SettlementApplication} {k : DocumentId}
    (h : DocumentAgrees applications k doc lines) (hne : k ≠ id) :
    DocumentAgrees (markReversed id applications) k doc lines := by
  rcases h with ⟨htype, hlines, hnone, htaken⟩ | hreversal
  · refine .inl ⟨htype, hlines, fun hopen a ha => ?_, fun hposted hopen => ?_⟩
    · obtain ⟨b, hb, rfl⟩ := List.mem_map.mp ha
      have hb' := hnone hopen b hb
      split
      · exact hb'
      · exact hb'
    · rw [activeApplications_marked, List.filter_filter, ← htaken hposted hopen]
      congr 1
      refine List.filter_congr fun a _ => ?_
      by_cases ha : a.treasuryDocumentId = k
      · simp [ha, hne]
      · simp [ha]
  · exact .inr hreversal

/-- What a successful reversal starts from. -/
theorem reverseDocument_ok (h : reverseDocument db id actorUserId = .ok db') :
    ∃ original lines released reversalId created posted, db.documents.get? id =
        some (original, lines) ∧ original.status = .POSTED ∧
      original.reversesDocumentId = none ∧ original.reversedByDocumentId = none ∧
      (original.documentType = .DEPOSIT_WORKSHEET →
        reverseApplicationsForDocument db id = .ok released) ∧
      createDocument released .TREASURY_REVERSAL false (some id)
        (lines.map fun line => line.2.opposite) = .ok (reversalId, created) ∧
      postInternal false actorUserId created reversalId = .ok posted ∧
      ∃ marked : TreasuryDocument, db' = posted.setDocument id marked lines ∧
        marked.status = .POSTED ∧ marked.documentType = original.documentType ∧
        marked.reversedByDocumentId = some reversalId := by
  unfold reverseDocument ReceiptDb.getById checkReverse at h
  simp only [bind_eq_ok, orThrow_eq_ok, require_eq_ok] at h
  obtain ⟨⟨original, lines⟩, hget, -, ⟨-, hkind, -, hposted, -, hfree, -⟩, h⟩ := h
  dsimp only at hkind hposted hfree h
  split at h
  · simp only [bind_eq_ok, pure_eq_ok] at h
    obtain ⟨released, hreleased, ⟨reversalId, created⟩, hcreated, posted, hpost, rfl⟩ := h
    exact ⟨original, lines, released, reversalId, created, posted, hget, hposted, hkind.2, hfree,
      fun _ => hreleased, hcreated, hpost, _, rfl, rfl, rfl, rfl⟩
  · rename_i hno
    simp only [bind_eq_ok, pure_eq_ok] at h
    obtain ⟨released, rfl, ⟨reversalId, created⟩, hcreated, posted, hpost, rfl⟩ := h
    exact ⟨original, lines, db, reversalId, created, posted, hget, hposted, hkind.2, hfree,
      fun hyes => absurd hyes hno, hcreated, hpost, _, rfl, rfl, rfl, rfl⟩

theorem reverseDocument_books (h : Books cash db)
    (hok : reverseDocument db id actorUserId = .ok db') : Books cash db' := by
  obtain ⟨original, lines, released, reversalId, created, posted, hget, hposted, hkind, hfree,
    hreleased, hcreated, hpost, marked, rfl, hmarked, hmarkedType, hmarkedBy⟩ :=
    reverseDocument_ok hok
  rcases h.documents id original lines hget with ⟨hworksheet, hlines, -, htaken⟩ | ⟨-, hreversal⟩
  case inr =>
    rw [hkind] at hreversal
    cases hreversal
  have htaken := htaken hposted hfree
  -- The applications of the worksheet are taken back.
  have hrelease := hreleased hworksheet
  unfold reverseApplicationsForDocument at hrelease
  simp only [bind_eq_ok, pure_eq_ok] at hrelease
  obtain ⟨rows, hrows, rfl⟩ := hrelease
  have hsplit := List.filter_append_perm (fun a : SettlementApplication =>
    decide (a.treasuryDocumentId = id)) (activeApplications db.applications)
  obtain ⟨hagree, hsame, happs, hkept⟩ := releaseSettlements_ok (h.rows.perm hsplit.symm) hrows
  have hactive := activeApplications_marked rows.applications id
  rw [happs] at hactive
  -- The reversing document posts the opposite lines.
  obtain ⟨draft, stored, hstored, rfl, hdraftType, hdraft, hdraftReverses, rfl⟩ :=
    createDocument_ok hcreated
  obtain ⟨doc, lines', applied, final, journalId, journalled, hget', hopen, -, hplain, hjournal,
    ⟨hfinal, -, hfinalReverses⟩, rfl⟩ := postInternal_ok hpost
  have hget'' := hget'
  dsimp only at hget''
  rw [OrderedMap.get?_set_self] at hget''
  obtain ⟨rfl, rfl⟩ := Prod.mk.inj (Option.some.inj hget'')
  have hnotSheet : draft.documentType ≠ .DEPOSIT_WORKSHEET := by
    rw [hdraftType]
    nofun
  obtain rfl := hplain hnotSheet
  have hbelow : JournalsBelow rows :=
    h.journalsBelow.mono hsame.journals (by rw [hsame.nextId])
  obtain ⟨-, -, rfl⟩ := createJournalEntry_of_new hjournal (hbelow.no_reference rfl)
  have hid : id < db.nextId := h.documentsBelow id _ hget
  have hnext : rows.nextId = db.nextId := hsame.nextId
  have hne : id ≠ rows.nextId := hnext ▸ hid.ne
  -- The end state: one more journal, and two documents written.
  obtain ⟨db', hdb'⟩ : ∃ db', db' = ((ReceiptDb.posted
      { rows with
        applications := markReversed id rows.applications
        documents := rows.documents.set rows.nextId (draft, stored)
        nextId := rows.nextId + 1 + stored.length }
      (.TREASURY_DOCUMENT rows.nextId)
      (journalLines draft.documentNumber (linesOf stored))).setDocument rows.nextId final
      stored).setDocument id marked lines := ⟨_, rfl⟩
  change Books cash (((ReceiptDb.posted _ _ _).setDocument _ _ _).setDocument id marked lines)
  rw [← hdb']
  have hdocuments : ∀ k, db'.documents.get? k = if k = id then some (marked, lines)
      else if k = rows.nextId then some (final, stored) else db.documents.get? k := by
    intro k
    rw [hdb']
    change (((rows.documents.set rows.nextId (draft, stored)).set rows.nextId
      (final, stored)).set id (marked, lines)).get? k = _
    rw [OrderedMap.set_set, OrderedMap.get?_set, OrderedMap.get?_set, hsame.documents]
  have happlications : db'.applications = markReversed id rows.applications := by rw [hdb']; rfl
  have hjournals : db'.journals = db.journals.set (rows.nextId + 1 + stored.length)
      ⟨.TREASURY_DOCUMENT rows.nextId, journalLines draft.documentNumber (linesOf stored), false,
        none⟩ := by
    rw [hdb', ← hsame.journals]
    rfl
  have hnext' : db'.nextId = rows.nextId + 1 + stored.length + 1 := by rw [hdb']; rfl
  have hrowsAgree : RowsAgree cash (activeApplications (markReversed id rows.applications))
      { rows with applications := markReversed id rows.applications } := by
    rw [happs, hactive]
    exact ⟨hagree.paid, hagree.row, hagree.applied⟩
  have hle : db.nextId ≤ rows.nextId + 1 + stored.length := by
    rw [hnext, Nat.add_assoc]
    exact Nat.le_add_right _ _
  refine h.journal { rows with applications := markReversed id rows.applications } hrowsAgree
    hkept hsame.arPayments hsame.deposits hsame.journals
    (by rw [hdb']; rfl) (by rw [hdb']; rfl) (by rw [hdb']; rfl) happlications hjournals hle hnext'
    (Nat.lt_add_right _ (Nat.lt_succ_self _)) (fun k d hd => ?_) (fun a ha => ?_)
    (fun k doc' lines' hk => ?_) (fun k doc' lines' hk hposted' => ?_)
    ⟨final, stored, by rw [hdocuments, if_neg hne.symm, if_pos rfl], hfinal⟩ ?_
  · rw [hnext']
    rw [hdocuments] at hd
    split at hd
    · rename_i heq
      exact heq ▸ Nat.lt_succ_of_lt (hid.trans_le hle)
    · split at hd
      · rename_i heq
        rw [heq]
        exact Nat.lt_succ_of_lt (Nat.lt_add_right _ (Nat.lt_succ_self _))
      · exact Nat.lt_succ_of_lt ((h.documentsBelow k d hd).trans_le hle)
  · rw [hnext']
    rw [happlications, markReversed, happs] at ha
    obtain ⟨b, hb, rfl⟩ := List.mem_map.mp ha
    have hb' := Nat.lt_succ_of_lt ((h.applicationsBelow b hb).trans_le hle)
    split
    · exact hb'
    · exact hb'
  · rw [happlications]
    rw [hdocuments] at hk
    split at hk
    · rename_i heq
      cases hk
      refine .inl ⟨hmarkedType.trans hworksheet, hlines, fun hno => absurd hmarked hno,
        fun _ hopen' => ?_⟩
      rw [hmarkedBy] at hopen'
      cases hopen'
    · rename_i hother
      split at hk
      · cases hk
        refine .inr ⟨hfinal, ?_⟩
        rw [hfinalReverses, hdraftReverses]
        rfl
      · rw [happs]
        exact (h.documents k doc' lines' hk).marked hother
  · rw [hdocuments]
    by_cases hk' : k = id
    · exact ⟨marked, lines, if_pos hk', hmarked⟩
    · have hbelowK := h.documentsBelow k _ hk
      rw [← hnext] at hbelowK
      exact ⟨doc', lines', by rw [if_neg hk', if_neg hbelowK.ne]; exact hk, hposted'⟩
  · have hchange := changeOn_opposite hstored UNDEPOSITED_FUNDS draft.documentNumber ""
    rw [changeOn_worksheet hlines, neg_neg] at hchange
    have htotal := taken_perm hsplit
    rw [taken_append, htaken] at htotal
    rw [hchange, happlications, happs, hactive, ← htotal, add_sub_cancel_right]

end SmartErpPos.Treasury
