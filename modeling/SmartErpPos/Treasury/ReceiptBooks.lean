/-
  Treasury/ReceiptBooks.lean --- the balance of 1015 along the calls.

  1015 holds what the receipts are worth, less what active applications have taken.  Every
  call keeps that: a receipt adds its cash, a worksheet moves the amounts of its receipts, and
  a reversal takes back what its original has done.
-/
import SmartErpPos.Treasury.ReceiptRows

set_option autoImplicit false

namespace SmartErpPos.Treasury

open SmartErpPos.Lib SmartErpPos.Ledger SmartErpPos.Deposits

/-! ## Lines of worksheets -/

/-- A line of a stored worksheet: only those of receipts are on 1015, on the credit side. -/
def WorksheetLine (line : DocumentLine) : Prop :=
  (line.lineType = .RECEIPT_APPLICATION ∧ line.accountCode = UNDEPOSITED_FUNDS ∧
    line.debitAmount = 0 ∧ line.creditAmount = receiptAmount line) ∨
  (line.lineType ≠ .RECEIPT_APPLICATION ∧ line.accountCode ≠ UNDEPOSITED_FUNDS)

/-- Rounding gives whole cents. -/
theorem roundMoney_eq_toRat (q : ℚ) : ∃ amount : Money, roundMoney q = amount.toRat := by
  refine ⟨⟨⌊q * 100 + 1 / 2⌋⟩, ?_⟩
  unfold roundMoney Numeric.toRat
  norm_num

/-- A stored line has the type, the account and the amounts of its input. -/
theorem storedLine_ok {input : DocumentLineInput} {line : DocumentLine}
    (h : storedLine input = .ok line) : line.lineType = input.lineType.getD .ACCOUNT_MOVE ∧
      line.accountCode = input.accountCode ∧ ∃ debit credit amount,
        normalizeLineAmounts input = .ok (debit, credit, amount) ∧
        line.debitAmount = .ofRat debit ∧ line.creditAmount = .ofRat credit ∧
        line.amount = .ofRat amount := by
  unfold storedLine at h
  simp only [bind_eq_ok, pure_eq_ok] at h
  obtain ⟨⟨debit, credit, amount⟩, hamounts, rfl⟩ := h
  exact ⟨rfl, rfl, debit, credit, amount, hamounts, rfl, rfl, rfl⟩

/-- The line of a receipt, as it is stored. -/
theorem storedLine_applicationLine {receipt : ReceiptKey} {s : ReceiptSettlement} {q : ℚ}
    {line : DocumentLine} (hpos : 0 < roundMoney q)
    (h : storedLine (applicationLine receipt s (roundMoney q)) = .ok line) :
    WorksheetLine line := by
  obtain ⟨htype, hcode, debit, credit, amount, hamounts, hdebit, hcredit, hamount⟩ :=
    storedLine_ok h
  obtain ⟨cents, hcents⟩ := roundMoney_eq_toRat q
  have hzero : roundMoney 0 = 0 := by
    have hz := roundMoney_toRat 0
    rwa [Numeric.toRat_zero] at hz
  have hsame : roundMoney (roundMoney q) = roundMoney q := by
    rw [hcents, roundMoney_toRat]
  unfold normalizeLineAmounts at hamounts
  simp only [applicationLine, Option.getD_some, hzero, hsame, bind_eq_ok, require_eq_ok,
    hpos.ne', and_false, if_false, pure_eq_ok] at hamounts
  obtain ⟨-, -, -, -, hall⟩ := hamounts
  simp only [lt_irrefl, if_false, Prod.mk.injEq] at hall
  obtain ⟨rfl, rfl, rfl⟩ := hall
  refine .inl ⟨htype, hcode, by rw [hdebit, Numeric.ofRat_zero], ?_⟩
  unfold receiptAmount
  split
  · rw [hcredit, hamount]
  · rfl

/-- Any other line, as it is stored. -/
theorem storedLine_otherLine {lineType : TreasuryLineType} {code description : String}
    {debit credit : ℚ} {line : DocumentLine} (htype : lineType ≠ .RECEIPT_APPLICATION)
    (hcode : code ≠ UNDEPOSITED_FUNDS)
    (h : storedLine (otherLine lineType code description debit credit) = .ok line) :
    WorksheetLine line := by
  obtain ⟨htype', hcode', -⟩ := storedLine_ok h
  refine .inr ⟨?_, ?_⟩
  · rw [htype']
    exact htype
  · rw [hcode']
    exact hcode

/-- The opposite of a line, as it is stored. -/
theorem storedLine_opposite {line line' : DocumentLine} (h : storedLine line.opposite = .ok line') :
    line'.accountCode = line.accountCode ∧ line'.debitAmount = line.creditAmount ∧
      line'.creditAmount = line.debitAmount := by
  obtain ⟨-, hcode, debit, credit, amount, hamounts, hdebit, hcredit, -⟩ := storedLine_ok h
  have hzero : roundMoney 0 = 0 := by
    have hz := roundMoney_toRat 0
    rwa [Numeric.toRat_zero] at hz
  unfold normalizeLineAmounts at hamounts
  simp only [DocumentLine.opposite, Option.getD_some, Option.getD_none, roundMoney_toRat, hzero,
    bind_eq_ok, require_eq_ok] at hamounts
  obtain ⟨-, -, -, -, hall⟩ := hamounts
  refine ⟨hcode, ?_⟩
  split at hall
  · rename_i hboth
    simp only [bind_eq_ok, require_eq_ok, pure_eq_ok, Prod.mk.injEq] at hall
    obtain ⟨-, -, rfl, rfl, -⟩ := hall
    have hcredit0 : line.creditAmount = 0 :=
      Numeric.toRat_injective (hboth.1.trans Numeric.toRat_zero.symm)
    have hdebit0 : line.debitAmount = 0 :=
      Numeric.toRat_injective (hboth.2.trans Numeric.toRat_zero.symm)
    rw [hdebit, hcredit, hcredit0, hdebit0, Numeric.ofRat_zero]
    exact ⟨rfl, rfl⟩
  · simp only [pure_eq_ok, Prod.mk.injEq] at hall
    obtain ⟨rfl, rfl, -⟩ := hall
    rw [hdebit, hcredit, Numeric.ofRat_toRat, Numeric.ofRat_toRat]
    exact ⟨rfl, rfl⟩

/-! ## What documents do to 1015 -/

/-- The sum of the amounts of receipt lines. -/
def receiptTotal (lines : DocumentLines) : Money :=
  ((receiptLines lines).map fun line => receiptAmount line.2).sum

/-- A worksheet takes the amounts of its receipt lines from 1015. -/
theorem changeOn_worksheet {lines : DocumentLines} (h : ∀ line ∈ linesOf lines, WorksheetLine line)
    (number : String) : changeOn UNDEPOSITED_FUNDS (journalLines number (linesOf lines)) =
      -(receiptTotal lines).toRat := by
  induction lines with
  | nil => simp [journalLines, linesOf, receiptTotal, receiptLines]
  | cons line rest ih =>
    obtain ⟨hline, hrest⟩ := List.forall_mem_cons.mp h
    change changeOn UNDEPOSITED_FUNDS (_ :: journalLines number (linesOf rest)) = _
    rw [changeOn_cons, ih hrest]
    unfold receiptTotal receiptLines
    rcases hline with ⟨htype, hcode, hdebit, hcredit⟩ | ⟨htype, hcode⟩
    · rw [if_pos hcode, List.filter_cons_of_pos (by simpa using htype), List.map_cons,
        List.sum_cons, Numeric.toRat_add, ← hcredit]
      dsimp only
      rw [hdebit, Numeric.toRat_zero]
      ring
    · rw [if_neg hcode, List.filter_cons_of_neg (by simpa using htype), zero_add]

/-- The opposite lines do the opposite. -/
theorem changeOn_opposite {lines : DocumentLines} {rows : List DocumentLine}
    (h : (lines.map fun line => line.2.opposite).mapM storedLine = .ok rows)
    (accountCode number number' : String) :
    changeOn accountCode (journalLines number rows) =
      -changeOn accountCode (journalLines number' (linesOf lines)) := by
  induction lines generalizing rows with
  | nil =>
    rw [List.map_nil, List.mapM_nil, pure_eq_ok] at h
    rw [← h]
    simp [journalLines, linesOf]
  | cons line rest ih =>
    simp only [List.map_cons, List.mapM_cons, bind_eq_ok, pure_eq_ok] at h
    obtain ⟨row, hrow, rows', hrows', rfl⟩ := h
    obtain ⟨hcode, hdebit, hcredit⟩ := storedLine_opposite hrow
    change changeOn accountCode (_ :: journalLines number rows') =
      -changeOn accountCode (_ :: journalLines number' (linesOf rest))
    simp only [changeOn_cons, ih hrows', hcode, hdebit, hcredit]
    split <;> ring

/-- The rows of stored lines are the stored inputs. -/
theorem storedLines_ok {nextId : LineId} {inputs : List DocumentLineInput} {lines : DocumentLines}
    (h : storedLines nextId inputs = .ok lines) : inputs.mapM storedLine = .ok (linesOf lines) := by
  unfold storedLines at h
  simp only [bind_eq_ok, pure_eq_ok] at h
  obtain ⟨rows, hrows, rfl⟩ := h
  unfold linesOf
  rw [List.map_snd_zip (by rw [List.length_range'])]
  exact hrows

/-! ## The books -/

/-- What applications have taken. -/
def taken (applications : List SettlementApplication) : Money :=
  (applications.map (·.amount)).sum

theorem taken_append (xs ys : List SettlementApplication) :
    taken (xs ++ ys) = taken xs + taken ys := by
  unfold taken
  rw [List.map_append, List.sum_append]

/-- What the receipts are worth. -/
def received (cash : SourceId → Money) (db : ReceiptDb) : Money :=
  db.arPayments.sumBy (fun id p => if p.status = .REVERSED then 0 else cash id) +
    db.deposits.sumBy fun _ d => d.amount

/-- A document is a worksheet or the posted reversal of one.  A worksheet has applications once
it is posted, and has taken by them what its journal credits 1015 by until it is reversed. -/
def DocumentAgrees (applications : List SettlementApplication) (id : DocumentId)
    (doc : TreasuryDocument) (lines : DocumentLines) : Prop :=
  (doc.documentType = .DEPOSIT_WORKSHEET ∧ (∀ line ∈ linesOf lines, WorksheetLine line) ∧
    (doc.status ≠ .POSTED → ∀ a ∈ applications, a.treasuryDocumentId ≠ id) ∧
    (doc.status = .POSTED → doc.reversedByDocumentId = none →
      taken ((activeApplications applications).filter fun a =>
        decide (a.treasuryDocumentId = id)) = receiptTotal lines)) ∨
  (doc.status = .POSTED ∧ doc.reversesDocumentId.isSome = true)

/-- What holds between calls. -/
structure Books (cash : SourceId → Money) (db : ReceiptDb) : Prop where
  journalsBelow : JournalsBelow db
  paymentsBelow : ∀ id p, db.arPayments.get? id = some p → id < db.nextId
  depositsBelow : ∀ id d, db.deposits.get? id = some d → id < db.nextId
  documentsBelow : ∀ id d, db.documents.get? id = some d → id < db.nextId
  applicationsBelow : ∀ a ∈ db.applications, a.treasuryDocumentId < db.nextId
  rows : RowsAgree cash (activeApplications db.applications) db
  listed : ∀ id d, db.deposits.get? id = some d → d.status = .ACTIVE ∨
    (d.status = .REFUNDED ∧ (db.settlements.get? ⟨.CUSTOMER_DEPOSIT, id⟩).isSome = true)
  documents : ∀ id doc lines, db.documents.get? id = some (doc, lines) →
    DocumentAgrees db.applications id doc lines
  references : ∀ id j, db.journals.get? id = some j → ∀ docId,
    j.reference = .TREASURY_DOCUMENT docId →
    ∃ doc lines, db.documents.get? docId = some (doc, lines) ∧ doc.status = .POSTED
  balance : db.getClearingGlBalance UNDEPOSITED_FUNDS =
    (received cash db - taken (activeApplications db.applications)).toRat

end SmartErpPos.Treasury
