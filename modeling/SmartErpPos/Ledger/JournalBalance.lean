/-
  Ledger/JournalBalance.lean --- how exactly the rows of a journal balance.

  A journal is checked three times: the unrounded lines balance within a tolerance, each line
  has one positive side, and the rows agree with the header to the cent.  Rows hold six
  decimals.  So they balance exactly where the lines are whole thousandths, which the tolerance
  does not reach, and up to the tolerance and the rounding of each line elsewhere.
-/
import SmartErpPos.Ledger.Reposting
import SmartErpPos.Lib.RoundedRat

set_option autoImplicit false

namespace SmartErpPos.Ledger

open SmartErpPos.Lib

/-! ## What the rows say -/

/-- `SUM("DebitAmount")` over the rows of a journal. -/
def debitsOf (db : LedgerDb) (id : TransactionId) : Amount :=
  ((entriesOf db id).map (·.debitAmount)).sum

/-- `SUM("CreditAmount")`. -/
def creditsOf (db : LedgerDb) (id : TransactionId) : Amount :=
  ((entriesOf db id).map (·.creditAmount)).sum

/-- Exactly one side is positive, and the other is zero. -/
def LedgerEntry.OneSided (e : LedgerEntry) : Prop :=
  (0 < e.debitAmount ∧ e.creditAmount = 0) ∨ (e.debitAmount = 0 ∧ 0 < e.creditAmount)

/-- One side is zero, and the other is not negative. -/
def LedgerEntry.AtMostOneSided (e : LedgerEntry) : Prop :=
  (0 ≤ e.debitAmount ∧ e.creditAmount = 0) ∨ (e.debitAmount = 0 ∧ 0 ≤ e.creditAmount)

/-- The rows of a journal balance, and its header has their totals. -/
structure BalancesExactly (db : LedgerDb) (id : TransactionId) : Prop where
  balanced : debitsOf db id = creditsOf db id
  oneSided : ∀ e ∈ entriesOf db id, e.OneSided
  header : ∃ header, db.transactions.get? id = some header ∧
    header.totalDebitAmount = debitsOf db id ∧ header.totalCreditAmount = creditsOf db id

/-- The rows of a journal of `n` lines balance up to the tolerance and the rounding of its
lines, and its header has their totals to the cent. -/
structure BalancesWithin (db : LedgerDb) (id : TransactionId) (n : ℕ) : Prop where
  balanced : |(debitsOf db id).toRat - (creditsOf db id).toRat| <
    balanceTolerance + n * (1 / 10 ^ 6)
  oneSided : ∀ e ∈ entriesOf db id, e.AtMostOneSided
  header : ∃ header, db.transactions.get? id = some header ∧
    roundCents header.totalDebitAmount = roundCents (debitsOf db id) ∧
    roundCents header.totalCreditAmount = roundCents (creditsOf db id)

/-- The amounts of the lines are whole thousandths. -/
def WholeThousandths (lines : List JournalLine) : Prop :=
  ∀ line ∈ lines, OnGrid 3 line.debitAmount ∧ OnGrid 3 line.creditAmount

instance (lines : List JournalLine) : Decidable (WholeThousandths lines) :=
  inferInstanceAs (Decidable (∀ line ∈ lines, _ ∧ _))

/-! ## Lines and their rows -/

theorem validateLineAmounts_iff {line : JournalLine} :
    validateLineAmounts line = true ↔
      (0 < line.debitAmount ∧ line.creditAmount ≤ 0) ∨
        (line.debitAmount ≤ 0 ∧ 0 < line.creditAmount) := by
  unfold validateLineAmounts JournalLine.isDebit JournalLine.isCredit
  by_cases hd : 0 < line.debitAmount
  · by_cases hc : 0 < line.creditAmount
    · simp [hd, hc, not_le.mpr hd, not_le.mpr hc]
    · simp [hd, hc, not_lt.mp hc]
  · by_cases hc : 0 < line.creditAmount
    · simp [hd, hc, not_lt.mp hd]
    · simp [hd, hc]

/-- What a request that passes its checks says about its lines. -/
theorem lines_of_validateRequest {ctx : PostingContext} {db : LedgerDb}
    {request : JournalEntryRequest} (h : validateRequest ctx db request = .ok ()) :
    (validateDoubleEntry request.lines).isValid = true ∧
      ∀ line ∈ request.lines, validateLineAmounts line = true := by
  unfold validateRequest at h
  simp only [bind_eq_ok, require_eq_ok] at h
  obtain ⟨-, hvalid, ⟨⟩, hlines, -⟩ := h
  exact ⟨hvalid, fun line hline => require_eq_ok.mp (of_forM_eq_ok hlines line hline)⟩

/-- The row of a line has one side: the other is zero, for the sides add up to its amount. -/
theorem IsEntryOf.atMostOneSided {id : TransactionId} {line : JournalLine} {e : LedgerEntry}
    (h : IsEntryOf id line e) (hline : validateLineAmounts line = true)
    (hamount : e.amount = e.debitAmount + e.creditAmount) : e.AtMostOneSided := by
  rcases validateLineAmounts_iff.mp hline with ⟨hdebit, hcredit⟩ | ⟨hdebit, hcredit⟩
  · have hside : line.isDebit = true := decide_eq_true hdebit
    rw [h.amount, if_pos hside, ← h.debitAmount, left_eq_add] at hamount
    exact .inl ⟨h.debitAmount ▸ Numeric.ofRat_nonneg hdebit.le, hamount⟩
  · have hside : ¬ line.isDebit = true := fun htrue => not_lt.mpr hdebit (of_decide_eq_true htrue)
    rw [h.amount, if_neg hside, ← h.creditAmount, right_eq_add] at hamount
    exact .inr ⟨hamount, h.creditAmount ▸ Numeric.ofRat_nonneg hcredit.le⟩

/-- A side of whole thousandths is stored as it is. -/
theorem ofRat_pos_of_thousandths {q : ℚ} (hq : 0 < q) (h : OnGrid 3 q) :
    (0 : Amount) < Numeric.ofRat q := by
  have hgrid : OnGrid 6 q := h.of_le (by decide)
  have hstored : (Numeric.ofRat q : Amount).toRat = q := hgrid.roundTo_eq
  rw [← Numeric.toRat_pos_iff, hstored]
  exact hq

theorem IsEntryOf.oneSided {id : TransactionId} {line : JournalLine} {e : LedgerEntry}
    (h : IsEntryOf id line e) (hline : validateLineAmounts line = true)
    (hamount : e.amount = e.debitAmount + e.creditAmount)
    (hdebits : OnGrid 3 line.debitAmount) (hcredits : OnGrid 3 line.creditAmount) :
    e.OneSided := by
  rcases validateLineAmounts_iff.mp hline with ⟨hdebit, -⟩ | ⟨-, hcredit⟩
  · have hpos : 0 < e.debitAmount := h.debitAmount ▸ ofRat_pos_of_thousandths hdebit hdebits
    rcases h.atMostOneSided hline hamount with ⟨-, hzero⟩ | ⟨hzero, -⟩
    · exact .inl ⟨hpos, hzero⟩
    · exact absurd hzero hpos.ne'
  · have hpos : 0 < e.creditAmount := h.creditAmount ▸ ofRat_pos_of_thousandths hcredit hcredits
    rcases h.atMostOneSided hline hamount with ⟨-, hzero⟩ | ⟨hzero, -⟩
    · exact absurd hzero hpos.ne'
    · exact .inr ⟨hzero, hpos⟩

/-! ## What a posting leaves -/

namespace JournalPosted

variable {ctx : PostingContext} {db : LedgerDb} {request : JournalEntryRequest}
  {out : PostingOutcome} {header : TransactionRow} {written : List LedgerEntry} {mid : LedgerDb}

theorem entriesOf_eq (h : JournalPosted ctx db request out header written mid)
    (hwf : WellFormed db) : entriesOf out.db db.nextId = written := by
  unfold entriesOf
  rw [h.entries_eq, List.filter_append]
  have hold : db.entries.filter (fun e => decide (e.transactionId = db.nextId)) = [] :=
    List.filter_eq_nil_iff.mpr fun e he => by simp [hwf.entries_fresh e he]
  have hnew : written.filter (fun e => decide (e.transactionId = db.nextId)) = written :=
    List.filter_eq_self.mpr fun e he => by simp [(h.lines.of_mem he).1]
  rw [hold, hnew, List.nil_append]

theorem headerMatches (h : JournalPosted ctx db request out header written mid)
    (hwf : WellFormed db) : HeaderMatches request.lines := by
  have hget : (withHeader db db.nextId header).transactions.get? db.nextId = some header :=
    OrderedMap.get?_set_self ..
  refine (h.lines.checked_iff hwf.entries_fresh hget ?_ ?_).mp h.checked
  · rw [h.header_eq]
    rfl
  · rw [h.header_eq]
    rfl

theorem debitsOf_eq (h : JournalPosted ctx db request out header written mid)
    (hwf : WellFormed db) : debitsOf out.db db.nextId =
      (request.lines.map fun line => (Numeric.ofRat line.debitAmount : Amount)).sum := by
  unfold debitsOf
  rw [h.entriesOf_eq hwf]
  exact congrArg List.sum (map_eq_map h.lines.entered fun _ _ he => he.1.debitAmount.symm).symm

theorem creditsOf_eq (h : JournalPosted ctx db request out header written mid)
    (hwf : WellFormed db) : creditsOf out.db db.nextId =
      (request.lines.map fun line => (Numeric.ofRat line.creditAmount : Amount)).sum := by
  unfold creditsOf
  rw [h.entriesOf_eq hwf]
  exact congrArg List.sum (map_eq_map h.lines.entered fun _ _ he => he.1.creditAmount.symm).symm

theorem header_get? (h : JournalPosted ctx db request out header written mid) :
    out.db.transactions.get? db.nextId = some header ∧
      header.totalDebitAmount = Numeric.ofRat (validateDoubleEntry request.lines).totalDebits ∧
      header.totalCreditAmount = Numeric.ofRat (validateDoubleEntry request.lines).totalCredits := by
  rw [h.headerAdded.transactions, h.header_eq]
  exact ⟨OrderedMap.get?_set_self .., rfl, rfl⟩

/-- A row with the line it was written for, whose amount is what its sides add up to. -/
theorem line_of_mem (h : JournalPosted ctx db request out header written mid)
    (hwf : WellFormed db) {e : LedgerEntry} (he : e ∈ entriesOf out.db db.nextId) :
    ∃ line ∈ request.lines, IsEntryOf db.nextId line e ∧
      e.amount = e.debitAmount + e.creditAmount := by
  rw [h.entriesOf_eq hwf] at he
  obtain ⟨line, hline, hentry, -⟩ := exists_left_of_mem h.lines.entered he
  refine ⟨line, hline, hentry, ?_⟩
  rw [hentry.amount, hentry.debitAmount, hentry.creditAmount]
  exact (h.headerMatches hwf).amounts line hline

theorem balancesWithin (h : JournalPosted ctx db request out header written mid)
    (hwf : WellFormed db) (hvalid : (validateDoubleEntry request.lines).isValid = true)
    (hlines : ∀ line ∈ request.lines, validateLineAmounts line = true) :
    BalancesWithin out.db db.nextId request.lines.length := by
  have hmatches := h.headerMatches hwf
  obtain ⟨hget, hdebits, hcredits⟩ := h.header_get?
  refine ⟨?_, fun e he => ?_, header, hget, ?_, ?_⟩
  · have hclose : |(request.lines.map (·.debitAmount)).sum -
        (request.lines.map (·.creditAmount)).sum| < balanceTolerance := of_decide_eq_true hvalid
    have hdebit := abs_sum_ofRat_sub_le 6 (fun line : JournalLine => line.debitAmount) request.lines
    have hcredit := abs_sum_ofRat_sub_le 6 (fun line : JournalLine => line.creditAmount)
      request.lines
    rw [h.debitsOf_eq hwf, h.creditsOf_eq hwf]
    rw [abs_le] at hdebit hcredit
    rw [abs_lt] at hclose ⊢
    constructor <;> linarith
  · obtain ⟨line, hline, hentry, hamount⟩ := h.line_of_mem hwf he
    exact hentry.atMostOneSided (hlines line hline) hamount
  · rw [hdebits, h.debitsOf_eq hwf]
    exact hmatches.debits
  · rw [hcredits, h.creditsOf_eq hwf]
    exact hmatches.credits

theorem balancesExactly (h : JournalPosted ctx db request out header written mid)
    (hwf : WellFormed db) (hvalid : (validateDoubleEntry request.lines).isValid = true)
    (hlines : ∀ line ∈ request.lines, validateLineAmounts line = true)
    (hwhole : WholeThousandths request.lines) : BalancesExactly out.db db.nextId := by
  obtain ⟨hget, hdebits, hcredits⟩ := h.header_get?
  have hdebit := sum_ofRat_of_onGrid fun line hline =>
    ((hwhole line hline).1.of_le (by decide) : OnGrid 6 line.debitAmount)
  have hcredit := sum_ofRat_of_onGrid fun line hline =>
    ((hwhole line hline).2.of_le (by decide) : OnGrid 6 line.creditAmount)
  refine ⟨?_, fun e he => ?_, header, hget, ?_, ?_⟩
  · -- The difference is a whole number of thousandths, and smaller than one.
    have hgrid : OnGrid 3 ((request.lines.map (·.debitAmount)).sum -
        (request.lines.map (·.creditAmount)).sum) := by
      refine .sub (onGrid_sum fun q hq => ?_) (onGrid_sum fun q hq => ?_)
      · obtain ⟨line, hline, rfl⟩ := List.mem_map.mp hq
        exact (hwhole line hline).1
      · obtain ⟨line, hline, rfl⟩ := List.mem_map.mp hq
        exact (hwhole line hline).2
    have hclose : |(request.lines.map (·.debitAmount)).sum -
        (request.lines.map (·.creditAmount)).sum| < balanceTolerance := of_decide_eq_true hvalid
    have hzero := hgrid.eq_zero_of_abs_lt (hclose.trans_eq (by norm_num [balanceTolerance]))
    rw [h.debitsOf_eq hwf, h.creditsOf_eq hwf, hdebit, hcredit, sub_eq_zero.mp hzero]
  · obtain ⟨line, hline, hentry, hamount⟩ := h.line_of_mem hwf he
    obtain ⟨hdebits, hcredits⟩ := hwhole line hline
    exact hentry.oneSided (hlines line hline) hamount hdebits hcredits
  · rw [hdebits, h.debitsOf_eq hwf]
    exact hdebit.symm
  · rw [hcredits, h.creditsOf_eq hwf]
    exact hcredit.symm

end JournalPosted

/-- A call that writes a journal leaves rows that balance within the tolerance, and exactly
where its lines are whole thousandths. -/
theorem createJournalEntry_balances {ctx : PostingContext} {db : LedgerDb}
    {request : JournalEntryRequest} {out : PostingOutcome} (hwf : WellFormed db)
    (h : createJournalEntry ctx db request = .ok out) (hwritten : out.db ≠ db) :
    BalancesWithin out.db out.result.transactionId request.lines.length ∧
      (WholeThousandths request.lines → BalancesExactly out.db out.result.transactionId) := by
  obtain ⟨hvalid, hlines⟩ := lines_of_validateRequest (validateRequest_of_ok h)
  rcases createJournalEntry_cases h with ⟨hsame, -⟩ | ⟨-, -, hpost⟩
  · exact absurd hsame hwritten
  · obtain ⟨header, written, mid, hposted⟩ := postJournal_cases hpost
    rw [hposted.result_eq]
    exact ⟨hposted.balancesWithin hwf hvalid hlines,
      hposted.balancesExactly hwf hvalid hlines⟩

/-! ## Fractions of a cent -/

/-- A rent of `debit` on a loan of `credit`. -/
def fractionJournal (debit credit : ℚ) : JournalEntryRequest :=
  { rentJournal credit january "rent" 7 with
    lines := [⟨"6100", "Rent", debit, 0, none, none⟩, ⟨"2500", "Loan", 0, credit, none, none⟩] }

/-- Nothing posted to the books. -/
def nothingPosted : PostingOutcome where
  db := books
  result := ⟨0, 0, .POSTED, 0, 0⟩
  pendingRebuildJobs := []

def fractionPosted (debit credit : ℚ) : PostingOutcome :=
  settled (createJournalEntry (contextOf .ownTransaction books) books (fractionJournal debit credit))
    nothingPosted

theorem createJournalEntry_balances_rent :
    createJournalEntry (contextOf .ownTransaction books) books (fractionJournal 100 100) =
        .ok (fractionPosted 100 100) ∧
      BalancesExactly (fractionPosted 100 100).db (fractionPosted 100 100).result.transactionId :=
  have hposted : createJournalEntry (contextOf .ownTransaction books) books
      (fractionJournal 100 100) = .ok (fractionPosted 100 100) :=
    eq_ok_settled (by decide +kernel) _
  have hchanged : (fractionPosted 100 100).db ≠ books := fun hsame =>
    absurd (congrArg LedgerDb.nextId hsame) (by decide +kernel)
  ⟨hposted, (createJournalEntry_balances books_empty.wellFormed hposted hchanged).2
    (by decide +kernel)⟩

/-- A debit four tenths of a thousandth above the credit is posted, and stored as it is. -/
theorem fractionPosted_unbalanced :
    createJournalEntry (contextOf .ownTransaction books) books
        (fractionJournal (1000004 / 10000) 100) = .ok (fractionPosted (1000004 / 10000) 100) ∧
      ¬ BalancesExactly (fractionPosted (1000004 / 10000) 100).db
        (fractionPosted (1000004 / 10000) 100).result.transactionId :=
  ⟨eq_ok_settled (by decide +kernel) _, fun h => absurd h.balanced (by decide +kernel)⟩

end SmartErpPos.Ledger
