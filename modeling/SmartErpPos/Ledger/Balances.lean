/-
  Ledger/Balances.lean --- what a call adds to the balances of the accounts.

  The entries of a transaction carry the stored amounts of its lines, so the
  balances read off the ledger grow by the stored amounts of the lines.  The lines
  of a reversal carry stored amounts to begin with: they take back exactly what the
  original added.
-/
import SmartErpPos.Ledger.WellFormed

set_option autoImplicit false

namespace SmartErpPos.Ledger

open SmartErpPos.Lib

/-! ## Sums over selections -/

/-- A selection falls into two parts. -/
theorem sumEntries_split (entries : List LedgerEntry) (p q : LedgerEntry → Bool)
    (f : LedgerEntry → Amount) :
    sumEntries entries p f =
      sumEntries entries (fun e => p e && q e) f + sumEntries entries (fun e => p e && !q e) f := by
  unfold sumEntries
  induction entries with
  | nil => rfl
  | cons e rest ih =>
    cases hp : p e with
    | false => simpa [hp] using ih
    | true =>
      cases hq : q e with
      | true => simp [hp, hq, ih, add_assoc]
      | false => simp [hp, hq, ih, add_left_comm]

theorem sumEntries_append (xs ys : List LedgerEntry) (p : LedgerEntry → Bool)
    (f : LedgerEntry → Amount) :
    sumEntries (xs ++ ys) p f = sumEntries xs p f + sumEntries ys p f := by
  simp [sumEntries]

theorem sumEntries_congr {entries : List LedgerEntry} {p q : LedgerEntry → Bool}
    (h : ∀ e ∈ entries, p e = q e) (f : LedgerEntry → Amount) :
    sumEntries entries p f = sumEntries entries q f := by
  unfold sumEntries
  rw [List.filter_congr h]

theorem sumEntries_eq_zero {entries : List LedgerEntry} {p : LedgerEntry → Bool}
    (h : ∀ e ∈ entries, p e = false) (f : LedgerEntry → Amount) : sumEntries entries p f = 0 := by
  unfold sumEntries
  have hnil : entries.filter p = [] := List.filter_eq_nil_iff.mpr fun e he => by simp [h e he]
  rw [hnil]
  rfl

/-- Two selections that agree outside of a part differ by what they select of it. -/
theorem sumEntries_agree {entries : List LedgerEntry} {p p' q : LedgerEntry → Bool}
    (h : ∀ e ∈ entries, q e = false → p' e = p e) (f : LedgerEntry → Amount) :
    sumEntries entries p' f = sumEntries entries p f - sumEntries entries (fun e => p e && q e) f +
      sumEntries entries (fun e => p' e && q e) f := by
  rw [sumEntries_split entries p' q f, sumEntries_split entries p q f, add_sub_cancel_left, add_comm]
  congr 1
  refine sumEntries_congr (fun e he => ?_) f
  cases hq : q e with
  | true => simp
  | false => rw [h e he hq]

/-- What a transaction adds to an account. -/
def amountOf (db : LedgerDb) (id : TransactionId) (a : AccountId) (normal : NormalBalance) :
    Amount :=
  balanceOver db (fun e => e.transactionId = id) a normal

/-! ## Stored amounts of lines -/

/-- What the entry of a line adds to the balance of an account. -/
def JournalLine.storedChange (normal : NormalBalance) (line : JournalLine) : Amount :=
  match normal with
  | .DEBIT => Numeric.ofRat line.debitAmount - Numeric.ofRat line.creditAmount
  | .CREDIT => Numeric.ofRat line.creditAmount - Numeric.ofRat line.debitAmount

/-- What the entries of the lines on an account add to its balance. -/
def linesChange (normal : NormalBalance) (code : String) (lines : List JournalLine) : Amount :=
  ((linesOn code lines).map (·.storedChange normal)).sum

@[simp] theorem linesChange_nil (normal : NormalBalance) (code : String) :
    linesChange normal code [] = 0 := rfl

theorem linesChange_cons (normal : NormalBalance) (code : String) (line : JournalLine)
    (lines : List JournalLine) : linesChange normal code (line :: lines) =
      (if line.accountCode = code then line.storedChange normal else 0) +
        linesChange normal code lines := by
  unfold linesChange linesOn
  by_cases hcode : line.accountCode = code
  · simp [hcode]
  · simp [hcode]

variable {id : TransactionId} {a : AccountId} {row : AccountRow}

theorem IsEntryOf.signed_eq {line : JournalLine} {e : LedgerEntry} (h : IsEntryOf id line e)
    (normal : NormalBalance) : e.signed normal = line.storedChange normal := by
  cases normal <;> simp [LedgerEntry.signed, JournalLine.storedChange, h.debitAmount, h.creditAmount]

/-- An entry is on the account its line names. -/
theorem Entered.accountId_eq_iff {db : LedgerDb} {line : JournalLine} {e : LedgerEntry}
    (hrow : db.accounts.get? a = some row) (h : Entered db id line e) :
    e.accountId = a ↔ line.accountCode = row.accountCode := by
  obtain ⟨-, row', hrow', hcode⟩ := h
  constructor
  · rintro rfl
    rw [hrow] at hrow'
    cases hrow'
    exact hcode.symm
  · intro heq
    exact db.account_unique hrow' hrow (hcode.trans heq)

/-- The entries written on an account add up to the stored amounts of its lines. -/
theorem LinesWritten.sumEntries_eq {before after : LedgerDb} {lines : List JournalLine}
    {written : List LedgerEntry} (h : LinesWritten id before after lines written)
    (hrow : before.accounts.get? a = some row) (normal : NormalBalance) :
    sumEntries written (fun e => e.accountId = a) (·.signed normal) =
      linesChange normal row.accountCode lines := by
  unfold sumEntries linesChange linesOn
  refine (sum_filter_eq h.entered (fun line e hle => ?_) (fun line e hle => ?_)).symm
  · rw [decide_eq_decide]
    exact (hle.accountId_eq_iff hrow).symm
  · exact (hle.1.signed_eq normal).symm

/-! ## Postings -/

namespace JournalPosted

variable {ctx : PostingContext} {db : LedgerDb} {request : JournalEntryRequest}
  {out : PostingOutcome} {header : TransactionRow} {written : List LedgerEntry} {mid : LedgerDb}

variable {a : AccountId} {row : AccountRow}

/-- A selection of old entries, and of all new ones or none, grows by the stored amounts or
stays. -/
theorem balanceOver_after (hwf : WellFormed db)
    (h : JournalPosted ctx db request out header written mid) {q : LedgerDb → TransactionId → Bool}
    {new : Bool} (hq : ∀ t, q out.db t = if t = db.nextId then new else q db t)
    (hrow : db.accounts.get? a = some row) (normal : NormalBalance) :
    balanceOver out.db (fun e => q out.db e.transactionId) a normal =
      balanceOver db (fun e => q db e.transactionId) a normal +
        if new then linesChange normal row.accountCode request.lines else 0 := by
  unfold balanceOver
  rw [h.entries_eq, sumEntries_append]
  congr 1
  · refine sumEntries_congr (fun e he => ?_) _
    obtain ⟨r, hr⟩ := hwf.entryTransaction e he
    show (_ && q out.db e.transactionId) = _
    rw [hq, if_neg (hwf.idsBelow _ _ hr).ne]
  · have hnew : ∀ e ∈ written, q out.db e.transactionId = new := by
      intro e he
      rw [hq, if_pos (h.lines.of_mem he).1]
    cases new with
    | true =>
      rw [if_pos rfl, ← h.lines.sumEntries_eq hrow normal]
      exact sumEntries_congr (fun e he => by simp [hnew e he]) _
    | false => exact sumEntries_eq_zero (fun e he => by simp [hnew e he]) _

theorem balanceOver_eq (hwf : WellFormed db)
    (h : JournalPosted ctx db request out header written mid) {q : LedgerDb → TransactionId → Bool}
    (hq : ∀ t, q out.db t = if t = db.nextId then true else q db t)
    (hrow : db.accounts.get? a = some row) (normal : NormalBalance) :
    balanceOver out.db (fun e => q out.db e.transactionId) a normal =
      balanceOver db (fun e => q db e.transactionId) a normal +
        linesChange normal row.accountCode request.lines :=
  h.balanceOver_after hwf hq hrow normal

theorem netActiveBalance_eq (hwf : WellFormed db)
    (h : JournalPosted ctx db request out header written mid) (hrow : db.accounts.get? a = some row)
    (normal : NormalBalance) :
    netActiveBalance out.db a normal = netActiveBalance db a normal +
      linesChange normal row.accountCode request.lines :=
  h.balanceOver_eq hwf (q := isActiveId) (h.headerAdded.isActiveId hwf) hrow normal

theorem postedBalance_eq (hwf : WellFormed db)
    (h : JournalPosted ctx db request out header written mid) (hrow : db.accounts.get? a = some row)
    (normal : NormalBalance) :
    postedBalance out.db a normal = postedBalance db a normal +
      linesChange normal row.accountCode request.lines :=
  h.balanceOver_eq hwf (q := isPostedId) h.headerAdded.isPostedId hrow normal

/-- The new transaction adds the stored amounts of its lines, the others what they did. -/
theorem amountOf_eq (hwf : WellFormed db) (h : JournalPosted ctx db request out header written mid)
    (hrow : db.accounts.get? a = some row) (normal : NormalBalance) (t : TransactionId) :
    amountOf out.db t a normal = if t = db.nextId then
      linesChange normal row.accountCode request.lines else amountOf db t a normal := by
  unfold amountOf balanceOver
  rw [h.entries_eq, sumEntries_append]
  have hnext : ∀ e ∈ db.entries, e.transactionId ≠ db.nextId := by
    intro e he
    obtain ⟨r, hr⟩ := hwf.entryTransaction e he
    exact (hwf.idsBelow _ _ hr).ne
  split
  · rename_i heq
    subst heq
    rw [sumEntries_eq_zero (fun e he => by simp [hnext e he]), zero_add,
      ← h.lines.sumEntries_eq hrow normal]
    refine sumEntries_congr (fun e he => ?_) _
    simp [(h.lines.of_mem he).1]
  · rename_i hne
    rw [@sumEntries_eq_zero written _
      (fun e he => by simp [(h.lines.of_mem he).1, Ne.symm hne]), add_zero]

end JournalPosted

/-! ## Reversals -/

theorem storedChange_reversedLine (code : String) (e : LedgerEntry) (normal : NormalBalance) :
    (reversedLine code e).storedChange normal = -e.signed normal := by
  cases normal <;> simp [reversedLine, JournalLine.storedChange, LedgerEntry.signed]

/-- One line for each entry of the original. -/
theorem reversedLines_paired {db : LedgerDb} (hwf : WellFormed db) (id : TransactionId) :
    List.Forall₂ (fun e line => ∃ row, db.accounts.get? e.accountId = some row ∧
      line = reversedLine row.accountCode e) (orderedEntries db id) (reversedLines db id) := by
  have hpaired : ∀ es : List LedgerEntry, (∀ e ∈ es, e ∈ db.entries) →
      List.Forall₂ (fun e line => ∃ row, db.accounts.get? e.accountId = some row ∧
        line = reversedLine row.accountCode e) es (es.filterMap fun e =>
          (db.accounts.get? e.accountId).map fun account => reversedLine account.accountCode e) := by
    intro es hes
    induction es with
    | nil => exact .nil
    | cons e rest ih =>
      obtain ⟨row, hrow⟩ := hwf.entryAccount e (hes e List.mem_cons_self)
      have hsome : (db.accounts.get? e.accountId).map (fun account =>
          reversedLine account.accountCode e) = some (reversedLine row.accountCode e) := by
        rw [hrow]
        rfl
      simp only [List.filterMap_cons, hsome]
      exact .cons ⟨row, hrow, rfl⟩ (ih fun x hx => hes x (List.mem_cons_of_mem e hx))
  refine hpaired _ fun e he => ?_
  exact (List.mem_filter.mp ((List.perm_insertionSort _ _).mem_iff.mp he)).1

/-- The lines of a reversal take back what the original added. -/
theorem linesChange_reversedLines {db : LedgerDb} (hwf : WellFormed db) (id : TransactionId)
    (hrow : db.accounts.get? a = some row) (normal : NormalBalance) :
    linesChange normal row.accountCode (reversedLines db id) = -amountOf db id a normal := by
  have hsum : (((orderedEntries db id).filter fun e => e.accountId = a).map
      (fun e => -e.signed normal)).sum = linesChange normal row.accountCode (reversedLines db id) := by
    refine sum_filter_eq (reversedLines_paired hwf id) (fun e line hle => ?_)
      (fun e line hle => ?_)
    · obtain ⟨r, hr, rfl⟩ := hle
      rw [decide_eq_decide]
      constructor
      · rintro rfl
        rw [hrow] at hr
        cases hr
        rfl
      · exact fun hcode => db.account_unique hr hrow hcode
    · obtain ⟨r, -, rfl⟩ := hle
      exact (storedChange_reversedLine r.accountCode e normal).symm
  have hperm : (orderedEntries db id).Perm (entriesOf db id) := List.perm_insertionSort _ _
  rw [← hsum, ((hperm.filter _).map _).sum_eq]
  unfold entriesOf amountOf balanceOver sumEntries
  rw [List.filter_filter, List.sum_neg, List.map_map]
  rfl

namespace ReversalPosted

variable {ctx : PostingContext} {db : LedgerDb} {request : ReversalRequest} {out : PostingOutcome}
  {original header : TransactionRow} {written : List LedgerEntry} {mid : LedgerDb}

/-- A predicate that no longer holds of the original, and not of the reversal, loses what the
original added. -/
theorem balanceOver_reversed (hwf : WellFormed db)
    (h : ReversalPosted ctx db request out original header written mid)
    {q : LedgerDb → TransactionId → Bool} (hnew : q out.db db.nextId = false)
    (hold : ∀ t, t ≠ db.nextId →
      q out.db t = (decide (t ≠ request.originalTransactionId) && q db t))
    (a : AccountId) (normal : NormalBalance) :
    balanceOver out.db (fun e => q out.db e.transactionId) a normal =
      balanceOver db (fun e => q db e.transactionId) a normal -
        if q db request.originalTransactionId = true then
          amountOf db request.originalTransactionId a normal else 0 := by
  have hwritten : sumEntries written (fun e => decide (e.accountId = a) &&
      q out.db e.transactionId) (·.signed normal) = 0 := by
    refine sumEntries_eq_zero (fun e he => ?_) _
    simp [(h.lines.of_mem he).1, hnew]
  unfold balanceOver
  rw [h.entries_eq, sumEntries_append, hwritten, add_zero,
    sumEntries_split db.entries (fun e => decide (e.accountId = a) && q db e.transactionId)
      (fun e => e.transactionId = request.originalTransactionId)]
  have hkept : sumEntries db.entries (fun e => decide (e.accountId = a) &&
      q out.db e.transactionId) (·.signed normal) =
      sumEntries db.entries (fun e => decide (e.accountId = a) && q db e.transactionId &&
        !decide (e.transactionId = request.originalTransactionId)) (·.signed normal) := by
    refine sumEntries_congr (fun e he => ?_) _
    obtain ⟨r, hr⟩ := hwf.entryTransaction e he
    rw [hold _ (hwf.idsBelow _ _ hr).ne]
    rcases eq_or_ne e.transactionId request.originalTransactionId with heq | hne
    · simp [heq]
    · simp [hne]
  have hgone : sumEntries db.entries (fun e => decide (e.accountId = a) &&
      q db e.transactionId && decide (e.transactionId = request.originalTransactionId))
      (·.signed normal) =
      if q db request.originalTransactionId = true then
        amountOf db request.originalTransactionId a normal else 0 := by
    split
    · rename_i hon
      refine sumEntries_congr (fun e _ => ?_) _
      rcases eq_or_ne e.transactionId request.originalTransactionId with heq | hne
      · simp [heq, hon]
      · simp [hne]
    · rename_i hoff
      refine sumEntries_eq_zero (fun e _ => ?_) _
      rcases eq_or_ne e.transactionId request.originalTransactionId with heq | hne
      · simp [heq, Bool.eq_false_iff.mpr hoff]
      · simp [hne]
  rw [hkept, hgone, add_sub_cancel_left]

/-- The entries of the original leave the net-active ones; those of the reversal do not
join them. -/
theorem netActiveBalance_eq (hwf : WellFormed db)
    (h : ReversalPosted ctx db request out original header written mid) (a : AccountId)
    (normal : NormalBalance) :
    netActiveBalance out.db a normal = netActiveBalance db a normal -
      if isActiveId db request.originalTransactionId = true then
        amountOf db request.originalTransactionId a normal else 0 := by
  have hactive := h.originalReversed.isActiveId hwf
  exact h.balanceOver_reversed hwf (q := isActiveId) (by simp [hactive])
    (fun t ht => by simp [hactive, ht]) a normal

/-- The entries of the original leave the posted ones and those of the reversal join
them. -/
theorem postedBalance_eq (hwf : WellFormed db)
    (h : ReversalPosted ctx db request out original header written mid) {a : AccountId}
    {row : AccountRow} (hrow : db.accounts.get? a = some row) (normal : NormalBalance) :
    postedBalance out.db a normal = postedBalance db a normal -
      (amountOf db request.originalTransactionId a normal +
        amountOf db request.originalTransactionId a normal) := by
  have hposted := h.originalReversed.isPostedId hwf
  have horiginal : isPostedId db request.originalTransactionId = true :=
    isPostedId_iff.mpr ⟨original, h.original_get, h.original_posted⟩
  have hnew : sumEntries written (fun e => decide (e.accountId = a) && isPostedEntry out.db e)
      (·.signed normal) = -amountOf db request.originalTransactionId a normal := by
    rw [← linesChange_reversedLines hwf _ hrow normal, ← h.lines.sumEntries_eq hrow normal]
    refine sumEntries_congr (fun e he => ?_) _
    simp [isPostedEntry, hposted, (h.lines.of_mem he).1]
  have hold : sumEntries db.entries (fun e => decide (e.accountId = a) && isPostedEntry out.db e)
      (·.signed normal) = postedBalance db a normal -
        amountOf db request.originalTransactionId a normal := by
    unfold postedBalance amountOf balanceOver
    rw [sumEntries_split db.entries (fun e => decide (e.accountId = a) && isPostedEntry db e)
      (fun e => e.transactionId = request.originalTransactionId)]
    have hgone : sumEntries db.entries (fun e => decide (e.accountId = a) && isPostedEntry db e &&
        decide (e.transactionId = request.originalTransactionId)) (·.signed normal) =
        sumEntries db.entries (fun e => decide (e.accountId = a) &&
          decide (e.transactionId = request.originalTransactionId)) (·.signed normal) := by
      refine sumEntries_congr (fun e _ => ?_) _
      rcases eq_or_ne e.transactionId request.originalTransactionId with heq | hne
      · simp [isPostedEntry, heq, horiginal]
      · simp [hne]
    rw [hgone, add_sub_cancel_left]
    refine sumEntries_congr (fun e he => ?_) _
    obtain ⟨r, hr⟩ := hwf.entryTransaction e he
    have hne := (hwf.idsBelow _ _ hr).ne
    rcases eq_or_ne e.transactionId request.originalTransactionId with heq | hne'
    · simp [isPostedEntry, hposted, heq, h.original_lt.ne]
    · simp [isPostedEntry, hposted, hne, hne']
  show balanceOver out.db (isPostedEntry out.db) a normal = _
  unfold balanceOver
  rw [h.entries_eq, sumEntries_append, hold, hnew]
  abel

/-- The other transactions add what they did. -/
theorem amountOf_of_ne (h : ReversalPosted ctx db request out original header written mid)
    (a : AccountId) (normal : NormalBalance) {t : TransactionId} (ht : t ≠ db.nextId) :
    amountOf out.db t a normal = amountOf db t a normal := by
  have hnew : sumEntries written (fun e => decide (e.accountId = a) &&
      decide (e.transactionId = t)) (·.signed normal) = 0 :=
    sumEntries_eq_zero (fun e he => by simp [(h.lines.of_mem he).1, Ne.symm ht]) _
  unfold amountOf balanceOver
  rw [h.entries_eq, sumEntries_append, hnew, add_zero]

end ReversalPosted

end SmartErpPos.Ledger
