/-
  Receivables/OpenItems.lean --- which open invoices a payment settles.

  Source: `ar-payments/openItemAllocationEngine.ts` (`listOpenInvoicesForCustomer`,
  `validateAllocationLines`, `buildFifoAllocations`).

  The producer walks the invoices as they come and gives each what is left, up to its
  amount due; it stops at nine tenths of a cent.  The validator is separate code with the
  same tolerance.  The order and the statuses are the query's affair: the producer
  reads neither.

  Customer ids are numbers here and amounts exact rationals; dates are day numbers.
-/
import Mathlib.Data.Int.ConditionallyCompleteOrder
import Mathlib.Data.List.Sort
import Mathlib.Data.Prod.Lex
import Mathlib.Order.WithBot
import SmartErpPos.Lib.DecimalText
import SmartErpPos.Lib.Fallible

set_option autoImplicit false

namespace SmartErpPos.Receivables

open SmartErpPos.Lib

abbrev InvoiceId := String
abbrev CustomerId := ℕ

/-! ## Open invoices -/

/-- A row of `invoices`. -/
structure InvoiceRow where
  id : InvoiceId
  customerId : CustomerId
  issueDate : ℤ
  dueDate : Option ℤ
  totalAmount : ℚ
  amountDue : ℚ
  status : String
  documentType : Option String
  deriving DecidableEq

structure OpenInvoiceRow where
  id : InvoiceId
  issueDate : ℤ
  dueDate : Option ℤ
  totalAmount : ℚ
  amountDue : ℚ
  status : String
  documentType : String
  deriving DecidableEq

structure AllocationLineInput where
  invoiceId : InvoiceId
  amount : ℚ
  deriving DecidableEq

/-- `AR_OPEN_DOCUMENT_TYPES`. -/
def arOpenDocumentTypes : List String := ["INVOICE", "OPENING_BALANCE", "DIST_INVOICE"]

/-- The statuses the query leaves out and the validator refuses. -/
def closedStatuses : List String := ["CANCELLED", "VOIDED", "DRAFT"]

/-- Nine tenths of a cent. -/
def tolerance : ℚ := 9 / 1000

/-- `ORDER BY due_date ASC NULLS LAST, issue_date ASC`. -/
def OpenInvoiceRow.age (inv : OpenInvoiceRow) : WithTop ℤ ×ₗ ℤ :=
  toLex (inv.dueDate.elim ⊤ fun day => (day : WithTop ℤ), inv.issueDate)

/-- The `WHERE` clause. -/
def isOpenFor (customerId : CustomerId) (row : InvoiceRow) : Bool :=
  decide (row.customerId = customerId) &&
    decide (row.documentType.getD "INVOICE" ∈ arOpenDocumentTypes) &&
    decide (row.status ∉ closedStatuses) && decide (tolerance < row.amountDue)

/-- The selected columns. -/
def openRow (row : InvoiceRow) : OpenInvoiceRow where
  id := row.id
  issueDate := row.issueDate
  dueDate := row.dueDate
  totalAmount := row.totalAmount
  amountDue := row.amountDue
  status := row.status
  documentType := row.documentType.getD "INVOICE"

/-- `listOpenInvoicesForCustomer`. -/
def listOpenInvoicesForCustomer (table : List InvoiceRow) (customerId : CustomerId) :
    List OpenInvoiceRow :=
  ((table.filter (isOpenFor customerId)).map openRow).insertionSort fun a b => a.age ≤ b.age

/-! ## The producer -/

/-- `buildFifoAllocations`. -/
def buildFifoAllocations : List OpenInvoiceRow → ℚ → List AllocationLineInput
  | [], _ => []
  | inv :: rest, remaining =>
    if remaining ≤ tolerance then []
    else
      let alloc := min remaining inv.amountDue
      if 0 < alloc then ⟨inv.id, alloc⟩ :: buildFifoAllocations rest (remaining - alloc)
      else buildFifoAllocations rest remaining

/-! ## The validator -/

/-- What `validateAllocationLines` looks up. -/
structure AllocationParams where
  paymentUnallocated : ℚ
  lines : List AllocationLineInput
  invoiceOpenById : InvoiceId → Option ℚ
  customerId : CustomerId
  invoiceCustomerById : InvoiceId → Option CustomerId
  invoiceStatusById : InvoiceId → Option String

/-- The checks of one line, in the order of the source. -/
def validateLine (params : AllocationParams) (seen : List InvoiceId) (line : AllocationLineInput) :
    Except String Unit := do
  require (line.invoiceId ∉ seen) "Duplicate invoice in allocation batch"
  require (0 < line.amount) "Allocation amount must be positive"
  let invCustomer ←
    orThrow (params.invoiceCustomerById line.invoiceId) s!"Invoice {line.invoiceId} not found"
  require (invCustomer = params.customerId) "Cannot allocate across different customers"
  let st := (params.invoiceStatusById line.invoiceId).getD ""
  require (st ∉ closedStatuses) s!"Cannot allocate to invoice with status {st}"
  let balance := (params.invoiceOpenById line.invoiceId).getD 0
  require (line.amount ≤ balance + tolerance)
    s!"Allocation {fixedText 2 line.amount} exceeds invoice open balance {fixedText 2 balance}"

/-- The loop: the lines after those seen, with the total so far. -/
def validateLoop (params : AllocationParams) :
    List InvoiceId → ℚ → List AllocationLineInput → Except String ℚ
  | _, totalAlloc, [] => .ok totalAlloc
  | seen, totalAlloc, line :: rest => do
    validateLine params seen line
    validateLoop params (line.invoiceId :: seen) (totalAlloc + line.amount) rest

/-- `validateAllocationLines`. -/
def validateAllocationLines (params : AllocationParams) : Except String Unit := do
  require (params.lines ≠ []) "At least one allocation line is required"
  let totalAlloc ← validateLoop params [] 0 params.lines
  let unallocated := params.paymentUnallocated
  require (totalAlloc ≤ unallocated + tolerance)
    s!"Total allocation {fixedText 2 totalAlloc} exceeds unallocated payment {fixedText 2 unallocated}"

/-! ## What the lines come to -/

/-- The sum of the lines. -/
def totalOf (lines : List AllocationLineInput) : ℚ := (lines.map (·.amount)).sum

/-- What the lines give one invoice. -/
def allocatedTo (lines : List AllocationLineInput) (id : InvoiceId) : ℚ :=
  ((lines.filter fun line => line.invoiceId = id).map (·.amount)).sum

@[simp] theorem totalOf_nil : totalOf [] = 0 := rfl

@[simp] theorem totalOf_cons (line : AllocationLineInput) (rest : List AllocationLineInput) :
    totalOf (line :: rest) = line.amount + totalOf rest := by
  simp [totalOf]

@[simp] theorem allocatedTo_nil (id : InvoiceId) : allocatedTo [] id = 0 := rfl

theorem allocatedTo_cons (line : AllocationLineInput) (rest : List AllocationLineInput)
    (id : InvoiceId) : allocatedTo (line :: rest) id =
      (if line.invoiceId = id then line.amount else 0) + allocatedTo rest id := by
  unfold allocatedTo
  rw [List.filter_cons]
  by_cases h : line.invoiceId = id
  · simp [h]
  · simp [h]

@[simp] theorem allocatedTo_append (xs ys : List AllocationLineInput) (id : InvoiceId) :
    allocatedTo (xs ++ ys) id = allocatedTo xs id + allocatedTo ys id := by
  simp [allocatedTo]

variable {lines : List AllocationLineInput} {invoices : List OpenInvoiceRow} {unallocated : ℚ}

theorem allocatedTo_nonneg (h : ∀ line ∈ lines, 0 < line.amount) (id : InvoiceId) :
    0 ≤ allocatedTo lines id := by
  refine List.sum_nonneg fun amount hamount => ?_
  obtain ⟨line, hline, rfl⟩ := List.mem_map.mp hamount
  exact (h line (List.mem_of_mem_filter hline)).le

/-- An invoice without a line gets nothing. -/
theorem allocatedTo_eq_zero {id : InvoiceId} (h : id ∉ lines.map (·.invoiceId)) :
    allocatedTo lines id = 0 := by
  have hnone : lines.filter (fun line => line.invoiceId = id) = [] := by
    refine List.filter_eq_nil_iff.mpr fun line hline heq => ?_
    exact h (List.mem_map.mpr ⟨line, hline, of_decide_eq_true heq⟩)
  rw [allocatedTo, hnone, List.map_nil, List.sum_nil]

/-! ## What the producer does -/

/-- A line gives an invoice of the list a positive amount, at most what it is due. -/
theorem line_of_invoice {line : AllocationLineInput}
    (h : line ∈ buildFifoAllocations invoices unallocated) :
    0 < line.amount ∧ ∃ inv ∈ invoices, inv.id = line.invoiceId ∧ line.amount ≤ inv.amountDue := by
  induction invoices generalizing unallocated with
  | nil => exact nomatch h
  | cons inv rest ih =>
    rw [buildFifoAllocations] at h
    dsimp only at h
    split at h
    · exact nomatch h
    · split at h
      next hpos =>
        rcases List.mem_cons.mp h with rfl | hrest
        · exact ⟨hpos, inv, List.mem_cons_self, rfl, min_le_right _ _⟩
        · obtain ⟨hamount, owner, howner, hid⟩ := ih hrest
          exact ⟨hamount, owner, List.mem_cons_of_mem _ howner, hid⟩
      next =>
        obtain ⟨hamount, owner, howner, hid⟩ := ih h
        exact ⟨hamount, owner, List.mem_cons_of_mem _ howner, hid⟩

/-- The invoices are served in the order of the list, each at most once. -/
theorem invoiceIds_sublist (invoices : List OpenInvoiceRow) (unallocated : ℚ) :
    ((buildFifoAllocations invoices unallocated).map (·.invoiceId)).Sublist
      (invoices.map (·.id)) := by
  induction invoices generalizing unallocated with
  | nil => exact List.Sublist.slnil
  | cons inv rest ih =>
    rw [buildFifoAllocations, List.map_cons]
    dsimp only
    split
    · exact List.nil_sublist _
    · split
      · rw [List.map_cons]
        exact (ih _).cons_cons _
      · exact (ih _).cons _

/-- The sum never passes what there is to allocate. -/
theorem totalOf_build_le (invoices : List OpenInvoiceRow) (unallocated : ℚ) :
    totalOf (buildFifoAllocations invoices unallocated) ≤ max 0 unallocated := by
  induction invoices generalizing unallocated with
  | nil => exact le_max_left _ _
  | cons inv rest ih =>
    rw [buildFifoAllocations]
    dsimp only
    split
    next => exact le_max_left _ _
    next hmore =>
      have hpos : 0 < unallocated := lt_trans (by norm_num [tolerance]) (not_le.mp hmore)
      split
      next =>
        have hrest := ih (unallocated - min unallocated inv.amountDue)
        have hleft : 0 ≤ unallocated - min unallocated inv.amountDue :=
          sub_nonneg.mpr (min_le_left _ _)
        rw [max_eq_right hleft] at hrest
        rw [totalOf_cons, max_eq_right hpos.le]
        linarith
      next => exact ih unallocated

/-- Nothing is allocated out of less than the tolerance. -/
theorem build_of_le (h : unallocated ≤ tolerance) (invoices : List OpenInvoiceRow) :
    buildFifoAllocations invoices unallocated = [] := by
  cases invoices with
  | nil => rfl
  | cons inv rest => rw [buildFifoAllocations, if_pos h]

/-- The second part of a list is served from what the first leaves. -/
theorem build_append (front back : List OpenInvoiceRow) (unallocated : ℚ) :
    buildFifoAllocations (front ++ back) unallocated =
      buildFifoAllocations front unallocated ++ buildFifoAllocations back
        (unallocated - totalOf (buildFifoAllocations front unallocated)) := by
  induction front generalizing unallocated with
  | nil => rw [List.nil_append, buildFifoAllocations, totalOf_nil, sub_zero, List.nil_append]
  | cons inv rest ih =>
    rw [List.cons_append, buildFifoAllocations, buildFifoAllocations]
    dsimp only
    split
    next hstop => rw [totalOf_nil, sub_zero, build_of_le hstop, List.append_nil]
    next =>
      split
      · rw [ih, totalOf_cons, List.cons_append, sub_sub]
      · rw [ih]

/-- More than the tolerance is left only when every invoice has all it is due. -/
theorem covered_of_remainder
    (h : tolerance < unallocated - totalOf (buildFifoAllocations invoices unallocated)) :
    ∀ inv ∈ invoices,
      inv.amountDue ≤ allocatedTo (buildFifoAllocations invoices unallocated) inv.id := by
  induction invoices generalizing unallocated with
  | nil => exact fun inv hinv => nomatch hinv
  | cons inv rest ih =>
    have hlines : ∀ line ∈ buildFifoAllocations (inv :: rest) unallocated, 0 < line.amount :=
      fun line hline => (line_of_invoice hline).1
    rw [buildFifoAllocations] at h hlines ⊢
    dsimp only at h hlines ⊢
    split at h
    next hstop =>
      rw [totalOf_nil, sub_zero] at h
      exact absurd hstop (not_le.mpr h)
    next hmore =>
      rw [if_neg hmore] at hlines ⊢
      have htol : (0 : ℚ) < tolerance := by norm_num [tolerance]
      split at h
      next hpos =>
        rw [if_pos hpos] at hlines ⊢
        -- The invoice took all it is due: with the rest of the money nothing would be left.
        have hdue : inv.amountDue ≤ unallocated := by
          by_contra hshort
          rw [min_eq_left (le_of_not_ge hshort), sub_self, build_of_le htol.le] at h
          simp only [totalOf_cons, totalOf_nil, add_zero, sub_self] at h
          exact absurd h (not_lt.mpr htol.le)
        rw [min_eq_right hdue] at h hlines ⊢
        rw [totalOf_cons, ← sub_sub] at h
        have hrest := List.forall_mem_cons.mp hlines
        intro other hother
        rw [allocatedTo_cons]
        rcases List.mem_cons.mp hother with rfl | hother
        · have hmore := allocatedTo_nonneg hrest.2 other.id
          rw [if_pos rfl]
          linarith
        · have hcovered := ih h other hother
          have hhead : (0 : ℚ) ≤ if inv.id = other.id then inv.amountDue else 0 := by
            split
            · exact hrest.1.le
            · exact le_rfl
          linarith
      next hnone =>
        rw [if_neg hnone] at hlines ⊢
        have hdue : inv.amountDue ≤ 0 := by
          by_contra hdue
          exact hnone (lt_min (lt_trans htol (not_le.mp hmore)) (not_le.mp hdue))
        intro other hother
        rcases List.mem_cons.mp hother with rfl | hother
        · exact hdue.trans (allocatedTo_nonneg hlines _)
        · exact ih h other hother

/-- An invoice is given money only when the ones before it have all they are due. -/
theorem covered_before {front back : List OpenInvoiceRow} {inv : OpenInvoiceRow}
    (hids : ((front ++ inv :: back).map (·.id)).Nodup)
    (hpaid : 0 < allocatedTo (buildFifoAllocations (front ++ inv :: back) unallocated) inv.id)
    {older : OpenInvoiceRow} (holder : older ∈ front) : older.amountDue ≤
      allocatedTo (buildFifoAllocations (front ++ inv :: back) unallocated) older.id := by
  rw [build_append] at hpaid ⊢
  have hfront : inv.id ∉ (buildFifoAllocations front unallocated).map (·.invoiceId) := by
    intro hmem
    rw [List.map_append, List.map_cons] at hids
    exact (List.disjoint_of_nodup_append hids) ((invoiceIds_sublist _ _).subset hmem)
      List.mem_cons_self
  rw [allocatedTo_append, allocatedTo_eq_zero hfront, zero_add] at hpaid
  -- Something was left for this invoice, so the ones before it were served in full.
  have hleft : tolerance < unallocated - totalOf (buildFifoAllocations front unallocated) := by
    by_contra hstop
    rw [build_of_le (not_lt.mp hstop), allocatedTo_nil] at hpaid
    exact lt_irrefl _ hpaid
  have hcovered := covered_of_remainder hleft older holder
  have hback : 0 ≤ allocatedTo (buildFifoAllocations (inv :: back)
      (unallocated - totalOf (buildFifoAllocations front unallocated))) older.id :=
    allocatedTo_nonneg (fun line hline => (line_of_invoice hline).1) _
  rw [allocatedTo_append]
  linarith

/-- No line at all: too little to allocate, or nothing due. -/
theorem build_eq_nil_iff (invoices : List OpenInvoiceRow) (unallocated : ℚ) :
    buildFifoAllocations invoices unallocated = [] ↔
      unallocated ≤ tolerance ∨ ∀ inv ∈ invoices, inv.amountDue ≤ 0 := by
  constructor
  · intro hnil
    rw [or_iff_not_imp_left]
    intro hmore
    have hleft : tolerance < unallocated - totalOf (buildFifoAllocations invoices unallocated) := by
      rw [hnil, totalOf_nil, sub_zero]
      exact not_le.mp hmore
    intro inv hinv
    have hcovered := covered_of_remainder hleft inv hinv
    rwa [hnil, allocatedTo_nil] at hcovered
  · rintro (hstop | hdue)
    · exact build_of_le hstop _
    · refine List.eq_nil_iff_forall_not_mem.mpr fun line hline => ?_
      obtain ⟨hpos, inv, hinv, -, hle⟩ := line_of_invoice hline
      exact absurd (hpos.trans_le hle) (not_lt.mpr (hdue inv hinv))

/-! ## What the validator accepts -/

/-- The checks of a line, but for the one on repeated invoices. -/
structure LineAccepted (params : AllocationParams) (line : AllocationLineInput) : Prop where
  amount_pos : 0 < line.amount
  customer : params.invoiceCustomerById line.invoiceId = some params.customerId
  status : (params.invoiceStatusById line.invoiceId).getD "" ∉ closedStatuses
  within : line.amount ≤ (params.invoiceOpenById line.invoiceId).getD 0 + tolerance

theorem validateLine_ok {params : AllocationParams} {seen : List InvoiceId}
    {line : AllocationLineInput} {u : Unit} :
    validateLine params seen line = .ok u ↔ line.invoiceId ∉ seen ∧ LineAccepted params line := by
  simp only [validateLine, bind_eq_ok, require_eq_ok, orThrow_eq_ok]
  constructor
  · rintro ⟨-, hseen, -, hpos, customer, hcustomer, -, rfl, -, hstatus, hwithin⟩
    exact ⟨hseen, hpos, hcustomer, hstatus, hwithin⟩
  · rintro ⟨hseen, hline⟩
    exact ⟨(), hseen, (), hline.amount_pos, _, hline.customer, (), rfl, (), hline.status,
      hline.within⟩

theorem validateLoop_ok {params : AllocationParams} {seen : List InvoiceId} {totalAlloc r : ℚ} :
    validateLoop params seen totalAlloc lines = .ok r ↔
      (lines.map (·.invoiceId)).Nodup ∧ (∀ line ∈ lines, line.invoiceId ∉ seen) ∧
      (∀ line ∈ lines, LineAccepted params line) ∧ r = totalAlloc + totalOf lines := by
  induction lines generalizing seen totalAlloc with
  | nil =>
    rw [validateLoop, Except.ok.injEq, totalOf_nil, add_zero]
    constructor
    · rintro rfl
      exact ⟨List.nodup_nil, fun _ h => (nomatch h), fun _ h => (nomatch h), rfl⟩
    · rintro ⟨-, -, -, rfl⟩
      rfl
  | cons line rest ih =>
    rw [validateLoop, bind_eq_ok]
    simp only [validateLine_ok, ih, List.map_cons, List.nodup_cons, List.forall_mem_cons,
      totalOf_cons]
    constructor
    · rintro ⟨-, ⟨hseen, hline⟩, hnodup, hrest, haccepted, rfl⟩
      refine ⟨⟨?_, hnodup⟩, ⟨hseen, ?_⟩, ⟨hline, haccepted⟩, add_assoc _ _ _⟩
      · intro hmem
        obtain ⟨other, hother, hid⟩ := List.mem_map.mp hmem
        exact hrest other hother (List.mem_cons.mpr (.inl hid))
      · exact fun other hother h => hrest other hother (List.mem_cons_of_mem _ h)
    · rintro ⟨⟨hnew, hnodup⟩, ⟨hseen, hrest⟩, ⟨hline, haccepted⟩, rfl⟩
      refine ⟨(), ⟨hseen, hline⟩, hnodup, fun other hother h => ?_, haccepted, (add_assoc _ _ _).symm⟩
      rcases List.mem_cons.mp h with hid | h
      · exact hnew (List.mem_map.mpr ⟨other, hother, hid⟩)
      · exact hrest other hother h

theorem validateAllocationLines_ok {params : AllocationParams} :
    validateAllocationLines params = .ok () ↔ params.lines ≠ [] ∧
      (params.lines.map (·.invoiceId)).Nodup ∧ (∀ line ∈ params.lines, LineAccepted params line) ∧
      totalOf params.lines ≤ params.paymentUnallocated + tolerance := by
  simp only [validateAllocationLines, bind_eq_ok, require_eq_ok, validateLoop_ok, zero_add]
  constructor
  · rintro ⟨-, hne, -, ⟨hnodup, -, haccepted, rfl⟩, htotal⟩
    exact ⟨hne, hnodup, haccepted, htotal⟩
  · rintro ⟨hne, hnodup, haccepted, htotal⟩
    exact ⟨(), hne, _, ⟨hnodup, fun _ _ h => absurd h List.not_mem_nil, haccepted, rfl⟩, htotal⟩

/-! ## The producer's lines before the validator -/

/-- The look-ups on the invoices of a list, all of one customer, as `applyAllocations` makes them. -/
def paramsOf (customerId : CustomerId) (invoices : List OpenInvoiceRow) (unallocated : ℚ)
    (lines : List AllocationLineInput) : AllocationParams where
  paymentUnallocated := unallocated
  lines := lines
  invoiceOpenById := fun id => (invoices.find? fun inv => inv.id = id).map (·.amountDue)
  customerId := customerId
  invoiceCustomerById := fun id => (invoices.find? fun inv => inv.id = id).map fun _ => customerId
  invoiceStatusById := fun id => (invoices.find? fun inv => inv.id = id).map (·.status)

/-- The row found under the id of a listed invoice is that invoice. -/
theorem find_invoice (hids : (invoices.map (·.id)).Nodup) {inv : OpenInvoiceRow}
    (hinv : inv ∈ invoices) : (invoices.find? fun other => other.id = inv.id) = some inv := by
  induction invoices with
  | nil => exact nomatch hinv
  | cons head rest ih =>
    rw [List.map_cons, List.nodup_cons] at hids
    rcases List.mem_cons.mp hinv with rfl | hrest
    · exact List.find?_cons_of_pos (decide_eq_true rfl)
    · have hother : head.id ≠ inv.id := fun heq =>
        hids.1 (List.mem_map.mpr ⟨inv, hrest, heq.symm⟩)
      rw [List.find?_cons_of_neg (by simpa using hother)]
      exact ih hids.2 hrest

/-- A paid invoice is one with a line. -/
theorem paid_iff (hpos : ∀ line ∈ lines, 0 < line.amount) (id : InvoiceId) :
    0 < allocatedTo lines id ↔ id ∈ lines.map (·.invoiceId) := by
  constructor
  · intro hpaid
    by_contra hmem
    rw [allocatedTo_eq_zero hmem] at hpaid
    exact lt_irrefl _ hpaid
  · intro hmem
    obtain ⟨line, hline, rfl⟩ := List.mem_map.mp hmem
    have hin : line ∈ lines.filter fun other => other.invoiceId = line.invoiceId :=
      List.mem_filter.mpr ⟨hline, decide_eq_true rfl⟩
    refine lt_of_lt_of_le (hpos line hline) (List.single_le_sum ?_ _ (List.mem_map_of_mem hin))
    intro amount hamount
    obtain ⟨other, hother, rfl⟩ := List.mem_map.mp hamount
    exact (hpos other (List.mem_of_mem_filter hother)).le

/-- The producer's lines pass when there are any and no paid invoice is closed. -/
theorem build_accepted_iff (customerId : CustomerId) (unallocated : ℚ)
    (hids : (invoices.map (·.id)).Nodup) :
    validateAllocationLines (paramsOf customerId invoices unallocated
        (buildFifoAllocations invoices unallocated)) = .ok () ↔
      tolerance < unallocated ∧ (∃ inv ∈ invoices, 0 < inv.amountDue) ∧
      ∀ inv ∈ invoices, 0 < allocatedTo (buildFifoAllocations invoices unallocated) inv.id →
        inv.status ∉ closedStatuses := by
  have hpos : ∀ line ∈ buildFifoAllocations invoices unallocated, 0 < line.amount :=
    fun line hline => (line_of_invoice hline).1
  have hne : buildFifoAllocations invoices unallocated ≠ [] ↔
      tolerance < unallocated ∧ ∃ inv ∈ invoices, 0 < inv.amountDue := by
    rw [Ne, build_eq_nil_iff, not_or, not_le]
    push Not
    rfl
  rw [validateAllocationLines_ok]
  constructor
  · rintro ⟨hsome, -, haccepted, -⟩
    refine ⟨(hne.mp hsome).1, (hne.mp hsome).2, fun inv hinv hpaid => ?_⟩
    obtain ⟨line, hline, hid⟩ := List.mem_map.mp ((paid_iff hpos inv.id).mp hpaid)
    have hstatus := (haccepted line hline).status
    simp only [paramsOf, hid, find_invoice hids hinv] at hstatus
    exact hstatus
  · rintro ⟨hmore, hdue, hstatus⟩
    refine ⟨hne.mpr ⟨hmore, hdue⟩, (invoiceIds_sublist _ _).nodup hids, fun line hline => ?_, ?_⟩
    · obtain ⟨hamount, inv, hinv, hid, hle⟩ := line_of_invoice hline
      have hfound := find_invoice hids hinv
      rw [hid] at hfound
      have hpaid : 0 < allocatedTo (buildFifoAllocations invoices unallocated) inv.id :=
        (paid_iff hpos inv.id).mpr (List.mem_map.mpr ⟨line, hline, hid.symm⟩)
      refine ⟨hamount, ?_, ?_, ?_⟩
      · simp only [paramsOf, hfound, Option.map_some]
      · simp only [paramsOf, hfound, Option.map_some, Option.getD_some]
        exact hstatus inv hinv hpaid
      · simp only [paramsOf, hfound, Option.map_some, Option.getD_some]
        exact hle.trans (le_add_of_nonneg_right (by norm_num [tolerance]))
    · have htotal := totalOf_build_le invoices unallocated
      have htol : (0 : ℚ) < tolerance := by norm_num [tolerance]
      rw [max_eq_right (htol.trans hmore).le] at htotal
      exact htotal.trans (le_add_of_nonneg_right htol.le)

/-- What the producer guarantees of any list of a customer's invoices.  "Older" is the order
of the query, and it counts only where the list comes in that order. -/
theorem buildFifoAllocations_maximal (customerId : CustomerId) (invoices : List OpenInvoiceRow)
    (unallocated : ℚ) (hids : (invoices.map (·.id)).Nodup) :
    let lines := buildFifoAllocations invoices unallocated
    let given := fun inv : OpenInvoiceRow => allocatedTo lines inv.id
    (validateAllocationLines (paramsOf customerId invoices unallocated lines) = .ok () ↔
      tolerance < unallocated ∧ (∃ inv ∈ invoices, 0 < inv.amountDue) ∧
      ∀ inv ∈ invoices, 0 < given inv → inv.status ∉ closedStatuses) ∧
    totalOf lines ≤ max 0 unallocated ∧
    (∀ front inv back, invoices = front ++ inv :: back → 0 < given inv →
      ∀ earlier ∈ front, earlier.amountDue ≤ given earlier) ∧
    (invoices.Pairwise (fun a b => a.age ≤ b.age) → ∀ inv ∈ invoices, 0 < given inv →
      ∀ older ∈ invoices, older.age < inv.age → older.amountDue ≤ given older) ∧
    (tolerance < unallocated - totalOf lines → ∀ inv ∈ invoices, inv.amountDue ≤ given inv) := by
  dsimp only
  have hbefore : ∀ front inv back, invoices = front ++ inv :: back →
      0 < allocatedTo (buildFifoAllocations invoices unallocated) inv.id →
      ∀ earlier ∈ front,
        earlier.amountDue ≤ allocatedTo (buildFifoAllocations invoices unallocated) earlier.id := by
    rintro front inv back rfl hpaid earlier hearlier
    exact covered_before hids hpaid hearlier
  refine ⟨build_accepted_iff customerId unallocated hids, totalOf_build_le _ _, hbefore, ?_,
    covered_of_remainder⟩
  intro hsorted inv hinv hpaid older holder hage
  obtain ⟨front, back, hsplit⟩ := List.append_of_mem hinv
  refine hbefore front inv back hsplit hpaid older ?_
  -- In the order of the list, what is strictly older stands before.
  rw [hsplit] at hsorted holder
  rcases List.mem_append.mp holder with hfront | hback
  · exact hfront
  · exfalso
    rcases List.mem_cons.mp hback with rfl | hback
    · exact lt_irrefl _ hage
    · have hlater := (List.pairwise_cons.mp (List.pairwise_append.mp hsorted).2.1).1 older hback
      exact absurd hage (not_lt.mpr hlater)

/-- Two invoices, the older first, and a payment that covers one and a half. -/
theorem buildFifoAllocations_maximal_two :
    let january : OpenInvoiceRow := ⟨"a", 1, some 10, 100, 100, "UNPAID", "INVOICE"⟩
    let february : OpenInvoiceRow := ⟨"b", 32, some 50, 80, 80, "UNPAID", "INVOICE"⟩
    totalOf (buildFifoAllocations [january, february] 140) ≤ max 0 140 :=
  (buildFifoAllocations_maximal 1 _ _ (by decide)).2.1

/-- A draft is paid and then refused, a list out of order is paid out of order, and a payment
with nothing left gives no line, which is refused. -/
theorem buildFifoAllocations_as_they_come :
    let draft : OpenInvoiceRow := ⟨"a", 1, some 10, 100, 100, "DRAFT", "INVOICE"⟩
    let january : OpenInvoiceRow := ⟨"b", 1, some 10, 100, 100, "UNPAID", "INVOICE"⟩
    let february : OpenInvoiceRow := ⟨"c", 32, some 50, 80, 80, "UNPAID", "INVOICE"⟩
    validateAllocationLines (paramsOf 1 [draft] 60 (buildFifoAllocations [draft] 60)) =
      .error "Cannot allocate to invoice with status DRAFT" ∧
    (january.age < february.age ∧
      buildFifoAllocations [february, january] 60 = [⟨"c", 60⟩]) ∧
    validateAllocationLines (paramsOf 1 [january] 0 (buildFifoAllocations [january] 0)) =
      .error "At least one allocation line is required" := by
  decide +kernel

/-! ## The lines of an automatic allocation -/

/-- The rows of the query are open invoices, each under its own id, oldest first. -/
theorem listOpenInvoices_rows (table : List InvoiceRow) (customerId : CustomerId)
    (hids : (table.map (·.id)).Nodup) :
    ((listOpenInvoicesForCustomer table customerId).map (·.id)).Nodup ∧
    (listOpenInvoicesForCustomer table customerId).Pairwise (fun a b => a.age ≤ b.age) ∧
    ∀ inv ∈ listOpenInvoicesForCustomer table customerId,
      inv.status ∉ closedStatuses ∧ tolerance < inv.amountDue := by
  have hperm := List.perm_insertionSort (fun a b : OpenInvoiceRow => a.age ≤ b.age)
    ((table.filter (isOpenFor customerId)).map openRow)
  refine ⟨?_, ?_, fun inv hinv => ?_⟩
  · refine (hperm.map _).nodup_iff.mpr ?_
    rw [List.map_map]
    exact (List.filter_sublist.map _).nodup hids
  · exact List.pairwise_insertionSort _ _
  · obtain ⟨row, hrow, rfl⟩ := List.mem_map.mp (hperm.mem_iff.mp hinv)
    have hopen := (List.mem_filter.mp hrow).2
    simp only [isOpenFor, Bool.and_eq_true, decide_eq_true_eq] at hopen
    exact ⟨hopen.1.2, hopen.2⟩

/-- One open invoice of the customer, and one of another. -/
def openTable : List InvoiceRow :=
  [⟨"a", 1, 1, some 10, 100, 100, "UNPAID", none⟩, ⟨"b", 2, 1, some 5, 80, 80, "UNPAID", none⟩]

end SmartErpPos.Receivables
