/-
  Receivables/AgedReceivables.lean --- open invoices by customer and days overdue.

  Source: `src/services/agedBalanceService.ts` (`buildReport`, `applyUnallocatedCredits`,
  `getBucketLabel`, `agedReceivables`).

  The pass over the invoices keeps one summary for each customer, in the order of their
  first invoice.  A customer's unallocated receipts are then taken off its Current bucket,
  down to zero, and off its total in full.

  The rows are those of the two queries; amounts are exact rationals.
-/
import Mathlib.Algebra.Order.BigOperators.Group.List
import Mathlib.Algebra.Order.Field.Rat
import Mathlib.Data.List.Sort
import Mathlib.Tactic.Linarith
import Mathlib.Tactic.Ring
import SmartErpPos.Lib.JsText
import SmartErpPos.Lib.KeyedSum

set_option autoImplicit false

namespace SmartErpPos.Receivables

open SmartErpPos.Lib

/-! ## Buckets -/

inductive Bucket where
  | current
  | days1to30
  | days31to60
  | days61to90
  | over90
  deriving DecidableEq

/-- The bucket of an invoice; the same chain gives its label in `getBucketLabel`. -/
def bucketOf (daysOverdue : ℤ) : Bucket :=
  if daysOverdue ≤ 0 then .current
  else if daysOverdue ≤ 30 then .days1to30
  else if daysOverdue ≤ 60 then .days31to60
  else if daysOverdue ≤ 90 then .days61to90
  else .over90

def Bucket.label : Bucket → String
  | .current => "Current"
  | .days1to30 => "1-30 Days"
  | .days31to60 => "31-60 Days"
  | .days61to90 => "61-90 Days"
  | .over90 => "90+ Days"

structure AgingBucket where
  label : String
  minDays : ℤ
  maxDays : Option ℤ
  deriving DecidableEq

def DEFAULT_BUCKETS : List AgingBucket :=
  [⟨"Current", 0, some 0⟩, ⟨"1-30 Days", 1, some 30⟩, ⟨"31-60 Days", 31, some 60⟩,
    ⟨"61-90 Days", 61, some 90⟩, ⟨"90+ Days", 91, none⟩]

/-- One amount for each bucket. -/
structure BucketAmounts where
  current : ℚ
  days1to30 : ℚ
  days31to60 : ℚ
  days61to90 : ℚ
  over90 : ℚ
  deriving DecidableEq

namespace BucketAmounts

def zero : BucketAmounts := ⟨0, 0, 0, 0, 0⟩

def amount (a : BucketAmounts) : Bucket → ℚ
  | .current => a.current
  | .days1to30 => a.days1to30
  | .days31to60 => a.days31to60
  | .days61to90 => a.days61to90
  | .over90 => a.over90

def add (a : BucketAmounts) (x : ℚ) : Bucket → BucketAmounts
  | .current => { a with current := a.current + x }
  | .days1to30 => { a with days1to30 := a.days1to30 + x }
  | .days31to60 => { a with days31to60 := a.days31to60 + x }
  | .days61to90 => { a with days61to90 := a.days61to90 + x }
  | .over90 => { a with over90 := a.over90 + x }

def plus (a b : BucketAmounts) : BucketAmounts where
  current := a.current + b.current
  days1to30 := a.days1to30 + b.days1to30
  days31to60 := a.days31to60 + b.days31to60
  days61to90 := a.days61to90 + b.days61to90
  over90 := a.over90 + b.over90

def sum (a : BucketAmounts) : ℚ :=
  a.current + a.days1to30 + (a.days31to60 + a.days61to90) + a.over90

theorem amount_zero (b : Bucket) : zero.amount b = 0 := by
  cases b <;> rfl

theorem amount_add (a : BucketAmounts) (x : ℚ) (b c : Bucket) :
    (a.add x b).amount c = a.amount c + if b = c then x else 0 := by
  cases b <;> cases c <;> simp [add, amount]

theorem amount_plus (a a' : BucketAmounts) (b : Bucket) :
    (a.plus a').amount b = a.amount b + a'.amount b := by
  cases b <;> rfl

theorem sum_zero : zero.sum = 0 := by
  norm_num [zero, sum]

theorem sum_add (a : BucketAmounts) (x : ℚ) (b : Bucket) : (a.add x b).sum = a.sum + x := by
  cases b <;> simp only [add, sum] <;> ring

theorem sum_plus (a a' : BucketAmounts) : (a.plus a').sum = a.sum + a'.sum := by
  simp only [plus, sum]
  ring

end BucketAmounts

/-! ## The report -/

/-- A row of the query for open invoices. -/
structure AgedInvoiceRow where
  entityId : Option String
  entityName : Option String
  invoiceNumber : Option String
  invoiceDate : Option String
  dueDate : Option String
  originalAmount : ℚ
  outstandingAmount : ℚ
  daysOverdue : ℤ
  deriving DecidableEq

def AgedInvoiceRow.customer (row : AgedInvoiceRow) : String := orText row.entityId "unknown"

structure AgingLineItem where
  entityId : String
  entityName : String
  invoiceNumber : String
  invoiceDate : String
  dueDate : String
  daysOverdue : ℤ
  originalAmount : ℚ
  outstandingAmount : ℚ
  bucket : String
  deriving DecidableEq

structure AgingEntitySummary extends BucketAmounts where
  entityId : String
  entityName : String
  total : ℚ
  deriving DecidableEq

structure AgingReportSummary extends BucketAmounts where
  total : ℚ
  grandTotal : ℚ
  entityCount : ℕ
  deriving DecidableEq

structure AgingReport where
  reportType : String
  asOfDate : String
  generatedAt : String
  buckets : List AgingBucket
  summary : AgingReportSummary
  entities : List AgingEntitySummary
  details : List AgingLineItem
  deriving DecidableEq

/-- What the loop of `buildReport` carries. -/
structure AgingPass where
  details : List AgingLineItem
  entityMap : OrderedMap String AgingEntitySummary
  totals : BucketAmounts

def AgingPass.start : AgingPass := ⟨[], .empty, .zero⟩

/-- The loop's body. -/
def AgingPass.addRow (pass : AgingPass) (row : AgedInvoiceRow) : AgingPass :=
  let daysOverdue := max 0 row.daysOverdue
  let outstanding := row.outstandingAmount
  if outstanding ≤ 1 / 100 then pass
  else
    let bucket := bucketOf daysOverdue
    let entityId := row.customer
    let entityName := orText row.entityName "Unknown"
    let entity := (pass.entityMap.get? entityId).getD
      { toBucketAmounts := .zero
        entityId := entityId
        entityName := entityName
        total := 0 }
    { details := pass.details ++
        [{ entityId := entityId
           entityName := entityName
           invoiceNumber := orText row.invoiceNumber ""
           invoiceDate := orText row.invoiceDate ""
           dueDate := orText row.dueDate ""
           daysOverdue := daysOverdue
           originalAmount := row.originalAmount
           outstandingAmount := outstanding
           bucket := bucket.label }]
      entityMap := pass.entityMap.set entityId
        { entity with
          toBucketAmounts := entity.toBucketAmounts.add outstanding bucket
          total := entity.total + outstanding }
      totals := pass.totals.add outstanding bucket }

/-- Largest total first. -/
def sortEntities (entities : List AgingEntitySummary) : List AgingEntitySummary :=
  entities.insertionSort fun a b => b.total ≤ a.total

/-- `buildReport`. -/
def buildReport (reportType asOfDate generatedAt : String) (rows : List AgedInvoiceRow) :
    AgingReport :=
  let pass := rows.foldl AgingPass.addRow .start
  let grandTotal := pass.totals.sum
  { reportType := reportType
    asOfDate := asOfDate
    generatedAt := generatedAt
    buckets := DEFAULT_BUCKETS
    summary :=
      { toBucketAmounts := pass.totals
        total := grandTotal
        grandTotal := grandTotal
        entityCount := pass.entityMap.entries.length }
    entities := sortEntities pass.entityMap.values
    details := pass.details }

/-- The credit of a customer; without an entry it is nothing. -/
def creditOf (unallocByCustomer : OrderedMap String ℚ) (entityId : String) : ℚ :=
  (unallocByCustomer.get? entityId).getD 0

/-- One customer in the loop of `applyUnallocatedCredits`; `none` leaves it out. -/
def afterCredit (unallocByCustomer : OrderedMap String ℚ) (entity : AgingEntitySummary) :
    Option AgingEntitySummary :=
  let credit := creditOf unallocByCustomer entity.entityId
  if credit ≤ 9 / 1000 then some entity
  else
    let currentCut := min entity.current credit
    let newCurrent := entity.current - currentCut
    let newTotal := entity.total - credit
    if newTotal ≤ 9 / 1000 then none
    else some { entity with current := newCurrent, total := newTotal }

/-- `applyUnallocatedCredits`. -/
def applyUnallocatedCredits (report : AgingReport) (unallocByCustomer : OrderedMap String ℚ) :
    AgingReport :=
  let entities := report.entities.filterMap (afterCredit unallocByCustomer)
  let total := (entities.map (·.total)).sum
  { report with
    summary :=
      { toBucketAmounts := entities.foldl (fun acc e => acc.plus e.toBucketAmounts) .zero
        total := total
        grandTotal := total
        entityCount := entities.length }
    entities := sortEntities entities
    details := report.details.filter fun d => entities.any fun e => e.entityId = d.entityId }

/-- The credits by customer that the second query gives. -/
def unallocByCustomer (unallocRows : List (String × ℚ)) : OrderedMap String ℚ :=
  unallocRows.foldl (fun m row => m.set row.1 row.2) .empty

/-- `agedReceivables`, from the rows of its two queries. -/
def agedReceivables (asOfDate generatedAt : String) (invoiceRows : List AgedInvoiceRow)
    (unallocRows : List (String × ℚ)) : AgingReport :=
  applyUnallocatedCredits (buildReport "RECEIVABLE" asOfDate generatedAt invoiceRows)
    (unallocByCustomer unallocRows)

/-! ## What the invoices say of a customer -/

/-- The open invoices of a customer. -/
def openInvoices (rows : List AgedInvoiceRow) (id : String) : ℚ :=
  ((rows.filter fun row => row.customer = id).map (·.outstandingAmount)).sum

/-- Those of one bucket. -/
def openInBucket (rows : List AgedInvoiceRow) (id : String) (b : Bucket) : ℚ :=
  ((rows.filter fun row => row.customer = id ∧ bucketOf (max 0 row.daysOverdue) = b).map
    (·.outstandingAmount)).sum

/-- The summary of a customer agrees with the invoices seen. -/
structure SummaryOf (rows : List AgedInvoiceRow) (id : String) (e : AgingEntitySummary) : Prop where
  key : e.entityId = id
  amounts : ∀ b, e.amount b = openInBucket rows id b
  total : e.total = openInvoices rows id
  balanced : e.sum = e.total

/-- Every customer of the rows has its summary, and no one else has one. -/
def Summarizes (rows : List AgedInvoiceRow) (m : OrderedMap String AgingEntitySummary) : Prop :=
  ∀ id, (∀ e, m.get? id = some e → SummaryOf rows id e) ∧
    ((∃ row ∈ rows, row.customer = id) ↔ ∃ e, m.get? id = some e)

section Snoc

variable (rows : List AgedInvoiceRow) (row : AgedInvoiceRow) (id : String)

theorem openInvoices_snoc : openInvoices (rows ++ [row]) id =
    openInvoices rows id + if row.customer = id then row.outstandingAmount else 0 := by
  unfold openInvoices
  by_cases h : row.customer = id <;> simp [List.filter_append, h]

theorem openInBucket_snoc (b : Bucket) : openInBucket (rows ++ [row]) id b =
    openInBucket rows id b + if row.customer = id then
      (if bucketOf (max 0 row.daysOverdue) = b then row.outstandingAmount else 0) else 0 := by
  unfold openInBucket
  by_cases h : row.customer = id <;> by_cases hb : bucketOf (max 0 row.daysOverdue) = b <;>
    simp [List.filter_append, h, hb]

end Snoc

/-- Without invoices of a customer nothing is open. -/
theorem openInvoices_of_notMem {rows : List AgedInvoiceRow} {id : String}
    (h : ¬ ∃ row ∈ rows, row.customer = id) :
    openInvoices rows id = 0 ∧ ∀ b, openInBucket rows id b = 0 := by
  have hne : ∀ row ∈ rows, row.customer ≠ id := fun row hrow heq => h ⟨row, hrow, heq⟩
  constructor
  · unfold openInvoices
    rw [List.filter_eq_nil_iff.mpr fun row hrow => by simpa using hne row hrow]
    rfl
  · intro b
    unfold openInBucket
    rw [List.filter_eq_nil_iff.mpr fun row hrow => by simp [hne row hrow]]
    rfl

theorem openInBucket_nonneg {rows : List AgedInvoiceRow}
    (h : ∀ row ∈ rows, 1 / 100 < row.outstandingAmount) (id : String) (b : Bucket) :
    0 ≤ openInBucket rows id b := by
  unfold openInBucket
  refine List.sum_nonneg fun x hx => ?_
  obtain ⟨row, hrow, rfl⟩ := List.mem_map.mp hx
  have hamount := h row (List.mem_filter.mp hrow).1
  linarith

/-- One row more. -/
theorem summarizes_addRow {rows : List AgedInvoiceRow} {pass : AgingPass} {row : AgedInvoiceRow}
    (h : Summarizes rows pass.entityMap) (hamount : 1 / 100 < row.outstandingAmount) :
    Summarizes (rows ++ [row]) (pass.addRow row).entityMap := by
  intro id
  unfold AgingPass.addRow
  dsimp only
  rw [if_neg (not_le.mpr hamount)]
  dsimp only
  rw [OrderedMap.get?_set]
  by_cases hid : id = row.customer
  · subst hid
    rw [if_pos rfl]
    refine ⟨?_, ⟨fun _ => ⟨_, rfl⟩, fun _ => ⟨row, by simp, rfl⟩⟩⟩
    rintro e he
    obtain rfl := Option.some.inj he
    cases hget : pass.entityMap.get? row.customer with
    | some old =>
      obtain ⟨hkey, hamounts, htotal, hbalanced⟩ := (h row.customer).1 old hget
      refine ⟨hkey, fun b => ?_, ?_, ?_⟩
      · simp only [Option.getD_some, BucketAmounts.amount_add, hamounts, openInBucket_snoc, if_true]
      · simp only [Option.getD_some, htotal, openInvoices_snoc, if_true]
      · simp only [Option.getD_some, BucketAmounts.sum_add, hbalanced]
    | none =>
      have hnone : ¬ ∃ r ∈ rows, r.customer = row.customer := by
        rw [(h row.customer).2, hget]
        rintro ⟨e, he⟩
        cases he
      obtain ⟨htotal, hbuckets⟩ := openInvoices_of_notMem hnone
      refine ⟨rfl, fun b => ?_, ?_, ?_⟩
      · simp only [Option.getD_none, BucketAmounts.amount_add, BucketAmounts.amount_zero,
          openInBucket_snoc, hbuckets, if_true]
      · simp only [Option.getD_none, openInvoices_snoc, htotal, if_true]
      · simp only [Option.getD_none, BucketAmounts.sum_add, BucketAmounts.sum_zero]
  · rw [if_neg hid]
    obtain ⟨hsummary, hlisted⟩ := h id
    refine ⟨fun e he => ?_, ?_⟩
    · obtain ⟨hkey, hamounts, htotal, hbalanced⟩ := hsummary e he
      refine ⟨hkey, fun b => ?_, ?_, hbalanced⟩
      · rw [openInBucket_snoc, if_neg (Ne.symm hid), add_zero, hamounts]
      · rw [openInvoices_snoc, if_neg (Ne.symm hid), add_zero, htotal]
    · rw [← hlisted]
      constructor
      · rintro ⟨r, hr, hcustomer⟩
        obtain hold | hnew := List.mem_append.mp hr
        · exact ⟨r, hold, hcustomer⟩
        · obtain rfl := List.mem_singleton.mp hnew
          exact absurd hcustomer.symm hid
      · rintro ⟨r, hr, hcustomer⟩
        exact ⟨r, List.mem_append_left _ hr, hcustomer⟩

/-- The whole pass. -/
theorem summarizes_pass {rows : List AgedInvoiceRow}
    (h : ∀ row ∈ rows, 1 / 100 < row.outstandingAmount) :
    Summarizes rows (rows.foldl AgingPass.addRow .start).entityMap := by
  induction rows using List.reverseRecOn with
  | nil =>
    intro id
    refine ⟨fun e he => ?_, ⟨?_, ?_⟩⟩
    · cases he
    · rintro ⟨row, hrow, _⟩
      cases hrow
    · rintro ⟨e, he⟩
      cases he
  | append_singleton rows row ih =>
    rw [List.foldl_append]
    exact summarizes_addRow (ih fun r hr => h r (List.mem_append_left _ hr))
      (h row (List.mem_append_right _ List.mem_cons_self))

/-! ## The figures of the report -/

/-- What of a credit its customer's Current bucket does not absorb. -/
def beyondCurrent (rows : List AgedInvoiceRow) (credit : String → ℚ) (id : String) : ℚ :=
  max 0 (credit id - openInBucket rows id .current)

/-- The report adds up, but for the credit beyond Current. -/
structure AddsUp (rows : List AgedInvoiceRow) (credit : String → ℚ) (report : AgingReport) : Prop where
  nonneg : ∀ e ∈ report.entities, ∀ b, 0 ≤ e.amount b
  row_sums : ∀ e ∈ report.entities, e.sum = e.total + beyondCurrent rows credit e.entityId
  totals : ∀ e ∈ report.entities, e.total = openInvoices rows e.entityId - credit e.entityId
  left_out : ∀ row ∈ rows, (∀ e ∈ report.entities, e.entityId ≠ row.customer) →
    openInvoices rows row.customer - credit row.customer ≤ 9 / 1000
  column_sums : ∀ b, report.summary.amount b = (report.entities.map fun e => e.amount b).sum
  grand_total : report.summary.sum = report.summary.grandTotal +
    (report.entities.map fun e => beyondCurrent rows credit e.entityId).sum

theorem perm_sortEntities (entities : List AgingEntitySummary) :
    (sortEntities entities).Perm entities := List.perm_insertionSort _ entities

/-- The reduction over the entities adds each column. -/
theorem amount_foldl_plus (entities : List AgingEntitySummary) (start : BucketAmounts) (b : Bucket) :
    (entities.foldl (fun acc e => acc.plus e.toBucketAmounts) start).amount b =
      start.amount b + (entities.map fun e => e.amount b).sum := by
  induction entities generalizing start with
  | nil => simp
  | cons e rest ih =>
    rw [List.foldl_cons, ih, BucketAmounts.amount_plus, List.map_cons, List.sum_cons, add_assoc]

theorem sum_foldl_plus (entities : List AgingEntitySummary) (start : BucketAmounts) :
    (entities.foldl (fun acc e => acc.plus e.toBucketAmounts) start).sum =
      start.sum + (entities.map fun e => e.sum).sum := by
  induction entities generalizing start with
  | nil => simp
  | cons e rest ih =>
    rw [List.foldl_cons, ih, BucketAmounts.sum_plus, List.map_cons, List.sum_cons, add_assoc]

/-- What a customer's summary is after its credit. -/
theorem afterCredit_eq_some {unalloc : OrderedMap String ℚ} {rows : List AgedInvoiceRow}
    (hrows : ∀ row ∈ rows, 1 / 100 < row.outstandingAmount)
    (hcredit : ∀ id, creditOf unalloc id = 0 ∨ 9 / 1000 < creditOf unalloc id)
    {id : String} {e e' : AgingEntitySummary} (he : SummaryOf rows id e)
    (h : afterCredit unalloc e = some e') :
    e'.entityId = id ∧ (∀ b, 0 ≤ e'.amount b) ∧
      e'.sum = e'.total + beyondCurrent rows (creditOf unalloc) id ∧
      e'.total = openInvoices rows id - creditOf unalloc id := by
  obtain ⟨rfl, hamounts, htotal, hbalanced⟩ := he
  have hnonneg : ∀ b, 0 ≤ e.amount b := fun b => hamounts b ▸ openInBucket_nonneg hrows _ b
  have hcurrent : e.current = openInBucket rows e.entityId .current := hamounts .current
  have hcurrent0 : 0 ≤ e.current := hnonneg .current
  unfold afterCredit at h
  dsimp only at h
  unfold beyondCurrent
  rw [← hcurrent, ← htotal]
  split at h
  · rename_i hsmall
    obtain rfl := Option.some.inj h
    have hzero : creditOf unalloc e.entityId = 0 :=
      (hcredit e.entityId).resolve_right (not_lt.mpr hsmall)
    refine ⟨rfl, hnonneg, ?_, ?_⟩
    · rw [hzero, zero_sub, max_eq_left (neg_nonpos.mpr hcurrent0), add_zero, hbalanced]
    · rw [hzero, sub_zero]
  · split at h
    · cases h
    · obtain rfl := Option.some.inj h
      refine ⟨rfl, fun b => ?_, ?_, rfl⟩
      · cases b with
        | current => exact sub_nonneg.mpr (min_le_left _ _)
        | days1to30 => exact hnonneg .days1to30
        | days31to60 => exact hnonneg .days31to60
        | days61to90 => exact hnonneg .days61to90
        | over90 => exact hnonneg .over90
      · have hcut : min e.current (creditOf unalloc e.entityId) +
            max 0 (creditOf unalloc e.entityId - e.current) = creditOf unalloc e.entityId := by
          rcases le_total e.current (creditOf unalloc e.entityId) with hle | hle
          · rw [min_eq_left hle, max_eq_right (sub_nonneg.mpr hle)]
            ring
          · rw [min_eq_right hle, max_eq_left (sub_nonpos.mpr hle), add_zero]
        simp only [BucketAmounts.sum] at hbalanced ⊢
        linarith

/-- Who is left out owes next to nothing. -/
theorem afterCredit_eq_none {unalloc : OrderedMap String ℚ} {rows : List AgedInvoiceRow}
    {id : String} {e : AgingEntitySummary} (he : SummaryOf rows id e)
    (h : afterCredit unalloc e = none) :
    openInvoices rows id - creditOf unalloc id ≤ 9 / 1000 := by
  obtain ⟨rfl, hamounts, htotal, hbalanced⟩ := he
  unfold afterCredit at h
  dsimp only at h
  rw [← htotal]
  split at h
  · cases h
  · split at h
    · assumption
    · cases h

theorem creditOf_unallocByCustomer {unallocRows : List (String × ℚ)}
    (h : ∀ row ∈ unallocRows, 9 / 1000 < row.2) (id : String) :
    creditOf (unallocByCustomer unallocRows) id = 0 ∨
      9 / 1000 < creditOf (unallocByCustomer unallocRows) id := by
  unfold creditOf
  cases hget : (unallocByCustomer unallocRows).get? id with
  | none => exact .inl rfl
  | some credit =>
    obtain hempty | ⟨row, hrow, -, rfl⟩ := OrderedMap.get?_foldl_set_eq_some hget
    · cases hempty
    · exact .inr (h row hrow)

/-- The aged receivables add up, but for the credits beyond Current. -/
theorem agedReceivables_addsUp {invoiceRows : List AgedInvoiceRow}
    {unallocRows : List (String × ℚ)} (asOfDate generatedAt : String)
    (hrows : ∀ row ∈ invoiceRows, 1 / 100 < row.outstandingAmount)
    (hcredits : ∀ row ∈ unallocRows, 9 / 1000 < row.2) :
    AddsUp invoiceRows (creditOf (unallocByCustomer unallocRows))
      (agedReceivables asOfDate generatedAt invoiceRows unallocRows) := by
  have hpass := summarizes_pass hrows
  have hcredit := creditOf_unallocByCustomer hcredits
  -- a listed customer is one of the pass, after its credit
  have hlisted : ∀ e', e' ∈ (agedReceivables asOfDate generatedAt invoiceRows unallocRows).entities ↔
      ∃ id e, (invoiceRows.foldl AgingPass.addRow .start).entityMap.get? id = some e ∧
        afterCredit (unallocByCustomer unallocRows) e = some e' := by
    intro e'
    show e' ∈ sortEntities _ ↔ _
    rw [(perm_sortEntities _).mem_iff, List.mem_filterMap]
    have hmem : ∀ e, e ∈ (buildReport "RECEIVABLE" asOfDate generatedAt invoiceRows).entities ↔
        ∃ id, (invoiceRows.foldl AgingPass.addRow .start).entityMap.get? id = some e := by
      intro e
      show e ∈ sortEntities _ ↔ _
      rw [(perm_sortEntities _).mem_iff, OrderedMap.mem_values_iff]
    simp only [hmem]
    constructor
    · rintro ⟨e, ⟨id, hget⟩, hafter⟩
      exact ⟨id, e, hget, hafter⟩
    · rintro ⟨id, e, hget, hafter⟩
      exact ⟨e, ⟨id, hget⟩, hafter⟩
  have hentity : ∀ e' ∈ (agedReceivables asOfDate generatedAt invoiceRows unallocRows).entities,
      (∀ b, 0 ≤ e'.amount b) ∧
      e'.sum = e'.total +
        beyondCurrent invoiceRows (creditOf (unallocByCustomer unallocRows)) e'.entityId ∧
      e'.total = openInvoices invoiceRows e'.entityId -
        creditOf (unallocByCustomer unallocRows) e'.entityId := by
    intro e' he'
    obtain ⟨id, e, hget, hafter⟩ := (hlisted e').mp he'
    obtain ⟨rfl, hfigures⟩ := afterCredit_eq_some hrows hcredit ((hpass id).1 e hget) hafter
    exact hfigures
  refine ⟨fun e he => (hentity e he).1, fun e he => (hentity e he).2.1,
    fun e he => (hentity e he).2.2, ?_, ?_, ?_⟩
  · intro row hrow hout
    obtain ⟨e, hget⟩ := (hpass row.customer).2.mp ⟨row, hrow, rfl⟩
    have hsummary := (hpass row.customer).1 e hget
    cases hafter : afterCredit (unallocByCustomer unallocRows) e with
    | none => exact afterCredit_eq_none hsummary hafter
    | some e' =>
      have hkey := (afterCredit_eq_some hrows hcredit hsummary hafter).1
      exact absurd hkey (hout e' ((hlisted e').mpr ⟨row.customer, e, hget, hafter⟩))
  · intro b
    show (List.foldl _ BucketAmounts.zero _).amount b = ((sortEntities _).map _).sum
    rw [amount_foldl_plus, BucketAmounts.amount_zero, zero_add]
    exact ((perm_sortEntities _).map _).sum_eq.symm
  · have hrowSums : ((agedReceivables asOfDate generatedAt invoiceRows unallocRows).entities.map
        fun e => e.sum).sum =
        ((agedReceivables asOfDate generatedAt invoiceRows unallocRows).entities.map
          fun e => e.total + beyondCurrent invoiceRows
            (creditOf (unallocByCustomer unallocRows)) e.entityId).sum := by
      rw [List.map_congr_left fun e he => (hentity e he).2.1]
    have hgrand : (agedReceivables asOfDate generatedAt invoiceRows unallocRows).summary.grandTotal =
        ((agedReceivables asOfDate generatedAt invoiceRows unallocRows).entities.map (·.total)).sum :=
      ((perm_sortEntities _).map _).sum_eq.symm
    have hsum : (agedReceivables asOfDate generatedAt invoiceRows unallocRows).summary.sum =
        ((agedReceivables asOfDate generatedAt invoiceRows unallocRows).entities.map
          fun e => e.sum).sum := by
      show (List.foldl _ BucketAmounts.zero _).sum = ((sortEntities _).map _).sum
      rw [sum_foldl_plus, BucketAmounts.sum_zero, zero_add]
      exact ((perm_sortEntities _).map _).sum_eq.symm
    rw [hsum, hrowSums, hgrand, ← List.sum_map_add]

/-- An invoice over 100.00 that is 45 days overdue. -/
def overdueRow : AgedInvoiceRow where
  entityId := some "c1"
  entityName := some "Kato"
  invoiceNumber := some "INV-1"
  invoiceDate := some "2026-01-01"
  dueDate := some "2026-01-01"
  originalAmount := 100
  outstandingAmount := 100
  daysOverdue := 45

/-- The same customer has 40.00 on account. -/
theorem agedReceivables_overdue :
    ((∀ row ∈ [overdueRow], 1 / 100 < row.outstandingAmount) ∧
      (∀ row ∈ [("c1", (40 : ℚ))], 9 / 1000 < row.2)) ∧
    AddsUp [overdueRow] (creditOf (unallocByCustomer [("c1", 40)]))
      (agedReceivables "2026-02-15" "2026-02-15T08:00:00.000Z" [overdueRow] [("c1", 40)]) := by
  have hrows : ∀ row ∈ [overdueRow], 1 / 100 < row.outstandingAmount := by decide +kernel
  have hcredits : ∀ row ∈ [("c1", (40 : ℚ))], 9 / 1000 < row.2 := by decide +kernel
  exact ⟨⟨hrows, hcredits⟩, agedReceivables_addsUp _ _ hrows hcredits⟩

/-- Its buckets hold 100.00 and its total is 60.00, and so do the report's. -/
theorem credit_not_in_buckets :
    (∀ row ∈ [overdueRow], 1 / 100 < row.outstandingAmount) ∧
      (∀ row ∈ [("c1", (40 : ℚ))], 9 / 1000 < row.2) ∧
      ¬ (∀ e ∈ (agedReceivables "2026-02-15" "2026-02-15T08:00:00.000Z" [overdueRow]
        [("c1", 40)]).entities, e.sum = e.total) ∧
      (agedReceivables "2026-02-15" "2026-02-15T08:00:00.000Z" [overdueRow]
        [("c1", 40)]).summary.sum = 100 ∧
      (agedReceivables "2026-02-15" "2026-02-15T08:00:00.000Z" [overdueRow]
        [("c1", 40)]).summary.grandTotal = 60 := by
  decide +kernel

end SmartErpPos.Receivables
