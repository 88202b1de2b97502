/-
  Sales/RevenueBalance.lean --- when the revenue journal of a sale is sound.

  The journal debits what is billed and credits goods, services and tax.  Goods and
  services are rounded each for themselves, so their cents need not come to the amount
  before tax; what is missing is booked as tax, what is too much is refused by the ledger.
-/
import SmartErpPos.Sales.Checkout

set_option autoImplicit false

namespace SmartErpPos.Sales

open SmartErpPos.Lib SmartErpPos.Ledger

/-! ## A sound journal -/

/-- Cash, cards, banks, mobile money and receivables. -/
def receiptAccounts : List String :=
  [CASH, CREDIT_CARD_RECEIPTS, CHECKING_ACCOUNT, MOBILE_MONEY, ACCOUNTS_RECEIVABLE]

def debitsOn (accounts : List String) (lines : List JournalLine) : ℚ :=
  (lines.map fun line => if line.accountCode ∈ accounts then line.debitAmount else 0).sum

def creditsOn (accounts : List String) (lines : List JournalLine) : ℚ :=
  (lines.map fun line => if line.accountCode ∈ accounts then line.creditAmount else 0).sum

/-- The tax of the billed part of a sale, in cents. -/
def SaleData.taxShare (sale : SaleData) : ℚ :=
  roundTo 2 (sale.taxAmount * (sale.billedTotal / sale.totalAmount))

/-- The ledger takes the journal, what came in or is owed is what was billed, and the tax is the
tax of the billed part. -/
structure RevenueJournalSound (sale : SaleData) (lines : List JournalLine) : Prop where
  accepted : hasRevenueJournalLines lines = true →
    (validateDoubleEntry lines).isValid = true ∧ ∀ line ∈ lines, validateLineAmounts line = true
  received : debitsOn receiptAccounts lines = sale.billedTotal
  tax : creditsOn [TAX_PAYABLE] lines = sale.taxShare

/-! ## When it is -/

/-- Nothing is given away: where the lines come to more than a cent above the amount before
tax, goods and services are left something and their shares of it are no half cents;
otherwise lines and tax come to the total. -/
def SaleData.PlainCloses (sale : SaleData) : Prop :=
  let gross := sale.grossRevenue
  let lines := gross.inventory + gross.service
  let pretax := sale.totalAmount - sale.taxAmount
  if 1 / 100 < lines - pretax ∧ 0 < lines then
    0 ≤ roundTo 2 (gross.inventory * pretax / lines) ∧
      0 ≤ roundTo 2 (gross.service * pretax / lines) ∧
      ¬ Numeric.IsTie 2 (gross.inventory * pretax / lines)
  else
    (5 / 1000 < sale.totalAmount - lines → sale.totalAmount - lines = sale.taxAmount) ∧
      (9 / 1000 < sale.totalAmount ∨ 9 / 1000 < gross.inventory ∨ 9 / 1000 < gross.service ∨
          9 / 1000 < sale.taxAmount →
        |sale.totalAmount - (max 0 gross.inventory + max 0 gross.service) - sale.taxAmount| <
          1 / 1000)

instance (sale : SaleData) : Decidable sale.PlainCloses := by
  unfold SaleData.PlainCloses
  infer_instance

/-- The tenders are told apart: every one has an account, none is negative, and together they
are not nothing. -/
def SaleData.SplitsTender (sale : SaleData) : Prop :=
  (∀ l ∈ tenderLines sale.paymentLines,
    (liquidityAccountForMethod l.paymentMethod).isSome = true ∧ 0 ≤ l.amount) ∧
  tenderedCents (tenderLines sale.paymentLines) ≠ 0

instance (sale : SaleData) : Decidable sale.SplitsTender :=
  inferInstanceAs (Decidable (_ ∧ _))

/-- Part of the sale is given away: no deposit pays for the rest, the rest is in cents where
tenders are told apart, and its goods, services and tax, each rounded, come to it. -/
structure SaleData.GivenCloses (sale : SaleData) : Prop where
  deposit : sale.paymentMethod ≠ .DEPOSIT
  nothing : sale.billedTotal ≤ 9 / 1000 → sale.billedTotal = 0
  cents : 9 / 1000 < sale.billedTotal → sale.SplitsTender → OnGrid 2 sale.billedTotal
  taxed : if 5 / 1000 < sale.billedTotal - (sale.billedRevenue.inventory + sale.billedRevenue.service)
    then sale.billedTotal - (sale.billedRevenue.inventory + sale.billedRevenue.service) =
      sale.taxShare
    else max 0 sale.scaledTax = sale.taxShare
  shares : 9 / 1000 < sale.billedTotal ∨ 9 / 1000 < sale.billedRevenue.inventory ∨
      9 / 1000 < sale.billedRevenue.service ∨ 9 / 1000 < sale.taxShare →
    |sale.billedTotal - (max 0 sale.billedRevenue.inventory + max 0 sale.billedRevenue.service) -
      sale.taxShare| < 1 / 1000

/-- When the journal of a sale is sound. -/
def SaleData.RevenueCloses (sale : SaleData) : Prop :=
  if sale.skipRevenueJournal then sale.giftCovered = sale.totalAmount
  else if sale.giftCovered = 0 then sale.PlainCloses
  else sale.GivenCloses

/-! ## Cents -/

/-- An amount in cents is what its cents come to. -/
theorem toCents_div_iff (v : ℚ) : (toCents v : ℚ) / 100 = v ↔ OnGrid 2 v := by
  constructor
  · intro h
    refine ⟨⟨toCents v⟩, ?_⟩
    rw [Numeric.toRat]
    refine Eq.trans ?_ h
    norm_num
  · rintro ⟨x, rfl⟩
    have hcents : toCents x.toRat = x.units := by
      unfold toCents
      have hmul : x.toRat * 100 = x.units := by
        have h := x.toRat_mul_pow
        norm_num at h
        exact h
      rw [hmul, Int.floor_eq_iff]
      constructor <;> linarith
    rw [hcents, Numeric.toRat]
    norm_num

/-- An amount above zero has a cent. -/
theorem cent_le {q : ℚ} (h : OnGrid 2 q) (hpos : 0 < q) : 1 / 100 ≤ q := by
  obtain ⟨x, rfl⟩ := h
  have hunits : 0 < x.units := by
    by_contra hle
    have hnonpos : x.toRat ≤ 0 := by
      rw [Numeric.toRat]
      have hcast : (x.units : ℚ) ≤ 0 := by exact_mod_cast not_lt.mp hle
      exact div_nonpos_of_nonpos_of_nonneg hcast (by positivity)
    linarith
  have hone : (1 : ℚ) ≤ x.units := by exact_mod_cast hunits
  rw [Numeric.toRat]
  norm_num
  linarith

/-! ## The lines -/

/-- Debits of receipt accounts that come to an amount. -/
structure Receipts (debits : List JournalLine) (amount : ℚ) : Prop where
  credit : ∀ l ∈ debits, l.creditAmount = 0
  account : ∀ l ∈ debits, l.accountCode ∈ receiptAccounts
  positive : 0 < amount → ∀ l ∈ debits, 0 < l.debitAmount
  total : (debits.map (·.debitAmount)).sum = amount
  posts : hasRevenueJournalLines debits = true ↔ 9 / 1000 < amount

/-- Credits of one account that come to an amount, where it is not below zero. -/
structure Credited (credits : List JournalLine) (accountCode : String) (amount : ℚ) : Prop where
  debit : ∀ l ∈ credits, l.debitAmount = 0
  account : ∀ l ∈ credits, l.accountCode = accountCode
  positive : ∀ l ∈ credits, 0 < l.creditAmount
  total : (credits.map (·.creditAmount)).sum = max 0 amount
  posts : hasRevenueJournalLines credits = true ↔ 9 / 1000 < amount

theorem credited_line (accountCode description : String) (amount : ℚ) :
    Credited (if 0 < amount then [creditLine accountCode description amount] else [])
      accountCode amount := by
  split
  · rename_i hpos
    constructor
    · intro l hl
      rw [List.mem_singleton.mp hl]
      rfl
    · intro l hl
      rw [List.mem_singleton.mp hl]
      rfl
    · intro l hl
      rw [List.mem_singleton.mp hl]
      exact hpos
    · rw [max_eq_right hpos.le]
      exact add_zero amount
    · simp [hasRevenueJournalLines, creditLine]
      intro h
      norm_num at h
  · rename_i hpos
    have hle := not_lt.mp hpos
    constructor
    · intro l hl
      cases hl
    · intro l hl
      cases hl
    · intro l hl
      cases hl
    · rw [max_eq_left hle]
      rfl
    · simp only [hasRevenueJournalLines, List.any_nil, Bool.false_eq_true, false_iff, not_lt]
      linarith

theorem hasRevenueJournalLines_append (left right : List JournalLine) :
    hasRevenueJournalLines (left ++ right) =
      (hasRevenueJournalLines left || hasRevenueJournalLines right) := by
  unfold hasRevenueJournalLines
  rw [List.any_append]

/-- What a group of accounts holds, where the lines are all of them or none of them. -/
theorem sum_ite_of_forall {accounts : List String} {lines : List JournalLine}
    {f : JournalLine → ℚ} (h : ∀ l ∈ lines, l.accountCode ∈ accounts) :
    (lines.map fun l => if l.accountCode ∈ accounts then f l else 0).sum = (lines.map f).sum :=
  congrArg List.sum (List.map_congr_left fun l hl => if_pos (h l hl))

theorem sum_ite_of_forall_not {accounts : List String} {lines : List JournalLine}
    {f : JournalLine → ℚ} (h : ∀ l ∈ lines, l.accountCode ∉ accounts ∨ f l = 0) :
    (lines.map fun l => if l.accountCode ∈ accounts then f l else 0).sum = 0 := by
  refine List.sum_eq_zero fun x hx => ?_
  obtain ⟨l, hl, rfl⟩ := List.mem_map.mp hx
  split
  · rename_i hmem
    exact (h l hl).resolve_left (not_not.mpr hmem)
  · rfl

section Journal

variable {debits goods services tax : List JournalLine} {received inventory service taxed : ℚ}

/-- The journal of these parts balances. -/
def PartsBalance (received inventory service taxed : ℚ) : Prop :=
  9 / 1000 < received ∨ 9 / 1000 < inventory ∨ 9 / 1000 < service ∨ 9 / 1000 < taxed →
    |received - (max 0 inventory + max 0 service + max 0 taxed)| < 1 / 1000

/-- A journal of four parts is sound exactly when the parts are. -/
theorem sound_iff_parts (sale : SaleData) (hdebits : Receipts debits received)
    (hgoods : Credited goods SALES_REVENUE inventory)
    (hservices : Credited services SERVICE_REVENUE service)
    (htax : Credited tax TAX_PAYABLE taxed) :
    RevenueJournalSound sale (debits ++ (goods ++ services) ++ tax) ↔
      received = sale.billedTotal ∧ max 0 taxed = sale.taxShare ∧
        PartsBalance received inventory service taxed := by
  have hzero : ∀ {lines : List JournalLine} {f : JournalLine → ℚ}, (∀ l ∈ lines, f l = 0) →
      (lines.map f).sum = 0 := by
    intro lines f h
    refine List.sum_eq_zero fun x hx => ?_
    obtain ⟨l, hl, rfl⟩ := List.mem_map.mp hx
    exact h l hl
  have hreceived : debitsOn receiptAccounts (debits ++ (goods ++ services) ++ tax) = received := by
    simp only [debitsOn, List.map_append, List.sum_append]
    rw [sum_ite_of_forall hdebits.account, hdebits.total,
      sum_ite_of_forall_not fun l hl => .inr (hgoods.debit l hl),
      sum_ite_of_forall_not fun l hl => .inr (hservices.debit l hl),
      sum_ite_of_forall_not fun l hl => .inr (htax.debit l hl)]
    ring
  have htaxed : creditsOn [TAX_PAYABLE] (debits ++ (goods ++ services) ++ tax) = max 0 taxed := by
    simp only [creditsOn, List.map_append, List.sum_append]
    rw [sum_ite_of_forall_not fun l hl => .inr (hdebits.credit l hl),
      sum_ite_of_forall_not fun l hl => .inl (by rw [hgoods.account l hl]; decide),
      sum_ite_of_forall_not fun l hl => .inl (by rw [hservices.account l hl]; decide),
      sum_ite_of_forall fun l hl => by rw [htax.account l hl]; decide, htax.total]
    ring
  have hdebitTotal : ((debits ++ (goods ++ services) ++ tax).map (·.debitAmount)).sum =
      received := by
    simp only [List.map_append, List.sum_append]
    rw [hdebits.total, hzero hgoods.debit, hzero hservices.debit, hzero htax.debit]
    ring
  have hcreditTotal : ((debits ++ (goods ++ services) ++ tax).map (·.creditAmount)).sum =
      max 0 inventory + max 0 service + max 0 taxed := by
    simp only [List.map_append, List.sum_append]
    rw [hzero hdebits.credit, hgoods.total, hservices.total, htax.total]
    ring
  have hvalid : (validateDoubleEntry (debits ++ (goods ++ services) ++ tax)).isValid = true ↔
      |received - (max 0 inventory + max 0 service + max 0 taxed)| < 1 / 1000 := by
    unfold validateDoubleEntry
    dsimp only
    rw [hdebitTotal, hcreditTotal, decide_eq_true_iff]
    rfl
  have hposts : hasRevenueJournalLines (debits ++ (goods ++ services) ++ tax) = true ↔
      9 / 1000 < received ∨ 9 / 1000 < inventory ∨ 9 / 1000 < service ∨ 9 / 1000 < taxed := by
    simp only [hasRevenueJournalLines_append, Bool.or_eq_true, hdebits.posts, hgoods.posts,
      hservices.posts, htax.posts]
    tauto
  have hcredit : ∀ {lines : List JournalLine} {code : String} {amount : ℚ},
      Credited lines code amount → ∀ l ∈ lines, validateLineAmounts l = true := by
    intro lines code amount h l hl
    simp [validateLineAmounts, JournalLine.isDebit, JournalLine.isCredit, h.debit l hl,
      h.positive l hl]
  constructor
  · intro h
    refine ⟨hreceived ▸ h.received, htaxed ▸ h.tax, fun hany => ?_⟩
    exact hvalid.mp (h.accepted (hposts.mpr hany)).1
  · rintro ⟨hbilled, hshare, hbalance⟩
    refine ⟨fun hany => ?_, hreceived.trans hbilled, htaxed.trans hshare⟩
    have hclose := hbalance (hposts.mp hany)
    refine ⟨hvalid.mpr hclose, fun line hline => ?_⟩
    -- a journal that is posted and balances has something to debit
    have hpos : 0 < received := by
      by_contra hnone
      have hlow := (abs_lt.mp hclose).1
      have hi := le_max_left 0 inventory
      have hs := le_max_left 0 service
      have ht := le_max_left 0 taxed
      rcases hposts.mp hany with hbig | hbig | hbig | hbig
      · linarith
      · have := le_max_right 0 inventory
        linarith
      · have := le_max_right 0 service
        linarith
      · have := le_max_right 0 taxed
        linarith
    rcases List.mem_append.mp hline with hline | hline
    · rcases List.mem_append.mp hline with hline | hline
      · simp [validateLineAmounts, JournalLine.isDebit, JournalLine.isCredit,
          hdebits.credit line hline, hdebits.positive hpos line hline]
      · rcases List.mem_append.mp hline with hline | hline
        · exact hcredit hgoods line hline
        · exact hcredit hservices line hline
    · exact hcredit htax line hline

end Journal

/-! ## What comes in -/

/-- Lines of more than a posted amount each. -/
theorem receipts_of_posted {debits : List JournalLine} {amount : ℚ}
    (h : ∀ l ∈ debits, l.creditAmount = 0 ∧ l.accountCode ∈ receiptAccounts ∧
      9 / 1000 < l.debitAmount) (hne : debits ≠ [])
    (htotal : (debits.map (·.debitAmount)).sum = amount) : Receipts debits amount := by
  obtain ⟨first, rest, rfl⟩ := List.exists_cons_of_ne_nil hne
  have hfirst := (h first List.mem_cons_self).2.2
  have hle : first.debitAmount ≤ amount := by
    rw [← htotal]
    refine List.single_le_sum (fun x hx => ?_) _ (List.mem_map_of_mem List.mem_cons_self)
    obtain ⟨l, hl, rfl⟩ := List.mem_map.mp hx
    have := (h l hl).2.2
    linarith
  refine ⟨fun l hl => (h l hl).1, fun l hl => (h l hl).2.1, fun _ l hl => ?_, htotal, ?_⟩
  · have := (h l hl).2.2
    linarith
  · refine iff_of_true ?_ (by linarith)
    simp [hasRevenueJournalLines, hfirst]

theorem toCents_pos {v : ℚ} (h : 9 / 1000 < v) : 0 < toCents v := by
  have hone : 1 ≤ toCents v := Int.le_floor.mpr (by push_cast; linarith)
  omega

theorem liquidityAccount_mem {method : PaymentMethod} {code : String}
    (h : liquidityAccountForMethod method = some code) : code ∈ receiptAccounts := by
  cases method <;> cases h <;> decide

/-- Where tenders are told apart, and how. -/
theorem allocateTenderToLiquidity_cases {amount : ℚ} {lines : List PaymentLine}
    (hpos : 0 < toCents amount) :
    allocateTenderToLiquidity amount lines = none ∧ (tenderLines lines = [] ∨ ¬ ∀ l ∈ tenderLines lines,
        (liquidityAccountForMethod l.paymentMethod).isSome = true ∧ 0 ≤ l.amount) ∨
      allocateTenderToLiquidity amount lines =
        some (allocateCents (toCents amount) (tenderLines lines)) ∧
      ∀ l ∈ tenderLines lines,
        (liquidityAccountForMethod l.paymentMethod).isSome = true ∧ 0 ≤ l.amount := by
  unfold allocateTenderToLiquidity
  dsimp only
  by_cases hnil : tenderLines lines = []
  · left
    simp [hnil]
  · rw [if_neg (by simpa using hnil)]
    by_cases haccount : ∀ l ∈ tenderLines lines,
        (liquidityAccountForMethod l.paymentMethod).isSome = true
    · rw [if_neg (by
        simp only [List.any_eq_true, Option.isNone_iff_eq_none, not_exists, not_and]
        intro l hl hnone
        have := haccount l hl
        rw [hnone] at this
        cases this)]
      by_cases hamount : ∀ l ∈ tenderLines lines, 0 ≤ l.amount
      · rw [if_neg (by
          simp only [List.any_eq_true, decide_eq_true_eq, not_exists, not_and, not_lt]
          exact hamount), if_neg (not_le.mpr hpos)]
        exact .inr ⟨rfl, fun l hl => ⟨haccount l hl, hamount l hl⟩⟩
      · rw [if_pos (by
          push Not at hamount
          obtain ⟨l, hl, hlt⟩ := hamount
          exact List.any_eq_true.mpr ⟨l, hl, decide_eq_true hlt⟩)]
        exact .inl ⟨rfl, .inr fun hall => hamount fun l hl => (hall l hl).2⟩
    · rw [if_pos (by
        push Not at haccount
        obtain ⟨l, hl, hnone⟩ := haccount
        refine List.any_eq_true.mpr ⟨l, hl, ?_⟩
        rw [Option.isNone_iff_eq_none]
        exact Option.not_isSome_iff_eq_none.mp hnone)]
      exact .inl ⟨rfl, .inr fun hall => haccount fun l hl => (hall l hl).1⟩

/-- The debits of an allocation come to its target. -/
theorem receipts_allocation {tender : List PaymentLine} (hlines : ∀ l ∈ tender,
      (liquidityAccountForMethod l.paymentMethod).isSome = true ∧ 0 ≤ l.amount) {target : ℤ}
    (htarget : 0 < target) (itemText : TenderAllocationItem → String)
    {restAccount : String} (haccount : restAccount ∈ receiptAccounts) (restText : String) :
    Receipts ((allocateCents target tender).debits itemText restAccount restText)
      ((target : ℚ) / 100) := by
  have hsound : SoundTender tender :=
    ⟨fun l hl => (hlines l hl).1, fun l hl => toCents_nonneg (hlines l hl).2⟩
  obtain ⟨hitems, hrest, hsum⟩ := allocateCents_spec hsound htarget.le
  have hcent : ∀ {n : ℤ}, 0 < n → 9 / 1000 < (n : ℚ) / 100 := by
    intro n hn
    have hone : (1 : ℚ) ≤ n := by exact_mod_cast hn
    linarith
  have htotal : (((allocateCents target tender).debits itemText restAccount restText).map
      (·.debitAmount)).sum = (target : ℚ) / 100 := by
    unfold TenderAllocation.debits
    rw [List.map_append, List.sum_append, List.map_map]
    have hshares : ((allocateCents target tender).items.map
        ((·.debitAmount) ∘ fun item => debitLine item.accountCode (itemText item)
          ((item.amountCents : ℚ) / 100))).sum =
        (itemCents (allocateCents target tender).items : ℚ) / 100 := by
      induction (allocateCents target tender).items with
      | nil => simp [itemCents]
      | cons item rest ih =>
        rw [List.map_cons, List.sum_cons, ih, itemCents, itemCents, List.map_cons, List.sum_cons]
        push_cast
        rw [Function.comp_apply, debitLine]
        ring
    rw [hshares]
    have hcast : (itemCents (allocateCents target tender).items : ℚ) +
        ((allocateCents target tender).shortfallCents : ℚ) = target := by exact_mod_cast hsum
    split
    · simp only [debitLine, List.map_cons, List.map_nil, List.sum_cons, List.sum_nil]
      linarith
    · rename_i hnone
      have hzero := le_antisymm (not_lt.mp hnone) hrest
      rw [hzero, Int.cast_zero] at hcast
      simp only [List.map_nil, List.sum_nil]
      linarith
  refine receipts_of_posted (fun l hl => ?_) (fun hnil => ?_) htotal
  · unfold TenderAllocation.debits at hl
    rcases List.mem_append.mp hl with hl | hl
    · obtain ⟨item, hitem, rfl⟩ := List.mem_map.mp hl
      obtain ⟨hpos, method, hmethod⟩ := hitems item hitem
      exact ⟨rfl, liquidityAccount_mem hmethod, hcent hpos⟩
    · split at hl
      · rename_i hshort
        rw [List.mem_singleton.mp hl]
        exact ⟨rfl, haccount, hcent hshort⟩
      · cases hl
  · rw [hnil] at htotal
    have := hcent htarget
    simp at htotal
    linarith

/-- What the checkout vouches for. -/
structure PostedSale (sale : SaleData) : Prop where
  total : OnGrid 2 sale.totalAmount ∧ 0 ≤ sale.totalAmount
  tax : OnGrid 2 sale.taxAmount ∧ 0 ≤ sale.taxAmount
  paid : OnGrid 2 sale.amountPaid ∧ 0 ≤ sale.amountPaid
  items : sale.saleItems ≠ []
  credit : sale.paymentMethod = .CREDIT →
    sale.amountPaid < sale.totalAmount ∧ sale.giftCovered = 0
  customer : sale.paymentMethod = .CREDIT ∨ sale.paymentMethod = .DEPOSIT →
    ∃ id, sale.customerId = some id ∧ jsTrim id ≠ ""

/-- What the debits of a sale come to. -/
def SaleData.receipts (sale : SaleData) : ℚ :=
  match sale.paymentMethod with
  | .DEPOSIT => sale.totalAmount
  | .CREDIT => sale.totalAmount
  | _ =>
    if 9 / 1000 < sale.billedTotal then
      if sale.SplitsTender then (toCents sale.billedTotal : ℚ) / 100 else sale.billedTotal
    else 0

section Debits

variable {sale : SaleData}

theorem paymentAccount_mem (method : PaymentMethod) :
    (paymentAccount method).1 ∈ receiptAccounts := by
  cases method <;> decide

theorem receivable_mem : ACCOUNTS_RECEIVABLE ∈ receiptAccounts := by decide

theorem receipts_whole {accountCode description : String} {amount : ℚ}
    (haccount : accountCode ∈ receiptAccounts) (hpos : 9 / 1000 < amount) :
    Receipts [debitLine accountCode description amount] amount := by
  refine receipts_of_posted (fun l hl => ?_) (List.cons_ne_nil _ _) (add_zero amount)
  rw [List.mem_singleton.mp hl]
  exact ⟨rfl, haccount, hpos⟩

/-- What was paid of a credit sale comes to the amount paid. -/
theorem receipts_partPayment (hgrid : OnGrid 2 sale.amountPaid) (hpos : 0 < sale.amountPaid) :
    Receipts sale.partPaymentLines sale.amountPaid := by
  have hcent := cent_le hgrid hpos
  have hcents : 0 < toCents sale.amountPaid := toCents_pos (by linarith)
  unfold SaleData.partPaymentLines
  rw [if_pos hpos]
  dsimp only
  rcases allocateTenderToLiquidity_cases hcents with ⟨hnone, -⟩ | ⟨hsome, hlines⟩
  · rw [hnone]
    exact receipts_whole (by decide) (by linarith)
  · rw [hsome]
    have hsame := (toCents_div_iff _).mpr hgrid
    convert receipts_allocation hlines hcents _ (by decide : CASH ∈ receiptAccounts) _ using 1
    exact hsame.symm

/-- What came in for a sale that is paid in full. -/
theorem receipts_inFull : Receipts sale.paymentLinesInFull
    (if 9 / 1000 < sale.billedTotal then
      if sale.SplitsTender then (toCents sale.billedTotal : ℚ) / 100 else sale.billedTotal
    else 0) := by
  have haccount := paymentAccount_mem sale.paymentMethod
  unfold SaleData.paymentLinesInFull
  dsimp only
  by_cases hbilled : 9 / 1000 < sale.billedTotal
  · have hcents := toCents_pos hbilled
    rw [if_pos hbilled, if_pos hbilled]
    rcases allocateTenderToLiquidity_cases hcents with ⟨hnone, hwhy⟩ | ⟨hsome, hlines⟩
    · rw [hnone, if_neg]
      · exact receipts_whole haccount hbilled
      · rintro ⟨hlines, htendered⟩
        rcases hwhy with hnil | hno
        · rw [hnil] at htendered
          exact htendered rfl
        · exact hno hlines
    · rw [hsome]
      dsimp only
      have hsound : SoundTender (tenderLines sale.paymentLines) :=
        ⟨fun l hl => (hlines l hl).1, fun l hl => toCents_nonneg (hlines l hl).2⟩
      have hitems := items_eq_nil_iff hsound hcents
      by_cases htendered : tenderedCents (tenderLines sale.paymentLines) = 0
      · rw [if_pos (by simpa using hitems.mpr htendered), if_neg fun h => h.2 htendered]
        exact receipts_whole haccount hbilled
      · rw [if_neg (by simpa using mt hitems.mp htendered), if_pos ⟨hlines, htendered⟩]
        exact receipts_allocation hlines hcents _ haccount _
  · rw [if_neg hbilled, if_neg hbilled]
    constructor
    · intro l hl
      cases hl
    · intro l hl
      cases hl
    · intro _ l hl
      cases hl
    · rfl
    · simp [hasRevenueJournalLines]
      norm_num

/-- The debits come to the receipts. -/
theorem debitLines_spec (h : PostedSale sale) :
    ∃ debits, sale.debitLines = .ok debits ∧ Receipts debits sale.receipts := by
  have hcustomer : sale.paymentMethod = .CREDIT ∨ sale.paymentMethod = .DEPOSIT →
      ∃ id, ∀ context, requireCustomerIdForAr sale.customerId context = .ok id := by
    intro hmethod
    obtain ⟨id, hid, htext⟩ := h.customer hmethod
    refine ⟨id, fun context => ?_⟩
    unfold requireCustomerIdForAr
    rw [hid]
    exact if_neg htext
  unfold SaleData.debitLines SaleData.receipts
  cases hmethod : sale.paymentMethod with
  | DEPOSIT =>
    obtain ⟨id, hid⟩ := hcustomer (.inr hmethod)
    dsimp only
    rw [hid]
    refine ⟨_, rfl, ?_⟩
    constructor
    · intro l hl
      rw [List.mem_singleton.mp hl]
      rfl
    · intro l hl
      rw [List.mem_singleton.mp hl]
      exact receivable_mem
    · intro hpos l hl
      rw [List.mem_singleton.mp hl]
      exact hpos
    · exact add_zero _
    · simp [hasRevenueJournalLines, customerArLine]
      intro hneg
      norm_num at hneg
  | CREDIT =>
    obtain ⟨id, hid⟩ := hcustomer (.inl hmethod)
    obtain ⟨hlt, -⟩ := h.credit hmethod
    have hunpaid := sub_pos.mpr hlt
    have hcent := cent_le (h.total.1.sub h.paid.1) hunpaid
    have howed : Receipts [customerArLine id ("Credit sale to " ++
        sale.customerName.getD "customer" ++ " - " ++ sale.saleNumber)
        (sale.totalAmount - sale.amountPaid)] (sale.totalAmount - sale.amountPaid) := by
      refine receipts_of_posted (fun l hl => ?_) (List.cons_ne_nil _ _) (add_zero _)
      rw [List.mem_singleton.mp hl]
      exact ⟨rfl, receivable_mem, by dsimp only [customerArLine]; linarith⟩
    dsimp only
    rw [if_pos hunpaid, hid]
    refine ⟨_, rfl, ?_⟩
    by_cases hpaid : 0 < sale.amountPaid
    · have hpart := receipts_partPayment h.paid.1 hpaid
      constructor
      · intro l hl
        rcases List.mem_append.mp hl with hl | hl
        · exact hpart.credit l hl
        · exact howed.credit l hl
      · intro l hl
        rcases List.mem_append.mp hl with hl | hl
        · exact hpart.account l hl
        · exact howed.account l hl
      · intro _ l hl
        rcases List.mem_append.mp hl with hl | hl
        · exact hpart.positive hpaid l hl
        · exact howed.positive hunpaid l hl
      · rw [List.map_append, List.sum_append, hpart.total, howed.total]
        ring
      · rw [hasRevenueJournalLines_append, Bool.or_eq_true, howed.posts]
        exact iff_of_true (.inr (by linarith)) (by linarith)
    · have hzero := le_antisymm (not_lt.mp hpaid) h.paid.2
      have hnone : sale.partPaymentLines = [] := if_neg hpaid
      rw [hnone, List.nil_append]
      convert howed using 1
      rw [hzero, sub_zero]
  | CASH => exact ⟨_, rfl, receipts_inFull⟩
  | CARD => exact ⟨_, rfl, receipts_inFull⟩
  | MOBILE_MONEY => exact ⟨_, rfl, receipts_inFull⟩
  | AIRTEL_MONEY => exact ⟨_, rfl, receipts_inFull⟩
  | BANK_TRANSFER => exact ⟨_, rfl, receipts_inFull⟩
  | GIFT => exact ⟨_, rfl, receipts_inFull⟩

/-- A journal that is posted at all is sound exactly when its parts are. -/
theorem ledgerLines_sound_iff (h : PostedSale sale) (hskip : sale.skipRevenueJournal = false) :
    (∃ lines, sale.ledgerLines = .ok lines ∧ RevenueJournalSound sale lines) ↔
      sale.receipts = sale.billedTotal ∧ max 0 sale.effectiveTaxAmount = sale.taxShare ∧
        PartsBalance sale.receipts sale.billedRevenue.inventory sale.billedRevenue.service
          sale.effectiveTaxAmount := by
  obtain ⟨debits, hdebits, hreceipts⟩ := debitLines_spec h
  have hlines : sale.ledgerLines = .ok (debits ++ sale.revenueLines ++ sale.taxLines) := by
    unfold SaleData.ledgerLines
    rw [hskip, hdebits]
    rfl
  have hiff : RevenueJournalSound sale (debits ++ sale.revenueLines ++ sale.taxLines) ↔ _ :=
    sound_iff_parts sale hreceipts (credited_line SALES_REVENUE _ _)
      (credited_line SERVICE_REVENUE _ _) (credited_line TAX_PAYABLE _ _)
  rw [← hiff]
  constructor
  · rintro ⟨lines, hok, hsound⟩
    rw [hlines] at hok
    cases hok
    exact hsound
  · intro hsound
    exact ⟨_, hlines, hsound⟩

end Debits

/-! ## The amounts -/

/-- Less than a tenth of a cent is nothing in cents. -/
theorem eq_zero_of_abs_lt {q : ℚ} (hgrid : OnGrid 2 q) (h : |q| < 1 / 1000) : q = 0 := by
  obtain ⟨hlow, hhigh⟩ := abs_lt.mp h
  rcases lt_trichotomy q 0 with hneg | hzero | hpos
  · have := cent_le (by simpa using onGrid_zero.sub hgrid) (neg_pos.mpr hneg)
    linarith
  · exact hzero
  · have := cent_le hgrid hpos
    linarith

theorem onGrid_max {q : ℚ} (h : OnGrid 2 q) : OnGrid 2 (max 0 q) := by
  rcases max_choice 0 q with hmax | hmax <;> rw [hmax]
  · exact onGrid_zero
  · exact h

/-- Where two rounded parts come to their number, the first is not below zero. -/
theorem part_nonneg {p x : ℚ} (hp : OnGrid 2 p)
    (hsum : max 0 (roundTo 2 x) + max 0 (roundTo 2 (p - x)) = p) : 0 ≤ roundTo 2 x := by
  by_contra hneg
  have hlt := not_le.mp hneg
  have hx : x < 0 := by
    by_contra hx
    exact hneg (roundTo_nonneg (not_lt.mp hx))
  rw [max_eq_left hlt.le, zero_add] at hsum
  have hp0 : 0 ≤ p := hsum ▸ le_max_left _ _
  have hle : roundTo 2 (p - x) ≤ p := (le_max_right 0 _).trans hsum.le
  by_cases htie : Numeric.IsTie 2 x
  · rw [roundTo_of_tie (by linarith) ((isTie_sub_iff hp).mpr htie)] at hle
    norm_num at hle
    linarith
  · rw [roundTo_sub_of_not_tie hp htie] at hle
    linarith

/-- The tax that is credited where `inventory` and `service` are the revenue. -/
def creditedTax (total inventory service tax : ℚ) : ℚ :=
  if 5 / 1000 < total - (inventory + service) then total - (inventory + service) else tax

section Amounts

variable {total tax share inventory service : ℚ}

/-- A sale that comes to nothing bears no tax, where its journal shows none. -/
theorem share_eq_tax (htax : 0 ≤ tax) (hshare : total ≠ 0 → share = tax)
    (hnone : total = 0 → share = 0)
    (h : max 0 (creditedTax total inventory service tax) = share) : share = tax := by
  by_cases hzero : total = 0
  · rw [hnone hzero] at h ⊢
    have hle : creditedTax total inventory service tax ≤ 0 := h ▸ le_max_right _ _
    unfold creditedTax at hle
    split at hle
    · linarith
    · linarith
  · exact hshare hzero

/-- The parts of a sale whose revenue is rounded after a discount. -/
theorem reduced_iff (htotal : OnGrid 2 total ∧ 0 ≤ total) (htax : OnGrid 2 tax ∧ 0 ≤ tax)
    (hshare : total ≠ 0 → share = tax) (hnone : total = 0 → share = 0) {x : ℚ}
    (hinventory : inventory = roundTo 2 x) (hservice : service = roundTo 2 (total - tax - x)) :
    (max 0 (creditedTax total inventory service tax) = share ∧
      PartsBalance total inventory service (creditedTax total inventory service tax)) ↔
    0 ≤ inventory ∧ 0 ≤ service ∧ ¬ Numeric.IsTie 2 x := by
  have hpretax := htotal.1.sub htax.1
  have hgridI : OnGrid 2 inventory := hinventory ▸ onGrid_roundTo x
  have hgridS : OnGrid 2 service := hservice ▸ onGrid_roundTo _
  constructor
  · rintro ⟨hcredited, hbalance⟩
    have hsame := share_eq_tax htax.2 hshare hnone hcredited
    rw [hsame] at hcredited
    have hsum : max 0 inventory + max 0 service = total - tax := by
      by_cases hany : 9 / 1000 < total ∨ 9 / 1000 < inventory ∨ 9 / 1000 < service ∨
          9 / 1000 < creditedTax total inventory service tax
      · have hclose := hbalance hany
        rw [hcredited] at hclose
        have hgrid := htotal.1.sub (((onGrid_max hgridI).add (onGrid_max hgridS)).add htax.1)
        have := eq_zero_of_abs_lt hgrid hclose
        linarith
      · -- nothing is posted, so there is nothing to post
        push Not at hany
        obtain ⟨htotal', hinv, hserv, hcred⟩ := hany
        have hsmall : ∀ {q : ℚ}, OnGrid 2 q → q ≤ 9 / 1000 → q ≤ 0 := by
          intro q hgrid hle
          by_contra hpos
          have := cent_le hgrid (not_le.mp hpos)
          linarith
        have htotal0 := le_antisymm (hsmall htotal.1 htotal') htotal.2
        have htax0 : tax = 0 := le_antisymm (hsmall htax.1 (hcredited ▸ max_le (by norm_num) hcred))
          htax.2
        rw [max_eq_left (hsmall hgridI hinv), max_eq_left (hsmall hgridS hserv), htotal0, htax0]
        ring
    rw [hinventory, hservice] at hsum
    have hfirst := part_nonneg hpretax hsum
    have hsecond : 0 ≤ roundTo 2 (total - tax - x) := by
      refine part_nonneg hpretax ?_
      rw [sub_sub_cancel, add_comm]
      exact hsum
    rw [max_eq_right hfirst, max_eq_right hsecond] at hsum
    rw [hinventory, hservice]
    exact ⟨hfirst, hsecond, (roundTo_add_roundTo_iff hpretax hfirst hsecond).mp hsum⟩
  · rintro ⟨hfirst, hsecond, htie⟩
    have hsum : inventory + service = total - tax := by
      rw [hinventory] at hfirst ⊢
      rw [hservice] at hsecond ⊢
      exact (roundTo_add_roundTo_iff hpretax hfirst hsecond).mpr htie
    have hcredited : creditedTax total inventory service tax = tax := by
      unfold creditedTax
      split
      · linarith
      · rfl
    have hsame : share = tax := by
      by_cases hzero : total = 0
      · rw [hnone hzero]
        linarith [htax.2]
      · exact hshare hzero
    rw [hcredited, hsame]
    refine ⟨max_eq_right htax.2, fun _ => ?_⟩
    rw [max_eq_right hfirst, max_eq_right hsecond, max_eq_right htax.2, hsum]
    norm_num

/-- The parts of a sale whose lines are its revenue. -/
theorem unreduced_iff (htax : OnGrid 2 tax ∧ 0 ≤ tax) (hshare : total ≠ 0 → share = tax)
    (hnone : total = 0 → share = 0) :
    (max 0 (creditedTax total inventory service tax) = share ∧
      PartsBalance total inventory service (creditedTax total inventory service tax)) ↔
    (5 / 1000 < total - (inventory + service) → total - (inventory + service) = tax) ∧
      (9 / 1000 < total ∨ 9 / 1000 < inventory ∨ 9 / 1000 < service ∨ 9 / 1000 < tax →
        |total - (max 0 inventory + max 0 service) - tax| < 1 / 1000) := by
  constructor
  · rintro ⟨hcredited, hbalance⟩
    have hsame := share_eq_tax htax.2 hshare hnone hcredited
    rw [hsame] at hcredited
    refine ⟨fun hgap => ?_, fun hany => ?_⟩
    · unfold creditedTax at hcredited
      rw [if_pos hgap, max_eq_right (by linarith)] at hcredited
      exact hcredited
    · have hclose := hbalance (hany.imp_right (Or.imp_right (Or.imp_right fun hbig => by
        rw [← hcredited] at hbig
        exact (lt_max_iff.mp hbig).resolve_left (by norm_num))))
      rw [hcredited] at hclose
      rw [sub_sub]
      exact hclose
  · rintro ⟨hgap, hbalance⟩
    have hcredited : creditedTax total inventory service tax = tax := by
      unfold creditedTax
      split
      · rename_i hbig
        exact hgap hbig
      · rfl
    have hsame : share = tax := by
      by_cases hzero : total = 0
      · rw [hnone hzero]
        by_contra hne
        have hcent := cent_le htax.1 (lt_of_le_of_ne htax.2 hne)
        have hclose := abs_lt.mp (hbalance (.inr (.inr (.inr (by linarith)))))
        have hi := le_max_left 0 inventory
        have hs := le_max_left 0 service
        linarith [hclose.1]
      · exact hshare hzero
    rw [hcredited, hsame]
    refine ⟨max_eq_right htax.2, fun hany => ?_⟩
    rw [max_eq_right htax.2, ← sub_sub]
    exact hbalance hany

end Amounts

/-! ## A whole sale -/

section Sale

variable {sale : SaleData}

/-- Nothing is given away: all of the sale is billed. -/
theorem receipts_of_not_given (h : PostedSale sale) (hgift : sale.giftCovered = 0) :
    sale.receipts = sale.totalAmount := by
  have hbilled : sale.billedTotal = sale.totalAmount := by
    rw [SaleData.billedTotal, hgift, sub_zero]
  have hfull : (if 9 / 1000 < sale.billedTotal then
      if sale.SplitsTender then (toCents sale.billedTotal : ℚ) / 100 else sale.billedTotal
      else 0) = sale.totalAmount := by
    rw [hbilled, (toCents_div_iff _).mpr h.total.1, ite_self]
    split
    · rfl
    · rename_i hsmall
      by_contra hne
      have := cent_le h.total.1 (lt_of_le_of_ne h.total.2 hne)
      linarith
  unfold SaleData.receipts
  split
  · rfl
  · rfl
  · exact hfull

theorem discountAmount_eq (h : PostedSale sale) : sale.discountAmount =
    sale.grossRevenue.inventory + sale.grossRevenue.service -
      (sale.totalAmount - sale.taxAmount) := by
  unfold SaleData.discountAmount
  dsimp only
  split
  · rfl
  · rename_i hnone
    rw [le_antisymm (not_lt.mp hnone) h.tax.2, sub_zero]

theorem plain_iff (h : PostedSale sale) (hgift : sale.giftCovered = 0) :
    (sale.receipts = sale.billedTotal ∧ max 0 sale.effectiveTaxAmount = sale.taxShare ∧
      PartsBalance sale.receipts sale.billedRevenue.inventory sale.billedRevenue.service
        sale.effectiveTaxAmount) ↔ sale.PlainCloses := by
  have hbilled : sale.billedTotal = sale.totalAmount := by
    rw [SaleData.billedTotal, hgift, sub_zero]
  have hnogift : ¬ 9 / 1000 < sale.giftCovered := by
    rw [hgift]
    norm_num
  have hrevenue : sale.billedRevenue = sale.netRevenue := if_neg fun hall => hnogift hall.1
  have hscaled : sale.scaledTax = sale.taxAmount := if_neg fun hall => hnogift hall.1
  have htax : sale.effectiveTaxAmount = creditedTax sale.totalAmount sale.netRevenue.inventory
      sale.netRevenue.service sale.taxAmount := by
    unfold SaleData.effectiveTaxAmount creditedTax
    dsimp only
    rw [hrevenue, hbilled, hscaled]
  have hshare : sale.totalAmount ≠ 0 → sale.taxShare = sale.taxAmount := by
    intro hne
    rw [SaleData.taxShare, hbilled, div_self hne, mul_one, h.tax.1.roundTo_eq]
  have hnone : sale.totalAmount = 0 → sale.taxShare = 0 := by
    intro hzero
    rw [SaleData.taxShare, hzero, div_zero, mul_zero, roundTo_zero]
  have hitems : ¬ sale.saleItems.isEmpty = true := by
    rw [List.isEmpty_iff]
    exact h.items
  rw [receipts_of_not_given h hgift, hbilled, htax, hrevenue, eq_self, true_and]
  unfold SaleData.PlainCloses
  dsimp only
  have hdiscount := discountAmount_eq h
  split
  · rename_i hreduced
    have hlines : sale.grossRevenue.inventory + sale.grossRevenue.service ≠ 0 := hreduced.2.ne'
    have hpart : ∀ gross : ℚ, gross - gross * (sale.discountAmount /
        (sale.grossRevenue.inventory + sale.grossRevenue.service)) =
        gross * (sale.totalAmount - sale.taxAmount) /
          (sale.grossRevenue.inventory + sale.grossRevenue.service) := by
      intro gross
      rw [hdiscount]
      field_simp
      ring
    have hnet : sale.netRevenue = ⟨roundTo 2 (sale.grossRevenue.inventory *
        (sale.totalAmount - sale.taxAmount) /
          (sale.grossRevenue.inventory + sale.grossRevenue.service)),
        roundTo 2 (sale.grossRevenue.service * (sale.totalAmount - sale.taxAmount) /
          (sale.grossRevenue.inventory + sale.grossRevenue.service))⟩ := by
      unfold SaleData.netRevenue
      rw [if_neg hitems]
      dsimp only
      rw [if_pos (by rw [hdiscount]; exact hreduced), hpart, hpart]
    rw [hnet]
    dsimp only
    refine reduced_iff h.total h.tax hshare hnone rfl ?_
    congr 1
    field_simp
    ring
  · rename_i hplain
    have hnet : sale.netRevenue = sale.grossRevenue := by
      unfold SaleData.netRevenue
      rw [if_neg hitems]
      dsimp only
      rw [if_neg (by rw [hdiscount]; exact hplain)]
    rw [hnet]
    exact unreduced_iff h.tax hshare hnone

/-- Part is given away: the receipts come to what is billed. -/
theorem receipts_given_iff (h : PostedSale sale) (hgift : sale.giftCovered ≠ 0) :
    sale.receipts = sale.billedTotal ↔ sale.paymentMethod ≠ .DEPOSIT ∧
      (sale.billedTotal ≤ 9 / 1000 → sale.billedTotal = 0) ∧
      (9 / 1000 < sale.billedTotal → sale.SplitsTender → OnGrid 2 sale.billedTotal) := by
  have hfull : ((if 9 / 1000 < sale.billedTotal then
      if sale.SplitsTender then (toCents sale.billedTotal : ℚ) / 100 else sale.billedTotal
      else 0) = sale.billedTotal) ↔ (sale.billedTotal ≤ 9 / 1000 → sale.billedTotal = 0) ∧
      (9 / 1000 < sale.billedTotal → sale.SplitsTender → OnGrid 2 sale.billedTotal) := by
    by_cases hbilled : 9 / 1000 < sale.billedTotal
    · rw [if_pos hbilled]
      by_cases hsplits : sale.SplitsTender
      · rw [if_pos hsplits, toCents_div_iff]
        exact ⟨fun hgrid => ⟨fun hle => absurd hbilled (not_lt.mpr hle), fun _ _ => hgrid⟩,
          fun hall => hall.2 hbilled hsplits⟩
      · rw [if_neg hsplits]
        exact iff_of_true rfl ⟨fun hle => absurd hbilled (not_lt.mpr hle),
          fun _ hyes => absurd hyes hsplits⟩
    · rw [if_neg hbilled]
      exact ⟨fun hzero => ⟨fun _ => hzero.symm, fun hbig => absurd hbig hbilled⟩,
        fun hall => (hall.1 (not_lt.mp hbilled)).symm⟩
  unfold SaleData.receipts
  split
  · rename_i hdeposit
    refine iff_of_false (fun heq => hgift ?_) fun hall => hall.1 hdeposit
    rw [SaleData.billedTotal] at heq
    linarith
  · rename_i hcredit
    exact absurd (h.credit hcredit).2 hgift
  · rename_i hdeposit _
    rw [hfull]
    exact ⟨fun hall => ⟨hdeposit, hall⟩, fun hall => hall.2⟩

theorem given_iff (h : PostedSale sale) (hgift : sale.giftCovered ≠ 0) :
    (sale.receipts = sale.billedTotal ∧ max 0 sale.effectiveTaxAmount = sale.taxShare ∧
      PartsBalance sale.receipts sale.billedRevenue.inventory sale.billedRevenue.service
        sale.effectiveTaxAmount) ↔ sale.GivenCloses := by
  have htaxed : max 0 sale.effectiveTaxAmount = sale.taxShare ↔
      if 5 / 1000 < sale.billedTotal -
          (sale.billedRevenue.inventory + sale.billedRevenue.service)
        then sale.billedTotal - (sale.billedRevenue.inventory + sale.billedRevenue.service) =
          sale.taxShare
        else max 0 sale.scaledTax = sale.taxShare := by
    unfold SaleData.effectiveTaxAmount
    dsimp only
    split
    · rw [max_eq_right (by linarith)]
    · rfl
  have hbalance : ∀ {received : ℚ}, max 0 sale.effectiveTaxAmount = sale.taxShare →
      (PartsBalance received sale.billedRevenue.inventory sale.billedRevenue.service
        sale.effectiveTaxAmount ↔
      (9 / 1000 < received ∨ 9 / 1000 < sale.billedRevenue.inventory ∨
          9 / 1000 < sale.billedRevenue.service ∨ 9 / 1000 < sale.taxShare →
        |received - (max 0 sale.billedRevenue.inventory + max 0 sale.billedRevenue.service) -
          sale.taxShare| < 1 / 1000)) := by
    intro received hshare
    have hbig : 9 / 1000 < sale.taxShare ↔ 9 / 1000 < sale.effectiveTaxAmount := by
      rw [← hshare, lt_max_iff]
      exact or_iff_right (by norm_num)
    unfold PartsBalance
    rw [hshare, hbig, ← sub_sub]
  rw [receipts_given_iff h hgift, htaxed]
  constructor
  · rintro ⟨⟨hdeposit, hnothing, hcents⟩, hshare, hparts⟩
    have hreceipts := (receipts_given_iff h hgift).mpr ⟨hdeposit, hnothing, hcents⟩
    rw [hreceipts] at hparts
    exact ⟨hdeposit, hnothing, hcents, hshare, (hbalance (htaxed.mpr hshare)).mp hparts⟩
  · intro hgiven
    have hreceipts := (receipts_given_iff h hgift).mpr ⟨hgiven.deposit, hgiven.nothing, hgiven.cents⟩
    rw [hreceipts]
    exact ⟨⟨hgiven.deposit, hgiven.nothing, hgiven.cents⟩, hgiven.taxed,
      (hbalance (htaxed.mpr hgiven.taxed)).mpr hgiven.shares⟩

/-- A gift has an empty journal. -/
theorem pureGift_iff (hskip : sale.skipRevenueJournal = true) :
    (∃ lines, sale.ledgerLines = .ok lines ∧ RevenueJournalSound sale lines) ↔
      sale.giftCovered = sale.totalAmount := by
  have hlines : sale.ledgerLines = .ok [] := by
    unfold SaleData.ledgerLines
    rw [hskip]
    rfl
  constructor
  · rintro ⟨lines, hok, hsound⟩
    rw [hlines] at hok
    cases hok
    have hreceived : (0 : ℚ) = sale.billedTotal := hsound.received
    rw [SaleData.billedTotal] at hreceived
    linarith
  · intro hall
    have hbilled : sale.billedTotal = 0 := by
      rw [SaleData.billedTotal, hall, sub_self]
    refine ⟨[], hlines, fun hposts => ?_, hbilled.symm, ?_⟩
    · cases hposts
    · rw [SaleData.taxShare, hbilled, zero_div, mul_zero, roundTo_zero]
      rfl

end Sale

/-! ## The checkout -/

variable {input : TenderInput} {settlement : TenderSettlement}

/-- A sale that is left on credit gives nothing away. -/
theorem not_gift_of_credit (h : settleTender input = .ok settlement)
    (hcredit : settlement.effectivePaymentMethod = .CREDIT) :
    isGiftSale input.paymentMethod input.paymentLines = false := by
  by_contra hgift
  rw [Bool.not_eq_false] at hgift
  simp only [settleTender, bind_eq_ok, require_eq_ok, pure_eq_ok, hgift, if_true] at h
  obtain ⟨-, -, _, hassert, -, -, -, -, -, -, rfl⟩ := h
  dsimp only at hcredit
  unfold resolveGiftSettlement at hcredit
  rw [if_pos rfl] at hcredit
  split at hcredit
  · cases hcredit
  · rename_i hpure
    have hlines : input.paymentLines ≠ [] := by
      intro hnil
      rw [hnil] at hgift hpure
      exact hpure hgift
    have hmixed : ∀ l ∈ input.paymentLines, l.paymentMethod ≠ .CREDIT := by
      have hne : ¬ input.paymentLines.isEmpty = true := by simpa using hlines
      simp only [assertGiftSale, bind_eq_ok, require_eq_ok, if_pos hne] at hassert
      obtain ⟨-, -, -, -, -, hall, -⟩ := hassert
      exact hall
    cases hfind : input.paymentLines.find? fun l => decide (l.paymentMethod ≠ .GIFT) with
    | some line =>
      rw [hfind] at hcredit
      exact hmixed line (List.mem_of_find?_eq_some hfind) hcredit
    | none =>
      refine hpure ?_
      have hne : ¬ input.paymentLines.isEmpty = true := by simpa using hlines
      unfold isPureGiftSale
      rw [if_neg hne, List.all_eq_true]
      intro l hl
      have hall := List.find?_eq_none.mp hfind l hl
      simpa using hall

/-- Without a gift among its payments nothing of a sale is given away. -/
theorem giftCoveredAmount_of_not_gift {method : PaymentMethod} {lines : List PaymentLine}
    (h : isGiftSale method lines = false) {method' : PaymentMethod} (hmethod : lines = [] →
      method' ≠ .GIFT) (total : ℚ) : giftCoveredAmount method' lines total = 0 := by
  unfold giftCoveredAmount
  by_cases hlines : lines = []
  · rw [if_neg (by simp [hlines]), if_neg (hmethod hlines)]
  · have hne : ¬ lines.isEmpty = true := by simpa using hlines
    rw [if_pos hne]
    unfold isGiftSale at h
    rw [if_neg hne, List.any_eq_false] at h
    unfold tendered
    have hnone : lines.filter (fun l => decide (l.paymentMethod = .GIFT)) = [] :=
      List.filter_eq_nil_iff.mpr fun l hl => by simpa using h l hl
    rw [hnone]
    rfl

/-- The gift of a settlement is what its payments cover. -/
theorem settleTender_gift (h : settleTender input = .ok settlement) :
    settlement.giftAmount = roundSaleMoney
      (giftCoveredAmount input.paymentMethod input.paymentLines
        (roundSaleMoney input.finalTotalAmount)) := by
  simp only [settleTender, bind_eq_ok] at h
  obtain ⟨-, -, h⟩ := h
  split at h
  · simp only [bind_eq_ok, require_eq_ok, pure_eq_ok] at h
    obtain ⟨-, -, -, -, -, -, -, -, rfl⟩ := h
    rfl
  · simp only [bind_eq_ok, require_eq_ok, pure_eq_ok] at h
    obtain ⟨-, -, rfl⟩ := h
    rfl

/-- On credit neither the settlement nor its lines have a gift. -/
theorem settleTender_credit (h : settleTender input = .ok settlement)
    (hcredit : settlement.effectivePaymentMethod = .CREDIT) :
    settlement.giftAmount = 0 ∧ ∀ total, giftCoveredAmount .CREDIT input.paymentLines total = 0 := by
  have hnone := not_gift_of_credit h hcredit
  refine ⟨?_, giftCoveredAmount_of_not_gift hnone fun _ hgift => nomatch hgift⟩
  have hmethod : input.paymentLines = [] → input.paymentMethod ≠ .GIFT := by
    intro hnil hgift
    rw [hnil, hgift] at hnone
    cases hnone
  rw [settleTender_gift h, giftCoveredAmount_of_not_gift hnone hmethod]
  exact roundTo_zero

/-- A sale that a deposit pays names the deposit. -/
theorem settleTender_deposit (h : settleTender input = .ok settlement)
    (hdeposit : settlement.effectivePaymentMethod = .DEPOSIT) :
    input.paymentMethod = .DEPOSIT ∨ ∃ l ∈ input.paymentLines, l.paymentMethod = .DEPOSIT := by
  have heffective : settlement.effectivePaymentMethod = (resolveGiftSettlement
      (isGiftSale input.paymentMethod input.paymentLines) input.paymentMethod
      (decide (roundSaleMoney input.received < roundSaleMoney input.finalTotalAmount))
      input.paymentLines).effectivePaymentMethod := by
    simp only [settleTender, bind_eq_ok] at h
    obtain ⟨-, -, h⟩ := h
    split at h
    · rename_i hgift
      simp only [bind_eq_ok, require_eq_ok, pure_eq_ok] at h
      obtain ⟨-, -, -, -, -, -, -, -, rfl⟩ := h
      rfl
    · simp only [bind_eq_ok, require_eq_ok, pure_eq_ok] at h
      obtain ⟨-, -, rfl⟩ := h
      rfl
  rw [heffective] at hdeposit
  unfold resolveGiftSettlement at hdeposit
  split at hdeposit
  · split at hdeposit
    · cases hdeposit
    · split at hdeposit
      · rename_i line hfind
        exact .inr ⟨line, List.mem_of_find?_eq_some hfind, hdeposit⟩
      · dsimp only at hdeposit
        split at hdeposit
        · cases hdeposit
        · exact .inl hdeposit
  · dsimp only at hdeposit
    split at hdeposit
    · cases hdeposit
    · exact .inl hdeposit

/-- Only a line of cash is cut back. -/
theorem mem_of_mem_clampCashLine {input : CheckoutInput} {final : ℚ} {l : PaymentLine}
    (h : l ∈ clampCashLine input final) (hcash : l.paymentMethod ≠ .CASH) :
    l ∈ input.paymentLines := by
  unfold clampCashLine at h
  dsimp only at h
  split at h
  · rename_i line hlines
    split at h
    · rw [List.mem_singleton.mp h] at hcash
      exact absurd rfl hcash
    · rw [hlines]
      exact h
  · exact h

theorem checkoutSale_posted {input : CheckoutInput} {sale : SaleData}
    (h : checkoutSale input = .ok sale) : PostedSale sale := by
  simp only [checkoutSale, checkSaleRow, bind_eq_ok, require_eq_ok, pure_eq_ok, mapError_eq_ok] at h
  obtain ⟨-, hitems, -, -, -, hdeposit, final, -, settlement, hsettle, -, -, -, ⟨-, htotal, -, hpaid,
    -, hcustomer, -, hdebt, -⟩, rfl⟩ := h
  have hknown : input.customerId.isSome = true → ∃ id, input.customerId = some id ∧
      jsTrim id ≠ "" := by
    intro hsome
    obtain ⟨id, hid⟩ := Option.isSome_iff_exists.mp hsome
    exact ⟨id, hid, input.customerId_text id hid⟩
  constructor
  · exact ⟨⟨_, rfl⟩, Numeric.toRat_nonneg_iff.mpr htotal⟩
  · exact ⟨⟨_, rfl⟩, Numeric.toRat_nonneg_iff.mpr (Numeric.ofRat_nonneg input.taxAmount_nonneg)⟩
  · exact ⟨⟨_, rfl⟩, Numeric.toRat_nonneg_iff.mpr hpaid⟩
  · intro hnil
    exact hitems (List.map_eq_nil_iff.mp hnil)
  · intro hcredit
    have hmethod : settlement.effectivePaymentMethod = .CREDIT := hcredit
    obtain ⟨hamount, hlines⟩ := settleTender_credit hsettle hmethod
    refine ⟨?_, ?_⟩
    · refine sub_pos.mp ?_
      unfold CheckoutInput.saleData
      dsimp only
      rw [← Numeric.toRat_sub]
      exact Numeric.toRat_pos_iff.mpr (sub_pos.mpr (hdebt hmethod))
    unfold SaleData.giftCovered CheckoutInput.saleData
    dsimp only
    rw [hamount, if_neg fun hall => lt_irrefl _ hall.2, hmethod]
    exact hlines _
  · rintro (hcredit | hdep)
    · exact hknown (hcustomer hcredit)
    · refine hknown (hdeposit ?_)
      rcases settleTender_deposit hsettle hdep with hmethod | ⟨l, hl, hmethod⟩
      · exact .inl hmethod
      · refine .inr (List.any_eq_true.mpr ⟨l, ?_, decide_eq_true hmethod⟩)
        exact mem_of_mem_clampCashLine hl (by rw [hmethod]; decide)

/-! ## Goods and a delivery -/

/-- Goods for 5.00 and a delivery for 5.00, paid in cash. -/
def mixedCheckout (cartDiscount : ℚ) (hcart : 0 ≤ cartDiscount) : CheckoutInput where
  saleNumber := "SALE-1"
  customerId := none
  items := [⟨false, 1, 5, 0, by norm_num, by norm_num, by norm_num⟩,
    ⟨true, 1, 5, 0, by norm_num, by norm_num, by norm_num⟩]
  discountAmount := cartDiscount
  taxAmount := 0
  taxInclusive := true
  totalAmount := none
  paymentMethod := .CASH
  paymentLines := []
  paymentReceived := 10
  giftReason := ""
  mayGift := false
  mayUpdateAdmin := false
  customerId_text := fun _ h => (nomatch h)
  discountAmount_nonneg := hcart
  taxAmount_nonneg := le_rfl
  paymentLines_nonneg := fun _ h => (nomatch h)

/-- The sale that is posted. -/
def mixedSale (cartDiscount : ℚ) (hcart : 0 ≤ cartDiscount) : SaleData :=
  settled (checkoutSale (mixedCheckout cartDiscount hcart))
    ⟨"", 0, .CASH, 0, [], 0, 0, none, none, []⟩

end SmartErpPos.Sales
