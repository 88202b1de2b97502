/-
  Sales/TenderAllocation.lean --- which cash or bank account each tender of a sale goes to.

  Source: `services/saleTenderAllocation.ts`.

  Cards, mobile money and transfers come first, each up to what is still due; cash takes
  the rest, up to what was handed over.  What no line covers is left as a shortfall, so
  that the allocation always comes to its target.
-/
import SmartErpPos.Sales.Tender

set_option autoImplicit false

namespace SmartErpPos.Sales

open SmartErpPos.Lib

/-! ## Accounts -/

/-- The text of a payment method. -/
def PaymentMethod.text : PaymentMethod → String
  | .CASH => "CASH"
  | .CARD => "CARD"
  | .MOBILE_MONEY => "MOBILE_MONEY"
  | .AIRTEL_MONEY => "AIRTEL_MONEY"
  | .BANK_TRANSFER => "BANK_TRANSFER"
  | .CREDIT => "CREDIT"
  | .DEPOSIT => "DEPOSIT"
  | .GIFT => "GIFT"

/-- `TENDER_LIQUIDITY_ACCOUNT`. -/
def liquidityAccountForMethod : PaymentMethod → Option String
  | .CASH => some "1010"
  | .CARD => some "1020"
  | .MOBILE_MONEY => some "1040"
  | .AIRTEL_MONEY => some "1040"
  | .BANK_TRANSFER => some "1030"
  | .CREDIT => none
  | .DEPOSIT => none
  | .GIFT => none

/-! ## The allocation -/

/-- `Math.round(v * 100)`. -/
def toCents (v : ℚ) : ℤ := ⌊v * 100 + 1 / 2⌋

structure TenderAllocationItem where
  accountCode : String
  amountCents : ℤ
  methods : List PaymentMethod
  deriving DecidableEq

structure TenderAllocation where
  items : List TenderAllocationItem
  allocatedCents : ℤ
  shortfallCents : ℤ
  deriving DecidableEq

/-- `add`: the cents of a tender on the item of its account. -/
def addTender (items : List TenderAllocationItem) (method : PaymentMethod) (cents : ℤ) :
    List TenderAllocationItem :=
  if cents ≤ 0 then items
  else
    match liquidityAccountForMethod method with
    | none => items
    | some code =>
      match items.findIdx? fun item => decide (item.accountCode = code) with
      | some i => items.modify i fun item =>
          { item with
            amountCents := item.amountCents + cents
            methods := if item.methods.contains method then item.methods
              else item.methods ++ [method] }
      | none => items ++ [⟨code, cents, [method]⟩]

/-- A tender that is not cash takes what is still due of it. -/
def takeTender (state : List TenderAllocationItem × ℤ) (line : PaymentLine) :
    List TenderAllocationItem × ℤ :=
  if line.paymentMethod = .CASH then state
  else
    let take := min (toCents line.amount) state.2
    (addTender state.1 line.paymentMethod take, state.2 - take)

/-- The lines that bring money in. -/
def tenderLines (lines : List PaymentLine) : List PaymentLine :=
  lines.filter fun l => decide (l.paymentMethod ≠ .CREDIT ∧ l.paymentMethod ≠ .GIFT)

/-- What is handed over in cash. -/
def cashTendered (tender : List PaymentLine) : ℤ :=
  ((tender.filter fun l => decide (l.paymentMethod = .CASH)).map fun l => toCents l.amount).sum

/-- The tenders against a target in cents. -/
def allocateCents (target : ℤ) (tender : List PaymentLine) : TenderAllocation :=
  let others := tender.foldl takeTender ([], target)
  let cashTake := min (cashTendered tender) others.2
  let remaining := others.2 - cashTake
  ⟨addTender others.1 .CASH cashTake, target - remaining, remaining⟩

/-- `allocateTenderToLiquidity`; `none` where the sale goes to one account as a whole. -/
def allocateTenderToLiquidity (targetAmount : ℚ) (lines : List PaymentLine) :
    Option TenderAllocation :=
  let tender := tenderLines lines
  if tender.isEmpty then none
  else if tender.any fun l => (liquidityAccountForMethod l.paymentMethod).isNone then none
  else if tender.any fun l => decide (l.amount < 0) then none
  else
    let target := toCents targetAmount
    if target ≤ 0 then some ⟨[], 0, 0⟩ else some (allocateCents target tender)

/-! ## It comes to its target -/

/-- What the items hold together. -/
def itemCents (items : List TenderAllocationItem) : ℤ := (items.map (·.amountCents)).sum

theorem sum_map_modify {items : List TenderAllocationItem} {i : ℕ} (hi : i < items.length)
    (cents : ℤ) {f : TenderAllocationItem → TenderAllocationItem}
    (hf : ∀ item, (f item).amountCents = item.amountCents + cents) :
    itemCents (items.modify i f) = itemCents items + cents := by
  induction items generalizing i with
  | nil => cases hi
  | cons item rest ih =>
    cases i with
    | zero =>
      simp only [itemCents, List.modify_zero_cons, List.map_cons, List.sum_cons, hf]
      ring
    | succ i =>
      have hrest := ih (Nat.lt_of_succ_lt_succ hi)
      simp only [itemCents, List.modify_succ_cons, List.map_cons, List.sum_cons] at hrest ⊢
      rw [hrest]
      ring

/-- An item gains what is added, where its method has an account. -/
theorem itemCents_addTender {items : List TenderAllocationItem} {method : PaymentMethod}
    {cents : ℤ} (haccount : (liquidityAccountForMethod method).isSome = true) (hpos : 0 ≤ cents) :
    itemCents (addTender items method cents) = itemCents items + cents := by
  obtain ⟨code, hcode⟩ := Option.isSome_iff_exists.mp haccount
  unfold addTender
  split
  · rename_i hle
    rw [le_antisymm hle hpos, add_zero]
  · rw [hcode]
    dsimp only
    split
    · rename_i i hi
      obtain ⟨hlt, -⟩ := List.findIdx?_eq_some_iff_getElem.mp hi
      exact sum_map_modify hlt cents fun item => rfl
    · simp [itemCents]

/-- Positive items with a liquidity account each. -/
def SoundItems (items : List TenderAllocationItem) : Prop :=
  ∀ item ∈ items, 0 < item.amountCents ∧
    ∃ method, liquidityAccountForMethod method = some item.accountCode

theorem soundItems_addTender {items : List TenderAllocationItem} (h : SoundItems items)
    (method : PaymentMethod) (cents : ℤ) : SoundItems (addTender items method cents) := by
  unfold addTender
  split
  · exact h
  · rename_i hpos
    split
    · exact h
    · rename_i code hcode
      split
      · intro item hitem
        obtain ⟨j, hj, rfl⟩ := List.mem_iff_getElem.mp hitem
        rw [List.length_modify] at hj
        have hold := h items[j] (List.getElem_mem hj)
        rw [List.getElem_modify]
        split
        · exact ⟨by dsimp only; omega, hold.2⟩
        · exact hold
      · intro item hitem
        rcases List.mem_append.mp hitem with hold | hnew
        · exact h item hold
        · rw [List.mem_singleton.mp hnew]
          exact ⟨by dsimp only; omega, method, hcode⟩

theorem toCents_nonneg {v : ℚ} (h : 0 ≤ v) : 0 ≤ toCents v :=
  Int.floor_nonneg.mpr (by linarith)

/-- A list of tenders with accounts, none of them negative. -/
structure SoundTender (tender : List PaymentLine) : Prop where
  account : ∀ l ∈ tender, (liquidityAccountForMethod l.paymentMethod).isSome = true
  nonneg : ∀ l ∈ tender, 0 ≤ toCents l.amount

theorem SoundTender.tail {l : PaymentLine} {rest : List PaymentLine}
    (h : SoundTender (l :: rest)) : SoundTender rest :=
  ⟨fun x hx => h.account x (List.mem_cons_of_mem l hx),
    fun x hx => h.nonneg x (List.mem_cons_of_mem l hx)⟩

variable {tender : List PaymentLine}

/-- Tender by tender, what is allocated and what is due come to the same. -/
theorem foldl_takeTender (h : SoundTender tender) (state : List TenderAllocationItem × ℤ)
    (hitems : SoundItems state.1) (hdue : 0 ≤ state.2) :
    SoundItems (tender.foldl takeTender state).1 ∧ 0 ≤ (tender.foldl takeTender state).2 ∧
      itemCents (tender.foldl takeTender state).1 + (tender.foldl takeTender state).2 =
        itemCents state.1 + state.2 := by
  induction tender generalizing state with
  | nil => exact ⟨hitems, hdue, rfl⟩
  | cons l rest ih =>
    have hnonneg := h.nonneg l List.mem_cons_self
    have hstep : SoundItems (takeTender state l).1 ∧ 0 ≤ (takeTender state l).2 ∧
        itemCents (takeTender state l).1 + (takeTender state l).2 = itemCents state.1 + state.2 := by
      unfold takeTender
      split
      · exact ⟨hitems, hdue, rfl⟩
      · refine ⟨soundItems_addTender hitems _ _, by dsimp only; omega, ?_⟩
        dsimp only
        rw [itemCents_addTender (h.account l List.mem_cons_self) (le_min hnonneg hdue)]
        ring
    obtain ⟨hitems', hdue', hsum⟩ := hstep
    obtain ⟨hlast, hrest, htotal⟩ := ih h.tail _ hitems' hdue'
    exact ⟨hlast, hrest, htotal.trans hsum⟩

theorem cashTendered_nonneg (h : SoundTender tender) : 0 ≤ cashTendered tender := by
  refine List.sum_nonneg fun x hx => ?_
  obtain ⟨l, hl, rfl⟩ := List.mem_map.mp hx
  exact h.nonneg l (List.mem_filter.mp hl).1

/-- The allocation of a target: sound items that come to it with the shortfall. -/
theorem allocateCents_spec (h : SoundTender tender) {target : ℤ} (htarget : 0 ≤ target) :
    SoundItems (allocateCents target tender).items ∧
      0 ≤ (allocateCents target tender).shortfallCents ∧
      itemCents (allocateCents target tender).items +
        (allocateCents target tender).shortfallCents = target := by
  obtain ⟨hitems, hdue, hsum⟩ := foldl_takeTender h ([], target)
    (fun _ hx => (nomatch hx)) htarget
  have hcash := cashTendered_nonneg h
  refine ⟨?_, ?_, ?_⟩
  · unfold allocateCents
    dsimp only
    exact soundItems_addTender hitems _ _
  · unfold allocateCents
    dsimp only
    omega
  · unfold allocateCents
    dsimp only
    rw [itemCents_addTender rfl (le_min hcash hdue)]
    have hnone : itemCents ([] : List TenderAllocationItem) = 0 := rfl
    rw [hnone] at hsum
    linarith

/-! ## What is not covered -/

/-- All that is handed over. -/
def tenderedCents (tender : List PaymentLine) : ℤ := (tender.map fun l => toCents l.amount).sum

theorem tenderedCents_nonneg (h : SoundTender tender) : 0 ≤ tenderedCents tender := by
  refine List.sum_nonneg fun x hx => ?_
  obtain ⟨l, hl, rfl⟩ := List.mem_map.mp hx
  exact h.nonneg l hl

/-- What the tenders that are not cash leave due. -/
theorem due_foldl_takeTender (h : SoundTender tender) (state : List TenderAllocationItem × ℤ)
    (hdue : 0 ≤ state.2) :
    (tender.foldl takeTender state).2 =
      max 0 (state.2 - (tenderedCents tender - cashTendered tender)) := by
  induction tender generalizing state with
  | nil => simpa [tenderedCents, cashTendered] using hdue
  | cons l rest ih =>
    have hnonneg := h.nonneg l List.mem_cons_self
    have hother : 0 ≤ tenderedCents rest - cashTendered rest := by
      rw [sub_nonneg]
      unfold tenderedCents cashTendered
      refine List.Sublist.sum_le_sum (List.filter_sublist.map _) fun x hx => ?_
      obtain ⟨m, hm, rfl⟩ := List.mem_map.mp hx
      exact h.tail.nonneg m hm
    rw [List.foldl_cons]
    by_cases hcash : l.paymentMethod = .CASH
    · have hsame : takeTender state l = state := if_pos hcash
      rw [hsame, ih h.tail _ hdue]
      simp [tenderedCents, cashTendered, hcash]
    · have htake : (takeTender state l).2 = state.2 - min (toCents l.amount) state.2 := by
        unfold takeTender
        rw [if_neg hcash]
      rw [ih h.tail _ (by rw [htake]; omega), htake]
      have hsum : tenderedCents (l :: rest) = toCents l.amount + tenderedCents rest := rfl
      have hcashSum : cashTendered (l :: rest) = cashTendered rest := by
        simp [cashTendered, hcash]
      rw [hsum, hcashSum]
      omega

/-- The shortfall is what the tenders together leave of the target. -/
theorem shortfallCents_eq (h : SoundTender tender) {target : ℤ} (htarget : 0 ≤ target) :
    (allocateCents target tender).shortfallCents =
      max 0 (target - tenderedCents tender) := by
  have hcash := cashTendered_nonneg h
  have hdue := due_foldl_takeTender h ([], target) htarget
  unfold allocateCents
  dsimp only at hdue ⊢
  rw [hdue]
  omega

/-- No item is made exactly when nothing is handed over. -/
theorem items_eq_nil_iff (h : SoundTender tender) {target : ℤ} (htarget : 0 < target) :
    (allocateCents target tender).items = [] ↔ tenderedCents tender = 0 := by
  obtain ⟨hitems, -, hsum⟩ := allocateCents_spec h htarget.le
  have hnonneg := tenderedCents_nonneg h
  rw [shortfallCents_eq h htarget.le] at hsum
  constructor
  · intro hnil
    rw [hnil] at hsum
    have hnone : itemCents ([] : List TenderAllocationItem) = 0 := rfl
    omega
  · intro hzero
    have hcents : itemCents (allocateCents target tender).items = 0 := by omega
    refine List.eq_nil_iff_forall_not_mem.mpr fun item hitem => ?_
    have hle : item.amountCents ≤ itemCents (allocateCents target tender).items :=
      List.single_le_sum (fun x hx => by
        obtain ⟨y, hy, rfl⟩ := List.mem_map.mp hx
        exact (hitems y hy).1.le) _ (List.mem_map_of_mem hitem)
    have hpos := (hitems item hitem).1
    omega

end SmartErpPos.Sales
