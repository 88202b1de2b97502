/-
  Sales/TenderAccounts.lean --- the allocation of a tender account by account.

  Source: `services/saleTenderAllocation.ts` (`allocateTenderToLiquidity`).

  While anything is still due, every tender that is not cash is taken whole.  So no account
  gets more than was handed over on its methods, and where cash is drawn on, the other
  accounts have got all of it.
-/
import SmartErpPos.Sales.TenderAllocation

set_option autoImplicit false

namespace SmartErpPos.Sales

open SmartErpPos.Lib

/-! ## Cents on an account -/

/-- What the items put on an account. -/
def centsOn (items : List TenderAllocationItem) (code : String) : ℤ :=
  ((items.filter fun item => item.accountCode = code).map (·.amountCents)).sum

/-- What was handed over on the methods of an account. -/
def tenderedOn (tender : List PaymentLine) (code : String) : ℤ :=
  ((tender.filter fun l => liquidityAccountForMethod l.paymentMethod = some code).map
    fun l => toCents l.amount).sum

theorem centsOn_cons (item : TenderAllocationItem) (items : List TenderAllocationItem)
    (code : String) : centsOn (item :: items) code =
      (if item.accountCode = code then item.amountCents else 0) + centsOn items code := by
  unfold centsOn
  by_cases h : item.accountCode = code <;> simp [h]

theorem tenderedOn_cons (l : PaymentLine) (rest : List PaymentLine) (code : String) :
    tenderedOn (l :: rest) code =
      (if liquidityAccountForMethod l.paymentMethod = some code then toCents l.amount else 0) +
        tenderedOn rest code := by
  unfold tenderedOn
  by_cases h : liquidityAccountForMethod l.paymentMethod = some code <;> simp [h]

theorem tenderedOn_nonneg {tender : List PaymentLine} (h : SoundTender tender) (code : String) :
    0 ≤ tenderedOn tender code := by
  refine List.sum_nonneg fun x hx => ?_
  obtain ⟨l, hl, rfl⟩ := List.mem_map.mp hx
  exact h.nonneg l (List.mem_filter.mp hl).1

/-- An item that grows puts the more on its own account. -/
theorem centsOn_modify {items : List TenderAllocationItem} {i : ℕ} (hi : i < items.length)
    {cents : ℤ} {f : TenderAllocationItem → TenderAllocationItem}
    (hcents : ∀ item, (f item).amountCents = item.amountCents + cents)
    (hcode : ∀ item, (f item).accountCode = item.accountCode) (code : String) :
    centsOn (items.modify i f) code =
      centsOn items code + if items[i].accountCode = code then cents else 0 := by
  induction items generalizing i with
  | nil => cases hi
  | cons item rest ih =>
    cases i with
    | zero =>
      rw [List.modify_zero_cons, centsOn_cons, centsOn_cons, hcode, hcents, List.getElem_cons_zero]
      split <;> ring
    | succ i =>
      rw [List.modify_succ_cons, centsOn_cons, centsOn_cons, ih (Nat.lt_of_succ_lt_succ hi),
        List.getElem_cons_succ, add_assoc]

/-- What is added goes to the account of its method. -/
theorem centsOn_addTender {items : List TenderAllocationItem} {method : PaymentMethod} {cents : ℤ}
    (haccount : (liquidityAccountForMethod method).isSome = true) (hnonneg : 0 ≤ cents)
    (code : String) : centsOn (addTender items method cents) code =
      centsOn items code + if liquidityAccountForMethod method = some code then cents else 0 := by
  obtain ⟨own, hown⟩ := Option.isSome_iff_exists.mp haccount
  unfold addTender
  split
  · rename_i hle
    rw [le_antisymm hle hnonneg, ite_self, add_zero]
  · rw [hown]
    dsimp only
    split
    · rename_i i hi
      obtain ⟨hlt, hitem, -⟩ := List.findIdx?_eq_some_iff_getElem.mp hi
      have hcode : items[i].accountCode = own := of_decide_eq_true hitem
      have hgrown : ∀ item : TenderAllocationItem,
          ({ item with
              amountCents := item.amountCents + cents
              methods := if item.methods.contains method then item.methods
                else item.methods ++ [method] } : TenderAllocationItem).amountCents =
            item.amountCents + cents := fun _ => rfl
      refine (centsOn_modify hlt hgrown (fun _ => rfl) code).trans ?_
      rw [hcode]
      simp only [Option.some.injEq]
    · unfold centsOn
      by_cases h : own = code <;> simp [h]

/-! ## Tender by tender -/

/-- The tenders that are not cash. -/
def otherTenders (tender : List PaymentLine) : List PaymentLine :=
  tender.filter fun l => decide (l.paymentMethod ≠ .CASH)

/-- One tender that is not cash: its account gets what it takes. -/
theorem takeTender_of_ne_cash {state : List TenderAllocationItem × ℤ} {l : PaymentLine}
    (hcash : l.paymentMethod ≠ .CASH) :
    takeTender state l = (addTender state.1 l.paymentMethod (min (toCents l.amount) state.2),
      state.2 - min (toCents l.amount) state.2) :=
  if_neg hcash

/-- Every account gets no more than its tenders, and all of them while anything is due. -/
theorem centsOn_foldl_takeTender {tender : List PaymentLine} (h : SoundTender tender)
    (state : List TenderAllocationItem × ℤ) (hdue : 0 ≤ state.2) (code : String) :
    centsOn (tender.foldl takeTender state).1 code ≤
        centsOn state.1 code + tenderedOn (otherTenders tender) code ∧
      (tender.foldl takeTender state).2 ≤ state.2 ∧
      (0 < (tender.foldl takeTender state).2 → centsOn (tender.foldl takeTender state).1 code =
        centsOn state.1 code + tenderedOn (otherTenders tender) code) := by
  induction tender generalizing state with
  | nil => simp [otherTenders, tenderedOn]
  | cons l rest ih =>
    rw [List.foldl_cons]
    by_cases hcash : l.paymentMethod = .CASH
    · have hsame : takeTender state l = state := if_pos hcash
      have hothers : otherTenders (l :: rest) = otherTenders rest := by simp [otherTenders, hcash]
      rw [hsame, hothers]
      exact ih h.tail state hdue
    · have hnonneg := h.nonneg l List.mem_cons_self
      have hothers : otherTenders (l :: rest) = l :: otherTenders rest := by
        simp [otherTenders, hcash]
      have hadd : centsOn (addTender state.1 l.paymentMethod (min (toCents l.amount) state.2)) code =
          centsOn state.1 code + if liquidityAccountForMethod l.paymentMethod = some code then
            min (toCents l.amount) state.2 else 0 :=
        centsOn_addTender (h.account l List.mem_cons_self) (le_min hnonneg hdue) code
      rw [takeTender_of_ne_cash hcash, hothers, tenderedOn_cons]
      obtain ⟨hle, hless, hall⟩ := ih h.tail
        (addTender state.1 l.paymentMethod (min (toCents l.amount) state.2),
          state.2 - min (toCents l.amount) state.2) (by dsimp only; omega)
      dsimp only at hle hless hall
      rw [hadd] at hle hall
      refine ⟨?_, by omega, fun hpos => ?_⟩
      · refine hle.trans ?_
        split <;> omega
      · -- Something is due at the end, so this tender was smaller than what was due.
        have hwhole : min (toCents l.amount) state.2 = toCents l.amount := by omega
        rw [hall hpos, hwhole]
        ring

/-! ## The whole allocation -/

/-- Cash is the only method of its account. -/
theorem account_eq_cash_iff (method : PaymentMethod) :
    liquidityAccountForMethod method = some "1010" ↔ method = .CASH := by
  cases method <;> decide

theorem tenderedOn_otherTenders {tender : List PaymentLine} {code : String} (h : code ≠ "1010") :
    tenderedOn (otherTenders tender) code = tenderedOn tender code := by
  induction tender with
  | nil => rfl
  | cons l rest ih =>
    by_cases hcash : l.paymentMethod = .CASH
    · have hothers : otherTenders (l :: rest) = otherTenders rest := by simp [otherTenders, hcash]
      have hother : liquidityAccountForMethod l.paymentMethod ≠ some code := by
        rw [(account_eq_cash_iff _).mpr hcash]
        exact fun heq => h (Option.some.inj heq).symm
      rw [hothers, ih, tenderedOn_cons, if_neg hother, zero_add]
    · have hothers : otherTenders (l :: rest) = l :: otherTenders rest := by
        simp [otherTenders, hcash]
      rw [hothers, tenderedOn_cons, tenderedOn_cons, ih]

theorem tenderedOn_otherTenders_cash (tender : List PaymentLine) :
    tenderedOn (otherTenders tender) "1010" = 0 := by
  have hnone : (otherTenders tender).filter
      (fun l => liquidityAccountForMethod l.paymentMethod = some "1010") = [] := by
    rw [List.filter_eq_nil_iff]
    intro l hl hcash
    have hne : l.paymentMethod ≠ .CASH := of_decide_eq_true (List.mem_filter.mp hl).2
    exact hne ((account_eq_cash_iff _).mp (of_decide_eq_true hcash))
  rw [tenderedOn, hnone]
  rfl

theorem tenderedOn_cash (tender : List PaymentLine) :
    tenderedOn tender "1010" = cashTendered tender := by
  unfold tenderedOn cashTendered
  simp only [account_eq_cash_iff]

/-- What an allocation puts on each account. -/
theorem centsOn_allocateCents {tender : List PaymentLine} (h : SoundTender tender) {target : ℤ}
    (htarget : 0 ≤ target) (code : String) :
    centsOn (allocateCents target tender).items code ≤ tenderedOn tender code ∧
      (0 < centsOn (allocateCents target tender).items "1010" → code ≠ "1010" →
        centsOn (allocateCents target tender).items code = tenderedOn tender code) := by
  have hcash := cashTendered_nonneg h
  have hfold := fun code => centsOn_foldl_takeTender h ([], target) htarget code
  have hdue : 0 ≤ (tender.foldl takeTender ([], target)).2 :=
    (foldl_takeTender h ([], target) (fun _ hx => (nomatch hx)) htarget).2.1
  have haccount : liquidityAccountForMethod .CASH = some "1010" := rfl
  have hsome : (liquidityAccountForMethod .CASH).isSome = true := rfl
  have hnone : ∀ code, centsOn ([] : List TenderAllocationItem) code = 0 := fun _ => rfl
  have hadd : ∀ code, centsOn (allocateCents target tender).items code =
      centsOn (tender.foldl takeTender ([], target)).1 code +
        if liquidityAccountForMethod .CASH = some code then
          min (cashTendered tender) (tender.foldl takeTender ([], target)).2 else 0 :=
    fun code => by
      unfold allocateCents
      exact centsOn_addTender hsome (le_min hcash hdue) code
  simp only [hnone, zero_add] at hfold
  by_cases hcode : code = "1010"
  · subst hcode
    have hle := (hfold "1010").1
    rw [tenderedOn_otherTenders_cash] at hle
    rw [hadd, if_pos haccount, tenderedOn_cash]
    exact ⟨by omega, fun _ hne => absurd rfl hne⟩
  · have hother : liquidityAccountForMethod .CASH ≠ some code :=
      fun heq => hcode (Option.some.inj heq).symm
    rw [hadd code, if_neg hother, add_zero, ← tenderedOn_otherTenders hcode]
    refine ⟨(hfold code).1, fun hdrawn _ => (hfold code).2.2 ?_⟩
    -- Cash is drawn on, so something was due when the other tenders had been taken.
    have hle := (hfold "1010").1
    rw [tenderedOn_otherTenders_cash] at hle
    rw [hadd, if_pos haccount] at hdrawn
    omega

/-- What an allocation promises, in cents. -/
structure ExactAllocation (target : ℤ) (lines : List PaymentLine) (allocation : TenderAllocation) :
    Prop where
  total : itemCents allocation.items + allocation.shortfallCents = max 0 target
  positive : ∀ item ∈ allocation.items, 0 < item.amountCents
  capped : ∀ code, centsOn allocation.items code ≤ tenderedOn lines code
  covered : target ≤ tenderedCents (tenderLines lines) → allocation.shortfallCents = 0
  cashLast : 0 < centsOn allocation.items "1010" → ∀ code, code ≠ "1010" →
    centsOn allocation.items code = tenderedOn lines code

/-- Lines on credit or given away go to no account. -/
theorem tenderedOn_tenderLines (lines : List PaymentLine) (code : String) :
    tenderedOn (tenderLines lines) code = tenderedOn lines code := by
  unfold tenderedOn tenderLines
  rw [List.filter_filter]
  congr 2
  refine List.filter_congr fun l _ => ?_
  cases l.paymentMethod <;> simp [liquidityAccountForMethod]

/-- A purchase of 100: 30 by card, the rest from 200 in cash. -/
def cardAndCash : List PaymentLine :=
  [⟨.CASH, 200⟩, ⟨.CARD, 30⟩]

end SmartErpPos.Sales
