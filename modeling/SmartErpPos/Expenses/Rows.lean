/-
  Expenses/Rows.lean --- what the repository writes.

  An update changes one row.  Naming a category may also give that category its account; this
  is the account the expenses of the category resolved to already, so the account of no
  expense changes with it.
-/
import SmartErpPos.Expenses.Service
import SmartErpPos.Ledger.OwnJournals

set_option autoImplicit false

namespace SmartErpPos.Expenses

open SmartErpPos.Lib SmartErpPos.Ledger

variable {db : ExpenseDb}

/-! ## Categories -/

variable {category : CategoryId × ExpenseCategory} {db' : ExpenseDb} {now : Timestamp}

theorem foldl_best_mem {found : List (CategoryId × ExpenseCategory)}
    {best : Option (CategoryId × ExpenseCategory)} (h : found.foldl (fun best e => match best with
      | some b => if b.2.updatedAt < e.2.updatedAt then some e else some b
      | none => some e) best = some category) : category ∈ found ∨ best = some category := by
  induction found generalizing best with
  | nil => exact .inr h
  | cons e rest ih =>
    rcases ih h with hmem | hbest
    · exact .inl (List.mem_cons_of_mem _ hmem)
    · cases best with
      | none =>
        cases hbest
        exact .inl List.mem_cons_self
      | some b =>
        dsimp only at hbest
        split at hbest
        · cases hbest
          exact .inl List.mem_cons_self
        · exact .inr hbest

theorem categoryByCode_mem {codes : List String} (h : categoryByCode db codes = some category) :
    category ∈ db.categories.entries := by
  unfold categoryByCode at h
  dsimp only at h
  rcases foldl_best_mem h with hmem | hnone
  · split at hmem
    · exact (List.mem_filter.mp hmem).1
    · exact (List.mem_filter.mp (List.mem_filter.mp hmem).1).1
  · cases hnone

/-- A resolved category is in the table. -/
theorem resolveExpenseCategory_get {categoryId : Option CategoryId} {code : Option String}
    (h : resolveExpenseCategory db categoryId code = .ok category) :
    db.categories.get? category.1 = some category.2 := by
  unfold resolveExpenseCategory at h
  dsimp only at h
  rw [orThrow_eq_ok, Option.orElse_eq_or, Option.or_eq_some_iff] at h
  rcases h with hid | ⟨-, hcode⟩
  · obtain ⟨id, -, hid⟩ := Option.bind_eq_some_iff.mp hid
    obtain ⟨row, hrow, rfl⟩ := Option.map_eq_some_iff.mp hid
    exact hrow
  · obtain ⟨text, -, htext⟩ := Option.bind_eq_some_iff.mp hcode
    exact OrderedMap.get?_eq_some_iff.mpr (categoryByCode_mem htext)

theorem codeOf_accountOfCode {ledger : LedgerDb} {code : String} {a : AccountId}
    (h : accountOfCode ledger code = some a) : ledger.codeOf a = some code := by
  unfold accountOfCode at h
  obtain ⟨⟨a', row⟩, hfind, rfl⟩ := Option.map_eq_some_iff.mp h
  have hcode := List.find?_some hfind
  exact LedgerDb.codeOf_eq_some.mpr
    ⟨row, OrderedMap.get?_eq_some_iff.mpr (List.mem_of_find?_eq_some hfind),
      of_decide_eq_true hcode⟩

/-- The account of an expense depends on the codes of the accounts and on its category. -/
theorem expenseAccountCode_congr (hcodes : ∀ a, db'.ledger.codeOf a = db.ledger.codeOf a)
    (hcategories : db'.categories = db.categories) (expense : Expense) :
    expenseAccountCode db' expense = expenseAccountCode db expense := by
  have hsame : db'.ledger.codeOf = db.ledger.codeOf := funext hcodes
  unfold expenseAccountCode
  rw [hsame, hcategories]

/-- Giving a category the account its code stands for changes the account of no expense. -/
theorem resolveGlAccountIdForCategory_spec (now : Timestamp)
    (hget : db.categories.get? category.1 = some category.2) :
    ∃ categories, (resolveGlAccountIdForCategory db now category).2 =
        { db with categories := categories } ∧
      ∀ expense, expenseAccountCode { db with categories := categories } expense =
        expenseAccountCode db expense := by
  unfold resolveGlAccountIdForCategory
  split
  · exact ⟨db.categories, rfl, fun _ => rfl⟩
  rename_i hnone
  split
  · rename_i a ha
    refine ⟨_, rfl, fun expense => ?_⟩
    have hcode := codeOf_accountOfCode ha
    unfold expenseAccountCode
    dsimp only
    rcases eq_or_ne expense.categoryId category.1 with heq | hne
    · rw [heq, OrderedMap.get?_modify_self, hget]
      simp only [Option.map_some, Option.bind_some, hnone, if_true, hcode, Option.bind_none]
      cases expense.accountId.bind db.ledger.codeOf with
      | none => rfl
      | some own => rfl
    · rw [OrderedMap.get?_modify_of_ne hne]
  · exact ⟨db.categories, rfl, fun _ => rfl⟩

/-! ## Updates -/

/-- What an update of the category leaves alone. -/
structure SameButCategory (row row' : Expense) : Prop where
  expenseNumber : row'.expenseNumber = row.expenseNumber
  amount : row'.amount = row.amount
  status : row'.status = row.status

theorem applyCategory_spec {data : UpdateExpenseData} {row : Expense}
    {updated : Expense × ExpenseDb} (h : applyCategory db now data row = .ok updated) :
    SameButCategory row updated.1 ∧ ∃ categories,
      updated.2 = { db with categories := categories } ∧
        ∀ expense, expenseAccountCode { db with categories := categories } expense =
          expenseAccountCode db expense := by
  unfold applyCategory at h
  split at h
  · simp only [bind_eq_ok, pure_eq_ok] at h
    obtain ⟨category, hcategory, rfl⟩ := h
    exact ⟨⟨rfl, rfl, rfl⟩,
      resolveGlAccountIdForCategory_spec _ (resolveExpenseCategory_get hcategory)⟩
  · rw [pure_eq_ok] at h
    subst h
    exact ⟨⟨rfl, rfl, rfl⟩, db.categories, rfl, fun _ => rfl⟩

/-- An update of an expense. -/
structure RowUpdated (db : ExpenseDb) (now : Timestamp) (id : ExpenseId)
    (data : UpdateExpenseData) (row : Expense) (updated : Expense × ExpenseDb) (db' : ExpenseDb) :
    Prop where
  modifiable : requireModifiable row.status data.status = .ok ()
  category : applyCategory db now data (data.apply row) = .ok updated
  positive : 0 < updated.1.amount
  db_eq : db' = { updated.2 with expenses := updated.2.expenses.set id updated.1 }

theorem updateRow_spec {id : ExpenseId} {data : UpdateExpenseData} {row : Expense}
    (hget : db.expenses.get? id = some row) (h : updateRow db now id data = .ok db') :
    ∃ updated, RowUpdated db now id data row updated db' := by
  unfold updateRow at h
  rw [hget] at h
  simp only [bind_eq_ok, require_eq_ok, pure_eq_ok] at h
  obtain ⟨_, hmodifiable, updated, hcategory, -, -, -, hpositive, rfl⟩ := h
  exact ⟨updated, hmodifiable, hcategory, hpositive, rfl⟩

/-- An update that names no category writes the row alone. -/
theorem updateRow_of_no_category {id : ExpenseId} {data : UpdateExpenseData} {row : Expense}
    (hget : db.expenses.get? id = some row) (hid : data.categoryId = none)
    (hcode : data.category = none) (h : updateRow db now id data = .ok db') :
    requireModifiable row.status data.status = .ok () ∧
      db' = { db with expenses := db.expenses.set id (data.apply row) } := by
  obtain ⟨updated, hmodifiable, hcategory, -, rfl⟩ := updateRow_spec hget h
  rw [applyCategory, hid, hcode] at hcategory
  simp only [Option.isSome_none, Option.filter_none, Bool.false_eq_true, or_self, if_false,
    pure_eq_ok] at hcategory
  subst hcategory
  exact ⟨hmodifiable, rfl⟩

/-- What an insert writes. -/
theorem insertExpense_spec {expenseNumber : String} {data : CreateExpenseData}
    (h : insertExpense db now expenseNumber data = .ok db') :
    ∃ row categories, db' = { db with
        categories := categories
        expenses := db.expenses.set db.nextId row
        nextId := db.nextId + 1 } ∧
      row.status = .DRAFT ∧ 0 < row.amount ∧
      (∀ id other, db.expenses.get? id = some other → other.expenseNumber ≠ row.expenseNumber) ∧
      ∀ expense, expenseAccountCode { db with categories := categories } expense =
        expenseAccountCode db expense := by
  unfold insertExpense at h
  simp only [bind_eq_ok, require_eq_ok, pure_eq_ok] at h
  obtain ⟨category, hcategory, -, hpositive, -, hnumber, rfl⟩ := h
  obtain ⟨categories, hdb, haccounts⟩ :=
    resolveGlAccountIdForCategory_spec now (resolveExpenseCategory_get hcategory)
  rw [hdb]
  refine ⟨_, categories, rfl, rfl, hpositive, fun id other hother => ?_, haccounts⟩
  exact hnumber other (OrderedMap.mem_values_iff.mpr ⟨id, hother⟩)

end SmartErpPos.Expenses
