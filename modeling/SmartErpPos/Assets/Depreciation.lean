/-
  Assets/Depreciation.lean --- what a month does to one asset.

  Source: `modules/asset-accounting/assetService.ts` (`calculateMonthlyDepreciation`,
  `runMonthlyDepreciation`).

  A call goes through all assets that are due.  Seen from one of them it does one of two
  things: it lowers the book value by the amount of the month and writes the month into the
  schedule, or it leaves the asset as it is, because nothing is left to depreciate, the asset
  is not in use yet, or the month is in the schedule already.
-/
import SmartErpPos.Assets.RegisterRuns

set_option autoImplicit false

namespace SmartErpPos.Assets

open SmartErpPos.Lib SmartErpPos.Ledger

/-- A call for a month. -/
structure MonthCall where
  env : AssetEnv
  year : ℕ
  month : ℕ
  userId : UserId

/-- A successful call; nothing where the call fails. -/
def MonthCall.exec (db : AssetDb) (call : MonthCall) : Option AssetDb :=
  (runMonthlyDepreciation call.env db call.year call.month call.userId).toOption

/-- The months in the schedule of an asset. -/
def AssetDb.monthsOf (db : AssetDb) (id : AssetId) : List (ℕ × ℕ) :=
  (db.scheduleOf id).map fun entry => (entry.periodYear, entry.periodMonth)

/-- The asset is in use by the 28th of the month. -/
def FixedAsset.inUse (asset : FixedAsset) (month : ℕ × ℕ) : Bool :=
  if h : 1 ≤ month.2 ∧ month.2 ≤ 12 then
    asset.depreciationStartDate.le ⟨month.1, month.2, 28, h⟩
  else false

/-- The month is charged. -/
structure FixedAsset.IsDue (asset : FixedAsset) (scheduled : List (ℕ × ℕ)) (month : ℕ × ℕ) :
    Prop where
  active : asset.status = .ACTIVE
  left : asset.salvageValue < asset.netBookValue
  inUse : asset.inUse month = true
  amount : 0 < calculateMonthlyDepreciation asset
  fresh : month ∉ scheduled

/-- One asset, with the category and the schedule the database has for it. -/
structure Shows (db : AssetDb) (id : AssetId) (asset : FixedAsset) (scheduled : List (ℕ × ℕ)) :
    Prop where
  row : db.assets.get? id = some asset
  category : (db.categories.get? asset.categoryId).isSome
  schedule : db.monthsOf id = scheduled

section Step

variable {env : AssetEnv} {pool : LedgerDb} {date : IsoDate} {userId : UserId}
  {db db' : AssetDb} {row : AssetId × FixedAsset × AssetCategory} {id : AssetId}
  {asset : FixedAsset} {scheduled : List (ℕ × ℕ)}

theorem isProcessed_iff : isProcessed db id date = true ↔ (date.year, date.month) ∈ db.monthsOf id := by
  unfold isProcessed AssetDb.monthsOf AssetDb.scheduleOf
  rw [List.any_eq_true, List.mem_map]
  constructor
  · rintro ⟨entry, hmem, hentry⟩
    simp only [Bool.and_eq_true, decide_eq_true_eq] at hentry
    exact ⟨entry, List.mem_filter.mpr ⟨hmem, decide_eq_true hentry.1.1⟩,
      Prod.ext hentry.1.2 hentry.2⟩
  · rintro ⟨entry, hentry, hmonth⟩
    obtain ⟨hmem, hid⟩ := List.mem_filter.mp hentry
    refine ⟨entry, hmem, ?_⟩
    simp only [Bool.and_eq_true, decide_eq_true_eq]
    exact ⟨⟨of_decide_eq_true hid, congrArg Prod.fst hmonth⟩, congrArg Prod.snd hmonth⟩

/-- The months of an asset after one is recorded. -/
theorem monthsOf_recordDepreciation (db : AssetDb) (date : IsoDate) (id : AssetId)
    (asset : FixedAsset) (amount : ℚ) (t : TransactionId) (n : AssetId) :
    (recordDepreciation db date id asset amount t).monthsOf n =
      db.monthsOf n ++ if n = id then [(date.year, date.month)] else [] := by
  unfold AssetDb.monthsOf AssetDb.scheduleOf recordDepreciation
  dsimp only
  rw [List.filter_append, List.map_append]
  congr 1
  by_cases hn : n = id
  · simp [hn]
  · simp [hn, Ne.symm hn]

/-- One asset of a month: nothing where nothing is charged, and else the entry and the row. -/
theorem depreciateAsset_eq_ok (h : depreciateAsset env pool date userId db row = .ok db') :
    (db' = db ∧ (calculateMonthlyDepreciation row.2.1 ≤ 0 ∨
        (date.year, date.month) ∈ db.monthsOf row.1)) ∨
      (0 < calculateMonthlyDepreciation row.2.1 ∧ (date.year, date.month) ∉ db.monthsOf row.1 ∧
        ∃ ledger t, db' = recordDepreciation { db with ledger := ledger } date row.1 row.2.1
          (calculateMonthlyDepreciation row.2.1) t) := by
  unfold depreciateAsset at h
  dsimp only at h
  split at h
  · rename_i hamount
    cases h
    exact .inl ⟨rfl, .inl hamount⟩
  · rename_i hamount
    split at h
    · rename_i hprocessed
      cases h
      exact .inl ⟨rfl, .inr (isProcessed_iff.mp hprocessed)⟩
    · rename_i hprocessed
      simp only [bind_eq_ok, pure_eq_ok, ofLedger_eq_ok] at h
      obtain ⟨out, -, rfl⟩ := h
      exact .inr ⟨not_le.mp hamount, fun hmem => hprocessed (isProcessed_iff.mpr hmem), _, _, rfl⟩

/-- Another asset's month leaves this one as it is. -/
theorem Shows.of_other (hshows : Shows db id asset scheduled) (hother : id ≠ row.1)
    (h : depreciateAsset env pool date userId db row = .ok db') : Shows db' id asset scheduled := by
  rcases depreciateAsset_eq_ok h with ⟨rfl, -⟩ | ⟨-, -, ledger, t, rfl⟩
  · exact hshows
  · refine ⟨(OrderedMap.get?_modify_of_ne hother _ _).trans hshows.row, hshows.category, ?_⟩
    rw [monthsOf_recordDepreciation, if_neg hother, List.append_nil]
    exact hshows.schedule

theorem Shows.of_others {rows : List (AssetId × FixedAsset × AssetCategory)}
    (hshows : Shows db id asset scheduled) (hothers : ∀ row ∈ rows, id ≠ row.1)
    (h : rows.foldlM (depreciateAsset env pool date userId) db = .ok db') :
    Shows db' id asset scheduled := by
  induction rows generalizing db with
  | nil =>
    cases h
    exact hshows
  | cons row rest ih =>
    rw [List.foldlM_cons, bind_eq_ok] at h
    obtain ⟨next, hfirst, hrest⟩ := h
    obtain ⟨hne, hlater⟩ := List.forall_mem_cons.mp hothers
    exact ih (hshows.of_other hne hfirst) hlater hrest

/-- The asset's own month. -/
theorem Shows.of_own {category : AssetCategory} (hshows : Shows db id asset scheduled)
    (h : depreciateAsset env pool date userId db (id, asset, category) = .ok db') :
    (0 < calculateMonthlyDepreciation asset ∧ (date.year, date.month) ∉ scheduled ∧
        Shows db' id (depreciated asset (calculateMonthlyDepreciation asset))
          (scheduled ++ [(date.year, date.month)])) ∨
      (¬ (0 < calculateMonthlyDepreciation asset ∧ (date.year, date.month) ∉ scheduled) ∧
        Shows db' id asset scheduled) := by
  rcases depreciateAsset_eq_ok h with ⟨rfl, hnone⟩ | ⟨hamount, hfresh, ledger, t, rfl⟩
  · refine .inr ⟨?_, hshows⟩
    rw [hshows.schedule] at hnone
    rintro ⟨hamount, hfresh⟩
    exact hnone.elim (fun hle => absurd hamount (not_lt.mpr hle)) fun hmem => hfresh hmem
  · rw [hshows.schedule] at hfresh
    refine .inl ⟨hamount, hfresh, ?_, hshows.category, ?_⟩
    · exact (congrArg (OrderedMap.get? · id) (OrderedMap.modify_eq_set hshows.row _)).trans
        (OrderedMap.get?_set_self _ _ _)
    · rw [monthsOf_recordDepreciation, if_pos rfl]
      exact congrArg (· ++ _) hshows.schedule

theorem Shows.of_rows {rows : List (AssetId × FixedAsset × AssetCategory)} {category : AssetCategory}
    (hshows : Shows db id asset scheduled) (hnodup : (rows.map Prod.fst).Nodup)
    (hown : (id, asset, category) ∈ rows)
    (h : rows.foldlM (depreciateAsset env pool date userId) db = .ok db') :
    (0 < calculateMonthlyDepreciation asset ∧ (date.year, date.month) ∉ scheduled ∧
        Shows db' id (depreciated asset (calculateMonthlyDepreciation asset))
          (scheduled ++ [(date.year, date.month)])) ∨
      (¬ (0 < calculateMonthlyDepreciation asset ∧ (date.year, date.month) ∉ scheduled) ∧
        Shows db' id asset scheduled) := by
  induction rows generalizing db with
  | nil => cases hown
  | cons row rest ih =>
    rw [List.foldlM_cons, bind_eq_ok] at h
    obtain ⟨next, hfirst, hrest⟩ := h
    rw [List.map_cons, List.nodup_cons] at hnodup
    rcases List.mem_cons.mp hown with rfl | hlater
    · have hothers : ∀ row ∈ rest, id ≠ row.1 := by
        rintro row hrow rfl
        exact hnodup.1 (List.mem_map.mpr ⟨row, hrow, rfl⟩)
      rcases hshows.of_own hfirst with ⟨hamount, hfresh, hnext⟩ | ⟨hnone, hnext⟩
      · exact .inl ⟨hamount, hfresh, hnext.of_others hothers hrest⟩
      · exact .inr ⟨hnone, hnext.of_others hothers hrest⟩
    · have hother : id ≠ row.1 := by
        rintro rfl
        exact hnodup.1 (List.mem_map.mpr ⟨_, hlater, rfl⟩)
      exact ih (hshows.of_other hother hfirst) hnodup.2 hlater hrest

end Step

section

variable {db db' : AssetDb} {call : MonthCall} {id : AssetId} {asset : FixedAsset}
  {scheduled : List (ℕ × ℕ)}

/-- What a successful call does to one asset. -/
theorem Shows.of_month (h : call.exec db = some db') (hshows : Shows db id asset scheduled) :
    (asset.IsDue scheduled (call.year, call.month) ∧
        Shows db' id (depreciated asset (calculateMonthlyDepreciation asset))
          (scheduled ++ [(call.year, call.month)])) ∨
      (¬ asset.IsDue scheduled (call.year, call.month) ∧ Shows db' id asset scheduled) := by
  have h := toOption_eq_some h
  unfold runMonthlyDepreciation at h
  split at h
  · rename_i hvalid
    dsimp only at h
    have hinUse : asset.inUse (call.year, call.month) =
        asset.depreciationStartDate.le ⟨call.year, call.month, 28, hvalid⟩ := dif_pos hvalid
    obtain ⟨category, hcategory⟩ := Option.isSome_iff_exists.mp hshows.category
    by_cases hselected : asset.status = .ACTIVE ∧ asset.salvageValue < asset.netBookValue ∧
        asset.depreciationStartDate.le ⟨call.year, call.month, 28, hvalid⟩ = true
    · have hown : (id, asset, category) ∈
          depreciableAssets db ⟨call.year, call.month, 28, hvalid⟩ := by
        refine List.mem_filterMap.mpr ⟨(id, asset), OrderedMap.get?_eq_some_iff.mp hshows.row, ?_⟩
        rw [if_pos hselected, hcategory]
        rfl
      rcases hshows.of_rows (nodup_depreciableAssets _ _) hown h with
        ⟨hamount, hfresh, hnext⟩ | ⟨hnone, hnext⟩
      · exact .inl ⟨⟨hselected.1, hselected.2.1, hinUse.trans hselected.2.2, hamount, hfresh⟩, hnext⟩
      · exact .inr ⟨fun hdue => hnone ⟨hdue.amount, hdue.fresh⟩, hnext⟩
    · refine .inr ⟨fun hdue => hselected ⟨hdue.active, hdue.left, hinUse.symm.trans hdue.inUse⟩, ?_⟩
      refine hshows.of_others (fun row hrow => ?_) h
      rintro rfl
      -- A row that was selected is this asset, which was not.
      obtain ⟨e, he, hrow⟩ := List.mem_filterMap.mp hrow
      split at hrow
      · rename_i hsel
        obtain ⟨other, -, rfl⟩ := Option.map_eq_some_iff.mp hrow
        have hget := OrderedMap.get?_eq_some_iff.mpr he
        have hsame := Option.some.inj (hget.symm.trans hshows.row)
        rw [hsame] at hsel
        exact hselected hsel
      · cases hrow
  · cases h

end

end SmartErpPos.Assets
