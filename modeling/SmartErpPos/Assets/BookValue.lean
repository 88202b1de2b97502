/-
  Assets/BookValue.lean --- the book value of an asset over the months.

  Source: `modules/asset-accounting/assetService.ts` (`calculateMonthlyDepreciation`,
  `runMonthlyDepreciation`).

  A straight-line asset is charged the same quotient every month, and the register stores it
  rounded.  Nothing stops the charge at the salvage value: where the rounded amounts do not
  meet it after whole months, a residue is left at the end of the life, or a further month
  takes the book value below it.  The declining-balance branch does stop there.  By either
  method an amount that ends in half a cent is rounded up twice, once in what is accumulated
  and once in what is left.
-/
import SmartErpPos.Assets.Depreciation

set_option autoImplicit false

namespace SmartErpPos.Assets

open SmartErpPos.Lib SmartErpPos.Ledger

/-! ## The property and its condition -/

/-- The book value after a number of months: not below the salvage value, the cost less what is
accumulated, and by the straight line the salvage value once the life is over. -/
structure BookValueHolds (months : ℕ) (row : FixedAsset) : Prop where
  floor : row.salvageValue ≤ row.netBookValue
  difference : row.netBookValue = row.acquisitionCost - row.accumulatedDepreciation
  planned : row.depreciationMethod = .STRAIGHT_LINE → row.usefulLifeMonths ≤ months →
    row.netBookValue = row.salvageValue

/-- An equal part of what is to be depreciated. -/
def equalShare (row : FixedAsset) : ℚ :=
  (row.acquisitionCost.toRat - row.salvageValue.toRat) / row.usefulLifeMonths

/-- Twice the equal part of the book value. -/
def doubleShare (row : FixedAsset) : ℚ := row.netBookValue.toRat * (2 / row.usefulLifeMonths)

/-- The equal parts do not end in half a cent, and in cents a whole number of them, within the
life, come to what is to be depreciated. -/
def SharesMeet (row : FixedAsset) : Prop :=
  ¬ Numeric.IsTie 2 (equalShare row) ∧ ∃ n : ℕ, (n : ℤ) ≤ row.usefulLifeMonths ∧
    n • (Numeric.ofRat (equalShare row) : Cents) = row.acquisitionCost - row.salvageValue

/-- Twice the equal part does not end in half a cent, or it reaches the salvage value. -/
def ShareExact (row : FixedAsset) : Prop :=
  ¬ Numeric.IsTie 2 (doubleShare row) ∨
    row.netBookValue.toRat - row.salvageValue.toRat ≤ doubleShare row

/-- The condition on a call, for one asset: by the straight line the shares meet; by the declining
balance the share is exact where the month is still to be charged. -/
def KeepsBookValue (id : AssetId) (db : AssetDb) (call : MonthCall) : Prop :=
  ∀ row, db.assets.get? id = some row → match row.depreciationMethod with
    | .STRAIGHT_LINE => SharesMeet row
    | .DECLINING_BALANCE => row.inUse (call.year, call.month) = true →
        (call.year, call.month) ∉ db.monthsOf id → row.salvageValue < row.netBookValue →
          ShareExact row

/-- An asset that was just acquired, with a category that exists. -/
structure NewAsset (db : AssetDb) (id : AssetId) (asset : FixedAsset) : Prop where
  shows : Shows db id asset []
  active : asset.status = .ACTIVE
  accumulated : asset.accumulatedDepreciation = 0
  bookValue : asset.netBookValue = asset.acquisitionCost
  cost : asset.salvageValue ≤ asset.acquisitionCost
  salvage : 0 ≤ asset.salvageValue
  life : 1 ≤ asset.usefulLifeMonths

/-- The months of the calls of a run in which the asset is in use. -/
def monthsRun (asset : FixedAsset) (ts : List (AssetDb × MonthCall × AssetDb)) : List (ℕ × ℕ) :=
  (ts.map fun t => (t.2.1.year, t.2.1.month)).filter asset.inUse

/-! ## One month -/

section

variable {row : FixedAsset} {amount : ℚ}

/-- Off the ties what is accumulated gains what the book value loses. -/
theorem depreciated_of_not_tie (hdifference : row.netBookValue =
      row.acquisitionCost - row.accumulatedDepreciation) (htie : ¬ Numeric.IsTie 2 amount) :
    (depreciated row amount).accumulatedDepreciation = row.accumulatedDepreciation + .ofRat amount ∧
      (depreciated row amount).netBookValue = row.netBookValue - .ofRat amount := by
  refine ⟨Numeric.ofRat_toRat_add_of_not_tie htie, ?_⟩
  change Numeric.ofRat (_ - (_ + amount)) = _
  rw [← sub_sub, ← Numeric.toRat_sub, ← hdifference, Numeric.ofRat_toRat_sub_of_not_tie htie]

theorem depreciated_difference (hdifference : row.netBookValue =
      row.acquisitionCost - row.accumulatedDepreciation) (htie : ¬ Numeric.IsTie 2 amount) :
    (depreciated row amount).netBookValue =
      (depreciated row amount).acquisitionCost - (depreciated row amount).accumulatedDepreciation := by
  obtain ⟨haccumulated, hvalue⟩ := depreciated_of_not_tie hdifference htie
  rw [haccumulated, hvalue, hdifference, sub_sub]
  rfl

theorem straight_amount (hstatus : row.status = .ACTIVE) (hleft : row.salvageValue < row.netBookValue)
    (hmethod : row.depreciationMethod = .STRAIGHT_LINE) (hlife : 1 ≤ row.usefulLifeMonths) :
    calculateMonthlyDepreciation row = equalShare row := by
  have hne : (row.usefulLifeMonths : ℚ) ≠ 0 := by
    have hpos : 0 < row.usefulLifeMonths := hlife
    exact_mod_cast hpos.ne'
  unfold calculateMonthlyDepreciation moneyDivide equalShare
  rw [if_neg (not_not.mpr hstatus), if_neg (not_le.mpr hleft), hmethod]
  dsimp only
  rw [if_neg hne]

theorem declining_amount (hstatus : row.status = .ACTIVE)
    (hleft : row.salvageValue < row.netBookValue)
    (hmethod : row.depreciationMethod = .DECLINING_BALANCE) :
    calculateMonthlyDepreciation row =
      max 0 (min (doubleShare row) (row.netBookValue.toRat - row.salvageValue.toRat)) := by
  unfold calculateMonthlyDepreciation doubleShare
  rw [if_neg (not_not.mpr hstatus), if_neg (not_le.mpr hleft), hmethod]

/-- An exact share is charged without a tie. -/
theorem declining_not_tie (hstatus : row.status = .ACTIVE)
    (hleft : row.salvageValue < row.netBookValue)
    (hmethod : row.depreciationMethod = .DECLINING_BALANCE) (hexact : ShareExact row) :
    ¬ Numeric.IsTie 2 (calculateMonthlyDepreciation row) := by
  rw [declining_amount hstatus hleft hmethod, ← Numeric.toRat_sub]
  have hcents : ¬ Numeric.IsTie 2 (row.netBookValue - row.salvageValue).toRat :=
    Numeric.not_isTie_toRat _
  have hzero : ¬ Numeric.IsTie 2 0 := by
    rw [← Numeric.toRat_zero]
    exact Numeric.not_isTie_toRat _
  unfold ShareExact at hexact
  rw [← Numeric.toRat_sub] at hexact
  rcases max_choice 0 (min (doubleShare row) (row.netBookValue - row.salvageValue).toRat) with h | h
  · rwa [h]
  · rw [h]
    rcases le_total (doubleShare row) (row.netBookValue - row.salvageValue).toRat with hle | hle
    · rw [min_eq_left hle]
      rcases hexact with htie | hreach
      · exact htie
      · rwa [le_antisymm hle hreach]
    · rwa [min_eq_right hle]

theorem declining_le (hstatus : row.status = .ACTIVE) (hleft : row.salvageValue < row.netBookValue)
    (hmethod : row.depreciationMethod = .DECLINING_BALANCE) :
    (.ofRat (calculateMonthlyDepreciation row) : Cents) ≤ row.netBookValue - row.salvageValue := by
  rw [declining_amount hstatus hleft hmethod, ← Numeric.toRat_sub]
  refine (Numeric.ofRat_mono (max_le ?_ (min_le_right _ _))).trans_eq (Numeric.ofRat_toRat _)
  exact Numeric.toRat_nonneg_iff.mpr (sub_nonneg.mpr hleft.le)

end

/-! ## Runs -/

section Runs

variable {start db : AssetDb} {ts : List (AssetDb × MonthCall × AssetDb)} {id : AssetId}
  {asset : FixedAsset} {scheduled : List (ℕ × ℕ)}

/-- What holds of an asset, its schedule and the months of the calls so far, and is kept by a
charged month and by a month that charges nothing, holds at the end of a run. -/
theorem holds_over_months {P : List (ℕ × ℕ) → FixedAsset → List (ℕ × ℕ) → Prop}
    {K : FixedAsset → List (ℕ × ℕ) → ℕ × ℕ → Prop}
    (hdue : ∀ seen row scheduled month, P seen row scheduled → K row scheduled month →
      row.IsDue scheduled month →
        P (seen ++ [month].filter row.inUse) (depreciated row (calculateMonthlyDepreciation row))
          (scheduled ++ [month]))
    (hnone : ∀ seen row scheduled month, P seen row scheduled → ¬ row.IsDue scheduled month →
      P (seen ++ [month].filter row.inUse) row scheduled)
    (hrun : Run (fun s call s' => MonthCall.exec s call = some s') start ts db)
    (hkeeps : ∀ t ∈ ts, ∀ row scheduled, Shows t.1 id row scheduled →
      K row scheduled (t.2.1.year, t.2.1.month))
    (hshows : Shows start id asset scheduled) (seen : List (ℕ × ℕ)) (h : P seen asset scheduled) :
    ∃ row scheduled', Shows db id row scheduled' ∧ P (seen ++ monthsRun asset ts) row scheduled' := by
  induction hrun generalizing asset scheduled seen with
  | nil s =>
    refine ⟨asset, scheduled, hshows, ?_⟩
    rw [monthsRun, List.map_nil, List.filter_nil, List.append_nil]
    exact h
  | @cons s s' s'' call rest hs hrest ih =>
    obtain ⟨hfirst, hlater⟩ := List.forall_mem_cons.mp hkeeps
    have hsplit : ∀ row : FixedAsset, monthsRun row ((s, call, s') :: rest) =
        [(call.year, call.month)].filter row.inUse ++ monthsRun row rest := by
      intro row
      rw [monthsRun, List.map_cons, ← List.singleton_append, List.filter_append]
      rfl
    rw [hsplit, ← List.append_assoc]
    rcases Shows.of_month hs hshows with ⟨hcharged, hnext⟩ | ⟨huncharged, hnext⟩
    · exact ih hlater hnext _ (hdue _ _ _ _ h (hfirst _ _ hshows) hcharged)
    · exact ih hlater hnext _ (hnone _ _ _ _ h huncharged)

/-! ## The declining balance -/

/-- Not below the salvage value, and the cost less what is accumulated. -/
structure Declining (row : FixedAsset) : Prop where
  method : row.depreciationMethod = .DECLINING_BALANCE
  floor : row.salvageValue ≤ row.netBookValue
  difference : row.netBookValue = row.acquisitionCost - row.accumulatedDepreciation

theorem Declining.depreciated {row : FixedAsset} (h : Declining row) (hstatus : row.status = .ACTIVE)
    (hleft : row.salvageValue < row.netBookValue) (hexact : ShareExact row) :
    Declining (depreciated row (calculateMonthlyDepreciation row)) := by
  have htie := declining_not_tie hstatus hleft h.method hexact
  refine ⟨h.method, ?_, depreciated_difference h.difference htie⟩
  rw [(depreciated_of_not_tie h.difference htie).2]
  exact le_sub_comm.mp (declining_le hstatus hleft h.method)

/-! ## The straight line -/

/-- After some months of a plan of `n` charges: one charge for each month in the schedule, and until
the salvage value is met every month of the calls is in it. -/
structure Straight (share : Cents) (n : ℕ) (seen : List (ℕ × ℕ)) (row : FixedAsset)
    (scheduled : List (ℕ × ℕ)) : Prop where
  method : row.depreciationMethod = .STRAIGHT_LINE
  active : row.status = .ACTIVE
  life : 1 ≤ row.usefulLifeMonths
  notTie : ¬ Numeric.IsTie 2 (equalShare row)
  share_eq : Numeric.ofRat (equalShare row) = share
  meets : n • share = row.acquisitionCost - row.salvageValue
  cost : row.salvageValue ≤ row.acquisitionCost
  value : row.netBookValue = row.acquisitionCost - scheduled.length • share
  difference : row.netBookValue = row.acquisitionCost - row.accumulatedDepreciation
  within : scheduled.length ≤ n
  scheduled : row.netBookValue ≠ row.salvageValue → ∀ month ∈ seen, month ∈ scheduled

variable {share : Cents} {n : ℕ} {seen : List (ℕ × ℕ)} {row : FixedAsset} {month : ℕ × ℕ}

theorem Straight.share_nonneg (h : Straight share n seen row scheduled) : 0 ≤ share := by
  have hcost : (0 : ℚ) ≤ row.acquisitionCost.toRat - row.salvageValue.toRat := by
    rw [← Numeric.toRat_sub, Numeric.toRat_nonneg_iff]
    exact sub_nonneg.mpr h.cost
  have hlife : (0 : ℚ) ≤ row.usefulLifeMonths := by
    have hpos : 0 ≤ row.usefulLifeMonths := le_trans (by decide) h.life
    exact_mod_cast hpos
  rw [← h.share_eq]
  exact Numeric.ofRat_nonneg (div_nonneg hcost hlife)

theorem Straight.floor (h : Straight share n seen row scheduled) :
    row.salvageValue ≤ row.netBookValue := by
  have hle : scheduled.length • share ≤ n • share := nsmul_le_nsmul_left h.share_nonneg h.within
  rw [h.meets] at hle
  rw [h.value]
  exact le_sub_comm.mp hle

/-- While something is left the plan is not over. -/
theorem Straight.length_lt (h : Straight share n seen row scheduled)
    (hleft : row.salvageValue < row.netBookValue) : scheduled.length < n := by
  refine lt_of_le_of_ne h.within fun heq => hleft.ne ?_
  rw [h.value, heq, h.meets, sub_sub_cancel]

theorem Straight.equalShare_pos (h : Straight share n seen row scheduled)
    (hleft : row.salvageValue < row.netBookValue) : 0 < equalShare row := by
  have hle : row.netBookValue ≤ row.acquisitionCost := by
    rw [h.value]
    exact sub_le_self _ (nsmul_nonneg h.share_nonneg _)
  have hcost : (0 : ℚ) < row.acquisitionCost.toRat - row.salvageValue.toRat := by
    rw [← Numeric.toRat_sub, Numeric.toRat_pos_iff]
    exact sub_pos.mpr (hleft.trans_le hle)
  have hlife : (0 : ℚ) < row.usefulLifeMonths := by
    have hpos : 0 < row.usefulLifeMonths := h.life
    exact_mod_cast hpos
  exact div_pos hcost hlife

theorem Straight.charged (h : Straight share n seen row scheduled) (hdue : row.IsDue scheduled month) :
    Straight share n (seen ++ [month].filter row.inUse)
      (depreciated row (calculateMonthlyDepreciation row)) (scheduled ++ [month]) := by
  rw [straight_amount h.active hdue.left h.method h.life]
  obtain ⟨-, hvalue⟩ := depreciated_of_not_tie h.difference h.notTie
  refine ⟨h.method, h.active, h.life, h.notTie, h.share_eq, h.meets, h.cost, ?_,
    depreciated_difference h.difference h.notTie, ?_, ?_⟩
  · rw [hvalue, h.share_eq, h.value, List.length_append, List.length_singleton, succ_nsmul, sub_sub]
    rfl
  · rw [List.length_append, List.length_singleton]
    exact h.length_lt hdue.left
  · intro _ m hm
    rcases List.mem_append.mp hm with hold | hnew
    · exact List.mem_append_left _ (h.scheduled hdue.left.ne' m hold)
    · exact List.mem_append_right _ (List.mem_of_mem_filter hnew)

theorem Straight.uncharged (h : Straight share n seen row scheduled)
    (hnone : ¬ row.IsDue scheduled month) :
    Straight share n (seen ++ [month].filter row.inUse) row scheduled := by
  refine { h with scheduled := fun hne m hm => ?_ }
  rcases List.mem_append.mp hm with hold | hnew
  · exact h.scheduled hne m hold
  · obtain ⟨hmonth, hinUse⟩ := List.mem_filter.mp hnew
    rw [List.mem_singleton.mp hmonth] at hinUse ⊢
    have hleft : row.salvageValue < row.netBookValue := lt_of_le_of_ne h.floor hne.symm
    by_contra hfresh
    refine hnone ⟨h.active, hleft, hinUse, ?_, hfresh⟩
    rw [straight_amount h.active hleft h.method h.life]
    exact h.equalShare_pos hleft

/-- Where every month of the calls is in the schedule, as many different months as the life has are
the whole plan. -/
theorem Straight.planned (h : Straight share n seen row scheduled) {months : ℕ}
    (hmonths : months ≤ seen.toFinset.card) (hwithin : (n : ℤ) ≤ row.usefulLifeMonths)
    (hover : row.usefulLifeMonths ≤ months) : row.netBookValue = row.salvageValue := by
  by_contra hne
  have hleft : row.salvageValue < row.netBookValue := lt_of_le_of_ne h.floor (Ne.symm hne)
  have hsub : seen.toFinset ⊆ scheduled.toFinset := fun m hm =>
    List.mem_toFinset.mpr (h.scheduled hne m (List.mem_toFinset.mp hm))
  have hcard : seen.toFinset.card ≤ scheduled.length :=
    (Finset.card_le_card hsub).trans (List.toFinset_card_le scheduled)
  have hlength := h.length_lt hleft
  omega

end Runs

/-- In every run of months all of whose calls meet the condition, the book value of an asset stays on
or above the salvage value and is the cost less what is accumulated; by the straight line it is the
salvage value once the calls were for as many different months as the life has. -/
theorem bookValue_holds {start db : AssetDb} {ts : List (AssetDb × MonthCall × AssetDb)}
    {id : AssetId} {asset : FixedAsset} (hnew : NewAsset start id asset)
    (hrun : Run (fun s call s' => MonthCall.exec s call = some s') start ts db)
    (hkeeps : ∀ t ∈ ts, KeepsBookValue id t.1 t.2.1) :
    ∃ row, db.assets.get? id = some row ∧
      BookValueHolds (monthsRun asset ts).toFinset.card row := by
  have hdifference : asset.netBookValue = asset.acquisitionCost - asset.accumulatedDepreciation := by
    rw [hnew.bookValue, hnew.accumulated, sub_zero]
  have hfloor : asset.salvageValue ≤ asset.netBookValue := hnew.bookValue ▸ hnew.cost
  cases hmethod : asset.depreciationMethod with
  | STRAIGHT_LINE =>
    cases hrun with
    | nil =>
      refine ⟨asset, hnew.shows.row, hfloor, hdifference, fun _ hover => ?_⟩
      have hlife := hnew.life
      simp only [monthsRun, List.map_nil, List.filter_nil, List.toFinset_nil, Finset.card_empty] at hover
      omega
    | @cons _ s' _ call rest hs hrest =>
      -- The plan is that of the asset as it was acquired: no month changes what it depends on.
      have hmeet := (List.forall_mem_cons.mp hkeeps).1 asset hnew.shows.row
      rw [hmethod] at hmeet
      obtain ⟨hnotTie, n, hwithin, hmeets⟩ := hmeet
      have hstart : Straight (.ofRat (equalShare asset)) n [] asset [] :=
        { method := hmethod
          active := hnew.active
          life := hnew.life
          notTie := hnotTie
          share_eq := rfl
          meets := hmeets
          cost := hnew.cost
          value := by rw [hnew.bookValue, List.length_nil, zero_nsmul, sub_zero]
          difference := hdifference
          within := Nat.zero_le n
          scheduled := fun _ m hm => absurd hm List.not_mem_nil }
      obtain ⟨row, scheduled, hshows, hend, hlife⟩ := holds_over_months
        (P := fun seen row scheduled => Straight (.ofRat (equalShare asset)) n seen row scheduled ∧
          row.usefulLifeMonths = asset.usefulLifeMonths) (K := fun _ _ _ => True)
        (fun _ _ _ _ h _ hdue => ⟨h.1.charged hdue, h.2⟩)
        (fun _ _ _ _ h hnone => ⟨h.1.uncharged hnone, h.2⟩)
        (Run.cons hs hrest) (fun _ _ _ _ _ => trivial) hnew.shows [] ⟨hstart, rfl⟩
      rw [List.nil_append] at hend
      refine ⟨row, hshows.row, hend.floor, hend.difference, fun _ hover => ?_⟩
      exact hend.planned le_rfl (hlife ▸ hwithin) hover
  | DECLINING_BALANCE =>
    have hexact : ∀ t ∈ ts, ∀ row scheduled, Shows t.1 id row scheduled →
        row.depreciationMethod = .DECLINING_BALANCE →
          row.inUse (t.2.1.year, t.2.1.month) = true → (t.2.1.year, t.2.1.month) ∉ scheduled →
            row.salvageValue < row.netBookValue → ShareExact row := by
      intro t ht row scheduled hshows hrow
      have hkeep := hkeeps t ht row hshows.row
      rw [hrow, hshows.schedule] at hkeep
      exact hkeep
    obtain ⟨row, scheduled, hshows, hend, -⟩ := holds_over_months
      (P := fun _ row _ => Declining row ∧ row.status = .ACTIVE)
      (K := fun row scheduled month => row.depreciationMethod = .DECLINING_BALANCE →
        row.inUse month = true → month ∉ scheduled → row.salvageValue < row.netBookValue →
          ShareExact row)
      (fun _ _ _ _ h hkeep hdue => ⟨h.1.depreciated h.2 hdue.left
        (hkeep h.1.method hdue.inUse hdue.fresh hdue.left), h.2⟩)
      (fun _ _ _ _ h _ => h) hrun hexact hnew.shows [] ⟨⟨hmethod, hfloor, hdifference⟩, hnew.active⟩
    refine ⟨row, hshows.row, hend.floor, hend.difference, fun hstraight => ?_⟩
    rw [hend.method] at hstraight
    cases hstraight

/-! ## One machine -/

/-- A workshop whose category depreciates by a method, with one machine taken over at its cost. -/
def workshopWith (method : DepreciationMethod) (acquisitionCost : ℚ) (usefulLifeMonths : ℤ) : AssetDb :=
  { workshop with
    categories := .set .empty 7 ⟨60, method, "1500", DEPRECIATION, ACCUMULATED_DEPRECIATION⟩ }.after
      (machine acquisitionCost usefulLifeMonths .OPENING none)

/-- The row of the machine. -/
def press (method : DepreciationMethod) (acquisitionCost : ℚ) (usefulLifeMonths : ℤ) : FixedAsset where
  assetNumber := "FA-2026-0001"
  name := "Press"
  categoryId := 7
  acquisitionCost := .ofRat acquisitionCost
  salvageValue := 0
  usefulLifeMonths := usefulLifeMonths
  depreciationMethod := method
  depreciationStartDate := january
  accumulatedDepreciation := 0
  netBookValue := .ofRat acquisitionCost
  status := .ACTIVE

def MonthCall.after (db : AssetDb) (call : MonthCall) : AssetDb := (call.exec db).getD db

/-- The calls for the first months of the year, one after the other. -/
def firstMonths (n : ℕ) : List MonthCall :=
  (List.range n).map fun month => ⟨newYear, 2026, month + 1, 8⟩

/-- The steps of these calls, and where they lead. -/
def monthSteps (db : AssetDb) (n : ℕ) : List (AssetDb × MonthCall × AssetDb) :=
  transitions MonthCall.after db (firstMonths n)

def afterMonths (db : AssetDb) (n : ℕ) : AssetDb := (firstMonths n).foldl MonthCall.after db

theorem run_monthSteps {db : AssetDb} {n : ℕ}
    (h : ∀ t ∈ monthSteps db n, (MonthCall.exec t.1 t.2.1).isSome) :
    Run (fun s call s' => MonthCall.exec s call = some s') db (monthSteps db n) (afterMonths db n) :=
  Run.of_exec h

theorem newAsset_press {method : DepreciationMethod} {cost : ℚ} {life : ℤ}
    (hrow : (workshopWith method cost life).assets.get? 10 = some (press method cost life))
    (hschedule : (workshopWith method cost life).monthsOf 10 = [])
    (hcategory : ((workshopWith method cost life).categories.get? 7).isSome)
    (hcost : (0 : Cents) ≤ .ofRat cost) (hlife : 1 ≤ life) :
    NewAsset (workshopWith method cost life) 10 (press method cost life) where
  shows := ⟨hrow, hcategory, hschedule⟩
  active := rfl
  accumulated := rfl
  bookValue := rfl
  cost := hcost
  salvage := le_rfl
  life := hlife

/-- A machine of 1200.00 over 12 months, depreciated for January. -/
theorem bookValue_holds_january :
    (NewAsset (workshopWith .STRAIGHT_LINE 1200 12) 10 (press .STRAIGHT_LINE 1200 12) ∧
      Run (fun s call s' => MonthCall.exec s call = some s') (workshopWith .STRAIGHT_LINE 1200 12)
        (monthSteps (workshopWith .STRAIGHT_LINE 1200 12) 1)
        (afterMonths (workshopWith .STRAIGHT_LINE 1200 12) 1) ∧
      ∀ t ∈ monthSteps (workshopWith .STRAIGHT_LINE 1200 12) 1, KeepsBookValue 10 t.1 t.2.1) ∧
    ∃ row, (afterMonths (workshopWith .STRAIGHT_LINE 1200 12) 1).assets.get? 10 =
        some row ∧
      BookValueHolds (monthsRun (press .STRAIGHT_LINE 1200 12)
        (monthSteps (workshopWith .STRAIGHT_LINE 1200 12) 1)).toFinset.card row := by
  have hnew : NewAsset (workshopWith .STRAIGHT_LINE 1200 12) 10 (press .STRAIGHT_LINE 1200 12) :=
    newAsset_press (by decide +kernel) (by decide +kernel) (by decide +kernel) (by decide +kernel)
      (by decide)
  have hrun : Run (fun s call s' => MonthCall.exec s call = some s')
      (workshopWith .STRAIGHT_LINE 1200 12) (monthSteps (workshopWith .STRAIGHT_LINE 1200 12) 1)
      (afterMonths (workshopWith .STRAIGHT_LINE 1200 12) 1) :=
    run_monthSteps (by decide +kernel)
  have hshare : equalShare (press .STRAIGHT_LINE 1200 12) = (⟨10000⟩ : Cents).toRat := by
    decide +kernel
  have hmeet : SharesMeet (press .STRAIGHT_LINE 1200 12) := by
    refine ⟨?_, 12, by decide, ?_⟩
    · rw [hshare]
      exact Numeric.not_isTie_toRat _
    · rw [hshare, Numeric.ofRat_toRat]
      decide +kernel
  have hkeeps : ∀ t ∈ monthSteps (workshopWith .STRAIGHT_LINE 1200 12) 1,
      KeepsBookValue 10 t.1 t.2.1 := by
    refine List.forall_mem_singleton.mpr fun row hrow => ?_
    rw [← Option.some.inj (hnew.shows.row.symm.trans hrow)]
    exact hmeet
  exact ⟨⟨hnew, hrun, hkeeps⟩, bookValue_holds hnew hrun hkeeps⟩

/-- A machine of 100.00 over 3 months has a cent left after March, and after April 33.32 less than
nothing; of one of 1.00 that loses an eighth, 0.13 is accumulated and 0.88 is left. -/
theorem bookValue_fails :
    (∀ n ∈ [3, 4],
      NewAsset (workshopWith .STRAIGHT_LINE 100 3) 10 (press .STRAIGHT_LINE 100 3) ∧
      Run (fun s call s' => MonthCall.exec s call = some s') (workshopWith .STRAIGHT_LINE 100 3)
        (monthSteps (workshopWith .STRAIGHT_LINE 100 3) n)
        (afterMonths (workshopWith .STRAIGHT_LINE 100 3) n) ∧
      ¬ ∃ row, (afterMonths (workshopWith .STRAIGHT_LINE 100 3) n).assets.get? 10 = some row ∧
        BookValueHolds (monthsRun (press .STRAIGHT_LINE 100 3)
          (monthSteps (workshopWith .STRAIGHT_LINE 100 3) n)).toFinset.card row) ∧
    NewAsset (workshopWith .DECLINING_BALANCE 1 16) 10 (press .DECLINING_BALANCE 1 16) ∧
      Run (fun s call s' => MonthCall.exec s call = some s') (workshopWith .DECLINING_BALANCE 1 16)
        (monthSteps (workshopWith .DECLINING_BALANCE 1 16) 1)
        (afterMonths (workshopWith .DECLINING_BALANCE 1 16) 1) ∧
      ¬ ∃ row, (afterMonths (workshopWith .DECLINING_BALANCE 1 16) 1).assets.get? 10 = some row ∧
        BookValueHolds (monthsRun (press .DECLINING_BALANCE 1 16)
          (monthSteps (workshopWith .DECLINING_BALANCE 1 16) 1)).toFinset.card row := by
  have hthird : NewAsset (workshopWith .STRAIGHT_LINE 100 3) 10 (press .STRAIGHT_LINE 100 3) :=
    newAsset_press (by decide +kernel) (by decide +kernel) (by decide +kernel) (by decide +kernel)
      (by decide)
  have heighth : NewAsset (workshopWith .DECLINING_BALANCE 1 16) 10 (press .DECLINING_BALANCE 1 16) :=
    newAsset_press (by decide +kernel) (by decide +kernel) (by decide +kernel) (by decide +kernel)
      (by decide)
  refine ⟨fun n hn => ?_, heighth, run_monthSteps (by decide +kernel), ?_⟩
  · rcases List.mem_pair.mp hn with rfl | rfl
    · refine ⟨hthird, run_monthSteps (by decide +kernel), ?_⟩
      rintro ⟨row, hrow, h⟩
      have hcents : ((afterMonths (workshopWith .STRAIGHT_LINE 100 3) 3).assets.get? 10).all
            fun row => decide (row.depreciationMethod = .STRAIGHT_LINE →
              row.usefulLifeMonths ≤ 3 → row.netBookValue = row.salvageValue) := by
        rw [hrow]
        refine decide_eq_true fun hmethod hlife => h.planned hmethod (hlife.trans ?_)
        decide +kernel
      exact absurd hcents (by decide +kernel)
    · refine ⟨hthird, run_monthSteps (by decide +kernel), ?_⟩
      rintro ⟨row, hrow, h⟩
      have hfloor : ((afterMonths (workshopWith .STRAIGHT_LINE 100 3) 4).assets.get? 10).all
            fun row => decide (row.salvageValue ≤ row.netBookValue) := by
        rw [hrow]
        exact decide_eq_true h.floor
      exact absurd hfloor (by decide +kernel)
  · rintro ⟨row, hrow, h⟩
    have hdifference : ((afterMonths (workshopWith .DECLINING_BALANCE 1 16) 1).assets.get? 10).all
          fun row => decide (row.netBookValue = row.acquisitionCost - row.accumulatedDepreciation) := by
      rw [hrow]
      exact decide_eq_true h.difference
    exact absurd hdifference (by decide +kernel)

end SmartErpPos.Assets
