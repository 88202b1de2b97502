/-
  Hr/LeaveCount.lean --- every leave day is counted once.

  On leaves whose dates are accepted the count is the length of the merged spans of days.  It
  is the number of days of the period that lie in some leave, in every order of the leaves,
  exactly where the text of the next day decides as the days do.
-/
import SmartErpPos.Hr.LeaveDays

set_option autoImplicit false

namespace SmartErpPos.Hr

open SmartErpPos.Lib

/-! ## Valid leaves -/

/-- A text that is accepted as the date of a day. -/
def IsDay (ymd : String) (n : ℤ) : Prop := InRange n ∧ jsPrefix 10 (jsTrim ymd) = isoDateText n

theorem IsDay.accepted {ymd : String} {n : ℤ} (h : IsDay ymd n) (label : String) :
    assertYmd label ymd = .ok (isoDateText n) :=
  assertYmd_eq_ok.mpr ⟨n, h.1, rfl, h.2⟩

/-- An interval whose dates are accepted and which ends no earlier than it starts. -/
structure Leave where
  raw : DateInterval
  days : Span
  start_day : IsDay raw.start days.lo
  stop_day : IsDay raw.stop days.hi

/-- The days of the period that lie in at least one leave. -/
noncomputable def leaveDays (leaves : List Leave) (period : Leave) : Finset ℤ :=
  period.days.days.filter fun d => ∃ leave ∈ leaves, d ∈ leave.days.days

/-! ## Clipping -/

/-- The interval of the texts of a span. -/
def textOf (s : Span) : DateInterval :=
  { start := isoDateText s.lo
    stop := isoDateText s.hi }

/-- The part of a span that lies in the period. -/
def clipSpan (period s : Span) : Option Span :=
  if h : max s.lo period.lo ≤ min s.hi period.hi then some ⟨_, _, h⟩ else none

theorem maxDate_isoDateText {a b : ℤ} (ha : InRange a) (hb : InRange b) :
    maxDate (isoDateText a) (isoDateText b) = isoDateText (max a b) := by
  simp only [maxDate, isoDateText_le_iff hb ha]
  split
  · rename_i h
    rw [max_eq_left h]
  · rename_i h
    rw [max_eq_right (not_le.mp h).le]

theorem minDate_isoDateText {a b : ℤ} (ha : InRange a) (hb : InRange b) :
    minDate (isoDateText a) (isoDateText b) = isoDateText (min a b) := by
  simp only [minDate, isoDateText_le_iff ha hb]
  split
  · rename_i h
    rw [min_eq_left h]
  · rename_i h
    rw [min_eq_right (not_le.mp h).le]

theorem inRange_max {a b : ℤ} (ha : InRange a) (hb : InRange b) : InRange (max a b) := by
  rcases max_choice a b with h | h
  · rwa [h]
  · rwa [h]

theorem inRange_min {a b : ℤ} (ha : InRange a) (hb : InRange b) : InRange (min a b) := by
  rcases min_choice a b with h | h
  · rwa [h]
  · rwa [h]

theorem clipInterval_leave (period leave : Leave) :
    clipInterval (isoDateText period.days.lo) (isoDateText period.days.hi) leave.raw =
      .ok ((clipSpan period.days leave.days).map textOf) := by
  have hlo := inRange_max leave.start_day.1 period.start_day.1
  have hhi := inRange_min leave.stop_day.1 period.stop_day.1
  have hvalid : ¬ isoDateText leave.days.hi < isoDateText leave.days.lo := by
    rw [isoDateText_lt_iff leave.stop_day.1 leave.start_day.1, not_lt]
    exact leave.days.le
  simp only [clipInterval, bind_eq_ok, require_eq_ok]
  refine ⟨_, leave.start_day.accepted _, _, leave.stop_day.accepted _, (), hvalid, ?_⟩
  rw [maxDate_isoDateText leave.start_day.1 period.start_day.1,
    minDate_isoDateText leave.stop_day.1 period.stop_day.1, pure_eq_ok]
  simp only [isoDateText_le_iff hlo hhi, clipSpan]
  split
  · rfl
  · rfl

theorem clipSpan_inRange {period leave : Leave} {s : Span}
    (h : clipSpan period.days leave.days = some s) : InRange s.lo ∧ InRange s.hi := by
  unfold clipSpan at h
  split at h
  · cases h
    exact ⟨inRange_max leave.start_day.1 period.start_day.1,
      inRange_min leave.stop_day.1 period.stop_day.1⟩
  · cases h

theorem mem_clipSpan {period leave : Span} {d : ℤ} :
    (∃ s, clipSpan period leave = some s ∧ s.lo ≤ d ∧ d ≤ s.hi) ↔
      d ∈ period.days ∧ d ∈ leave.days := by
  simp only [clipSpan, Span.days, Finset.mem_Icc]
  constructor
  · rintro ⟨s, hs, hlo, hhi⟩
    split at hs
    · cases hs
      exact ⟨⟨(le_max_right _ _).trans hlo, hhi.trans (min_le_right _ _)⟩,
        (le_max_left _ _).trans hlo, hhi.trans (min_le_left _ _)⟩
    · cases hs
  · rintro ⟨⟨hplo, hphi⟩, hllo, hlhi⟩
    have hlo := max_le hllo hplo
    have hhi := le_min hlhi hphi
    exact ⟨⟨_, _, hlo.trans hhi⟩, dif_pos (hlo.trans hhi), hlo, hhi⟩

/-- The leaves clipped to the period, in the order of their starts. -/
def clippedSpans (leaves : List Leave) (period : Leave) : List Span :=
  (leaves.filterMap fun leave => clipSpan period.days leave.days).insertionSort fun s s' => s.lo ≤ s'.lo

theorem mem_clippedSpans {leaves : List Leave} {period : Leave} {s : Span} :
    s ∈ clippedSpans leaves period ↔ ∃ leave ∈ leaves, clipSpan period.days leave.days = some s := by
  rw [clippedSpans, (List.perm_insertionSort _ _).mem_iff, List.mem_filterMap]

theorem clippedSpans_inRange {leaves : List Leave} {period : Leave} :
    ∀ s ∈ clippedSpans leaves period, InRange s.lo ∧ InRange s.hi := by
  intro s hs
  obtain ⟨leave, -, hclip⟩ := mem_clippedSpans.mp hs
  exact clipSpan_inRange hclip

theorem coveredDays_clippedSpans (leaves : List Leave) (period : Leave) :
    coveredDays (clippedSpans leaves period) = leaveDays leaves period := by
  ext d
  rw [mem_coveredDays, leaveDays, Finset.mem_filter]
  constructor
  · rintro ⟨s, hs, hd⟩
    obtain ⟨leave, hleave, hclip⟩ := mem_clippedSpans.mp hs
    obtain ⟨hperiod, hown⟩ := mem_clipSpan.mp ⟨s, hclip, hd⟩
    exact ⟨hperiod, leave, hleave, hown⟩
  · rintro ⟨hperiod, leave, hleave, hown⟩
    obtain ⟨s, hclip, hd⟩ := mem_clipSpan.mpr ⟨hperiod, hown⟩
    exact ⟨s, mem_clippedSpans.mpr ⟨leave, hleave, hclip⟩, hd⟩

/-! ## The merging loop on spans -/

theorem inclusiveDayCount_textOf {s : Span} (hs : InRange s.lo ∧ InRange s.hi) :
    inclusiveDayCount (textOf s).start (textOf s).stop = .ok s.length := by
  have hle := s.le
  have hnotNeg : ¬ s.hi - s.lo < 0 := by omega
  rw [textOf, inclusiveDayCount, parseYmd_isoDateText hs.1, parseYmd_isoDateText hs.2]
  dsimp only
  rw [if_neg hnotNeg, Span.length]

theorem totalDays_textOf {spans : List Span} (hspans : ∀ s ∈ spans, InRange s.lo ∧ InRange s.hi) :
    totalDays (spans.map textOf) = .ok (spans.map Span.length).sum := by
  have hfrom : ∀ total : ℤ, (spans.map textOf).foldlM
      (fun total m => (inclusiveDayCount m.start m.stop).map (total + ·)) total =
        .ok (total + (spans.map Span.length).sum) := by
    induction spans with
    | nil =>
      intro total
      simp [pure, Except.pure]
    | cons s rest ih =>
      obtain ⟨hhead, hrest⟩ := List.forall_mem_cons.mp hspans
      intro total
      rw [List.map_cons, List.foldlM_cons, inclusiveDayCount_textOf hhead]
      change (rest.map textOf).foldlM _ (total + s.length) = _
      rw [ih hrest, List.map_cons, List.sum_cons, add_assoc]
  rw [totalDays, hfrom, zero_add]

theorem mergeStep_textOf {merged : List Span} {last cur : Span} (hlast : InRange last.hi)
    (hcur : InRange cur.hi) :
    mergeStep (merged.map textOf, textOf last) (textOf cur) =
      if joins last.hi cur.lo then (merged.map textOf, textOf (last.extend cur.hi))
      else ((merged ++ [last]).map textOf, textOf cur) := by
  have hjoins : (textOf cur).start ≤ addDays (textOf last).stop 1 ↔ joins last.hi cur.lo = true := by
    rw [joins, decide_eq_true_iff]
    rfl
  have hlater : (textOf last).stop < (textOf cur).stop ↔ last.hi < cur.hi :=
    isoDateText_lt_iff hlast hcur
  simp only [mergeStep, hjoins, hlater]
  split
  · have hmax : (if last.hi < cur.hi then { textOf last with stop := (textOf cur).stop }
        else textOf last) = textOf (last.extend cur.hi) := by
      split
      · rename_i h
        simp only [textOf, Span.extend, max_eq_right h.le]
      · rename_i h
        simp only [textOf, Span.extend, max_eq_left (not_lt.mp h)]
    rw [hmax]
  · rw [List.map_append, List.map_singleton]

/-- The loop adds up the lengths of the spans that the pass merges. -/
theorem totalDays_merge {rest : List Span} (hrest : ∀ s ∈ rest, InRange s.lo ∧ InRange s.hi)
    {merged : List Span} (hmerged : ∀ s ∈ merged, InRange s.lo ∧ InRange s.hi) {last : Span}
    (hlast : InRange last.lo ∧ InRange last.hi) {result : List DateInterval × DateInterval}
    (hresult : (rest.map textOf).foldl mergeStep (merged.map textOf, textOf last) = result) :
    totalDays (result.1 ++ [result.2]) =
      .ok ((merged.map Span.length).sum + mergedLength joins last rest) := by
  induction rest generalizing merged last with
  | nil =>
    subst hresult
    have hall : ∀ s ∈ merged ++ [last], InRange s.lo ∧ InRange s.hi := by
      intro s hs
      rcases List.mem_append.mp hs with hs | hs
      · exact hmerged s hs
      · exact List.mem_singleton.mp hs ▸ hlast
    have htotal := totalDays_textOf hall
    rw [List.map_append, List.map_append, List.sum_append] at htotal
    simpa [mergedLength] using htotal
  | cons cur rest ih =>
    obtain ⟨hcur, hrest⟩ := List.forall_mem_cons.mp hrest
    rw [List.map_cons, List.foldl_cons, mergeStep_textOf hlast.2 hcur.2] at hresult
    rw [mergedLength]
    split at hresult
    · rename_i hjoin
      rw [if_pos hjoin]
      exact ih hrest hmerged ⟨hlast.1, inRange_max hlast.2 hcur.2⟩ hresult
    · rename_i hjoin
      have hall : ∀ s ∈ merged ++ [last], InRange s.lo ∧ InRange s.hi := by
        intro s hs
        rcases List.mem_append.mp hs with hs | hs
        · exact hmerged s hs
        · exact List.mem_singleton.mp hs ▸ hlast
      rw [if_neg hjoin, ih hrest hall hcur hresult, List.map_append, List.sum_append]
      simp [add_assoc]

/-- The lengths of the merged spans of the clipped leaves. -/
def mergedDays : List Span → ℤ
  | [] => 0
  | first :: rest => mergedLength joins first rest

theorem uniqueOverlapLeaveDays_eq (leaves : List Leave) (period : Leave) :
    uniqueOverlapLeaveDays (leaves.map Leave.raw) period.raw.start period.raw.stop =
      .ok (mergedDays (clippedSpans leaves period)) := by
  have hperiod : ¬ isoDateText period.days.hi < isoDateText period.days.lo := by
    rw [isoDateText_lt_iff period.stop_day.1 period.start_day.1, not_lt]
    exact period.days.le
  have hclips : (leaves.map Leave.raw).mapM
      (clipInterval (isoDateText period.days.lo) (isoDateText period.days.hi)) =
        .ok (leaves.map fun leave => (clipSpan period.days leave.days).map textOf) := by
    rw [List.mapM_map]
    exact mapM_ok fun leave _ => clipInterval_leave period leave
  have hsorted : (leaves.map fun leave => (clipSpan period.days leave.days).map textOf).reduceOption.insertionSort
      (fun a b => a.start ≤ b.start) = (clippedSpans leaves period).map textOf := by
    have hreduce : (leaves.map fun leave => (clipSpan period.days leave.days).map textOf).reduceOption =
        (leaves.filterMap fun leave => clipSpan period.days leave.days).map textOf := by
      change (leaves.map fun leave => (clipSpan period.days leave.days).map textOf).filterMap id = _
      rw [List.filterMap_map, List.map_filterMap]
      rfl
    rw [hreduce, clippedSpans]
    refine (List.map_insertionSort _ _ _ _ fun s hs s' hs' => ?_).symm
    obtain ⟨leave, -, hclip⟩ := List.mem_filterMap.mp hs
    obtain ⟨leave', -, hclip'⟩ := List.mem_filterMap.mp hs'
    exact (isoDateText_le_iff (clipSpan_inRange hclip).1 (clipSpan_inRange hclip').1).symm
  simp only [uniqueOverlapLeaveDays, bind_eq_ok, require_eq_ok]
  refine ⟨_, period.start_day.accepted _, _, period.stop_day.accepted _, (), hperiod, ?_⟩
  cases leaves with
  | nil => rfl
  | cons leave leaves =>
    rw [if_neg (by simp), bind_eq_ok]
    refine ⟨_, hclips, ?_⟩
    rw [hsorted]
    have hrange : ∀ s ∈ clippedSpans (leave :: leaves) period, InRange s.lo ∧ InRange s.hi :=
      clippedSpans_inRange
    cases hspans : clippedSpans (leave :: leaves) period with
    | nil => rfl
    | cons first rest =>
      rw [hspans] at hrange
      obtain ⟨hfirst, hrest⟩ := List.forall_mem_cons.mp hrange
      have hnone : ∀ s ∈ ([] : List Span), InRange s.lo ∧ InRange s.hi := by simp
      have htotal := totalDays_merge hrest hnone hfirst rfl
      rw [List.map_nil, List.map_nil, List.sum_nil, zero_add] at htotal
      exact htotal

/-! ## Counted once -/

theorem leaveDays_perm {leaves leaves' : List Leave} (h : leaves'.Perm leaves) (period : Leave) :
    leaveDays leaves' period = leaveDays leaves period := by
  ext d
  simp only [leaveDays, Finset.mem_filter, h.mem_iff]

theorem card_leaveDays_le (leaves : List Leave) (period : Leave) :
    ((leaveDays leaves period).card : ℤ) ≤ period.days.length := by
  rw [← Span.card_days]
  exact_mod_cast Finset.card_le_card (Finset.filter_subset _ _)

/-- The count is the number of days, in every order of the leaves, and at most the period. -/
structure CountedOnce (leaves : List Leave) (period : Leave) : Prop where
  counted : uniqueOverlapLeaveDays (leaves.map Leave.raw) period.raw.start period.raw.stop =
    .ok ((leaveDays leaves period).card : ℤ)
  order : ∀ leaves' : List Leave, leaves'.Perm leaves →
    uniqueOverlapLeaveDays (leaves'.map Leave.raw) period.raw.start period.raw.stop =
      uniqueOverlapLeaveDays (leaves.map Leave.raw) period.raw.start period.raw.stop
  bounded : ∀ n, uniqueOverlapLeaveDays (leaves.map Leave.raw) period.raw.start period.raw.stop = .ok n →
    n ≤ period.days.length

/-- The text of the next day decides as the days do, at each start and the latest end before. -/
def NextDaysRead (leaves : List Leave) (period : Leave) : Prop :=
  match clippedSpans leaves period with
  | [] => True
  | first :: rest => ReadsRight NextDayReads first.hi rest

theorem mergedDays_eq_iff (leaves : List Leave) (period : Leave) :
    mergedDays (clippedSpans leaves period) = ((leaveDays leaves period).card : ℤ) ↔
      NextDaysRead leaves period := by
  have hrange : ∀ s ∈ clippedSpans leaves period, InRange s.lo ∧ InRange s.hi :=
    clippedSpans_inRange
  have hsorted : (clippedSpans leaves period).Pairwise fun s s' => s.lo ≤ s'.lo := by
    have htotal : Std.Total fun s s' : Span => s.lo ≤ s'.lo := ⟨fun s s' => le_total s.lo s'.lo⟩
    have htrans : IsTrans Span fun s s' => s.lo ≤ s'.lo := ⟨fun _ _ _ => le_trans⟩
    exact List.pairwise_insertionSort _ _
  rw [← coveredDays_clippedSpans, NextDaysRead]
  cases hspans : clippedSpans leaves period with
  | nil => simp [mergedDays, coveredDays]
  | cons first rest =>
    rw [hspans] at hrange hsorted
    obtain ⟨hfirst, hrest⟩ := List.forall_mem_cons.mp hrange
    obtain ⟨hlo, hrestSorted⟩ := List.pairwise_cons.mp hsorted
    rw [mergedDays, mergedLength_eq_iff hlo hrestSorted]
    exact readsRight_congr (fun _ _ => joinsRight_iff) hfirst.2 hrest

theorem countedOnce_of_reads {leaves : List Leave} {period : Leave}
    (hreads : ∀ leaves' : List Leave, leaves'.Perm leaves → NextDaysRead leaves' period) :
    CountedOnce leaves period := by
  have hcount (leaves' : List Leave) (hperm : leaves'.Perm leaves) :
      uniqueOverlapLeaveDays (leaves'.map Leave.raw) period.raw.start period.raw.stop =
        .ok ((leaveDays leaves period).card : ℤ) := by
    rw [uniqueOverlapLeaveDays_eq, (mergedDays_eq_iff leaves' period).mpr (hreads leaves' hperm),
      leaveDays_perm hperm]
  have hown := hcount leaves (.refl _)
  refine ⟨hown, fun leaves' hperm => (hcount leaves' hperm).trans hown.symm, fun n hn => ?_⟩
  rw [hown] at hn
  cases hn
  exact card_leaveDays_le leaves period

/-- Every leave day is counted once, in every order of the leaves, exactly where the text of the
next day decides as the days do in every order of them. -/
theorem leaveDays_countedOnce_iff (leaves : List Leave) (period : Leave) :
    CountedOnce leaves period ↔
      ∀ leaves' : List Leave, leaves'.Perm leaves → NextDaysRead leaves' period := by
  refine ⟨fun h leaves' hperm => ?_, countedOnce_of_reads⟩
  have hcount := (h.order leaves' hperm).trans h.counted
  rw [uniqueOverlapLeaveDays_eq] at hcount
  rw [← mergedDays_eq_iff, leaveDays_perm hperm]
  exact Except.ok.inj hcount

theorem isDay_512_08_01 : IsDay "0512-08-01" (-532311) :=
  ⟨⟨by decide +kernel, by decide +kernel⟩, by decide +kernel⟩

/-- Two leaves of August 512, of two days and of one, a week apart. -/
def leaves512 : List Leave :=
  [{ raw := ⟨"0512-08-01", "0512-08-02"⟩
     days := ⟨-532311, -532310, by decide⟩
     start_day := isDay_512_08_01
     stop_day := ⟨⟨by decide +kernel, by decide +kernel⟩, by decide +kernel⟩ },
   { raw := ⟨"0512-08-10", "0512-08-10"⟩
     days := ⟨-532302, -532302, by decide⟩
     start_day := ⟨⟨by decide +kernel, by decide +kernel⟩, by decide +kernel⟩
     stop_day := ⟨⟨by decide +kernel, by decide +kernel⟩, by decide +kernel⟩ }]

def august512 : Leave where
  raw := ⟨"0512-08-01", "0512-08-31"⟩
  days := ⟨-532311, -532281, by decide⟩
  start_day := isDay_512_08_01
  stop_day := ⟨⟨by decide +kernel, by decide +kernel⟩, by decide +kernel⟩

/-- They make three days and are counted as ten: the day after the first ends has the text
`512-08-03`, which no start of that year is after. -/
theorem leaveDays_not_countedOnce : ¬ CountedOnce leaves512 august512 := by
  intro h
  have hten : uniqueOverlapLeaveDays (leaves512.map Leave.raw) august512.raw.start
      august512.raw.stop = .ok 10 := by decide +kernel
  have hdays : leaveDays leaves512 august512 = {-532311, -532310, -532302} := by
    ext d
    simp only [leaveDays, leaves512, august512, Span.days, Finset.mem_filter, Finset.mem_Icc,
      List.exists_mem_cons_iff, List.not_mem_nil, false_and, exists_false, or_false,
      Finset.mem_insert, Finset.mem_singleton]
    omega
  have hthree : (leaveDays leaves512 august512).card = 3 := by
    rw [hdays]
    rfl
  have hcounted := h.counted
  rw [hten, hthree] at hcounted
  cases hcounted

/-! ## Periods in years of four digits -/

theorem readsRight_of_years {period : Span} (hfirst : 1000 ≤ (civilFromDays period.lo).year)
    (hlast : (civilFromDays (period.hi + 1)).year ≤ 9999) {hi : ℤ} {spans : List Span}
    (hhi : hi ∈ period.days) (hspans : ∀ s ∈ spans, s.hi ∈ period.days) :
    ReadsRight NextDayReads hi spans := by
  induction spans generalizing hi with
  | nil => trivial
  | cons s rest ih =>
    obtain ⟨hs, hrest⟩ := List.forall_mem_cons.mp hspans
    obtain ⟨hlo, hle⟩ := Finset.mem_Icc.mp hhi
    have hafter := year_mono (show period.lo ≤ hi + 1 by omega)
    have hbefore := year_mono (show hi + 1 ≤ period.hi + 1 by omega)
    refine ⟨⟨fun _ h => ?_, fun _ h => ?_⟩, ih ?_ hrest⟩
    · omega
    · omega
    · rcases max_choice hi s.hi with h | h
      · rwa [h]
      · rwa [h]

/-- In a period of the years 1000 to 9998 every leave day is counted once. -/
theorem countedOnce_of_years {leaves : List Leave} {period : Leave}
    (hfirst : 1000 ≤ (civilFromDays period.days.lo).year)
    (hlast : (civilFromDays (period.days.hi + 1)).year ≤ 9999) : CountedOnce leaves period := by
  refine countedOnce_of_reads fun leaves' _ => ?_
  have hin : ∀ s ∈ clippedSpans leaves' period, s.hi ∈ period.days.days := by
    intro s hs
    obtain ⟨leave, -, hclip⟩ := mem_clippedSpans.mp hs
    exact (mem_clipSpan.mp ⟨s, hclip, s.le, le_rfl⟩).1
  rw [NextDaysRead]
  cases hspans : clippedSpans leaves' period with
  | nil => trivial
  | cons first rest =>
    rw [hspans] at hin
    obtain ⟨hown, hrest⟩ := List.forall_mem_cons.mp hin
    exact readsRight_of_years hfirst hlast hown hrest

/-- February 2026. -/
def february2026 : Leave where
  raw := ⟨"2026-02-01", "2026-02-28"⟩
  days := ⟨20485, 20512, by decide⟩
  start_day := ⟨⟨by decide +kernel, by decide +kernel⟩, by decide +kernel⟩
  stop_day := ⟨⟨by decide +kernel, by decide +kernel⟩, by decide +kernel⟩

theorem countedOnce_february2026 : CountedOnce [february2026] february2026 :=
  countedOnce_of_years (by decide +kernel) (by decide +kernel)

/-! ## One leave -/

theorem clippedSpans_singleton (leave period : Leave) :
    clippedSpans [leave] period = (clipSpan period.days leave.days).toList := by
  rw [clippedSpans]
  cases hclip : clipSpan period.days leave.days with
  | none => simp [hclip]
  | some s => simp [hclip]

/-- The days of one leave in a period are those of the list of it alone. -/
theorem overlapLeaveDays_eq (leave period : Leave) :
    overlapLeaveDays leave.raw period.raw = .ok ((leaveDays [leave] period).card : ℤ) := by
  have hlo := inRange_max leave.start_day.1 period.start_day.1
  have hhi := inRange_min leave.stop_day.1 period.stop_day.1
  have hvalid (l : Leave) : ¬ isoDateText l.days.hi < isoDateText l.days.lo := by
    rw [isoDateText_lt_iff l.stop_day.1 l.start_day.1, not_lt]
    exact l.days.le
  have hcard : mergedDays (clippedSpans [leave] period) = ((leaveDays [leave] period).card : ℤ) := by
    rw [mergedDays_eq_iff, NextDaysRead, clippedSpans_singleton]
    cases clipSpan period.days leave.days with
    | none => trivial
    | some s => trivial
  simp only [overlapLeaveDays, bind_eq_ok, require_eq_ok]
  refine ⟨_, leave.start_day.accepted _, _, leave.stop_day.accepted _, _, period.start_day.accepted _,
    _, period.stop_day.accepted _, (), hvalid leave, (), hvalid period, ?_⟩
  rw [← hcard, clippedSpans_singleton, maxDate_isoDateText leave.start_day.1 period.start_day.1,
    minDate_isoDateText leave.stop_day.1 period.stop_day.1]
  simp only [isoDateText_lt_iff hhi hlo, clipSpan]
  split
  · rename_i hempty
    rw [dif_neg (not_le.mpr hempty)]
    rfl
  · rename_i hshared
    rw [dif_pos (not_lt.mp hshared)]
    exact inclusiveDayCount_textOf (s := ⟨_, _, not_lt.mp hshared⟩) ⟨hlo, hhi⟩

end SmartErpPos.Hr
