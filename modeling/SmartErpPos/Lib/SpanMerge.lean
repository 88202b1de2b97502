/-
  Lib/SpanMerge.lean --- merging spans of days in the order of their starts.

  A pass over spans sorted by their start keeps the last merged span and asks a test whether
  the next one is to be joined to it.  The lengths of the merged spans add up to at least the
  number of days covered, whatever the test says, and to exactly that number when the test
  joins every span that overlaps what is merged and none behind a gap (`ReadsRight`).
-/
import Mathlib.Order.Interval.Finset.Defs
import Mathlib.Data.Int.ConditionallyCompleteOrder
import Mathlib.Data.Int.Interval
import Mathlib.Data.Finset.Card
import Mathlib.Data.List.Perm.Basic
import Mathlib.Tactic.Linarith

set_option autoImplicit false

namespace SmartErpPos.Lib

/-- The days from `lo` to `hi`, both included. -/
structure Span where
  lo : ℤ
  hi : ℤ
  le : lo ≤ hi
  deriving DecidableEq

namespace Span

noncomputable def days (s : Span) : Finset ℤ := Finset.Icc s.lo s.hi

/-- How many days it has. -/
def length (s : Span) : ℤ := s.hi - s.lo + 1

theorem card_days (s : Span) : (s.days.card : ℤ) = s.length := by
  have hle := s.le
  unfold days length
  rw [Int.card_Icc, Int.toNat_of_nonneg (by omega)]
  omega

/-- The span up to the later of two ends. -/
def extend (s : Span) (hi : ℤ) : Span := ⟨s.lo, max s.hi hi, s.le.trans (le_max_left _ _)⟩

end Span

/-- The days some span of a list covers. -/
noncomputable def coveredDays (spans : List Span) : Finset ℤ := spans.toFinset.biUnion Span.days

theorem mem_coveredDays {spans : List Span} {d : ℤ} :
    d ∈ coveredDays spans ↔ ∃ s ∈ spans, s.lo ≤ d ∧ d ≤ s.hi := by
  simp [coveredDays, Span.days]

theorem coveredDays_cons (s : Span) (spans : List Span) :
    coveredDays (s :: spans) = s.days ∪ coveredDays spans := by
  simp [coveredDays]

/-! ## The pass -/

/-- The lengths of the merged spans, `last` being the one that may still grow. -/
def mergedLength (join : ℤ → ℤ → Bool) : Span → List Span → ℤ
  | last, [] => last.length
  | last, cur :: rest =>
    if join last.hi cur.lo then mergedLength join (last.extend cur.hi) rest
    else last.length + mergedLength join cur rest

/-- Behind an end `hi` the test joins a span that starts at or before it, and joins none that
starts after a gap; and so on, with the latest end so far. -/
def ReadsRight (right : ℤ → ℤ → Prop) : ℤ → List Span → Prop
  | _, [] => True
  | hi, cur :: rest => right hi cur.lo ∧ ReadsRight right (max hi cur.hi) rest

/-- The test is right about an end and a start. -/
def JoinsRight (join : ℤ → ℤ → Bool) (hi lo : ℤ) : Prop :=
  (lo ≤ hi → join hi lo = true) ∧ (hi + 1 < lo → join hi lo = false)

theorem readsRight_congr {right right' : ℤ → ℤ → Prop} {hi : ℤ} {spans : List Span}
    {valid : ℤ → Prop} (hvalid : ∀ hi lo, valid hi → valid lo → (right hi lo ↔ right' hi lo))
    (hhi : valid hi) (hspans : ∀ s ∈ spans, valid s.lo ∧ valid s.hi) :
    ReadsRight right hi spans ↔ ReadsRight right' hi spans := by
  induction spans generalizing hi with
  | nil => exact Iff.rfl
  | cons s rest ih =>
    obtain ⟨hs, hrest⟩ := List.forall_mem_cons.mp hspans
    have hmax : valid (max hi s.hi) := by
      rcases max_choice hi s.hi with h | h
      · rwa [h]
      · rw [h]
        exact hs.2
    exact and_congr (hvalid _ _ hhi hs.1) (ih hmax hrest)

section

variable {join : ℤ → ℤ → Bool} {last cur : Span} {rest : List Span}

/-- Joining a span that overlaps or follows at once covers what the two cover. -/
theorem extend_days (hlo : last.lo ≤ cur.lo) (htouch : cur.lo ≤ last.hi + 1) :
    (last.extend cur.hi).days = last.days ∪ cur.days := by
  have hle := last.le
  have hle' := cur.le
  ext d
  simp only [Span.days, Span.extend, Finset.mem_union, Finset.mem_Icc, le_max_iff]
  omega

theorem union_subset_extend (hlo : last.lo ≤ cur.lo) :
    last.days ∪ cur.days ⊆ (last.extend cur.hi).days := by
  intro d hd
  simp only [Span.days, Span.extend, Finset.mem_union, Finset.mem_Icc, le_max_iff] at hd ⊢
  omega

/-- The merged spans have at least the days that are covered. -/
theorem card_le_mergedLength (hlo : ∀ s ∈ rest, last.lo ≤ s.lo)
    (hsorted : rest.Pairwise fun s s' => s.lo ≤ s'.lo) :
    ((coveredDays (last :: rest)).card : ℤ) ≤ mergedLength join last rest := by
  induction rest generalizing last with
  | nil =>
    rw [coveredDays_cons, mergedLength, ← Span.card_days]
    simp [coveredDays]
  | cons cur rest ih =>
    obtain ⟨hcur, hrest⟩ := List.pairwise_cons.mp hsorted
    obtain ⟨hlo, hlater⟩ := List.forall_mem_cons.mp hlo
    rw [mergedLength, coveredDays_cons]
    split
    · have hjoined : _ ≤ mergedLength join (last.extend cur.hi) rest := ih hlater hrest
      have hsub : last.days ∪ coveredDays (cur :: rest) ⊆ coveredDays (last.extend cur.hi :: rest) := by
        rw [coveredDays_cons, coveredDays_cons, ← Finset.union_assoc]
        exact Finset.union_subset_union_left (union_subset_extend hlo)
      have hcard := Finset.card_le_card hsub
      omega
    · have hpushed : _ ≤ mergedLength join cur rest := ih hcur hrest
      have hcard := Finset.card_union_le last.days (coveredDays (cur :: rest))
      have hlength := last.card_days
      omega

/-- Days that two sets share are counted twice. -/
theorem card_union_lt {A B : Finset ℤ} {d : ℤ} (hA : d ∈ A) (hB : d ∈ B) :
    (A ∪ B).card < A.card + B.card := by
  have hinter : 0 < (A ∩ B).card := Finset.card_pos.mpr ⟨d, Finset.mem_inter.mpr ⟨hA, hB⟩⟩
  have hcards := Finset.card_union_add_card_inter A B
  omega

/-- They have exactly those days when, and only when, the test is right at every span. -/
theorem mergedLength_eq_iff (hlo : ∀ s ∈ rest, last.lo ≤ s.lo)
    (hsorted : rest.Pairwise fun s s' => s.lo ≤ s'.lo) :
    mergedLength join last rest = ((coveredDays (last :: rest)).card : ℤ) ↔
      ReadsRight (JoinsRight join) last.hi rest := by
  induction rest generalizing last with
  | nil =>
    refine iff_of_true ?_ trivial
    rw [coveredDays_cons, mergedLength, ← Span.card_days]
    simp [coveredDays]
  | cons cur rest ih =>
    obtain ⟨hcur, hrest⟩ := List.pairwise_cons.mp hsorted
    obtain ⟨hlo, hlater⟩ := List.forall_mem_cons.mp hlo
    have hlength := last.card_days
    rw [mergedLength, coveredDays_cons, ReadsRight, JoinsRight]
    cases hjoin : join last.hi cur.lo with
    | true =>
      rw [if_pos rfl]
      have hjoined : _ ≤ mergedLength join (last.extend cur.hi) rest :=
        card_le_mergedLength hlater hrest
      by_cases htouch : cur.lo ≤ last.hi + 1
      · -- What is joined is what the two cover.
        have hdays : last.days ∪ coveredDays (cur :: rest) =
            coveredDays (last.extend cur.hi :: rest) := by
          rw [coveredDays_cons, coveredDays_cons, ← Finset.union_assoc, extend_days hlo htouch]
        have hiff : mergedLength join (last.extend cur.hi) rest =
            ((coveredDays (last.extend cur.hi :: rest)).card : ℤ) ↔
              ReadsRight (JoinsRight join) (max last.hi cur.hi) rest := ih hlater hrest
        rw [hdays, hiff]
        refine (and_iff_right ⟨fun _ => rfl, fun hgap => ?_⟩).symm
        omega
      · -- The day behind the last span is counted and not covered.
        refine iff_of_false (fun heq => ?_) fun hright => ?_
        · have hle := cur.le
          have hmissing : last.hi + 1 ∉ last.days ∪ coveredDays (cur :: rest) := by
            rw [Finset.mem_union, mem_coveredDays, Span.days, Finset.mem_Icc]
            rintro (h | ⟨s, hs, hstart, -⟩)
            · omega
            · rcases List.mem_cons.mp hs with rfl | hs
              · omega
              · have hlater := hcur s hs
                omega
          have hcounted : last.hi + 1 ∈ coveredDays (last.extend cur.hi :: rest) := by
            refine mem_coveredDays.mpr ⟨_, List.mem_cons_self, ?_, ?_⟩
            · have hlast := last.le
              change last.lo ≤ last.hi + 1
              omega
            · change last.hi + 1 ≤ max last.hi cur.hi
              rw [le_max_iff]
              omega
          have hsub : last.days ∪ coveredDays (cur :: rest) ⊆
              coveredDays (last.extend cur.hi :: rest) := by
            rw [coveredDays_cons, coveredDays_cons, ← Finset.union_assoc]
            exact Finset.union_subset_union_left (union_subset_extend hlo)
          have hcard := Finset.card_lt_card ((Finset.ssubset_iff_of_subset hsub).mpr
            ⟨_, hcounted, hmissing⟩)
          omega
        · have hfalse := hright.1.2 (by omega)
          cases hfalse
    | false =>
      rw [if_neg Bool.false_ne_true]
      have hpushed : _ ≤ mergedLength join cur rest := card_le_mergedLength hcur hrest
      by_cases hoverlap : cur.lo ≤ last.hi
      · -- The first day of the span is counted twice.
        refine iff_of_false (fun heq => ?_) fun hright => ?_
        · have hlast : cur.lo ∈ last.days := Finset.mem_Icc.mpr ⟨hlo, hoverlap⟩
          have hown : cur.lo ∈ coveredDays (cur :: rest) :=
            mem_coveredDays.mpr ⟨cur, List.mem_cons_self, le_rfl, cur.le⟩
          have hcard := card_union_lt hlast hown
          omega
        · have htrue := hright.1.1 hoverlap
          cases htrue
      · have hdisjoint : Disjoint last.days (coveredDays (cur :: rest)) := by
          refine Finset.disjoint_left.mpr fun d hd hd' => ?_
          have hbefore := (Finset.mem_Icc.mp hd).2
          obtain ⟨s, hs, hstart, -⟩ := mem_coveredDays.mp hd'
          rcases List.mem_cons.mp hs with rfl | hs
          · omega
          · have hlater := hcur s hs
            omega
        have hend : max last.hi cur.hi = cur.hi := by
          have hle := cur.le
          exact max_eq_right (by omega)
        rw [Finset.card_union_of_disjoint hdisjoint, Nat.cast_add, hlength, add_right_inj,
          ih hcur hrest, hend]
        exact (and_iff_right ⟨fun h => absurd h hoverlap, fun _ => rfl⟩).symm

end

end SmartErpPos.Lib
