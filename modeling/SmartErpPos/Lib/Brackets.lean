/-
  Lib/Brackets.lean --- sums over brackets, each with a rate on the part inside it.

  A bracket begins at a point and may end at another.  The sum charges every bracket its rate
  on the part of an amount that lies inside it.  Between two points at which no bracket
  begins or ends the sum is a straight line, whose slope is the rate of the brackets that
  cover the first; `bracket_induction` walks from one such point to the next.
-/
import Mathlib.Algebra.BigOperators.Group.List.Basic
import Mathlib.Algebra.Order.BigOperators.Group.List
import Mathlib.Algebra.Order.Field.Basic
import Mathlib.Data.Finset.Max
import Mathlib.Tactic.Linarith
import Mathlib.Tactic.Ring

set_option autoImplicit false

namespace SmartErpPos.Lib

universe u

variable {K : Type u} [Field K] [LinearOrder K] [IsStrictOrderedRing K]

/-- From `start` on, up to `stop` where there is one. -/
structure Bracket (K : Type u) where
  start : K
  stop : Option K
  rate : K

namespace Bracket

/-- The part of an amount inside the bracket. -/
def part (b : Bracket K) (t : K) : K :=
  match b.stop with
  | some s => max 0 (min t s - b.start)
  | none => max 0 (t - b.start)

/-- The bracket contains the point, and what follows it. -/
def Covers (b : Bracket K) (t : K) : Prop := b.start ≤ t ∧ ∀ s ∈ b.stop, t < s

instance (b : Bracket K) (t : K) : Decidable (b.Covers t) :=
  inferInstanceAs (Decidable (_ ∧ _))

/-- Where the bracket begins and where it ends. -/
def ends (b : Bracket K) : List K := b.start :: b.stop.toList

theorem part_mono (b : Bracket K) {p t : K} (h : p ≤ t) : b.part p ≤ b.part t := by
  unfold part
  cases b.stop with
  | none => exact max_le_max le_rfl (sub_le_sub_right h _)
  | some s => exact max_le_max le_rfl (sub_le_sub_right (min_le_min_right s h) _)

/-- Between two points that no end divides, a bracket takes all or nothing. -/
theorem part_sub {b : Bracket K} {p t : K} (hlt : p < t)
    (hends : ∀ c ∈ b.ends, ¬ (p < c ∧ c < t)) :
    b.part t - b.part p = if b.Covers p then t - p else 0 := by
  have hstart : b.start ≤ p ∨ t ≤ b.start := by
    by_contra h
    obtain ⟨hp, ht⟩ := not_or.mp h
    exact hends b.start List.mem_cons_self ⟨not_le.mp hp, not_le.mp ht⟩
  obtain ⟨start, stop, rate⟩ := b
  unfold part Covers
  cases stop with
  | none =>
    simp only [reduceCtorEq, Option.mem_def, false_imp_iff, implies_true, and_true]
    rcases hstart with hbefore | hafter
    · rw [if_pos hbefore, max_eq_right (by linarith), max_eq_right (by linarith)]
      ring
    · rw [if_neg (by linarith), max_eq_left (by linarith), max_eq_left (by linarith), sub_zero]
  | some s =>
    have hs : s ≤ p ∨ t ≤ s := by
      by_contra h
      obtain ⟨hp, ht⟩ := not_or.mp h
      exact hends s (List.mem_cons_of_mem _ List.mem_cons_self) ⟨not_le.mp hp, not_le.mp ht⟩
    simp only [Option.mem_def, Option.some.injEq, forall_eq']
    rcases hs with hover | hunder
    · rw [if_neg fun h => absurd h.2 (not_lt.mpr hover), min_eq_right hover,
        min_eq_right (hover.trans hlt.le), sub_self]
    · rw [min_eq_left hunder, min_eq_left (hlt.le.trans hunder)]
      rcases hstart with hbefore | hafter
      · rw [if_pos ⟨hbefore, hlt.trans_le hunder⟩, max_eq_right (by linarith),
          max_eq_right (by linarith)]
        ring
      · rw [if_neg (by rintro ⟨h, -⟩; linarith), max_eq_left (by linarith),
          max_eq_left (by linarith), sub_zero]

end Bracket

/-! ## Sums -/

/-- Every bracket's rate on the part inside it. -/
def bracketSum (bs : List (Bracket K)) (t : K) : K := (bs.map fun b => b.rate * b.part t).sum

/-- The rate of the brackets that cover a point. -/
def rateAt (bs : List (Bracket K)) (t : K) : K :=
  ((bs.filter fun b => decide (b.Covers t)).map (·.rate)).sum

/-- Where brackets begin and end. -/
def bracketEnds (bs : List (Bracket K)) : List K := bs.flatMap Bracket.ends

theorem bracketSum_mono {bs : List (Bracket K)} (hrates : ∀ b ∈ bs, 0 ≤ b.rate) {p t : K}
    (h : p ≤ t) : bracketSum bs p ≤ bracketSum bs t := by
  refine List.sum_le_sum fun b hb => ?_
  exact mul_le_mul_of_nonneg_left (b.part_mono h) (hrates b hb)

/-- Between two points that no end divides the sum is a straight line. -/
theorem bracketSum_sub {bs : List (Bracket K)} {p t : K} (hlt : p < t)
    (hends : ∀ c ∈ bracketEnds bs, ¬ (p < c ∧ c < t)) :
    bracketSum bs t = bracketSum bs p + (t - p) * rateAt bs p := by
  unfold bracketSum rateAt
  induction bs with
  | nil => simp
  | cons b rest ih =>
    have hb : b.part t = b.part p + if b.Covers p then t - p else 0 := by
      rw [← Bracket.part_sub hlt fun c hc =>
        hends c (List.mem_flatMap.mpr ⟨b, List.mem_cons_self, hc⟩)]
      ring
    have ih := ih fun c hc => by
      obtain ⟨b', hb', hc⟩ := List.mem_flatMap.mp hc
      exact hends c (List.mem_flatMap.mpr ⟨b', List.mem_cons_of_mem _ hb', hc⟩)
    rw [List.map_cons, List.sum_cons, ih, List.map_cons, List.sum_cons, hb, List.filter_cons]
    by_cases hcovers : b.Covers p
    · rw [if_pos hcovers, if_pos (decide_eq_true hcovers), List.map_cons, List.sum_cons]
      ring
    · rw [if_neg hcovers, if_neg (by simpa using hcovers)]
      ring

omit [Field K] [IsStrictOrderedRing K] in
/-- What holds at an end and is carried on to every point that no end divides from the last one
holds wherever one gets. -/
theorem bracket_induction {bs : List (Bracket K)} {P : K → Prop} {a t : K}
    (ha : a ∈ bracketEnds bs) (hat : a ≤ t) (hstart : P a)
    (hstep : ∀ p q, p ∈ bracketEnds bs → a ≤ p → p < q → q ≤ t →
      (∀ c ∈ bracketEnds bs, ¬ (p < c ∧ c < q)) → P p → P q) : P t := by
  -- By the number of ends below the point that are not below the start.
  generalize hn : ((bracketEnds bs).toFinset.filter fun c => a ≤ c ∧ c < t).card = n
  induction n using Nat.strong_induction_on generalizing t with
  | _ n ih =>
    rcases hat.eq_or_lt with rfl | hlt
    · exact hstart
    · have hne : ((bracketEnds bs).toFinset.filter fun c => a ≤ c ∧ c < t).Nonempty :=
        ⟨a, Finset.mem_filter.mpr ⟨List.mem_toFinset.mpr ha, le_rfl, hlt⟩⟩
      obtain ⟨p, hp, hmax⟩ := Finset.exists_max_image _ id hne
      obtain ⟨hpends, hap, hpt⟩ := Finset.mem_filter.mp hp
      have hfree : ∀ c ∈ bracketEnds bs, ¬ (p < c ∧ c < t) := fun c hc hbetween =>
        absurd (hmax c (Finset.mem_filter.mpr
          ⟨List.mem_toFinset.mpr hc, hap.trans hbetween.1.le, hbetween.2⟩)) (not_le.mpr hbetween.1)
      refine hstep p t (List.mem_toFinset.mp hpends) hap hpt le_rfl hfree ?_
      refine ih _ ?_ hap (fun p' q hp' hap' hlt' hq => hstep p' q hp' hap' hlt' (hq.trans hpt.le)) rfl
      rw [← hn]
      refine Finset.card_lt_card (Finset.ssubset_iff_subset_ne.mpr ⟨fun c hc => ?_, fun heq => ?_⟩)
      · obtain ⟨hmem, hac, hcp⟩ := Finset.mem_filter.mp hc
        exact Finset.mem_filter.mpr ⟨hmem, hac, hcp.trans hpt⟩
      · rw [← heq] at hp
        exact absurd (Finset.mem_filter.mp hp).2.2 (lt_irrefl p)

section

variable {bs : List (Bracket K)} {a t r : K}

/-- The sum grows by one rate, where that is the rate at every end on the way. -/
theorem bracketSum_of_rate (ha : a ∈ bracketEnds bs) (hat : a ≤ t)
    (hrate : ∀ p ∈ bracketEnds bs, a ≤ p → p < t → rateAt bs p = r) :
    bracketSum bs t = bracketSum bs a + (t - a) * r := by
  refine bracket_induction (P := fun q => bracketSum bs q = bracketSum bs a + (q - a) * r) ha hat
    (by ring) fun p q hp hap hlt hq hfree hsum => ?_
  rw [bracketSum_sub hlt hfree, hsum, hrate p hp hap (hlt.trans_le hq)]
  ring

/-- Rates of at most one at the ends charge no more than the amount. -/
theorem bracketSum_le (ha : a ∈ bracketEnds bs) (hat : a ≤ t)
    (hrate : ∀ p ∈ bracketEnds bs, a ≤ p → rateAt bs p ≤ 1) :
    bracketSum bs t ≤ bracketSum bs a + (t - a) := by
  refine bracket_induction (P := fun q => bracketSum bs q ≤ bracketSum bs a + (q - a)) ha hat
    (by linarith) fun p q hp hap hlt _ hfree hsum => ?_
  rw [bracketSum_sub hlt hfree]
  have hslope := mul_le_mul_of_nonneg_left (hrate p hp hap) (sub_nonneg.mpr hlt.le)
  linarith

end

end SmartErpPos.Lib
