/-
  Lib/TolerantDraw.lean --- meeting a demand from sources in turn, to a tolerance.

  Amounts up to `ε` count as nothing: the loop ends when no more than `ε` is wanted, and
  skips a source that could give no more than `ε`.  What it draws never exceeds a source
  or the demand.  It meets a demand exactly when some source ends it on the spot:
  the demand is more than `ε` above what the earlier usable sources give, and not above
  what they give with that source (`sum_tolerantDraws_eq_iff`).
-/
import Mathlib.Algebra.Order.Group.Basic
import Mathlib.Algebra.BigOperators.Group.List.Basic
import Mathlib.Algebra.Order.BigOperators.Group.List

set_option autoImplicit false

namespace SmartErpPos.Lib

universe u v

variable {α : Type u} {B : Type v} [AddCommGroup α] [LinearOrder α]

/-- The draws from the sources, in their order. -/
def tolerantDraws (ε : α) (cap : B → α) : List B → α → List (B × α)
  | [], _ => []
  | b :: bs, d =>
    if ε < d then
      if ε < min (cap b) d then (b, min (cap b) d) :: tolerantDraws ε cap bs (d - min (cap b) d)
      else tolerantDraws ε cap bs d
    else []

variable {ε : α} {cap : B → α}

theorem tolerantDraws_of_le {d : α} (h : d ≤ ε) (bs : List B) : tolerantDraws ε cap bs d = [] := by
  cases bs with
  | nil => rfl
  | cons b bs => rw [tolerantDraws, if_neg h.not_gt]

/-- A draw is more than the tolerance and no more than its source. -/
theorem mem_tolerantDraws {bs : List B} {d : α} {x : B × α} (h : x ∈ tolerantDraws ε cap bs d) :
    ε < x.2 ∧ x.2 ≤ cap x.1 := by
  induction bs generalizing d with
  | nil => cases h
  | cons b bs ih =>
    rw [tolerantDraws] at h
    split at h
    · split at h
      · rename_i hdraw
        rcases List.mem_cons.mp h with rfl | h
        · exact ⟨hdraw, min_le_left _ _⟩
        · exact ih h
      · exact ih h
    · cases h

variable (ε cap) in
/-- No source is drawn from twice. -/
theorem tolerantDraws_sublist (bs : List B) (d : α) :
    List.Sublist ((tolerantDraws ε cap bs d).map Prod.fst) bs := by
  induction bs generalizing d with
  | nil => exact List.Sublist.refl _
  | cons b bs ih =>
    rw [tolerantDraws]
    split
    · split
      · exact (ih _).cons_cons b
      · exact (ih d).cons b
    · exact List.nil_sublist _

/-- Some source meets the demand on the spot.  `caps` are the usable sources. -/
def EndsAtSource (ε : α) (caps : List α) (d : α) : Prop :=
  ∃ n, (caps.take n).sum + ε < d ∧ d ≤ (caps.take (n + 1)).sum

variable [IsOrderedAddMonoid α]

theorem endsAtSource_cons_iff {c : α} {caps : List α} {d : α} (hc : c < d) :
    EndsAtSource ε (c :: caps) d ↔ EndsAtSource ε caps (d - c) := by
  constructor
  · rintro ⟨n, hmore, hmet⟩
    cases n with
    | zero =>
      simp only [List.take_succ_cons, List.take_zero, List.sum_cons, List.sum_nil, add_zero] at hmet
      exact absurd hmet hc.not_ge
    | succ n =>
      rw [List.take_succ_cons, List.sum_cons] at hmore hmet
      exact ⟨n, lt_sub_iff_add_lt'.mpr (by rwa [← add_assoc]), sub_le_iff_le_add'.mpr hmet⟩
  · rintro ⟨n, hmore, hmet⟩
    refine ⟨n + 1, ?_, ?_⟩
    · rw [List.take_succ_cons, List.sum_cons, add_assoc]
      exact lt_sub_iff_add_lt'.mp hmore
    · rw [List.take_succ_cons, List.sum_cons]
      exact sub_le_iff_le_add'.mp hmet

variable (cap) in
/-- A demand is met exactly when it ends at one of the sources above the tolerance. -/
theorem sum_tolerantDraws_eq_iff (hε : 0 ≤ ε) (bs : List B) {d : α} (hd : 0 < d) :
    ((tolerantDraws ε cap bs d).map Prod.snd).sum = d ↔
      EndsAtSource ε ((bs.map cap).filter fun c => ε < c) d := by
  induction bs generalizing d with
  | nil =>
    refine iff_of_false (fun h => hd.ne h) ?_
    rintro ⟨n, -, hmet⟩
    simp only [List.map_nil, List.filter_nil, List.take_nil, List.sum_nil] at hmet
    exact hd.not_ge hmet
  | cons b bs ih =>
    rcases le_or_gt d ε with hsmall | hlarge
    · rw [tolerantDraws_of_le hsmall]
      refine iff_of_false (fun h => hd.ne h) ?_
      rintro ⟨n, hmore, -⟩
      have hnonneg : 0 ≤ ((((b :: bs).map cap).filter fun c => ε < c).take n).sum := by
        refine List.sum_nonneg fun c hc => ?_
        have hmem := (List.mem_filter.mp (List.mem_of_mem_take hc)).2
        exact hε.trans (of_decide_eq_true hmem).le
      exact hsmall.not_gt (lt_of_le_of_lt (le_add_of_nonneg_left hnonneg) hmore)
    · rw [tolerantDraws, if_pos hlarge, List.map_cons]
      rcases le_or_gt (cap b) ε with hskip | huse
      · -- the source is skipped on both sides
        rw [if_neg (fun h => hskip.not_gt (h.trans_le (min_le_left _ _))),
          List.filter_cons_of_neg (by simpa using hskip)]
        exact ih hd
      · rw [if_pos (lt_min huse hlarge), List.filter_cons_of_pos (by simpa using huse),
          List.map_cons, List.sum_cons]
        rcases le_or_gt d (cap b) with hmet | hmore
        · rw [min_eq_right hmet, sub_self, tolerantDraws_of_le hε, List.map_nil, List.sum_nil,
            add_zero]
          refine iff_of_true rfl ⟨0, ?_, ?_⟩
          · simpa using hlarge
          · simpa using hmet
        · rw [min_eq_left hmore.le, endsAtSource_cons_iff hmore, ← ih (sub_pos.mpr hmore)]
          exact eq_sub_iff_add_eq'.symm

end SmartErpPos.Lib
