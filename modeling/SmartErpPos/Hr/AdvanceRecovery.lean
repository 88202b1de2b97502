/-
  Hr/AdvanceRecovery.lean --- advances recovered from the oldest on.

  `TakenInOrder` says what a recovery in list order is: each open advance gives all it has
  until the rest of the amount is met.  The loop produces such a recovery whenever the open
  amounts suffice.
-/
import Mathlib.Data.List.Forall2
import SmartErpPos.Hr.Payroll

set_option autoImplicit false

namespace SmartErpPos.Hr

open SmartErpPos.Lib

/-- A recovery of an amount in the order of the advances. -/
inductive TakenInOrder : List OpenAdvance → ℚ → List AdvanceRecovery → Prop
  | met (advs : List OpenAdvance) : TakenInOrder advs 0 []
  | closed {adv : OpenAdvance} {rest : List OpenAdvance} {d : ℚ} {out : List AdvanceRecovery} :
      adv.remainingAmount ≤ 0 → TakenInOrder rest d out → TakenInOrder (adv :: rest) d out
  | take {adv : OpenAdvance} {rest : List OpenAdvance} {d : ℚ} {out : List AdvanceRecovery} :
      0 < adv.remainingAmount → 0 < d →
      TakenInOrder rest (d - min adv.remainingAmount d) out →
      TakenInOrder (adv :: rest) d (⟨adv.id, min adv.remainingAmount d⟩ :: out)

namespace TakenInOrder

variable {advs : List OpenAdvance} {d : ℚ} {out : List AdvanceRecovery}

/-- The amount is recovered exactly. -/
theorem sum_eq (h : TakenInOrder advs d out) : (out.map (·.amount)).sum = d := by
  induction h with
  | met => rfl
  | closed _ _ ih => exact ih
  | take _ _ _ ih =>
    rw [List.map_cons, List.sum_cons, ih]
    ring

end TakenInOrder

/-- What the open advances hold. -/
def openTotal (advs : List OpenAdvance) : ℚ := (advs.map fun adv => max 0 adv.remainingAmount).sum

theorem openTotal_nonneg (advs : List OpenAdvance) : 0 ≤ openTotal advs := by
  refine List.sum_nonneg fun x hx => ?_
  obtain ⟨adv, -, rfl⟩ := List.mem_map.mp hx
  exact le_max_left _ _

theorem sum_le_openTotal (advs : List OpenAdvance) :
    (advs.map (·.remainingAmount)).sum ≤ openTotal advs :=
  List.sum_le_sum fun _ _ => le_max_right _ _

/-- Open amounts that suffice are taken in order, and nothing is left to recover. -/
theorem recoveryLoop_taken {advs : List OpenAdvance}
    (hcents : ∀ adv ∈ advs, OnGrid 2 adv.remainingAmount) {d : ℚ} (hd : OnGrid 2 d) (hnonneg : 0 ≤ d)
    (henough : d ≤ openTotal advs) :
    ∃ out, recoveryLoop advs d = (out, 0) ∧ TakenInOrder advs d out := by
  induction advs generalizing d with
  | nil =>
    obtain rfl := le_antisymm henough hnonneg
    exact ⟨[], rfl, .met []⟩
  | cons adv rest ih =>
    obtain ⟨hadv, hrest⟩ := List.forall_mem_cons.mp hcents
    have hrem : money2 adv.remainingAmount = adv.remainingAmount := hadv.roundTo_eq
    unfold openTotal at henough
    rw [List.map_cons, List.sum_cons] at henough
    by_cases hzero : d ≤ 0
    · obtain rfl := le_antisymm hzero hnonneg
      exact ⟨[], by simp only [recoveryLoop, le_refl, if_true], .met _⟩
    have hpos := not_le.mp hzero
    by_cases hclosed : adv.remainingAmount ≤ 0
    · rw [max_eq_left hclosed, zero_add] at henough
      obtain ⟨out, hloop, htaken⟩ := ih hrest hd hnonneg henough
      refine ⟨out, ?_, .closed hclosed htaken⟩
      simp only [recoveryLoop, hrem]
      rw [if_neg hzero, if_pos hclosed, hloop]
    · have hopen := not_le.mp hclosed
      have htake : money2 (if adv.remainingAmount < d then adv.remainingAmount else d) =
          min adv.remainingAmount d := by
        split
        · rename_i hlt
          rw [hrem, min_eq_left hlt.le]
        · rename_i hge
          rw [money2, hd.roundTo_eq, min_eq_right (not_lt.mp hge)]
      have hmin : OnGrid 2 (min adv.remainingAmount d) := by
        rcases min_choice adv.remainingAmount d with h | h
        · rwa [h]
        · rwa [h]
      have hleft : money2 (d - min adv.remainingAmount d) = d - min adv.remainingAmount d :=
        (hd.sub hmin).roundTo_eq
      rw [max_eq_right hopen.le] at henough
      have hnext : d - min adv.remainingAmount d ≤ openTotal rest := by
        rcases min_choice adv.remainingAmount d with h | h
        · rw [h]
          unfold openTotal
          linarith
        · rw [h, sub_self]
          exact openTotal_nonneg rest
      obtain ⟨out, hloop, htaken⟩ := ih hrest (hd.sub hmin)
        (sub_nonneg.mpr (min_le_right _ _)) hnext
      refine ⟨⟨adv.id, min adv.remainingAmount d⟩ :: out, ?_, .take hopen hpos htaken⟩
      simp only [recoveryLoop, hrem, htake, hleft, hloop]
      rw [if_neg hzero, if_neg hclosed, if_neg (not_le.mpr (lt_min hopen hpos))]

/-- An amount within the open advances is recovered from them in order. -/
theorem allocateFifoRecovery_ok {advs : List OpenAdvance}
    (hcents : ∀ adv ∈ advs, OnGrid 2 adv.remainingAmount) {d : ℚ} (hd : OnGrid 2 d) (hnonneg : 0 ≤ d)
    (henough : d ≤ openTotal advs) :
    ∃ out, allocateFifoRecovery advs d = .ok out ∧ TakenInOrder advs d out := by
  have hround : money2 d = d := hd.roundTo_eq
  unfold allocateFifoRecovery
  rw [hround]
  by_cases hzero : d ≤ 0
  · obtain rfl := le_antisymm hzero hnonneg
    exact ⟨[], if_pos le_rfl, .met advs⟩
  · obtain ⟨out, hloop, htaken⟩ := recoveryLoop_taken hcents hd hnonneg henough
    refine ⟨out, ?_, htaken⟩
    rw [if_neg hzero, hloop]
    exact if_neg (lt_irrefl 0)

end SmartErpPos.Hr
