/-
  Lib/Apportion.lean --- shares of an amount, with what they miss of it put on one of them.

  Shares that were rounded one by one do not come to the amount they are shares of.  Adding
  what is missing to one share restores the sum.  That share then is the amount less the
  others, whatever it was, so it is negative where the others come to more.
-/
import Mathlib.Algebra.BigOperators.Group.List.Lemmas
import Mathlib.Algebra.Order.BigOperators.Group.List
import Mathlib.Data.Rat.Defs
import Mathlib.Tactic.Abel
import Mathlib.Tactic.Linarith
import Mathlib.Tactic.Ring
import Mathlib.Algebra.Order.Ring.Unbundled.Rat

set_option autoImplicit false

namespace SmartErpPos.Lib

/-- A change of one element, seen through a function. -/
theorem map_modify {α β : Type*} {f : α → α} {g : α → β} {h : β → β} (hcomm : ∀ x, g (f x) = h (g x))
    (xs : List α) (i : ℕ) : (xs.modify i f).map g = (xs.map g).modify i h := by
  induction xs generalizing i with
  | nil => simp
  | cons x rest ih =>
    cases i with
    | zero => simp only [List.modify_zero_cons, List.map_cons, hcomm]
    | succ i => simp only [List.modify_succ_cons, List.map_cons, ih]

section

variable {α : Type*} [AddCommGroup α] {shares : List α} {amount : α} {i : ℕ}

/-- The shares with what they miss of the amount put on one of them. -/
def settleOn (shares : List α) (amount : α) (i : ℕ) : List α :=
  shares.modify i fun share => share + (amount - shares.sum)

@[simp] theorem length_settleOn (shares : List α) (amount : α) (i : ℕ) :
    (settleOn shares amount i).length = shares.length :=
  List.length_modify ..

theorem sum_modify_add (xs : List α) (hi : i < xs.length) (rest : α) :
    (xs.modify i fun x => x + rest).sum = xs.sum + rest := by
  induction xs generalizing i with
  | nil => cases hi
  | cons x xs ih =>
    cases i with
    | zero =>
      rw [List.modify_zero_cons, List.sum_cons, List.sum_cons]
      abel
    | succ i =>
      rw [List.modify_succ_cons, List.sum_cons, List.sum_cons, ih (Nat.lt_of_succ_lt_succ hi)]
      abel

theorem sum_settleOn (hi : i < shares.length) : (settleOn shares amount i).sum = amount := by
  rw [settleOn, sum_modify_add shares hi]
  abel

theorem sum_eraseIdx_add (xs : List α) (hi : i < xs.length) :
    (xs.eraseIdx i).sum + xs[i] = xs.sum := by
  induction xs generalizing i with
  | nil => cases hi
  | cons x xs ih =>
    cases i with
    | zero =>
      rw [List.eraseIdx_zero, List.tail_cons, List.getElem_cons_zero, List.sum_cons]
      abel
    | succ i =>
      rw [List.eraseIdx_cons_succ, List.sum_cons, List.getElem_cons_succ, List.sum_cons,
        ← ih (Nat.lt_of_succ_lt_succ hi)]
      abel

theorem getElem?_settleOn_of_ne {j : ℕ} (h : i ≠ j) :
    (settleOn shares amount i)[j]? = shares[j]? := by
  simp only [settleOn, List.getElem?_modify, if_neg h, id_map']

/-- The share that takes the rest is what the others leave of the amount. -/
theorem getElem?_settleOn_self (hi : i < shares.length) :
    (settleOn shares amount i)[i]? = some (amount - (shares.eraseIdx i).sum) := by
  simp only [settleOn, List.getElem?_modify, if_true, List.getElem?_eq_getElem hi]
  refine congrArg some ?_
  dsimp only
  rw [← sum_eraseIdx_add shares hi, sub_add_eq_sub_sub, add_sub_cancel]

/-- No share is negative exactly when the others leave something for the one that takes the
rest. -/
theorem settleOn_nonneg_iff [LinearOrder α] [IsOrderedAddMonoid α] (hi : i < shares.length)
    (hnonneg : ∀ share ∈ shares, 0 ≤ share) : (∀ share ∈ settleOn shares amount i, 0 ≤ share) ↔ (shares.eraseIdx i).sum ≤ amount := by
  have hself : (settleOn shares amount i)[i]? = some (amount - (shares.eraseIdx i).sum) :=
    getElem?_settleOn_self hi
  constructor
  · intro h
    exact sub_nonneg.mp (h _ (List.mem_of_getElem? hself))
  · intro hle share hshare
    obtain ⟨j, hj⟩ := List.mem_iff_getElem?.mp hshare
    by_cases hij : i = j
    · subst hij
      obtain rfl := Option.some.inj (hself.symm.trans hj)
      exact sub_nonneg.mpr hle
    · rw [getElem?_settleOn_of_ne hij] at hj
      exact hnonneg share (List.mem_of_getElem? hj)

end

/-! ## Shares of a list -/

variable {ι : Type*} {l : List ι} {f g : ι → ℚ} {amount bound : ℚ} {i : ℕ}

/-- Terms that are close have sums that are close. -/
theorem abs_sum_map_sub_le (h : ∀ a ∈ l, |f a - g a| ≤ bound) :
    |(l.map f).sum - (l.map g).sum| ≤ l.length * bound := by
  induction l with
  | nil => simp
  | cons a rest ih =>
    have hhead := h a List.mem_cons_self
    have htail := ih fun b hb => h b (List.mem_cons_of_mem a hb)
    rw [List.map_cons, List.map_cons, List.sum_cons, List.sum_cons, add_sub_add_comm,
      List.length_cons]
    calc |f a - g a + ((rest.map f).sum - (rest.map g).sum)|
        ≤ bound + rest.length * bound := (abs_add_le _ _).trans (add_le_add hhead htail)
      _ = (rest.length + 1 : ℕ) * bound := by
          push_cast
          ring

/-- No share is further from the exact one than all of them together could be. -/
theorem abs_settleOn_sub_le (hi : i < l.length) (hbound : 0 ≤ bound)
    (hexact : (l.map g).sum = amount) (hclose : ∀ a ∈ l, |f a - g a| ≤ bound) {j : ℕ} {a : ι}
    (ha : l[j]? = some a) {share : ℚ} (hshare : (settleOn (l.map f) amount i)[j]? = some share) :
    |share - g a| ≤ l.length * bound := by
  have hone : (1 : ℚ) ≤ l.length := by exact_mod_cast Nat.one_le_of_lt hi
  by_cases hij : i = j
  · subst hij
    have hlen : i < (l.map f).length := by rwa [List.length_map]
    have hg := sum_eraseIdx_add (l.map g) (by rwa [List.length_map] : i < (l.map g).length)
    obtain rfl := Option.some.inj ((getElem?_settleOn_self hlen).symm.trans hshare)
    have hai : l[i] = a := (List.getElem?_eq_some_iff.mp ha).2
    rw [List.getElem_map, hai, hexact, List.eraseIdx_map] at hg
    have hothers := abs_sum_map_sub_le
      (fun b hb => hclose b (List.mem_of_mem_eraseIdx hb) : ∀ b ∈ l.eraseIdx i, |f b - g b| ≤ bound)
    have hcount : ((l.eraseIdx i).length : ℚ) ≤ l.length := by
      exact_mod_cast List.length_eraseIdx_le l i
    rw [List.eraseIdx_map, ← hg, abs_sub_comm]
    refine le_trans (le_of_eq ?_) (hothers.trans (mul_le_mul_of_nonneg_right hcount hbound))
    congr 1
    ring
  · rw [getElem?_settleOn_of_ne hij, List.getElem?_map, ha] at hshare
    obtain rfl := Option.some.inj hshare
    refine (hclose a (List.mem_of_getElem? ha)).trans ?_
    exact le_mul_of_one_le_left hbound hone

end SmartErpPos.Lib
