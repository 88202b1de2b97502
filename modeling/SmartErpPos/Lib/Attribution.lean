/-
  Lib/Attribution.lean --- amounts credited to everyone they concern.

  Items carry amounts, and each owner is credited the items that concern it.  Summed over the
  owners an item counts as often as it has owners, so the owners together have the total of
  the items exactly when each item has one owner.
-/
import Mathlib.Algebra.Order.BigOperators.Group.Finset
import Mathlib.Algebra.Order.BigOperators.Group.List
import SmartErpPos.Lib.KeyedSum

set_option autoImplicit false

namespace SmartErpPos.Lib

universe u v w

variable {α : Type u} {β : Type v} {M : Type w}

section Counting

variable [AddCommMonoid M]

/-- A filtered sum, with nothing for what is left out. -/
theorem sum_map_filter (p : β → Bool) (f : β → M) (items : List β) :
    ((items.filter p).map f).sum = (items.map fun b => if p b then f b else 0).sum := by
  induction items with
  | nil => rfl
  | cons b items ih =>
    rw [List.filter_cons, List.map_cons, List.sum_cons, ← ih]
    split
    · rw [List.map_cons, List.sum_cons]
    · rw [zero_add]

/-- Over all owners an item counts as often as it has owners. -/
theorem sum_attributed (owners : List α) (items : List β) (concerns : α → β → Bool) (f : β → M) :
    (owners.map fun a => ((items.filter (concerns a)).map f).sum).sum =
      (items.map fun b => owners.countP (fun a => concerns a b) • f b).sum := by
  induction owners with
  | nil => simp
  | cons a owners ih =>
    rw [List.map_cons, List.sum_cons, ih, sum_map_filter, ← List.sum_map_add]
    refine congrArg List.sum (List.map_congr_left fun b _ => ?_)
    rw [List.countP_cons]
    split
    · rw [add_nsmul, one_nsmul, add_comm]
    · rw [add_zero, zero_add]

end Counting

section Ordered

variable [AddCommGroup M] [LinearOrder M] [IsOrderedAddMonoid M]

/-- With positive amounts and an owner for each, the owners have the total exactly when no
item has two. -/
theorem sum_attributed_eq_iff {owners : List α} {items : List β} {concerns : α → β → Bool}
    {f : β → M} (hpos : ∀ b ∈ items, 0 < f b)
    (howned : ∀ b ∈ items, 1 ≤ owners.countP fun a => concerns a b) :
    (owners.map fun a => ((items.filter (concerns a)).map f).sum).sum = (items.map f).sum ↔
      ∀ b ∈ items, (owners.countP fun a => concerns a b) = 1 := by
  rw [sum_attributed]
  constructor
  · intro hsum b hb
    by_contra hne
    have hmore : 1 < owners.countP fun a => concerns a b :=
      lt_of_le_of_ne (howned b hb) (Ne.symm hne)
    have hle : ∀ c ∈ items, f c ≤ (owners.countP fun a => concerns a c) • f c := by
      intro c hc
      exact le_self_nsmul (hpos c hc).le (Nat.one_le_iff_ne_zero.mp (howned c hc))
    have hlt : f b < (owners.countP fun a => concerns a b) • f b := by
      calc f b = 1 • f b := (one_nsmul _).symm
        _ < (owners.countP fun a => concerns a b) • f b := nsmul_lt_nsmul_left (hpos b hb) hmore
    exact absurd hsum (List.sum_lt_sum _ _ hle ⟨b, hb, hlt⟩).ne'
  · intro hone
    refine congrArg List.sum (List.map_congr_left fun b hb => ?_)
    rw [hone b hb, one_nsmul]

/-- Amounts that fit group by group fit together. -/
theorem sum_le_of_groups {γ : Type*} {K : Type*} [DecidableEq K] (key : β → K) (key' : γ → K)
    {items : List β} {bounds : List γ} {f : β → M} {g : γ → M}
    (h : ∀ k, ((items.filter fun b => key b = k).map f).sum ≤
      ((bounds.filter fun c => key' c = k).map g).sum) :
    (items.map f).sum ≤ (bounds.map g).sum := by
  have hitems : ∀ b ∈ items, key b ∈ (items.map key ++ bounds.map key').toFinset := fun b hb =>
    List.mem_toFinset.mpr (List.mem_append_left _ (List.mem_map_of_mem hb))
  have hbounds : ∀ c ∈ bounds, key' c ∈ (items.map key ++ bounds.map key').toFinset := fun c hc =>
    List.mem_toFinset.mpr (List.mem_append_right _ (List.mem_map_of_mem hc))
  rw [← sum_groups hitems, ← sum_groups hbounds]
  exact Finset.sum_le_sum fun k _ => h k

end Ordered

end SmartErpPos.Lib
