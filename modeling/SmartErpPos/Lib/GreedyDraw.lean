/-
  Lib/GreedyDraw.lean --- meeting a demand from a list of sources in turn.

  Each source gives what is still wanted or all it has, and the loop ends as soon as
  nothing is wanted.  `f s b x` is what the loop does when `b` gives `x`.

  Where the sources suffice there is one source at which the demand is met: all before
  it are emptied, it gives the rest, and those behind it are not touched
  (`drawFold_of_split`).  Where they do not, all are emptied (`drawFold_of_short`).
-/
import Mathlib.Algebra.Order.Group.Basic
import Mathlib.Algebra.BigOperators.Group.List.Basic
import Mathlib.Algebra.Order.BigOperators.Group.List
import Mathlib.Tactic.Abel

set_option autoImplicit false

namespace SmartErpPos.Lib

universe u v w

variable {α : Type u} {B : Type v} {S : Type w}

/-- Every source gives all it has. -/
def drainAll (cap : B → α) (f : S → B → α → S) (bs : List B) (s : S) : S :=
  bs.foldl (fun s b => f s b (cap b)) s

@[simp] theorem drainAll_nil (cap : B → α) (f : S → B → α → S) (s : S) :
    drainAll cap f [] s = s := rfl

@[simp] theorem drainAll_cons (cap : B → α) (f : S → B → α → S) (b : B) (bs : List B) (s : S) :
    drainAll cap f (b :: bs) s = drainAll cap f bs (f s b (cap b)) := rfl

variable [AddCommGroup α]

/-- What all sources have together. -/
def capTotal (cap : B → α) (bs : List B) : α := (bs.map cap).sum

@[simp] theorem capTotal_nil (cap : B → α) : capTotal cap [] = 0 := rfl

@[simp] theorem capTotal_cons (cap : B → α) (b : B) (bs : List B) :
    capTotal cap (b :: bs) = cap b + capTotal cap bs := rfl

variable [LinearOrder α]

/-- The loop, with its state and the demand that is left. -/
def drawFold (cap : B → α) (f : S → B → α → S) : List B → α → S → S × α
  | [], d, s => (s, d)
  | b :: bs, d, s =>
    if d ≤ 0 then (s, d)
    else drawFold cap f bs (d - min d (cap b)) (f s b (min d (cap b)))

@[simp] theorem drawFold_nil (cap : B → α) (f : S → B → α → S) (d : α) (s : S) :
    drawFold cap f [] d s = (s, d) := rfl

/-- Without a demand nothing is drawn. -/
theorem drawFold_of_nonpos {cap : B → α} {f : S → B → α → S} {d : α} (hd : d ≤ 0) (bs : List B)
    (s : S) : drawFold cap f bs d s = (s, d) := by
  cases bs with
  | nil => rfl
  | cons b bs => exact if_pos hd

variable [IsOrderedAddMonoid α]

theorem capTotal_nonneg {cap : B → α} {bs : List B} (hcap : ∀ b ∈ bs, 0 < cap b) :
    0 ≤ capTotal cap bs := by
  refine List.sum_nonneg fun x hx => ?_
  obtain ⟨b, hb, rfl⟩ := List.mem_map.mp hx
  exact (hcap b hb).le

/-- Sources that do not suffice are emptied. -/
theorem drawFold_of_short {cap : B → α} {f : S → B → α → S} {bs : List B} {d : α}
    (hcap : ∀ b ∈ bs, 0 < cap b) (hshort : capTotal cap bs < d) (s : S) :
    drawFold cap f bs d s = (drainAll cap f bs s, d - capTotal cap bs) := by
  induction bs generalizing d s with
  | nil => simp
  | cons b bs ih =>
    obtain ⟨hb, hbs⟩ := List.forall_mem_cons.mp hcap
    have hrest := capTotal_nonneg hbs
    rw [capTotal_cons] at hshort
    have hpos : ¬ d ≤ 0 := not_le.mpr (lt_of_le_of_lt (add_nonneg hb.le hrest) hshort)
    have hall : min d (cap b) = cap b :=
      min_eq_right (le_trans (le_add_of_nonneg_right hrest) hshort.le)
    have hshort' : capTotal cap bs < d - cap b := lt_sub_iff_add_lt'.mpr hshort
    unfold drawFold
    rw [if_neg hpos, hall, ih hbs hshort', capTotal_cons, drainAll_cons, sub_sub]

/-- The demand is met at `b`: the sources before it are emptied, it gives the rest. -/
theorem drawFold_of_split {cap : B → α} {f : S → B → α → S} {before after : List B} {b : B} {d : α}
    (hcap : ∀ x ∈ before, 0 < cap x) (hmore : capTotal cap before < d)
    (hmet : d ≤ capTotal cap before + cap b) (s : S) :
    drawFold cap f (before ++ b :: after) d s =
      (f (drainAll cap f before s) b (d - capTotal cap before), 0) := by
  induction before generalizing d s with
  | nil =>
    rw [capTotal_nil] at hmore
    rw [capTotal_nil, zero_add] at hmet
    rw [List.nil_append]
    unfold drawFold
    rw [if_neg (not_le.mpr hmore), min_eq_left hmet, sub_self, drawFold_of_nonpos le_rfl,
      capTotal_nil, sub_zero, drainAll_nil]
  | cons x before ih =>
    obtain ⟨hx, hbefore⟩ := List.forall_mem_cons.mp hcap
    have hrest := capTotal_nonneg hbefore
    rw [capTotal_cons] at hmore hmet
    have hpos : ¬ d ≤ 0 := not_le.mpr (lt_of_le_of_lt (add_nonneg hx.le hrest) hmore)
    have hall : min d (cap x) = cap x :=
      min_eq_right (le_trans (le_add_of_nonneg_right hrest) hmore.le)
    have hmore' : capTotal cap before < d - cap x := lt_sub_iff_add_lt'.mpr hmore
    have hmet' : d - cap x ≤ capTotal cap before + cap b := by
      rw [sub_le_iff_le_add']
      rwa [add_assoc] at hmet
    rw [List.cons_append]
    unfold drawFold
    rw [if_neg hpos, hall, ih hbefore hmore' hmet', capTotal_cons, drainAll_cons, sub_sub]

/-- Sources that suffice meet the demand at one of them. -/
theorem exists_split {cap : B → α} {bs : List B} {d : α} (hd : 0 < d)
    (henough : d ≤ capTotal cap bs) :
    ∃ before b after, bs = before ++ b :: after ∧ capTotal cap before < d ∧
      d ≤ capTotal cap before + cap b := by
  induction bs generalizing d with
  | nil => exact absurd (lt_of_lt_of_le hd henough) (lt_irrefl 0)
  | cons b bs ih =>
    rw [capTotal_cons] at henough
    rcases le_or_gt d (cap b) with hle | hlt
    · exact ⟨[], b, bs, rfl, hd, by rwa [capTotal_nil, zero_add]⟩
    · obtain ⟨before, x, after, rfl, hmore, hmet⟩ :=
        ih (sub_pos.mpr hlt) (sub_le_iff_le_add'.mpr henough)
      refine ⟨b :: before, x, after, rfl, ?_, ?_⟩
      · rw [capTotal_cons]
        exact lt_sub_iff_add_lt'.mp hmore
      · rw [capTotal_cons, add_assoc]
        exact sub_le_iff_le_add'.mp hmet

end SmartErpPos.Lib
