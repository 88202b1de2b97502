/-
  Lib/GreedyMatching.lean --- choosing pairs greedily, each side at most once.

  The pairs are met in order; one is taken when neither of its sides is used yet.  The pairs
  taken share no side.  When the matching is made again without some of the taken pairs, it
  takes the other ones, unless it takes a pair that shares a side with one of those left out.
-/
import Mathlib.Data.List.Basic

set_option autoImplicit false

namespace SmartErpPos.Lib

universe u v w

variable {E : Type u} {A : Type v} {B : Type w} [DecidableEq A] [DecidableEq B]

/-- The pairs taken, given the sides used so far. -/
def greedyMatching (left : E → A) (right : E → B) : List A → List B → List E → List E
  | _, _, [] => []
  | usedLeft, usedRight, e :: rest =>
    if left e ∈ usedLeft ∨ right e ∈ usedRight then greedyMatching left right usedLeft usedRight rest
    else e :: greedyMatching left right (left e :: usedLeft) (right e :: usedRight) rest

section

variable {left : E → A} {right : E → B}

/-- A pair that is taken was there, and its sides were not used. -/
theorem mem_greedyMatching {es : List E} {usedLeft : List A} {usedRight : List B} {e : E}
    (h : e ∈ greedyMatching left right usedLeft usedRight es) :
    e ∈ es ∧ left e ∉ usedLeft ∧ right e ∉ usedRight := by
  induction es generalizing usedLeft usedRight with
  | nil => cases h
  | cons x rest ih =>
    unfold greedyMatching at h
    split at h
    · obtain ⟨hmem, hfree⟩ := ih h
      exact ⟨List.mem_cons_of_mem x hmem, hfree⟩
    · rename_i hx
      rcases List.mem_cons.mp h with rfl | h
      · exact ⟨List.mem_cons_self, not_or.mp hx⟩
      · obtain ⟨hmem, hleft, hright⟩ := ih h
        exact ⟨List.mem_cons_of_mem x hmem, fun hused => hleft (List.mem_cons_of_mem _ hused),
          fun hused => hright (List.mem_cons_of_mem _ hused)⟩

/-- Two pairs taken share no side. -/
theorem pairwise_greedyMatching (es : List E) (usedLeft : List A) (usedRight : List B) :
    (greedyMatching left right usedLeft usedRight es).Pairwise fun e x =>
      left e ≠ left x ∧ right e ≠ right x := by
  induction es generalizing usedLeft usedRight with
  | nil => exact .nil
  | cons e rest ih =>
    unfold greedyMatching
    split
    · exact ih usedLeft usedRight
    · refine .cons (fun x hx => ?_) (ih _ _)
      obtain ⟨-, hleft, hright⟩ := mem_greedyMatching hx
      exact ⟨fun heq => hleft (heq ▸ List.mem_cons_self),
        fun heq => hright (heq ▸ List.mem_cons_self)⟩

/-- The matching without some of the pairs: it takes the other ones again, unless it takes a
pair that shares a side with one of those left out. -/
theorem greedyMatching_filter {p : E → Bool} {es : List E} {usedLeft usedLeft' : List A}
    {usedRight usedRight' : List B} (hleft : ∀ a ∈ usedLeft', a ∈ usedLeft)
    (hright : ∀ b ∈ usedRight', b ∈ usedRight)
    (hfree : ∀ s ∈ greedyMatching left right usedLeft' usedRight' (es.filter p),
      (left s ∈ usedLeft → left s ∈ usedLeft') ∧ (right s ∈ usedRight → right s ∈ usedRight') ∧
        ∀ e ∈ es, p e = false → left s ≠ left e ∧ right s ≠ right e) :
    greedyMatching left right usedLeft' usedRight' (es.filter p) =
      (greedyMatching left right usedLeft usedRight es).filter p := by
  induction es generalizing usedLeft usedLeft' usedRight usedRight' with
  | nil => rfl
  | cons e rest ih =>
    cases hp : p e with
    | false =>
      rw [List.filter_cons_of_neg (by rw [hp]; exact Bool.false_ne_true)] at hfree ⊢
      have hrest : ∀ s ∈ greedyMatching left right usedLeft' usedRight' (rest.filter p),
          ∀ x ∈ rest, p x = false → left s ≠ left x ∧ right s ≠ right x := fun s hs x hx =>
        (hfree s hs).2.2 x (List.mem_cons_of_mem e hx)
      by_cases hused : left e ∈ usedLeft ∨ right e ∈ usedRight
      · rw [greedyMatching, if_pos hused]
        exact ih hleft hright fun s hs => ⟨(hfree s hs).1, (hfree s hs).2.1, hrest s hs⟩
      · rw [greedyMatching, if_neg hused,
          List.filter_cons_of_neg (by rw [hp]; exact Bool.false_ne_true)]
        refine ih (fun a ha => List.mem_cons_of_mem _ (hleft a ha))
          (fun b hb => List.mem_cons_of_mem _ (hright b hb)) fun s hs => ?_
        -- the sides of `e` are not used by the second matching, but it does not need them
        obtain ⟨hl, hr, hothers⟩ := hfree s hs
        obtain ⟨hneLeft, hneRight⟩ := hothers e List.mem_cons_self hp
        refine ⟨fun hmem => hl ((List.mem_cons.mp hmem).resolve_left hneLeft),
          fun hmem => hr ((List.mem_cons.mp hmem).resolve_left hneRight), hrest s hs⟩
    | true =>
      rw [List.filter_cons_of_pos hp] at hfree ⊢
      by_cases hused : left e ∈ usedLeft ∨ right e ∈ usedRight
      · have hused' : left e ∈ usedLeft' ∨ right e ∈ usedRight' := by
          by_contra hnot
          rw [greedyMatching, if_neg hnot] at hfree
          obtain ⟨hl, hr, -⟩ := hfree e List.mem_cons_self
          exact hnot (hused.imp hl hr)
        rw [greedyMatching, if_pos hused'] at hfree ⊢
        rw [greedyMatching, if_pos hused]
        refine ih hleft hright fun s hs => ?_
        obtain ⟨hl, hr, hothers⟩ := hfree s hs
        exact ⟨hl, hr, fun x hx => hothers x (List.mem_cons_of_mem e hx)⟩
      · have hused' : ¬ (left e ∈ usedLeft' ∨ right e ∈ usedRight') := fun h =>
          hused (h.imp (hleft _) (hright _))
        rw [greedyMatching, if_neg hused'] at hfree ⊢
        rw [greedyMatching, if_neg hused, List.filter_cons_of_pos hp]
        refine congrArg (e :: ·) (ih (fun a ha => ?_) (fun b hb => ?_) fun s hs => ?_)
        · exact (List.mem_cons.mp ha).elim (fun h => h ▸ List.mem_cons_self)
            fun h => List.mem_cons_of_mem _ (hleft a h)
        · exact (List.mem_cons.mp hb).elim (fun h => h ▸ List.mem_cons_self)
            fun h => List.mem_cons_of_mem _ (hright b h)
        · obtain ⟨hl, hr, hothers⟩ := hfree s (List.mem_cons_of_mem e hs)
          refine ⟨fun hmem => ?_, fun hmem => ?_, fun x hx => hothers x (List.mem_cons_of_mem e hx)⟩
          · exact (List.mem_cons.mp hmem).elim (fun h => h ▸ List.mem_cons_self)
              fun h => List.mem_cons_of_mem _ (hl h)
          · exact (List.mem_cons.mp hmem).elim (fun h => h ▸ List.mem_cons_self)
              fun h => List.mem_cons_of_mem _ (hr h)

end

end SmartErpPos.Lib
