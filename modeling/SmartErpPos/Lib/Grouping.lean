/-
  Lib/Grouping.lean --- collecting a list into groups by a key.

  The pass looks the group of an element up, appends to it and writes it back.  The
  group of a key holds the elements with that key in the order of the list
  (`getD_get?_groupInto`), and all groups together hold the list (`flatten_groupInto`).

  Two selections from one list of which the second drops no more than the first give the
  same result exactly when they agree on every element (`filterMap_eq_iff`).
-/
import Mathlib.Data.List.Perm.Basic
import Mathlib.Data.List.Induction
import SmartErpPos.Lib.OrderedMap

set_option autoImplicit false

namespace SmartErpPos.Lib

universe u v w

variable {A : Type u} {K : Type v} {V : Type w} [DecidableEq K]

/-- The elements of a list, each under its key. -/
def groupInto (key : A → K) (val : A → V) (l : List A) : OrderedMap K (List V) :=
  l.foldl (fun groups a => groups.set (key a) ((groups.get? (key a)).getD [] ++ [val a]))
    OrderedMap.empty

/-- The elements with a key. -/
def withKey (key : A → K) (k : K) (l : List A) : List A := l.filter fun a => key a = k

variable (key : A → K) (val : A → V)

theorem groupInto_concat (l : List A) (a : A) :
    groupInto key val (l ++ [a]) = (groupInto key val l).set (key a)
      (((groupInto key val l).get? (key a)).getD [] ++ [val a]) := by
  rw [groupInto, List.foldl_append]
  rfl

/-- A group holds the elements with its key, in their order. -/
theorem getD_get?_groupInto (l : List A) (k : K) :
    ((groupInto key val l).get? k).getD [] = (withKey key k l).map val := by
  induction l using List.reverseRecOn with
  | nil => rfl
  | append_singleton l a ih =>
    rw [groupInto_concat, OrderedMap.get?_set, withKey, List.filter_append, List.map_append]
    rcases eq_or_ne k (key a) with rfl | hne
    · rw [if_pos rfl, Option.getD_some, ih, List.filter_cons_of_pos (by simp)]
      rfl
    · rw [if_neg hne, ih, List.filter_cons_of_neg (by simp [Ne.symm hne])]
      exact (List.append_nil _).symm

theorem get?_groupInto_eq_some {l : List A} {k : K} {group : List V}
    (h : (groupInto key val l).get? k = some group) : group = (withKey key k l).map val := by
  rw [← getD_get?_groupInto, h, Option.getD_some]

/-- Appending to one group appends to them all. -/
theorem flatten_setEntry_append (k : K) (v : V) (es : List (K × List V)) :
    ((setEntry k ((lookupEntry k es).getD [] ++ [v]) es).map Prod.snd).flatten.Perm
      ((es.map Prod.snd).flatten ++ [v]) := by
  induction es with
  | nil => simp [setEntry_nil, lookupEntry_nil]
  | cons e rest ih =>
    rw [setEntry_cons, lookupEntry_cons]
    split
    · rename_i heq
      simp only [List.map_cons, List.flatten_cons, Option.getD_some, List.append_assoc]
      exact List.perm_append_comm.append_left e.2
    · simp only [List.map_cons, List.flatten_cons, List.append_assoc]
      exact ih.append_left e.2

/-- All groups together hold the list. -/
theorem flatten_groupInto (l : List A) : (groupInto key val l).values.flatten.Perm (l.map val) := by
  induction l using List.reverseRecOn with
  | nil => exact List.Perm.refl _
  | append_singleton l a ih =>
    rw [groupInto_concat, List.map_append]
    exact (flatten_setEntry_append (key a) (val a) _).trans (ih.append_right [val a])

/-! ## Selections -/

section Selections

variable {B : Type w} {f g : A → Option B}

theorem length_filterMap_le_of_isSome (h : ∀ a, (f a).isSome = true → (g a).isSome = true)
    (l : List A) : (l.filterMap f).length ≤ (l.filterMap g).length := by
  induction l with
  | nil => exact Nat.le_refl _
  | cons a rest ih =>
    rw [List.filterMap_cons, List.filterMap_cons]
    have ha := h a
    cases hf : f a with
    | none =>
      cases g a with
      | none => exact ih
      | some b => exact Nat.le_succ_of_le ih
    | some b =>
      rw [hf] at ha
      obtain ⟨c, hc⟩ := Option.isSome_iff_exists.mp (ha rfl)
      rw [hc]
      exact Nat.succ_le_succ ih

/-- A selection that keeps no more than another gives the same only element by element. -/
theorem filterMap_eq_iff (h : ∀ a, (f a).isSome = true → (g a).isSome = true) (l : List A) :
    l.filterMap f = l.filterMap g ↔ ∀ a ∈ l, f a = g a := by
  induction l with
  | nil => simp
  | cons a rest ih =>
    rw [List.forall_mem_cons, ← ih, List.filterMap_cons, List.filterMap_cons]
    have ha := h a
    have hshort := length_filterMap_le_of_isSome h rest
    cases hf : f a with
    | none =>
      cases hg : g a with
      | none => simp
      | some b =>
        refine iff_of_false (fun heq => ?_) fun heq => by cases heq.1
        have hlen : (rest.filterMap f).length = (rest.filterMap g).length + 1 :=
          congrArg List.length heq
        omega
    | some b =>
      rw [hf] at ha
      obtain ⟨c, hc⟩ := Option.isSome_iff_exists.mp (ha rfl)
      rw [hc, List.cons.injEq, Option.some.injEq]

end Selections

end SmartErpPos.Lib
