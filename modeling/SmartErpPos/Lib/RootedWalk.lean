/-
  Lib/RootedWalk.lean --- following edges to a root.

  Edges lead from a source to a target.  Where a node has at most one edge and the root has
  none, a node has at most one path to the root, and a walk that keeps the nodes it has seen
  finds it.  Without a path the walk comes to a node twice, or to one with no edge.  It
  never takes more steps than there are nodes with an edge.
-/
import Mathlib.Data.List.Perm.Subperm
import Mathlib.Data.Set.Basic

set_option autoImplicit false

namespace SmartErpPos.Lib

universe u v

variable {α : Type u} {ε : Type v}

/-! ## Paths -/

/-- The edges from a node to the root, in order. -/
inductive PathTo (E : Set ε) (source target : ε → α) (root : α) : α → List ε → Prop where
  | arrived : PathTo E source target root root []
  | step {x : α} {e : ε} {es : List ε} : e ∈ E → source e = x →
      PathTo E source target root (target e) es → PathTo E source target root x (e :: es)

/-- A path in fewer edges is a path in more. -/
theorem PathTo.mono {E F : Set ε} {source target : ε → α} {root : α} (hsub : E ⊆ F) {x : α}
    {es : List ε} (h : PathTo E source target root x es) : PathTo F source target root x es := by
  induction h with
  | arrived => exact .arrived
  | step he hx _ ih => exact .step (hsub he) hx ih

/-- The edges of a path are edges. -/
theorem PathTo.mem {E : Set ε} {source target : ε → α} {root x : α} {es : List ε}
    (h : PathTo E source target root x es) {e : ε} (he : e ∈ es) : e ∈ E := by
  induction h with
  | arrived => exact nomatch he
  | step hE _ _ ih =>
    rcases List.mem_cons.mp he with rfl | he
    · exact hE
    · exact ih he

section Unique

variable {E : Set ε} {source target : ε → α} {root : α} {edge : α → Option ε}
  (hedge : ∀ x e, edge x = some e ↔ e ∈ E ∧ source e = x) (hroot : ∀ e ∈ E, source e ≠ root)

include hedge hroot in
/-- A node has one path to the root. -/
theorem PathTo.unique {x : α} {es es' : List ε} (h : PathTo E source target root x es)
    (h' : PathTo E source target root x es') : es = es' := by
  induction h generalizing es' with
  | arrived =>
    cases h' with
    | arrived => rfl
    | step he hx _ => exact absurd hx (hroot _ he)
  | step he hx _ ih =>
    cases h' with
    | arrived => exact absurd hx (hroot _ he)
    | step he' hx' hrest' =>
      -- Both edges are the one of this node.
      have hsame := ((hedge _ _).mpr ⟨he, hx⟩).symm.trans ((hedge _ _).mpr ⟨he', hx'⟩)
      obtain rfl := Option.some.inj hsame
      rw [ih hrest']

end Unique

/-! ## The walk -/

/-- How a walk ends: at the root after some edges, at a node seen before, at a node without
an edge. -/
inductive WalkEnd (α : Type u) (ε : Type v) where
  | arrived (steps : List ε)
  | loop (node : α)
  | deadEnd (node : α)

/-- The end of a walk with one more edge before. -/
def WalkEnd.after (e : ε) : WalkEnd α ε → WalkEnd α ε
  | .arrived steps => .arrived (e :: steps)
  | .loop node => .loop node
  | .deadEnd node => .deadEnd node

variable [DecidableEq α]

/-- The walk from a node, with the nodes seen; nothing when the fuel runs out. -/
def walk (edge : α → Option ε) (target : ε → α) (root : α) : ℕ → List α → α → Option (WalkEnd α ε)
  | 0, _, _ => none
  | fuel + 1, seen, current =>
    if current = root then some (.arrived [])
    else if current ∈ seen then some (.loop current)
    else
      match edge current with
      | none => some (.deadEnd current)
      | some e => (walk edge target root fuel (current :: seen) (target e)).map (.after e)

/-- With more fuel than nodes that have an edge, the walk ends. -/
theorem walk_ends {edge : α → Option ε} {target : ε → α} {root : α} {nodes : List α}
    (hnodes : ∀ x e, edge x = some e → x ∈ nodes) {fuel : ℕ} {seen : List α} (hseen : seen.Nodup)
    (hsub : seen ⊆ nodes) (hfuel : nodes.length < fuel + seen.length) (x : α) :
    ∃ w, walk edge target root fuel seen x = some w := by
  induction fuel generalizing seen x with
  | zero =>
    have hlength := (List.subperm_of_subset hseen hsub).length_le
    omega
  | succ fuel ih =>
    rw [walk]
    split
    · exact ⟨_, rfl⟩
    split
    · exact ⟨_, rfl⟩
    next hnew =>
      cases hedge : edge x with
      | none => exact ⟨_, rfl⟩
      | some e =>
        have hmem := hnodes x e hedge
        obtain ⟨w, hw⟩ := ih (List.nodup_cons.mpr ⟨hnew, hseen⟩) (List.cons_subset.mpr ⟨hmem, hsub⟩)
          (by rw [List.length_cons]; omega) (target e)
        refine ⟨w.after e, ?_⟩
        dsimp only
        rw [hw, Option.map_some]

section Functional

variable {E : Set ε} {source target : ε → α} {root : α} {edge : α → Option ε}
  (hedge : ∀ x e, edge x = some e ↔ e ∈ E ∧ source e = x) (hroot : ∀ e ∈ E, source e ≠ root)

include hedge in
/-- A walk that arrives has followed a path. -/
theorem path_of_walk {fuel : ℕ} {seen : List α} {x : α} {es : List ε}
    (h : walk edge target root fuel seen x = some (.arrived es)) :
    PathTo E source target root x es := by
  induction fuel generalizing seen x es with
  | zero => exact nomatch h
  | succ fuel ih =>
    rw [walk] at h
    split at h
    next hx =>
      cases h
      rw [hx]
      exact .arrived
    split at h
    · exact nomatch h
    · cases he : edge x with
      | none =>
        rw [he] at h
        exact nomatch h
      | some e =>
        rw [he] at h
        obtain ⟨w, hw, hafter⟩ := Option.map_eq_some_iff.mp h
        obtain ⟨hE, hx⟩ := (hedge x e).mp he
        cases w with
        | arrived steps =>
          cases hafter
          exact .step hE hx (ih hw)
        | loop node => exact nomatch hafter
        | deadEnd node => exact nomatch hafter

include hedge hroot in
/-- Where there is a path, a walk that ends has followed it.  The nodes seen are farther from
the root than the current one, so it is none of them. -/
theorem walk_of_path {x : α} {es : List ε} (h : PathTo E source target root x es) {fuel : ℕ}
    {seen : List α}
    (hseen : ∀ s ∈ seen, ∀ es', PathTo E source target root s es' → es.length < es'.length)
    {w : WalkEnd α ε} (hw : walk edge target root fuel seen x = some w) : w = .arrived es := by
  induction h generalizing fuel seen w with
  | arrived =>
    cases fuel with
    | zero => exact nomatch hw
    | succ fuel =>
      rw [walk, if_pos rfl] at hw
      exact (Option.some.inj hw).symm
  | @step x e es he hx hrest ih =>
    cases fuel with
    | zero => exact nomatch hw
    | succ fuel =>
      have hne : x ≠ root := hx ▸ hroot e he
      have hpath : PathTo E source target root x (e :: es) := .step he hx hrest
      have hnew : x ∉ seen := fun hmem => lt_irrefl _ (hseen x hmem _ hpath)
      rw [walk, if_neg hne, if_neg hnew, (hedge x e).mpr ⟨he, hx⟩] at hw
      obtain ⟨w', hw', rfl⟩ := Option.map_eq_some_iff.mp hw
      have hfarther : ∀ s ∈ x :: seen, ∀ es', PathTo E source target root s es' →
          es.length < es'.length := by
        intro s hs es' hs'
        rcases List.mem_cons.mp hs with rfl | hs
        · rw [hpath.unique hedge hroot hs' |>.symm]
          exact Nat.lt_succ_self _
        · exact Nat.lt_of_succ_lt (hseen s hs es' hs')
      rw [ih hfarther hw']
      rfl

end Functional

end SmartErpPos.Lib
