/-
  Lib/Transition.lean --- runs of a state machine.

  A machine is a relation `step s a s'`: doing `a` in `s` may lead to `s'`.  What
  every step keeps holds in every reachable state.  `transitions` lists the steps
  of one run of a deterministic machine, so that a property of every step of every
  run can be stated.
-/
import Mathlib.Algebra.BigOperators.Group.List.Basic
import Mathlib.Tactic.Abel

set_option autoImplicit false

namespace SmartErpPos.Lib

universe u v w

variable {S : Type u} {A : Type v}

/-- The states some run from an initial state ends in. -/
inductive Reachable (step : S → A → S → Prop) (init : S → Prop) : S → Prop
  | start {s : S} (h : init s) : Reachable step init s
  | next {s s' : S} {a : A} (h : Reachable step init s) (hs : step s a s') :
      Reachable step init s'

namespace Reachable

variable {step : S → A → S → Prop} {init : S → Prop}

/-- An invariant of the initial states and of every step holds in every reachable
state. -/
theorem invariant {P : S → Prop} (hinit : ∀ s, init s → P s)
    (hstep : ∀ s a s', P s → step s a s' → P s') {s : S} (h : Reachable step init s) : P s := by
  induction h with
  | start h => exact hinit _ h
  | next _ hs ih => exact hstep _ _ _ ih hs

end Reachable

/-- The steps of the run that does the actions of a list one after the other. -/
def transitions (apply : S → A → S) : S → List A → List (S × A × S)
  | _, [] => []
  | s, a :: rest => (s, a, apply s a) :: transitions apply (apply s a) rest

/-- A listed step starts in its state and does its action. -/
theorem eq_apply_of_mem_transitions {apply : S → A → S} {s : S} {actions : List A}
    {t : S × A × S} (h : t ∈ transitions apply s actions) : t.2.2 = apply t.1 t.2.1 := by
  induction actions generalizing s with
  | nil => cases h
  | cons a rest ih =>
    rcases List.mem_cons.mp h with rfl | h
    · rfl
    · exact ih h

/-- An invariant holds before every listed step. -/
theorem transitions_invariant {apply : S → A → S} {P : S → Prop}
    (hstep : ∀ s a, P s → P (apply s a)) {s : S} {actions : List A} (hs : P s) {t : S × A × S}
    (h : t ∈ transitions apply s actions) : P t.1 := by
  induction actions generalizing s with
  | nil => cases h
  | cons a rest ih =>
    rcases List.mem_cons.mp h with rfl | h
    · exact hs
    · exact ih (hstep s a hs) h

/-! ## Runs of a relation -/

/-- A run from one state to another, with the steps it takes. -/
inductive Run (step : S → A → S → Prop) : S → List (S × A × S) → S → Prop
  | nil (s : S) : Run step s [] s
  | cons {s s' s'' : S} {a : A} {ts : List (S × A × S)} (hs : step s a s')
      (h : Run step s' ts s'') : Run step s ((s, a, s') :: ts) s''

namespace Run

variable {step : S → A → S → Prop} {P : S → Prop} {s s' : S} {ts : List (S × A × S)}

/-- A listed step is a step. -/
theorem step_of_mem (h : Run step s ts s') {t : S × A × S} (ht : t ∈ ts) : step t.1 t.2.1 t.2.2 := by
  induction h with
  | nil _ => cases ht
  | cons hs _ ih =>
    rcases List.mem_cons.mp ht with rfl | ht
    · exact hs
    · exact ih ht

/-- After a listed step the run goes on. -/
theorem suffix_of_mem (h : Run step s ts s') {t : S × A × S} (ht : t ∈ ts) :
    ∃ rest, Run step t.2.2 rest s' := by
  induction h with
  | nil _ => cases ht
  | cons _ hrest ih =>
    rcases List.mem_cons.mp ht with rfl | ht
    · exact ⟨_, hrest⟩
    · exact ih ht

/-- A run of two parts is two runs. -/
theorem split {us : List (S × A × S)} (h : Run step s (ts ++ us) s') :
    ∃ mid, Run step s ts mid ∧ Run step mid us s' := by
  induction ts generalizing s with
  | nil => exact ⟨s, .nil s, h⟩
  | cons t rest ih =>
    cases h with
    | cons hs hrest =>
      obtain ⟨mid, hfirst, hlast⟩ := ih hrest
      exact ⟨mid, .cons hs hfirst, hlast⟩

theorem append {s'' : S} {us : List (S × A × S)} (h : Run step s ts s')
    (h' : Run step s' us s'') : Run step s (ts ++ us) s'' := by
  induction h with
  | nil _ => exact h'
  | cons hs _ ih => exact .cons hs (ih h')

/-- What the steps of a run take from a potential adds up to what is gone at its end. -/
theorem sum_taken {M : Type w} [AddCommGroup M] {f : S → M} {g : A → M}
    (hstep : ∀ t ∈ ts, f t.2.2 = f t.1 - g t.2.1) (h : Run step s ts s') :
    (ts.map fun t => g t.2.1).sum = f s - f s' := by
  induction h with
  | nil s => simp
  | cons hs _ ih =>
    obtain ⟨hhead, hrest⟩ := List.forall_mem_cons.mp hstep
    rw [List.map_cons, List.sum_cons, ih hrest]
    dsimp only at hhead ⊢
    rw [hhead]
    abel

/-- Actions none of which is stuck are a run. -/
theorem of_exec {exec : S → A → Option S} {s : S} {actions : List A}
    (h : ∀ t ∈ transitions (fun s a => (exec s a).getD s) s actions, (exec t.1 t.2.1).isSome) :
    Run (fun s a s' => exec s a = some s') s
      (transitions (fun s a => (exec s a).getD s) s actions)
      (actions.foldl (fun s a => (exec s a).getD s) s) := by
  induction actions generalizing s with
  | nil => exact .nil s
  | cons a rest ih =>
    obtain ⟨hfirst, hrest⟩ := List.forall_mem_cons.mp h
    obtain ⟨s', hs'⟩ := Option.isSome_iff_exists.mp hfirst
    dsimp only at hs'
    refine .cons ?_ (ih hrest)
    dsimp only
    rw [hs', Option.getD_some]

/-- A reflexive and transitive relation that every step from an invariant state obeys
holds between the ends of a run. -/
theorem relates {R : S → S → Prop} (hrefl : ∀ s, R s s)
    (htrans : ∀ a b c, R a b → R b c → R a c)
    (hstep : ∀ s a s', P s → step s a s' → P s' ∧ R s s') (hs : P s)
    (h : Run step s ts s') : R s s' := by
  induction h with
  | nil s => exact hrefl s
  | cons hfirst _ ih =>
    obtain ⟨hnext, hrel⟩ := hstep _ _ _ hs hfirst
    exact htrans _ _ _ hrel (ih hnext)

/-- What every step keeps holds before and after every listed step, and at the end. -/
theorem invariant (hstep : ∀ s a s', P s → step s a s' → P s') (hs : P s)
    (h : Run step s ts s') : P s' ∧ ∀ t ∈ ts, P t.1 ∧ P t.2.2 := by
  induction h with
  | nil _ => exact ⟨hs, fun t ht => nomatch ht⟩
  | cons hfirst _ ih =>
    have hnext := hstep _ _ _ hs hfirst
    obtain ⟨hlast, hall⟩ := ih hnext
    refine ⟨hlast, fun t ht => ?_⟩
    rcases List.mem_cons.mp ht with rfl | ht
    · exact ⟨hs, hnext⟩
    · exact hall t ht

/-- In a run all of whose steps meet a condition that keeps the invariant, it holds before
and after every step, and at the end. -/
theorem holds {K : S → A → Prop}
    (hstep : ∀ s a s', P s → step s a s' → K s a → P s')
    (hkeeps : ∀ t ∈ ts, K t.1 t.2.1) (hs : P s) (h : Run step s ts s') :
    P s' ∧ ∀ t ∈ ts, P t.1 ∧ P t.2.2 := by
  induction h with
  | nil _ => exact ⟨hs, fun t ht => nomatch ht⟩
  | cons hfirst _ ih =>
    obtain ⟨hkeep, hrest⟩ := List.forall_mem_cons.mp hkeeps
    have hnext := hstep _ _ _ hs hfirst hkeep
    obtain ⟨hlast, hall⟩ := ih hrest hnext
    exact ⟨hlast, List.forall_mem_cons.mpr ⟨⟨hs, hnext⟩, hall⟩⟩

/-- Such a run ends in the invariant. -/
theorem ends {K : S → A → Prop}
    (hstep : ∀ s a s', P s → step s a s' → K s a → P s')
    (hkeeps : ∀ t ∈ ts, K t.1 t.2.1) (hs : P s) (h : Run step s ts s') : P s' :=
  (h.holds hstep hkeeps hs).1

/-- Where an invariant makes a property of the next state equivalent to a condition
on the step, and the condition keeps the invariant, the property holds along a run
exactly when the condition does. -/
theorem forall_iff {Q : S → Prop} {K : S → A → Prop}
    (hgood : ∀ s a s', P s → step s a s' → (Q s' ↔ K s a))
    (hstep : ∀ s a s', P s → step s a s' → K s a → P s') (hs : P s)
    (h : Run step s ts s') : (∀ t ∈ ts, Q t.2.2) ↔ ∀ t ∈ ts, K t.1 t.2.1 := by
  induction h with
  | nil _ => simp
  | cons hfirst _ ih =>
    rw [List.forall_mem_cons, List.forall_mem_cons, hgood _ _ _ hs hfirst]
    exact and_congr_right fun hkeeps => ih (hstep _ _ _ hs hfirst hkeeps)

end Run

end SmartErpPos.Lib
