/-
  Lib/Throwing.lean --- calls that keep what they did when they throw.

  A call reads and changes a state and may throw; unlike a transaction it takes nothing back.
  `Triple P c Q E` says that from a state in `P` the call returns in `Q` or throws in `E`.
  Loops have a rule each: the invariant speaks about the elements still to come.
-/
import Mathlib.Init

set_option autoImplicit false

namespace SmartErpPos.Lib

universe u v

variable {σ ε : Type u} {α β : Type u} {A : Type v}

/-- A call on a state that may throw. -/
abbrev Call (σ ε α : Type u) := ExceptT ε (StateM σ) α

namespace Call

/-- What the call returns or throws, and the state it leaves. -/
def on (c : Call σ ε α) (s : σ) : Except ε α × σ := c.run.run s

@[simp] theorem on_get (s : σ) : (get : Call σ ε σ).on s = (.ok s, s) := rfl

theorem on_bind (c : Call σ ε α) (f : α → Call σ ε β) (s : σ) :
    (c >>= f).on s =
      match c.on s with
      | (.ok a, s') => (f a).on s'
      | (.error e, s') => (.error e, s') := by
  unfold on
  simp only [ExceptT.run_bind, StateT.run_bind]
  cases h : StateT.run (ExceptT.run c) s with
  | mk r s' =>
    cases r with
    | ok a => rfl
    | error e => rfl

end Call

/-- From `P` the call returns in `Q` or throws in `E`. -/
def Triple (P : σ → Prop) (c : Call σ ε α) (Q : α → σ → Prop) (E : ε → σ → Prop) : Prop :=
  ∀ s, P s →
    match c.on s with
    | (.ok a, s') => Q a s'
    | (.error e, s') => E e s'

namespace Triple

variable {P P' : σ → Prop} {c : Call σ ε α} {Q Q' : α → σ → Prop} {R : β → σ → Prop}
  {E E' : ε → σ → Prop}

theorem pure (a : α) : Triple (Q a) (Pure.pure a : Call σ ε α) Q E := fun _ h => h

theorem throw (e : ε) : Triple (E e) (throw e : Call σ ε α) Q E := fun _ h => h

theorem bind {f : α → Call σ ε β} (hc : Triple P c Q E) (hf : ∀ a, Triple (Q a) (f a) R E) :
    Triple P (c >>= f) R E := by
  intro s hs
  have hfirst := hc s hs
  rw [Call.on_bind]
  cases hon : c.on s with
  | mk r s' =>
    rw [hon] at hfirst
    cases r with
    | ok a => exact hf a s' hfirst
    | error e => exact hfirst

/-- A call that looks at the state first. -/
theorem get_bind {f : σ → Call σ ε β} (hf : ∀ s, P s → Triple (fun s' => s' = s) (f s) R E) :
    Triple P ((MonadState.get : Call σ ε σ) >>= f) R E :=
  fun s hs => hf s hs s rfl

theorem conseq (h : Triple P c Q E) (hP : ∀ s, P' s → P s) (hQ : ∀ a s, Q a s → Q' a s)
    (hE : ∀ e s, E e s → E' e s) : Triple P' c Q' E' := by
  intro s hs
  have hbefore := h s (hP s hs)
  cases hon : c.on s with
  | mk r s' =>
    rw [hon] at hbefore
    cases r with
    | ok a => exact hQ a s' hbefore
    | error e => exact hE e s' hbefore

theorem pre (h : Triple P c Q E) (hP : ∀ s, P' s → P s) : Triple P' c Q E :=
  h.conseq hP (fun _ _ hq => hq) fun _ _ he => he

theorem ite {p : Prop} [Decidable p] {c' : Call σ ε α} (ht : p → Triple P c Q E)
    (hf : ¬ p → Triple P c' Q E) : Triple P (if p then c else c') Q E := by
  split
  · rename_i hp
    exact ht hp
  · rename_i hp
    exact hf hp

/-- The invariant of a loop speaks about the elements still to come. -/
theorem forM {f : A → Call σ ε PUnit} {I : List A → σ → Prop} {l : List A}
    (hstep : ∀ a rest, Triple (I (a :: rest)) (f a) (fun _ => I rest) E) :
    Triple (I l) (l.forM f) (fun _ => I []) E := by
  induction l with
  | nil => exact pure (Q := fun _ => I []) PUnit.unit
  | cons a rest ih => exact (hstep a rest).bind fun _ => ih

theorem foldlM {f : α → A → Call σ ε α} {I : α → List A → σ → Prop} {l : List A} {a : α}
    (hstep : ∀ b x rest, Triple (I b (x :: rest)) (f b x) (fun b' => I b' rest) E) :
    Triple (I a l) (l.foldlM f a) (fun b => I b []) E := by
  induction l generalizing a with
  | nil => exact pure (Q := fun b => I b []) a
  | cons x rest ih => exact (hstep a x rest).bind fun _ => ih

end Triple

end SmartErpPos.Lib
