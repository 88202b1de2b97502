/-
  Lib/Fallible.lean --- reading results off fallible computations.

  A service call is a sequence of checks, look-ups and writes in `Except`.  The
  lemmas here peel a successful call apart one step at a time: `bind_eq_ok` splits
  off the first step, `require_eq_ok` and `orThrow_eq_ok` say what a passed check
  or a successful look-up means.
-/
import Mathlib.Data.List.Basic

set_option autoImplicit false

namespace SmartErpPos.Lib

universe u v w

variable {ε : Type u} {α β : Type v}

variable {x : Except ε α} {a b : α}

theorem bind_eq_ok {f : α → Except ε β} {b : β} :
    (x >>= f) = .ok b ↔ ∃ a, x = .ok a ∧ f a = .ok b := by
  cases x with
  | error e =>
    constructor
    · intro h
      cases h
    · rintro ⟨a, h, -⟩
      cases h
  | ok a =>
    constructor
    · intro h
      exact ⟨a, rfl, h⟩
    · rintro ⟨a', h, hf⟩
      cases h
      exact hf

theorem pure_eq_ok : (pure a : Except ε α) = .ok b ↔ a = b := by
  constructor
  · intro h
    cases h
    rfl
  · rintro rfl
    rfl

/-- A call of which only a part of the result is looked at. -/
theorem map_eq_ok {γ : Type v} {f : α → γ} {c : γ} (h : x.map f = .ok c) :
    ∃ r, x = .ok r ∧ f r = c := by
  cases x with
  | error e => cases h
  | ok r =>
    cases h
    exact ⟨r, rfl, rfl⟩

/-- A call whose error is told in other words. -/
theorem mapError_eq_ok {ε' : Type*} {f : ε → ε'} : x.mapError f = .ok a ↔ x = .ok a := by
  cases x with
  | error e =>
    constructor
    · intro h
      cases h
    · intro h
      cases h
  | ok b =>
    constructor
    · intro h
      cases h
      rfl
    · rintro ⟨⟩
      rfl

/-- A successful call, seen as a step that may not exist. -/
theorem toOption_eq_some (h : x.toOption = some a) : x = .ok a := by
  cases x with
  | error e => cases h
  | ok b =>
    cases h
    rfl

theorem toBool_eq_true (h : x.toBool = true) : ∃ a, x = .ok a := by
  cases x with
  | error e => cases h
  | ok a => exact ⟨a, rfl⟩

/-- Fail with `e` unless the condition holds. -/
def require (c : Prop) [Decidable c] (e : ε) : Except ε Unit :=
  if c then .ok () else .error e

@[simp] theorem require_eq_ok {c : Prop} [Decidable c] {e : ε} {u : Unit} :
    require c e = .ok u ↔ c := by
  unfold require
  split
  · rename_i h
    simp [h]
  · rename_i h
    simp [h]

/-- The value of a look-up, or the error. -/
def orThrow (o : Option α) (e : ε) : Except ε α :=
  match o with
  | some a => .ok a
  | none => .error e

@[simp] theorem orThrow_eq_ok {o : Option α} {e : ε} : orThrow o e = .ok a ↔ o = some a := by
  cases o <;> simp [orThrow]

/-- The state a call leaves behind: a failed call is rolled back. -/
def settled (x : Except ε α) (before : α) : α :=
  match x with
  | .ok after => after
  | .error _ => before

theorem eq_ok_settled (h : x.toBool = true) (before : α) : x = .ok (settled x before) := by
  cases x with
  | ok a => rfl
  | error e => cases h

/-- A successful pass over a list, result by result. -/
theorem mapM_eq_ok {E : Type w} {f : E → Except ε α} {es : List E} {bs : List α}
    (h : es.mapM f = .ok bs) : List.Forall₂ (fun e b => f e = .ok b) es bs := by
  induction es generalizing bs with
  | nil =>
    rw [List.mapM_nil, pure_eq_ok] at h
    exact h ▸ .nil
  | cons e rest ih =>
    simp only [List.mapM_cons, bind_eq_ok, pure_eq_ok] at h
    obtain ⟨b, hb, bs', hbs, rfl⟩ := h
    exact .cons hb (ih hbs)

/-- A pass whose calls all succeed. -/
theorem mapM_ok {E : Type w} {f : E → Except ε α} {g : E → α} {es : List E}
    (hf : ∀ e ∈ es, f e = .ok (g e)) : es.mapM f = .ok (es.map g) := by
  induction es with
  | nil => rfl
  | cons e rest ih =>
    obtain ⟨hhead, hrest⟩ := List.forall_mem_cons.mp hf
    rw [List.mapM_cons, hhead, ih hrest]
    rfl

/-- Every result of a pass comes from an item. -/
theorem mem_of_mapM_eq_ok {E : Type w} {f : E → Except ε α} {es : List E} {bs : List α}
    (h : es.mapM f = .ok bs) (hb : b ∈ bs) : ∃ e ∈ es, f e = .ok b := by
  have hpairs := mapM_eq_ok h
  clear h
  induction hpairs with
  | nil => cases hb
  | cons hhead _ ih =>
    rcases List.mem_cons.mp hb with rfl | hb
    · exact ⟨_, List.mem_cons_self, hhead⟩
    · obtain ⟨e, he, hf⟩ := ih hb
      exact ⟨e, List.mem_cons_of_mem _ he, hf⟩

/-- What every result shares with its item, the lists share. -/
theorem map_eq_of_mapM_eq_ok {E : Type w} {γ : Type*} {f : E → Except ε α} {es : List E}
    {bs : List α} (h : es.mapM f = .ok bs) {g : α → γ} {k : E → γ}
    (hg : ∀ e b, f e = .ok b → g b = k e) : bs.map g = es.map k := by
  have hpairs := mapM_eq_ok h
  clear h
  induction hpairs with
  | nil => rfl
  | cons hhead _ ih => rw [List.map_cons, List.map_cons, hg _ _ hhead, ih]

/-- A fold whose steps keep an invariant, and what each step says about its item. -/
theorem foldlM_forall {E : Type w} {step : α → E → Except ε α} {P : α → Prop} {Q : E → Prop}
    (hstep : ∀ a e b, P a → step a e = .ok b → P b ∧ Q e) {es : List E} (ha : P a)
    (h : es.foldlM step a = .ok b) : P b ∧ ∀ e ∈ es, Q e := by
  induction es generalizing a with
  | nil =>
    rw [List.foldlM_nil, pure_eq_ok] at h
    exact ⟨h ▸ ha, fun e he => nomatch he⟩
  | cons e rest ih =>
    rw [List.foldlM_cons, bind_eq_ok] at h
    obtain ⟨c, hc, hrest⟩ := h
    obtain ⟨hP, hQ⟩ := hstep a e c ha hc
    obtain ⟨hlast, hall⟩ := ih hP hrest
    exact ⟨hlast, List.forall_mem_cons.mpr ⟨hQ, hall⟩⟩

/-- A fold all of whose steps succeed. -/
theorem foldlM_ok {E : Type w} {step : α → E → Except ε α} {P : α → Prop} {Q : E → Prop}
    (hstep : ∀ a e, P a → Q e → ∃ b, step a e = .ok b ∧ P b) {es : List E} (ha : P a)
    (hQ : ∀ e ∈ es, Q e) : ∃ b, es.foldlM step a = .ok b := by
  induction es generalizing a with
  | nil => exact ⟨a, rfl⟩
  | cons e rest ih =>
    obtain ⟨hhead, hrest⟩ := List.forall_mem_cons.mp hQ
    obtain ⟨b, hb, hP⟩ := hstep a e ha hhead
    obtain ⟨last, hlast⟩ := ih hP hrest
    exact ⟨last, by rw [List.foldlM_cons, bind_eq_ok]; exact ⟨b, hb, hlast⟩⟩

/-- An invariant kept by every step of a fallible fold is kept by the fold. -/
theorem foldlM_invariant {E : Type w} {step : α → E → Except ε α} {P : α → Prop} {es : List E}
    (hstep : ∀ a, ∀ e ∈ es, ∀ b, P a → step a e = .ok b → P b) (ha : P a)
    (h : es.foldlM step a = .ok b) : P b := by
  induction es generalizing a with
  | nil =>
    rw [List.foldlM_nil, pure_eq_ok] at h
    exact h ▸ ha
  | cons e rest ih =>
    rw [List.foldlM_cons, bind_eq_ok] at h
    obtain ⟨c, hc, hrest⟩ := h
    exact ih (fun a x hx => hstep a x (List.mem_cons_of_mem e hx))
      (hstep a e List.mem_cons_self c ha hc) hrest

/-- A loop that succeeds has succeeded at each item. -/
theorem of_forM_eq_ok {E : Type w} {f : E → Except ε PUnit} {es : List E} {u : PUnit}
    (h : es.forM f = .ok u) : ∀ e ∈ es, f e = .ok ⟨⟩ := by
  induction es with
  | nil => exact fun _ he => nomatch he
  | cons e rest ih =>
    change (f e >>= fun _ => rest.forM f) = .ok u at h
    rw [bind_eq_ok] at h
    obtain ⟨_, hhead, hrest⟩ := h
    exact List.forall_mem_cons.mpr ⟨hhead, ih hrest⟩

end SmartErpPos.Lib
