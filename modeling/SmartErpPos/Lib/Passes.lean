/-
  Lib/Passes.lean --- loops over a list of items.

  A loop that appends one record for each item leaves two lists that correspond position by
  position, and what is known of one is carried over to the other.  A log of which entries
  are dropped replays to the same place, seen through a projection the dropped ones do not
  move.  A loop of updates, each confined to the places of its own item, makes of every
  place what its own step alone makes of it.  A pass that reads rows of a keyed table and
  then rewrites them finds each row as it was read, and leaves it as it will stay.
-/
import Mathlib.Algebra.BigOperators.Group.List.Basic
import Mathlib.Data.List.Forall2
import Mathlib.Data.List.Pairwise
import Mathlib.Data.Set.Disjoint
import Mathlib.Data.Set.Lattice
import Mathlib.Order.CompletePartialOrder
import SmartErpPos.Lib.Fallible
import SmartErpPos.Lib.OrderedMap

set_option autoImplicit false

namespace SmartErpPos.Lib

universe u v w x

/-! ## Two lists written side by side -/

section SideBySide

variable {α : Type u} {β : Type v} {R : α → β → Prop} {l : List α} {l' : List β}

theorem exists_left_of_mem (h : List.Forall₂ R l l') {b : β} (hb : b ∈ l') :
    ∃ a ∈ l, R a b := by
  induction h with
  | nil => cases hb
  | cons hab _ ih =>
    rcases List.mem_cons.mp hb with rfl | hb
    · exact ⟨_, List.mem_cons_self, hab⟩
    · obtain ⟨a, ha, hr⟩ := ih hb
      exact ⟨a, List.mem_cons_of_mem _ ha, hr⟩

theorem exists_right_of_mem (h : List.Forall₂ R l l') {a : α} (ha : a ∈ l) :
    ∃ b ∈ l', R a b := by
  induction h with
  | nil => cases ha
  | cons hab _ ih =>
    rcases List.mem_cons.mp ha with rfl | ha
    · exact ⟨_, List.mem_cons_self, hab⟩
    · obtain ⟨b, hb, hr⟩ := ih ha
      exact ⟨b, List.mem_cons_of_mem _ hb, hr⟩

/-- Corresponding values form the same list. -/
theorem map_eq_map {γ : Type w} (h : List.Forall₂ R l l') {f : α → γ} {g : β → γ}
    (hf : ∀ a b, R a b → f a = g b) : l.map f = l'.map g := by
  induction h with
  | nil => rfl
  | cons hab _ ih => rw [List.map_cons, List.map_cons, hf _ _ hab, ih]

/-- Selections that correspond have the same sum. -/
theorem sum_filter_eq {M : Type w} [AddMonoid M] (h : List.Forall₂ R l l') {p : α → Bool}
    {q : β → Bool} {f : α → M} {g : β → M} (hp : ∀ a b, R a b → p a = q b)
    (hf : ∀ a b, R a b → f a = g b) : ((l.filter p).map f).sum = ((l'.filter q).map g).sum := by
  induction h with
  | nil => rfl
  | cons hab _ ih =>
    rename_i a b l l' _
    cases hq : q b with
    | true => simp [(hp a b hab).trans hq, hq, hf a b hab, ih]
    | false => simp [(hp a b hab).trans hq, hq, ih]

end SideBySide

/-! ## Replaying a filtered log -/

section Replay

variable {S : Type u} {T : Type v} {E : Type w}

/-- Replaying the kept entries on the projection gives the projection of the full
replay. -/
theorem project_foldl_filter (step : S → E → S) (stepKept : T → E → T) (project : S → T)
    (keep : E → Bool) (log : List E)
    (hkept : ∀ s, ∀ e ∈ log, keep e = true → project (step s e) = stepKept (project s) e)
    (hdropped : ∀ s, ∀ e ∈ log, keep e = false → project (step s e) = project s) (s : S) :
    project (log.foldl step s) = (log.filter keep).foldl stepKept (project s) := by
  induction log generalizing s with
  | nil => rfl
  | cons e rest ih =>
    have hrest := ih (fun s x hx => hkept s x (List.mem_cons_of_mem e hx))
      (fun s x hx => hdropped s x (List.mem_cons_of_mem e hx)) (step s e)
    rw [List.foldl_cons, hrest]
    cases h : keep e with
    | true => rw [hkept s e List.mem_cons_self h, List.filter_cons_of_pos h, List.foldl_cons]
    | false =>
      rw [hdropped s e List.mem_cons_self h, List.filter_cons_of_neg (by simp [h])]

/-- A step that ignores everything but some reading of the entry replays alike
under every two contexts that agree on those readings. -/
theorem foldl_congr_mem (step step' : S → E → S) (log : List E)
    (hstep : ∀ s, ∀ e ∈ log, step s e = step' s e) (s : S) :
    log.foldl step s = log.foldl step' s := by
  induction log generalizing s with
  | nil => rfl
  | cons e rest ih =>
    rw [List.foldl_cons, List.foldl_cons, hstep s e List.mem_cons_self]
    exact ih (fun s x hx => hstep s x (List.mem_cons_of_mem e hx)) _

end Replay

/-! ## Steps that touch different places -/

section Places

variable {S : Type u} {G : Type v} {ι : Type w} {V : Type x}
variable {read : S → ι → V} {step : S → G → S} {own : G → Set ι}

/-- Places no item owns stay as they are. -/
theorem read_foldl_of_notMem (hframe : ∀ s g i, i ∉ own g → read (step s g) i = read s i)
    {gs : List G} {i : ι} (h : ∀ g ∈ gs, i ∉ own g) (s : S) :
    read (gs.foldl step s) i = read s i := by
  induction gs generalizing s with
  | nil => rfl
  | cons g rest ih =>
    obtain ⟨hg, hrest⟩ := List.forall_mem_cons.mp h
    rw [List.foldl_cons, ih hrest, hframe s g i hg]

/-- A place is what the step of its own item makes of the first state. -/
theorem read_foldl_of_mem (hframe : ∀ s g i, i ∉ own g → read (step s g) i = read s i)
    {gs : List G} (hlocal : ∀ g ∈ gs, ∀ s s', (∀ i ∈ own g, read s i = read s' i) →
      ∀ i ∈ own g, read (step s g) i = read (step s' g) i)
    (hdisjoint : gs.Pairwise fun g g' => Disjoint (own g) (own g')) {g : G}
    (hg : g ∈ gs) {i : ι} (hi : i ∈ own g) (s : S) :
    read (gs.foldl step s) i = read (step s g) i := by
  induction gs generalizing s with
  | nil => cases hg
  | cons first rest ih =>
    obtain ⟨hfirst, hrest⟩ := List.pairwise_cons.mp hdisjoint
    rw [List.foldl_cons]
    rcases List.mem_cons.mp hg with rfl | hg
    · refine read_foldl_of_notMem hframe (fun g' hg' => ?_) _
      exact Set.disjoint_left.mp (hfirst g' hg') hi
    · rw [ih (fun g' hg' => hlocal g' (List.mem_cons_of_mem _ hg')) hrest hg]
      refine hlocal g (List.mem_cons_of_mem _ hg) _ _ (fun j hj => hframe s first j ?_) i hi
      exact Set.disjoint_right.mp (hfirst g hg) hj

end Places

/-! ## The rows of a keyed table -/

section Rows

variable {K : Type u} {V : Type v} {S ε : Type w} [DecidableEq K]

/-- What every step keeps and does to its row, the pass keeps and does to each of its rows;
the other rows stay. -/
theorem foldlM_rows (rows : S → OrderedMap K V) {step : S → K × V → Except ε S} {P : S → Prop}
    {R : K × V → V → Prop} {es : List (K × V)}
    (hstep : ∀ s, ∀ e ∈ es, ∀ s', P s → (rows s).get? e.1 = some e.2 → step s e = .ok s' →
      P s' ∧ ∃ v, R e v ∧ rows s' = (rows s).set e.1 v)
    (hnodup : (es.map Prod.fst).Nodup) {s s' : S}
    (hread : ∀ e ∈ es, (rows s).get? e.1 = some e.2) (hs : P s)
    (h : es.foldlM step s = .ok s') :
    P s' ∧ (∀ e ∈ es, ∃ v, R e v ∧ (rows s').get? e.1 = some v) ∧
      ∀ k, k ∉ es.map Prod.fst → (rows s').get? k = (rows s).get? k := by
  induction es generalizing s with
  | nil =>
    rw [List.foldlM_nil, pure_eq_ok] at h
    subst h
    exact ⟨hs, fun e he => (nomatch he), fun k _ => rfl⟩
  | cons e rest ih =>
    rw [List.foldlM_cons, bind_eq_ok] at h
    obtain ⟨mid, hmid, hrest⟩ := h
    rw [List.map_cons, List.nodup_cons] at hnodup
    obtain ⟨hP, v, hR, hrows⟩ := hstep s e List.mem_cons_self mid hs
      (hread e List.mem_cons_self) hmid
    have hread' : ∀ x ∈ rest, (rows mid).get? x.1 = some x.2 := by
      intro x hx
      have hne : x.1 ≠ e.1 := fun heq => hnodup.1 (List.mem_map.mpr ⟨x, hx, heq⟩)
      rw [hrows, OrderedMap.get?_set_of_ne hne]
      exact hread x (List.mem_cons_of_mem e hx)
    obtain ⟨hlast, hdone, hothers⟩ := ih (fun s x hx => hstep s x (List.mem_cons_of_mem e hx))
      hnodup.2 hread' hP hrest
    refine ⟨hlast, ?_, fun k hk => ?_⟩
    · refine List.forall_mem_cons.mpr ⟨⟨v, hR, ?_⟩, hdone⟩
      rw [hothers e.1 hnodup.1, hrows, OrderedMap.get?_set_self]
    · rw [List.map_cons, List.mem_cons, not_or] at hk
      rw [hothers k hk.2, hrows, OrderedMap.get?_set_of_ne hk.1]

/-- Writing a row as it is changes nothing. -/
theorem OrderedMap.set_get? {m : OrderedMap K V} {k : K} {v : V} (h : m.get? k = some v) :
    m.set k v = m :=
  OrderedMap.ext (setEntry_of_lookupEntry h)

end Rows

end SmartErpPos.Lib
