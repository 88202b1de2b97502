/-
  Lib/KeyedSum.lean --- sums over the rows of a keyed table.

  `sumWhere p f m` is the aggregate `SUM(f) WHERE p(key)` of a table with one row
  per key.  Writing one row changes it by the new value minus the old one when the
  key is selected, and not at all otherwise.
-/
import Mathlib.Algebra.BigOperators.Group.Finset.Piecewise
import Mathlib.Algebra.BigOperators.Group.List.Basic
import Mathlib.Tactic.Abel
import SmartErpPos.Lib.OrderedMap

set_option autoImplicit false

namespace SmartErpPos.Lib

universe u v w

variable {K : Type u} {V : Type v} {M : Type w} [AddCommGroup M]

namespace OrderedMap

/-- The sum of `f` over the rows whose key satisfies `p`. -/
def sumWhere (p : K → Bool) (f : V → M) (m : OrderedMap K V) : M :=
  ((m.entries.filter fun e => p e.1).map fun e => f e.2).sum

variable {f : V → M} {m : OrderedMap K V} {k : K}

/-- Two selections that agree on the keys present give the same sum. -/
theorem sumWhere_congr {p q : K → Bool} (h : ∀ e ∈ m.entries, p e.1 = q e.1) :
    m.sumWhere p f = m.sumWhere q f := by
  unfold sumWhere
  rw [List.filter_congr h]

/-- The selections may differ on rows that add nothing. -/
theorem sumWhere_congr_of_zero {p q : K → Bool} (h : ∀ e ∈ m.entries, p e.1 = q e.1 ∨ f e.2 = 0) :
    m.sumWhere p f = m.sumWhere q f := by
  unfold sumWhere
  generalize m.entries = es at h
  induction es with
  | nil => rfl
  | cons e rest ih =>
    obtain ⟨he, hrest⟩ := List.forall_mem_cons.mp h
    have ih := ih hrest
    rcases he with hpq | hzero
    · rw [List.filter_cons, List.filter_cons, hpq]
      split
      · rw [List.map_cons, List.map_cons, List.sum_cons, List.sum_cons, ih]
      · exact ih
    · rw [List.filter_cons, List.filter_cons]
      split <;> split <;> simp [hzero, ih]

/-- A sum of zeros. -/
theorem sumWhere_eq_zero {p : K → Bool} (h : ∀ e ∈ m.entries, p e.1 = true → f e.2 = 0) :
    m.sumWhere p f = 0 := by
  unfold sumWhere
  refine List.sum_eq_zero fun x hx => ?_
  obtain ⟨e, he, rfl⟩ := List.mem_map.mp hx
  obtain ⟨hmem, hp⟩ := List.mem_filter.mp he
  exact h e hmem hp

/-- The selected rows that satisfy `q` and those that do not. -/
theorem sumWhere_split (p q : K → Bool) (f : V → M) (m : OrderedMap K V) :
    m.sumWhere p f =
      m.sumWhere (fun k => p k && q k) f + m.sumWhere (fun k => p k && !q k) f := by
  unfold sumWhere
  induction m.entries with
  | nil => simp
  | cons e rest ih =>
    cases hp : p e.1 <;> cases hq : q e.1 <;> simp [hp, hq, ih] <;> abel

/-- A sum over the rows with their keys. -/
def sumBy (g : K → V → M) (m : OrderedMap K V) : M := (m.entries.map fun e => g e.1 e.2).sum

theorem sumBy_congr {g g' : K → V → M} (h : ∀ e ∈ m.entries, g e.1 e.2 = g' e.1 e.2) :
    m.sumBy g = m.sumBy g' := by
  unfold sumBy
  rw [List.map_congr_left h]

variable [DecidableEq K]

/-- A value that stands under one key only is counted once. -/
theorem sum_entries_ite {v : V} (h : m.get? k = some v) (x : M) :
    (m.entries.map fun e => if k = e.1 then x else 0).sum = x := by
  have hall : ∀ es : List (K × V), (es.map Prod.fst).Nodup →
      (es.map fun e => if k = e.1 then x else 0).sum =
        if k ∈ es.map Prod.fst then x else 0 := by
    intro es hnodup
    induction es with
    | nil => rfl
    | cons e rest ih =>
      rw [List.map_cons, List.nodup_cons] at hnodup
      rw [List.map_cons, List.sum_cons, ih hnodup.2, List.map_cons]
      by_cases hk : k = e.1
      · subst hk
        simp [hnodup.1]
      · rw [if_neg hk, zero_add]
        exact if_congr (by rw [List.mem_cons, or_iff_right hk]) rfl rfl
  have hmem : k ∈ m.entries.map Prod.fst :=
    List.mem_map.mpr ⟨(k, v), get?_eq_some_iff.mp h, rfl⟩
  rw [hall m.entries m.nodup, if_pos hmem]

private theorem sum_map_setEntry (g : K → V → M) (k : K) (v : V) (es : List (K × V)) :
    ((setEntry k v es).map fun e => g e.1 e.2).sum =
      (es.map fun e => g e.1 e.2).sum +
        (g k v - (match lookupEntry k es with | some w => g k w | none => 0)) := by
  induction es with
  | nil => simp [setEntry, lookupEntry]
  | cons e rest ih =>
    obtain ⟨k', v'⟩ := e
    by_cases hk : k' = k
    · subst hk
      simp only [setEntry, lookupEntry, if_pos, List.map_cons, List.sum_cons]
      abel
    · simp only [setEntry, lookupEntry, if_neg hk, List.map_cons, List.sum_cons, ih]
      abel

/-- Writing a new row adds its value. -/
theorem sumBy_set_of_none (h : m.get? k = none) (g : K → V → M) (v : V) :
    (m.set k v).sumBy g = m.sumBy g + g k v := by
  have hsum := sum_map_setEntry g k v m.entries
  rw [show lookupEntry k m.entries = none from h] at hsum
  exact hsum.trans (by rw [sub_zero]; rfl)

/-- Writing a row that is there puts its new value in place of the old one. -/
theorem sumBy_set_of_some {w : V} (h : m.get? k = some w) (g : K → V → M) (v : V) :
    (m.set k v).sumBy g = m.sumBy g + (g k v - g k w) := by
  have hsum := sum_map_setEntry g k v m.entries
  rw [show lookupEntry k m.entries = some w from h] at hsum
  exact hsum

/-- The value a row contributes before it is written. -/
def valueAt (f : V → M) (m : OrderedMap K V) (k : K) : M :=
  match m.get? k with
  | some v => f v
  | none => 0

theorem valueAt_of_get? {v : V} (h : m.get? k = some v) : m.valueAt f k = f v := by
  simp [valueAt, h]

theorem valueAt_of_get?_none (h : m.get? k = none) : m.valueAt f k = 0 := by
  simp [valueAt, h]

theorem valueAt_set (f : V → M) (m : OrderedMap K V) (k k' : K) (v : V) :
    (m.set k v).valueAt f k' = if k' = k then f v else m.valueAt f k' := by
  by_cases h : k' = k
  · subst h
    simp [valueAt]
  · simp [valueAt, get?_set_of_ne h, h]

private theorem sum_filter_setEntry (p : K → Bool) (f : V → M) (k : K) (v : V)
    (es : List (K × V)) :
    (((setEntry k v es).filter fun e => p e.1).map fun e => f e.2).sum =
      ((es.filter fun e => p e.1).map fun e => f e.2).sum +
        if p k then f v - (match lookupEntry k es with | some w => f w | none => 0) else 0 := by
  induction es with
  | nil =>
    cases hp : p k <;> simp [setEntry, lookupEntry, hp]
  | cons e rest ih =>
    obtain ⟨k', v'⟩ := e
    by_cases hk : k' = k
    · subst hk
      cases hp : p k' with
      | true =>
        simp only [setEntry, lookupEntry, if_pos, List.filter_cons, hp, List.map_cons,
          List.sum_cons]
        abel
      | false => simp [setEntry, hp]
    · cases hp : p k' with
      | true =>
        simp only [setEntry, lookupEntry, if_neg hk, List.filter_cons, hp, if_true, List.map_cons,
          List.sum_cons, ih]
        abel
      | false =>
        simp only [setEntry, lookupEntry, if_neg hk, List.filter_cons, hp, Bool.false_eq_true,
          if_false, ih]

/-- Writing one row changes the sum by the new value minus the old one. -/
theorem sumWhere_set (p : K → Bool) (f : V → M) (m : OrderedMap K V) (k : K) (v : V) :
    (m.set k v).sumWhere p f = m.sumWhere p f + if p k then f v - m.valueAt f k else 0 :=
  sum_filter_setEntry p f k v m.entries

private theorem sum_filter_erase (p : K → Bool) (f : V → M) (k : K) {es : List (K × V)}
    (hnodup : (es.map Prod.fst).Nodup) :
    (((es.filter fun e => decide (e.1 ≠ k)).filter fun e => p e.1).map fun e => f e.2).sum =
      ((es.filter fun e => p e.1).map fun e => f e.2).sum -
        if p k then (match lookupEntry k es with | some w => f w | none => 0) else 0 := by
  induction es with
  | nil => cases p k <;> simp [lookupEntry]
  | cons e rest ih =>
    obtain ⟨k', v'⟩ := e
    rw [List.map_cons, List.nodup_cons] at hnodup
    by_cases hk : k' = k
    · subst hk
      have hrest : rest.filter (fun e => decide (e.1 ≠ k')) = rest := by
        refine List.filter_eq_self.mpr fun e he => decide_eq_true fun heq => hnodup.1 ?_
        exact List.mem_map.mpr ⟨e, he, heq⟩
      rw [List.filter_cons_of_neg (by simp), hrest]
      cases hp : p k' with
      | true => simp [lookupEntry, hp]
      | false => simp [hp]
    · cases hp : p k' with
      | true =>
        simp only [lookupEntry, List.filter_cons, ne_eq, hk, not_false_eq_true,
          decide_true, if_true, hp, List.map_cons, List.sum_cons, ih hnodup.2]
        abel
      | false =>
        simp only [lookupEntry, List.filter_cons, ne_eq, hk, not_false_eq_true,
          decide_true, if_true, hp, Bool.false_eq_true, if_false, ih hnodup.2]

/-- Deleting one row takes its value out of the sum. -/
theorem sumWhere_erase (p : K → Bool) (f : V → M) (m : OrderedMap K V) (k : K) :
    (m.erase k).sumWhere p f = m.sumWhere p f - if p k then m.valueAt f k else 0 :=
  sum_filter_erase p f k m.nodup

/-- The sum over a selection of rows, as a sum over their keys. -/
theorem sumWhere_eq_sum_keys (p : K → Bool) (f : V → M) (m : OrderedMap K V) :
    m.sumWhere p f = ∑ k ∈ (m.keys.filter p).toFinset, m.valueAt f k := by
  have hnodup : (m.keys.filter p).Nodup := m.nodup.filter p
  have hvalues : ((m.entries.filter fun e => p e.1).map fun e => f e.2) =
      (m.keys.filter p).map (m.valueAt f) := by
    unfold keys
    rw [List.filter_map, List.map_map]
    refine List.map_congr_left fun e he => ?_
    have hget : m.get? e.1 = some e.2 := get?_eq_some_iff.mpr (List.mem_filter.mp he).1
    exact (valueAt_of_get? hget).symm
  unfold sumWhere
  rw [hvalues, List.sum_toFinset _ hnodup]

/-- The sum over one key is what its row adds. -/
theorem sumWhere_key (f : V → M) (m : OrderedMap K V) (k : K) :
    m.sumWhere (fun k' => decide (k' = k)) f = m.valueAt f k := by
  rw [sumWhere_eq_sum_keys]
  by_cases hk : k ∈ m.keys
  · have hset : (m.keys.filter fun k' => decide (k' = k)).toFinset = {k} := by
      ext k'
      simp only [List.mem_toFinset, List.mem_filter, decide_eq_true_eq, Finset.mem_singleton]
      exact ⟨fun h => h.2, fun h => ⟨h ▸ hk, h⟩⟩
    rw [hset, Finset.sum_singleton]
  · have hset : (m.keys.filter fun k' => decide (k' = k)) = [] := by
      refine List.filter_eq_nil_iff.mpr fun k' hk' => ?_
      rw [decide_eq_true_eq]
      rintro rfl
      exact hk hk'
    rw [hset, List.toFinset_nil, Finset.sum_empty,
      valueAt_of_get?_none (lookupEntry_eq_none_iff.mpr hk)]

/-- Two tables with the same keys, whose rows add the same, have the same sum. -/
theorem sumWhere_congr_valueAt {W : Type*} {g : W → M} {n : OrderedMap K W} (p : K → Bool)
    (hkeys : ∀ k, (m.get? k).isSome = (n.get? k).isSome)
    (hvalue : ∀ k, m.valueAt f k = n.valueAt g k) : m.sumWhere p f = n.sumWhere p g := by
  have hmem : ∀ k, k ∈ m.keys ↔ k ∈ n.keys := by
    intro k
    have hm : k ∉ m.keys ↔ m.get? k = none := lookupEntry_eq_none_iff.symm
    have hn : k ∉ n.keys ↔ n.get? k = none := lookupEntry_eq_none_iff.symm
    rw [← not_iff_not, hm, hn, ← Option.not_isSome_iff_eq_none, ← Option.not_isSome_iff_eq_none,
      hkeys k]
  rw [sumWhere_eq_sum_keys, sumWhere_eq_sum_keys]
  refine Finset.sum_congr ?_ fun k _ => hvalue k
  ext k
  simp [hmem k]

/-- A pass that adds `g e` at the key of each item, and nothing elsewhere. -/
theorem valueAt_foldl {E : Type*} {κ : E → K} {g : E → M}
    {step : OrderedMap K V → E → OrderedMap K V} {P : OrderedMap K V → Prop} {Q : E → Prop}
    (hstep : ∀ m e, P m → Q e → P (step m e) ∧
      ∀ k, (step m e).valueAt f k = m.valueAt f k + if κ e = k then g e else 0) {es : List E}
    (hes : ∀ e ∈ es, Q e) (hm : P m) (k : K) :
    (es.foldl step m).valueAt f k =
      m.valueAt f k + ((es.filter fun e => κ e = k).map g).sum := by
  induction es generalizing m with
  | nil => simp
  | cons e rest ih =>
    obtain ⟨he, hrest⟩ := List.forall_mem_cons.mp hes
    obtain ⟨hnext, hvalue⟩ := hstep m e hm he
    rw [List.foldl_cons, ih hrest hnext, hvalue, List.filter_cons]
    by_cases hk : κ e = k
    · simp only [hk, if_true, decide_true, List.map_cons, List.sum_cons]
      abel
    · simp only [hk, if_false, decide_false, Bool.false_eq_true, add_zero]

end OrderedMap

/-- A sum taken group by group, over any set of keys that covers the items. -/
theorem sum_groups {E : Type v} [DecidableEq K] {κ : E → K} {f : E → M} {keys : Finset K}
    {es : List E} (hcover : ∀ e ∈ es, κ e ∈ keys) :
    ∑ k ∈ keys, ((es.filter fun e => κ e = k).map f).sum = (es.map f).sum := by
  induction es with
  | nil => simp
  | cons e rest ih =>
    have hrest := ih fun x hx => hcover x (List.mem_cons_of_mem e hx)
    have hstep : ∀ k, (((e :: rest).filter fun x => κ x = k).map f).sum =
        (if κ e = k then f e else 0) + ((rest.filter fun x => κ x = k).map f).sum := by
      intro k
      by_cases hk : κ e = k
      · simp [hk]
      · simp [hk]
    rw [Finset.sum_congr rfl fun k _ => hstep k, Finset.sum_add_distrib, hrest,
      Finset.sum_ite_eq, if_pos (hcover e List.mem_cons_self), List.map_cons, List.sum_cons]

/-- A list of keys, summed row by row: each row counts as often as its key is listed. -/
theorem sum_by_key [DecidableEq K] {A : Type*} {key : A → K} {rows : List A}
    (hnodup : (rows.map key).Nodup) {keys : List K} (hkeys : ∀ k ∈ keys, k ∈ rows.map key)
    {f : A → M} {g : K → M} (hg : ∀ a ∈ rows, g (key a) = f a) :
    (keys.map g).sum = (rows.map fun a => keys.count (key a) • f a).sum := by
  have hrows : (rows.map fun a => keys.count (key a) • f a) =
      (rows.map key).map fun k => keys.count k • g k := by
    rw [List.map_map]
    exact List.map_congr_left fun a ha => by rw [Function.comp_apply, hg a ha]
  rw [hrows, ← List.sum_toFinset _ hnodup, Finset.sum_list_map_count]
  refine Finset.sum_subset (fun k hk => ?_) fun k _ hk => ?_
  · exact List.mem_toFinset.mpr (hkeys k (List.mem_toFinset.mp hk))
  · rw [List.count_eq_zero_of_not_mem fun h => hk (List.mem_toFinset.mpr h), zero_nsmul]

/-- A sum of differences is the difference of the sums. -/
theorem sum_map_sub {E : Type v} {G : Type w} [AddCommGroup G] (f g : E → G) (es : List E) :
    (es.map fun e => f e - g e).sum = (es.map f).sum - (es.map g).sum := by
  induction es with
  | nil => exact (sub_self _).symm
  | cons e rest ih =>
    rw [List.map_cons, List.map_cons, List.map_cons, List.sum_cons, List.sum_cons, List.sum_cons, ih]
    exact (add_sub_add_comm ..).symm

end SmartErpPos.Lib
