/-
  Lib/OrderedMap.lean --- finite maps that remember insertion order.

  The keyed collections of a scripting language (`Map`, plain objects) are
  association lists with one entry per key: writing an existing key replaces
  the value where it stands, writing a new key appends.  Iteration follows that
  order, so two maps with the same bindings can still be observed to differ.

  The list of entries carries its proof of duplicate-freeness, and equality of
  maps is equality of the entry lists.  `restrict` keeps the entries whose key
  satisfies a test; the lemmas `restrict_set_of_true` and
  `restrict_set_of_false` say how it meets `set`, which is what a replay of a
  filtered log needs.
-/
import Mathlib.Data.List.Nodup
import Mathlib.Data.List.Basic

set_option autoImplicit false

namespace SmartErpPos.Lib

universe u v w

variable {K : Type u} {V : Type v}

/-! ## Entry lists -/

section EntryLists

variable [DecidableEq K]

/-- The value stored under `k`, if any. -/
def lookupEntry (k : K) : List (K × V) → Option V
  | [] => none
  | (k', v) :: rest => if k' = k then some v else lookupEntry k rest

/-- Write `v` under `k`: in place when `k` is there, at the end when it is not. -/
def setEntry (k : K) (v : V) : List (K × V) → List (K × V)
  | [] => [(k, v)]
  | (k', v') :: rest => if k' = k then (k, v) :: rest else (k', v') :: setEntry k v rest

theorem lookupEntry_nil (k : K) : lookupEntry k ([] : List (K × V)) = none := rfl

theorem lookupEntry_cons (k : K) (e : K × V) (rest : List (K × V)) :
    lookupEntry k (e :: rest) = if e.1 = k then some e.2 else lookupEntry k rest := rfl

theorem setEntry_nil (k : K) (v : V) : setEntry k v ([] : List (K × V)) = [(k, v)] := rfl

theorem setEntry_cons (k : K) (v : V) (e : K × V) (rest : List (K × V)) :
    setEntry k v (e :: rest) = if e.1 = k then (k, v) :: rest else e :: setEntry k v rest := rfl

theorem lookupEntry_setEntry_self (k : K) (v : V) (es : List (K × V)) :
    lookupEntry k (setEntry k v es) = some v := by
  induction es with
  | nil => simp [setEntry_nil, lookupEntry_cons]
  | cons e rest ih =>
    by_cases h : e.1 = k
    · simp [setEntry_cons, lookupEntry_cons, h]
    · simp [setEntry_cons, lookupEntry_cons, h, ih]

variable {k : K} {es : List (K × V)}

theorem lookupEntry_setEntry_of_ne {k' : K} (h : k' ≠ k) (v : V) (es : List (K × V)) :
    lookupEntry k' (setEntry k v es) = lookupEntry k' es := by
  induction es with
  | nil => simp [setEntry_nil, lookupEntry_cons, lookupEntry_nil, Ne.symm h]
  | cons e rest ih =>
    by_cases he : e.1 = k
    · have hne : ¬ e.1 = k' := fun hk => h (hk ▸ he)
      simp [setEntry_cons, lookupEntry_cons, he, Ne.symm h]
    · simp [setEntry_cons, lookupEntry_cons, he, ih]

theorem setEntry_setEntry (k : K) (v w : V) (es : List (K × V)) :
    setEntry k w (setEntry k v es) = setEntry k w es := by
  induction es with
  | nil => simp [setEntry_nil, setEntry_cons]
  | cons e rest ih =>
    rcases eq_or_ne e.1 k with h | h
    · simp [setEntry_cons, h]
    · simp [setEntry_cons, h, ih]

/-- A new key is written at the end. -/
theorem setEntry_of_lookupEntry_eq_none (h : lookupEntry k es = none) (v : V) :
    setEntry k v es = es ++ [(k, v)] := by
  induction es with
  | nil => rfl
  | cons e rest ih =>
    rcases eq_or_ne e.1 k with he | he
    · simp [lookupEntry_cons, he] at h
    · simp only [lookupEntry_cons, if_neg he] at h
      simp [setEntry_cons, he, ih h]

/-- Writing the value that is there changes nothing. -/
theorem setEntry_of_lookupEntry {v : V} (h : lookupEntry k es = some v) : setEntry k v es = es := by
  induction es with
  | nil => cases h
  | cons e rest ih =>
    obtain ⟨k', w⟩ := e
    rcases eq_or_ne k' k with rfl | he
    · rw [lookupEntry_cons, if_pos rfl] at h
      cases h
      rw [setEntry_cons, if_pos rfl]
    · rw [lookupEntry_cons, if_neg he] at h
      rw [setEntry_cons, if_neg he, ih h]

theorem mem_keys_setEntry {k' : K} {v : V} :
    k' ∈ (setEntry k v es).map Prod.fst ↔ k' = k ∨ k' ∈ es.map Prod.fst := by
  induction es with
  | nil => simp [setEntry_nil]
  | cons e rest ih =>
    by_cases h : e.1 = k
    · subst h
      simp [setEntry_cons]
    · simp only [setEntry_cons, if_neg h, List.map_cons, List.mem_cons, ih]
      tauto

theorem nodup_keys_setEntry {v : V} (hes : (es.map Prod.fst).Nodup) :
    ((setEntry k v es).map Prod.fst).Nodup := by
  induction es with
  | nil => simp [setEntry_nil]
  | cons e rest ih =>
    rw [List.map_cons, List.nodup_cons] at hes
    by_cases h : e.1 = k
    · subst h
      simpa [setEntry_cons] using hes
    · simp only [setEntry_cons, if_neg h, List.map_cons, List.nodup_cons, mem_keys_setEntry, not_or]
      exact ⟨⟨h, hes.1⟩, ih hes.2⟩

theorem lookupEntry_eq_none_iff : lookupEntry k es = none ↔ k ∉ es.map Prod.fst := by
  induction es with
  | nil => simp [lookupEntry_nil]
  | cons e rest ih =>
    by_cases h : e.1 = k
    · simp [lookupEntry_cons, h]
    · simp only [lookupEntry_cons, if_neg h, ih, List.map_cons, List.mem_cons, not_or]
      exact ⟨fun hr => ⟨Ne.symm h, hr⟩, fun hr => hr.2⟩

theorem lookupEntry_eq_some_iff {v : V} (hes : (es.map Prod.fst).Nodup) :
    lookupEntry k es = some v ↔ (k, v) ∈ es := by
  induction es with
  | nil => simp [lookupEntry_nil]
  | cons e rest ih =>
    rw [List.map_cons, List.nodup_cons] at hes
    obtain ⟨k', v'⟩ := e
    by_cases h : k' = k
    · subst h
      have hrest : (k', v) ∉ rest := fun hm =>
        hes.1 (List.mem_map.mpr ⟨(k', v), hm, rfl⟩)
      simp [lookupEntry_cons, hrest, eq_comm]
    · simp [lookupEntry_cons, h, Ne.symm h, ih hes.2]

theorem filter_setEntry_of_true {p : K → Bool} (hk : p k = true) (v : V) (es : List (K × V)) :
    (setEntry k v es).filter (fun e => p e.1) = setEntry k v (es.filter (fun e => p e.1)) := by
  induction es with
  | nil => simp [setEntry_nil, hk]
  | cons e rest ih =>
    by_cases h : e.1 = k
    · have he : p e.1 = true := by rw [h]; exact hk
      simp [setEntry_cons, h, hk]
    · by_cases he : p e.1 = true
      · simp [setEntry_cons, h, he, ih]
      · simp [setEntry_cons, h, he, ih]

theorem filter_setEntry_of_false {p : K → Bool} (hk : p k = false) (v : V) (es : List (K × V)) :
    (setEntry k v es).filter (fun e => p e.1) = es.filter (fun e => p e.1) := by
  induction es with
  | nil => simp [setEntry_nil, hk]
  | cons e rest ih =>
    by_cases h : e.1 = k
    · simp [setEntry_cons, h, hk]
    · simp [setEntry_cons, h, List.filter_cons, ih]

theorem lookupEntry_filter {p : K → Bool} (hk : p k = true) (es : List (K × V)) :
    lookupEntry k (es.filter (fun e => p e.1)) = lookupEntry k es := by
  induction es with
  | nil => rfl
  | cons e rest ih =>
    by_cases h : e.1 = k
    · simp [lookupEntry_cons, h, hk]
    · by_cases he : p e.1 = true
      · simp [lookupEntry_cons, h, he, ih]
      · simp [lookupEntry_cons, h, he, ih]

/-- Other names for the keys: a look-up goes by the new name where no two keys share one. -/
theorem lookupEntry_map {K' : Type*} [DecidableEq K'] {f : K → K'}
    (hf : ∀ k' ∈ es.map Prod.fst, f k' = f k → k' = k) :
    lookupEntry (f k) (es.map fun e => (f e.1, e.2)) = lookupEntry k es := by
  induction es with
  | nil => rfl
  | cons e rest ih =>
    have ih := ih fun k' hk' => hf k' (List.mem_cons_of_mem _ hk')
    by_cases h : e.1 = k
    · simp [lookupEntry_cons, h]
    · have hne : f e.1 ≠ f k := fun heq => h (hf e.1 List.mem_cons_self heq)
      simp only [List.map_cons, lookupEntry_cons, if_neg h, if_neg hne, ih]

theorem setEntry_map {K' : Type*} [DecidableEq K'] {f : K → K'}
    (hf : ∀ k' ∈ es.map Prod.fst, f k' = f k → k' = k) (v : V) :
    setEntry (f k) v (es.map fun e => (f e.1, e.2)) =
      (setEntry k v es).map fun e => (f e.1, e.2) := by
  induction es with
  | nil => rfl
  | cons e rest ih =>
    have ih := ih fun k' hk' => hf k' (List.mem_cons_of_mem _ hk')
    by_cases h : e.1 = k
    · simp [setEntry_cons, h]
    · have hne : f e.1 ≠ f k := fun heq => h (hf e.1 List.mem_cons_self heq)
      simp only [List.map_cons, setEntry_cons, if_neg h, if_neg hne, ih]

end EntryLists

/-! ## The map -/

/-- A finite map with an insertion order: at most one entry per key. -/
structure OrderedMap (K : Type u) (V : Type v) where
  /-- The bindings, oldest key first. -/
  entries : List (K × V)
  /-- No key is bound twice. -/
  nodup : (entries.map Prod.fst).Nodup

namespace OrderedMap

variable {m : OrderedMap K V} {k : K} {v : V} {p : K → Bool}

@[ext] theorem ext {n : OrderedMap K V} (h : m.entries = n.entries) : m = n := by
  cases m
  cases n
  cases h
  rfl

instance [DecidableEq K] [DecidableEq V] : DecidableEq (OrderedMap K V) := fun m n =>
  decidable_of_iff (m.entries = n.entries) ⟨ext, fun h => h ▸ rfl⟩

/-- The map with no bindings. -/
def empty : OrderedMap K V := ⟨[], List.nodup_nil⟩

/-- The keys, oldest first. -/
def keys (m : OrderedMap K V) : List K := m.entries.map Prod.fst

/-- The values, in the order of their keys. -/
def values (m : OrderedMap K V) : List V := m.entries.map Prod.snd

/-- Keep the bindings whose key satisfies `p`. -/
def restrict (p : K → Bool) (m : OrderedMap K V) : OrderedMap K V where
  entries := m.entries.filter (fun e => p e.1)
  nodup := m.nodup.sublist (List.filter_sublist.map Prod.fst)

/-- Rewrite every value by a function of its key and itself. -/
def mapWithKey (f : K → V → V) (m : OrderedMap K V) : OrderedMap K V where
  entries := m.entries.map fun e => (e.1, f e.1 e.2)
  nodup := by
    rw [List.map_map]
    exact m.nodup

/-- Rewrite every value. -/
def mapValues (f : V → V) (m : OrderedMap K V) : OrderedMap K V where
  entries := m.entries.map fun e => (e.1, f e.2)
  nodup := by
    have h : ((m.entries.map fun e => (e.1, f e.2)).map Prod.fst) = m.entries.map Prod.fst := by
      rw [List.map_map]
      rfl
    rw [h]
    exact m.nodup

@[simp] theorem restrict_empty (p : K → Bool) :
    (empty : OrderedMap K V).restrict p = empty := rfl

variable [DecidableEq K]

/-- The value bound to `k`, if any. -/
def get? (m : OrderedMap K V) (k : K) : Option V := lookupEntry k m.entries

/-- Bind `k` to `v`, keeping the position of `k` when it is bound already. -/
def set (m : OrderedMap K V) (k : K) (v : V) : OrderedMap K V where
  entries := setEntry k v m.entries
  nodup := nodup_keys_setEntry m.nodup

/-- Drop the binding of `k`. -/
def erase (m : OrderedMap K V) (k : K) : OrderedMap K V := m.restrict fun k' => decide (k' ≠ k)

/-- Rewrite the value bound to `k`; without a binding nothing happens. -/
def modify (m : OrderedMap K V) (k : K) (f : V → V) : OrderedMap K V :=
  match m.get? k with
  | some v => m.set k (f v)
  | none => m

@[simp] theorem get?_empty (k : K) : (empty : OrderedMap K V).get? k = none := rfl

@[simp] theorem get?_set_self (m : OrderedMap K V) (k : K) (v : V) :
    (m.set k v).get? k = some v :=
  lookupEntry_setEntry_self k v m.entries

theorem get?_set_of_ne {k' : K} (h : k' ≠ k) (m : OrderedMap K V) (v : V) :
    (m.set k v).get? k' = m.get? k' :=
  lookupEntry_setEntry_of_ne h v m.entries

theorem get?_set (m : OrderedMap K V) (k k' : K) (v : V) :
    (m.set k v).get? k' = if k' = k then some v else m.get? k' := by
  by_cases h : k' = k
  · subst h
    simp
  · rw [if_neg h, get?_set_of_ne h]

@[simp] theorem get?_modify_self (m : OrderedMap K V) (k : K) (f : V → V) :
    (m.modify k f).get? k = (m.get? k).map f := by
  unfold modify
  cases h : m.get? k with
  | none => simp [h]
  | some v => simp

theorem get?_modify_of_ne {k' : K} (h : k' ≠ k) (m : OrderedMap K V) (f : V → V) :
    (m.modify k f).get? k' = m.get? k' := by
  unfold modify
  cases m.get? k with
  | none => rfl
  | some v => exact get?_set_of_ne h m (f v)

theorem get?_modify (m : OrderedMap K V) (k k' : K) (f : V → V) :
    (m.modify k f).get? k' = if k' = k then (m.get? k').map f else m.get? k' := by
  by_cases h : k' = k
  · subst h
    simp
  · rw [if_neg h, get?_modify_of_ne h]

@[simp] theorem get?_mapWithKey (f : K → V → V) (m : OrderedMap K V) (k : K) :
    (m.mapWithKey f).get? k = (m.get? k).map (f k) := by
  have h : ∀ es : List (K × V),
      lookupEntry k (es.map fun e => (e.1, f e.1 e.2)) = (lookupEntry k es).map (f k) := by
    intro es
    induction es with
    | nil => rfl
    | cons e rest ih =>
      obtain ⟨k', v⟩ := e
      rcases eq_or_ne k' k with rfl | he
      · simp [lookupEntry_cons]
      · simpa [lookupEntry_cons, he] using ih
  exact h m.entries

@[simp] theorem set_set (m : OrderedMap K V) (k : K) (v w : V) :
    (m.set k v).set k w = m.set k w :=
  ext (setEntry_setEntry k v w m.entries)

/-- A new binding goes to the end. -/
theorem entries_set_of_get?_eq_none (h : m.get? k = none) (v : V) :
    (m.set k v).entries = m.entries ++ [(k, v)] :=
  setEntry_of_lookupEntry_eq_none h v

@[simp] theorem modify_set_self (m : OrderedMap K V) (k : K) (v : V) (f : V → V) :
    (m.set k v).modify k f = m.set k (f v) := by
  simp [modify]

/-- Rewriting a bound value is binding the new one. -/
theorem modify_eq_set (h : m.get? k = some v) (f : V → V) : m.modify k f = m.set k (f v) := by
  simp [modify, h]

theorem keys_setEntry_of_mem {es : List (K × V)} (h : k ∈ es.map Prod.fst) :
    (setEntry k v es).map Prod.fst = es.map Prod.fst := by
  induction es with
  | nil => cases h
  | cons e rest ih =>
    rw [setEntry_cons]
    split
    · rename_i he
      rw [List.map_cons, List.map_cons, he]
    · rename_i he
      rw [List.map_cons, List.map_cons, ih ((List.mem_cons.mp h).resolve_left (Ne.symm he))]

/-- Rewriting a value changes nothing exactly when the value stays the same. -/
theorem modify_eq_self_iff {f : V → V} : m.modify k f = m ↔ ∀ v, m.get? k = some v → f v = v := by
  constructor
  · intro h v hget
    have hmap := get?_modify_self m k f
    rw [h, hget] at hmap
    exact (Option.some_inj.mp hmap).symm
  · intro h
    unfold modify
    cases hget : m.get? k with
    | none => rfl
    | some v =>
      dsimp only
      rw [h v hget]
      exact ext (setEntry_of_lookupEntry hget)

@[simp] theorem get?_mapValues (f : V → V) (m : OrderedMap K V) (k : K) :
    (m.mapValues f).get? k = (m.get? k).map f := by
  have h : ∀ es : List (K × V),
      lookupEntry k (es.map fun e => (e.1, f e.2)) = (lookupEntry k es).map f := by
    intro es
    induction es with
    | nil => rfl
    | cons e rest ih =>
      by_cases he : e.1 = k
      · simp [lookupEntry_cons, he]
      · simpa [lookupEntry_cons, he] using ih
  exact h m.entries

theorem get?_eq_some_iff : m.get? k = some v ↔ (k, v) ∈ m.entries :=
  lookupEntry_eq_some_iff m.nodup

theorem mem_keys_iff : k ∈ m.keys ↔ ∃ v, m.get? k = some v := by
  constructor
  · intro h
    obtain ⟨e, he, rfl⟩ := List.mem_map.mp h
    exact ⟨e.2, get?_eq_some_iff.mpr he⟩
  · rintro ⟨v, hv⟩
    exact List.mem_map.mpr ⟨(k, v), get?_eq_some_iff.mp hv, rfl⟩

@[simp] theorem keys_modify (m : OrderedMap K V) (k : K) (f : V → V) :
    (m.modify k f).keys = m.keys := by
  unfold modify
  cases h : m.get? k with
  | none => rfl
  | some v => exact keys_setEntry_of_mem (List.mem_map_of_mem (get?_eq_some_iff.mp h))

theorem mem_values_iff : v ∈ m.values ↔ ∃ k, m.get? k = some v := by
  simp only [values, List.mem_map, Prod.exists, get?_eq_some_iff]
  constructor
  · rintro ⟨k, w, hm, rfl⟩
    exact ⟨k, hm⟩
  · rintro ⟨k, hm⟩
    exact ⟨k, v, hm, rfl⟩

/-- Writing a kept key commutes with the restriction. -/
theorem restrict_set_of_true (hk : p k = true) (m : OrderedMap K V) (v : V) :
    (m.set k v).restrict p = (m.restrict p).set k v :=
  ext (filter_setEntry_of_true hk v m.entries)

/-- Writing a dropped key is invisible under the restriction. -/
theorem restrict_set_of_false (hk : p k = false) (m : OrderedMap K V) (v : V) :
    (m.set k v).restrict p = m.restrict p :=
  ext (filter_setEntry_of_false hk v m.entries)

theorem restrict_modify_of_true (hk : p k = true) (m : OrderedMap K V) (f : V → V) :
    (m.modify k f).restrict p = (m.restrict p).modify k f := by
  have hget : (m.restrict p).get? k = m.get? k := lookupEntry_filter hk m.entries
  unfold modify
  rw [hget]
  cases m.get? k with
  | none => rfl
  | some v => exact restrict_set_of_true hk m (f v)

theorem restrict_modify_of_false (hk : p k = false) (m : OrderedMap K V) (f : V → V) :
    (m.modify k f).restrict p = m.restrict p := by
  unfold modify
  cases m.get? k with
  | none => rfl
  | some v => exact restrict_set_of_false hk m (f v)

theorem get?_restrict (hk : p k = true) (m : OrderedMap K V) : (m.restrict p).get? k = m.get? k :=
  lookupEntry_filter hk m.entries

theorem get?_restrict_of_false (hk : p k = false) (m : OrderedMap K V) :
    (m.restrict p).get? k = none := by
  refine lookupEntry_eq_none_iff.mpr fun hmem => ?_
  obtain ⟨e, he, rfl⟩ := List.mem_map.mp hmem
  rw [(List.mem_filter.mp he).2] at hk
  cases hk

@[simp] theorem get?_erase_self (m : OrderedMap K V) (k : K) : (m.erase k).get? k = none :=
  get?_restrict_of_false (by simp) m

theorem get?_erase_of_ne {k' : K} (h : k' ≠ k) (m : OrderedMap K V) :
    (m.erase k).get? k' = m.get? k' :=
  get?_restrict (p := fun k'' => decide (k'' ≠ k)) (decide_eq_true h) m

/-- Binding the keys of a list leaves the other keys. -/
theorem get?_foldl_set_of_notMem {E : Type w} {κ : E → K} {val : E → V} {es : List E}
    (hk : k ∉ es.map κ) (m : OrderedMap K V) :
    (es.foldl (fun m e => m.set (κ e) (val e)) m).get? k = m.get? k := by
  induction es generalizing m with
  | nil => rfl
  | cons x rest ih =>
    rw [List.map_cons, List.mem_cons, not_or] at hk
    rw [List.foldl_cons, ih hk.2, get?_set_of_ne hk.1]

/-- Binding the keys of a list one after the other: without repetitions each keeps its value. -/
theorem get?_foldl_set {E : Type w} {κ : E → K} {val : E → V} {es : List E}
    (hes : (es.map κ).Nodup) (m : OrderedMap K V) {e : E} (he : e ∈ es) :
    (es.foldl (fun m e => m.set (κ e) (val e)) m).get? (κ e) = some (val e) := by
  induction es generalizing m with
  | nil => cases he
  | cons x rest ih =>
    obtain ⟨hx, hrest⟩ := List.nodup_cons.mp hes
    rw [List.foldl_cons]
    rcases List.mem_cons.mp he with rfl | he
    · rw [get?_foldl_set_of_notMem hx, get?_set_self]
    · exact ih hrest _ he

/-- What a key is bound to afterwards was there before or is the value of an item. -/
theorem get?_foldl_set_eq_some {E : Type w} {κ : E → K} {val : E → V} {es : List E}
    (h : (es.foldl (fun m e => m.set (κ e) (val e)) m).get? k = some v) :
    m.get? k = some v ∨ ∃ e ∈ es, κ e = k ∧ val e = v := by
  induction es generalizing m with
  | nil => exact .inl h
  | cons x rest ih =>
    rw [List.foldl_cons] at h
    rcases ih h with hm | ⟨e, he, hkey⟩
    · by_cases hx : k = κ x
      · subst hx
        rw [get?_set_self] at hm
        exact .inr ⟨x, List.mem_cons_self, rfl, Option.some.inj hm⟩
      · rw [get?_set_of_ne hx] at hm
        exact .inl hm
    · exact .inr ⟨e, List.mem_cons_of_mem _ he, hkey⟩

/-- Inserting rows with `ON CONFLICT DO NOTHING`: rows that were there stay, every other row is
one of the inserted ones, and each inserted key has a row. -/
theorem foldl_insertMissing {E : Type w} {κ : E → K} {c : E → Prop} {val : E → V}
    {insert : OrderedMap K V → E → OrderedMap K V}
    (hset : ∀ m e, c e → m.get? (κ e) = none → insert m e = m.set (κ e) (val e))
    (hkeep : ∀ m e, ¬ (c e ∧ m.get? (κ e) = none) → insert m e = m) (es : List E)
    (m : OrderedMap K V) :
    (∀ k v, m.get? k = some v → (es.foldl insert m).get? k = some v) ∧
      (∀ k v, (es.foldl insert m).get? k = some v →
        m.get? k = some v ∨ (m.get? k = none ∧ ∃ e ∈ es, c e ∧ k = κ e ∧ v = val e)) ∧
      ∀ e ∈ es, c e → ((es.foldl insert m).get? (κ e)).isSome = true := by
  induction es generalizing m with
  | nil => exact ⟨fun _ _ h => h, fun _ _ h => .inl h, fun _ he => nomatch he⟩
  | cons x rest ih =>
    obtain ⟨hold, hnew, hall⟩ := ih (insert m x)
    rw [List.foldl_cons]
    by_cases hx : c x ∧ m.get? (κ x) = none
    · have heq := hset m x hx.1 hx.2
      have hx' : (insert m x).get? (κ x) = some (val x) := by rw [heq, get?_set_self]
      refine ⟨fun k v hk => hold k v ?_, fun k v hk => ?_, fun e he hc => ?_⟩
      · have hne : k ≠ κ x := by
          rintro rfl
          rw [hx.2] at hk
          cases hk
        rw [heq, get?_set_of_ne hne, hk]
      · rcases hnew k v hk with hbefore | ⟨hnone, e, he, hc⟩
        · rw [heq, get?_set] at hbefore
          split at hbefore
          · rename_i hkx
            cases hbefore
            exact .inr ⟨hkx ▸ hx.2, x, List.mem_cons_self, hx.1, hkx, rfl⟩
          · exact .inl hbefore
        · refine .inr ⟨?_, e, List.mem_cons_of_mem x he, hc⟩
          rw [heq, get?_set] at hnone
          split at hnone
          · cases hnone
          · exact hnone
      · rcases List.mem_cons.mp he with rfl | he
        · rw [hold _ _ hx']
          rfl
        · exact hall e he hc
    · have heq := hkeep m x hx
      refine ⟨fun k v hk => hold k v (heq.symm ▸ hk), fun k v hk => ?_, fun e he hc => ?_⟩
      · rcases hnew k v hk with hbefore | ⟨hnone, e, he, hc⟩
        · exact .inl (heq ▸ hbefore)
        · exact .inr ⟨heq ▸ hnone, e, List.mem_cons_of_mem x he, hc⟩
      · rcases List.mem_cons.mp he with rfl | he
        · obtain ⟨v, hv⟩ := Option.ne_none_iff_exists'.mp fun hnone => hx ⟨hc, hnone⟩
          rw [hold _ _ (heq.symm ▸ hv)]
          rfl
        · exact hall e he hc

/-- What holds of all rewritten values holds of all values, rewritten. -/
theorem forall_get?_map {m' : OrderedMap K V} {f : K → V → V}
    (h : ∀ k, m'.get? k = (m.get? k).map (f k)) {P : K → V → Prop} :
    (∀ k v, m'.get? k = some v → P k v) ↔ ∀ k v, m.get? k = some v → P k (f k v) := by
  constructor
  · intro hall k v hget
    exact hall k (f k v) (by rw [h, hget]; rfl)
  · intro hall k v hget
    rw [h] at hget
    obtain ⟨w, hw, rfl⟩ := Option.map_eq_some_iff.mp hget
    exact hall k w hw

/-! ## Unique columns -/

/-- No two keys hold values with the same `f`. -/
def UniqueBy {B : Type w} (f : V → B) (m : OrderedMap K V) : Prop :=
  ∀ k k' v v', m.get? k = some v → m.get? k' = some v' → f v = f v' → k = k'

theorem UniqueBy.free {B : Type w} {f : V → B} (h : m.UniqueBy f) (hget : m.get? k = some v) :
    ∀ e ∈ m.entries, e.1 ≠ k → f e.2 ≠ f v :=
  fun e he hne heq => hne (h e.1 k e.2 v (get?_eq_some_iff.mpr he) hget heq)

theorem UniqueBy.set {B : Type w} {f : V → B} (h : m.UniqueBy f)
    (hfree : ∀ e ∈ m.entries, e.1 ≠ k → f e.2 ≠ f v) : (m.set k v).UniqueBy f := by
  have hfree' : ∀ k' v', k' ≠ k → m.get? k' = some v' → f v' ≠ f v := fun k' v' hk hget =>
    hfree (k', v') (get?_eq_some_iff.mp hget) hk
  intro a b x y ha hb hxy
  rw [get?_set] at ha hb
  split at ha
  · cases ha
    split at hb
    · simp_all
    · rename_i hbk
      exact absurd hxy.symm (hfree' b y hbk hb)
  · rename_i hak
    split at hb
    · cases hb
      exact absurd hxy (hfree' a x hak ha)
    · exact h a b x y ha hb hxy

end OrderedMap

end SmartErpPos.Lib
