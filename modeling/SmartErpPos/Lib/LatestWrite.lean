/-
  Lib/LatestWrite.lean --- the last write of a log, in the order of a key.

  A stable sort by a key leaves elements with equal keys in the order of the log.
  Its last element is therefore the one with the greatest key, the later one in the
  log where two share it.  `latest` computes that element in one pass, and
  `getLast?_filterMap_insertionSort` reads the last write of a kind off the sorted
  log without sorting it.

  `forall_prefix_iff` is the rule for properties of append-only logs: a property
  holds all along a log exactly when every append keeps it.
-/
import Mathlib.Data.List.Sort
import Mathlib.Data.List.Induction

set_option autoImplicit false

namespace SmartErpPos.Lib

universe u v w

/-- One more element of a log is the last selected one, if it is selected. -/
theorem getLast?_filterMap_concat {A : Type u} {B : Type v} (sel : A → Option B) (l : List A)
    (a : A) : ((l ++ [a]).filterMap sel).getLast? = (sel a).or (l.filterMap sel).getLast? := by
  rw [List.filterMap_append]
  cases hsel : sel a with
  | none => simp [hsel]
  | some b => simp [hsel]

/-- The last selected value is that of the last element selected. -/
theorem getLast?_filterMap {A : Type u} {B : Type v} (sel : A → Option B) (l : List A) :
    (l.filterMap sel).getLast? = ((l.filter fun a => (sel a).isSome).getLast?).bind sel := by
  induction l using List.reverseRecOn with
  | nil => rfl
  | append_singleton l a ih =>
    rw [getLast?_filterMap_concat, List.filter_append, ih]
    cases hsel : sel a with
    | none => simp [hsel]
    | some b => simp [hsel]

/-! ## The greatest key -/

section Latest

variable {A : Type u} {B : Type v} {K : Type w} [LinearOrder K] (key : A → K)

/-- `a`, unless what comes after it has a key as great. -/
def laterOf (a : A) : Option A → A
  | none => a
  | some b => if key a ≤ key b then b else a

/-- The element with the greatest key; at equal keys the later one. -/
def latest : List A → Option A
  | [] => none
  | a :: rest => some (laterOf key a (latest rest))

/-- An element as great as all before it is the latest. -/
theorem latest_concat_of_le {l : List A} {a : A} (h : ∀ b ∈ l, key b ≤ key a) :
    latest key (l ++ [a]) = some a := by
  induction l with
  | nil => rfl
  | cons b rest ih =>
    obtain ⟨hb, hrest⟩ := List.forall_mem_cons.mp h
    rw [List.cons_append, latest, ih hrest, laterOf, if_pos hb]

/-- The stable sort by `key`. -/
abbrev sortByKey (l : List A) : List A := l.insertionSort fun a b => key a ≤ key b

theorem pairwise_sortByKey (l : List A) : (sortByKey key l).Pairwise fun a b => key a ≤ key b := by
  have : Std.Total fun a b : A => key a ≤ key b := ⟨fun a b => le_total (key a) (key b)⟩
  have : IsTrans A fun a b => key a ≤ key b := ⟨fun _ _ _ hab hbc => hab.trans hbc⟩
  exact List.pairwise_insertionSort _ l

/-- Inserting into a sorted list displaces its last element only from above. -/
theorem getLast?_orderedInsert (a : A) {l : List A} (hl : l.Pairwise fun x y => key x ≤ key y) :
    (l.orderedInsert (fun x y => key x ≤ key y) a).getLast? = some (laterOf key a l.getLast?) := by
  induction l with
  | nil => rfl
  | cons b rest ih =>
    obtain ⟨hb, hrest⟩ := List.pairwise_cons.mp hl
    rw [List.orderedInsert_cons]
    rcases le_or_gt (key a) (key b) with hab | hab
    · obtain ⟨c, hc⟩ : ∃ c, (b :: rest).getLast? = some c :=
        Option.isSome_iff_exists.mp (by simp)
      have hbc : key b ≤ key c := by
        rcases List.mem_cons.mp (List.mem_of_getLast? hc) with rfl | hmem
        · exact le_rfl
        · exact hb c hmem
      rw [if_pos hab, List.getLast?_cons_cons]
      rw [hc, laterOf, if_pos (hab.trans hbc)]
    · rw [if_neg hab.not_ge, List.getLast?_cons, ih hrest, Option.getD_some]
      cases hlast : rest.getLast? with
      | none => simp [List.getLast?_eq_none_iff.mp hlast, laterOf, hab.not_ge]
      | some c => rw [List.getLast?_cons, hlast, Option.getD_some]

theorem getLast?_sortByKey (l : List A) : (sortByKey key l).getLast? = latest key l := by
  induction l with
  | nil => rfl
  | cons a rest ih =>
    rw [sortByKey, List.insertionSort_cons,
      getLast?_orderedInsert key a (pairwise_sortByKey key rest), ih]
    rfl

variable {key}

theorem filter_orderedInsert_of_false {p : A → Bool} {a : A} (hp : p a = false) (l : List A) :
    (l.orderedInsert (fun x y => key x ≤ key y) a).filter p = l.filter p := by
  induction l with
  | nil => simp [hp]
  | cons b rest ih =>
    rw [List.orderedInsert_cons]
    split
    · rw [List.filter_cons_of_neg (by simp [hp])]
    · rw [List.filter_cons, List.filter_cons, ih]

theorem filter_orderedInsert_of_true {p : A → Bool} {a : A} (hp : p a = true) {l : List A}
    (hl : l.Pairwise fun x y => key x ≤ key y) :
    (l.orderedInsert (fun x y => key x ≤ key y) a).filter p =
      (l.filter p).orderedInsert (fun x y => key x ≤ key y) a := by
  induction l with
  | nil => simp [hp]
  | cons b rest ih =>
    obtain ⟨hb, hrest⟩ := List.pairwise_cons.mp hl
    rw [List.orderedInsert_cons]
    rcases le_or_gt (key a) (key b) with hab | hab
    · -- everything kept stands at or above `a`
      have habove : ∀ c ∈ (b :: rest).filter p, key a ≤ key c := by
        intro c hc
        rcases List.mem_cons.mp (List.mem_filter.mp hc).1 with rfl | hmem
        · exact hab
        · exact hab.trans (hb c hmem)
      rw [if_pos hab, List.filter_cons_of_pos hp]
      cases hkept : (b :: rest).filter p with
      | nil => rfl
      | cons c kept =>
        rw [List.orderedInsert_cons, if_pos (habove c (by simp [hkept]))]
    · rw [if_neg hab.not_ge, List.filter_cons, List.filter_cons, ih hrest]
      split
      · rw [List.orderedInsert_cons, if_neg hab.not_ge]
      · rfl

variable (key)

/-- Dropping elements and sorting commute. -/
theorem filter_sortByKey (p : A → Bool) (l : List A) :
    (sortByKey key l).filter p = sortByKey key (l.filter p) := by
  induction l with
  | nil => rfl
  | cons a rest ih =>
    rw [sortByKey, List.insertionSort_cons]
    cases hp : p a with
    | false => rw [List.filter_cons_of_neg (by simp [hp]), ← ih, filter_orderedInsert_of_false hp]
    | true =>
      rw [List.filter_cons_of_pos hp, filter_orderedInsert_of_true hp (pairwise_sortByKey key rest),
        ih]
      rfl

/-- What the last write of a kind says in the sorted log. -/
theorem getLast?_filterMap_sortByKey (sel : A → Option B) (l : List A) :
    ((sortByKey key l).filterMap sel).getLast? =
      (latest key (l.filter fun a => (sel a).isSome)).bind sel := by
  rw [← getLast?_sortByKey, ← filter_sortByKey]
  exact getLast?_filterMap sel (sortByKey key l)

end Latest

/-! ## Append-only logs -/

/-- A property holds all along a log exactly when every append keeps it. -/
theorem forall_prefix_iff {A : Type u} {P : List A → Prop} {Keeps : List A → A → Prop}
    (hnil : P []) (hstep : ∀ l a, P l → (P (l ++ [a]) ↔ Keeps l a)) (log : List A) :
    (∀ l, l <+: log → P l) ↔ ∀ l a, l ++ [a] <+: log → Keeps l a := by
  constructor
  · intro hP l a hla
    exact (hstep l a (hP l ((List.prefix_append l [a]).trans hla))).mp (hP _ hla)
  · intro hKeeps l
    induction l using List.reverseRecOn with
    | nil => exact fun _ => hnil
    | append_singleton l a ih =>
      intro hla
      exact (hstep l a (ih ((List.prefix_append l [a]).trans hla))).mpr (hKeeps l a hla)

end SmartErpPos.Lib
