/-
  Lib/SortedDraw.lean --- drawing a demand from sources in a given order.

  `draws cap bs d` lists what each source of `bs` gives when `d` is wanted and the
  sources are asked in turn: all it has or what is still missing.

  The sources may come sorted by a relation that ties some of them.  How much lies
  strictly before a source does not depend on how ties are broken, and it decides what
  the source gives as long as no tie is reached before the demand is met
  (`drawn_eq`).  Then every sorted arrangement gives the same list
  (`draws_eq_of_settled`); otherwise two arrangements differ (`settled_of_draws_eq`).
-/
import Mathlib.Data.List.Sort
import Mathlib.Data.List.TakeWhile
import SmartErpPos.Lib.GreedyDraw

set_option autoImplicit false
set_option linter.unusedSectionVars false

namespace SmartErpPos.Lib

universe u v

variable {α : Type u} {B : Type v} [AddCommGroup α] [LinearOrder α]

/-! ## The list of draws -/

/-- What each source gives, as long as something is missing. -/
def draws (cap : B → α) : List B → α → List (B × α)
  | [], _ => []
  | b :: bs, d => if d ≤ 0 then [] else (b, min d (cap b)) :: draws cap bs (d - min d (cap b))

/-- What a source gives in a list of draws. -/
def drawn [DecidableEq B] (l : List (B × α)) (b : B) : α :=
  ((l.filter fun p => p.1 = b).map Prod.snd).sum

/-- A demand no larger than zero is met. -/
theorem draws_of_nonpos {cap : B → α} {d : α} (hd : d ≤ 0) (bs : List B) : draws cap bs d = [] := by
  cases bs with
  | nil => rfl
  | cons b bs => exact if_pos hd

theorem draws_cons_of_pos {cap : B → α} {d : α} (hd : 0 < d) (b : B) (bs : List B) :
    draws cap (b :: bs) d = (b, min d (cap b)) :: draws cap bs (d - min d (cap b)) :=
  if_neg (not_le.mpr hd)

theorem capTotal_append (cap : B → α) (bs cs : List B) :
    capTotal cap (bs ++ cs) = capTotal cap bs + capTotal cap cs := by
  simp [capTotal]

theorem capTotal_perm {cap : B → α} {bs cs : List B} (h : bs.Perm cs) :
    capTotal cap bs = capTotal cap cs := (h.map cap).sum_eq

theorem drawn_append [DecidableEq B] (l l' : List (B × α)) (b : B) : drawn (l ++ l') b = drawn l b + drawn l' b := by
  simp [drawn]

theorem drawn_of_not_mem [DecidableEq B] {l : List (B × α)} {b : B} (h : ∀ p ∈ l, p.1 ≠ b) : drawn l b = 0 := by
  have hnone : l.filter (fun p => p.1 = b) = [] :=
    List.filter_eq_nil_iff.mpr fun p hp => by simpa using h p hp
  rw [drawn, hnone]
  rfl

variable [IsOrderedAddMonoid α] {cap : B → α}

/-- Sources within the demand are emptied, and the next ones are asked for the rest. -/
theorem draws_append_of_le {before : List B} {d : α} (hcap : ∀ b ∈ before, 0 < cap b)
    (hmore : capTotal cap before ≤ d) (after : List B) :
    draws cap (before ++ after) d =
      before.map (fun b => (b, cap b)) ++ draws cap after (d - capTotal cap before) := by
  induction before generalizing d with
  | nil => simp
  | cons b before ih =>
    obtain ⟨hb, hbefore⟩ := List.forall_mem_cons.mp hcap
    have hrest := capTotal_nonneg hbefore
    rw [capTotal_cons] at hmore
    have hle : cap b ≤ d := le_trans (le_add_of_nonneg_right hrest) hmore
    have hmore' : capTotal cap before ≤ d - cap b := le_sub_iff_add_le'.mpr hmore
    rw [List.cons_append, draws_cons_of_pos (lt_of_lt_of_le hb hle), min_eq_right hle,
      ih hbefore hmore', capTotal_cons, sub_sub]
    rfl

/-- Sources that meet the demand leave nothing to the next ones. -/
theorem draws_append_of_ge {before : List B} {d : α} (hcap : ∀ b ∈ before, 0 < cap b)
    (hmet : d ≤ capTotal cap before) (after : List B) :
    draws cap (before ++ after) d = draws cap before d := by
  induction before generalizing d with
  | nil =>
    rw [capTotal_nil] at hmet
    rw [draws_of_nonpos hmet, draws_of_nonpos hmet]
  | cons b before ih =>
    obtain ⟨hb, hbefore⟩ := List.forall_mem_cons.mp hcap
    rw [capTotal_cons] at hmet
    rcases le_or_gt d 0 with hd | hd
    · rw [draws_of_nonpos hd, draws_of_nonpos hd]
    · have hmet' : d - min d (cap b) ≤ capTotal cap before := by
        rcases le_total d (cap b) with hle | hle
        · rw [min_eq_left hle, sub_self]
          exact capTotal_nonneg hbefore
        · rw [min_eq_right hle]
          exact sub_le_iff_le_add'.mpr hmet
      rw [List.cons_append, draws_cons_of_pos hd, draws_cons_of_pos hd, ih hbefore hmet']

/-- A draw is positive, and no more than its source has. -/
theorem mem_draws {bs : List B} {d : α} (hcap : ∀ b ∈ bs, 0 < cap b) {p : B × α}
    (hp : p ∈ draws cap bs d) : p.1 ∈ bs ∧ 0 < p.2 ∧ p.2 ≤ cap p.1 := by
  induction bs generalizing d with
  | nil => cases hp
  | cons b bs ih =>
    obtain ⟨hb, hbs⟩ := List.forall_mem_cons.mp hcap
    rcases le_or_gt d 0 with hd | hd
    · rw [draws_of_nonpos hd] at hp
      cases hp
    · rw [draws_cons_of_pos hd] at hp
      rcases List.mem_cons.mp hp with rfl | hp
      · exact ⟨List.mem_cons_self, lt_min hd hb, min_le_right _ _⟩
      · obtain ⟨hmem, hbounds⟩ := ih hbs hp
        exact ⟨List.mem_cons_of_mem b hmem, hbounds⟩

/-- Together the sources give the demand, or all they have. -/
theorem sum_draws {bs : List B} {d : α} (hcap : ∀ b ∈ bs, 0 < cap b) (hd : 0 ≤ d) :
    ((draws cap bs d).map Prod.snd).sum = min d (capTotal cap bs) := by
  induction bs generalizing d with
  | nil => simpa [draws] using hd
  | cons b bs ih =>
    obtain ⟨hb, hbs⟩ := List.forall_mem_cons.mp hcap
    have hrest := capTotal_nonneg hbs
    rcases hd.eq_or_lt with rfl | hd
    · rw [draws_of_nonpos le_rfl, capTotal_cons]
      exact (min_eq_left (add_nonneg hb.le hrest)).symm
    · rw [draws_cons_of_pos hd, List.map_cons, List.sum_cons,
        ih hbs (sub_nonneg.mpr (min_le_left _ _)), capTotal_cons]
      rcases le_total d (cap b) with hle | hle
      · rw [min_eq_left hle, sub_self, min_eq_left hrest, add_zero,
          min_eq_left (le_trans hle (le_add_of_nonneg_right hrest))]
      · rw [min_eq_right hle]
        rcases le_total (d - cap b) (capTotal cap bs) with hmet | hshort
        · rw [min_eq_left hmet, add_sub_cancel, min_eq_left (sub_le_iff_le_add'.mp hmet)]
        · rw [min_eq_right hshort, min_eq_right (le_sub_iff_add_le'.mp hshort)]

/-! ## One source -/

section Drawn

variable [DecidableEq B]

/-- What a source gives depends on what lies before it. -/
theorem drawn_of_split {before after : List B} {b : B} {d : α}
    (hcap : ∀ x ∈ before ++ b :: after, 0 < cap x) (hnodup : (before ++ b :: after).Nodup) :
    drawn (draws cap (before ++ b :: after) d) b =
      max 0 (min (d - capTotal cap before) (cap b)) := by
  have hcapBefore : ∀ x ∈ before, 0 < cap x := fun x hx =>
    hcap x (List.mem_append_left _ hx)
  have hcapAfter : ∀ x ∈ b :: after, 0 < cap x := fun x hx => hcap x (List.mem_append_right _ hx)
  obtain ⟨-, hafter, hdisjoint⟩ := List.nodup_append.mp hnodup
  have hbefore : ∀ x ∈ before, x ≠ b := fun x hx => hdisjoint x hx b List.mem_cons_self
  rcases le_or_gt d (capTotal cap before) with hmet | hmore
  · rw [draws_append_of_ge hcapBefore hmet, drawn_of_not_mem fun p hp =>
      hbefore _ (mem_draws hcapBefore hp).1]
    exact (max_eq_left (le_trans (min_le_left _ _) (sub_nonpos.mpr hmet))).symm
  · rw [draws_append_of_le hcapBefore hmore.le, drawn_append, drawn_of_not_mem (by
      intro p hp
      obtain ⟨x, hx, rfl⟩ := List.mem_map.mp hp
      exact hbefore x hx), zero_add, draws_cons_of_pos (sub_pos.mpr hmore)]
    have hrest : drawn (draws cap after (d - capTotal cap before -
        min (d - capTotal cap before) (cap b))) b = 0 := by
      refine drawn_of_not_mem fun p hp heq => (List.nodup_cons.mp hafter).1 ?_
      exact heq ▸ (mem_draws (fun x hx => hcapAfter x (List.mem_cons_of_mem b hx)) hp).1
    have hpos : 0 < min (d - capTotal cap before) (cap b) :=
      lt_min (sub_pos.mpr hmore) (hcapAfter b List.mem_cons_self)
    rw [max_eq_right hpos.le, ← List.singleton_append, drawn_append, hrest, add_zero]
    simp [drawn]

theorem drawn_le {bs : List B} {d : α} (hcap : ∀ x ∈ bs, 0 < cap x) (hnodup : bs.Nodup) {b : B}
    (hb : b ∈ bs) : drawn (draws cap bs d) b ≤ cap b := by
  obtain ⟨before, after, rfl⟩ := List.append_of_mem hb
  rw [drawn_of_split hcap hnodup]
  exact max_le (hcap b hb).le (min_le_right _ _)

end Drawn

/-! ## Sorted sources -/

section Sorted

variable (r : B → B → Prop) [DecidableRel r]

/-- What lies strictly before a source. -/
def strictTotal (cap : B → α) (bs : List B) (b : B) : α :=
  capTotal cap (bs.filter fun x => ¬ r b x)

/-- Sources that tie are not reached: the demand is met by what lies strictly before. -/
def Settled (cap : B → α) (bs : List B) (d : α) : Prop :=
  ∀ a ∈ bs, ∀ b ∈ bs, a ≠ b → r a b → r b a → d ≤ strictTotal r cap bs b

variable {r}

theorem strictTotal_perm {bs cs : List B} (h : bs.Perm cs) (b : B) :
    strictTotal r cap bs b = strictTotal r cap cs b := capTotal_perm (h.filter _)

theorem Settled.perm {bs cs : List B} (h : bs.Perm cs) {d : α} (hs : Settled r cap bs d) :
    Settled r cap cs d := by
  intro a ha b hb hne hab hba
  rw [← strictTotal_perm h]
  exact hs a (h.mem_iff.mpr ha) b (h.mem_iff.mpr hb) hne hab hba

/-- A larger share of the sources has more. -/
theorem capTotal_filter_le {bs : List B} (hcap : ∀ b ∈ bs, 0 < cap b) {p q : B → Bool}
    (h : ∀ b ∈ bs, p b = true → q b = true) :
    capTotal cap (bs.filter p) ≤ capTotal cap (bs.filter q) := by
  induction bs with
  | nil => simp
  | cons b bs ih =>
    obtain ⟨hb, hbs⟩ := List.forall_mem_cons.mp hcap
    have hrest := ih hbs fun x hx => h x (List.mem_cons_of_mem b hx)
    have hhead := h b List.mem_cons_self
    by_cases hp : p b = true
    · rw [List.filter_cons_of_pos hp, List.filter_cons_of_pos (hhead hp), capTotal_cons,
        capTotal_cons]
      exact (add_le_add_iff_left _).mpr hrest
    · rw [List.filter_cons_of_neg hp]
      refine le_trans hrest ?_
      by_cases hq : q b = true
      · rw [List.filter_cons_of_pos hq, capTotal_cons]
        exact le_add_of_nonneg_left hb.le
      · rw [List.filter_cons_of_neg hq]

variable [Std.Total r] [IsTrans B r]

/-- A source strictly before another one counts before it with all it has. -/
theorem strictTotal_add_le {bs : List B} (hcap : ∀ b ∈ bs, 0 < cap b) {a b : B} (ha : a ∈ bs)
    (hab : ¬ r b a) : strictTotal r cap bs a + cap a ≤ strictTotal r cap bs b := by
  have hle : r a b := (total_of r a b).resolve_right hab
  have hself : r a a := (total_of r a a).elim id id
  have hmono : ∀ x, ¬ r a x → ¬ r b x := fun x hax hbx => hax (trans_of r hle hbx)
  obtain ⟨before, after, rfl⟩ := List.append_of_mem ha
  have hcapBefore : ∀ x ∈ before, 0 < cap x := fun x hx => hcap x (List.mem_append_left _ hx)
  have hcapAfter : ∀ x ∈ after, 0 < cap x := fun x hx =>
    hcap x (List.mem_append_right _ (List.mem_cons_of_mem a hx))
  have hbefore := capTotal_filter_le hcapBefore (p := fun x => ¬ r a x) (q := fun x => ¬ r b x)
    fun x _ hx => by simpa using hmono x (by simpa using hx)
  have hafter := capTotal_filter_le hcapAfter (p := fun x => ¬ r a x) (q := fun x => ¬ r b x)
    fun x _ hx => by simpa using hmono x (by simpa using hx)
  unfold strictTotal
  rw [List.filter_append, List.filter_append, List.filter_cons_of_neg (by simpa using hself),
    List.filter_cons_of_pos (by simpa using hab), capTotal_append, capTotal_append, capTotal_cons]
  calc capTotal cap (before.filter fun x => ¬ r a x) + capTotal cap (after.filter fun x => ¬ r a x)
        + cap a
      = capTotal cap (before.filter fun x => ¬ r a x) +
        (cap a + capTotal cap (after.filter fun x => ¬ r a x)) := by abel
    _ ≤ _ := add_le_add hbefore ((add_le_add_iff_left _).mpr hafter)

/-- In a sorted list, what lies strictly before a source lies before it. -/
theorem strictTotal_of_split {before after : List B} {b : B}
    (hsorted : (before ++ b :: after).Pairwise r) :
    strictTotal r cap (before ++ b :: after) b = capTotal cap (before.filter fun x => ¬ r b x) := by
  have hself : r b b := (total_of r b b).elim id id
  have hafter : after.filter (fun x => ¬ r b x) = [] := by
    refine List.filter_eq_nil_iff.mpr fun x hx => ?_
    have hbx := (List.pairwise_cons.mp (List.pairwise_append.mp hsorted).2.1).1 x hx
    simpa using hbx
  unfold strictTotal
  rw [List.filter_append, List.filter_cons_of_neg (by simpa using hself), hafter, List.append_nil]

/-- What lies before a source in a sorted list, when nothing that ties with it does. -/
theorem capTotal_before {before after : List B} {b : B}
    (hsorted : (before ++ b :: after).Pairwise r) (hstrict : ∀ x ∈ before, ¬ r b x) :
    capTotal cap before = strictTotal r cap (before ++ b :: after) b := by
  rw [strictTotal_of_split hsorted, List.filter_eq_self.mpr fun x hx => by simpa using hstrict x hx]

variable {bs : List B} {d : α}

/-- Where no tie is reached, what a source gives is decided by what lies strictly before it. -/
theorem drawn_eq [DecidableEq B] (hcap : ∀ b ∈ bs, 0 < cap b) (hnodup : bs.Nodup)
    (hsorted : bs.Pairwise r) (hsettled : Settled r cap bs d) {b : B} (hb : b ∈ bs) :
    drawn (draws cap bs d) b = max 0 (min (d - strictTotal r cap bs b) (cap b)) := by
  obtain ⟨before, after, rfl⟩ := List.append_of_mem hb
  have hcapBefore : ∀ x ∈ before, 0 < cap x := fun x hx => hcap x (List.mem_append_left _ hx)
  rw [drawn_of_split hcap hnodup]
  rcases le_or_gt d (strictTotal r cap (before ++ b :: after) b) with hmet | hmore
  · have hle : strictTotal r cap (before ++ b :: after) b ≤ capTotal cap before := by
      rw [strictTotal_of_split hsorted]
      have hall := capTotal_filter_le hcapBefore (p := fun x => ¬ r b x) (q := fun _ => true)
        fun _ _ _ => rfl
      simpa using hall
    rw [max_eq_left (le_trans (min_le_left _ _) (sub_nonpos.mpr hmet)),
      max_eq_left (le_trans (min_le_left _ _) (sub_nonpos.mpr (le_trans hmet hle)))]
  · have hstrict : ∀ x ∈ before, ¬ r b x := by
      intro x hx hbx
      have hne : x ≠ b := (List.nodup_append.mp hnodup).2.2 x hx b List.mem_cons_self
      have hxb : r x b := (List.pairwise_append.mp hsorted).2.2 x hx b List.mem_cons_self
      have hmet := hsettled x (List.mem_append_left _ hx) b hb hne hxb hbx
      exact absurd hmore (not_lt.mpr hmet)
    rw [capTotal_before hsorted hstrict]

/-- The sources whose turn comes before the demand is met. -/
def reached (r : B → B → Prop) [DecidableRel r] (cap : B → α) (bs : List B) (d : α) (b : B) : Bool :=
  strictTotal r cap bs b < d

/-- What lies strictly before a source lies strictly before those it precedes. -/
theorem strictTotal_mono (hcap : ∀ b ∈ bs, 0 < cap b) {a b : B} (hab : r a b) :
    strictTotal r cap bs a ≤ strictTotal r cap bs b := by
  refine capTotal_filter_le hcap fun x _ hx => ?_
  have hax : ¬ r a x := by simpa using hx
  simpa using fun hbx : r b x => hax (trans_of r hab hbx)

/-- In a sorted list the sources that are reached come first, and only they give. -/
theorem draws_filter_reached (hcap : ∀ b ∈ bs, 0 < cap b) (hsorted : bs.Pairwise r) :
    draws cap bs d = draws cap (bs.filter (reached r cap bs d)) d := by
  have hsplit : bs.takeWhile (reached r cap bs d) ++ bs.dropWhile (reached r cap bs d) = bs :=
    List.takeWhile_append_dropWhile
  have hfront : ∀ x ∈ bs.takeWhile (reached r cap bs d), reached r cap bs d x = true :=
    fun x hx => List.mem_takeWhile_imp hx
  generalize hbefore : bs.takeWhile (reached r cap bs d) = before at hsplit hfront
  cases hrest : bs.dropWhile (reached r cap bs d) with
  | nil =>
    rw [hrest, List.append_nil] at hsplit
    rw [List.filter_eq_self.mpr fun x hx => hfront x (hsplit ▸ hx)]
  | cons m after =>
    rw [hrest] at hsplit
    have hm : ¬ reached r cap bs d m = true := by
      have hhead := List.head_dropWhile_not (reached r cap bs d) (l := bs) (by simp [hrest])
      simpa [hrest] using hhead
    have hstop : d ≤ strictTotal r cap bs m := by simpa [reached] using hm
    have hafter : ∀ x ∈ m :: after, ¬ reached r cap bs d x = true := by
      intro x hx
      rcases List.mem_cons.mp hx with rfl | hx
      · exact hm
      · have hmx : r m x :=
          (List.pairwise_cons.mp (List.pairwise_append.mp (hsplit ▸ hsorted)).2.1).1 x hx
        simpa [reached] using le_trans hstop (strictTotal_mono hcap hmx)
    have hfilter : bs.filter (reached r cap bs d) = before := by
      nth_rewrite 2 [← hsplit]
      rw [List.filter_append, List.filter_eq_self.mpr hfront,
        List.filter_eq_nil_iff.mpr hafter, List.append_nil]
    have hcapBefore : ∀ x ∈ before, 0 < cap x := fun x hx =>
      hcap x (hsplit ▸ List.mem_append_left _ hx)
    have hmet : d ≤ capTotal cap before := by
      refine le_trans hstop ?_
      rw [← hsplit, strictTotal_of_split (hsplit ▸ hsorted)]
      have hall := capTotal_filter_le hcapBefore (p := fun x => ¬ r m x) (q := fun _ => true)
        fun _ _ _ => rfl
      simpa using hall
    rw [hfilter, ← draws_append_of_ge hcapBefore hmet (m :: after), hsplit]

/-- Where no tie is reached, every sorted arrangement gives the same. -/
theorem draws_eq_of_settled {cs : List B} (hperm : bs.Perm cs) (hcap : ∀ b ∈ bs, 0 < cap b)
    (hbs : bs.Pairwise r) (hcs : cs.Pairwise r) (hsettled : Settled r cap bs d) :
    draws cap bs d = draws cap cs d := by
  have hcapCs : ∀ b ∈ cs, 0 < cap b := fun b hb => hcap b (hperm.mem_iff.mpr hb)
  have hreached : reached r cap cs d = reached r cap bs d := by
    funext b
    unfold reached
    rw [strictTotal_perm hperm]
  rw [draws_filter_reached hcap hbs, draws_filter_reached hcapCs hcs, hreached]
  congr 1
  refine List.Perm.eq_of_pairwise (fun a b ha hb hab hba => ?_)
    (hbs.filter _) (hcs.filter _) (hperm.filter _)
  by_contra hne
  obtain ⟨hamem, -⟩ := List.mem_filter.mp ha
  obtain ⟨hbmem, hbr⟩ := List.mem_filter.mp hb
  have hmet := hsettled a hamem b (hperm.mem_iff.mpr hbmem) hne hab hba
  exact absurd hmet (not_le.mpr (by simpa [reached] using hbr))

/-- A source put in front comes before those that tie with it, so it is asked as soon as what
lies strictly before it is used up. -/
theorem draws_head [DecidableEq B] (hcap : ∀ b ∈ bs, 0 < cap b) {b : B} (hb : b ∈ bs)
    (hmore : strictTotal r cap bs b < d) :
    ∃ (before : List B) (rest : List (B × α)), before.Perm (bs.filter fun x => ¬ r b x) ∧
      draws cap ((b :: bs.erase b).insertionSort r) d = before.map (fun x => (x, cap x)) ++
        (b, min (d - strictTotal r cap bs b) (cap b)) :: rest := by
  have hperm : (b :: bs.erase b).Perm bs := (List.perm_cons_erase hb).symm
  have hall : ((b :: bs.erase b).insertionSort r).Perm bs :=
    (List.perm_insertionSort r _).trans hperm
  have hsorted := List.pairwise_insertionSort r (b :: bs.erase b)
  have hself : r b b := (total_of r b b).elim id id
  rw [List.insertionSort_cons_eq_take_drop] at hall hsorted ⊢
  generalize hbefore : ((bs.erase b).insertionSort r).takeWhile (fun x => ¬ r b x) = before
    at hall hsorted ⊢
  generalize ((bs.erase b).insertionSort r).dropWhile (fun x => ¬ r b x) = after
    at hall hsorted ⊢
  have hstrict : ∀ x ∈ before, ¬ r b x := by
    intro x hx
    rw [← hbefore] at hx
    simpa using List.mem_takeWhile_imp hx
  have hafter : ∀ x ∈ after, r b x :=
    (List.pairwise_cons.mp (List.pairwise_append.mp hsorted).2.1).1
  have hfilter : (before ++ b :: after).filter (fun x => ¬ r b x) = before := by
    rw [List.filter_append, List.filter_eq_self.mpr fun x hx => by simpa using hstrict x hx,
      List.filter_cons_of_neg (by simpa using hself),
      List.filter_eq_nil_iff.mpr fun x hx => by simpa using hafter x hx, List.append_nil]
  have hbeforePerm : before.Perm (bs.filter fun x => ¬ r b x) := by
    have h := hall.filter fun x => ¬ r b x
    rwa [hfilter] at h
  have htotal : capTotal cap before = strictTotal r cap bs b := capTotal_perm hbeforePerm
  have hcapBefore : ∀ x ∈ before, 0 < cap x := fun x hx =>
    hcap x (List.mem_filter.mp (hbeforePerm.mem_iff.mp hx)).1
  have hdraws : draws cap (before ++ b :: after) d = before.map (fun x => (x, cap x)) ++
      (b, min (d - strictTotal r cap bs b) (cap b)) :: draws cap after
        (d - strictTotal r cap bs b - min (d - strictTotal r cap bs b) (cap b)) := by
    rw [draws_append_of_le hcapBefore (htotal.trans_lt hmore).le, htotal,
      draws_cons_of_pos (sub_pos.mpr hmore)]
  exact ⟨before, _, hbeforePerm, hdraws⟩

/-- Otherwise it matters which of two tied sources comes first. -/
theorem settled_of_draws_eq [DecidableEq B] (hcap : ∀ b ∈ bs, 0 < cap b)
    (hsame : ∀ cs, bs.Perm cs → draws cap (cs.insertionSort r) d = draws cap (bs.insertionSort r) d) :
    Settled r cap bs d := by
  intro a ha b hb hne hab hba
  by_contra hlt
  have hmore : strictTotal r cap bs b < d := not_le.mp hlt
  have hmoreA : strictTotal r cap bs a < d := lt_of_le_of_lt (strictTotal_mono hcap hab) hmore
  obtain ⟨beforeA, restA, hpermA, hdrawsA⟩ := draws_head hcap ha hmoreA
  obtain ⟨beforeB, restB, hpermB, hdrawsB⟩ := draws_head hcap hb hmore
  rw [hsame _ (List.perm_cons_erase ha)] at hdrawsA
  rw [hsame _ (List.perm_cons_erase hb)] at hdrawsB
  have htie : (bs.filter fun x => ¬ r a x) = bs.filter fun x => ¬ r b x := by
    refine List.filter_congr fun x _ => ?_
    rw [decide_eq_decide, not_iff_not]
    exact ⟨trans_of r hba, trans_of r hab⟩
  have hlength : (beforeA.map fun x => (x, cap x)).length =
      (beforeB.map fun x => (x, cap x)).length := by
    rw [List.length_map, List.length_map, hpermA.length_eq, hpermB.length_eq, htie]
  have htails := (List.append_inj (hdrawsA.symm.trans hdrawsB) hlength).2
  exact hne (congrArg Prod.fst (List.cons.inj htails).1)

end Sorted

end SmartErpPos.Lib
