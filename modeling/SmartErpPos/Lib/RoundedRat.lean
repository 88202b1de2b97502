/-
  Lib/RoundedRat.lean --- exact numbers that are rounded to a fixed number of decimals.

  Code that computes with exact decimals rounds single results: `roundTo s q` is the
  value of the column `numeric(_, s)` nearest to `q`, read as an exact number again.
  `OnGrid s q` says that rounding leaves `q` alone.  Sums and differences of such
  numbers stay on the grid, and rounding is monotone, so it never carries a number past
  a bound on the grid.
-/
import SmartErpPos.Lib.Numeric

set_option autoImplicit false

namespace SmartErpPos.Lib

variable {scale : ℕ}

/-- The nearest multiple of `10 ^ (-scale)`, halves away from zero. -/
def roundTo (scale : ℕ) (q : ℚ) : ℚ := (Numeric.ofRat q : Numeric scale).toRat

/-- A multiple of `10 ^ (-scale)`. -/
def OnGrid (scale : ℕ) (q : ℚ) : Prop := ∃ x : Numeric scale, x.toRat = q

theorem onGrid_roundTo (q : ℚ) : OnGrid scale (roundTo scale q) := ⟨_, rfl⟩

theorem OnGrid.roundTo_eq {q : ℚ} (h : OnGrid scale q) : roundTo scale q = q := by
  obtain ⟨x, rfl⟩ := h
  rw [roundTo, Numeric.ofRat_toRat]

theorem onGrid_iff_roundTo_eq {q : ℚ} : OnGrid scale q ↔ roundTo scale q = q :=
  ⟨OnGrid.roundTo_eq, fun h => h ▸ onGrid_roundTo q⟩

instance (q : ℚ) : Decidable (OnGrid scale q) :=
  decidable_of_iff (roundTo scale q = q) onGrid_iff_roundTo_eq.symm

instance (q : ℚ) : Decidable (Numeric.IsTie scale q) :=
  decidable_of_iff ((q * 10 ^ scale - 1 / 2).den = 1) <| by
    unfold Numeric.IsTie
    constructor
    · intro h
      refine ⟨(q * 10 ^ scale - 1 / 2).num, ?_⟩
      rw [Rat.coe_int_num_of_den_eq_one h]
      ring
    · rintro ⟨n, hn⟩
      rw [hn, add_sub_cancel_right]
      exact Rat.den_intCast n

@[simp] theorem roundTo_roundTo (q : ℚ) : roundTo scale (roundTo scale q) = roundTo scale q :=
  (onGrid_roundTo q).roundTo_eq

theorem onGrid_zero : OnGrid scale 0 := ⟨0, Numeric.toRat_zero⟩

@[simp] theorem roundTo_zero : roundTo scale 0 = 0 := onGrid_zero.roundTo_eq

theorem OnGrid.add {q r : ℚ} (hq : OnGrid scale q) (hr : OnGrid scale r) : OnGrid scale (q + r) := by
  obtain ⟨x, rfl⟩ := hq
  obtain ⟨y, rfl⟩ := hr
  exact ⟨x + y, Numeric.toRat_add x y⟩

theorem OnGrid.sub {q r : ℚ} (hq : OnGrid scale q) (hr : OnGrid scale r) : OnGrid scale (q - r) := by
  obtain ⟨x, rfl⟩ := hq
  obtain ⟨y, rfl⟩ := hr
  exact ⟨x - y, Numeric.toRat_sub x y⟩

/-- A column with more decimals holds the values of one with fewer. -/
theorem onGrid_toRat_of_le {narrow : ℕ} (h : narrow ≤ scale) (x : Numeric narrow) :
    OnGrid scale x.toRat := by
  refine ⟨⟨x.units * 10 ^ (scale - narrow)⟩, ?_⟩
  have hsplit : (10 : ℚ) ^ scale = 10 ^ (scale - narrow) * 10 ^ narrow := by
    rw [← pow_add, Nat.sub_add_cancel h]
  have hpos : (10 : ℚ) ^ (scale - narrow) ≠ 0 := by positivity
  simp only [Numeric.toRat, Int.cast_mul, Int.cast_pow, Int.cast_ofNat, hsplit]
  rw [mul_comm, mul_div_mul_left _ _ hpos]

theorem toRat_ofRat_of_le {narrow : ℕ} (h : narrow ≤ scale) (x : Numeric narrow) :
    (Numeric.ofRat x.toRat : Numeric scale).toRat = x.toRat :=
  (onGrid_toRat_of_le h x).roundTo_eq

/-- A number stays on or off the grid when a number on the grid is added. -/
theorem OnGrid.add_right_iff {q r : ℚ} (hr : OnGrid scale r) : OnGrid scale (q + r) ↔ OnGrid scale q :=
  ⟨fun h => by simpa using h.sub hr, fun h => h.add hr⟩

/-- A sum of a column, read as exact numbers. -/
theorem toRat_listSum (xs : List (Numeric scale)) : xs.sum.toRat = (xs.map Numeric.toRat).sum := by
  induction xs with
  | nil => exact Numeric.toRat_zero
  | cons x rest ih => rw [List.sum_cons, Numeric.toRat_add, ih, List.map_cons, List.sum_cons]

theorem onGrid_sum {qs : List ℚ} (h : ∀ q ∈ qs, OnGrid scale q) : OnGrid scale qs.sum := by
  induction qs with
  | nil => exact onGrid_zero
  | cons q qs ih =>
    obtain ⟨hq, hqs⟩ := List.forall_mem_cons.mp h
    exact hq.add (ih hqs)

/-- Two lists of numbers that differ by numbers on the grid, pair by pair. -/
theorem onGrid_sum_iff {ι : Type*} {l : List ι} {f g : ι → ℚ}
    (h : ∀ i ∈ l, OnGrid scale (f i - g i)) :
    OnGrid scale (l.map f).sum ↔ OnGrid scale (l.map g).sum := by
  have hdiff : OnGrid scale (l.map fun i => f i - g i).sum := by
    refine onGrid_sum fun q hq => ?_
    obtain ⟨i, hi, rfl⟩ := List.mem_map.mp hq
    exact h i hi
  have hsum : (l.map f).sum = (l.map g).sum + (l.map fun i => f i - g i).sum := by
    rw [← List.sum_map_add]
    simp only [add_sub_cancel]
  rw [hsum, hdiff.add_right_iff]

theorem roundTo_mono {q r : ℚ} (h : q ≤ r) : roundTo scale q ≤ roundTo scale r := by
  have hle : (Numeric.ofRat q : Numeric scale) ≤ Numeric.ofRat r := Numeric.ofRat_mono h
  rw [← sub_nonneg, roundTo, roundTo, ← Numeric.toRat_sub, Numeric.toRat_nonneg_iff]
  exact sub_nonneg.mpr hle

/-- Rounding does not carry a number past a bound on the grid. -/
theorem roundTo_le {q r : ℚ} (h : q ≤ r) (hr : OnGrid scale r) : roundTo scale q ≤ r := by
  rw [← hr.roundTo_eq]
  exact roundTo_mono h

theorem le_roundTo {q r : ℚ} (h : r ≤ q) (hr : OnGrid scale r) : r ≤ roundTo scale q := by
  rw [← hr.roundTo_eq]
  exact roundTo_mono h

theorem roundTo_nonneg {q : ℚ} (h : 0 ≤ q) : 0 ≤ roundTo scale q := le_roundTo h onGrid_zero

theorem abs_roundTo_sub_le (scale : ℕ) (q : ℚ) : |roundTo scale q - q| ≤ 1 / 2 / 10 ^ scale :=
  Numeric.abs_toRat_ofRat_sub_le q

/-! ## Lists -/

/-- A grid with more decimals. -/
theorem OnGrid.of_le {narrow : ℕ} (hle : narrow ≤ scale) {q : ℚ} (h : OnGrid narrow q) :
    OnGrid scale q := by
  obtain ⟨x, rfl⟩ := h
  exact onGrid_toRat_of_le hle x

/-- A number on the grid that is smaller than so many steps and one is no more than so many. -/
theorem OnGrid.abs_le_of_abs_lt {q : ℚ} (h : OnGrid scale q) {n : ℕ}
    (hlt : |q| < (n + 1) / 10 ^ scale) : |q| ≤ n / 10 ^ scale := by
  obtain ⟨x, rfl⟩ := h
  have hpos : (0 : ℚ) < 10 ^ scale := by positivity
  have hscaled : |x.toRat| * 10 ^ scale = |(x.units : ℚ)| := by
    rw [← Numeric.toRat_mul_pow, abs_mul, abs_of_pos hpos]
  rw [lt_div_iff₀ hpos, hscaled] at hlt
  rw [le_div_iff₀ hpos, hscaled]
  have hunits : |x.units| < n + 1 := by exact_mod_cast hlt
  exact_mod_cast Int.lt_add_one_iff.mp hunits

/-- Nothing on the grid lies strictly between zero and its step. -/
theorem OnGrid.eq_zero_of_abs_lt {q : ℚ} (h : OnGrid scale q) (hlt : |q| < 1 / 10 ^ scale) :
    q = 0 := by
  have hle : |q| ≤ (0 : ℕ) / 10 ^ scale := h.abs_le_of_abs_lt (by simpa using hlt)
  rw [Nat.cast_zero, zero_div] at hle
  exact abs_nonpos_iff.mp hle

/-- Each number that is rounded moves a sum by at most half a unit. -/
theorem abs_sum_ofRat_sub_le {ι : Type*} (scale : ℕ) (f : ι → ℚ) (l : List ι) :
    |(l.map fun i => (Numeric.ofRat (f i) : Numeric scale)).sum.toRat - (l.map f).sum| ≤
      l.length * (1 / 2 / 10 ^ scale) := by
  induction l with
  | nil => simp
  | cons i rest ih =>
    rw [List.map_cons, List.map_cons, List.sum_cons, List.sum_cons, Numeric.toRat_add,
      add_sub_add_comm, List.length_cons]
    calc |(Numeric.ofRat (f i) : Numeric scale).toRat - f i +
          ((rest.map fun i => (Numeric.ofRat (f i) : Numeric scale)).sum.toRat -
            (rest.map f).sum)|
        ≤ 1 / 2 / 10 ^ scale + rest.length * (1 / 2 / 10 ^ scale) :=
          (abs_add_le _ _).trans (add_le_add (Numeric.abs_toRat_ofRat_sub_le (f i)) ih)
      _ = (rest.length + 1 : ℕ) * (1 / 2 / 10 ^ scale) := by
          push_cast
          ring

/-- Numbers on the grid keep their sum. -/
theorem sum_ofRat_of_onGrid {ι : Type*} {f : ι → ℚ} {l : List ι}
    (h : ∀ i ∈ l, OnGrid scale (f i)) :
    (l.map fun i => (Numeric.ofRat (f i) : Numeric scale)).sum = Numeric.ofRat (l.map f).sum := by
  have hsum : (l.map fun i => (Numeric.ofRat (f i) : Numeric scale)).sum.toRat = (l.map f).sum := by
    rw [toRat_listSum, List.map_map]
    exact congrArg List.sum (List.map_congr_left fun i hi => (h i hi).roundTo_eq)
  rw [← hsum, Numeric.ofRat_toRat]

/-! ## Two parts of a number -/

/-- Off the ties the rest of a number on the grid is rounded the other way. -/
theorem roundTo_sub_of_not_tie {p q : ℚ} (hp : OnGrid scale p) (h : ¬ Numeric.IsTie scale q) :
    roundTo scale (p - q) = p - roundTo scale q := by
  obtain ⟨x, rfl⟩ := hp
  rw [roundTo, Numeric.ofRat_toRat_sub_of_not_tie h, Numeric.toRat_sub, roundTo]

/-- A half that is not negative is rounded up. -/
theorem roundTo_of_tie {q : ℚ} (hq : 0 ≤ q) (h : Numeric.IsTie scale q) :
    roundTo scale q = q + 1 / 2 / 10 ^ scale := by
  obtain ⟨n, hn⟩ := h
  have hpos : (0 : ℚ) < 10 ^ scale := by positivity
  have hunits : (Numeric.ofRat q : Numeric scale).units = n + 1 := by
    unfold Numeric.ofRat roundHalfAway
    rw [if_pos (mul_nonneg hq hpos.le), hn, Int.floor_eq_iff]
    push_cast
    constructor <;> linarith
  have hvalue : roundTo scale q = ((n : ℚ) + 1) / 10 ^ scale := by
    unfold roundTo Numeric.toRat
    rw [hunits]
    push_cast
    rfl
  rw [hvalue, div_eq_iff hpos.ne', add_mul, hn, div_mul_cancel₀ _ hpos.ne']
  ring

/-- The rest of a number on the grid is a half where the part is. -/
theorem isTie_sub_iff {p q : ℚ} (hp : OnGrid scale p) :
    Numeric.IsTie scale (p - q) ↔ Numeric.IsTie scale q := by
  obtain ⟨x, rfl⟩ := hp
  rw [sub_eq_add_neg, Numeric.isTie_toRat_add_iff, Numeric.isTie_neg_iff]

/-- A half below zero is rounded down. -/
theorem nonneg_of_tie {q : ℚ} (h : Numeric.IsTie scale q) (hround : 0 ≤ roundTo scale q) :
    0 ≤ q := by
  by_contra hneg
  obtain ⟨n, hn⟩ := h
  have hpos : (0 : ℚ) < 10 ^ scale := by positivity
  have hscaled : q * 10 ^ scale < 0 := mul_neg_of_neg_of_pos (not_le.mp hneg) hpos
  have hunits : (Numeric.ofRat q : Numeric scale).units = n := by
    unfold Numeric.ofRat roundHalfAway
    rw [if_neg (not_le.mpr hscaled), hn, add_sub_cancel_right, Int.ceil_intCast]
  have hn0 : 0 ≤ n := by
    have hle := Numeric.toRat_nonneg_iff.mp hround
    rw [Numeric.le_iff_units, hunits] at hle
    exact hle
  have hcast : (0 : ℚ) ≤ n := by exact_mod_cast hn0
  rw [hn] at hscaled
  linarith

/-- Two parts that are rounded to no less than zero come to their number exactly off the ties. -/
theorem roundTo_add_roundTo_iff {p q : ℚ} (hp : OnGrid scale p) (hq : 0 ≤ roundTo scale q)
    (hrest : 0 ≤ roundTo scale (p - q)) :
    roundTo scale q + roundTo scale (p - q) = p ↔ ¬ Numeric.IsTie scale q := by
  constructor
  · intro hsum htie
    have htie' := (isTie_sub_iff hp).mpr htie
    rw [roundTo_of_tie (nonneg_of_tie htie hq) htie,
      roundTo_of_tie (nonneg_of_tie htie' hrest) htie'] at hsum
    have hpos : (0 : ℚ) < 1 / 2 / 10 ^ scale := by positivity
    linarith
  · intro htie
    rw [roundTo_sub_of_not_tie hp htie]
    ring

end SmartErpPos.Lib
