/-
  Lib/Numeric.lean --- fixed-scale decimal columns.

  A column `numeric(p, s)` holds whole multiples of `10 ^ (-s)`.  A value computed
  exactly and then stored is rounded to the nearest multiple, halves away from
  zero.  `Numeric s` counts the units, `ofRat` is the rounding and `toRat` the
  exact reading.

  Sums and differences of stored values are exact.  Adding an unrounded amount to
  a stored one and rounding the result is the same as rounding the amount first
  whenever nothing crosses zero (`ofRat_toRat_add`), and deducting one lowers every
  stored value that covers it by the same number of units (`ofRat_toRat_sub`).
  This is what keeps two columns in step when the same amount is applied to both.
-/
import Mathlib.Algebra.BigOperators.Group.Finset.Basic
import Mathlib.Algebra.Order.Floor.Ring
import Mathlib.Algebra.Order.Group.Basic
import Mathlib.Data.Rat.Floor
import Mathlib.Tactic.Linarith
import Mathlib.Tactic.Positivity
import Mathlib.Tactic.FieldSimp
import Mathlib.Tactic.Ring

set_option autoImplicit false

namespace SmartErpPos.Lib

/-- The nearest integer, halves away from zero. -/
def roundHalfAway (q : ℚ) : ℤ :=
  if 0 ≤ q then ⌊q + 1 / 2⌋ else ⌈q - 1 / 2⌉

/-- A value of a column with `scale` decimals, as a count of units. -/
@[ext] structure Numeric (scale : ℕ) where
  units : ℤ
  deriving DecidableEq

namespace Numeric

variable {scale : ℕ}

/-! ## Arithmetic on units -/

instance : Zero (Numeric scale) := ⟨⟨0⟩⟩
instance : Add (Numeric scale) := ⟨fun x y => ⟨x.units + y.units⟩⟩
instance : Neg (Numeric scale) := ⟨fun x => ⟨-x.units⟩⟩
instance : Sub (Numeric scale) := ⟨fun x y => ⟨x.units - y.units⟩⟩
instance : LE (Numeric scale) := ⟨fun x y => x.units ≤ y.units⟩
instance : LT (Numeric scale) := ⟨fun x y => x.units < y.units⟩

instance (x y : Numeric scale) : Decidable (x ≤ y) :=
  inferInstanceAs (Decidable (x.units ≤ y.units))

instance (x y : Numeric scale) : Decidable (x < y) :=
  inferInstanceAs (Decidable (x.units < y.units))

variable {x n : Numeric scale} {q : ℚ}

@[simp] theorem units_zero : (0 : Numeric scale).units = 0 := rfl
@[simp] theorem units_add (x y : Numeric scale) : (x + y).units = x.units + y.units := rfl
@[simp] theorem units_neg (x : Numeric scale) : (-x).units = -x.units := rfl
@[simp] theorem units_sub (x y : Numeric scale) : (x - y).units = x.units - y.units := rfl
theorem le_iff_units {y : Numeric scale} : x ≤ y ↔ x.units ≤ y.units := Iff.rfl
theorem lt_iff_units {y : Numeric scale} : x < y ↔ x.units < y.units := Iff.rfl

instance : AddCommGroup (Numeric scale) where
  add_assoc x y z := by ext; simp [add_assoc]
  zero_add x := by ext; simp
  add_zero x := by ext; simp
  add_comm x y := by ext; simp [add_comm]
  neg_add_cancel x := by ext; simp
  sub_eq_add_neg x y := by ext; simp [sub_eq_add_neg]
  nsmul := nsmulRec
  zsmul := zsmulRec

instance : LinearOrder (Numeric scale) where
  le_refl x := le_refl x.units
  le_trans _ _ _ hxy hyz := Int.le_trans hxy hyz
  le_antisymm _ _ hxy hyx := Numeric.ext (le_antisymm hxy hyx)
  lt_iff_le_not_ge x y := lt_iff_le_not_ge (a := x.units) (b := y.units)
  le_total x y := le_total x.units y.units
  toDecidableLE := inferInstance
  toDecidableLT := inferInstance
  toDecidableEq := inferInstance

instance : IsOrderedAddMonoid (Numeric scale) where
  add_le_add_left _ _ h z := Int.add_le_add_right h z.units

/-! ## Exact reading and rounding -/

/-- The exact value. -/
def toRat (x : Numeric scale) : ℚ := x.units / 10 ^ scale

/-- The stored value of an exact amount. -/
def ofRat (q : ℚ) : Numeric scale := ⟨roundHalfAway (q * 10 ^ scale)⟩

theorem pow_scale_pos : (0 : ℚ) < 10 ^ scale := by positivity

theorem toRat_mul_pow (x : Numeric scale) : x.toRat * 10 ^ scale = x.units := by
  have h : (10 : ℚ) ^ scale ≠ 0 := pow_scale_pos.ne'
  simp [toRat, h]

@[simp] theorem toRat_zero : (0 : Numeric scale).toRat = 0 := by simp [toRat]

@[simp] theorem toRat_add (x y : Numeric scale) : (x + y).toRat = x.toRat + y.toRat := by
  simp [toRat, add_div]

@[simp] theorem toRat_sub (x y : Numeric scale) : (x - y).toRat = x.toRat - y.toRat := by
  simp [toRat, sub_div]

@[simp] theorem toRat_neg (x : Numeric scale) : (-x).toRat = -x.toRat := by
  simp [toRat, neg_div]

/-- Reading is additive. -/
def toRatHom : Numeric scale →+ ℚ where
  toFun := toRat
  map_zero' := toRat_zero
  map_add' := toRat_add

theorem toRat_sum {ι : Type*} (keys : Finset ι) (f : ι → Numeric scale) :
    (∑ k ∈ keys, f k).toRat = ∑ k ∈ keys, (f k).toRat :=
  map_sum toRatHom f keys

theorem toRat_nonneg_iff : 0 ≤ x.toRat ↔ 0 ≤ x := by
  rw [le_iff_units, toRat, div_nonneg_iff]
  have h : (0 : ℚ) < 10 ^ scale := pow_scale_pos
  constructor
  · rintro (⟨hx, -⟩ | ⟨-, hneg⟩)
    · exact_mod_cast hx
    · exact absurd hneg (not_le.mpr h)
  · intro hx
    exact .inl ⟨by exact_mod_cast hx, h.le⟩

theorem toRat_pos_iff : 0 < x.toRat ↔ 0 < x := by
  have h : (0 : ℚ) < 10 ^ scale := pow_scale_pos
  rw [lt_iff_units, toRat, div_pos_iff_of_pos_right h]
  exact_mod_cast Iff.rfl

theorem toRat_injective : Function.Injective (toRat : Numeric scale → ℚ) := by
  intro x y hxy
  have h := congrArg (fun q => q * (10 : ℚ) ^ scale) hxy
  simp only [toRat_mul_pow] at h
  ext
  exact_mod_cast h

/-! ## Rounding facts -/

@[simp] theorem roundHalfAway_intCast (n : ℤ) : roundHalfAway (n : ℚ) = n := by
  unfold roundHalfAway
  split
  · rw [Int.floor_eq_iff]
    constructor <;> linarith
  · rw [Int.ceil_eq_iff]
    constructor <;> linarith

theorem roundHalfAway_of_nonneg (hq : 0 ≤ q) : roundHalfAway q = ⌊q + 1 / 2⌋ :=
  if_pos hq

/-- A stored value is its own rounding. -/
@[simp] theorem ofRat_toRat (x : Numeric scale) : ofRat x.toRat = x := by
  ext
  simp [ofRat, toRat_mul_pow]

/-- A column with more decimals stores the value exactly. -/
theorem toRat_ofRat_toRat {wide : ℕ} (h : scale ≤ wide) (x : Numeric scale) :
    (ofRat x.toRat : Numeric wide).toRat = x.toRat := by
  obtain ⟨extra, rfl⟩ := Nat.exists_eq_add_of_le h
  have hp : (10 : ℚ) ^ scale ≠ 0 := pow_scale_pos.ne'
  have hunits : x.toRat * 10 ^ (scale + extra) = ((x.units * 10 ^ extra : ℤ) : ℚ) := by
    rw [pow_add, ← mul_assoc, toRat_mul_pow]
    push_cast
    rfl
  have hvalue : (ofRat x.toRat : Numeric (scale + extra)).units = x.units * 10 ^ extra := by
    simp only [ofRat, hunits, roundHalfAway_intCast]
  rw [toRat, hvalue, toRat, pow_add]
  push_cast
  field_simp

@[simp] theorem ofRat_zero : (ofRat 0 : Numeric scale) = 0 := by
  have h := ofRat_toRat (0 : Numeric scale)
  rwa [toRat_zero] at h

/-- Rounding commutes with adding a stored value when neither the amount nor the
total is negative. -/
theorem ofRat_toRat_add (hq : 0 ≤ q) (hn : 0 ≤ n.toRat + q) :
    ofRat (n.toRat + q) = n + ofRat q := by
  have hp : (0 : ℚ) < 10 ^ scale := pow_scale_pos
  ext
  have hq' : 0 ≤ q * 10 ^ scale := mul_nonneg hq hp.le
  have hn' : 0 ≤ (n.units : ℚ) + q * 10 ^ scale := by
    have h := mul_nonneg hn hp.le
    rwa [add_mul, toRat_mul_pow] at h
  simp only [ofRat, units_add, add_mul, toRat_mul_pow]
  rw [roundHalfAway_of_nonneg hn', roundHalfAway_of_nonneg hq', add_assoc, Int.floor_intCast_add]

theorem ofRat_nonneg (hq : 0 ≤ q) : (0 : Numeric scale) ≤ ofRat q := by
  have hp : (0 : ℚ) < 10 ^ scale := pow_scale_pos
  rw [le_iff_units]
  simp only [ofRat, units_zero, roundHalfAway_of_nonneg (mul_nonneg hq hp.le)]
  exact Int.floor_nonneg.mpr (by positivity)

theorem ofRat_nonpos (hq : q ≤ 0) : (ofRat q : Numeric scale) ≤ 0 := by
  have hp : (0 : ℚ) < 10 ^ scale := pow_scale_pos
  rw [le_iff_units]
  simp only [ofRat, units_zero, roundHalfAway]
  have hneg : q * 10 ^ scale ≤ 0 := mul_nonpos_of_nonpos_of_nonneg hq hp.le
  split
  · have hfloor : ⌊q * 10 ^ scale + 1 / 2⌋ < 1 := by
      rw [Int.floor_lt]
      push_cast
      linarith
    omega
  · rw [Int.ceil_le]
    push_cast
    linarith

/-- An amount below half a unit is stored as zero. -/
theorem ofRat_eq_zero (hq : 0 ≤ q) (hlt : q * 10 ^ scale < 1 / 2) :
    (ofRat q : Numeric scale) = 0 := by
  have hp : (0 : ℚ) < 10 ^ scale := pow_scale_pos
  have hq' : 0 ≤ q * 10 ^ scale := mul_nonneg hq hp.le
  ext
  simp only [ofRat, units_zero, roundHalfAway_of_nonneg hq']
  rw [Int.floor_eq_iff]
  constructor
  · push_cast
    linarith
  · push_cast
    linarith

/-- An amount of at least half a unit is stored as something. -/
theorem ofRat_pos_iff (hq : 0 ≤ q) : (0 : Numeric scale) < ofRat q ↔ 1 / 2 ≤ q * 10 ^ scale := by
  have hp : (0 : ℚ) < 10 ^ scale := pow_scale_pos
  have hq' : 0 ≤ q * 10 ^ scale := mul_nonneg hq hp.le
  constructor
  · intro h
    by_contra hlt
    rw [ofRat_eq_zero hq (not_le.mp hlt)] at h
    exact lt_irrefl _ h
  · intro h
    rw [lt_iff_units]
    simp only [ofRat, units_zero, roundHalfAway_of_nonneg hq']
    have hone : (1 : ℤ) ≤ ⌊q * 10 ^ scale + 1 / 2⌋ := by
      rw [Int.le_floor]
      push_cast
      linarith
    omega

theorem abs_roundHalfAway_sub_le (q : ℚ) : |(roundHalfAway q : ℚ) - q| ≤ 1 / 2 := by
  unfold roundHalfAway
  rw [abs_le]
  split
  · have hlow := Int.floor_le (q + 1 / 2)
    have hhigh := Int.lt_floor_add_one (q + 1 / 2)
    constructor <;> linarith
  · have hlow := Int.le_ceil (q - 1 / 2)
    have hhigh := Int.ceil_lt_add_one (q - 1 / 2)
    constructor <;> linarith

theorem roundHalfAway_mono {r : ℚ} (h : q ≤ r) : roundHalfAway q ≤ roundHalfAway r := by
  unfold roundHalfAway
  split <;> split
  · exact Int.floor_le_floor (by linarith)
  · linarith
  · rename_i hq hr
    have hceil : ⌈q - 1 / 2⌉ ≤ 0 := by
      rw [Int.ceil_le]
      push_cast
      linarith
    have hfloor : 0 ≤ ⌊r + 1 / 2⌋ := Int.floor_nonneg.mpr (by linarith)
    omega
  · exact Int.ceil_le_ceil (by linarith)

/-- Storing moves a value by at most half a unit. -/
theorem abs_toRat_ofRat_sub_le (q : ℚ) :
    |(ofRat q : Numeric scale).toRat - q| ≤ 1 / 2 / 10 ^ scale := by
  have hp : (0 : ℚ) < 10 ^ scale := pow_scale_pos
  rw [le_div_iff₀ hp, ← abs_of_pos hp, ← abs_mul, sub_mul, toRat_mul_pow]
  exact abs_roundHalfAway_sub_le (q * 10 ^ scale)

theorem ofRat_mono {r : ℚ} (h : q ≤ r) : (ofRat q : Numeric scale) ≤ ofRat r :=
  roundHalfAway_mono (mul_le_mul_of_nonneg_right h pow_scale_pos.le)

/-! ## Deducting an amount -/

/-- The units a stored value loses when `q` is deducted from it. -/
def deducted (q : ℚ) : Numeric scale := ⟨⌈q * 10 ^ scale - 1 / 2⌉⟩

/-- Every stored value that covers the amount loses the same number of units. -/
theorem ofRat_toRat_sub (hn : q ≤ n.toRat) : ofRat (n.toRat - q) = n - deducted q := by
  have hp : (0 : ℚ) < 10 ^ scale := pow_scale_pos
  have hn' : 0 ≤ (n.units : ℚ) - q * 10 ^ scale := by
    have h := mul_nonneg (sub_nonneg.mpr hn) hp.le
    rwa [sub_mul, toRat_mul_pow] at h
  ext
  simp only [ofRat, deducted, units_sub, sub_mul, toRat_mul_pow]
  have hshift : (n.units : ℚ) - q * 10 ^ scale + 1 / 2 =
      (n.units : ℚ) + -(q * 10 ^ scale - 1 / 2) := by ring
  rw [roundHalfAway_of_nonneg hn', hshift, Int.floor_intCast_add, Int.floor_neg]
  ring

@[simp] theorem deducted_zero : (deducted 0 : Numeric scale) = 0 := by
  ext
  simp only [deducted, units_zero]
  rw [Int.ceil_eq_iff]
  constructor <;> norm_num

/-- A stored amount is deducted exactly. -/
theorem deducted_toRat_add (n : Numeric scale) (q : ℚ) :
    deducted (n.toRat + q) = n + deducted q := by
  ext
  simp only [deducted, units_add, add_mul, toRat_mul_pow]
  rw [add_sub_assoc, Int.ceil_intCast_add]

/-- An amount of at most half a unit is not deducted at all. -/
theorem deducted_eq_zero (hq : 0 ≤ q) (hle : q * 10 ^ scale ≤ 1 / 2) :
    (deducted q : Numeric scale) = 0 := by
  have hp : (0 : ℚ) < 10 ^ scale := pow_scale_pos
  have hq' : 0 ≤ q * 10 ^ scale := mul_nonneg hq hp.le
  ext
  simp only [deducted, units_zero]
  rw [Int.ceil_eq_iff]
  constructor
  · push_cast
    linarith
  · push_cast
    linarith

/-! ## Amounts between two stored values -/

/-- Half-way between two stored values: rounded up where it is added, and down where it is
deducted. -/
def IsTie (scale : ℕ) (q : ℚ) : Prop := ∃ n : ℤ, q * 10 ^ scale = n + 1 / 2

/-- Off the ties the two roundings of an amount agree. -/
theorem floor_eq_of_not_tie (h : ¬ IsTie scale q) :
    ⌊q * 10 ^ scale + 1 / 2⌋ = ⌈q * 10 ^ scale - 1 / 2⌉ := by
  have hlow := Int.floor_le (q * 10 ^ scale + 1 / 2)
  have hhigh := Int.lt_floor_add_one (q * 10 ^ scale + 1 / 2)
  have hne : (⌊q * 10 ^ scale + 1 / 2⌋ : ℚ) ≠ q * 10 ^ scale + 1 / 2 := by
    intro heq
    refine h ⟨⌊q * 10 ^ scale + 1 / 2⌋ - 1, ?_⟩
    push_cast
    linarith
  have hlt := lt_of_le_of_ne hlow hne
  symm
  rw [Int.ceil_eq_iff]
  constructor <;> linarith

theorem units_ofRat_of_not_tie (h : ¬ IsTie scale q) :
    (ofRat q : Numeric scale).units = ⌊q * 10 ^ scale + 1 / 2⌋ := by
  unfold ofRat roundHalfAway
  split
  · rfl
  · exact (floor_eq_of_not_tie h).symm

/-- A stored value moves an amount by whole units. -/
theorem isTie_toRat_add_iff (n : Numeric scale) (q : ℚ) :
    IsTie scale (n.toRat + q) ↔ IsTie scale q := by
  unfold IsTie
  rw [add_mul, toRat_mul_pow]
  constructor
  · rintro ⟨m, hm⟩
    refine ⟨m - n.units, ?_⟩
    push_cast
    linarith
  · rintro ⟨m, hm⟩
    refine ⟨m + n.units, ?_⟩
    push_cast
    linarith

theorem isTie_neg_iff (q : ℚ) : IsTie scale (-q) ↔ IsTie scale q := by
  have hneg : ∀ r : ℚ, IsTie scale r → IsTie scale (-r) := by
    rintro r ⟨m, hm⟩
    refine ⟨-m - 1, ?_⟩
    push_cast
    linarith
  exact ⟨fun h => neg_neg q ▸ hneg _ h, hneg q⟩

/-- A stored value is no tie. -/
theorem not_isTie_toRat (n : Numeric scale) : ¬ IsTie scale n.toRat := by
  rintro ⟨m, hm⟩
  rw [toRat_mul_pow] at hm
  have hodd : 2 * n.units = 2 * m + 1 := by
    have h : (2 : ℚ) * n.units = 2 * m + 1 := by linarith
    exact_mod_cast h
  omega

/-- Off the ties rounding commutes with adding a stored value, whatever the signs. -/
theorem ofRat_toRat_add_of_not_tie (h : ¬ IsTie scale q) : ofRat (n.toRat + q) = n + ofRat q := by
  ext
  rw [units_add, units_ofRat_of_not_tie h,
    units_ofRat_of_not_tie (mt (isTie_toRat_add_iff n q).mp h), add_mul, toRat_mul_pow, add_assoc,
    Int.floor_intCast_add]

theorem ofRat_neg (q : ℚ) (h : ¬ IsTie scale q) : (ofRat (-q) : Numeric scale) = -ofRat q := by
  ext
  rw [units_neg, units_ofRat_of_not_tie h, units_ofRat_of_not_tie (mt (isTie_neg_iff q).mp h),
    floor_eq_of_not_tie h, ← Int.floor_neg]
  congr 1
  ring

/-- Off the ties a stored value loses what the amount is stored as. -/
theorem ofRat_toRat_sub_of_not_tie (h : ¬ IsTie scale q) : ofRat (n.toRat - q) = n - ofRat q := by
  rw [sub_eq_add_neg, ofRat_toRat_add_of_not_tie (mt (isTie_neg_iff q).mp h), ofRat_neg q h,
    ← sub_eq_add_neg]

end Numeric

end SmartErpPos.Lib
