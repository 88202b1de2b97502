/-
  Lib/DigitText.lean --- numbers as digits of a fixed count, and how their texts compare.

  Texts are compared character by character.  Two numbers written with equally many digits
  compare as the numbers do, and what follows them decides only between equal ones
  (`digitsOf_append_lt`).  Digits are read back as their number, and padded and plain decimal
  texts are such digits.
-/
import Mathlib.Data.List.Basic
import Mathlib.Data.String.Basic
import SmartErpPos.Lib.DecimalText

set_option autoImplicit false

namespace SmartErpPos.Lib

/-- The last `width` decimal digits of `n`. -/
def digitsOf : ℕ → ℕ → List Char
  | 0, _ => []
  | width + 1, n => digitsOf width (n / 10) ++ [Nat.digitChar (n % 10)]

theorem digitChar_lt_iff {m n : ℕ} (hm : m < 10) (hn : n < 10) :
    Nat.digitChar m < Nat.digitChar n ↔ m < n := by
  have hall : ∀ m < 10, ∀ n < 10, (Nat.digitChar m < Nat.digitChar n ↔ m < n) := by decide
  exact hall m hm n hn

theorem digitChar_inj_iff {m n : ℕ} (hm : m < 10) (hn : n < 10) :
    Nat.digitChar m = Nat.digitChar n ↔ m = n := by
  have hall : ∀ m < 10, ∀ n < 10, (Nat.digitChar m = Nat.digitChar n ↔ m = n) := by decide
  exact hall m hm n hn

/-- Equally many digits compare as the numbers do; what follows decides between equal ones. -/
theorem digitsOf_append_lt {width m n : ℕ} (hm : m < 10 ^ width) (hn : n < 10 ^ width)
    (xs ys : List Char) :
    digitsOf width m ++ xs < digitsOf width n ++ ys ↔ m < n ∨ m = n ∧ xs < ys := by
  induction width generalizing m n xs ys with
  | zero =>
    obtain rfl : m = 0 := by omega
    obtain rfl : n = 0 := by omega
    simp [digitsOf]
  | succ width ih =>
    have hpow : 10 ^ (width + 1) = 10 ^ width * 10 := pow_succ 10 width
    have hm' : m / 10 < 10 ^ width := by omega
    have hn' : n / 10 < 10 ^ width := by omega
    have hlast : m % 10 < 10 := Nat.mod_lt _ (by decide)
    have hlast' : n % 10 < 10 := Nat.mod_lt _ (by decide)
    rw [digitsOf, digitsOf, List.append_assoc, List.append_assoc, ih hm' hn', List.singleton_append,
      List.singleton_append, List.cons_lt_cons_iff, digitChar_lt_iff hlast hlast',
      digitChar_inj_iff hlast hlast']
    constructor
    · rintro (h | ⟨h, h' | ⟨h', hrest⟩⟩)
      · exact .inl (by omega)
      · exact .inl (by omega)
      · exact .inr ⟨by omega, hrest⟩
    · rintro (h | ⟨rfl, hrest⟩)
      · by_cases hfront : m / 10 < n / 10
        · exact .inl hfront
        · exact .inr ⟨by omega, .inl (by omega)⟩
      · exact .inr ⟨rfl, .inr ⟨rfl, hrest⟩⟩

theorem digitsOf_zero (width : ℕ) : digitsOf width 0 = List.replicate width '0' := by
  induction width with
  | zero => rfl
  | succ width ih =>
    rw [digitsOf, Nat.zero_div, ih, List.replicate_succ']
    rfl

/-! ## Reading digits back -/

/-- The number a digit stands for. -/
def digitValue (c : Char) : ℕ := c.toNat - '0'.toNat

/-- The number some digits write. -/
def digitsValue (cs : List Char) : ℕ := cs.foldl (fun n c => 10 * n + digitValue c) 0

theorem digitsValue_concat (cs : List Char) (c : Char) :
    digitsValue (cs ++ [c]) = 10 * digitsValue cs + digitValue c := by
  rw [digitsValue, List.foldl_append]
  rfl

theorem digitValue_digitChar {n : ℕ} (hn : n < 10) : digitValue (Nat.digitChar n) = n := by
  have hall : ∀ n < 10, digitValue (Nat.digitChar n) = n := by decide
  exact hall n hn

theorem digitValue_lt {c : Char} (hc : c.isDigit = true) : digitValue c < 10 := by
  simp only [Char.isDigit, Bool.and_eq_true, decide_eq_true_eq] at hc
  have hhigh : c.toNat ≤ '9'.toNat := hc.2
  unfold digitValue
  have hzero : '0'.toNat = 48 := rfl
  have hnine : '9'.toNat = 57 := rfl
  omega

theorem digitChar_digitValue {c : Char} (hc : c.isDigit = true) :
    Nat.digitChar (digitValue c) = c := by
  have hlow : '0'.toNat ≤ c.toNat := by
    simp only [Char.isDigit, Bool.and_eq_true, decide_eq_true_eq] at hc
    exact hc.1
  have hall : ∀ n < 10, Nat.digitChar n = Char.ofNat ('0'.toNat + n) := by decide
  rw [hall _ (digitValue_lt hc), digitValue, Nat.add_sub_cancel' hlow, Char.ofNat_toNat]

theorem isDigit_digitChar {n : ℕ} (hn : n < 10) : (Nat.digitChar n).isDigit = true := by
  have hall : ∀ n < 10, (Nat.digitChar n).isDigit = true := by decide
  exact hall n hn

/-- Digits are read back as the number they were written for. -/
theorem digitsValue_digitsOf {width n : ℕ} (hn : n < 10 ^ width) :
    digitsValue (digitsOf width n) = n := by
  induction width generalizing n with
  | zero =>
    obtain rfl : n = 0 := by omega
    rfl
  | succ width ih =>
    have hpow : 10 ^ (width + 1) = 10 ^ width * 10 := pow_succ 10 width
    rw [digitsOf, digitsValue_concat, ih (by omega), digitValue_digitChar (Nat.mod_lt _ (by decide))]
    omega

/-- Digits are the digits of the number they write. -/
theorem digitsOf_digitsValue {cs : List Char} (hcs : ∀ c ∈ cs, c.isDigit = true) :
    digitsValue cs < 10 ^ cs.length ∧ digitsOf cs.length (digitsValue cs) = cs := by
  induction cs using List.reverseRecOn with
  | nil => exact ⟨Nat.one_pos, rfl⟩
  | append_singleton cs c ih =>
    obtain ⟨hbound, hdigits⟩ := ih fun d hd => hcs d (List.mem_append_left _ hd)
    have hc : c.isDigit = true := hcs c (List.mem_append_right _ List.mem_cons_self)
    have hvalue := digitValue_lt hc
    have hpow : 10 ^ (cs.length + 1) = 10 ^ cs.length * 10 := pow_succ 10 cs.length
    have hfront : (10 * digitsValue cs + digitValue c) / 10 = digitsValue cs := by omega
    have hlast : (10 * digitsValue cs + digitValue c) % 10 = digitValue c := by omega
    rw [digitsValue_concat, List.length_append, List.length_singleton]
    refine ⟨by omega, ?_⟩
    rw [digitsOf, hfront, hlast, hdigits, digitChar_digitValue hc]

/-! ## Texts of numbers -/

/-- A padded number is its digits. -/
theorem padDigits_toList {width n : ℕ} (hwidth : 0 < width) (hn : n < 10 ^ width) :
    (padDigits width n).toList = digitsOf width n := by
  rw [padDigits, String.toList_ofList]
  induction width generalizing n with
  | zero => omega
  | succ width ih =>
    by_cases hsmall : n < 10
    · rw [Nat.toDigits_of_lt_base hsmall, digitsOf, Nat.div_eq_of_lt hsmall, digitsOf_zero,
        Nat.mod_eq_of_lt hsmall]
      rfl
    · have hpow : 10 ^ (width + 1) = 10 ^ width * 10 := pow_succ 10 width
      have hfront : n / 10 < 10 ^ width := by omega
      have hpos : 0 < width := by
        rcases Nat.eq_zero_or_pos width with rfl | h
        · omega
        · exact h
      rw [Nat.toDigits_of_base_le (by decide) (not_lt.mp hsmall), List.length_append,
        List.length_singleton, Nat.add_sub_add_right, ← List.append_assoc, ih hpos hfront, digitsOf]

/-- A number with as many digits as it has is its plain text. -/
theorem toString_toList {width n : ℕ} (hlow : 10 ^ width ≤ n) (hn : n < 10 ^ (width + 1)) :
    (toString n).toList = digitsOf (width + 1) n := by
  rw [Nat.toString_eq_repr, Nat.toList_repr]
  induction width generalizing n with
  | zero =>
    have hsmall : n < 10 := hn
    rw [Nat.toDigits_of_lt_base hsmall, digitsOf, Nat.mod_eq_of_lt hsmall]
    rfl
  | succ width ih =>
    have hpow : 10 ^ (width + 1) = 10 ^ width * 10 := pow_succ 10 width
    have hpow' : 10 ^ (width + 1 + 1) = 10 ^ (width + 1) * 10 := pow_succ 10 (width + 1)
    have hpos : 0 < 10 ^ width := pow_pos (by decide) width
    have hbase : 10 ≤ n := by omega
    rw [Nat.toDigits_of_base_le (by decide) hbase, ih (by omega) (by omega)]
    rfl

end SmartErpPos.Lib
