/-
  Lib/DecimalText.lean --- numbers as text.

  Error texts and generated codes contain numbers.  `fixedText` prints a fixed
  count of decimals, halves away from zero; `decimalText` prints as many decimals
  as the number has, at most twenty.
-/
import SmartErpPos.Lib.Numeric

set_option autoImplicit false

namespace SmartErpPos.Lib

/-- Decimal digits of `n`, padded with zeros to at least `width`. -/
def padDigits (width n : ℕ) : String :=
  let digits := Nat.toDigits 10 n
  String.ofList (List.replicate (width - digits.length) '0' ++ digits)

/-- `q` with `decimals` decimals. -/
def fixedText (decimals : ℕ) (q : ℚ) : String :=
  let units := roundHalfAway (q * 10 ^ decimals)
  let sign := if units < 0 then "-" else ""
  let whole := padDigits 1 (units.natAbs / 10 ^ decimals)
  if decimals = 0 then sign ++ whole
  else sign ++ whole ++ "." ++ padDigits decimals (units.natAbs % 10 ^ decimals)

/-- `q` with as many decimals as it needs, at most twenty. -/
def decimalText (q : ℚ) : String :=
  let needed := (List.range 21).find? fun d => (q * 10 ^ d).den = 1
  fixedText (needed.getD 20) q

/-! ## Keys: a fixed text and a number -/

/-- Where a mark first stands splits a list in one way. -/
theorem split_at_mark {α : Type*} {mark : α} {xs ys zs ws : List α} (hx : mark ∉ xs)
    (hy : mark ∉ ys) (h : xs ++ mark :: zs = ys ++ mark :: ws) : xs = ys ∧ zs = ws := by
  induction xs generalizing ys with
  | nil =>
    cases ys with
    | nil => exact ⟨rfl, (List.cons.inj h).2⟩
    | cons y ys => exact absurd (List.mem_cons.mpr (.inl (List.cons.inj h).1)) hy
  | cons x xs ih =>
    cases ys with
    | nil => exact absurd (List.mem_cons.mpr (.inl (List.cons.inj h).1.symm)) hx
    | cons y ys =>
      obtain ⟨rfl, hrest⟩ := List.cons.inj h
      obtain ⟨rfl, hws⟩ := ih (fun hmem => hx (List.mem_cons_of_mem _ hmem))
        (fun hmem => hy (List.mem_cons_of_mem _ hmem)) hrest
      exact ⟨rfl, hws⟩

/-- A number is read back from its text. -/
theorem natText_injective {m n : ℕ} (h : toString m = toString n) : m = n := by
  have hdigits := congrArg String.toList h
  simp only [Nat.toString_eq_repr, Nat.toList_repr] at hdigits
  rw [← Nat.ofDigitChars_ten_toDigits (n := m), hdigits, Nat.ofDigitChars_ten_toDigits]

/-- The text of a number consists of digits. -/
theorem notMem_natText {c : Char} (hc : c.isDigit = false) (n : ℕ) : c ∉ (toString n).toList := by
  intro hmem
  rw [Nat.toString_eq_repr, Nat.toList_repr] at hmem
  have hdigit := Nat.isDigit_of_mem_toDigits (by decide) (by decide) hmem
  rw [hc] at hdigit
  cases hdigit

theorem append_left_cancel {p s t : String} (h : p ++ s = p ++ t) : s = t := by
  have hlist := congrArg String.toList h
  simp only [String.toList_append] at hlist
  have hrest := List.append_cancel_left hlist
  exact String.toList_injective hrest

theorem append_right_cancel {p q s : String} (h : p ++ s = q ++ s) : p = q := by
  have hlist := congrArg String.toList h
  simp only [String.toList_append] at hlist
  have hfront := List.append_cancel_right hlist
  exact String.toList_injective hfront

/-- Texts that differ within their first `n` characters. -/
theorem append_ne_append {p q : String} (n : ℕ) (hp : n ≤ p.toList.length)
    (hq : n ≤ q.toList.length) (hne : p.toList.take n ≠ q.toList.take n) (s t : String) :
    p ++ s ≠ q ++ t := by
  intro h
  have hlist := congrArg (fun text : String => text.toList.take n) h
  simp only [String.toList_append, List.take_append_of_le_length hp,
    List.take_append_of_le_length hq] at hlist
  exact hne hlist

end SmartErpPos.Lib
