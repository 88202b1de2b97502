/-
  Hr/LeaveDays.lean --- the days a payroll period shares with the leaves.

  An accepted text is the date of one day, and the texts are ordered as the days are.  The
  merging loop is then the pass over spans of days, with the test whether the next start is at
  most the day after the last end as a text.  That text is wrong for a year without four digits.
-/
import SmartErpPos.Hr.LeaveMath
import SmartErpPos.Lib.SpanMerge

set_option autoImplicit false

namespace SmartErpPos.Hr

open SmartErpPos.Lib

/-! ## Accepted dates -/

/-- The days whose dates are accepted. -/
def InRange (n : ℤ) : Prop := 100 ≤ (civilFromDays n).year ∧ (civilFromDays n).year ≤ 9999

/-- What follows the year of a date. -/
def monthDayChars (n : ℤ) : List Char :=
  '-' :: (digitsOf 2 (civilFromDays n).month.toNat ++ '-' :: digitsOf 2 (civilFromDays n).day.toNat)

theorem monthDay_toList (n : ℤ) :
    ("-" ++ padDigits 2 (civilFromDays n).month.toNat ++ "-" ++
      padDigits 2 (civilFromDays n).day.toNat).toList = monthDayChars n := by
  obtain ⟨-, hmonth, -, hday⟩ := civilFromDays_bounds n
  simp only [String.toList_append]
  rw [padDigits_toList (by decide) (by omega), padDigits_toList (by decide) (by omega)]
  simp [monthDayChars]

theorem isoDateText_toList {n : ℤ} (hn : InRange n) :
    (isoDateText n).toList = digitsOf 4 (civilFromDays n).year.toNat ++ monthDayChars n := by
  obtain ⟨hlow, hhigh⟩ := hn
  rw [← monthDay_toList]
  have hyear : (isoYear (civilFromDays n).year).toList = digitsOf 4 (civilFromDays n).year.toNat := by
    rw [isoYear, if_pos ⟨by omega, hhigh⟩, padDigits_toList (by decide) (by omega)]
  simp only [isoDateText, String.toList_append, hyear, List.append_assoc]

theorem monthDayChars_lt_iff (a b : ℤ) : monthDayChars a < monthDayChars b ↔
    (civilFromDays a).month < (civilFromDays b).month ∨
      (civilFromDays a).month = (civilFromDays b).month ∧ (civilFromDays a).day < (civilFromDays b).day := by
  obtain ⟨hm, hm', hd, hd'⟩ := civilFromDays_bounds a
  obtain ⟨km, km', kd, kd'⟩ := civilFromDays_bounds b
  have hday : digitsOf 2 (civilFromDays a).day.toNat < digitsOf 2 (civilFromDays b).day.toNat ↔
      (civilFromDays a).day.toNat < (civilFromDays b).day.toNat := by
    have hnil : digitsOf 2 (civilFromDays a).day.toNat ++ [] <
        digitsOf 2 (civilFromDays b).day.toNat ++ [] ↔ _ :=
      digitsOf_append_lt (by omega) (by omega) [] []
    simpa using hnil
  unfold monthDayChars
  rw [List.cons_lt_cons_iff, digitsOf_append_lt (by omega) (by omega), List.cons_lt_cons_iff, hday]
  simp only [lt_irrefl, false_or, true_and]
  omega

/-- The texts are ordered as the days are. -/
theorem isoDateText_lt_iff {a b : ℤ} (ha : InRange a) (hb : InRange b) :
    isoDateText a < isoDateText b ↔ a < b := by
  obtain ⟨hm, hm', hd, hd'⟩ := civilFromDays_bounds a
  obtain ⟨km, km', kd, kd'⟩ := civilFromDays_bounds b
  have hkey := key_strictMono.lt_iff_lt (a := a) (b := b)
  rw [String.lt_iff_toList_lt, isoDateText_toList ha, isoDateText_toList hb,
    digitsOf_append_lt (by have := ha.2; omega) (by have := hb.2; omega), monthDayChars_lt_iff, ← hkey]
  unfold InRange at ha hb
  unfold CivilDate.key
  omega

theorem isoDateText_le_iff {a b : ℤ} (ha : InRange a) (hb : InRange b) :
    isoDateText a ≤ isoDateText b ↔ a ≤ b := by
  rw [← not_lt, isoDateText_lt_iff hb ha, not_lt]

/-! ## Reading a date -/

theorem ymdParts_eq_some {s : String} {y mo d : ℕ} : ymdParts s = some (y, mo, d) ↔
    (y < 10 ^ 4 ∧ mo < 10 ^ 2 ∧ d < 10 ^ 2) ∧
      s.toList = digitsOf 4 y ++ '-' :: (digitsOf 2 mo ++ '-' :: digitsOf 2 d) := by
  unfold ymdParts
  constructor
  · intro h
    split at h
    · rename_i y3 y2 y1 y0 mark m1 m0 mark' d1 d0 hchars
      split at h
      · rename_i hform
        obtain ⟨rfl, rfl, hdigits⟩ := hform
        simp only [List.all_eq_true, List.forall_mem_cons] at hdigits
        obtain ⟨h3, h2, h1, h0, hm1, hm0, hd1, hd0, -⟩ := hdigits
        obtain ⟨hy, hyear⟩ : digitsValue [y3, y2, y1, y0] < 10 ^ 4 ∧
            digitsOf 4 (digitsValue [y3, y2, y1, y0]) = [y3, y2, y1, y0] :=
          digitsOf_digitsValue (by simp [h3, h2, h1, h0])
        obtain ⟨hmo, hmonth⟩ : digitsValue [m1, m0] < 10 ^ 2 ∧
            digitsOf 2 (digitsValue [m1, m0]) = [m1, m0] :=
          digitsOf_digitsValue (by simp [hm1, hm0])
        obtain ⟨hd, hday⟩ : digitsValue [d1, d0] < 10 ^ 2 ∧
            digitsOf 2 (digitsValue [d1, d0]) = [d1, d0] :=
          digitsOf_digitsValue (by simp [hd1, hd0])
        cases h
        refine ⟨⟨hy, hmo, hd⟩, ?_⟩
        rw [hchars, hyear, hmonth, hday]
        rfl
      · cases h
    · cases h
  · rintro ⟨⟨hy, hmo, hd⟩, hchars⟩
    have hdigit (k : ℕ) : (Nat.digitChar (k % 10)).isDigit = true :=
      isDigit_digitChar (Nat.mod_lt _ (by decide))
    have hyear := digitsValue_digitsOf hy
    have hmonth := digitsValue_digitsOf hmo
    have hday := digitsValue_digitsOf hd
    simp only [digitsOf, List.nil_append, List.cons_append] at hchars hyear hmonth hday
    simp only [hchars]
    rw [if_pos ⟨trivial, trivial, by simp [hdigit]⟩, hyear, hmonth, hday]

/-- The day that a year, a month and a day of the month stand for. -/
theorem dateUTC_civil {n : ℤ} (hn : InRange n) :
    dateUTC (civilFromDays n).year.toNat (civilFromDays n).month.toNat (civilFromDays n).day.toNat =
      n := by
  obtain ⟨hm, hm', hd, hd'⟩ := civilFromDays_bounds n
  obtain ⟨hlow, hhigh⟩ := hn
  have hback := daysFromCivil_civilFromDays n
  have hyear : ((civilFromDays n).year.toNat : ℤ) = (civilFromDays n).year := by omega
  have hmonth : ((civilFromDays n).month.toNat : ℤ) = (civilFromDays n).month := by omega
  have hday : ((civilFromDays n).day.toNat : ℤ) = (civilFromDays n).day := by omega
  have hfirst : ((civilFromDays n).month - 1) / 12 = 0 := by omega
  have hown : ((civilFromDays n).month - 1) % 12 + 1 = (civilFromDays n).month := by omega
  unfold dateUTC
  dsimp only
  rw [if_neg (by omega), hyear, hmonth, hday, hfirst, hown, add_zero]
  unfold daysFromCivil at hback ⊢
  dsimp only at hback ⊢
  omega

/-- A two-digit year is taken for one of the twentieth century and never comes back. -/
theorem hundred_le_of_real {y mo d : ℕ} (hmo : mo < 10 ^ 2)
    (hreal : civilFromDays (dateUTC y mo d) = ⟨y, mo, d⟩) : 100 ≤ y := by
  by_contra hshort
  have hstart : -26000 ≤ dateUTC y mo d := by
    unfold dateUTC daysFromCivil yearStart
    rw [if_pos (by omega)]
    dsimp only
    split <;> omega
  have hkey := key_strictMono.monotone hstart
  have hbefore : 50000 < (civilFromDays (-26000)).key := by decide +kernel
  have hlate : 50000 < (civilFromDays (dateUTC y mo d)).key := hbefore.trans_le hkey
  rw [hreal] at hlate
  obtain ⟨-, hm, -, hd⟩ := civilFromDays_bounds (dateUTC y mo d)
  rw [hreal] at hm hd
  unfold CivilDate.key at hlate
  dsimp only at hlate hm hd
  omega

theorem ymdParts_isoDateText {n : ℤ} (hn : InRange n) : ymdParts (isoDateText n) =
    some ((civilFromDays n).year.toNat, (civilFromDays n).month.toNat, (civilFromDays n).day.toNat) := by
  obtain ⟨hm, hm', hd, hd'⟩ := civilFromDays_bounds n
  refine ymdParts_eq_some.mpr ⟨⟨?_, by omega, by omega⟩, isoDateText_toList hn⟩
  have hhigh := hn.2
  omega

theorem parseYmd_isoDateText {n : ℤ} (hn : InRange n) : parseYmd (isoDateText n) = some n := by
  rw [parseYmd, ymdParts_isoDateText hn, Option.map_some]
  exact congrArg some (dateUTC_civil hn)

/-- What is accepted is the date of a day. -/
theorem assertYmd_eq_ok {label ymd s : String} : assertYmd label ymd = .ok s ↔
    ∃ n, InRange n ∧ s = isoDateText n ∧ jsPrefix 10 (jsTrim ymd) = s := by
  simp only [assertYmd, bind_eq_ok, orThrow_eq_ok, require_eq_ok, pure_eq_ok]
  constructor
  · rintro ⟨⟨y, mo, d⟩, hparts, -, hreal, rfl⟩
    obtain ⟨⟨hy, hmo, hd⟩, hchars⟩ := ymdParts_eq_some.mp hparts
    have hrange : InRange (dateUTC y mo d) := by
      have hyear := hundred_le_of_real hmo hreal
      unfold InRange
      rw [hreal]
      constructor <;> dsimp only <;> omega
    refine ⟨dateUTC y mo d, hrange, String.toList_injective ?_, rfl⟩
    rw [hchars, isoDateText_toList hrange, monthDayChars, hreal]
    rfl
  · rintro ⟨n, hn, rfl, htext⟩
    rw [htext]
    refine ⟨_, ymdParts_isoDateText hn, (), ?_, rfl⟩
    obtain ⟨hm, -, hd, -⟩ := civilFromDays_bounds n
    have hlow := hn.1
    dsimp only
    rw [dateUTC_civil hn]
    cases hdate : civilFromDays n with
    | mk year month day =>
      rw [hdate] at hm hd hlow
      dsimp only at hm hd hlow ⊢
      rw [Int.toNat_of_nonneg (by omega), Int.toNat_of_nonneg (by omega),
        Int.toNat_of_nonneg (by omega)]

/-! ## The day after an end -/

theorem year_mono {a b : ℤ} (h : a ≤ b) : (civilFromDays a).year ≤ (civilFromDays b).year := by
  have hkey : (civilFromDays a).key ≤ (civilFromDays b).key := key_strictMono.monotone h
  obtain ⟨hm, hm', hd, hd'⟩ := civilFromDays_bounds a
  obtain ⟨km, km', kd, kd'⟩ := civilFromDays_bounds b
  unfold CivilDate.key at hkey
  omega

/-- The year after the last accepted one is the only other that is reached. -/
theorem year_next_le {n : ℤ} (hn : InRange n) : (civilFromDays (n + 1)).year ≤ 10000 := by
  have hlast : (civilFromDays 2932896).year = 9999 ∧ (civilFromDays 2932897).year = 10000 := by
    decide +kernel
  have hbefore : n ≤ 2932896 := by
    by_contra hafter
    have hyear := year_mono (show (2932897 : ℤ) ≤ n by omega)
    have hhigh := hn.2
    omega
  have hyear := year_mono (show n + 1 ≤ 2932897 by omega)
  omega

theorem addDays_toList {n : ℤ} (hn : InRange n) : (addDays (isoDateText n) 1).toList =
    (toString (civilFromDays (n + 1)).year.toNat).toList ++ monthDayChars (n + 1) := by
  have hlow := hn.1
  have hnext := year_mono (show n ≤ n + 1 by omega)
  have hyear : toString (civilFromDays (n + 1)).year = toString (civilFromDays (n + 1)).year.toNat := by
    obtain ⟨k, hk⟩ := Int.eq_ofNat_of_zero_le (show 0 ≤ (civilFromDays (n + 1)).year by omega)
    rw [hk]
    rfl
  rw [addDays, parseYmd_isoDateText hn, ← monthDay_toList]
  simp only [hyear, String.toList_append, List.append_assoc]

/-- The test of the merging loop, on an end and a start. -/
def joins (hi lo : ℤ) : Bool := decide (isoDateText lo ≤ addDays (isoDateText hi) 1)

theorem joins_eq_false_iff {hi lo : ℤ} (hhi : InRange hi) (hlo : InRange lo) :
    joins hi lo = false ↔
      (toString (civilFromDays (hi + 1)).year.toNat).toList ++ monthDayChars (hi + 1) <
        digitsOf 4 (civilFromDays lo).year.toNat ++ monthDayChars lo := by
  rw [joins, decide_eq_false_iff_not, not_le, String.lt_iff_toList_lt, addDays_toList hhi,
    isoDateText_toList hlo]

theorem mark_lt_digit (xs ys : List Char) {k : ℕ} (hk : k < 10) :
    '-' :: xs < Nat.digitChar k :: ys := by
  have hall : ∀ k < 10, '-' < Nat.digitChar k := by decide
  exact List.cons_lt_cons_iff.mpr (.inl (hall k hk))

/-- How the test comes out, by the digits of the next day's year. -/
theorem joins_eq_false {hi lo : ℤ} (hhi : InRange hi) (hlo : InRange lo) :
    joins hi lo = false ↔
      if 10000 ≤ (civilFromDays (hi + 1)).year then 1000 < (civilFromDays lo).year
      else if 1000 ≤ (civilFromDays (hi + 1)).year then hi + 1 < lo
      else (civilFromDays (hi + 1)).year ≤ (civilFromDays lo).year / 10 := by
  rw [joins_eq_false_iff hhi hlo]
  have hlow := hhi.1
  have hnext := year_mono (show hi ≤ hi + 1 by omega)
  have hlast := year_next_le hhi
  obtain ⟨hlo0, hlo1⟩ := hlo
  split
  · -- Five digits: the mark of the start meets the last zero.
    have hyear : (civilFromDays (hi + 1)).year.toNat = 10000 := by omega
    have htext : (toString 10000).toList = digitsOf 4 1000 ++ ['0'] := by decide +kernel
    rw [hyear, htext, List.append_assoc, digitsOf_append_lt (by decide) (by omega)]
    have hmark : ¬ (['0'] ++ monthDayChars (hi + 1) < monthDayChars lo) := by
      rw [List.singleton_append, monthDayChars, monthDayChars, List.cons_lt_cons_iff]
      rintro (h | ⟨h, -⟩)
      · exact absurd h (by decide)
      · exact absurd h (by decide)
    simp only [hmark, and_false, or_false]
    omega
  · split
    · -- Four digits: the two texts are dates of one form.
      have hin : InRange (hi + 1) := ⟨by omega, by omega⟩
      have htext : (toString (civilFromDays (hi + 1)).year.toNat).toList =
          digitsOf 4 (civilFromDays (hi + 1)).year.toNat := toString_toList (by omega) (by omega)
      rw [htext, ← isoDateText_toList hin, ← isoDateText_toList ⟨hlo0, hlo1⟩,
        ← String.lt_iff_toList_lt, isoDateText_lt_iff hin ⟨hlo0, hlo1⟩]
    · -- Three digits: they meet the first three of the start, and then a mark meets a digit.
      have htext : (toString (civilFromDays (hi + 1)).year.toNat).toList =
          digitsOf 3 (civilFromDays (hi + 1)).year.toNat := toString_toList (by omega) (by omega)
      have hdigits : digitsOf 4 (civilFromDays lo).year.toNat ++ monthDayChars lo =
          digitsOf 3 ((civilFromDays lo).year.toNat / 10) ++
            (Nat.digitChar ((civilFromDays lo).year.toNat % 10) :: monthDayChars lo) := by
        rw [digitsOf, List.append_assoc, List.singleton_append]
      have hmark : monthDayChars (hi + 1) <
          Nat.digitChar ((civilFromDays lo).year.toNat % 10) :: monthDayChars lo :=
        mark_lt_digit _ _ (Nat.mod_lt _ (by decide))
      rw [htext, hdigits, digitsOf_append_lt (by omega) (by omega)]
      simp only [hmark, and_true]
      omega

/-- The text of the next day decides as the days do: a year of five digits comes before an
overlapping start, and a year of three digits before the start behind a gap. -/
def NextDayReads (hi lo : ℤ) : Prop :=
  (lo ≤ hi → 10000 ≤ (civilFromDays (hi + 1)).year → (civilFromDays lo).year ≤ 1000) ∧
    (hi + 1 < lo → (civilFromDays (hi + 1)).year < 1000 →
      (civilFromDays (hi + 1)).year ≤ (civilFromDays lo).year / 10)

theorem joinsRight_iff {hi lo : ℤ} (hhi : InRange hi) (hlo : InRange lo) :
    JoinsRight joins hi lo ↔ NextDayReads hi lo := by
  have hfalse := joins_eq_false hhi hlo
  have htrue : joins hi lo = true ↔ ¬ joins hi lo = false := by simp
  have hlow := hhi.1
  have hhigh := hlo.2
  have hnext := year_mono (show hi ≤ hi + 1 by omega)
  unfold JoinsRight NextDayReads
  rw [htrue, hfalse]
  split
  · have hnotAfter : lo < hi + 1 := by
      by_contra hafter
      have hyear := year_mono (not_lt.mp hafter)
      omega
    omega
  · split
    · omega
    · have hbefore : lo ≤ hi → (civilFromDays lo).year ≤ (civilFromDays (hi + 1)).year :=
        fun h => year_mono (by omega)
      omega

end SmartErpPos.Hr
