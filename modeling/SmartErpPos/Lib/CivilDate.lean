/-
  Lib/CivilDate.lean --- days, civil dates and ISO timestamps.

  Days are counted from 1970-01-01 and dates follow the proleptic Gregorian
  calendar, so the conversion is total on the integers.  `isoFromMillis` writes a
  count of milliseconds in the extended ISO format of scripting languages: UTC,
  three fractional digits, and a signed six-digit year outside 0000 to 9999.

  A later day has a later date, by year, then month, then day.  The proof goes along the
  computation: the year of an era, its first day, and the month of a day of the year, which
  starts in March.
-/
import Mathlib.Data.Int.ConditionallyCompleteOrder
import Mathlib.Order.Monotone.Basic
import Mathlib.Tactic.Linarith
import SmartErpPos.Lib.DecimalText

set_option autoImplicit false

namespace SmartErpPos.Lib

structure CivilDate where
  year : ℤ
  month : ℤ
  day : ℤ
  deriving DecidableEq

/-- The civil date of a day number.  The computation runs on 400-year eras that
start in March, so that the leap day is the last day of its year. -/
def civilFromDays (days : ℤ) : CivilDate :=
  let shifted := days + 719468
  let era := shifted / 146097
  let dayOfEra := shifted % 146097
  let yearOfEra := (dayOfEra - dayOfEra / 1460 + dayOfEra / 36524 - dayOfEra / 146096) / 365
  let dayOfYear := dayOfEra - (365 * yearOfEra + yearOfEra / 4 - yearOfEra / 100)
  let marchMonth := (5 * dayOfYear + 2) / 153
  let month := if marchMonth < 10 then marchMonth + 3 else marchMonth - 9
  { year := yearOfEra + era * 400 + (if month ≤ 2 then 1 else 0)
    month := month
    day := dayOfYear - (153 * marchMonth + 2) / 5 + 1 }

/-- Four digits, or a sign and six digits outside the four-digit range. -/
def isoYear (year : ℤ) : String :=
  if 0 ≤ year ∧ year ≤ 9999 then padDigits 4 year.toNat
  else if 0 ≤ year then "+" ++ padDigits 6 year.toNat
  else "-" ++ padDigits 6 (-year).toNat

/-- The date part of an ISO timestamp. -/
def isoDateText (days : ℤ) : String :=
  let date := civilFromDays days
  isoYear date.year ++ "-" ++ padDigits 2 date.month.toNat ++ "-" ++ padDigits 2 date.day.toNat

/-- The ISO timestamp of a count of milliseconds since the epoch. -/
def isoFromMillis (ms : ℤ) : String :=
  let ofDay := (ms % 86400000).toNat
  isoDateText (ms / 86400000) ++ "T" ++ padDigits 2 (ofDay / 3600000) ++ ":" ++ padDigits 2 (ofDay / 60000 % 60) ++ ":" ++
    padDigits 2 (ofDay / 1000 % 60) ++ "." ++ padDigits 3 (ofDay % 1000) ++ "Z"

example : civilFromDays 19782 = ⟨2024, 2, 29⟩ := by decide

/-! ## Years of an era -/

/-- The year of a day of an era, and the first day of a year of an era. -/
def yearOfEra (dayOfEra : ℤ) : ℤ :=
  (dayOfEra - dayOfEra / 1460 + dayOfEra / 36524 - dayOfEra / 146096) / 365

def yearStart (year : ℤ) : ℤ := 365 * year + year / 4 - year / 100

theorem yearOfEra_mono : Monotone yearOfEra := by
  refine monotone_int_of_le_succ fun d => ?_
  unfold yearOfEra
  refine Int.ediv_le_ediv (by decide) ?_
  omega

/-- The leap days before a year are those that the days of its first day count. -/
theorem yearOfEra_first {y : ℤ} (h0 : 0 ≤ y) (h1 : y < 400) : yearOfEra (yearStart y) = y := by
  have hfour : (365 * y + y / 4 - y / 100) / 1460 = y / 4 := by omega
  have hcentury : (365 * y + y / 4 - y / 100) / 36524 = y / 100 := by omega
  have hera : (365 * y + y / 4 - y / 100) / 146096 = 0 := by omega
  unfold yearOfEra yearStart
  rw [hfour, hcentury, hera]
  omega

/-- The day before the next year is still of this one. -/
theorem yearOfEra_last {y : ℤ} (h0 : 0 ≤ y) (h1 : y < 400) :
    yearOfEra (yearStart (y + 1) - 1) = y := by
  have hfour : (365 * (y + 1) + (y + 1) / 4 - (y + 1) / 100 - 1) / 1460 = (y + 1) / 4 := by omega
  have hcentury : (y + 1) / 100 - 1 ≤ (365 * (y + 1) + (y + 1) / 4 - (y + 1) / 100 - 1) / 36524 ∧
      (365 * (y + 1) + (y + 1) / 4 - (y + 1) / 100 - 1) / 36524 ≤ (y + 1) / 100 := by omega
  have hera : 0 ≤ (365 * (y + 1) + (y + 1) / 4 - (y + 1) / 100 - 1) / 146096 ∧
      (365 * (y + 1) + (y + 1) / 4 - (y + 1) / 100 - 1) / 146096 ≤ 1 := by omega
  unfold yearOfEra yearStart
  rw [hfour]
  generalize (365 * (y + 1) + (y + 1) / 4 - (y + 1) / 100 - 1) / 36524 = century at *
  generalize (365 * (y + 1) + (y + 1) / 4 - (y + 1) / 100 - 1) / 146096 = era at *
  omega

theorem exists_year {d : ℤ} (h0 : 0 ≤ d) (n : ℕ) (hn : d < yearStart n) :
    ∃ y < n, yearStart (y : ℕ) ≤ d ∧ d < yearStart ((y : ℕ) + 1) := by
  induction n with
  | zero =>
    have hzero : yearStart (0 : ℕ) = 0 := rfl
    omega
  | succ n ih =>
    by_cases hbefore : d < yearStart n
    · obtain ⟨y, hy, hbounds⟩ := ih hbefore
      exact ⟨y, hy.trans (Nat.lt_succ_self n), hbounds⟩
    · exact ⟨n, Nat.lt_succ_self n, not_lt.mp hbefore, by exact_mod_cast hn⟩

/-- A day of an era lies in its year; the last year has a day more. -/
theorem yearOfEra_spec {d : ℤ} (h0 : 0 ≤ d) (h1 : d < 146097) :
    0 ≤ yearOfEra d ∧ yearOfEra d < 400 ∧ yearStart (yearOfEra d) ≤ d ∧
      d - yearStart (yearOfEra d) ≤ 365 := by
  by_cases hlast : d = 146096
  · subst hlast
    unfold yearStart yearOfEra
    omega
  · obtain ⟨y, hy, hlow, hhigh⟩ := exists_year h0 400 (lt_of_lt_of_eq (by omega) (rfl : (146096 : ℤ) = _))
    have hfirst : yearOfEra (yearStart (y : ℕ)) = y := yearOfEra_first (by omega) (by omega)
    have hend : yearOfEra (yearStart ((y : ℕ) + 1) - 1) = y := yearOfEra_last (by omega) (by omega)
    have hyear : yearOfEra d = y :=
      le_antisymm (hend ▸ yearOfEra_mono (by omega)) (hfirst ▸ yearOfEra_mono hlow)
    rw [hyear]
    refine ⟨by omega, by omega, hlow, ?_⟩
    unfold yearStart at hlow hhigh ⊢
    omega

/-! ## Days of a year -/

/-- The month of a day of the year that starts in March, and its day. -/
def marchMonth (dayOfYear : ℤ) : ℤ := (5 * dayOfYear + 2) / 153

def dayOfMonth (dayOfYear : ℤ) : ℤ := dayOfYear - (153 * marchMonth dayOfYear + 2) / 5 + 1

theorem dayOfMonth_bounds {d : ℤ} (h0 : 0 ≤ d) (h1 : d ≤ 365) :
    0 ≤ marchMonth d ∧ marchMonth d ≤ 11 ∧ 1 ≤ dayOfMonth d ∧ dayOfMonth d ≤ 31 := by
  unfold dayOfMonth marchMonth
  omega

theorem dayOfMonth_step {d : ℤ} (h0 : 0 ≤ d) (h1 : d < 365) :
    32 * marchMonth d + dayOfMonth d < 32 * marchMonth (d + 1) + dayOfMonth (d + 1) := by
  obtain ⟨-, -, -, hlast⟩ := dayOfMonth_bounds h0 h1.le
  obtain ⟨-, -, hfirst, -⟩ := dayOfMonth_bounds (by omega : 0 ≤ d + 1) (by omega)
  have hmonth : marchMonth (d + 1) = marchMonth d ∨ marchMonth (d + 1) = marchMonth d + 1 := by
    unfold marchMonth
    omega
  rcases hmonth with hsame | hnext
  · unfold dayOfMonth
    rw [hsame]
    omega
  · rw [hnext]
    omega

/-! ## The order of dates -/

/-- A number that orders dates by year, month and day. -/
def CivilDate.key (date : CivilDate) : ℤ := 384 * date.year + 32 * date.month + date.day

/-- The day of a date's year, for a day of an era. -/
def dayOfYear (dayOfEra : ℤ) : ℤ := dayOfEra - yearStart (yearOfEra dayOfEra)

/-- The era of a day, and the day of the era. -/
def eraOf (n : ℤ) : ℤ := (n + 719468) / 146097

def eraDay (n : ℤ) : ℤ := (n + 719468) % 146097

theorem eraDay_bounds (n : ℤ) : 0 ≤ eraDay n ∧ eraDay n < 146097 :=
  ⟨Int.emod_nonneg _ (by decide), Int.emod_lt_of_pos _ (by decide)⟩

theorem civilFromDays_eq (n : ℤ) : civilFromDays n =
    { year := yearOfEra (eraDay n) + eraOf n * 400 +
        if (if marchMonth (dayOfYear (eraDay n)) < 10 then marchMonth (dayOfYear (eraDay n)) + 3
          else marchMonth (dayOfYear (eraDay n)) - 9) ≤ 2 then 1 else 0
      month := if marchMonth (dayOfYear (eraDay n)) < 10 then marchMonth (dayOfYear (eraDay n)) + 3
        else marchMonth (dayOfYear (eraDay n)) - 9
      day := dayOfMonth (dayOfYear (eraDay n)) } := rfl

theorem dayOfYear_bounds {d : ℤ} (h0 : 0 ≤ d) (h1 : d < 146097) :
    0 ≤ dayOfYear d ∧ dayOfYear d ≤ 365 := by
  obtain ⟨-, -, hlow, hhigh⟩ := yearOfEra_spec h0 h1
  exact ⟨sub_nonneg.mpr hlow, hhigh⟩

/-- The months of a date are counted on from March. -/
theorem key_civilFromDays (n : ℤ) : (civilFromDays n).key =
    384 * (yearOfEra (eraDay n) + eraOf n * 400) +
      (32 * marchMonth (dayOfYear (eraDay n)) + dayOfMonth (dayOfYear (eraDay n))) + 96 := by
  obtain ⟨hd0, hd1⟩ := eraDay_bounds n
  obtain ⟨hy0, hy1⟩ := dayOfYear_bounds hd0 hd1
  obtain ⟨hm0, hm1, -, -⟩ := dayOfMonth_bounds hy0 hy1
  rw [civilFromDays_eq]
  unfold CivilDate.key
  dsimp only
  split <;> split <;> omega

theorem civilFromDays_bounds (n : ℤ) : 1 ≤ (civilFromDays n).month ∧ (civilFromDays n).month ≤ 12 ∧
    1 ≤ (civilFromDays n).day ∧ (civilFromDays n).day ≤ 31 := by
  obtain ⟨hd0, hd1⟩ := eraDay_bounds n
  obtain ⟨hy0, hy1⟩ := dayOfYear_bounds hd0 hd1
  obtain ⟨hm0, hm1, hday0, hday1⟩ := dayOfMonth_bounds hy0 hy1
  rw [civilFromDays_eq]
  dsimp only
  refine ⟨?_, ?_, hday0, hday1⟩ <;> split <;> omega

/-- The next day has a later date. -/
theorem key_step (n : ℤ) : (civilFromDays n).key < (civilFromDays (n + 1)).key := by
  rw [key_civilFromDays, key_civilFromDays]
  obtain ⟨hd0, hd1⟩ := eraDay_bounds n
  obtain ⟨hy0, hy1⟩ := dayOfYear_bounds hd0 hd1
  obtain ⟨hm0, hm1, hday0, hday1⟩ := dayOfMonth_bounds hy0 hy1
  obtain ⟨hyear0, hyear1, -, -⟩ := yearOfEra_spec hd0 hd1
  by_cases hwrap : eraDay n = 146096
  · -- The last day of an era: the next one starts with the first day of its first year.
    have hnext : eraDay (n + 1) = 0 := by
      unfold eraDay at hwrap ⊢
      omega
    have hera : eraOf (n + 1) = eraOf n + 1 := by
      unfold eraDay at hwrap
      unfold eraOf
      omega
    have hstart : yearOfEra 0 = 0 ∧ marchMonth (dayOfYear 0) = 0 ∧ dayOfMonth (dayOfYear 0) = 1 := by
      unfold dayOfMonth marchMonth dayOfYear yearStart yearOfEra
      omega
    rw [hnext, hera, hstart.1, hstart.2.1, hstart.2.2]
    omega
  · have hnext : eraDay (n + 1) = eraDay n + 1 := by
      unfold eraDay at hwrap ⊢
      omega
    have hera : eraOf (n + 1) = eraOf n := by
      unfold eraDay at hwrap
      unfold eraOf
      omega
    rw [hnext, hera]
    obtain ⟨hy0', hy1'⟩ := dayOfYear_bounds (by omega : 0 ≤ eraDay n + 1) (by omega)
    obtain ⟨hm0', hm1', hday0', hday1'⟩ := dayOfMonth_bounds hy0' hy1'
    have hmono : yearOfEra (eraDay n) ≤ yearOfEra (eraDay n + 1) := yearOfEra_mono (by omega)
    rcases hmono.eq_or_lt with hsame | hlater
    · have hday : dayOfYear (eraDay n + 1) = dayOfYear (eraDay n) + 1 := by
        unfold dayOfYear
        rw [← hsame]
        ring
      have hstep := dayOfMonth_step hy0 (by omega : dayOfYear (eraDay n) < 365)
      rw [hday, ← hsame]
      omega
    · omega

theorem key_strictMono : StrictMono fun n => (civilFromDays n).key :=
  strictMono_int_of_lt_succ key_step

/-! ## The day of a date -/

/-- The day number of a date, for a month from 1 to 12 and any day. -/
def daysFromCivil (date : CivilDate) : ℤ :=
  let year := if date.month ≤ 2 then date.year - 1 else date.year
  let month := if date.month ≤ 2 then date.month + 9 else date.month - 3
  year / 400 * 146097 + yearStart (year % 400) + ((153 * month + 2) / 5 + date.day - 1) - 719468

/-- A day is the day of its date. -/
theorem daysFromCivil_civilFromDays (n : ℤ) : daysFromCivil (civilFromDays n) = n := by
  obtain ⟨hd0, hd1⟩ := eraDay_bounds n
  obtain ⟨hy0, hy1⟩ := dayOfYear_bounds hd0 hd1
  obtain ⟨hm0, hm1, -, -⟩ := dayOfMonth_bounds hy0 hy1
  obtain ⟨hyear0, hyear1, -, -⟩ := yearOfEra_spec hd0 hd1
  have hyear : (yearOfEra (eraDay n) + eraOf n * 400) / 400 = eraOf n := by omega
  have hyear' : (yearOfEra (eraDay n) + eraOf n * 400) % 400 = yearOfEra (eraDay n) := by omega
  have hday : (153 * marchMonth (dayOfYear (eraDay n)) + 2) / 5 + dayOfMonth (dayOfYear (eraDay n)) - 1 =
      dayOfYear (eraDay n) := by
    unfold dayOfMonth
    omega
  have hsplit : eraOf n * 146097 + yearStart (yearOfEra (eraDay n)) + dayOfYear (eraDay n) - 719468 =
      n := by
    unfold dayOfYear eraOf eraDay
    omega
  have hshift : (if (civilFromDays n).month ≤ 2 then (civilFromDays n).year - 1
        else (civilFromDays n).year) = yearOfEra (eraDay n) + eraOf n * 400 ∧
      (if (civilFromDays n).month ≤ 2 then (civilFromDays n).month + 9
        else (civilFromDays n).month - 3) = marchMonth (dayOfYear (eraDay n)) := by
    rw [civilFromDays_eq]
    dsimp only
    constructor <;> split_ifs <;> omega
  unfold daysFromCivil
  dsimp only
  rw [hshift.1, hshift.2, hyear, hyear', show (civilFromDays n).day = dayOfMonth (dayOfYear (eraDay n))
    from rfl, hday]
  exact hsplit

end SmartErpPos.Lib
