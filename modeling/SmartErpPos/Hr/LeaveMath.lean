/-
  Hr/LeaveMath.lean --- leave days of a payroll period.

  Dates are texts `YYYY-MM-DD`.  They are checked against the calendar, compared as texts, and
  turned into days only to be counted or to be moved by a day.  Leave intervals are clipped to
  the period, sorted by their start and merged, and the days of the merged ones are added up.
-/
import Mathlib.Data.List.Sort
import Mathlib.Data.String.Basic
import SmartErpPos.Lib.CivilDate
import SmartErpPos.Lib.DigitText
import SmartErpPos.Lib.Fallible
import SmartErpPos.Lib.JsText

set_option autoImplicit false

namespace SmartErpPos.Hr

open SmartErpPos.Lib

/-! ## Dates as texts -/

/-- A leave, from its first to its last day. -/
structure DateInterval where
  start : String
  stop : String
  deriving DecidableEq

/-- `YMD_RE`: the year, month and day of a text of that form. -/
def ymdParts (s : String) : Option (ℕ × ℕ × ℕ) :=
  match s.toList with
  | [y3, y2, y1, y0, mark, m1, m0, mark', d1, d0] =>
    if mark = '-' ∧ mark' = '-' ∧ [y3, y2, y1, y0, m1, m0, d1, d0].all Char.isDigit then
      some (digitsValue [y3, y2, y1, y0], digitsValue [m1, m0], digitsValue [d1, d0])
    else none
  | _ => none

/-- `Date.UTC(y, mo - 1, d)` as a day: two-digit years are of the twentieth century, months and
days run on into the next year and month. -/
def dateUTC (y mo d : ℕ) : ℤ :=
  let year : ℤ := if y ≤ 99 then 1900 + y else y
  let month : ℤ := mo - 1
  daysFromCivil ⟨year + month / 12, month % 12 + 1, 1⟩ + (d - 1)

/-- The text of a date that exists. -/
def assertYmd (label ymd : String) : Except String String := do
  let s := jsPrefix 10 (jsTrim ymd)
  let (y, mo, d) ← orThrow (ymdParts s)
    ("LEAVE_DATE_INVALID: " ++ label ++ " must be YYYY-MM-DD, got \"" ++ ymd ++ "\"")
  require (civilFromDays (dateUTC y mo d) = ⟨y, mo, d⟩)
    ("LEAVE_DATE_INVALID: " ++ label ++ " is not a real calendar day \"" ++ s ++ "\"")
  pure s

def maxDate (a b : String) : String := if b ≤ a then a else b

def minDate (a b : String) : String := if a ≤ b then a else b

/-- The day of a checked text; none stands for an invalid date. -/
def parseYmd (ymd : String) : Option ℤ :=
  (ymdParts ymd).map fun (y, m, d) => dateUTC y m d

def inclusiveDayCount (startYmd endYmd : String) : Except String ℤ :=
  match parseYmd startYmd, parseYmd endYmd with
  | some s, some e =>
    if e - s < 0 then .error ("LEAVE_DAY_COUNT_INVALID: " ++ startYmd ++ "→" ++ endYmd)
    else .ok (e - s + 1)
  | _, _ => .error ("LEAVE_DAY_COUNT_INVALID: " ++ startYmd ++ "→" ++ endYmd)

/-- The date some days later.  The month and the day are padded, the year is not. -/
def addDays (ymd : String) (days : ℤ) : String :=
  match parseYmd ymd with
  | some day =>
    let date := civilFromDays (day + days)
    toString date.year ++ "-" ++ padDigits 2 date.month.toNat ++ "-" ++ padDigits 2 date.day.toNat
  | none => "NaN-NaN-NaN"

/-! ## Days of one leave -/

/-- A leave that ends before it starts is refused. -/
def assertLeaveDateRange (startYmd endYmd : String) : Except String (DateInterval × ℤ) := do
  let start ← assertYmd "startDate" startYmd
  let stop ← assertYmd "endDate" endYmd
  require (¬ stop < start)
    ("LEAVE_DATE_RANGE: endDate " ++ stop ++ " is before startDate " ++ start)
  let days ← inclusiveDayCount start stop
  pure ({ start := start, stop := stop }, days)

/-- The days of a leave in a period. -/
def overlapLeaveDays (leave period : DateInterval) : Except String ℤ := do
  let leaveStart ← assertYmd "leaveStart" leave.start
  let leaveEnd ← assertYmd "leaveEnd" leave.stop
  let periodStart ← assertYmd "periodStart" period.start
  let periodEnd ← assertYmd "periodEnd" period.stop
  require (¬ leaveEnd < leaveStart)
    ("LEAVE_DATE_RANGE: leaveEnd " ++ leaveEnd ++ " is before leaveStart " ++ leaveStart)
  require (¬ periodEnd < periodStart)
    ("LEAVE_DATE_RANGE: periodEnd " ++ periodEnd ++ " is before periodStart " ++ periodStart)
  let start := maxDate leaveStart periodStart
  let stop := minDate leaveEnd periodEnd
  if stop < start then pure 0 else inclusiveDayCount start stop

/-! ## Days of several leaves -/

/-- The part of a leave that lies in the period. -/
def clipInterval (pStart pEnd : String) (raw : DateInterval) :
    Except String (Option DateInterval) := do
  let start ← assertYmd "interval.start" raw.start
  let stop ← assertYmd "interval.end" raw.stop
  require (¬ stop < start)
    ("LEAVE_DATE_RANGE: interval end " ++ stop ++ " before start " ++ start)
  let cStart := maxDate start pStart
  let cEnd := minDate stop pEnd
  pure (if cStart ≤ cEnd then some { start := cStart, stop := cEnd } else none)

/-- One turn of the merging loop, on the finished intervals and the last one. -/
def mergeStep (merged : List DateInterval × DateInterval) (cur : DateInterval) :
    List DateInterval × DateInterval :=
  let last := merged.2
  if cur.start ≤ addDays last.stop 1 then
    (merged.1, if last.stop < cur.stop then { last with stop := cur.stop } else last)
  else (merged.1 ++ [last], cur)

/-- The days of all intervals, added up. -/
def totalDays (merged : List DateInterval) : Except String ℤ :=
  merged.foldlM (fun total m => (inclusiveDayCount m.start m.stop).map (total + ·)) 0

/-- `uniqueOverlapLeaveDays`. -/
def uniqueOverlapLeaveDays (intervals : List DateInterval) (periodStart periodEnd : String) :
    Except String ℤ := do
  let pStart ← assertYmd "periodStart" periodStart
  let pEnd ← assertYmd "periodEnd" periodEnd
  require (¬ pEnd < pStart)
    ("LEAVE_DATE_RANGE: periodEnd " ++ pEnd ++ " is before periodStart " ++ pStart)
  if intervals.isEmpty then pure 0
  else do
    let clipped ← intervals.mapM (clipInterval pStart pEnd)
    match clipped.reduceOption.insertionSort fun a b => a.start ≤ b.start with
    | [] => pure 0
    | first :: rest =>
      let merged := rest.foldl mergeStep ([], first)
      totalDays (merged.1 ++ [merged.2])

end SmartErpPos.Hr
