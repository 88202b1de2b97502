/-
  Hr/Statutory.lean --- NSSF and PAYE of a month's pay.

  Source: `src/shared/hr/statutoryMath.ts` (`assertPayeBands`, `assertStatutorySettings`,
  `computeNssfEmployee`, `computePaye`, `computeStatutoryDeductions`, `parsePayeBandsJson`)
  and `money2` of `src/shared/hr/payrollMath.ts`.

  PAYE looks for the last band that starts at or below the income and adds the marginal
  rate on what is above its start to the band's base tax.

  Amounts are exact rationals; a figure that is no number at all does not occur outside of
  the stored band table, where it is `none`.
-/
import SmartErpPos.Hr.JournalAccuracy

set_option autoImplicit false

namespace SmartErpPos.Hr

open SmartErpPos.Lib

/-- `money2`: halves away from zero, two decimals. -/
def money2 (value : ℚ) : ℚ := roundTo 2 value

/-! ## PAYE bands -/

structure PayeBand where
  fromIncome : ℚ
  toIncome : Option ℚ
  baseTax : ℚ
  rate : ℚ
  deriving DecidableEq

def DEFAULT_UGANDA_PAYE_BANDS : List PayeBand :=
  [⟨0, some 235000, 0, 0⟩, ⟨235000, some 335000, 0, 1 / 10⟩, ⟨335000, some 410000, 10000, 1 / 5⟩,
    ⟨410000, some 10000000, 25000, 3 / 10⟩, ⟨10000000, none, 2870000, 2 / 5⟩]

/-- The loop over the bands, from the `i`-th one on. -/
def checkBands : ℕ → ℚ → List PayeBand → Except String Unit
  | _, _, [] => .ok ()
  | i, prevFrom, b :: rest => do
    require (0 ≤ b.fromIncome)
      ("STATUTORY_PAYE_BAND: band[" ++ toString i ++ "].from invalid (" ++
        decimalText b.fromIncome ++ ")")
    require (∀ top ∈ b.toIncome, b.fromIncome < top)
      ("STATUTORY_PAYE_BAND: band[" ++ toString i ++ "].to must be > from")
    require (0 ≤ b.baseTax)
      ("STATUTORY_PAYE_BAND: band[" ++ toString i ++ "].baseTax invalid")
    require (0 ≤ b.rate ∧ b.rate ≤ 1)
      ("STATUTORY_PAYE_BAND: band[" ++ toString i ++ "].rate invalid (" ++
        decimalText b.rate ++ ")")
    require (prevFrom ≤ b.fromIncome)
      ("STATUTORY_PAYE_BAND: bands must be ascending by from (band[" ++ toString i ++ "])")
    checkBands (i + 1) b.fromIncome rest

/-- `assertPayeBands`. -/
def assertPayeBands (bands : List PayeBand) : Except String Unit := do
  require (bands ≠ []) "STATUTORY_PAYE_BANDS_EMPTY: PAYE bands required when PAYE enabled"
  checkBands 0 (-1) bands
  require (∀ b ∈ bands.head?, b.fromIncome = 0) "STATUTORY_PAYE_BAND: first band.from must be 0"

/-- `computePaye`. -/
def computePaye (taxableIncome : ℚ) (bands : List PayeBand) : Except String ℚ := do
  assertPayeBands bands
  let taxable := money2 taxableIncome
  if taxable ≤ 0 then pure 0
  else
    let band ← orThrow (bands.reverse.find? fun band => decide (band.fromIncome ≤ taxable))
      ("STATUTORY_PAYE_NO_BAND: taxable=" ++ decimalText taxable ++ " matched no band")
    let excess := money2 taxable - band.fromIncome
    pure (money2 (money2 band.baseTax + excess * band.rate))

/-! ## Settings -/

structure StatutorySettings where
  enabled : Bool
  nssfEmployeeRate : ℚ
  nssfEmployerRate : ℚ
  payeEnabled : Bool
  payeBands : List PayeBand
  workingDaysPerMonth : ℚ
  nssfPayableAccount : String
  payePayableAccount : String
  employerNssfExpenseAccount : String
  deriving DecidableEq

def DEFAULT_STATUTORY_SETTINGS : StatutorySettings where
  enabled := true
  nssfEmployeeRate := 1 / 20
  nssfEmployerRate := 1 / 10
  payeEnabled := true
  payeBands := DEFAULT_UGANDA_PAYE_BANDS
  workingDaysPerMonth := 26
  nssfPayableAccount := "2410"
  payePayableAccount := "2420"
  employerNssfExpenseAccount := "6010"

/-- `assertRate`. -/
def assertRate (label : String) (rate : ℚ) : Except String Unit :=
  require (0 ≤ rate ∧ rate ≤ 1)
    ("STATUTORY_RATE_INVALID: " ++ label ++ "=" ++ decimalText rate ++ " (must be 0..1 inclusive)")

/-- `assertStatutorySettings`; bands that are there are checked even where PAYE is off. -/
def assertStatutorySettings (settings : StatutorySettings) : Except String Unit := do
  assertRate "nssfEmployeeRate" settings.nssfEmployeeRate
  assertRate "nssfEmployerRate" settings.nssfEmployerRate
  require (0 < settings.workingDaysPerMonth)
    ("STATUTORY_WORKING_DAYS: must be > 0, got " ++ decimalText settings.workingDaysPerMonth)
  require (isBlank (some settings.nssfPayableAccount) = false) "STATUTORY_NSSF_ACCOUNT_MISSING"
  require (isBlank (some settings.payePayableAccount) = false) "STATUTORY_PAYE_ACCOUNT_MISSING"
  require (isBlank (some settings.employerNssfExpenseAccount) = false)
    "STATUTORY_EMPLOYER_NSSF_EXPENSE_MISSING"
  if settings.enabled && settings.payeEnabled then assertPayeBands settings.payeBands
  else if settings.payeBands ≠ [] then assertPayeBands settings.payeBands
  else pure ()

/-! ## Deductions -/

/-- `computeNssfEmployee`. -/
def computeNssfEmployee (pensionableGross rate : ℚ) : Except String ℚ := do
  let g := money2 pensionableGross
  require (0 ≤ rate ∧ rate ≤ 1) ("STATUTORY_NSSF_RATE_INVALID: " ++ decimalText rate)
  if g ≤ 0 ∨ rate = 0 then pure 0 else pure (money2 (g * rate))

/-- `computeNssfEmployer`. -/
def computeNssfEmployer (pensionableGross rate : ℚ) : Except String ℚ :=
  computeNssfEmployee pensionableGross rate

structure StatutoryDeductions where
  nssfEmployee : ℚ
  paye : ℚ
  nssfEmployer : ℚ
  deriving DecidableEq

/-- `computeStatutoryDeductions`. -/
def computeStatutoryDeductions (pensionableGross : ℚ) (settings : StatutorySettings) :
    Except String StatutoryDeductions := do
  assertStatutorySettings settings
  if settings.enabled = false then pure ⟨0, 0, 0⟩
  else
    let gross := money2 pensionableGross
    require (0 ≤ gross) ("STATUTORY_NEGATIVE_GROSS: " ++ decimalText gross)
    let nssfEmployee ← computeNssfEmployee (money2 gross) settings.nssfEmployeeRate
    let taxable := money2 (gross - nssfEmployee)
    require (0 ≤ taxable)
      ("STATUTORY_TAXABLE_NEGATIVE: gross=" ++ decimalText gross ++ " nssf=" ++
        decimalText nssfEmployee ++ " (rate too high?)")
    let paye ← if settings.payeEnabled then computePaye (money2 taxable) settings.payeBands else pure 0
    let nssfEmployer ← computeNssfEmployer (money2 gross) settings.nssfEmployerRate
    let employeeStatutory := money2 nssfEmployee + paye
    require (employeeStatutory ≤ gross)
      ("STATUTORY_EXCEEDS_GROSS: nssf+paye " ++ decimalText employeeStatutory ++ " > gross " ++
        decimalText gross)
    pure ⟨money2 nssfEmployee, money2 paye, money2 nssfEmployer⟩

/-! ## The stored band table -/

/-- A row of the stored table after `Number(..)`; `none` is a figure that is no number. -/
structure PayeBandRow where
  fromIncome : Option ℚ
  toIncome : Option (Option ℚ)
  baseTax : Option ℚ
  rate : Option ℚ

/-- The stored table: nothing, text that is no JSON, something else than a list, or rows. -/
inductive PayeBandsJson where
  | null
  | unparsable
  | notArray
  | rows (rows : List PayeBandRow)

/-- One row of the table. -/
def parsePayeBand (i : ℕ) (row : PayeBandRow) : Except String PayeBand :=
  match row.fromIncome, row.baseTax, row.rate with
  | some fromIncome, some baseTax, some rate =>
    match row.toIncome with
    | none => .ok ⟨fromIncome, none, baseTax, rate⟩
    | some (some top) => .ok ⟨fromIncome, some top, baseTax, rate⟩
    | some none => .error ("STATUTORY_PAYE_BAND: band[" ++ toString i ++ "].to is not numeric")
  | _, _, _ => .error ("STATUTORY_PAYE_BAND: band[" ++ toString i ++ "] has non-numeric fields")

/-- `parsePayeBandsJson`. -/
def parsePayeBandsJson : PayeBandsJson → Except String (List PayeBand)
  | .null => .error "STATUTORY_PAYE_BANDS_NULL"
  | .unparsable => .error "STATUTORY_PAYE_BANDS_JSON_PARSE"
  | .notArray => .error "STATUTORY_PAYE_BANDS_EMPTY"
  | .rows rows => do
    require (rows ≠ []) "STATUTORY_PAYE_BANDS_EMPTY"
    let bands ← rows.zipIdx.mapM fun (row, i) => parsePayeBand i row
    assertPayeBands bands
    pure bands

/-! ## Accepted band tables -/

/-- What `assertPayeBands` enforces. -/
structure AcceptedBands (bands : List PayeBand) : Prop where
  nonempty : bands ≠ []
  first : ∀ b ∈ bands.head?, b.fromIncome = 0
  fromIncome : ∀ b ∈ bands, 0 ≤ b.fromIncome
  toIncome : ∀ b ∈ bands, ∀ top ∈ b.toIncome, b.fromIncome < top
  baseTax : ∀ b ∈ bands, 0 ≤ b.baseTax
  rate : ∀ b ∈ bands, 0 ≤ b.rate ∧ b.rate ≤ 1
  ascending : bands.Pairwise fun b b' => b.fromIncome ≤ b'.fromIncome

theorem checkBands_ok {i : ℕ} {prevFrom : ℚ} {bands : List PayeBand} {u : Unit} :
    checkBands i prevFrom bands = .ok u ↔
      (∀ b ∈ bands, 0 ≤ b.fromIncome ∧ (∀ top ∈ b.toIncome, b.fromIncome < top) ∧ 0 ≤ b.baseTax ∧
        (0 ≤ b.rate ∧ b.rate ≤ 1) ∧ prevFrom ≤ b.fromIncome) ∧
      bands.Pairwise fun b b' => b.fromIncome ≤ b'.fromIncome := by
  induction bands generalizing i prevFrom with
  | nil => simp [checkBands]
  | cons b rest ih =>
    simp only [checkBands, bind_eq_ok, require_eq_ok, ih, exists_const, List.forall_mem_cons,
      List.pairwise_cons]
    constructor
    · rintro ⟨hfrom, hto, hbase, hrate, hprev, hrest, hsorted⟩
      refine ⟨⟨⟨hfrom, hto, hbase, hrate, hprev⟩, fun b' hb' => ?_⟩,
        fun b' hb' => (hrest b' hb').2.2.2.2, hsorted⟩
      obtain ⟨hfrom', hto', hbase', hrate', hnext⟩ := hrest b' hb'
      exact ⟨hfrom', hto', hbase', hrate', hprev.trans hnext⟩
    · rintro ⟨⟨⟨hfrom, hto, hbase, hrate, hprev⟩, hrest⟩, hnext, hsorted⟩
      refine ⟨hfrom, hto, hbase, hrate, hprev, fun b' hb' => ?_, hsorted⟩
      obtain ⟨hfrom', hto', hbase', hrate', -⟩ := hrest b' hb'
      exact ⟨hfrom', hto', hbase', hrate', hnext b' hb'⟩

theorem assertPayeBands_ok {bands : List PayeBand} {u : Unit} :
    assertPayeBands bands = .ok u ↔ AcceptedBands bands := by
  unfold assertPayeBands
  simp only [bind_eq_ok, require_eq_ok, checkBands_ok, exists_const]
  constructor
  · rintro ⟨hne, ⟨hall, hsorted⟩, hfirst⟩
    exact ⟨hne, hfirst, fun b hb => (hall b hb).1, fun b hb => (hall b hb).2.1,
      fun b hb => (hall b hb).2.2.1, fun b hb => (hall b hb).2.2.2.1, hsorted⟩
  · intro h
    refine ⟨h.nonempty, ⟨fun b hb => ?_, h.ascending⟩, h.first⟩
    have hfrom := h.fromIncome b hb
    exact ⟨hfrom, h.toIncome b hb, h.baseTax b hb, h.rate b hb, by linarith⟩

/-- The parser gives accepted tables only. -/
theorem parsePayeBandsJson_ok {raw : PayeBandsJson} {bands : List PayeBand}
    (h : parsePayeBandsJson raw = .ok bands) : AcceptedBands bands := by
  cases raw with
  | null => cases h
  | unparsable => cases h
  | notArray => cases h
  | rows rows =>
    simp only [parsePayeBandsJson, bind_eq_ok, require_eq_ok, pure_eq_ok] at h
    obtain ⟨_, _, parsed, _, _, haccepted, rfl⟩ := h
    exact assertPayeBands_ok.mp haccepted

end SmartErpPos.Hr
