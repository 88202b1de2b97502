/-
  Currency/RevaluationRuns.lean --- when a revaluation brings the books to the closing rate.

  A journal of a revaluation is filed under a text where the column holds UUIDs, so the
  database refuses it: a call with anything to post fails.  What is left is the calls that
  find every balance within a cent of its value at the latest rate.  They post nothing, and
  the books are at the rate where the posted entries are the net-active ones and a currency
  whose balance is zero leaves no book value.
-/
import Mathlib.Algebra.Order.BigOperators.Group.Finset
import SmartErpPos.Currency.Revaluation
import SmartErpPos.Lib.KeyedSum
import SmartErpPos.Lib.Transition

set_option autoImplicit false

namespace SmartErpPos.Currency

open SmartErpPos.Lib SmartErpPos.Ledger

/-! ## Books at the closing rate -/

/-- A net-active entry in a foreign currency, with its amount, up to a date. -/
def FxDb.activeForeign (db : FxDb) (date : IsoDate) (e : LedgerEntry) : Bool :=
  upTo isNetActive db date e && db.isForeign e && (db.currencyOf e).transactionAmount.isSome

/-- The foreign-currency entries of an account. -/
def FxDb.foreignEntries (db : FxDb) (date : IsoDate) (account : AccountId) : List LedgerEntry :=
  db.ledger.entries.filter fun e => db.activeForeign date e && decide (e.accountId = account)

/-- The currency of an entry that has one. -/
def FxDb.currencyName (db : FxDb) (e : LedgerEntry) : String :=
  (db.currencyOf e).transactionCurrency.getD ""

def FxDb.currenciesOf (db : FxDb) (date : IsoDate) (account : AccountId) : Finset String :=
  ((db.foreignEntries date account).map db.currencyName).toFinset

/-- A net-active entry of a revaluation up to a date. -/
def FxDb.isRevaluation (db : FxDb) (date : IsoDate) (e : LedgerEntry) : Bool :=
  upTo (fun ledger id row => isNetActive ledger id row &&
    decide (row.referenceType = "FX_REVALUATION")) db date e

/-- The latest rate. -/
def FxDb.closingRate (db : FxDb) (date : IsoDate) (currency : String) : ℚ :=
  (db.latestRate date currency).getD 0

/-- The value of an account's balance in a currency at the latest rate. -/
def FxDb.valueAtRate (db : FxDb) (date : IsoDate) (account : AccountId) (currency : String) : ℚ :=
  db.foreignSum (db.entriesIn (db.activeForeign date) account currency) *
    db.closingRate date currency

/-- Book value and revaluations are the foreign balances at the latest rate, within two cents
for each currency. -/
def BooksAtRate (db : FxDb) (date : IsoDate) : Prop :=
  ∀ account, |baseSum (db.foreignEntries date account) +
      baseSum (db.ledger.entries.filter fun e =>
        db.isRevaluation date e && decide (e.accountId = account)) -
      ∑ c ∈ db.currenciesOf date account, db.valueAtRate date account c| ≤
    2 / 100 * (db.currenciesOf date account).card

/-- There is a rate for each currency used. -/
def HasRates (db : FxDb) (date : IsoDate) : Prop :=
  ∀ account, ∀ c ∈ db.currenciesOf date account, ∃ rate, db.latestRate date c = some rate ∧
    rate ≠ 0

/-- Nothing has been revalued. -/
def NoRevaluation (db : FxDb) : Prop :=
  ∀ row ∈ db.ledger.transactions.values, row.referenceType ≠ "FX_REVALUATION" ∧
    ∀ date, row.idempotencyKey ≠ revaluationKey date

/-- A call succeeds and its journal balances; without a reversal the books are at the closing
rate, and with one every net-active balance is as it was. -/
structure Revalues (env : RevaluationEnv) (db : FxDb) (request : RevaluationRequest)
    (db' : FxDb) : Prop where
  succeeds : ∃ result, db.revalue env request = .ok (db', result) ∧
    ∀ id ∈ result.transactionId, ((entriesOf db'.ledger id).map (·.debitAmount)).sum =
      ((entriesOf db'.ledger id).map (·.creditAmount)).sum
  atRate : request.autoReverse = false → BooksAtRate db' request.revaluationDate
  asBefore : request.autoReverse = true → ∀ account normal,
    netActiveBalance db'.ledger account normal = netActiveBalance db.ledger account normal

/-- Every posted balance in a foreign currency is within a cent of its value; and where nothing
is reversed afterwards the posted entries are the net-active ones, and a currency without a
balance leaves at most two cents. -/
structure NothingToRevalue (db : FxDb) (request : RevaluationRequest) : Prop where
  settled : ∀ account c, c ≠ db.functionalCurrency →
    db.foreignSum (db.entriesIn (db.counted request.revaluationDate) account c) ≠ 0 →
    |roundTo 2 (db.foreignSum (db.entriesIn (db.counted request.revaluationDate) account c) *
        db.rateOf request.revaluationDate c) -
      baseSum (db.entriesIn (db.counted request.revaluationDate) account c)| ≤ 1 / 100
  netActive : request.autoReverse = false → ∀ account c, c ≠ db.functionalCurrency →
    db.foreignSum (db.entriesIn (db.counted request.revaluationDate) account c) =
        db.foreignSum (db.entriesIn (db.activeForeign request.revaluationDate) account c) ∧
      baseSum (db.entriesIn (db.counted request.revaluationDate) account c) =
        baseSum (db.entriesIn (db.activeForeign request.revaluationDate) account c)
  nothingLeft : request.autoReverse = false → ∀ account c, c ≠ db.functionalCurrency →
    db.foreignSum (db.entriesIn (db.activeForeign request.revaluationDate) account c) = 0 →
    |baseSum (db.entriesIn (db.activeForeign request.revaluationDate) account c)| ≤ 2 / 100

variable {db : FxDb} {env : RevaluationEnv} {request : RevaluationRequest}

/-! ## What a call does -/

theorem revaluationReference_not_uuid (date : IsoDate) :
    isUuidInput (revaluationReference date) = false := by
  refine isUuidInput_eq_false (c := 'R') ?_ (by decide)
  unfold revaluationReference
  rw [String.toList_append]
  exact List.mem_append_left _ (by decide)

/-- No earlier journal holds the key. -/
theorem NoRevaluation.free (h : NoRevaluation db) (date : IsoDate) :
    checkIdempotencyKey db.ledger (revaluationKey date) = none := by
  unfold checkIdempotencyKey
  rw [Option.map_eq_none_iff, List.find?_eq_none]
  intro e he
  have hkey := (h e.2 (List.mem_map_of_mem he)).2 date
  simp [hkey]

theorem NoRevaluation.isRevalued (h : NoRevaluation db) (date : IsoDate) :
    db.isRevalued date = false := by
  unfold FxDb.isRevalued
  rw [List.any_eq_false]
  intro row hrow
  simp [(h row hrow).1]

/-- A call with nothing to adjust posts nothing. -/
theorem revalue_of_settled (h : NoRevaluation db)
    (hsettled : adjustments (db.preview request.revaluationDate) = []) :
    db.revalue env request =
      .ok (db, ⟨none, 0, 0, 0, db.preview request.revaluationDate, none⟩) := by
  unfold FxDb.revalue
  dsimp only
  rw [h.isRevalued, if_pos hsettled]
  rfl

/-- A call with something to adjust fails. -/
theorem revalue_of_adjustments (h : NoRevaluation db)
    (hadjusts : adjustments (db.preview request.revaluationDate) ≠ []) (r : FxDb × RevaluationResult) :
    db.revalue env request ≠ .ok r := by
  intro hok
  unfold FxDb.revalue at hok
  dsimp only at hok
  rw [if_neg hadjusts] at hok
  simp only [bind_eq_ok, mapError_eq_ok] at hok
  obtain ⟨-, -, out, hout, -⟩ := hok
  exact createJournalEntryByText_of_not_uuid (revaluationReference_not_uuid _)
    (h.free request.revaluationDate) hout

/-- The preview lists foreign currencies only. -/
theorem NothingToRevalue.settled_preview (h : NothingToRevalue db request) :
    adjustments (db.preview request.revaluationDate) = [] := by
  unfold adjustments
  rw [List.filter_eq_nil_iff]
  intro row hrow
  unfold FxDb.preview at hrow
  obtain ⟨hmem, hbalance⟩ := List.mem_filter.mp hrow
  obtain ⟨g, hg, hmap⟩ := List.mem_filterMap.mp hmem
  obtain ⟨account, haccount, rfl⟩ := Option.map_eq_some_iff.mp hmap
  unfold FxDb.groups at hg
  obtain ⟨e, he, hkey⟩ := List.mem_filterMap.mp (List.mem_dedup.mp hg)
  obtain ⟨c, hc, rfl⟩ := Option.map_eq_some_iff.mp hkey
  have hforeign := (Bool.and_eq_true_iff.mp (List.mem_filter.mp he).2).2
  unfold FxDb.isForeign at hforeign
  rw [hc, Option.any_some, decide_eq_true_iff] at hforeign
  have hsettled := h.settled e.accountId c hforeign (of_decide_eq_true hbalance)
  rw [decide_eq_true_iff]
  exact not_lt.mpr hsettled

/-! ## The books after a call -/

/-- A foreign entry names its currency. -/
theorem transactionCurrency_of_foreign {e : LedgerEntry} (h : db.isForeign e = true) :
    ∃ c, (db.currencyOf e).transactionCurrency = some c ∧ c ≠ db.functionalCurrency := by
  unfold FxDb.isForeign at h
  cases hcurrency : (db.currencyOf e).transactionCurrency with
  | none =>
    rw [hcurrency] at h
    cases h
  | some c =>
    rw [hcurrency] at h
    exact ⟨c, rfl, of_decide_eq_true h⟩

/-- The entries of one currency among an account's. -/
theorem entriesIn_activeForeign (date : IsoDate) (account : AccountId) (c : String) :
    db.entriesIn (db.activeForeign date) account c =
      (db.foreignEntries date account).filter fun e => db.currencyName e = c := by
  unfold FxDb.entriesIn FxDb.foreignEntries
  rw [List.filter_filter]
  refine List.filter_congr fun e _ => ?_
  cases hactive : db.activeForeign date e with
  | false => simp
  | true =>
    have hforeign := (Bool.and_eq_true_iff.mp (Bool.and_eq_true_iff.mp hactive).1).2
    obtain ⟨c', hc', -⟩ := transactionCurrency_of_foreign hforeign
    unfold FxDb.currencyName
    rw [hc', Bool.true_and, Option.getD_some, Bool.and_comm]
    simp

/-- The book value of an account, currency by currency. -/
theorem foreignBookValue_eq (date : IsoDate) (account : AccountId) :
    baseSum (db.foreignEntries date account) = ∑ c ∈ db.currenciesOf date account,
      baseSum (db.entriesIn (db.activeForeign date) account c) := by
  have hcover : ∀ e ∈ db.foreignEntries date account,
      db.currencyName e ∈ db.currenciesOf date account := fun e he =>
    List.mem_toFinset.mpr (List.mem_map_of_mem he)
  have hgroups : baseSum (db.foreignEntries date account) = _ := (sum_groups hcover).symm
  rw [hgroups]
  refine Finset.sum_congr rfl fun c _ => ?_
  rw [entriesIn_activeForeign]
  rfl

/-- A currency of an account is foreign. -/
theorem foreign_of_mem_currenciesOf {date : IsoDate} {account : AccountId} {c : String}
    (h : c ∈ db.currenciesOf date account) : c ≠ db.functionalCurrency := by
  obtain ⟨e, he, rfl⟩ := List.mem_map.mp (List.mem_toFinset.mp h)
  have hactive := (Bool.and_eq_true_iff.mp (List.mem_filter.mp he).2).1
  have hforeign := (Bool.and_eq_true_iff.mp (Bool.and_eq_true_iff.mp hactive).1).2
  obtain ⟨c', hc', hne⟩ := transactionCurrency_of_foreign hforeign
  unfold FxDb.currencyName
  rwa [hc']

/-- No entry of a revaluation counts. -/
theorem NoRevaluation.revaluations (h : NoRevaluation db) (date : IsoDate) (account : AccountId) :
    (db.ledger.entries.filter fun e => db.isRevaluation date e && decide (e.accountId = account)) =
      [] := by
  rw [List.filter_eq_nil_iff]
  intro e _ hcounts
  have hactive := (Bool.and_eq_true_iff.mp hcounts).1
  unfold FxDb.isRevaluation upTo transactionIs at hactive
  cases hrow : db.ledger.transactions.get? e.transactionId with
  | none =>
    rw [hrow] at hactive
    cases hactive
  | some row =>
    have hother := (h row (OrderedMap.mem_values_iff.mpr ⟨e.transactionId, hrow⟩)).1
    rw [hrow] at hactive
    simp [hother] at hactive

/-- One currency of an account is within two cents. -/
theorem NothingToRevalue.within (h : NothingToRevalue db request)
    (hkeep : request.autoReverse = false) {account : AccountId} {c : String}
    (hforeign : c ≠ db.functionalCurrency) {rate : ℚ}
    (hrate : db.latestRate request.revaluationDate c = some rate) (hne : rate ≠ 0) :
    |baseSum (db.entriesIn (db.activeForeign request.revaluationDate) account c) -
      db.valueAtRate request.revaluationDate account c| ≤ 2 / 100 := by
  have hclosing : db.closingRate request.revaluationDate c = rate := by
    unfold FxDb.closingRate
    rw [hrate]
    rfl
  have hcode : db.rateOf request.revaluationDate c = rate := by
    unfold FxDb.rateOf
    rw [hrate, Option.filter_some, if_pos (decide_eq_true hne)]
    rfl
  obtain ⟨hsum, hbase⟩ := h.netActive hkeep account c hforeign
  unfold FxDb.valueAtRate
  rw [hclosing]
  by_cases hzero :
      db.foreignSum (db.entriesIn (db.activeForeign request.revaluationDate) account c) = 0
  · rw [hzero, zero_mul, sub_zero]
    exact h.nothingLeft hkeep account c hforeign hzero
  · have hsettled := h.settled account c hforeign (by rw [hsum]; exact hzero)
    rw [hsum, hbase, hcode] at hsettled
    have hround := abs_roundTo_sub_le 2
      (db.foreignSum (db.entriesIn (db.activeForeign request.revaluationDate) account c) * rate)
    rw [abs_le] at hsettled hround ⊢
    norm_num at hround
    constructor <;> linarith [hsettled.1, hsettled.2, hround.1, hround.2]

/-- The books are at the rate. -/
theorem NothingToRevalue.atRate (h : NothingToRevalue db request) (hnone : NoRevaluation db)
    (hrates : HasRates db request.revaluationDate) (hkeep : request.autoReverse = false) :
    BooksAtRate db request.revaluationDate := by
  intro account
  have hempty : baseSum ([] : List LedgerEntry) = 0 := rfl
  rw [hnone.revaluations, hempty, add_zero, foreignBookValue_eq, ← Finset.sum_sub_distrib]
  calc |∑ c ∈ db.currenciesOf request.revaluationDate account,
          (baseSum (db.entriesIn (db.activeForeign request.revaluationDate) account c) -
            db.valueAtRate request.revaluationDate account c)|
      ≤ ∑ c ∈ db.currenciesOf request.revaluationDate account,
          |baseSum (db.entriesIn (db.activeForeign request.revaluationDate) account c) -
            db.valueAtRate request.revaluationDate account c| := Finset.abs_sum_le_sum_abs _ _
    _ ≤ ∑ _c ∈ db.currenciesOf request.revaluationDate account, (2 / 100 : ℚ) := by
        refine Finset.sum_le_sum fun c hc => ?_
        obtain ⟨rate, hrate, hne⟩ := hrates account c hc
        exact h.within hkeep (foreign_of_mem_currenciesOf hc) hrate hne
    _ = 2 / 100 * (db.currenciesOf request.revaluationDate account).card := by
        rw [Finset.sum_const, nsmul_eq_mul, mul_comm]

/-! ## Runs -/

/-- The state after a call; a failed one changes nothing. -/
def FxDb.after (db : FxDb) (call : RevaluationEnv × RevaluationRequest) : FxDb :=
  match db.revalue call.1 call.2 with
  | .ok r => r.1
  | .error _ => db

theorem NothingToRevalue.after (h : NothingToRevalue db request) (hnone : NoRevaluation db) :
    db.after (env, request) = db := by
  unfold FxDb.after
  dsimp only
  rw [revalue_of_settled hnone h.settled_preview]

theorem NothingToRevalue.revalues (h : NothingToRevalue db request) (hnone : NoRevaluation db)
    (hrates : HasRates db request.revaluationDate) : Revalues env db request db where
  succeeds := ⟨_, revalue_of_settled hnone h.settled_preview, nofun⟩
  atRate := h.atRate hnone hrates
  asBefore _ _ _ := rfl

/-- Along every sequence of calls that find nothing to revalue each call succeeds, the books are
at the closing rate, and no balance changes. -/
theorem revalues_of_run {start : FxDb} {calls : List (RevaluationEnv × RevaluationRequest)}
    (hnone : NoRevaluation start) (hrates : ∀ call ∈ calls, HasRates start call.2.revaluationDate)
    (hsettled : ∀ t ∈ transitions FxDb.after start calls, NothingToRevalue t.1 t.2.1.2) :
    ∀ t ∈ transitions FxDb.after start calls, Revalues t.2.1.1 t.1 t.2.1.2 t.2.2 := by
  induction calls with
  | nil => exact nofun
  | cons call rest ih =>
    obtain ⟨hfirst, hrest⟩ := List.forall_mem_cons.mp hsettled
    obtain ⟨hrate, hrates'⟩ := List.forall_mem_cons.mp hrates
    have hsame : start.after call = start := NothingToRevalue.after hfirst hnone
    dsimp only at hfirst
    rw [hsame] at hrest
    refine List.forall_mem_cons.mpr ⟨?_, ?_⟩
    · dsimp only
      rw [hsame]
      exact hfirst.revalues hnone hrate
    · rw [hsame]
      exact ih hrates' hrest

/-! ## A bank account in dollars -/

/-- An account that takes manual journals. -/
def openAccount (code name : String) (normal : NormalBalance) : AccountRow where
  accountCode := code
  accountName := name
  normalBalance := normal
  isActive := true
  allowManualPosting := true
  allowedSources := []
  systemAccountTag := none
  currentBalance := 0

def january (day : ℕ) : IsoDate where
  year := 2026
  month := 1
  day := day
  month_valid := isMonth_one

/-- One side of the payment. -/
def paymentEntry (account : AccountId) (line : ℕ) (debit credit : ℚ) : LedgerEntry where
  transactionId := 10
  accountId := account
  entryType := if 0 < debit then .DEBIT else .CREDIT
  amount := .ofRat (debit + credit)
  debitAmount := .ofRat debit
  creditAmount := .ofRat credit
  description := "Payment in USD"
  lineNumber := line
  entityType := none
  entityId := none
  entryDate := january 10

/-- 100 USD received on 10 January at 3700, and the rate of 31 January. -/
def dollarBank (closing : ℚ) : FxDb where
  ledger :=
    { accounts := ((((OrderedMap.empty.set 1 (openAccount "1035" "USD bank" .DEBIT)).set 2
        (openAccount "4000" "Sales" .CREDIT)).set 3 (openAccount "4300" "FX gain" .CREDIT)).set 4
          (openAccount "4310" "FX loss" .CREDIT))
      transactions := OrderedMap.empty.set 10
        { transactionNumber := 1
          transactionDate := january 10
          referenceType := "RECEIPT"
          referenceId := 7
          referenceNumber := "RCPT-7"
          description := "Payment in USD"
          totalDebitAmount := .ofRat 370000
          totalCreditAmount := .ofRat 370000
          status := .POSTED
          reversesTransactionId := none
          reversedByTransactionId := none
          isReversed := false
          idempotencyKey := "receipt-7"
          createdBy := "u1"
          postingSource := some .MANUAL_JOURNAL }
      entries := [paymentEntry 1 1 370000 0, paymentEntry 2 2 0 370000]
      periods := .empty
      periodBalances := .empty
      events := .empty
      nextId := 20
      codes_nodup := by decide +kernel }
  currencies := OrderedMap.empty.set (10, 1) ⟨some "USD", some (.ofRat 100)⟩
  exchangeRates :=
    [⟨"USD", .ofRat 3700, january 10⟩, ⟨"USD", .ofRat closing, january 31⟩]
  functionalCurrency := "UGX"

def monthEnd (autoReverse : Bool) : RevaluationEnv × RevaluationRequest :=
  (⟨fun _ => 0, .enforce, 0⟩, ⟨january 31, "u1", autoReverse⟩)

/-- What is in dollars. -/
def dollars : LedgerEntry := paymentEntry 1 1 370000 0

/-- Whatever counts the dollars finds them in one place. -/
theorem dollarBank_entriesIn (closing : ℚ) {counts : LedgerEntry → Bool}
    (hcounts : counts dollars = true) (account : AccountId) {c : String} (hc : c ≠ "UGX") :
    (dollarBank closing).entriesIn counts account c =
      if account = 1 ∧ c = "USD" then [dollars] else [] := by
  have hfirst : ((dollarBank closing).currencyOf dollars).transactionCurrency = some "USD" := rfl
  have hsecond : ((dollarBank closing).currencyOf (paymentEntry 2 2 0 370000)).transactionCurrency =
      some "UGX" := rfl
  have haccount : dollars.accountId = 1 := rfl
  have hother : decide (some "UGX" = some c) = false := by
    rw [decide_eq_false_iff_not, Option.some.injEq]
    exact Ne.symm hc
  unfold FxDb.entriesIn
  change [dollars, paymentEntry 2 2 0 370000].filter _ = _
  rw [List.filter_cons, List.filter_cons, hfirst, hsecond, haccount, hother, hcounts,
    List.filter_nil]
  simp only [Bool.true_and, Bool.and_false, Bool.false_eq_true, if_false, Bool.and_eq_true,
    decide_eq_true_eq, Option.some.injEq]
  exact if_congr ⟨fun h => ⟨h.1.symm, h.2.symm⟩, fun h => ⟨h.1.symm, h.2.symm⟩⟩ rfl rfl

theorem dollarBank_noRevaluation (closing : ℚ) : NoRevaluation (dollarBank closing) := by
  intro row hrow
  have hkey : row.referenceType = "RECEIPT" ∧ row.idempotencyKey = "receipt-7" := by
    rcases List.mem_singleton.mp hrow with rfl
    exact ⟨rfl, rfl⟩
  rw [hkey.1, hkey.2]
  refine ⟨by decide, fun date hsame => ?_⟩
  have hhead := congrArg (fun text : String => text.toList.head?) hsame
  unfold revaluationKey at hhead
  simp only [String.toList_append] at hhead
  cases hhead

theorem dollarBank_hasRates : HasRates (dollarBank 3700) (january 31) := by
  intro account c hc
  obtain ⟨e, he, rfl⟩ := List.mem_map.mp (List.mem_toFinset.mp hc)
  obtain ⟨hentry, hactive⟩ := List.mem_filter.mp he
  rcases List.mem_cons.mp hentry with rfl | hlast
  · exact ⟨3700, by decide +kernel, by norm_num⟩
  · rcases List.mem_singleton.mp hlast with rfl
    have hdomestic : (dollarBank 3700).isForeign (paymentEntry 2 2 0 370000) = false := by
      decide +kernel
    have hforeign := (Bool.and_eq_true_iff.mp (Bool.and_eq_true_iff.mp
      (Bool.and_eq_true_iff.mp hactive).1).1).2
    rw [hdomestic] at hforeign
    cases hforeign

theorem dollarBank_settled (autoReverse : Bool) :
    NothingToRevalue (dollarBank 3700) (monthEnd autoReverse).2 := by
  have hcounted : (dollarBank 3700).counted (january 31) dollars = true := by decide +kernel
  have hactive : (dollarBank 3700).activeForeign (january 31) dollars = true := by decide +kernel
  have hentries := fun (account : AccountId) (c : String) (hc : c ≠ "UGX") =>
    (dollarBank_entriesIn 3700 hcounted account hc).trans
      (dollarBank_entriesIn 3700 hactive account hc).symm
  have hempty : (dollarBank 3700).foreignSum [] = 0 := rfl
  have hnothing : baseSum [] = 0 := rfl
  have hdate : (monthEnd autoReverse).2.revaluationDate = january 31 := rfl
  refine ⟨fun account c hc _ => ?_, fun _ account c hc => ?_, fun _ account c hc hzero => ?_⟩
  · rw [hdate, dollarBank_entriesIn 3700 hcounted account hc]
    split
    · rename_i hall
      rw [hall.2]
      decide +kernel
    · rw [hempty, hnothing, zero_mul, roundTo_zero, sub_zero, abs_zero]
      norm_num
  · rw [hdate, hentries account c hc]
    exact ⟨rfl, rfl⟩
  · rw [hdate, dollarBank_entriesIn 3700 hactive account hc] at hzero ⊢
    split at hzero
    · exact absurd hzero (by decide +kernel)
    · rename_i hnone
      rw [if_neg hnone, hnothing, abs_zero]
      norm_num

/-- A call at the end of the month, and another that would reverse. -/
def twoMonthEnds : List (RevaluationEnv × RevaluationRequest) := [monthEnd false, monthEnd true]

theorem dollarBank_twoMonthEnds : NoRevaluation (dollarBank 3700) ∧
    ∀ t ∈ transitions FxDb.after (dollarBank 3700) twoMonthEnds,
      Revalues t.2.1.1 t.1 t.2.1.2 t.2.2 := by
  have hsame : ∀ autoReverse, (dollarBank 3700).after (monthEnd autoReverse) = dollarBank 3700 :=
    fun autoReverse => (dollarBank_settled autoReverse).after (dollarBank_noRevaluation 3700)
  refine ⟨dollarBank_noRevaluation 3700,
    revalues_of_run (dollarBank_noRevaluation 3700) (fun call hcall => ?_) fun t ht => ?_⟩
  · rcases List.mem_cons.mp hcall with rfl | hlast
    · exact dollarBank_hasRates
    · rcases List.mem_singleton.mp hlast with rfl
      exact dollarBank_hasRates
  · unfold twoMonthEnds transitions transitions transitions at ht
    rw [hsame] at ht
    rcases List.mem_cons.mp ht with rfl | hlast
    · exact dollarBank_settled false
    · rcases List.mem_singleton.mp hlast with rfl
      exact dollarBank_settled true

/-- At 3800 the 100 USD have gained 10000, and neither call can post it. -/
theorem dollarBank_not_revalued :
    NoRevaluation (dollarBank 3800) ∧
      ((dollarBank 3800).preview (january 31)).map (·.unrealizedGainLoss) = [10000] ∧
      (∀ autoReverse, ((dollarBank 3800).revalue (monthEnd autoReverse).1
        (monthEnd autoReverse).2).map (fun _ => ()) =
          .error (.ledger (.database "invalid input syntax for type uuid"))) ∧
      ∀ autoReverse db', ¬ Revalues (monthEnd autoReverse).1 (dollarBank 3800)
        (monthEnd autoReverse).2 db' := by
  refine ⟨dollarBank_noRevaluation 3800, by decide +kernel, by decide +kernel,
    fun autoReverse db' h => ?_⟩
  obtain ⟨result, hok, -⟩ := h.succeeds
  refine revalue_of_adjustments (dollarBank_noRevaluation 3800) ?_ (db', result) hok
  change adjustments ((dollarBank 3800).preview (january 31)) ≠ []
  intro hnone
  have hone : (adjustments ((dollarBank 3800).preview (january 31))).length = 1 := by
    decide +kernel
  rw [hnone] at hone
  cases hone

end SmartErpPos.Currency
